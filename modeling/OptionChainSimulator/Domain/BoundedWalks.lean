import Mathlib.Tactic
import OptionChainSimulator.Domain.WalkBounds

namespace OptionChainSimulator.Domain

open Foundation Utils

/-! From the bounds a walk is reckoned with: no kernel panics, and how far its prices fall. -/

namespace MachineWalker

open Walker

section Runs

variable {σ α : Type} {turn : σ → Except Abort (α × σ)} {turns : ℕ} {state : σ}
  {holds : ℕ → σ → Prop} {fits : σ → Prop}

/-- What every turn keeps holds before each. -/
theorem holds_of_reached (start : holds 0 state)
    (kept : ∀ step < turns, ∀ before, holds step before → ∀ value after,
      turn before = .ok (value, after) → holds (step + 1) after) :
    ∀ step ≤ turns, ∀ before, reached turn state step = .ok before → holds step before := by
  intro step
  induction step with
  | zero =>
      intro _ before arrived
      cases arrived
      exact start
  | succ step ih =>
      intro within before arrived
      rw [reached] at arrived
      obtain ⟨earlier, arriving, arrived⟩ := bind_eq_ok.mp arrived
      obtain ⟨⟨value, after⟩, turned, arrived⟩ := bind_eq_ok.mp arrived
      cases arrived
      exact kept step within earlier (ih (Nat.le_of_succ_le within) earlier arriving) value _ turned

/-- Turns that all succeed reach every state. -/
theorem exists_reached (succeeds : EveryTurn turn turns state fun before =>
      ∃ value after, turn before = .ok (value, after)) :
    ∀ step ≤ turns, ∃ before, reached turn state step = .ok before := by
  intro step
  induction step with
  | zero =>
      intro _
      exact ⟨state, rfl⟩
  | succ step ih =>
      intro within
      obtain ⟨before, arrived⟩ := ih (Nat.le_of_succ_le within)
      obtain ⟨value, after, turned⟩ := succeeds step within before arrived
      exact ⟨after, bind_eq_ok.mpr ⟨before, arrived, bind_eq_ok.mpr ⟨_, turned, rfl⟩⟩⟩

end Runs

section Turns

variable {Chain : Type} {library : DecimalLibrary Chain} {bounds : WalkBounds}
  {dt volatility start : Positive} {drift reach exponent price : ℚ} {moves step perMove : ℕ}
  {lowest highest : ℕ → ℚ} {draws later : Draws}

/-- A price between the bounds of so many moves, and the draws of the moves to come. -/
structure PricedWithin (bounds : WalkBounds) (lowest highest : ℕ → ℚ) (perMove moves step : ℕ)
    (price : ℚ) (draws : Draws) : Prop where
  nonneg : 0 ≤ price
  least : lowest step ≤ price
  most : price ≤ highest step
  normals : NormalsWithin bounds.normals (perMove * (moves - step)) draws

theorem PricedWithin.first (normals : NormalsWithin bounds.normals (perMove * moves) draws) :
    PricedWithin bounds (bounds.lowest start) (bounds.highest start) perMove moves 0 start.value
      draws := by
  refine ⟨start.nonneg, ?_, ?_, normals⟩
  · rw [WalkBounds.lowest, fallen_zero]
  · rw [WalkBounds.highest, risen_zero]

theorem PricedWithin.next {left : ℕ}
    (held : PricedWithin bounds lowest highest perMove moves step price draws)
    (within : step < moves) (same : perMove * (moves - (step + 1)) = left) :
    NormalsWithin bounds.normals (perMove + left) draws := by
  have count : moves - step = moves - (step + 1) + 1 := by omega
  rw [← same, add_comm, ← Nat.mul_succ, Nat.succ_eq_add_one, ← count]
  exact held.normals

/-- A move that multiplies by an exponential keeps a price within the bounds. -/
theorem PricedWithin.exponential (rounds : library.Rounds)
    (exponential : bounds.Exponential library reach start moves) (within : step < moves)
    (held : PricedWithin bounds (bounds.lowest start) (bounds.highest start) perMove moves step price
      draws)
    (small : |exponent| ≤ reach)
    (normals : NormalsWithin bounds.normals (perMove * (moves - (step + 1))) later) :
    library.expFits exponent = true ∧ InRange (library.round (price * library.exp exponent)) ∧
      PricedWithin bounds (bounds.lowest start) (bounds.highest start) perMove moves (step + 1)
        (library.round (price * library.exp exponent)) later := by
  have exact := bounds.error_nonneg
  have rising : bounds.growth * bounds.highest start step + bounds.error ≤
      bounds.highest start (step + 1) := risen_succ bounds.growing exact
  have last : bounds.highest start (step + 1) ≤ bounds.highest start moves :=
    risen_mono bounds.growing exact start.nonneg within
  have falling : bounds.lowest start (step + 1) ≤
      bounds.decay * bounds.lowest start step - bounds.error := fallen_succ bounds.shrinking exact
  have kept := mul_le_mul_of_nonneg_left held.least bounds.decay_nonneg
  obtain ⟨taken, ranged, least, nonneg, most⟩ := bounds.product_kept rounds
    exponential.exponentials small held.nonneg held.most (rising.trans (last.trans exponential.fits))
  exact ⟨taken, ranged, nonneg, by linarith, most.trans rising, normals⟩

/-- The part of a change that is diffusion is no more than what the whole may be. -/
theorem diffusion_le {driftBound diffusion : ℚ} (nonneg : 0 ≤ driftBound)
    (fits : bounds.change driftBound diffusion ≤ bounds.top) : diffusion ≤ bounds.top := by
  have exact := bounds.error_nonneg
  unfold WalkBounds.change at fits
  linarith

/-- The reach of the log return of so many turns, each carrying a part of the one before it. -/
def autocorrelated (bounds : WalkBounds) (autocorrelation : Option Decimal) (reach : ℚ)
    (turns : ℕ) : ℚ :=
  match autocorrelation with
  | none => reach
  | some ac => (reach + 2 * bounds.error) * ∑ turn ∈ Finset.range turns, |ac| ^ turn

/-- Bounds that a turn of the variance recurrence keeps, its innovation within `shock`. -/
structure GarchBounded (bounds : WalkBounds) (library : DecimalLibrary Chain) (drift : ℚ)
    (alpha beta : Positive) (omega sqrtDt : ℚ) (start : Positive) (moves : ℕ) : Prop where
  rooted : ∀ variance : Positive, variance.value ≤ bounds.variance →
    (library.sqrtPositive variance).value ≤ bounds.root
  noisy : bounds.normals * bounds.root ≤ bounds.top
  squared : bounds.noise bounds.root sqrtDt * bounds.noise bounds.root sqrtDt ≤ bounds.top
  varied : bounds.variance ≤ bounds.top
  stays : omega + (alpha.value * (bounds.noise bounds.root sqrtDt *
      bounds.noise bounds.root sqrtDt + bounds.error) + bounds.error) + bounds.error +
      (beta.value * bounds.variance + bounds.error) + bounds.error ≤ bounds.variance
  exponential : bounds.Exponential library (bounds.change drift (bounds.noise bounds.root sqrtDt))
    start moves

/-- The reach of the second normal sample of a move, correlated with the first. -/
def correlated (bounds : WalkBounds) (rho oneMinus : ℚ) : ℚ :=
  rho * bounds.normals + bounds.error + (oneMinus * bounds.normals + bounds.error) + bounds.error

/-- The reach of the noise of the variance. -/
def varianceShock (bounds : WalkBounds) (xi : Positive) (sqrtDt second : ℚ) : ℚ :=
  ((xi.value * bounds.root + bounds.error) * second + bounds.error) * sqrtDt + bounds.error

/-- The reach of the pull of a variance that is so far from its mean. -/
def variancePull (bounds : WalkBounds) (kappa dt : Positive) (gap : ℚ) : ℚ :=
  (kappa.value * (gap + bounds.error) + bounds.error) * dt.value + bounds.error

/-- What a move adds to the variance at most. -/
def varianceGain (bounds : WalkBounds) (kappa theta xi dt : Positive) (sqrtDt second : ℚ) : ℚ :=
  variancePull bounds kappa dt theta.value + bounds.error + varianceShock bounds xi sqrtDt second +
    bounds.error

structure HestonBounded (bounds : WalkBounds) (library : DecimalLibrary Chain) (drift : ℚ)
    (kappa theta xi dt : Positive) (sqrtDt second first : ℚ) (start : Positive) (moves : ℕ) :
    Prop where
  drawn : second ≤ bounds.top
  reached : risen 1 (varianceGain bounds kappa theta xi dt sqrtDt second) first moves ≤
    bounds.variance
  rooted : ∀ variance root, |variance| ≤ bounds.variance + 2 * bounds.error →
    library.sqrt variance = some root → |root| ≤ bounds.root
  apart : theta.value + bounds.variance ≤ bounds.top
  pulled : kappa.value * (theta.value + bounds.variance + bounds.error) ≤ bounds.top
  volatile : xi.value * bounds.root ≤ bounds.top
  shocked : (xi.value * bounds.root + bounds.error) * second ≤ bounds.top
  moved : bounds.variance + variancePull bounds kappa dt (theta.value + bounds.variance) +
    bounds.error + varianceShock bounds xi sqrtDt second ≤ bounds.top
  doubled : 2 * bounds.variance ≤ bounds.top
  noisy : bounds.normals * bounds.root ≤ bounds.top
  exponential : bounds.Exponential library (bounds.change drift (bounds.noise bounds.root sqrtDt))
    start moves

section Heston

variable {kappa theta xi : Positive} {rho dtSqrt oneMinus first varianceSqrt second : Decimal}
  {state : HestonState}

end Heston

structure TelegraphBounded (bounds : WalkBounds) (library : DecimalLibrary Chain)
    (drift intensity : ℚ) (volatility : Positive) (multiplier : ℚ) (sqrtDt start : Positive)
    (moves : ℕ) : Prop where
  intense : intensity ≤ bounds.top
  switches : ∀ rate, |rate| ≤ intensity + bounds.error →
    library.expFits rate = true ∧ 1 + |library.exp rate| ≤ bounds.top
  sampled : bounds.normals + 1 ≤ bounds.top
  volatile : volatility.value * multiplier ≤ bounds.top
  rooted : (volatility.value * multiplier + bounds.error) * sqrtDt.value ≤ bounds.top
  exponential : bounds.Exponential library (bounds.change drift
    (bounds.scaled (volatility.value * multiplier + bounds.error) sqrtDt.value)) start moves

end Turns

end MachineWalker

end OptionChainSimulator.Domain
