import Mathlib.Tactic
import OptionChainSimulator.Domain.BoundedSums
import OptionChainSimulator.Domain.WalkExtension

namespace OptionChainSimulator.Domain

open Foundation Utils

/-! Conditions on the parameters of a walk, its first price, its size and its draws, under which it
neither panics nor falls to zero. -/

namespace MachineWalker

open Walker

variable {Chain : Type}

section Runs

variable {library : DecimalLibrary Chain} {bounds : WalkBounds} {dt volatility start : Positive}
  {drift reach : ℚ} {moves : ℕ} {draws : Draws}

theorem brownianTurn_of_fits {sigmaAbs sqrtDt : Decimal} {state : Decimal × Draws}
    (fits : BrownianFits library dt drift sigmaAbs sqrtDt state) :
    brownianTurn library dt drift sigmaAbs sqrtDt state =
      .ok (.ofDecimal (max (brownianMove library dt drift sigmaAbs sqrtDt state) 0),
        brownianMove library dt drift sigmaAbs sqrtDt state, state.2.tail) := by
  obtain ⟨scaled, diffusion, driftTerm, change, moved⟩ := fits
  simp only [brownianTurn, normalSample, keep_bind_eq_ok]
  exact ⟨scaled, diffusion, driftTerm, change, moved, rfl⟩

theorem DriftedWithin.first {gain first : ℚ} {changes : ℕ → ℚ} {loss : ℚ} (nonneg : 0 ≤ first) :
    DriftedWithin gain first (drifted changes loss first) draws 0 (first, draws) := by
  refine ⟨?_, ?_, rfl⟩
  · rw [risen_zero, abs_of_nonneg nonneg]
  · rw [drifted_zero]

section Brownian

variable {first sigmaAbs exactSigma sigma sqrtDt : ℚ}

/-- The states of a Brownian walk stay near the exact sums. -/
theorem brownian_held (rounds : library.Rounds) (positive : 0 ≤ first)
    (near : |sigmaAbs - exactSigma| ≤ bounds.error) (volatile : |sigmaAbs| ≤ sigma)
    (bounded : BrownianBounded bounds |drift * dt.value| sigma |sqrtDt| first moves)
    (normals : NormalsWithin bounds.normals moves draws) :
    ∀ step ≤ moves, ∀ state,
      reached (brownianTurn library dt drift sigmaAbs sqrtDt) (first, draws) step = .ok state →
        DriftedWithin (bounds.change |drift * dt.value| (bounds.scaled sigma |sqrtDt|) +
            bounds.error) first
          (drifted (fun turn => drift * dt.value + exactSigma * sqrtDt * (draws.get turn).normal)
            (brownianLoss bounds |sqrtDt|) first) draws step state ∧
        state.1 ≤
          drifted (fun turn => drift * dt.value + exactSigma * sqrtDt * (draws.get turn).normal)
            (-brownianLoss bounds |sqrtDt|) first step := by
  apply holds_of_reached
  · refine ⟨.first positive, ?_⟩
    rw [drifted_zero]
  · intro step within state held value after turned
    obtain ⟨-, next⟩ :=
      brownianTurn_bounded rounds positive near volatile bounded normals within held.1
    have high := brownianMove_le rounds positive near volatile bounded normals within held.1 held.2
    simp only [brownianTurn, normalSample, keep_bind_eq_ok, pure_eq_ok, Prod.mk.injEq] at turned
    obtain ⟨-, -, -, -, -, -, rfl, rfl⟩ := turned
    exact ⟨next, high⟩

theorem brownian_turns (rounds : library.Rounds) (positive : 0 ≤ first)
    (near : |sigmaAbs - exactSigma| ≤ bounds.error) (volatile : |sigmaAbs| ≤ sigma)
    (bounded : BrownianBounded bounds |drift * dt.value| sigma |sqrtDt| first moves)
    (normals : NormalsWithin bounds.normals moves draws) :
    EveryTurn (brownianTurn library dt drift sigmaAbs sqrtDt) moves (first, draws) fun state =>
      BrownianFits library dt drift sigmaAbs sqrtDt state ∧ ∃ turns < moves,
        drifted (fun turn => drift * dt.value + exactSigma * sqrtDt * (draws.get turn).normal)
          (brownianLoss bounds |sqrtDt|) first (turns + 1) ≤
            brownianMove library dt drift sigmaAbs sqrtDt state := by
  intro step within state arrived
  obtain ⟨held, -⟩ :=
    brownian_held rounds positive near volatile bounded normals step within.le state arrived
  obtain ⟨fits, next⟩ :=
    brownianTurn_bounded rounds positive near volatile bounded normals within held
  exact ⟨fits, step, within, next.least⟩

/-- Every move of the walk is made, and ends below the exact sum and the roundings. -/
theorem brownian_moves (rounds : library.Rounds) (positive : 0 ≤ first)
    (near : |sigmaAbs - exactSigma| ≤ bounds.error) (volatile : |sigmaAbs| ≤ sigma)
    (bounded : BrownianBounded bounds |drift * dt.value| sigma |sqrtDt| first moves)
    (normals : NormalsWithin bounds.normals moves draws) :
    ∀ step < moves, ∃ state,
      reached (brownianTurn library dt drift sigmaAbs sqrtDt) (first, draws) step = .ok state ∧
        brownianMove library dt drift sigmaAbs sqrtDt state ≤
          drifted (fun turn => drift * dt.value + exactSigma * sqrtDt * (draws.get turn).normal)
            (-brownianLoss bounds |sqrtDt|) first (step + 1) := by
  intro step within
  obtain ⟨state, arrived⟩ := exists_reached (fun turn before state arrived =>
    ⟨_, _, brownianTurn_of_fits (brownian_turns rounds positive near volatile bounded normals turn
      before state arrived).1⟩) step within.le
  obtain ⟨held, below⟩ :=
    brownian_held rounds positive near volatile bounded normals step within.le state arrived
  exact ⟨state, arrived,
    brownianMove_le rounds positive near volatile bounded normals within held below⟩

end Brownian

section MeanReversion

variable {mu theta sqrtDt : Positive} {first volatile exactVolatility : ℚ}

end MeanReversion

theorem MovedWithin.first {share gain first : ℚ} {perMove : ℕ} (nonneg : 0 ≤ first)
    (normals : NormalsWithin bounds.normals (perMove * moves) draws) :
    MovedWithin bounds share gain first perMove moves 0 first draws := by
  refine ⟨?_, ?_, normals⟩
  · rw [risen_zero, abs_of_nonneg nonneg]
  · intro _ _
    rw [fallen_zero]

end Runs

section Kernels

variable (library : DecimalLibrary Chain) (bounds : WalkBounds)

/-- The highest volatility of the custom model. -/
def highestVolatility (volatility vov volSpeed volMean dt sqrtDt : Positive) (moves : ℕ) : ℚ :=
  risen 1 (ouGain bounds volMean volSpeed dt sqrtDt (vov.value + bounds.error)) volatility.value
    moves

def jumpShare (volatility sqrtDt : Positive) : ℚ :=
  volatility.value * sqrtDt.value * bounds.normals

def customShare (highest : ℚ) (sqrtDt : Positive) : ℚ := bounds.normals * highest * sqrtDt.value

/-- The parameters, the first price and the size of a walk leave the room it is reckoned with. -/
def WalkBounded (size : ℕ) (start : Positive) : WalkType → Prop
  | .brownian dt drift volatility =>
      let sigma := volatility.value * start.value
      sigma ≤ bounds.top ∧ ∀ sqrtDt,
        sqrtDtDec library.toWalkLibrary "simulation::brownian::sqrt_dt" dt = .ok sqrtDt →
          BrownianBounded bounds |drift * dt.value| (sigma + bounds.error) |sqrtDt| start.value
            (size - 1)
  | .geometricBrownian dt drift volatility =>
      bounds.normals * volatility.value ≤ bounds.top ∧
        bounds.Exponential library (bounds.change |drift * dt.value|
          (bounds.noise volatility.value (library.sqrtPositive dt).value)) start (size - 1)
  | .logReturns dt expectedReturn volatility autocorrelation =>
      bounds.normals * volatility.value ≤ bounds.top ∧ ∀ sqrtDt,
        sqrtDtDec library.toWalkLibrary "simulation::log_returns::sqrt_dt" dt = .ok sqrtDt →
          bounds.Exponential library (autocorrelated bounds autocorrelation
            (bounds.change |expectedReturn * dt.value| (bounds.noise volatility.value |sqrtDt|))
            (size - 1)) start (size - 1)
  | .meanReverting dt volatility speed mean =>
      let sigma := volatility.value * mean.value
      sigma ≤ bounds.top ∧ OuBounded bounds mean speed dt (library.sqrtPositive dt)
        (sigma + bounds.error) start.value (size - 1)
  | .jumpDiffusion dt drift volatility intensity jumpMean jumpVolatility =>
      let sqrtDt := library.sqrtPositive dt
      intensity.value * dt.value ≤ bounds.top ∧ JumpBounded bounds volatility jumpVolatility sqrtDt
        (risen (1 + jumpShare bounds volatility sqrtDt)
          (jumpGain bounds |drift * dt.value| jumpMean jumpVolatility sqrtDt) start.value (size - 1))
  | .garch dt drift volatility alpha beta =>
      let variance := volatility.value * volatility.value
      let weight := |1 - alpha.value - beta.value| + 2 * bounds.error
      let omega := (variance + bounds.error) * weight
      1 + alpha.value + beta.value + bounds.error ≤ bounds.top ∧ variance ≤ bounds.top ∧
        variance + bounds.error ≤ bounds.variance ∧ omega ≤ bounds.top ∧ ∀ sqrtDt,
          sqrtDtDec library.toWalkLibrary "simulation::garch::sqrt_dt" dt = .ok sqrtDt →
            GarchBounded bounds library |drift * dt.value| alpha beta (omega + bounds.error) |sqrtDt|
              start (size - 1)
  | .heston dt drift volatility kappa theta xi rho =>
      let variance := volatility.value * volatility.value
      variance ≤ bounds.top ∧ ∀ dtSqrt, library.sqrt dt.value = some dtSqrt → ∀ oneMinus,
        library.sqrt (library.round (1 - library.round (rho * rho))) = some oneMinus →
          HestonBounded bounds library |drift * dt.value| kappa theta xi dt |dtSqrt|
            (correlated bounds |rho| |oneMinus|) (variance + bounds.error) start (size - 1)
  | .custom dt drift volatility vov volSpeed volMean =>
      let sqrtDt := library.sqrtPositive dt
      let highest := highestVolatility bounds volatility vov volSpeed volMean dt sqrtDt (size - 1)
      OuBounded bounds volMean volSpeed dt sqrtDt (vov.value + bounds.error) volatility.value
        (size - 1) ∧
      CustomBounded bounds highest (risen (1 + customShare bounds highest sqrtDt)
        (customGain bounds |drift * dt.value| sqrtDt) start.value (size - 1))
  | .telegraph dt drift volatility lambdaUp lambdaDown volMultiplierUp volMultiplierDown =>
      TelegraphBounded bounds library |drift * dt.value|
        (max lambdaUp.value lambdaDown.value * dt.value) volatility
        (max (volMultiplierUp.getD .one).value (volMultiplierDown.getD .one).value)
        (library.sqrtPositive dt) start (size - 1)
  | .historical .. => True

variable {library bounds} {draws : Draws} {start : Positive} {walk : WalkType}

theorem round_near_self {exact : ℚ} (rounds : library.Rounds) (nonneg : 0 ≤ exact)
    (fits : exact ≤ bounds.top) :
    |library.round exact - exact| ≤ bounds.error ∧ |library.round exact| ≤ exact + bounds.error :=
  have small := (abs_of_nonneg nonneg).le
  ⟨bounds.near rounds (small.trans fits), (bounds.kept rounds small fits).2⟩

/-- A Brownian walk that stays above zero has all its exact sums above what the roundings can make
of zero. -/
theorem brownian_sums {dt volatility : Positive} {drift sqrtDt : Decimal} {size : ℕ}
    (rounds : library.Rounds)
    (rooted : sqrtDtDec library.toWalkLibrary "simulation::brownian::sqrt_dt" dt = .ok sqrtDt)
    (normals : NormalsWithin bounds.normals (size - 1) draws)
    (bounded : WalkBounded library bounds size start (.brownian dt drift volatility))
    (above : KeepsAboveZero library draws size start (.brownian dt drift volatility)) :
    ∀ turns < size - 1, 0 < drifted (fun turn => drift * dt.value +
        volatility.value * start.value * sqrtDt * (draws.get turn).normal)
      (-brownianLoss bounds |sqrtDt|) start.value (turns + 1) := by
  obtain ⟨near, volatile⟩ := round_near_self rounds (mul_nonneg volatility.nonneg start.nonneg)
    bounded.1
  intro turns within
  obtain ⟨state, arrived, high⟩ := brownian_moves rounds start.nonneg near volatile
    (bounded.2 sqrtDt rooted) normals turns within
  exact (above sqrtDt rooted turns within state arrived).trans_le high

end Kernels

end MachineWalker

end OptionChainSimulator.Domain
