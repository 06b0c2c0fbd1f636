import Mathlib.Tactic
import OptionChainSimulator.Domain.BoundedWalks

namespace OptionChainSimulator.Domain

open Foundation Utils

/-! The models that add their changes to the price, from the bounds a walk is reckoned with. -/

namespace MachineWalker

open Walker

variable {Chain : Type} {library : DecimalLibrary Chain} {bounds : WalkBounds}
  {dt volatility : Positive} {drift price : ℚ} {moves step : ℕ} {lowest : ℕ → ℚ} {draws : Draws}

section Sums

variable {start sigmaAbs sqrtDt sigma : ℚ} {state : Decimal × Draws}

/-- What the roundings of a Brownian move take at most. -/
def brownianLoss (bounds : WalkBounds) (sqrtDt : ℚ) : ℚ :=
  bounds.change 0 (bounds.scaled bounds.error sqrtDt) + bounds.error

structure BrownianBounded (bounds : WalkBounds) (drift sigma sqrtDt start : ℚ) (moves : ℕ) :
    Prop where
  rooted : sigma * sqrtDt ≤ bounds.top
  fits : risen 1 (bounds.change drift (bounds.scaled sigma sqrtDt) + bounds.error) start moves ≤
    bounds.top

/-- What the changes of the draws leave of a first price. -/
structure DriftedWithin (gain start : ℚ) (lowest : ℕ → ℚ) (draws : Draws) (step : ℕ)
    (state : Decimal × Draws) : Prop where
  most : |state.1| ≤ risen 1 gain start step
  least : lowest step ≤ state.1
  drawn : state.2 = draws.drop step

theorem DriftedWithin.normal {gain : ℚ} (held : DriftedWithin gain start lowest draws step state)
    (normals : NormalsWithin bounds.normals moves draws) (within : step < moves) :
    state.2.head = draws.get step ∧ |state.2.head.normal| ≤ bounds.normals := by
  have same : state.2.head = draws.get step := by
    rw [held.drawn, Stream'.head_drop]
  exact ⟨same, same ▸ normals step within⟩

/-- The change of a Brownian move is near the exact one. -/
theorem brownianChange_near {exactSigma normal : ℚ} (rounds : library.Rounds)
    (near : |sigmaAbs - exactSigma| ≤ bounds.error) (volatile : |sigmaAbs| ≤ sigma)
    (small : |normal| ≤ bounds.normals) (rooted : sigma * |sqrtDt| ≤ bounds.top)
    (fits : bounds.change |drift * dt.value| (bounds.scaled sigma |sqrtDt|) ≤ bounds.top) :
    |library.round (library.round (drift * dt.value) +
        library.round (library.round (sigmaAbs * sqrtDt) * normal)) -
      (drift * dt.value + exactSigma * sqrtDt * normal)| ≤
      bounds.change 0 (bounds.scaled bounds.error |sqrtDt|) := by
  have exact := bounds.error_nonneg
  have some_root := abs_nonneg sqrtDt
  have some_sigma := (abs_nonneg _).trans volatile
  have drawn := bounds.normals_nonneg
  have diffusing := diffusion_le (abs_nonneg (drift * dt.value)) fits
  have moving := abs_nonneg (drift * dt.value)
  have product : |sigmaAbs * sqrtDt| ≤ sigma * |sqrtDt| := by
    rw [abs_mul]
    exact mul_le_mul_of_nonneg_right volatile some_root
  have rooting : |library.round (sigmaAbs * sqrtDt) - exactSigma * sqrtDt| ≤
      bounds.error * |sqrtDt| + bounds.error := by
    apply bounds.round_near rounds product rooted
    rw [← sub_mul, abs_mul]
    exact mul_le_mul_of_nonneg_right near some_root
  have scaled : |library.round (sigmaAbs * sqrtDt) * normal| ≤
      (sigma * |sqrtDt| + bounds.error) * bounds.normals := by
    rw [abs_mul]
    exact mul_le_mul (bounds.kept rounds product rooted).2 small (abs_nonneg _) (by positivity)
  have diffusion : |library.round (library.round (sigmaAbs * sqrtDt) * normal) -
      exactSigma * sqrtDt * normal| ≤ bounds.scaled bounds.error |sqrtDt| := by
    apply bounds.round_near rounds scaled (by unfold WalkBounds.scaled at diffusing; linarith)
    rw [← sub_mul, abs_mul]
    exact mul_le_mul rooting small (abs_nonneg _) (by positivity)
  have diffused := (bounds.scaled_kept rounds volatile (le_refl |sqrtDt|) small rooted diffusing).2.2
  have scaling := (abs_nonneg _).trans diffused
  unfold WalkBounds.change at fits ⊢
  have drift_le : |drift * dt.value| ≤ bounds.top := by linarith
  have drifting := bounds.near rounds drift_le
  have drifted := (bounds.kept rounds (le_refl |drift * dt.value|) drift_le).2
  apply bounds.round_near rounds ((abs_add_le _ _).trans (add_le_add drifted diffused))
  · linarith
  · calc |library.round (drift * dt.value) +
            library.round (library.round (sigmaAbs * sqrtDt) * normal) -
          (drift * dt.value + exactSigma * sqrtDt * normal)|
        = |(library.round (drift * dt.value) - drift * dt.value) +
            (library.round (library.round (sigmaAbs * sqrtDt) * normal) -
              exactSigma * sqrtDt * normal)| := by
          congr 1
          ring
      _ ≤ bounds.error + bounds.scaled bounds.error |sqrtDt| :=
          (abs_add_le _ _).trans (add_le_add drifting diffusion)
      _ = 0 + bounds.error + bounds.scaled bounds.error |sqrtDt| := by rw [zero_add]

/-- The change is formed in range, and leaves room for the price before the move. -/
theorem brownianChange_kept {normal : ℚ} (rounds : library.Rounds) (positive : 0 ≤ start)
    (volatile : |sigmaAbs| ≤ sigma)
    (bounded : BrownianBounded bounds |drift * dt.value| sigma |sqrtDt| start moves)
    (small : |normal| ≤ bounds.normals) (within : step < moves) :
    let scaled := library.round (sigmaAbs * sqrtDt)
    let diffusion := library.round (scaled * normal)
    let change := library.round (library.round (drift * dt.value) + diffusion)
    let most := bounds.change |drift * dt.value| (bounds.scaled sigma |sqrtDt|)
    (InRange scaled ∧ InRange diffusion ∧ InRange (library.round (drift * dt.value)) ∧
      InRange change) ∧ |change| ≤ most ∧ most ≤ bounds.top ∧
      risen 1 (most + bounds.error) start step + most ≤ bounds.top ∧
      risen 1 (most + bounds.error) start step + (most + bounds.error) ≤
        risen 1 (most + bounds.error) start (step + 1) := by
  have exact := bounds.error_nonneg
  have some_sigma := (abs_nonneg _).trans volatile
  have gains : 0 ≤ bounds.change |drift * dt.value| (bounds.scaled sigma |sqrtDt|) +
      bounds.error := by
    have drawn := bounds.normals_nonneg
    unfold WalkBounds.change WalkBounds.scaled
    positivity
  obtain ⟨next, last⟩ := risen_add_le start gains positive within
  have whole := (next.trans last).trans bounded.fits
  have before : 0 ≤ risen 1 (bounds.change |drift * dt.value| (bounds.scaled sigma |sqrtDt|) +
      bounds.error) start step := risen_nonneg le_rfl gains positive
  have fits : bounds.change |drift * dt.value| (bounds.scaled sigma |sqrtDt|) ≤ bounds.top := by
    linarith
  obtain ⟨first, second, diffused⟩ := bounds.scaled_kept rounds volatile (le_refl |sqrtDt|) small
    bounded.rooted (diffusion_le (abs_nonneg (drift * dt.value)) fits)
  obtain ⟨third, fourth, changed⟩ :=
    bounds.change_kept rounds (le_refl |drift * dt.value|) diffused fits
  exact ⟨⟨first, second, third, fourth⟩, changed, fits, by linarith, next⟩

theorem brownianTurn_bounded {exactSigma : ℚ} (rounds : library.Rounds) (positive : 0 ≤ start)
    (near : |sigmaAbs - exactSigma| ≤ bounds.error) (volatile : |sigmaAbs| ≤ sigma)
    (bounded : BrownianBounded bounds |drift * dt.value| sigma |sqrtDt| start moves)
    (normals : NormalsWithin bounds.normals moves draws) (within : step < moves)
    (held : DriftedWithin
      (bounds.change |drift * dt.value| (bounds.scaled sigma |sqrtDt|) + bounds.error) start
      (drifted (fun turn => drift * dt.value + exactSigma * sqrtDt * (draws.get turn).normal)
        (brownianLoss bounds |sqrtDt|) start) draws step state) :
    BrownianFits library dt drift sigmaAbs sqrtDt state ∧
      DriftedWithin
        (bounds.change |drift * dt.value| (bounds.scaled sigma |sqrtDt|) + bounds.error) start
        (drifted (fun turn => drift * dt.value + exactSigma * sqrtDt * (draws.get turn).normal)
          (brownianLoss bounds |sqrtDt|) start) draws (step + 1)
        (brownianMove library dt drift sigmaAbs sqrtDt state, state.2.tail) := by
  obtain ⟨same, small⟩ := held.normal normals within
  obtain ⟨⟨first, second, third, fourth⟩, changed, fits, room, next⟩ :=
    brownianChange_kept rounds positive volatile bounded small within
  obtain ⟨fifth, moved⟩ := bounds.kept_add rounds held.most changed room
  have change := abs_le.mp (brownianChange_near rounds near volatile small bounded.rooted fits)
  have fall := sub_le_iff_le_add.mpr (neg_le_sub_iff_le_add.mp change.1)
  have low := bounds.le_round rounds
    ((abs_add_le _ _).trans (add_le_add held.most changed)) room (add_le_add held.least fall)
  refine ⟨⟨first, second, third, fourth, fifth⟩, moved.trans (by linarith), ?_, ?_⟩
  · rw [drifted_succ, ← same]
    exact le_trans (le_of_eq (by unfold brownianLoss; ring)) low
  · rw [held.drawn]
    exact Stream'.tail_drop'

/-- Nor does a Brownian move end further above the exact sum than its roundings. -/
theorem brownianMove_le {exactSigma : ℚ} (rounds : library.Rounds) (positive : 0 ≤ start)
    (near : |sigmaAbs - exactSigma| ≤ bounds.error) (volatile : |sigmaAbs| ≤ sigma)
    (bounded : BrownianBounded bounds |drift * dt.value| sigma |sqrtDt| start moves)
    (normals : NormalsWithin bounds.normals moves draws) (within : step < moves)
    (held : DriftedWithin
      (bounds.change |drift * dt.value| (bounds.scaled sigma |sqrtDt|) + bounds.error) start
      lowest draws step state)
    (below : state.1 ≤
      drifted (fun turn => drift * dt.value + exactSigma * sqrtDt * (draws.get turn).normal)
        (-brownianLoss bounds |sqrtDt|) start step) :
    brownianMove library dt drift sigmaAbs sqrtDt state ≤
      drifted (fun turn => drift * dt.value + exactSigma * sqrtDt * (draws.get turn).normal)
        (-brownianLoss bounds |sqrtDt|) start (step + 1) := by
  obtain ⟨same, small⟩ := held.normal normals within
  obtain ⟨-, changed, fits, room, -⟩ :=
    brownianChange_kept rounds positive volatile bounded small within
  have change := abs_le.mp (brownianChange_near rounds near volatile small bounded.rooted fits)
  have high := bounds.round_le rounds ((abs_add_le _ _).trans (add_le_add held.most changed)) room
    (add_le_add below (sub_le_iff_le_add.mp change.2))
  rw [drifted_succ, ← same]
  exact high.trans (le_of_eq (by unfold brownianLoss; ring))

/-- What a mean reverting move adds at most. -/
def ouGain (bounds : WalkBounds) (mu theta dt sqrtDt : Positive) (volatility : ℚ) : ℚ :=
  (theta.value * (mu.value + bounds.error) + bounds.error) * dt.value + bounds.error +
    (volatility * (bounds.normals * sqrtDt.value + bounds.error) + bounds.error) + bounds.error +
    bounds.error

structure OuBounded (bounds : WalkBounds) (mu theta dt sqrtDt : Positive) (volatility start : ℚ)
    (moves : ℕ) : Prop where
  noisy : bounds.normals * sqrtDt.value ≤ bounds.top
  apart : mu.value ≤ bounds.top
  pulled : theta.value * (mu.value + bounds.error) ≤ bounds.top
  fits : risen 1 (ouGain bounds mu theta dt sqrtDt volatility) start moves ≤ bounds.top

end Sums

/-! The models whose diffusion is proportional to the price. -/

section Proportions

variable {start share gain loss move change price : ℚ} {perMove : ℕ} {sqrtDt : Positive}

/-- A rise or fall by a share of the price and an amount besides. -/
theorem le_move (changed : |change| ≤ share * |price| + loss)
    (near : |move - (price + change)| ≤ bounds.error) :
    |move| ≤ (1 + share) * |price| + (loss + bounds.error) ∧
      (0 ≤ price → (1 - share) * price - (loss + bounds.error) ≤ move) := by
  obtain ⟨below, above⟩ := abs_le.mp near
  obtain ⟨down, up⟩ := abs_le.mp changed
  constructor
  · obtain ⟨negative, positive⟩ := abs_le.mp (le_refl |price|)
    rw [abs_le]
    constructor
    · linarith
    · linarith
  · intro nonneg
    rw [abs_of_nonneg nonneg] at down
    linarith

/-- How far so many moves take a first price, each by a share of it and an amount besides; it stays
above what is left of it as long as that is anything. -/
structure MovedWithin (bounds : WalkBounds) (share gain start : ℚ) (perMove moves step : ℕ)
    (price : ℚ) (draws : Draws) : Prop where
  most : |price| ≤ risen (1 + share) gain start step
  least : share ≤ 1 → 0 ≤ fallen (1 - share) gain start moves →
    fallen (1 - share) gain start step ≤ price
  normals : NormalsWithin bounds.normals (perMove * (moves - step)) draws

theorem MovedWithin.next (held : MovedWithin bounds share gain start perMove moves step price draws)
    (within : step < moves) :
    NormalsWithin bounds.normals (perMove * (moves - (step + 1)) + perMove) draws := by
  have count : moves - step = moves - (step + 1) + 1 := by omega
  rw [← Nat.mul_succ, Nat.succ_eq_add_one, ← count]
  exact held.normals

theorem MovedWithin.moved (positive : 0 ≤ start) (shares : 0 ≤ share) (gains : 0 ≤ gain)
    (within : step < moves)
    (held : MovedWithin bounds share gain start perMove moves step price draws)
    (changed : |change| ≤ share * |price| + loss) (whole : loss + bounds.error = gain)
    (near : |move - (price + change)| ≤ bounds.error) :
    |move| ≤ risen (1 + share) gain start (step + 1) ∧
      (share ≤ 1 → 0 ≤ fallen (1 - share) gain start moves →
        fallen (1 - share) gain start (step + 1) ≤ move) := by
  obtain ⟨most, least⟩ := le_move changed near
  rw [whole] at most least
  constructor
  · have grown : (1 + share) * |price| ≤ (1 + share) * risen (1 + share) gain start step :=
      mul_le_mul_of_nonneg_left held.most (by linarith)
    have next : (1 + share) * risen (1 + share) gain start step + gain ≤
        risen (1 + share) gain start (step + 1) := risen_succ (by linarith) gains
    linarith
  · intro below left
    have above := held.least below left
    have nonneg : 0 ≤ price := (left.trans
      (fallen_anti (by linarith) (by linarith) gains positive within.le)).trans above
    have shrunk : (1 - share) * fallen (1 - share) gain start step ≤ (1 - share) * price :=
      mul_le_mul_of_nonneg_left above (by linarith)
    have next : fallen (1 - share) gain start (step + 1) ≤
        (1 - share) * fallen (1 - share) gain start step - gain := fallen_succ (by linarith) gains
    linarith [least nonneg]

/-- What a change by a share and an amount may be, of a price that is still to move. -/
theorem MovedWithin.fits (positive : 0 ≤ start) (shares : 0 ≤ share) (gains : 0 ≤ gain)
    (within : step < moves)
    (held : MovedWithin bounds share gain start perMove moves step price draws)
    (whole : risen (1 + share) gain start moves ≤ bounds.top) :
    |price| ≤ risen (1 + share) gain start moves ∧
      |price| + share * |price| + gain ≤ bounds.top := by
  have grown : (1 + share) * |price| ≤ (1 + share) * risen (1 + share) gain start step :=
    mul_le_mul_of_nonneg_left held.most (by linarith)
  have next : (1 + share) * risen (1 + share) gain start step + gain ≤
      risen (1 + share) gain start (step + 1) := risen_succ (by linarith) gains
  have last : risen (1 + share) gain start (step + 1) ≤ risen (1 + share) gain start moves :=
    risen_mono (by linarith) gains positive within
  have now : risen (1 + share) gain start step ≤ risen (1 + share) gain start moves :=
    risen_mono (by linarith) gains positive within.le
  exact ⟨held.most.trans now, by linarith⟩

/-- The reach of a jump. -/
def jumpReach (bounds : WalkBounds) (jumpMean : ℚ) (jumpVolatility : Positive) : ℚ :=
  |jumpMean| + (bounds.normals * jumpVolatility.value + bounds.error) + bounds.error

/-- What a move adds or takes besides a share of the price. -/
def jumpGain (bounds : WalkBounds) (drift jumpMean : ℚ) (jumpVolatility sqrtDt : Positive) : ℚ :=
  bounds.change drift (bounds.scaled bounds.error sqrtDt.value) +
    jumpReach bounds jumpMean jumpVolatility + bounds.error + bounds.error

structure JumpBounded (bounds : WalkBounds) (volatility jumpVolatility sqrtDt : Positive)
    (highest : ℚ) : Prop where
  sized : bounds.normals * jumpVolatility.value ≤ bounds.top
  volatile : volatility.value * highest ≤ bounds.top
  rooted : (volatility.value * highest + bounds.error) * sqrtDt.value ≤ bounds.top
  fits : highest ≤ bounds.top

/-- What a move of the custom model adds or takes besides a share of the price. -/
def customGain (bounds : WalkBounds) (drift : ℚ) (sqrtDt : Positive) : ℚ :=
  bounds.change drift (bounds.noise bounds.error sqrtDt.value) + bounds.error

structure CustomBounded (bounds : WalkBounds) (volatile highest : ℚ) : Prop where
  scales : volatile * highest ≤ bounds.top
  noisy : bounds.normals * (volatile * highest + bounds.error) ≤ bounds.top
  fits : highest ≤ bounds.top

end Proportions

end MachineWalker

end OptionChainSimulator.Domain
