import Mathlib.Tactic
import Mathlib.Algebra.Order.Field.Basic

namespace OptionChainSimulator.Foundation

/-! Closed bounds of what grows or falls by a rate and a fixed amount in every turn. -/

variable {K : Type} [Field K]

/-- What `turns` turns make of `start` at most, if each multiplies by `rate` and adds `gain`. -/
def risen (rate gain start : K) (turns : ℕ) : K := rate ^ turns * (start + turns * gain)

/-- What they leave of it at least, if each multiplies by `rate` and takes `loss` away. -/
def fallen (rate loss start : K) (turns : ℕ) : K := rate ^ turns * start - turns * loss

/-- What is left of `start` after so many changes, each of which takes `loss` away besides. -/
def drifted (changes : ℕ → K) (loss start : K) (turns : ℕ) : K :=
  start + ∑ turn ∈ Finset.range turns, changes turn - turns * loss

@[simp] theorem risen_zero {rate gain start : K} : risen rate gain start 0 = start := by
  simp [risen]

@[simp] theorem fallen_zero {rate loss start : K} : fallen rate loss start 0 = start := by
  simp [fallen]

section Risen

variable [LinearOrder K] [IsStrictOrderedRing K] {rate gain start : K} {turns more : ℕ}

theorem risen_nonneg (growing : 1 ≤ rate) (gains : 0 ≤ gain) (positive : 0 ≤ start) :
    0 ≤ risen rate gain start turns := by
  unfold risen
  positivity

/-- One more turn makes no more than one turn more. -/
theorem risen_succ (growing : 1 ≤ rate) (gains : 0 ≤ gain) :
    rate * risen rate gain start turns + gain ≤ risen rate gain start (turns + 1) := by
  have factor : 1 ≤ rate ^ (turns + 1) := one_le_pow₀ growing
  have added : gain ≤ rate ^ (turns + 1) * gain := le_mul_of_one_le_left gains factor
  calc rate * risen rate gain start turns + gain
      ≤ rate * risen rate gain start turns + rate ^ (turns + 1) * gain := by gcongr
    _ = risen rate gain start (turns + 1) := by
        unfold risen
        push_cast
        ring

theorem risen_mono (growing : 1 ≤ rate) (gains : 0 ≤ gain) (positive : 0 ≤ start)
    (later : turns ≤ more) : risen rate gain start turns ≤ risen rate gain start more := by
  induction later with
  | refl => exact le_refl _
  | @step more _ ih =>
      have base : 0 ≤ risen rate gain start more := risen_nonneg growing gains positive
      have next : rate * risen rate gain start more + gain ≤ risen rate gain start (more + 1) :=
        risen_succ growing gains
      have scaled : risen rate gain start more ≤ rate * risen rate gain start more :=
        le_mul_of_one_le_left base growing
      linarith

/-- What only gains stays below all it will be. -/
theorem risen_add_le (start : K) (gains : 0 ≤ gain) (positive : 0 ≤ start) (within : turns < more) :
    risen 1 gain start turns + gain ≤ risen 1 gain start (turns + 1) ∧
      risen 1 gain start (turns + 1) ≤ risen 1 gain start more := by
  have next : 1 * risen 1 gain start turns + gain ≤ risen 1 gain start (turns + 1) :=
    risen_succ le_rfl gains
  rw [one_mul] at next
  exact ⟨next, risen_mono le_rfl gains positive within⟩

end Risen

section Fallen

variable [LinearOrder K] [IsStrictOrderedRing K] {rate loss start : K} {turns more : ℕ}

theorem fallen_succ (shrinking : rate ≤ 1) (losses : 0 ≤ loss) :
    fallen rate loss start (turns + 1) ≤ rate * fallen rate loss start turns - loss := by
  have kept : rate * (turns * loss) ≤ turns * loss :=
    mul_le_of_le_one_left (by positivity) shrinking
  calc fallen rate loss start (turns + 1)
      = rate * (rate ^ turns * start) - turns * loss - loss := by
        unfold fallen
        push_cast
        ring
    _ ≤ rate * (rate ^ turns * start) - rate * (turns * loss) - loss := by gcongr
    _ = rate * fallen rate loss start turns - loss := by
        unfold fallen
        ring

theorem fallen_anti (nonneg : 0 ≤ rate) (shrinking : rate ≤ 1) (losses : 0 ≤ loss)
    (positive : 0 ≤ start) (later : turns ≤ more) :
    fallen rate loss start more ≤ fallen rate loss start turns := by
  have power : rate ^ more ≤ rate ^ turns := pow_le_pow_of_le_one nonneg shrinking later
  unfold fallen
  gcongr

end Fallen

section Drifted

variable {changes : ℕ → K} {loss start : K} {turns : ℕ}

@[simp] theorem drifted_zero : drifted changes loss start 0 = start := by
  simp [drifted]

theorem drifted_succ :
    drifted changes loss start (turns + 1) =
      drifted changes loss start turns + (changes turns - loss) := by
  unfold drifted
  rw [Finset.sum_range_succ]
  push_cast
  ring

end Drifted

end OptionChainSimulator.Foundation
