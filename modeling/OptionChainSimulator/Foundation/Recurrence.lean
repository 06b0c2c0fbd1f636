import Mathlib.Tactic

namespace OptionChainSimulator.Foundation

/-! Sequences given by their first value and a step, which may depend on its number. -/

section Recurrence

variable {α : Type}

def recur (step : Nat → α → α) (start : α) : Nat → α
  | 0 => start
  | index + 1 => step index (recur step start index)

variable {step other : Nat → α → α} {start : α} {count : Nat}

@[simp] theorem recur_zero : recur step start 0 = start := rfl

@[simp] theorem recur_succ {index : Nat} :
    recur step start (index + 1) = step index (recur step start index) := rfl

/-- Two recurrences agree up to a number exactly when their steps agree along one of them. -/
theorem recur_agree_iff :
    (∀ index ≤ count, recur step start index = recur other start index) ↔
      ∀ index < count, step index (recur other start index) =
        other index (recur other start index) := by
  constructor
  · intro agree index below
    have before := agree index (Nat.le_of_lt below)
    have after := agree (index + 1) below
    rw [recur_succ, recur_succ, before] at after
    exact after
  · intro steps index
    induction index with
    | zero =>
        intro _
        rfl
    | succ index ih =>
        intro within
        rw [recur_succ, ih (Nat.le_of_succ_le within), steps index within, recur_succ]

theorem map_range_recur_agree_iff :
    (List.range (count + 1)).map (recur step start) =
        (List.range (count + 1)).map (recur other start) ↔
      ∀ index < count, step index (recur other start index) =
        other index (recur other start index) := by
  rw [List.map_inj_left, ← recur_agree_iff]
  simp only [List.mem_range, Nat.lt_succ_iff]

end Recurrence

end OptionChainSimulator.Foundation
