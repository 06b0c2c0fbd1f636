import Mathlib.Tactic
import Mathlib.Data.List.Nodup
import Mathlib.Data.List.Sort

namespace OptionChainSimulator.Foundation

/-! Tables that keep every version of a row and are read as the newest of each key. -/

section NewestRows

variable {Row κ : Type} [DecidableEq κ] (key : Row → κ) (version : Row → Nat)

/-- The newest row of each key. Of equal versions the one nearer the front is newer. -/
def newest : List Row → List Row
  | [] => []
  | row :: rest =>
      if ∃ other ∈ newest rest, key other = key row ∧ version row < version other then newest rest
      else row :: (newest rest).filter fun other => key other ≠ key row

variable {key version} {rows : List Row} {row other : Row}

theorem newest_sublist (rows : List Row) : (newest key version rows).Sublist rows := by
  induction rows with
  | nil => exact List.Sublist.refl []
  | cons first rest ih =>
      rw [newest]
      split_ifs with older
      · exact ih.cons first
      · exact (List.filter_sublist.trans ih).cons_cons first

theorem mem_of_mem_newest (kept : row ∈ newest key version rows) : row ∈ rows :=
  (newest_sublist rows).subset kept

theorem newest_nodup (rows : List Row) : ((newest key version rows).map key).Nodup := by
  induction rows with
  | nil => exact List.nodup_nil
  | cons first rest ih =>
      rw [newest]
      split_ifs with older
      · exact ih
      · rw [List.map_cons, List.nodup_cons]
        refine ⟨?_, ih.sublist (List.filter_sublist.map key)⟩
        intro again
        obtain ⟨other, inside, same⟩ := List.mem_map.mp again
        exact of_decide_eq_true (List.mem_filter.mp inside).2 same

theorem exists_newest (member : row ∈ rows) :
    ∃ kept ∈ newest key version rows, key kept = key row ∧ version row ≤ version kept := by
  induction rows with
  | nil => cases member
  | cons first rest ih =>
      rw [newest]
      split_ifs with older
      · cases member with
        | head =>
            obtain ⟨other, kept, same, newer⟩ := older
            exact ⟨other, kept, same, newer.le⟩
        | tail _ later => exact ih later
      · cases member with
        | head => exact ⟨row, List.mem_cons_self, rfl, le_refl _⟩
        | tail _ later =>
            obtain ⟨other, kept, same, newer⟩ := ih later
            by_cases own : key other = key first
            · refine ⟨first, List.mem_cons_self, own.symm.trans same, newer.trans ?_⟩
              by_contra above
              exact older ⟨other, kept, own, not_le.mp above⟩
            · refine ⟨other, List.mem_cons_of_mem first
                (List.mem_filter.mpr ⟨kept, ?_⟩), same, newer⟩
              exact decide_eq_true own

/-- Newest rows selected, projected and sorted by what identifies them come in strict
order. -/
theorem select_ascending {View ν : Type} [LinearOrder ν] {keep : Row → Bool} {read : Row → View}
    {order : View → ν}
    (identifies : ∀ left right, keep left = true → keep right = true →
      order (read left) = order (read right) → key left = key right) :
    ((((newest key version rows).filter keep).map read).insertionSort
      fun left right => order left ≤ order right).Pairwise
        fun left right => order left < order right := by
  have sorted := List.pairwise_insertionSort (fun left right : View => order left ≤ order right)
    (((newest key version rows).filter keep).map read)
  have distinct : ((((newest key version rows).filter keep).map read).insertionSort
      fun left right => order left ≤ order right).Pairwise
        fun left right => order left ≠ order right := by
    apply (List.perm_insertionSort _ _).symm.pairwise _ fun different => different.symm
    rw [List.pairwise_map]
    have keys := List.pairwise_map.mp (@newest_nodup _ _ _ key version rows)
    apply (keys.filter _).imp_of_mem
    intro left right leftIn rightIn different same
    exact different (identifies left right (List.mem_filter.mp leftIn).2
      (List.mem_filter.mp rightIn).2 same)
  exact (sorted.and distinct).imp fun pair => lt_of_le_of_ne pair.1 pair.2

end NewestRows

end OptionChainSimulator.Foundation
