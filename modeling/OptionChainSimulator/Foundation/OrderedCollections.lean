import Mathlib.Tactic
import Mathlib.Data.List.Sort

namespace OptionChainSimulator.Foundation

/-! Sets and maps kept as strictly increasing lists, the iteration order of a
B-tree collection.  The order is a field, so an unsorted value cannot exist. -/

/-- A finite set stored in increasing order. -/
structure OrderedSet (α : Type) [LinearOrder α] where
  toList : List α
  sorted : toList.Pairwise (· < ·)

/-- A finite map stored in increasing order of its keys. -/
structure OrderedMap (κ : Type) [LinearOrder κ] (β : Type) where
  entries : List (κ × β)
  sorted : entries.Pairwise (fun left right => left.1 < right.1)

namespace OrderedSet

variable {α : Type} [LinearOrder α]

instance : Membership α (OrderedSet α) where
  mem set value := value ∈ set.toList

@[simp] theorem mem_toList {set : OrderedSet α} {value : α} :
    value ∈ set.toList ↔ value ∈ set := Iff.rfl

instance (value : α) (set : OrderedSet α) : Decidable (value ∈ set) :=
  inferInstanceAs (Decidable (value ∈ set.toList))

def empty : OrderedSet α := ⟨[], .nil⟩

@[simp] theorem notMem_empty (value : α) : ¬ value ∈ (empty : OrderedSet α) :=
  List.not_mem_nil

def insertList (value : α) : List α → List α
  | [] => [value]
  | head :: tail =>
      if value < head then value :: head :: tail
      else if value = head then head :: tail
      else head :: insertList value tail

@[simp] theorem mem_insertList {value other : α} {list : List α} :
    other ∈ insertList value list ↔ other = value ∨ other ∈ list := by
  induction list with
  | nil => simp [insertList]
  | cons head tail ih =>
      rw [insertList]
      split_ifs with below same
      · simp
      · subst same
        simp
      · simp only [List.mem_cons, ih]
        tauto

theorem insertList_sorted (value : α) {list : List α}
    (sorted : list.Pairwise (· < ·)) :
    (insertList value list).Pairwise (· < ·) := by
  induction list with
  | nil => simp [insertList]
  | cons head tail ih =>
      rw [insertList]
      have headBelow : ∀ other ∈ tail, head < other :=
        fun other => List.rel_of_pairwise_cons sorted
      split_ifs with below same
      · refine sorted.cons ?_
        intro other member
        rcases List.mem_cons.mp member with rfl | member
        · exact below
        · exact below.trans (headBelow other member)
      · exact sorted
      · refine (ih sorted.of_cons).cons ?_
        intro other member
        rcases mem_insertList.mp member with rfl | member
        · exact lt_of_le_of_ne (not_lt.mp below) (Ne.symm same)
        · exact headBelow other member

theorem length_insertList_of_notMem (value : α) {list : List α}
    (fresh : value ∉ list) :
    (insertList value list).length = list.length + 1 := by
  induction list with
  | nil => simp [insertList]
  | cons head tail ih =>
      rw [insertList]
      simp only [List.mem_cons, not_or] at fresh
      split_ifs with below same
      · simp
      · exact absurd same fresh.1
      · simp [ih fresh.2]

def insert (value : α) (set : OrderedSet α) : OrderedSet α :=
  ⟨insertList value set.toList, insertList_sorted value set.sorted⟩

@[simp] theorem mem_insert {value other : α} {set : OrderedSet α} :
    other ∈ set.insert value ↔ other = value ∨ other ∈ set :=
  mem_insertList

def card (set : OrderedSet α) : Nat := set.toList.length

theorem length_insertList_le (value : α) (list : List α) :
    (insertList value list).length ≤ list.length + 1 := by
  induction list with
  | nil => exact le_refl 1
  | cons head tail ih =>
      rw [insertList]
      split_ifs with below same
      · exact le_refl _
      · exact Nat.le_succ _
      · exact Nat.succ_le_succ ih

theorem card_insert_le (value : α) (set : OrderedSet α) :
    (set.insert value).card ≤ set.card + 1 :=
  length_insertList_le value set.toList

theorem card_insert_of_notMem {value : α} {set : OrderedSet α}
    (fresh : value ∉ set) : (set.insert value).card = set.card + 1 :=
  length_insertList_of_notMem value fresh

@[ext] theorem ext {left right : OrderedSet α}
    (equal : ∀ value, value ∈ left ↔ value ∈ right) : left = right := by
  have lists : left.toList = right.toList := left.sorted.eq_of_mem_iff right.sorted equal
  cases left
  cases right
  cases lists
  rfl

end OrderedSet

namespace OrderedMap

variable {κ β : Type} [LinearOrder κ]

def empty : OrderedMap κ β := ⟨[], .nil⟩

def getList (key : κ) : List (κ × β) → Option β
  | [] => none
  | (head, value) :: tail => if key = head then some value else getList key tail

def get? (map : OrderedMap κ β) (key : κ) : Option β := getList key map.entries

/-- `entry(key).or_insert(fallback)` followed by an update in place. -/
def upsertList (key : κ) (fallback : β) (update : β → β) :
    List (κ × β) → List (κ × β)
  | [] => [(key, update fallback)]
  | (head, value) :: tail =>
      if key < head then (key, update fallback) :: (head, value) :: tail
      else if key = head then (head, update value) :: tail
      else (head, value) :: upsertList key fallback update tail

theorem key_of_mem_upsertList {key : κ} {fallback : β} {update : β → β}
    {list : List (κ × β)} {entry : κ × β}
    (member : entry ∈ upsertList key fallback update list) :
    entry.1 = key ∨ ∃ value, (entry.1, value) ∈ list := by
  induction list with
  | nil =>
      simp only [upsertList, List.mem_singleton] at member
      exact .inl (by rw [member])
  | cons head tail ih =>
      obtain ⟨headKey, headValue⟩ := head
      rw [upsertList] at member
      split_ifs at member with below same
      · rcases List.mem_cons.mp member with rfl | member
        · exact .inl rfl
        · exact .inr ⟨entry.2, member⟩
      · rcases List.mem_cons.mp member with rfl | member
        · exact .inl same.symm
        · exact .inr ⟨entry.2, List.mem_cons_of_mem _ member⟩
      · rcases List.mem_cons.mp member with rfl | member
        · exact .inr ⟨headValue, List.mem_cons_self⟩
        · rcases ih member with equal | ⟨value, inTail⟩
          · exact .inl equal
          · exact .inr ⟨value, List.mem_cons_of_mem _ inTail⟩

theorem upsertList_sorted (key : κ) (fallback : β) (update : β → β)
    {list : List (κ × β)}
    (sorted : list.Pairwise (fun left right => left.1 < right.1)) :
    (upsertList key fallback update list).Pairwise
      (fun left right => left.1 < right.1) := by
  induction list with
  | nil => simp [upsertList]
  | cons head tail ih =>
      obtain ⟨headKey, headValue⟩ := head
      have headBelow : ∀ entry ∈ tail, headKey < entry.1 :=
        fun entry => List.rel_of_pairwise_cons sorted
      rw [upsertList]
      split_ifs with below same
      · refine sorted.cons ?_
        intro entry member
        rcases List.mem_cons.mp member with rfl | member
        · exact below
        · exact below.trans (headBelow entry member)
      · exact sorted.of_cons.cons headBelow
      · refine (ih sorted.of_cons).cons ?_
        intro entry member
        rcases key_of_mem_upsertList member with equal | ⟨value, inTail⟩
        · rw [equal]
          exact lt_of_le_of_ne (not_lt.mp below) (Ne.symm same)
        · exact headBelow (entry.1, value) inTail

def upsert (key : κ) (fallback : β) (update : β → β) (map : OrderedMap κ β) :
    OrderedMap κ β :=
  ⟨upsertList key fallback update map.entries,
    upsertList_sorted key fallback update map.sorted⟩

theorem length_upsertList_le (key : κ) (fallback : β) (update : β → β) (list : List (κ × β)) :
    (upsertList key fallback update list).length ≤ list.length + 1 := by
  induction list with
  | nil => exact le_refl 1
  | cons head tail ih =>
      rw [upsertList]
      split_ifs with below same
      · exact le_refl _
      · exact Nat.le_succ _
      · exact Nat.succ_le_succ ih

theorem length_upsert_le (key : κ) (fallback : β) (update : β → β) (map : OrderedMap κ β) :
    (map.upsert key fallback update).entries.length ≤ map.entries.length + 1 :=
  length_upsertList_le key fallback update map.entries

theorem getList_eq_none_of_below {key : κ} {list : List (κ × β)}
    (below : ∀ entry ∈ list, key < entry.1) : getList key list = none := by
  induction list with
  | nil => rfl
  | cons head tail ih =>
      have headAbove := below head List.mem_cons_self
      rw [getList, if_neg (ne_of_lt headAbove)]
      exact ih fun entry member => below entry (List.mem_cons_of_mem _ member)

theorem get?_upsert_self (key : κ) (fallback : β) (update : β → β)
    (map : OrderedMap κ β) :
    (map.upsert key fallback update).get? key =
      some (update ((map.get? key).getD fallback)) := by
  obtain ⟨entries, sorted⟩ := map
  simp only [upsert, get?]
  induction entries with
  | nil => simp [upsertList, getList]
  | cons head tail ih =>
      obtain ⟨headKey, headValue⟩ := head
      rw [upsertList]
      split_ifs with below same
      · have absent : getList key ((headKey, headValue) :: tail) = none := by
          apply getList_eq_none_of_below
          intro entry member
          rcases List.mem_cons.mp member with rfl | member
          · exact below
          · exact below.trans (List.rel_of_pairwise_cons sorted member)
        rw [absent]
        simp [getList]
      · simp [getList, same]
      · simp only [getList, if_neg same]
        exact ih sorted.of_cons

theorem get?_upsert_of_ne {key other : κ} (fallback : β) (update : β → β)
    (map : OrderedMap κ β) (different : other ≠ key) :
    (map.upsert key fallback update).get? other = map.get? other := by
  obtain ⟨entries, sorted⟩ := map
  simp only [upsert, get?]
  induction entries with
  | nil => simp [upsertList, getList, different]
  | cons head tail ih =>
      obtain ⟨headKey, headValue⟩ := head
      rw [upsertList]
      split_ifs with below same
      · rw [getList, if_neg different]
      · subst same
        simp only [getList, if_neg different]
      · simp only [getList]
        rw [ih sorted.of_cons]

theorem mem_entries_iff {map : OrderedMap κ β} {key : κ} {value : β} :
    (key, value) ∈ map.entries ↔ map.get? key = some value := by
  obtain ⟨entries, sorted⟩ := map
  simp only [get?]
  induction entries with
  | nil => simp [getList]
  | cons head tail ih =>
      obtain ⟨headKey, headValue⟩ := head
      have tailIff := ih sorted.of_cons
      have headBelow : ∀ entry ∈ tail, headKey < entry.1 :=
        fun entry => List.rel_of_pairwise_cons sorted
      rw [getList, List.mem_cons]
      split_ifs with same
      · subst same
        constructor
        · rintro (equal | member)
          · cases equal
            rfl
          · exact absurd rfl (ne_of_lt (headBelow _ member)).symm
        · intro found
          cases found
          exact .inl rfl
      · rw [← tailIff]
        constructor
        · rintro (equal | member)
          · cases equal
            exact absurd rfl same
          · exact member
        · exact .inr

def insert (key : κ) (value : β) (map : OrderedMap κ β) : OrderedMap κ β :=
  map.upsert key value fun _ => value

theorem get?_insert (key : κ) (value : β) (map : OrderedMap κ β) :
    (map.insert key value).get? = Function.update map.get? key (some value) := by
  funext other
  by_cases same : other = key
  · subst same
    rw [insert, get?_upsert_self, Function.update_self]
  · rw [insert, get?_upsert_of_ne _ _ _ same, Function.update_of_ne same]

theorem get?_insert_cases {key other : κ} {value found : β} {map : OrderedMap κ β}
    (held : (map.insert key value).get? other = some found) :
    (other = key ∧ found = value) ∨ (other ≠ key ∧ map.get? other = some found) := by
  rw [get?_insert, Function.update_apply] at held
  split_ifs at held with same
  · cases held
    exact .inl ⟨same, rfl⟩
  · exact .inr ⟨same, held⟩

def filter (keep : κ → β → Bool) (map : OrderedMap κ β) : OrderedMap κ β :=
  ⟨map.entries.filter fun entry => keep entry.1 entry.2, map.sorted.filter _⟩

theorem get?_filter (keep : κ → β → Bool) (map : OrderedMap κ β) (key : κ) :
    (map.filter keep).get? key = (map.get? key).filter (keep key) := by
  apply Option.ext
  intro value
  rw [← mem_entries_iff, filter, List.mem_filter, mem_entries_iff, Option.filter_eq_some_iff]

def erase (key : κ) (map : OrderedMap κ β) : OrderedMap κ β :=
  map.filter fun other _ => other ≠ key

theorem get?_erase (key : κ) (map : OrderedMap κ β) :
    (map.erase key).get? = Function.update map.get? key none := by
  funext other
  by_cases same : other = key
  · subst same
    rw [erase, get?_filter, Function.update_self]
    simp
  · rw [erase, get?_filter, Function.update_of_ne same]
    cases map.get? other with
    | none => rfl
    | some value => simp [same]

end OrderedMap

end OptionChainSimulator.Foundation
