import Mathlib.Tactic
import Mathlib.Data.List.MinMax

namespace OptionChainSimulator.Foundation

/-! A bounded cache that forgets the entry accessed longest ago. -/

structure CacheEntry (κ α : Type) where
  key : κ
  value : α
  lastAccess : Nat
  deriving DecidableEq

/-- A hash map from keys to values with access times, its entries in iteration
order. -/
structure RecencyCache (κ α : Type) where
  entries : List (CacheEntry κ α)
  distinct : (entries.map (·.key)).Nodup

namespace RecencyCache

variable {κ α β : Type}

def empty : RecencyCache κ α := ⟨[], List.nodup_nil⟩

def size (cache : RecencyCache κ α) : Nat := cache.entries.length

def Holds (cache : RecencyCache κ α) (key : κ) : Prop := ∃ entry ∈ cache.entries, entry.key = key

/-- Every entry's value is one the key may have. -/
def All (fits : κ → α → Prop) (cache : RecencyCache κ α) : Prop :=
  ∀ entry ∈ cache.entries, fits entry.key entry.value

/-- What the entries weigh together. -/
def total (weigh : α → Nat) (cache : RecencyCache κ α) : Nat :=
  (cache.entries.map fun entry => weigh entry.value).sum

theorem all_empty {fits : κ → α → Prop} : (empty : RecencyCache κ α).All fits := by
  intro entry member
  cases member

theorem All.mono {fits wider : κ → α → Prop} {cache : RecencyCache κ α} (all : cache.All fits)
    (implied : ∀ key value, fits key value → wider key value) : cache.All wider :=
  fun entry member => implied _ _ (all entry member)

theorem All.of_absent {fits : κ → α → Prop} {cache : RecencyCache κ α} {key : κ}
    (all : cache.All fits) (absent : ¬ cache.Holds key) :
    cache.All fun other value => other ≠ key ∧ fits other value := by
  intro entry member
  exact ⟨fun same => absent ⟨entry, member, same⟩, all entry member⟩

section Eviction

variable [LinearOrder β] (rank : CacheEntry κ α → β)

/-- The key of the first entry of least rank. -/
def leastRecent (cache : RecencyCache κ α) : Option κ :=
  (cache.entries.argmin rank).map (·.key)

theorem holds_of_leastRecent {cache : RecencyCache κ α} {key : κ}
    (victim : cache.leastRecent rank = some key) : cache.Holds key := by
  obtain ⟨entry, least, named⟩ := Option.map_eq_some_iff.mp victim
  exact ⟨entry, List.argmin_mem least, named⟩

/-- Some entries are left, and with each those of higher rank. -/
structure KeepsRecent (before after : RecencyCache κ α) : Prop where
  kept : after.entries ⊆ before.entries
  recent : ∀ entry ∈ after.entries, ∀ other ∈ before.entries, rank entry < rank other →
    other ∈ after.entries

theorem KeepsRecent.refl (cache : RecencyCache κ α) : KeepsRecent rank cache cache :=
  ⟨List.Subset.refl _, fun _ _ _ member _ => member⟩

theorem KeepsRecent.trans {rank : CacheEntry κ α → β} {first second third : RecencyCache κ α}
    (before : KeepsRecent rank first second) (after : KeepsRecent rank second third) :
    KeepsRecent rank first third where
  kept := List.Subset.trans after.kept before.kept
  recent := by
    intro entry member other held below
    apply after.recent entry member other _ below
    exact before.recent entry (after.kept member) other held below

end Eviction

variable [DecidableEq κ]

instance (cache : RecencyCache κ α) (key : κ) : Decidable (cache.Holds key) :=
  inferInstanceAs (Decidable (∃ entry ∈ cache.entries, entry.key = key))

def find? (cache : RecencyCache κ α) (key : κ) : Option (CacheEntry κ α) :=
  cache.entries.find? fun entry => entry.key = key

def touch (cache : RecencyCache κ α) (key : κ) (now : Nat) : RecencyCache κ α where
  entries := cache.entries.map fun entry =>
    if entry.key = key then { entry with lastAccess := now } else entry
  distinct := by
    have keys : (cache.entries.map fun entry =>
        if entry.key = key then { entry with lastAccess := now } else entry).map (·.key) =
          cache.entries.map (·.key) := by
      rw [List.map_map]
      apply List.map_congr_left
      intro entry _
      by_cases same : entry.key = key <;> simp [same]
    rw [keys]
    exact cache.distinct

def remove (cache : RecencyCache κ α) (key : κ) : RecencyCache κ α where
  entries := cache.entries.filter fun entry => entry.key ≠ key
  distinct := cache.distinct.sublist (List.filter_sublist.map _)

def insert (cache : RecencyCache κ α) (key : κ) (value : α) (now : Nat) : RecencyCache κ α where
  entries := (cache.remove key).entries ++ [⟨key, value, now⟩]
  distinct := by
    rw [List.map_append, List.nodup_append]
    refine ⟨(cache.remove key).distinct, List.nodup_singleton _, ?_⟩
    intro left inRest right inNew
    obtain ⟨entry, kept, rfl⟩ := List.mem_map.mp inRest
    rw [List.map_singleton, List.mem_singleton] at inNew
    rw [inNew]
    simpa using (List.mem_filter.mp kept).2

section Eviction

variable [LinearOrder β] (rank : CacheEntry κ α → β)

/-- One victim after another while more than `max` entries are left. -/
def evictLoop (max : Nat) : Nat → RecencyCache κ α → RecencyCache κ α
  | 0, cache => cache
  | fuel + 1, cache =>
      if cache.size ≤ max then cache
      else
        match cache.leastRecent rank with
        | none => cache
        | some victim => evictLoop max fuel (cache.remove victim)

def evictTo (max : Nat) (cache : RecencyCache κ α) : RecencyCache κ α :=
  evictLoop rank max cache.size cache

end Eviction

variable {fits : κ → α → Prop} {cache : RecencyCache κ α} {key other : κ} {value : α}
  {now : Nat}

theorem find?_eq_none : cache.find? key = none ↔ ¬ cache.Holds key := by
  simp [find?, Holds]

theorem key_of_find? {entry : CacheEntry κ α} (found : cache.find? key = some entry) :
    entry.key = key := by simpa using List.find?_some found

theorem perm_remove {entry : CacheEntry κ α} (found : cache.find? key = some entry) :
    cache.entries.Perm (entry :: (cache.remove key).entries) := by
  obtain ⟨entries, distinct⟩ := cache
  unfold find? at found
  unfold remove
  dsimp only at found ⊢
  induction entries with
  | nil => cases found
  | cons first rest ih =>
      rw [List.map_cons, List.nodup_cons] at distinct
      by_cases named : first.key = key
      · subst named
        obtain rfl : first = entry := by simpa using found
        have others : rest.filter (fun entry => entry.key ≠ first.key) = rest := by
          apply List.filter_eq_self.mpr
          intro other member
          apply decide_eq_true
          intro same
          exact distinct.1 (List.mem_map.mpr ⟨other, member, same⟩)
        rw [List.filter_cons_of_neg (by simp), others]
      · rw [List.filter_cons_of_pos (by simpa using named)]
        rw [List.find?_cons_of_neg (by simpa using named)] at found
        exact ((ih distinct.2 found).cons first).trans (List.Perm.swap entry first _)

theorem remove_of_absent (absent : cache.find? key = none) : cache.remove key = cache := by
  have others : cache.entries.filter (fun entry => entry.key ≠ key) = cache.entries := by
    apply List.filter_eq_self.mpr
    intro entry member
    apply decide_eq_true
    intro same
    exact find?_eq_none.mp absent ⟨entry, member, same⟩
  obtain ⟨entries, distinct⟩ := cache
  simpa [remove] using others

theorem entries_insert (absent : ¬ cache.Holds key) :
    (cache.insert key value now).entries = cache.entries ++ [⟨key, value, now⟩] := by
  change (cache.remove key).entries ++ _ = _
  rw [remove_of_absent (find?_eq_none.mpr absent)]

theorem not_holds_remove : ¬ (cache.remove key).Holds key := by
  rintro ⟨entry, member, named⟩
  exact of_decide_eq_true (List.mem_filter.mp member).2 named

section Total

variable {weigh : α → Nat}

theorem total_remove {entry : CacheEntry κ α} (found : cache.find? key = some entry) :
    cache.total weigh = weigh entry.value + (cache.remove key).total weigh := by
  unfold total
  rw [((perm_remove found).map _).sum_eq, List.map_cons, List.sum_cons]

theorem total_touch : (cache.touch key now).total weigh = cache.total weigh := by
  unfold total touch
  rw [List.map_map]
  apply congrArg List.sum
  apply List.map_congr_left
  intro entry _
  by_cases same : entry.key = key <;> simp [same]

theorem total_insert (absent : ¬ cache.Holds key) :
    (cache.insert key value now).total weigh = cache.total weigh + weigh value := by
  unfold total
  rw [entries_insert absent]
  simp

theorem size_touch : (cache.touch key now).size = cache.size := List.length_map _

theorem size_insert (absent : ¬ cache.Holds key) :
    (cache.insert key value now).size = cache.size + 1 := by
  unfold size
  rw [entries_insert absent]
  simp

end Total

theorem All.find? (all : cache.All fits) {entry : CacheEntry κ α}
    (found : cache.find? key = some entry) : fits key entry.value := by
  have fitting := all entry (List.mem_of_find?_eq_some found)
  rwa [key_of_find? found] at fitting

theorem All.touch (all : cache.All fits) : (cache.touch key now).All fits := by
  intro entry member
  obtain ⟨old, held, rfl⟩ := List.mem_map.mp member
  have fitting := all old held
  by_cases same : old.key = key
  · simpa [same] using fitting
  · simpa [same] using fitting

theorem All.remove (all : cache.All fits) : (cache.remove key).All fits := by
  intro entry member
  exact all entry (List.mem_filter.mp member).1

theorem All.others (all : cache.All fits) :
    (cache.remove key).All fun other value => other ≠ key ∧ fits other value := by
  intro entry member
  obtain ⟨held, different⟩ := List.mem_filter.mp member
  exact ⟨of_decide_eq_true different, all entry held⟩

theorem All.insert (all : cache.All fits) (fitting : fits key value) :
    (cache.insert key value now).All fits := by
  intro entry member
  rw [RecencyCache.insert, List.mem_append, List.mem_singleton] at member
  cases member with
  | inl old => exact all.remove entry old
  | inr new =>
      subst new
      exact fitting

@[simp] theorem holds_touch : (cache.touch key now).Holds other ↔ cache.Holds other := by
  unfold Holds touch
  constructor
  · intro held
    obtain ⟨entry, member, named⟩ := held
    obtain ⟨old, oldMember, rfl⟩ := List.mem_map.mp member
    refine ⟨old, oldMember, ?_⟩
    by_cases same : old.key = key
    · simpa [same] using named
    · simpa [same] using named
  · intro held
    obtain ⟨entry, member, named⟩ := held
    refine ⟨_, List.mem_map_of_mem member, ?_⟩
    by_cases same : entry.key = key
    · simpa [same] using named
    · simpa [same] using named

@[simp] theorem holds_remove :
    (cache.remove key).Holds other ↔ cache.Holds other ∧ other ≠ key := by
  unfold Holds remove
  constructor
  · intro held
    obtain ⟨entry, member, rfl⟩ := held
    obtain ⟨old, kept⟩ := List.mem_filter.mp member
    exact ⟨⟨entry, old, rfl⟩, by simpa using kept⟩
  · intro held
    obtain ⟨⟨entry, member, rfl⟩, different⟩ := held
    exact ⟨entry, List.mem_filter.mpr ⟨member, by simpa using different⟩, rfl⟩

@[simp] theorem holds_insert :
    (cache.insert key value now).Holds other ↔ other = key ∨ cache.Holds other := by
  have split : (cache.insert key value now).Holds other ↔
      (cache.remove key).Holds other ∨ key = other := by
    simp [Holds, insert, or_and_right, exists_or]
  rw [split, holds_remove]
  by_cases same : other = key
  · simp [same]
  · simp [same, Ne.symm same]

theorem size_remove_lt (held : cache.Holds key) : (cache.remove key).size < cache.size := by
  obtain ⟨entry, member, named⟩ := held
  apply List.length_filter_lt_length_iff_exists.mpr
  exact ⟨entry, member, by simp [named]⟩

section Eviction

variable [LinearOrder β] {rank : CacheEntry κ α → β} {max fuel : Nat}

theorem keepsRecent_remove (victim : cache.leastRecent rank = some key) :
    KeepsRecent rank cache (cache.remove key) where
  kept := List.filter_sublist.subset
  recent := by
    intro entry member other held below
    refine List.mem_filter.mpr ⟨held, decide_eq_true ?_⟩
    intro same
    obtain ⟨least, first, named⟩ := Option.map_eq_some_iff.mp victim
    obtain rfl : other = least :=
      List.inj_on_of_nodup_map cache.distinct held (List.argmin_mem first) (same.trans named.symm)
    exact absurd below (not_lt.mpr (List.le_of_mem_argmin (List.mem_filter.mp member).1 first))

theorem evictTo_induction (kept : RecencyCache κ α → Prop)
    (removal : ∀ cache key, kept cache → kept (cache.remove key)) (starts : kept cache) :
    kept (cache.evictTo rank max) := by
  suffices loop : ∀ fuel cache, kept cache → kept (evictLoop rank max fuel cache) from
    loop _ _ starts
  intro fuel
  induction fuel with
  | zero =>
      intro cache held
      exact held
  | succ fuel ih =>
      intro cache held
      unfold evictLoop
      split_ifs with small
      · exact held
      · split
        · exact held
        · exact ih _ (removal _ _ held)

theorem All.evictTo (all : cache.All fits) : (cache.evictTo rank max).All fits :=
  evictTo_induction _ (fun _ _ all => all.remove) all

theorem size_evictLoop_le (enough : cache.size ≤ max + fuel) :
    (evictLoop rank max fuel cache).size ≤ max := by
  induction fuel generalizing cache with
  | zero => exact enough
  | succ fuel ih =>
      unfold evictLoop
      split_ifs with small
      · exact small
      · split
        · -- without a victim there is nothing to evict
          next nobody =>
          have none := List.argmin_eq_none.mp (Option.map_eq_none_iff.mp nobody)
          simp [size, none]
        · next victim found =>
          have shrunk := size_remove_lt (holds_of_leastRecent rank found)
          apply ih
          omega

theorem size_evictTo_le : (cache.evictTo rank max).size ≤ max :=
  size_evictLoop_le (Nat.le_add_left _ _)

end Eviction

end RecencyCache

end OptionChainSimulator.Foundation
