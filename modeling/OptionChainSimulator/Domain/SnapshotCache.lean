import Mathlib.Tactic
import OptionChainSimulator.Domain.Series
import OptionChainSimulator.Session.TapeCalls

namespace OptionChainSimulator.Domain.SnapshotCache

open Foundation Utils

/-! What a cache of snapshots holds after any calls. -/

section Calls

variable {Chain : Type}

inductive CacheCall (Chain : Type) where
  | insert (simulation : Uuid) (snapshot : SeriesSnapshot Chain)
  | get (simulation : Uuid) (step : Nat)
  | evictSimulation (simulation : Uuid)

/-- A call, at what `Instant::now` says. -/
def apply (upstream : Upstream Chain) (cache : SnapshotCache Chain) :
    CacheCall Chain × Nat → SnapshotCache Chain
  | (.insert simulation snapshot, now) => cache.insert upstream simulation snapshot now
  | (.get simulation step, now) => ((cache.get simulation step now).map (·.2)).getD cache
  | (.evictSimulation simulation, _) => cache.evictSimulation simulation

def afterCalls (upstream : Upstream Chain) (capacity contractBudget : Nat)
    (calls : List (CacheCall Chain × Nat)) : SnapshotCache Chain :=
  calls.foldl (apply upstream) (withBounds capacity contractBudget)

/-- The snapshot a call inserts under the key. -/
def insertedBy (key : Uuid × Nat) : CacheCall Chain → Option (SeriesSnapshot Chain)
  | .insert simulation snapshot => if (simulation, snapshot.step) = key then some snapshot else none
  | _ => none

/-- The last one of the calls. -/
def lastInserted (key : Uuid × Nat) (calls : List (CacheCall Chain × Nat)) :
    Option (SeriesSnapshot Chain) :=
  calls.foldl (fun last call => (insertedBy key call.1).or last) none

/-- Whether a call names the key. -/
def uses (key : Uuid × Nat) : CacheCall Chain → Bool
  | .insert simulation snapshot => (simulation, snapshot.step) = key
  | .get simulation step => (simulation, step) = key
  | .evictSimulation _ => false

/-- When the last insertion or read of the key was. -/
def lastUsed (key : Uuid × Nat) (calls : List (CacheCall Chain × Nat)) : Option Nat :=
  calls.foldl (fun last call => if uses key call.1 then some call.2 else last) none

/-- Entries by their last access, and by key where that ties. -/
def accessOrder (entry : CacheEntry (Uuid × Nat) (CachedSnapshot Chain)) : Nat ×ₗ Uuid ×ₗ Nat :=
  toLex (entry.lastAccess, toLex (entry.key.1, entry.key.2))

/-- What becomes of an entry in one call. -/
inductive Fate (upstream : Upstream Chain) (cache : SnapshotCache Chain)
    (call : CacheCall Chain × Nat) (entry : CacheEntry (Uuid × Nat) (CachedSnapshot Chain)) : Prop
  | stays (kept) : kept ∈ (cache.apply upstream call).entries.entries → kept.key = entry.key →
      kept.value = entry.value → Fate upstream cache call entry
  | reinserted (snapshot) : call.1 = .insert entry.key.1 snapshot → snapshot.step = entry.key.2 →
      Fate upstream cache call entry
  | evicted : call.1 = .evictSimulation entry.key.1 → Fate upstream cache call entry
  | outlived (simulation snapshot) : call.1 = .insert simulation snapshot →
      (∀ other ∈ cache.entries.entries, accessOrder other < accessOrder entry →
        other.key ≠ (simulation, snapshot.step) →
          ¬ (cache.apply upstream call).entries.Holds other.key) →
      Fate upstream cache call entry

/-- The weight on record is the weight of the entries, and it and their number are in bounds. -/
structure Accounted (upstream : Upstream Chain) (capacity contractBudget : Nat)
    (cache : SnapshotCache Chain) : Prop where
  capacity : cache.capacity = max capacity 1
  contractBudget : cache.contractBudget = max contractBudget 1
  weighed : cache.entries.All fun _ cached =>
    cached.contracts = snapshotContracts upstream cached.snapshot
  resident : cache.residentContracts = cache.entries.total CachedSnapshot.contracts
  entries : cache.entries.size ≤ cache.capacity
  contracts : cache.residentContracts ≤ cache.contractBudget

/-- Each entry is of the last insertion under its key and of the last access. -/
def Latest (calls : List (CacheCall Chain × Nat)) (cache : SnapshotCache Chain) : Prop :=
  ∀ entry ∈ cache.entries.entries, lastInserted entry.key calls = some entry.value.snapshot ∧
    lastUsed entry.key calls = some entry.lastAccess

end Calls

section Removals

variable {Chain : Type} {upstream : Upstream Chain} {capacity contractBudget : Nat}
  {cache : SnapshotCache Chain} {key : Uuid × Nat} {exceeds : SnapshotCache Chain → Bool}
  {simulation : Uuid} {step now bound : Nat}

theorem entries_removeEntry (cache : SnapshotCache Chain) (key : Uuid × Nat) :
    (cache.removeEntry key).entries = cache.entries.remove key := by
  unfold removeEntry
  cases found : cache.entries.find? key with
  | none => exact (RecencyCache.remove_of_absent found).symm
  | some entry => rfl

theorem bounds_removeEntry (cache : SnapshotCache Chain) (key : Uuid × Nat) :
    (cache.removeEntry key).capacity = cache.capacity ∧
      (cache.removeEntry key).contractBudget = cache.contractBudget := by
  unfold removeEntry
  split <;> exact ⟨rfl, rfl⟩

theorem Accounted.removeEntry (accounted : Accounted upstream capacity contractBudget cache)
    (key : Uuid × Nat) :
    Accounted upstream capacity contractBudget (cache.removeEntry key) := by
  unfold SnapshotCache.removeEntry
  cases found : cache.entries.find? key with
  | none => exact accounted
  | some entry =>
      have total := accounted.resident.trans (RecencyCache.total_remove found)
      have size : (cache.entries.remove key).size ≤ cache.entries.size := List.length_filter_le _ _
      refine ⟨accounted.capacity, accounted.contractBudget, accounted.weighed.remove, ?_,
        size.trans accounted.entries, (Nat.sub_le _ _).trans accounted.contracts⟩
      dsimp only
      omega

theorem evictLoop_induction {kept : SnapshotCache Chain → Prop} {fuel : Nat}
    (removal : ∀ cache key, kept cache → cache.leastRecentlyUsed = some key →
      kept (cache.removeEntry key))
    (starts : kept cache) : kept (evictLoop exceeds fuel cache) := by
  induction fuel generalizing cache with
  | zero => exact starts
  | succ fuel ih =>
      unfold evictLoop
      split_ifs with beyond
      · cases victim : cache.leastRecentlyUsed with
        | none => exact starts
        | some key => exact ih (removal cache key starts victim)
      · exact starts

theorem Accounted.evictLoop {fuel : Nat}
    (accounted : Accounted upstream capacity contractBudget cache) :
    Accounted upstream capacity contractBudget (SnapshotCache.evictLoop exceeds fuel cache) :=
  evictLoop_induction (fun _ key held _ => held.removeEntry key) accounted

theorem keepsRecent_evictLoop {fuel : Nat} :
    RecencyCache.KeepsRecent accessOrder cache.entries (evictLoop exceeds fuel cache).entries := by
  refine @evictLoop_induction Chain cache exceeds
    (fun after => RecencyCache.KeepsRecent accessOrder cache.entries after.entries) fuel ?_
    (.refl _ _)
  intro after key recent victim
  rw [entries_removeEntry]
  exact recent.trans (RecencyCache.keepsRecent_remove victim)

/-- With a victim for each round the bound is met, and an empty cache meets it. -/
theorem evictLoop_meets (exceeds : SnapshotCache Chain → Bool) {fuel : Nat}
    (enough : cache.entries.size ≤ fuel)
    (accounted : Accounted upstream capacity contractBudget cache)
    (empty : ∀ after : SnapshotCache Chain, Accounted upstream capacity contractBudget after →
      after.entries.entries = [] → exceeds after = false) :
    exceeds (evictLoop exceeds fuel cache) = false := by
  induction fuel generalizing cache with
  | zero =>
      apply empty cache accounted
      exact List.length_eq_zero_iff.mp (Nat.le_zero.mp enough)
  | succ fuel ih =>
      unfold evictLoop
      split_ifs with beyond
      · cases victim : cache.leastRecentlyUsed with
        | none =>
            apply empty cache accounted
            exact List.argmin_eq_none.mp (Option.map_eq_none_iff.mp victim)
        | some key =>
            apply ih _ (accounted.removeEntry key)
            have shrunk := RecencyCache.size_remove_lt (RecencyCache.holds_of_leastRecent _ victim)
            rw [entries_removeEntry]
            omega
      · exact Bool.eq_false_of_not_eq_true beyond

theorem Accounted.size_evictTo (accounted : Accounted upstream capacity contractBudget cache)
    (bound : Nat) : (cache.evictTo bound).entries.size ≤ bound := by
  have met := evictLoop_meets (fun after => bound < after.entries.size) (le_refl _) accounted
    (by
      intro after _ none
      simp [RecencyCache.size, none])
  exact not_lt.mp (of_decide_eq_false met)

theorem Accounted.resident_evictToContracts
    (accounted : Accounted upstream capacity contractBudget cache) (bound : Nat) :
    (cache.evictToContracts bound).residentContracts ≤ bound := by
  have met := evictLoop_meets (fun after => bound < after.residentContracts) (le_refl _) accounted
    (by
      intro after held none
      simp [held.resident, RecencyCache.total, none])
  exact not_lt.mp (of_decide_eq_false met)

theorem size_evictLoop_le {fuel : Nat} :
    (evictLoop exceeds fuel cache).entries.size ≤ cache.entries.size := by
  apply @evictLoop_induction Chain cache exceeds
    (fun after => after.entries.size ≤ cache.entries.size) fuel _ (le_refl _)
  intro after key small _
  rw [entries_removeEntry]
  exact (List.length_filter_le _ _).trans small

theorem bounds_evictLoop {fuel : Nat} :
    (evictLoop exceeds fuel cache).capacity = cache.capacity ∧
      (evictLoop exceeds fuel cache).contractBudget = cache.contractBudget := by
  apply @evictLoop_induction Chain cache exceeds (fun after =>
    after.capacity = cache.capacity ∧ after.contractBudget = cache.contractBudget) fuel _
    ⟨rfl, rfl⟩
  intro after key same _
  obtain ⟨capacityKept, budgetKept⟩ := bounds_removeEntry after key
  exact ⟨capacityKept.trans same.1, budgetKept.trans same.2⟩

end Removals

section Steps

variable {Chain : Type} {upstream : Upstream Chain} {capacity contractBudget : Nat}
  {cache : SnapshotCache Chain} {snapshot : SeriesSnapshot Chain} {simulation : Uuid}
  {step now : Nat}

/-- What is left when room for a snapshot has been made. -/
def cleared (cache : SnapshotCache Chain) (key : Uuid × Nat) (incoming : Nat) :
    SnapshotCache Chain :=
  ((cache.removeEntry key).evictTo (cache.capacity - 1)).evictToContracts
    (cache.contractBudget - incoming)

theorem insert_eq : cache.insert upstream simulation snapshot now =
    if cache.contractBudget < snapshotContracts upstream snapshot then
      cache.removeEntry (simulation, snapshot.step)
    else
      let room := cache.cleared (simulation, snapshot.step) (snapshotContracts upstream snapshot)
      { room with
        residentContracts :=
          saturatingAdd room.residentContracts (snapshotContracts upstream snapshot)
        entries := room.entries.insert (simulation, snapshot.step)
          ⟨snapshot, snapshotContracts upstream snapshot⟩ now } := by
  obtain ⟨capacityKept, budgetKept⟩ := bounds_removeEntry cache (simulation, snapshot.step)
  have budgetAgain : ((cache.removeEntry (simulation, snapshot.step)).evictTo
      ((cache.removeEntry (simulation, snapshot.step)).capacity - 1)).contractBudget =
        cache.contractBudget := bounds_evictLoop.2.trans budgetKept
  unfold insert cleared
  dsimp only
  rw [budgetAgain, budgetKept, capacityKept]

theorem cleared_recent (key : Uuid × Nat) (incoming : Nat) :
    RecencyCache.KeepsRecent accessOrder (cache.entries.remove key)
      (cache.cleared key incoming).entries := by
  rw [← entries_removeEntry]
  exact keepsRecent_evictLoop.trans keepsRecent_evictLoop

theorem absent_cleared (key : Uuid × Nat) (incoming : Nat) :
    ¬ (cache.cleared key incoming).entries.Holds key := by
  rintro ⟨entry, member, named⟩
  exact RecencyCache.not_holds_remove ⟨entry, (cleared_recent key incoming).kept member, named⟩

theorem Accounted.cleared (accounted : Accounted upstream capacity contractBudget cache)
    (key : Uuid × Nat) (incoming : Nat) :
    Accounted upstream capacity contractBudget (cache.cleared key incoming) :=
  ((accounted.removeEntry key).evictLoop).evictLoop

theorem Accounted.room (accounted : Accounted upstream capacity contractBudget cache)
    (key : Uuid × Nat) (incoming : Nat) :
    (cache.cleared key incoming).entries.size ≤ cache.capacity - 1 ∧
      (cache.cleared key incoming).residentContracts ≤ cache.contractBudget - incoming := by
  have removed := accounted.removeEntry key
  refine ⟨size_evictLoop_le.trans (removed.size_evictTo _), ?_⟩
  exact Accounted.resident_evictToContracts removed.evictLoop _

theorem Accounted.insert (fits : contractBudget < u64Limit)
    (accounted : Accounted upstream capacity contractBudget cache) :
    Accounted upstream capacity contractBudget
      (cache.insert upstream simulation snapshot now) := by
  rw [insert_eq]
  split_ifs with heavy
  · exact accounted.removeEntry _
  · have room := accounted.cleared (simulation, snapshot.step) (snapshotContracts upstream snapshot)
    have absent : ¬ (cache.cleared (simulation, snapshot.step)
        (snapshotContracts upstream snapshot)).entries.Holds (simulation, snapshot.step) :=
      absent_cleared _ _
    obtain ⟨few, light⟩ := accounted.room (simulation, snapshot.step)
      (snapshotContracts upstream snapshot)
    have budget : contractBudget ⊔ 1 < u64Limit := max_lt fits (by decide)
    have capacityIs := accounted.capacity
    have budgetIs := accounted.contractBudget
    have sum : saturatingAdd
        (cache.cleared (simulation, snapshot.step)
          (snapshotContracts upstream snapshot)).residentContracts
        (snapshotContracts upstream snapshot) =
        (cache.cleared (simulation, snapshot.step)
          (snapshotContracts upstream snapshot)).residentContracts +
        snapshotContracts upstream snapshot := by
      unfold saturatingAdd
      omega
    refine ⟨room.capacity, room.contractBudget, room.weighed.insert rfl, ?_, ?_, ?_⟩
    · dsimp only
      rw [sum, RecencyCache.total_insert absent, room.resident]
    · dsimp only
      rw [RecencyCache.size_insert absent, room.capacity]
      omega
    · dsimp only
      rw [sum, room.contractBudget]
      omega

theorem Accounted.get {served : SeriesSnapshot Chain} {after : SnapshotCache Chain}
    (accounted : Accounted upstream capacity contractBudget cache)
    (found : cache.get simulation step now = some (served, after)) :
    Accounted upstream capacity contractBudget after := by
  obtain ⟨entry, -, pair⟩ := Option.map_eq_some_iff.mp found
  cases pair
  exact ⟨accounted.capacity, accounted.contractBudget, accounted.weighed.touch,
    accounted.resident.trans RecencyCache.total_touch.symm,
    RecencyCache.size_touch.trans_le accounted.entries, accounted.contracts⟩

theorem Accounted.evictSimulation (accounted : Accounted upstream capacity contractBudget cache) :
    Accounted upstream capacity contractBudget (cache.evictSimulation simulation) := by
  unfold SnapshotCache.evictSimulation
  generalize (cache.entries.entries.map (·.key)).filter (fun key => key.1 = simulation) = victims
  induction victims generalizing cache with
  | nil => exact accounted
  | cons key victims ih => exact ih (accounted.removeEntry key)

theorem Accounted.apply (fits : contractBudget < u64Limit) {call : CacheCall Chain × Nat}
    (accounted : Accounted upstream capacity contractBudget cache) :
    Accounted upstream capacity contractBudget (cache.apply upstream call) := by
  obtain ⟨call, now⟩ := call
  cases call with
  | insert simulation snapshot => exact accounted.insert fits
  | get simulation step =>
      change Accounted _ _ _ (((cache.get simulation step now).map (·.2)).getD cache)
      cases found : cache.get simulation step now with
      | none => exact accounted
      | some answer => exact accounted.get found
  | evictSimulation simulation => exact accounted.evictSimulation

theorem accounted_withBounds :
    Accounted upstream capacity contractBudget (withBounds capacity contractBudget) :=
  ⟨rfl, rfl, RecencyCache.all_empty, rfl, Nat.zero_le _, Nat.zero_le _⟩

end Steps

section History

variable {Chain : Type} {upstream : Upstream Chain} {capacity contractBudget : Nat}
  {cache : SnapshotCache Chain} {snapshot : SeriesSnapshot Chain} {simulation : Uuid}
  {step now : Nat} {key : Uuid × Nat} {call : CacheCall Chain × Nat}
  {calls : List (CacheCall Chain × Nat)} {entry : CacheEntry (Uuid × Nat) (CachedSnapshot Chain)}

theorem lastInserted_concat :
    lastInserted key (calls ++ [call]) = (insertedBy key call.1).or (lastInserted key calls) := by
  simp [lastInserted, List.foldl_append]

theorem lastUsed_concat :
    lastUsed key (calls ++ [call]) =
      if uses key call.1 then some call.2 else lastUsed key calls := by
  simp [lastUsed, List.foldl_append]

theorem lastUsed_of_uses (used : uses key call.1 = true) :
    lastUsed key (calls ++ [call]) = some call.2 := by
  rw [lastUsed_concat, if_pos used]

theorem mem_insert (member : entry ∈
      (cache.insert upstream simulation snapshot now).entries.entries) :
    (entry ∈ cache.entries.entries ∧ entry.key ≠ (simulation, snapshot.step)) ∨
      entry = ⟨(simulation, snapshot.step),
        ⟨snapshot, snapshotContracts upstream snapshot⟩, now⟩ := by
  have others : ∀ other ∈ (cache.entries.remove (simulation, snapshot.step)).entries,
      other ∈ cache.entries.entries ∧ other.key ≠ (simulation, snapshot.step) := by
    intro other held
    obtain ⟨inside, different⟩ := List.mem_filter.mp held
    exact ⟨inside, of_decide_eq_true different⟩
  rw [insert_eq] at member
  split_ifs at member with heavy
  · rw [entries_removeEntry] at member
    exact .inl (others entry member)
  · dsimp only at member
    rw [RecencyCache.entries_insert (absent_cleared _ _), List.mem_append,
      List.mem_singleton] at member
    cases member with
    | inl left => exact .inl (others entry ((cleared_recent _ _).kept left))
    | inr own => exact .inr own

theorem holds_insert_iff (accounted : Accounted upstream capacity contractBudget cache) :
    (cache.insert upstream simulation snapshot now).entries.Holds (simulation, snapshot.step) ↔
      snapshotContracts upstream snapshot ≤ max contractBudget 1 := by
  rw [insert_eq, ← accounted.contractBudget]
  split_ifs with heavy
  · rw [entries_removeEntry]
    exact iff_of_false RecencyCache.not_holds_remove (not_le.mpr heavy)
  · exact iff_of_true (RecencyCache.holds_insert.mpr (.inl rfl)) (not_lt.mp heavy)

theorem mem_foldl_removeEntry {victims : List (Uuid × Nat)} :
    entry ∈ (victims.foldl removeEntry cache).entries.entries ↔
      entry ∈ cache.entries.entries ∧ entry.key ∉ victims := by
  induction victims generalizing cache with
  | nil => simp
  | cons key victims ih =>
      rw [List.foldl_cons, ih, entries_removeEntry, List.mem_cons, not_or]
      unfold RecencyCache.remove
      rw [List.mem_filter, decide_eq_true_eq, and_assoc]

theorem mem_evictSimulation :
    entry ∈ (cache.evictSimulation simulation).entries.entries ↔
      entry ∈ cache.entries.entries ∧ entry.key.1 ≠ simulation := by
  unfold evictSimulation
  rw [mem_foldl_removeEntry]
  constructor
  · intro left
    obtain ⟨member, spared⟩ := left
    refine ⟨member, fun own => spared ?_⟩
    exact List.mem_filter.mpr ⟨List.mem_map_of_mem member, decide_eq_true own⟩
  · intro left
    obtain ⟨member, foreign⟩ := left
    refine ⟨member, fun victim => foreign ?_⟩
    exact of_decide_eq_true (List.mem_filter.mp victim).2

theorem insertedBy_self :
    insertedBy (simulation, snapshot.step) (.insert simulation snapshot) = some snapshot :=
  if_pos rfl

theorem insertedBy_of_ne (other : key ≠ (simulation, snapshot.step)) :
    insertedBy key (.insert simulation snapshot) = none ∧
      uses key (.insert simulation snapshot) = false :=
  ⟨if_neg (Ne.symm other), decide_eq_false (Ne.symm other)⟩

theorem latest_of_unused {value : SeriesSnapshot Chain} {accessed : Nat}
    (silent : insertedBy key call.1 = none) (unused : uses key call.1 = false)
    (latest : lastInserted key calls = some value ∧ lastUsed key calls = some accessed) :
    lastInserted key (calls ++ [call]) = some value ∧
      lastUsed key (calls ++ [call]) = some accessed := by
  rw [lastInserted_concat, lastUsed_concat, silent, unused]
  exact latest

theorem Latest.apply (latest : Latest calls cache) :
    Latest (calls ++ [call]) (cache.apply upstream call) := by
  obtain ⟨call, now⟩ := call
  intro entry member
  cases call with
  | insert simulation snapshot =>
      obtain ⟨held, other⟩ | rfl := mem_insert member
      · obtain ⟨silent, unused⟩ := insertedBy_of_ne other
        exact latest_of_unused silent unused (latest entry held)
      · refine ⟨?_, lastUsed_of_uses (decide_eq_true rfl)⟩
        rw [lastInserted_concat, insertedBy_self]
        rfl
  | get simulation step =>
      change entry ∈ (((cache.get simulation step now).map (·.2)).getD cache).entries.entries
        at member
      unfold SnapshotCache.get at member
      cases found : cache.entries.find? (simulation, step) with
      | none =>
          rw [found] at member
          have held : entry ∈ cache.entries.entries := member
          have unused : uses entry.key (CacheCall.get simulation step : CacheCall Chain) =
              false := by
            apply decide_eq_false
            intro named
            exact RecencyCache.find?_eq_none.mp found ⟨entry, held, named.symm⟩
          exact latest_of_unused rfl unused (latest entry held)
      | some first =>
          rw [found] at member
          obtain ⟨old, held, rfl⟩ := List.mem_map.mp member
          by_cases named : old.key = (simulation, step)
          · rw [if_pos named]
            refine ⟨?_, lastUsed_of_uses (decide_eq_true named.symm)⟩
            rw [lastInserted_concat]
            exact (latest old held).1
          · rw [if_neg named]
            exact latest_of_unused rfl (decide_eq_false (Ne.symm named)) (latest old held)
  | evictSimulation simulation =>
      obtain ⟨held, -⟩ := mem_evictSimulation.mp member
      exact latest_of_unused rfl rfl (latest entry held)

theorem left_of_less_recent {other : CacheEntry (Uuid × Nat) (CachedSnapshot Chain)}
    (held : entry ∈ cache.entries.entries) (foreign : entry.key ≠ (simulation, snapshot.step))
    (otherHeld : other ∈ cache.entries.entries)
    (otherForeign : other.key ≠ (simulation, snapshot.step))
    (below : accessOrder other < accessOrder entry)
    (left : (cache.insert upstream simulation snapshot now).entries.Holds other.key) :
    entry ∈ (cache.insert upstream simulation snapshot now).entries.entries := by
  have among : entry ∈ (cache.entries.remove (simulation, snapshot.step)).entries :=
    List.mem_filter.mpr ⟨held, decide_eq_true foreign⟩
  obtain ⟨kept, keptLeft, keptKey⟩ := left
  rw [insert_eq] at keptLeft ⊢
  split_ifs at keptLeft ⊢ with heavy
  · rw [entries_removeEntry]
    exact among
  · dsimp only at keptLeft ⊢
    have absent : ¬ (cache.cleared (simulation, snapshot.step)
        (snapshotContracts upstream snapshot)).entries.Holds (simulation, snapshot.step) :=
      absent_cleared _ _
    rw [RecencyCache.entries_insert absent, List.mem_append, List.mem_singleton] at keptLeft ⊢
    have recent : RecencyCache.KeepsRecent accessOrder
        (cache.entries.remove (simulation, snapshot.step))
        (cache.cleared (simulation, snapshot.step)
          (snapshotContracts upstream snapshot)).entries :=
      cleared_recent _ _
    cases keptLeft with
    | inl roomy =>
        obtain rfl : kept = other :=
          List.inj_on_of_nodup_map cache.entries.distinct
            (List.mem_filter.mp (recent.kept roomy)).1 otherHeld keptKey
        exact .inl (recent.recent kept roomy entry among below)
    | inr own =>
        subst own
        exact absurd keptKey.symm otherForeign

theorem fate (member : entry ∈ cache.entries.entries) : Fate upstream cache call entry := by
  obtain ⟨call, now⟩ := call
  cases call with
  | insert simulation snapshot =>
      by_cases named : entry.key = (simulation, snapshot.step)
      · apply Fate.reinserted snapshot
        · rw [named]
        · rw [named]
      · by_cases left : entry ∈ (cache.insert upstream simulation snapshot now).entries.entries
        · exact .stays entry left rfl rfl
        · apply Fate.outlived simulation snapshot rfl
          intro other held below foreign resident
          exact left (left_of_less_recent member named held foreign below resident)
  | get simulation step =>
      cases found : cache.entries.find? (simulation, step) with
      | none =>
          refine .stays entry ?_ rfl rfl
          change entry ∈ (((cache.get simulation step now).map (·.2)).getD cache).entries.entries
          unfold SnapshotCache.get
          rw [found]
          exact member
      | some first =>
          refine .stays (if entry.key = (simulation, step) then { entry with lastAccess := now }
            else entry) ?_ ?_ ?_
          · change _ ∈ (((cache.get simulation step now).map (·.2)).getD cache).entries.entries
            unfold SnapshotCache.get
            rw [found]
            exact List.mem_map_of_mem member
          · split_ifs <;> rfl
          · split_ifs <;> rfl
  | evictSimulation simulation =>
      by_cases own : entry.key.1 = simulation
      · subst own
        exact .evicted rfl
      · exact .stays entry (mem_evictSimulation.mpr ⟨member, own⟩) rfl rfl

theorem accounted_afterCalls (fits : contractBudget < u64Limit) :
    Accounted upstream capacity contractBudget
        (afterCalls upstream capacity contractBudget calls) ∧
      Latest calls (afterCalls upstream capacity contractBudget calls) := by
  induction calls using List.reverseRecOn with
  | nil =>
      refine ⟨accounted_withBounds, ?_⟩
      intro entry member
      cases member
  | append_singleton calls call ih =>
      unfold afterCalls at ih ⊢
      rw [List.foldl_concat]
      exact ⟨ih.1.apply fits, ih.2.apply⟩

/-- After any calls the accounts are exact and within both bounds, an entry is the last one
inserted under its key, and the next call takes out only what it names and what was used less
recently than all that stays. -/
theorem represents_calls (fits : contractBudget < u64Limit) :
    let cache := afterCalls upstream capacity contractBudget calls
    cache.residentContracts = (cache.entries.entries.map fun entry =>
        snapshotContracts upstream entry.value.snapshot).sum ∧
      cache.entries.size ≤ max capacity 1 ∧ cache.residentContracts ≤ max contractBudget 1 ∧
      (∀ entry ∈ cache.entries.entries,
        lastInserted entry.key calls = some entry.value.snapshot ∧
          lastUsed entry.key calls = some entry.lastAccess) ∧
      (∀ simulation snapshot now,
        (cache.insert upstream simulation snapshot now).entries.Holds (simulation, snapshot.step) ↔
          snapshotContracts upstream snapshot ≤ max contractBudget 1) ∧
      ∀ call, ∀ entry ∈ cache.entries.entries, Fate upstream cache call entry := by
  obtain ⟨accounted, latest⟩ :=
    @accounted_afterCalls Chain upstream capacity contractBudget calls fits
  have weights : (afterCalls upstream capacity contractBudget calls).entries.total
      CachedSnapshot.contracts = ((afterCalls upstream capacity contractBudget
        calls).entries.entries.map fun entry =>
          snapshotContracts upstream entry.value.snapshot).sum :=
    congrArg List.sum (List.map_congr_left accounted.weighed)
  exact ⟨accounted.resident.trans weights, accounted.entries.trans_eq accounted.capacity,
    accounted.contracts.trans_eq accounted.contractBudget, latest,
    fun simulation snapshot now => holds_insert_iff accounted,
    fun call entry member => fate member⟩

/-- A snapshot of one contract. -/
def oneContract (step : Nat) : SeriesSnapshot Unit :=
  ⟨step, Expiry.thursdayNoon, .one, .one, [⟨Expiry.thursdayFivePm, .one, ["dailies"], ()⟩]⟩

def twoInserts : List (CacheCall Unit × Nat) :=
  [(.insert someId (oneContract 0), 0), (.insert someId (oneContract 1), 1)]

theorem represents_calls_twoInserts :
    (afterCalls Session.flatUpstream 1 1 twoInserts).residentContracts = 1 ∧
      (afterCalls Session.flatUpstream 1 1 twoInserts).entries.size ≤ 1 ∧
      Fate Session.flatUpstream (afterCalls Session.flatUpstream 1 1 twoInserts)
        (.insert someId (oneContract 2), 2)
        ⟨(someId, 1), ⟨oneContract 1, 1⟩, 1⟩ := by
  obtain ⟨resident, entries, -, -, -, fates⟩ :=
    @represents_calls Unit Session.flatUpstream 1 1 twoInserts (by decide)
  exact ⟨resident, entries, fates _ _ List.mem_cons_self⟩

end History

end OptionChainSimulator.Domain.SnapshotCache
