import Mathlib.Tactic
import OptionChainSimulator.Session.Store.V2Runs

namespace OptionChainSimulator.Session

open Foundation Utils InRedisSimulationStore

/-! The three keys of a v2 simulation in Redis, and which cleanup reports one that has
expired. -/

section Statement

variable {service : Service} {retentionSecs : Nat}

/-- A live document has a live revision key with its version, and an index entry. -/
def KeysMatch (keyspace : Keyspace) : Prop :=
  ∀ id simulation, stored keyspace id = some simulation →
    Keyspace.live keyspace.clock keyspace.revisions id = some simulation.version.repr ∧
      (keyspace.index.get? id).isSome

/-- The index entries whose deadline is not after this second. -/
def Keyspace.early (keyspace : Keyspace) (second : Nat) : List (Uuid × Nat) :=
  keyspace.index.entries.filter fun entry => entry.2 ≤ second

/-- Neither deletes this simulation nor stores it anew. -/
def StoreAction.Spares (service : Service) (id : Uuid) : StoreAction → Prop
  | .call (.delete other) => other ≠ id
  | .call (.create simulation) => simulation.id = id → simulation.validate service ≠ .ok ()
  | _ => True

def StoreAction.isCleanup : StoreAction → Bool
  | .call .cleanup => true
  | _ => false

/-- How often the cleanups reported an id. -/
def reports (id : Uuid) (results : List StoreResult) : Nat :=
  (results.map fun
    | .cleaned ids => ids.count id
    | _ => 0).sum

/-- A simulation whose document expires is reported once, by as many cleanups as it takes to
reap what was due by then. -/
structure Reaped (service : Service) (run : StoreRun (inRedisSimulationStore service retentionSecs))
    (milliseconds : Nat) (id : Uuid) (more : List StoreAction) : Prop where
  atMostOnce : reports id ((run.after (.elapse milliseconds)).through more).results ≤
    reports id run.results + 1
  once : 1 ≤ retentionSecs →
    (Keyspace.early (run.after (.elapse milliseconds)).state
      ((run.after (.elapse milliseconds)).state.clock / 1000)).length ≤
        cleanupBatch * more.countP (·.isCleanup) →
    reports id ((run.after (.elapse milliseconds)).through more).results =
      reports id run.results + 1

structure KeysHold (run : StoreRun (inRedisSimulationStore service retentionSecs)) : Prop where
  consistent : KeysMatch run.state
  gone : ∀ id ∈ (cleanupScript run.state).1, stored (cleanupScript run.state).2 id = none
  reaped : ∀ {milliseconds id more}, (stored run.state id).isSome →
    stored (run.after (.elapse milliseconds)).state id = none →
    (∀ action ∈ more, action.Spares service id) →
    Reaped service run milliseconds id more

end Statement

section Facts

variable {service : Service} {retentionSecs : Nat} {keyspace after : Keyspace}
  {simulation : SessionV2} {id : Uuid} {score : Nat}

/-- The index scores a document by the second it expires in. -/
structure Indexed (service : Service) (keyspace : Keyspace) : Prop where
  sound : Sound service keyspace
  deadline : ∀ {id held}, keyspace.documents.get? id = some held →
    keyspace.index.get? id = some (held.expiresAt / 1000)

theorem Indexed.write (indexed : Indexed service keyspace)
    (valid : simulation.validate service = .ok ()) :
    Indexed service (keyspace.write retentionSecs simulation) := by
  refine ⟨indexed.sound.write valid, fun {id held} present => ?_⟩
  unfold Keyspace.write Keyspace.setEx at present ⊢
  obtain ⟨rfl, rfl⟩ | ⟨different, earlier⟩ := OrderedMap.get?_insert_cases present
  · rw [OrderedMap.get?_insert, Function.update_self]
    exact congrArg some (by simp only; omega)
  · rw [OrderedMap.get?_insert, Function.update_of_ne different]
    exact indexed.deadline earlier

theorem Indexed.drop (indexed : Indexed service keyspace) :
    Indexed service (keyspace.drop id) := by
  refine ⟨indexed.sound.drop, fun {other held} present => ?_⟩
  unfold Keyspace.drop at present ⊢
  rw [OrderedMap.get?_erase, Function.update_apply] at present ⊢
  split_ifs at present ⊢
  exact indexed.deadline present

theorem Indexed.reap (indexed : Indexed service keyspace) (ids : List Uuid) :
    Indexed service (ids.foldl Keyspace.drop keyspace) := by
  induction ids generalizing keyspace with
  | nil => exact indexed
  | cons id ids ih => exact ih indexed.drop

theorem foldl_drop (keyspace : Keyspace) (ids : List Uuid) :
    (ids.foldl Keyspace.drop keyspace).clock = keyspace.clock ∧
      (∀ id, (ids.foldl Keyspace.drop keyspace).index.get? id =
        if id ∈ ids then none else keyspace.index.get? id) ∧
      (∀ id, (ids.foldl Keyspace.drop keyspace).documents.get? id =
        if id ∈ ids then none else keyspace.documents.get? id) := by
  induction ids generalizing keyspace with
  | nil => simp
  | cons dropped ids ih =>
      obtain ⟨clock, index, documents⟩ := ih (keyspace.drop dropped)
      refine ⟨clock, fun id => ?_, fun id => ?_⟩
      · rw [List.foldl_cons, index, Keyspace.drop, OrderedMap.get?_erase, Function.update_apply]
        by_cases later : id ∈ ids <;> by_cases same : id = dropped <;> simp [later, same]
      · rw [List.foldl_cons, documents, Keyspace.drop, OrderedMap.get?_erase,
          Function.update_apply]
        by_cases later : id ∈ ids <;> by_cases same : id = dropped <;> simp [later, same]

theorem stored_foldl_drop (keyspace : Keyspace) (ids : List Uuid) (id : Uuid) :
    stored (ids.foldl Keyspace.drop keyspace) id =
      if id ∈ ids then none else stored keyspace id := by
  obtain ⟨clock, -, documents⟩ := foldl_drop keyspace ids
  unfold stored Keyspace.live
  rw [clock, documents]
  split_ifs <;> rfl

theorem indexed_of_step {call : StoreCall} {result : StoreResult}
    (indexed : Indexed service keyspace)
    (stepped : KeyspaceStep service retentionSecs keyspace call after result) :
    Indexed service after := by
  cases stepped with
  | get | refuse => exact indexed
  | create valid | saveCas valid => exact indexed.write valid
  | delete => exact indexed.drop
  | cleanup => exact indexed.reap _

theorem Indexed.keysMatch (indexed : Indexed service keyspace) : KeysMatch keyspace := by
  intro id simulation held
  obtain ⟨expiresAt, present, -⟩ := live_eq_some.mp held
  refine ⟨(indexed.sound.revision held).2.2, ?_⟩
  rw [indexed.deadline present]
  rfl

theorem take_before {α : Type} {before : α → α → Prop} {list : List α} {count : Nat} {value : α}
    (sorted : list.Pairwise before) (member : value ∈ list) (beyond : value ∉ list.take count) :
    (list.take count).length = count ∧ ∀ taken ∈ list.take count, before taken value := by
  have dropped : value ∈ list.drop count := by
    rw [← List.take_append_drop count list] at member
    exact (List.mem_append.mp member).resolve_left beyond
  refine ⟨?_, fun taken first => ?_⟩
  · have longer : 0 < (list.drop count).length := List.length_pos_of_mem dropped
    rw [List.length_drop] at longer
    rw [List.length_take]
    omega
  · rw [← List.take_append_drop count list] at sorted
    exact (List.pairwise_append.mp sorted).2.2 taken first value dropped

theorem nodup_index (keyspace : Keyspace) : (keyspace.index.entries.map (·.1)).Nodup := by
  rw [List.Nodup, List.pairwise_map]
  exact keyspace.index.sorted.imp fun below => below.ne

theorem early_mono
    (fewer : ∀ entry ∈ after.index.entries, entry.2 ≤ score → entry ∈ keyspace.index.entries) :
    (after.early score).length ≤ (keyspace.early score).length := by
  have distinct : (after.early score).Nodup := (nodup_index after).of_map.filter _
  apply (distinct.subperm _).length_le
  intro entry member
  obtain ⟨held, early⟩ := List.mem_filter.mp member
  exact List.mem_filter.mpr ⟨fewer entry held (of_decide_eq_true early), early⟩

theorem early_le {second : Nat} (earlier : score ≤ second) :
    (keyspace.early score).length ≤ (keyspace.early second).length := by
  unfold Keyspace.early
  rw [← List.countP_eq_length_filter, ← List.countP_eq_length_filter]
  apply List.countP_mono_left
  intro entry _ early
  exact decide_eq_true ((of_decide_eq_true early).trans earlier)

/-- The due entries, the earliest first. -/
def Keyspace.queue (keyspace : Keyspace) : List (Uuid × Nat) :=
  (keyspace.early (keyspace.clock / 1000)).insertionSort fun left right => left.2 ≤ right.2

theorem reapable_eq : reapable keyspace = (keyspace.queue.take cleanupBatch).map (·.1) := rfl

theorem mem_queue {entry : Uuid × Nat} : entry ∈ keyspace.queue ↔
    keyspace.index.get? entry.1 = some entry.2 ∧ entry.2 ≤ keyspace.clock / 1000 := by
  rw [Keyspace.queue, (List.perm_insertionSort _ _).mem_iff, Keyspace.early, List.mem_filter,
    decide_eq_true_eq, ← OrderedMap.mem_entries_iff]

theorem nodup_reapable (keyspace : Keyspace) : (reapable keyspace).Nodup := by
  have queued : (keyspace.queue.map (·.1)).Nodup := by
    rw [Keyspace.queue, ((List.perm_insertionSort _ _).map _).nodup_iff]
    exact (nodup_index keyspace).sublist (List.filter_sublist.map _)
  rw [reapable_eq, List.map_take]
  exact queued.sublist (List.take_sublist ..)

theorem index_of_reapable (reaped : id ∈ reapable keyspace) :
    ∃ score, keyspace.index.get? id = some score ∧ score ≤ keyspace.clock / 1000 := by
  rw [reapable_eq] at reaped
  obtain ⟨entry, taken, rfl⟩ := List.mem_map.mp reaped
  exact ⟨entry.2, mem_queue.mp (List.mem_of_mem_take taken)⟩

/-- A due id is reaped, or a whole batch of entries that are not later is. -/
theorem reaped_or_passed (held : keyspace.index.get? id = some score)
    (due : score ≤ keyspace.clock / 1000) :
    id ∈ reapable keyspace ∨
      ((cleanupScript keyspace).2.early score).length + cleanupBatch ≤
        (keyspace.early score).length := by
  by_cases taken : (id, score) ∈ keyspace.queue.take cleanupBatch
  · left
    rw [reapable_eq]
    exact List.mem_map.mpr ⟨_, taken, rfl⟩
  right
  have sorted : keyspace.queue.Pairwise fun left right => left.2 ≤ right.2 :=
    List.pairwise_insertionSort _ _
  obtain ⟨whole, before⟩ := take_before sorted (mem_queue.mpr ⟨held, due⟩) taken
  have index := (foldl_drop keyspace (reapable keyspace)).2.1
  have apart :
      (keyspace.queue.take cleanupBatch ++ (cleanupScript keyspace).2.early score).Nodup := by
    refine List.nodup_append.mpr ⟨?_, (nodup_index _).of_map.filter _, ?_⟩
    · exact (nodup_reapable keyspace).of_map
    · intro entry first other left same
      subst same
      obtain ⟨present, -⟩ := List.mem_filter.mp left
      have present := OrderedMap.mem_entries_iff.mp present
      have removed : entry.1 ∈ reapable keyspace := by
        rw [reapable_eq]
        exact List.mem_map_of_mem first
      rw [cleanupScript, index, if_pos removed] at present
      cases present
  have within :
      ∀ entry ∈ keyspace.queue.take cleanupBatch ++ (cleanupScript keyspace).2.early score,
      entry ∈ keyspace.early score := by
    intro entry member
    cases List.mem_append.mp member with
    | inl first =>
        obtain ⟨present, -⟩ := mem_queue.mp (List.mem_of_mem_take first)
        exact List.mem_filter.mpr
          ⟨OrderedMap.mem_entries_iff.mpr present, decide_eq_true (before entry first)⟩
    | inr left =>
        obtain ⟨present, early⟩ := List.mem_filter.mp left
        have present := OrderedMap.mem_entries_iff.mp present
        rw [cleanupScript, index] at present
        split_ifs at present
        exact List.mem_filter.mpr ⟨OrderedMap.mem_entries_iff.mpr present, early⟩
  have fits := (apart.subperm within).length_le
  rw [List.length_append, whole] at fits
  omega

end Facts

section Runs

variable {service : Service} {retentionSecs milliseconds score : Nat}
  {run : StoreRun (inRedisSimulationStore service retentionSecs)} {id : Uuid}
  {action : StoreAction} {actions : List StoreAction}

/-- The keys of a run. -/
abbrev StoreRun.keyspace (run : StoreRun (inRedisSimulationStore service retentionSecs)) :
    Keyspace := run.state

theorem keyspaceStep_of_call (run : StoreRun (inRedisSimulationStore service retentionSecs))
    (call : StoreCall) :
    ∃ after result, run.after (.call call) = ⟨after, run.clock, run.results ++ [result]⟩ ∧
      KeyspaceStep service retentionSecs run.keyspace call after result :=
  ⟨_, _, rfl, keyspaceStep_of_perform rfl⟩

theorem indexed_through (actions : List StoreAction) :
    Indexed service ((StoreRun.start (inRedisSimulationStore service retentionSecs)).through
      actions).keyspace := by
  apply StoreRun.holds_through fun run => Indexed service run.keyspace
  · intro run action indexed
    cases action with
    | call call =>
        obtain ⟨after, result, moved, stepped⟩ := keyspaceStep_of_call run call
        rw [moved]
        exact indexed_of_step indexed stepped
    | elapse milliseconds => exact ⟨indexed.sound, indexed.deadline⟩
  · exact ⟨fun id held found => (by cases found), fun found => by cases found⟩

theorem reports_append {results : List StoreResult} {result : StoreResult} :
    reports id (results ++ [result]) = reports id results + reports id [result] := by
  simp [reports]

theorem reports_le_after : reports id run.results ≤ reports id (run.after action).results := by
  cases action with
  | elapse => exact le_rfl
  | call call =>
      rw [StoreRun.after, reports_append]
      exact Nat.le_add_right ..

/-- An expired simulation that is neither deleted nor stored anew stays away, and leaves the
index with the cleanup that reports it. -/
theorem tally_of_action (away : stored run.keyspace id = none) (spares : action.Spares service id) :
    stored (run.after action).keyspace id = none ∧
      reports id (run.after action).results +
          (if ((run.after action).keyspace.index.get? id).isSome then 1 else 0) =
        reports id run.results + (if (run.keyspace.index.get? id).isSome then 1 else 0) := by
  cases action with
  | elapse milliseconds =>
      refine ⟨?_, rfl⟩
      have shrunk : Shrunk (stored run.keyspace)
        (stored (run.after (.elapse milliseconds)).keyspace) := shrunk_elapse
      cases shrunk id with
      | inl gone => exact gone
      | inr kept => exact kept.trans away
  | call call =>
      obtain ⟨after, result, moved, stepped⟩ := keyspaceStep_of_call run call
      rw [moved]
      simp only [reports_append, StoreRun.keyspace]
      cases stepped with
      | get | refuse => exact ⟨away, rfl⟩
      | @create simulation valid vacant =>
          have other : id ≠ simulation.id := fun same => spares same.symm valid
          rw [stored_write, Function.update_of_ne other, Keyspace.write, OrderedMap.get?_insert,
            Function.update_of_ne other]
          exact ⟨away, rfl⟩
      | @saveCas simulation expectedVersion valid held =>
          have other : id ≠ simulation.id := by
            intro same
            rw [← same, away] at held
            cases held
          rw [stored_write, Function.update_of_ne other, Keyspace.write, OrderedMap.get?_insert,
            Function.update_of_ne other]
          exact ⟨away, rfl⟩
      | @delete dropped deleted =>
          have other : id ≠ dropped := fun same => spares same.symm
          rw [stored_drop, Function.update_of_ne other, Keyspace.drop, OrderedMap.get?_erase,
            Function.update_of_ne other]
          exact ⟨away, rfl⟩
      | cleanup =>
          obtain ⟨-, index, -⟩ := foldl_drop run.keyspace (reapable run.keyspace)
          rw [cleanupScript, stored_foldl_drop, index]
          by_cases reaped : id ∈ reapable run.keyspace
          · obtain ⟨score, present, -⟩ := index_of_reapable reaped
            have once : (reapable run.keyspace).count id = 1 :=
              List.count_eq_one_of_mem (nodup_reapable _) reaped
            simp [reports, reaped, once, present]
          · have never : (reapable run.keyspace).count id = 0 := List.count_eq_zero.mpr reaped
            simp [reports, reaped, never, away]

theorem held_early_write {keyspace : Keyspace} {simulation : SessionV2}
    (positive : 1 ≤ retentionSecs) (held : keyspace.index.get? id = some score)
    (due : score ≤ keyspace.clock / 1000) (other : simulation.id ≠ id) :
    (keyspace.write retentionSecs simulation).index.get? id = some score ∧
      score ≤ (keyspace.write retentionSecs simulation).clock / 1000 ∧
      ((keyspace.write retentionSecs simulation).early score).length ≤
        (keyspace.early score).length := by
  refine ⟨?_, due, early_mono fun entry member early => ?_⟩
  · rw [Keyspace.write, OrderedMap.get?_insert, Function.update_of_ne other.symm]
    exact held
  · have present := OrderedMap.mem_entries_iff.mp member
    obtain ⟨-, later⟩ | ⟨-, earlier⟩ := OrderedMap.get?_insert_cases present
    · omega
    · exact OrderedMap.mem_entries_iff.mpr earlier

/-- Each cleanup that does not reap a due id reaps a batch ahead of it. -/
theorem queue_of_action (positive : 1 ≤ retentionSecs) (away : stored run.keyspace id = none)
    (held : run.keyspace.index.get? id = some score) (due : score ≤ run.keyspace.clock / 1000)
    (spares : action.Spares service id) :
    (run.after action).keyspace.index.get? id = none ∨
      (run.after action).keyspace.index.get? id = some score ∧
        score ≤ (run.after action).keyspace.clock / 1000 ∧
        ((run.after action).keyspace.early score).length +
            cleanupBatch * [action].countP (·.isCleanup) ≤
          (run.keyspace.early score).length := by
  cases action with
  | elapse milliseconds =>
      refine .inr ⟨held, ?_, le_rfl⟩
      exact due.trans (Nat.div_le_div_right (Nat.le_add_right ..))
  | call call =>
      obtain ⟨after, result, moved, stepped⟩ := keyspaceStep_of_call run call
      rw [moved]
      simp only [StoreRun.keyspace]
      cases stepped with
      | get => exact .inr ⟨held, due, le_rfl⟩
      | refuse writes =>
          refine .inr ⟨held, due, ?_⟩
          cases call with
          | cleanup => exact absurd rfl writes
          | get | create | saveCas | delete => exact le_rfl
      | @create simulation valid vacant =>
          have other : simulation.id ≠ id := fun same => spares same valid
          exact .inr (held_early_write positive held due other)
      | @saveCas simulation expectedVersion valid present =>
          have other : simulation.id ≠ id := by
            intro same
            rw [same, away] at present
            cases present
          exact .inr (held_early_write positive held due other)
      | @delete dropped deleted =>
          have other : id ≠ dropped := fun same => spares same.symm
          refine .inr ⟨?_, due, early_mono fun entry member _ => ?_⟩
          · rw [Keyspace.drop, OrderedMap.get?_erase, Function.update_of_ne other]
            exact held
          · exact List.mem_of_mem_filter member
      | cleanup =>
          obtain ⟨clock, index, -⟩ := foldl_drop run.keyspace (reapable run.keyspace)
          by_cases reaped : id ∈ reapable run.keyspace
          · rw [cleanupScript, index, if_pos reaped]
            exact .inl rfl
          · refine .inr ⟨?_, ?_, ?_⟩
            · rw [cleanupScript, index, if_neg reaped]
              exact held
            · rw [cleanupScript, clock]
              exact due
            · exact (reaped_or_passed held due).resolve_left reaped

theorem tally_through (away : stored run.keyspace id = none)
    (spares : ∀ action ∈ actions, action.Spares service id) :
    reports id (run.through actions).results +
        (if ((run.through actions).keyspace.index.get? id).isSome then 1 else 0) =
      reports id run.results + (if (run.keyspace.index.get? id).isSome then 1 else 0) := by
  induction actions generalizing run with
  | nil => rfl
  | cons action actions ih =>
      obtain ⟨awayNext, tally⟩ := tally_of_action away (spares action List.mem_cons_self)
      rw [StoreRun.through_cons,
        ih awayNext fun other member => spares other (List.mem_cons_of_mem _ member)]
      exact tally

theorem gone_through (away : stored run.keyspace id = none)
    (gone : run.keyspace.index.get? id = none)
    (spares : ∀ action ∈ actions, action.Spares service id) :
    (run.through actions).keyspace.index.get? id = none := by
  induction actions generalizing run with
  | nil => exact gone
  | cons action actions ih =>
      obtain ⟨awayNext, tally⟩ := tally_of_action away (spares action List.mem_cons_self)
      apply ih awayNext
      · cases held : (run.after action).keyspace.index.get? id with
        | none => rfl
        | some score =>
            have grows : reports id run.results ≤ reports id (run.after action).results :=
              reports_le_after
            simp only [held, gone, Option.isSome_some, Option.isSome_none, if_true,
              Bool.false_eq_true, if_false] at tally
            omega
      · exact fun other member => spares other (List.mem_cons_of_mem _ member)

/-- With a cleanup for each batch that was due, a due id leaves the index. -/
theorem queue_through (positive : 1 ≤ retentionSecs) (away : stored run.keyspace id = none)
    (held : run.keyspace.index.get? id = some score) (due : score ≤ run.keyspace.clock / 1000)
    (spares : ∀ action ∈ actions, action.Spares service id) :
    (run.through actions).keyspace.index.get? id = none ∨
      (run.through actions).keyspace.index.get? id = some score ∧
        ((run.through actions).keyspace.early score).length +
            cleanupBatch * actions.countP (·.isCleanup) ≤
          (run.keyspace.early score).length := by
  induction actions generalizing run with
  | nil => exact .inr ⟨held, le_rfl⟩
  | cons action actions ih =>
      have rest : ∀ other ∈ actions, other.Spares service id :=
        fun other member => spares other (List.mem_cons_of_mem _ member)
      have first := spares action List.mem_cons_self
      obtain ⟨awayNext, -⟩ := tally_of_action away first
      rw [StoreRun.through_cons]
      obtain gone | ⟨heldNext, dueNext, moved⟩ := queue_of_action positive away held due first
      · exact .inl (gone_through awayNext gone rest)
      · obtain gone | ⟨heldLast, movedLast⟩ := ih awayNext heldNext dueNext rest
        · exact .inl gone
        · refine .inr ⟨heldLast, ?_⟩
          have counts : (action :: actions).countP (·.isCleanup) =
              [action].countP (·.isCleanup) + actions.countP (·.isCleanup) := by
            rw [← List.singleton_append, List.countP_append]
          rw [counts, Nat.mul_add]
          omega

end Runs

section Theorem

variable {service : Service} {retentionSecs : Nat}

/-- After any run of calls and passing time, the three keys agree, a cleanup reports nothing
that is still stored, and a simulation whose document expires is reported exactly once. -/
theorem keysHold_of_run (actions : List StoreAction) :
    KeysHold ((StoreRun.start (inRedisSimulationStore service retentionSecs)).through actions) := by
  have indexed := @indexed_through service retentionSecs actions
  generalize (StoreRun.start (inRedisSimulationStore service retentionSecs)).through actions = run
    at indexed ⊢
  refine ⟨indexed.keysMatch, fun id reaped => ?_, fun {milliseconds id more} held away spares => ?_⟩
  · change stored ((reapable run.keyspace).foldl Keyspace.drop run.keyspace) id = none
    rw [stored_foldl_drop]
    exact if_pos reaped
  · obtain ⟨simulation, held⟩ := Option.isSome_iff_exists.mp held
    obtain ⟨expiresAt, present, -⟩ := live_eq_some.mp held
    let elapsed := run.after (.elapse milliseconds)
    have entry : elapsed.keyspace.index.get? id = some (expiresAt / 1000) :=
      indexed.deadline present
    have due : expiresAt / 1000 ≤ elapsed.keyspace.clock / 1000 := by
      apply Nat.div_le_div_right
      by_contra later
      have alive : stored elapsed.keyspace id = some simulation :=
        live_eq_some.mpr ⟨expiresAt, present, by omega⟩
      rw [away] at alive
      cases alive
    have tally := tally_through away spares
    rw [if_pos (Option.isSome_iff_exists.mpr ⟨_, entry⟩)] at tally
    refine ⟨le_trans (Nat.le_add_right ..) tally.le, fun positive batches => ?_⟩
    obtain gone | ⟨last, passed⟩ := queue_through positive away entry due spares
    · rw [gone] at tally
      exact tally
    · have waiting : 1 ≤ ((elapsed.through more).keyspace.early (expiresAt / 1000)).length :=
        List.length_pos_of_mem (List.mem_filter.mpr
          ⟨OrderedMap.mem_entries_iff.mpr last, decide_eq_true le_rfl⟩)
      have ahead : (elapsed.keyspace.early (expiresAt / 1000)).length ≤
          (elapsed.keyspace.early (elapsed.keyspace.clock / 1000)).length := early_le due
      have short : ((elapsed.through more).keyspace.early (expiresAt / 1000)).length +
          cleanupBatch * more.countP (·.isCleanup) ≤ cleanupBatch * more.countP (·.isCleanup) :=
        passed.trans (ahead.trans batches)
      omega

end Theorem

end OptionChainSimulator.Session
