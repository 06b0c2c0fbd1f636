import Mathlib.Tactic
import OptionChainSimulator.Session.Horizon
import OptionChainSimulator.Session.Store.Reaping

namespace OptionChainSimulator.Session

open Foundation Utils InRedisSimulationStore

/-! The two v2 stores under the same calls at the same instants: where they agree on which
simulations have expired. -/

section Statement

/-- What a call came to, without the document and without the texts. A cleanup promises
nothing here. -/
def StoreResult.variant : StoreResult → Option (Except ChainError Bool)
  | .got found => some ((found.map fun _ => true).mapError ChainError.kind)
  | .wrote written => some ((written.map fun _ => true).mapError ChainError.kind)
  | .deleted existed => some (.ok existed)
  | .cleaned _ => none

/-- Every instant is a whole second, and every document is stamped with the one it is written
at. -/
def Stamped (clock : Nat) : List StoreAction → Prop
  | [] => True
  | .elapse milliseconds :: rest => 1000 ∣ milliseconds ∧ Stamped (clock + milliseconds) rest
  | .call (.create simulation) :: rest | .call (.saveCas simulation _) :: rest =>
      simulation.updatedAt = clock * 1000000 ∧ Stamped clock rest
  | .call _ :: rest => Stamped clock rest

/-- The window of a simulation that is in memory is not over, and no cleanup has reaped it
from Redis. -/
def InWindow (retentionSecs : Nat) (memory : Documents) (keyspace : Keyspace) (id : Uuid) : Prop :=
  ∀ simulation, memory.get? id = some simulation →
    (keyspace.clock * 1000000 : Int) ≤ simulation.updatedAt + retentionSecs * 1000000000 ∧
      (keyspace.index.get? id).isSome

/-- The call is about a simulation in its window. -/
def StoreCall.Unexpired (service : Service) (retentionSecs : Nat) (memory : Documents)
    (keyspace : Keyspace) : StoreCall → Prop
  | .get id | .delete id => InWindow retentionSecs memory keyspace id
  | .create simulation | .saveCas simulation _ =>
      simulation.validate service = .ok () →
        InWindow retentionSecs memory keyspace simulation.id
  | .cleanup => True

variable (service : Service) (retentionSecs : Nat)

abbrev memoryRun (actions : List StoreAction) :
    StoreRun (inMemorySimulationStore service retentionSecs) :=
  (StoreRun.start _).through actions

abbrev redisRun (actions : List StoreAction) :
    StoreRun (inRedisSimulationStore service retentionSecs) :=
  (StoreRun.start _).through actions

/-- Every call of the run is about a simulation in its window. -/
def CallsUnexpired (actions : List StoreAction) : Prop :=
  ∀ done call rest, actions = done ++ .call call :: rest →
    call.Unexpired service retentionSecs (memoryRun service retentionSecs done).state
      (redisRun service retentionSecs done).keyspace

end Statement

section Facts

variable {service : Service} {retentionSecs expectedVersion : Nat} {memory : Documents}
  {keyspace : Keyspace} {simulation : SessionV2} {id : Uuid} {now : SystemTime}
  {call : StoreCall}

/-- Redis has what memory has until its window ends, and may have reaped it from then on. -/
structure Agree (service : Service) (retentionSecs : Nat) (memory : Documents)
    (keyspace : Keyspace) : Prop where
  indexed : Indexed service keyspace
  whole : 1000 ∣ keyspace.clock
  held : ∀ {id simulation}, memory.get? id = some simulation →
    ∃ written : Nat, simulation.updatedAt = written * 1000000 ∧ 1000 ∣ written ∧
      (keyspace.documents.get? id = some ⟨simulation, written + retentionSecs * 1000⟩ ∨
        keyspace.documents.get? id = none ∧ keyspace.index.get? id = none ∧
          written + retentionSecs * 1000 ≤ keyspace.clock)
  away : ∀ {id}, memory.get? id = none → stored keyspace id = none

theorem Agree.stored_eq_iff (agree : Agree service retentionSecs memory keyspace) (id : Uuid) :
    stored keyspace id = memory.get? id ↔ InWindow retentionSecs memory keyspace id := by
  cases held : memory.get? id with
  | none =>
      refine ⟨fun _ simulation present => ?_, fun _ => agree.away held⟩
      rw [held] at present
      cases present
  | some simulation =>
      obtain ⟨written, stamp, -, present | ⟨absent, unlisted, -⟩⟩ := agree.held held
      · have listed := agree.indexed.deadline present
        constructor
        · intro same other found
          rw [held] at found
          cases found
          obtain ⟨expiresAt, again, alive⟩ := live_eq_some.mp same
          rw [present] at again
          cases again
          refine ⟨?_, ?_⟩
          · rw [stamp]
            omega
          · rw [listed]
            rfl
        · intro window
          obtain ⟨early, -⟩ := window simulation held
          rw [stamp] at early
          exact live_eq_some.mpr ⟨_, present, by omega⟩
      · constructor
        · intro same
          obtain ⟨_, present, -⟩ := live_eq_some.mp same
          rw [absent] at present
          cases present
        · intro window
          obtain ⟨-, listed⟩ := window simulation held
          rw [unlisted] at listed
          cases listed

theorem Agree.stored_cases (agree : Agree service retentionSecs memory keyspace) (id : Uuid) :
    stored keyspace id = memory.get? id ∨
      stored keyspace id = none ∧ (memory.get? id).isSome := by
  cases held : memory.get? id with
  | none => exact .inl (agree.away held)
  | some simulation =>
      obtain ⟨written, -, -, present | ⟨absent, -⟩⟩ := agree.held held
      · by_cases alive : keyspace.clock ≤ written + retentionSecs * 1000
        · exact .inl (live_eq_some.mpr ⟨_, present, alive⟩)
        · right
          simp [stored, Keyspace.live, present, alive]
      · right
        simp [stored, Keyspace.live, absent]

theorem Agree.write (agree : Agree service retentionSecs memory keyspace)
    (valid : simulation.validate service = .ok ())
    (stamp : simulation.updatedAt = keyspace.clock * 1000000) :
    Agree service retentionSecs (memory.insert simulation.id simulation)
      (keyspace.write retentionSecs simulation) := by
  refine ⟨agree.indexed.write valid, agree.whole, fun {id found} held => ?_, fun {id} gone => ?_⟩
  · obtain ⟨rfl, rfl⟩ | ⟨different, earlier⟩ := OrderedMap.get?_insert_cases held
    · refine ⟨keyspace.clock, stamp, agree.whole, .inl ?_⟩
      rw [Keyspace.write, Keyspace.setEx, OrderedMap.get?_insert, Function.update_self]
    · obtain ⟨written, stamp, whole, present⟩ := agree.held earlier
      refine ⟨written, stamp, whole, ?_⟩
      rw [Keyspace.write, Keyspace.setEx, OrderedMap.get?_insert, OrderedMap.get?_insert,
        Function.update_of_ne different, Function.update_of_ne different]
      exact present
  · rw [OrderedMap.get?_insert, Function.update_apply] at gone
    split_ifs at gone with same
    rw [stored_write, Function.update_of_ne same]
    exact agree.away gone

theorem Agree.delete (agree : Agree service retentionSecs memory keyspace) :
    Agree service retentionSecs (memory.erase id) (keyspace.drop id) := by
  refine ⟨agree.indexed.drop, agree.whole, fun {other found} held => ?_, fun {other} gone => ?_⟩
  · rw [OrderedMap.get?_erase, Function.update_apply] at held
    split_ifs at held with same
    obtain ⟨written, stamp, whole, present⟩ := agree.held held
    refine ⟨written, stamp, whole, ?_⟩
    rw [Keyspace.drop, OrderedMap.get?_erase, OrderedMap.get?_erase,
      Function.update_of_ne same, Function.update_of_ne same]
    exact present
  · rw [stored_drop, Function.update_apply]
    split_ifs with same
    · rfl
    · rw [OrderedMap.get?_erase, Function.update_of_ne same] at gone
      exact agree.away gone

theorem Agree.elapse {milliseconds : Nat} (agree : Agree service retentionSecs memory keyspace)
    (whole : 1000 ∣ milliseconds) :
    Agree service retentionSecs memory
      { keyspace with clock := keyspace.clock + milliseconds } := by
  refine ⟨⟨agree.indexed.sound, agree.indexed.deadline⟩, Nat.dvd_add agree.whole whole,
    fun held => ?_, fun {id} gone => ?_⟩
  · obtain ⟨written, stamp, multiple, present | ⟨absent, unlisted, over_⟩⟩ := agree.held held
    · exact ⟨written, stamp, multiple, .inl present⟩
    · exact ⟨written, stamp, multiple, .inr ⟨absent, unlisted, over_.trans (Nat.le_add_right ..)⟩⟩
  · have shrunk : Shrunk (stored keyspace)
      (stored { keyspace with clock := keyspace.clock + milliseconds }) := shrunk_elapse
    cases shrunk id with
    | inl away => exact away
    | inr kept => exact kept.trans (agree.away gone)

/-- A cleanup drops what is past its window from memory, and what is due from Redis. -/
theorem Agree.cleanup (agree : Agree service retentionSecs memory keyspace)
    (present : now = keyspace.clock * 1000000) :
    Agree service retentionSecs (InMemorySimulationStore.cleanup retentionSecs now memory).2
      (cleanupScript keyspace).2 := by
  obtain ⟨clock, index, documents⟩ := foldl_drop keyspace (reapable keyspace)
  refine ⟨agree.indexed.reap _, ?_, fun {id simulation} held => ?_, fun {id} gone => ?_⟩
  · rw [cleanupScript, clock]
    exact agree.whole
  · rw [InMemorySimulationStore.cleanup, OrderedMap.get?_filter,
      Option.filter_eq_some_iff] at held
    obtain ⟨written, stamp, multiple, filed⟩ := agree.held held.1
    refine ⟨written, stamp, multiple, ?_⟩
    rw [cleanupScript, documents, index, clock]
    by_cases reaped : id ∈ reapable keyspace
    · obtain ⟨score, listed, due⟩ := index_of_reapable reaped
      rw [if_pos reaped, if_pos reaped]
      refine .inr ⟨rfl, rfl, ?_⟩
      cases filed with
      | inl filed =>
          rw [agree.indexed.deadline filed] at listed
          cases listed
          have whole := agree.whole
          simp only at due
          omega
      | inr gone => exact gone.2.2
    · rw [if_neg reaped, if_neg reaped]
      exact filed
  · rw [cleanupScript, stored_foldl_drop]
    split_ifs with reaped
    · rfl
    rw [InMemorySimulationStore.cleanup, OrderedMap.get?_filter, Option.filter_eq_none_iff] at gone
    obtain same | ⟨away, -⟩ := agree.stored_cases id
    · cases held : memory.get? id with
      | none => exact agree.away held
      | some simulation =>
          have expired := gone simulation held
          obtain ⟨early, -⟩ := (agree.stored_eq_iff id).mp same simulation held
          rw [Bool.not_eq_true, Bool.not_eq_false', InMemorySimulationStore.expired,
            decide_eq_true_eq] at expired
          obtain ⟨-, late⟩ := expired
          rw [present] at late
          have late : retentionSecs * 1000000000 <
            (keyspace.clock * 1000000 : Int) - simulation.updatedAt := late
          omega
    · exact away

/-! What the calls come to, by what is stored under the id. -/

theorem memory_create (valid : simulation.validate service = .ok ()) :
    (inMemorySimulationStore service retentionSecs).perform now memory (.create simulation) =
      (memory.get? simulation.id).elim (memory.insert simulation.id simulation, .wrote (.ok ()))
        fun _ => (memory, .wrote (.error (simulationExists simulation.id))) := by
  have created : (inMemorySimulationStore service retentionSecs).create memory simulation =
      (memory.get? simulation.id).elim (.ok (memory.insert simulation.id simulation))
        fun _ => .error (simulationExists simulation.id) := by
    change (simulation.validate service >>= fun _ => _) = _
    rw [valid]
    cases memory.get? simulation.id <;> rfl
  change SimulationStore.wrote memory ((inMemorySimulationStore service retentionSecs).create
    memory simulation) = _
  rw [created]
  cases memory.get? simulation.id <;> rfl

theorem createScript_eq : createScript retentionSecs keyspace simulation =
    (stored keyspace simulation.id).elim (1, keyspace.write retentionSecs simulation)
      fun _ => (0, keyspace) := by
  unfold createScript stored
  cases Keyspace.live keyspace.clock keyspace.documents simulation.id <;> rfl

theorem redis_create (valid : simulation.validate service = .ok ()) :
    (inRedisSimulationStore service retentionSecs).perform now keyspace (.create simulation) =
      (stored keyspace simulation.id).elim
        (keyspace.write retentionSecs simulation, .wrote (.ok ()))
        fun _ => (keyspace, .wrote (.error (simulationExists simulation.id))) := by
  have created : (inRedisSimulationStore service retentionSecs).create keyspace simulation =
      (stored keyspace simulation.id).elim (.ok (keyspace.write retentionSecs simulation))
        fun _ => .error (simulationExists simulation.id) := by
    change (simulation.validate service >>= fun _ => _) = _
    rw [valid]
    rw [createScript_eq]
    cases stored keyspace simulation.id <;> rfl
  change SimulationStore.wrote keyspace ((inRedisSimulationStore service retentionSecs).create
    keyspace simulation) = _
  rw [created]
  cases stored keyspace simulation.id <;> rfl

theorem memory_saveCas (valid : simulation.validate service = .ok ()) :
    ∃ message, (inMemorySimulationStore service retentionSecs).perform now memory
        (.saveCas simulation expectedVersion) =
      (memory.get? simulation.id).elim
        (memory, .wrote (.error (simulationNotFound simulation.id))) fun old =>
          if old.version = expectedVersion then
            (memory.insert simulation.id simulation, .wrote (.ok ()))
          else (memory, .wrote (.error (.conflict message))) := by
  change ∃ message, SimulationStore.wrote memory ((inMemorySimulationStore service
    retentionSecs).saveCas memory simulation expectedVersion) = _
  cases saved : (inMemorySimulationStore service retentionSecs).saveCas memory simulation
    expectedVersion with
  | ok after =>
      obtain ⟨⟨old, held, current⟩, rfl⟩ := InMemorySimulationStore.of_saveCas saved
      exact ⟨"", by simp only [held, current, Option.elim_some, if_true]; rfl⟩
  | error e =>
      obtain ⟨vacant, rfl⟩ | ⟨old, message, held, moved, rfl⟩ :=
        InMemorySimulationStore.of_saveCas_error valid saved
      · exact ⟨"", by simp only [vacant, Option.elim_none]; rfl⟩
      · exact ⟨message, by simp only [held, moved, Option.elim_some, if_false]; rfl⟩

theorem redis_saveCas (sound : Sound service keyspace)
    (valid : simulation.validate service = .ok ()) :
    ∃ message, (inRedisSimulationStore service retentionSecs).perform now keyspace
        (.saveCas simulation expectedVersion) =
      (stored keyspace simulation.id).elim
        (keyspace, .wrote (.error (simulationNotFound simulation.id))) fun old =>
          if old.version = expectedVersion then
            (keyspace.write retentionSecs simulation, .wrote (.ok ()))
          else (keyspace, .wrote (.error (.conflict message))) := by
  change ∃ message, SimulationStore.wrote keyspace ((inRedisSimulationStore service
    retentionSecs).saveCas keyspace simulation expectedVersion) = _
  cases saved : (inRedisSimulationStore service retentionSecs).saveCas keyspace simulation
    expectedVersion with
  | ok after =>
      obtain ⟨-, ⟨old, held, current⟩, rfl⟩ := of_saveCas sound saved
      exact ⟨"", by simp only [held, current, Option.elim_some, if_true]; rfl⟩
  | error e =>
      obtain ⟨vacant, rfl⟩ | ⟨old, message, held, moved, rfl⟩ :=
        of_saveCas_error sound valid saved
      · exact ⟨"", by simp only [vacant, Option.elim_none]; rfl⟩
      · exact ⟨message, by simp only [held, moved, Option.elim_some, if_false]; rfl⟩

theorem create_refused {e : ChainError} (invalid : simulation.validate service = .error e) :
    (inMemorySimulationStore service retentionSecs).create memory simulation = .error e ∧
      (inRedisSimulationStore service retentionSecs).create keyspace simulation = .error e := by
  constructor <;>
    (change (simulation.validate service >>= fun _ => _) = _
     rw [invalid]
     rfl)

theorem saveCas_refused {e : ChainError} (invalid : simulation.validate service = .error e) :
    (inMemorySimulationStore service retentionSecs).saveCas memory simulation expectedVersion =
        .error e ∧
      (inRedisSimulationStore service retentionSecs).saveCas keyspace simulation expectedVersion =
        .error e := by
  constructor <;>
    (change (simulation.validate service >>= fun _ => _) = _
     rw [invalid]
     rfl)

/-- The two stores answer a call alike exactly where it is about a simulation in its window,
and still agree after it. -/
theorem perform_agrees (agree : Agree service retentionSecs memory keyspace)
    (present : now = keyspace.clock * 1000000) (stamped : Stamped keyspace.clock [.call call]) :
    ((((inMemorySimulationStore service retentionSecs).perform now memory call).2.variant =
        ((inRedisSimulationStore service retentionSecs).perform now keyspace call).2.variant) ↔
      call.Unexpired service retentionSecs memory keyspace) ∧
    (call.Unexpired service retentionSecs memory keyspace →
      Agree service retentionSecs
        ((inMemorySimulationStore service retentionSecs).perform now memory call).1
        ((inRedisSimulationStore service retentionSecs).perform now keyspace call).1) := by
  have sound := agree.indexed.sound
  cases call with
  | get id =>
      refine ⟨?_, fun _ => agree⟩
      rw [StoreCall.Unexpired, ← agree.stored_eq_iff id]
      change (StoreResult.got (okOr (memory.get? id) _)).variant =
        (StoreResult.got (get service keyspace id)).variant ↔ _
      rw [get_eq sound]
      obtain same | ⟨gone, held⟩ := agree.stored_cases id
      · rw [same]
        exact iff_of_true rfl rfl
      · obtain ⟨document, held⟩ := Option.isSome_iff_exists.mp held
        rw [gone, held]
        exact iff_of_false (fun alike => by cases alike) fun alike => by cases alike
  | create simulation =>
      obtain ⟨stamp, -⟩ := stamped
      cases valid : simulation.validate service with
      | error e =>
          obtain ⟨inMemory, inRedis⟩ := create_refused valid
          rw [SimulationStore.perform_create_error inMemory,
            SimulationStore.perform_create_error inRedis]
          refine ⟨iff_of_true rfl fun impossible => ?_, fun _ => agree⟩
          rw [valid] at impossible
          cases impossible
      | ok =>
          rw [memory_create valid, redis_create valid, StoreCall.Unexpired,
            ← agree.stored_eq_iff, valid]
          obtain same | ⟨gone, held⟩ := agree.stored_cases simulation.id
          · rw [same]
            refine ⟨iff_of_true ?_ fun _ => rfl, fun _ => ?_⟩
            · cases memory.get? simulation.id <;> rfl
            · cases memory.get? simulation.id with
              | none => exact agree.write valid stamp
              | some document => exact agree
          · obtain ⟨document, held⟩ := Option.isSome_iff_exists.mp held
            rw [gone, held]
            exact ⟨iff_of_false (fun alike => (by cases alike)) fun alike => (by cases alike rfl),
              fun alike => by cases alike rfl⟩
  | saveCas simulation expectedVersion =>
      obtain ⟨stamp, -⟩ := stamped
      cases valid : simulation.validate service with
      | error e =>
          obtain ⟨inMemory, inRedis⟩ := saveCas_refused valid
          rw [SimulationStore.perform_saveCas_error inMemory,
            SimulationStore.perform_saveCas_error inRedis]
          refine ⟨iff_of_true rfl fun impossible => ?_, fun _ => agree⟩
          rw [valid] at impossible
          cases impossible
      | ok =>
          obtain ⟨message, inMemory⟩ := memory_saveCas valid
          obtain ⟨other, inRedis⟩ := redis_saveCas sound valid
          rw [inMemory, inRedis, StoreCall.Unexpired, ← agree.stored_eq_iff, valid]
          obtain same | ⟨gone, held⟩ := agree.stored_cases simulation.id
          · rw [same]
            cases memory.get? simulation.id with
            | none => exact ⟨iff_of_true rfl fun _ => rfl, fun _ => agree⟩
            | some old =>
                by_cases current : old.version = expectedVersion
                · rw [Option.elim_some, Option.elim_some, if_pos current, if_pos current]
                  exact ⟨iff_of_true rfl fun _ => rfl, fun _ => agree.write valid stamp⟩
                · rw [Option.elim_some, Option.elim_some, if_neg current, if_neg current]
                  exact ⟨iff_of_true rfl fun _ => rfl, fun _ => agree⟩
          · obtain ⟨document, held⟩ := Option.isSome_iff_exists.mp held
            rw [gone, held]
            refine ⟨iff_of_false ?_ fun alike => (by cases alike rfl),
              fun alike => by cases alike rfl⟩
            by_cases current : document.version = expectedVersion
            · rw [Option.elim_some, if_pos current]
              exact fun alike => by cases alike
            · rw [Option.elim_some, if_neg current]
              exact fun alike => by cases alike
  | delete id =>
      rw [StoreCall.Unexpired, ← agree.stored_eq_iff id]
      refine ⟨?_, fun _ => agree.delete⟩
      change (StoreResult.deleted (memory.get? id).isSome).variant =
        (StoreResult.deleted (delete keyspace id).1).variant ↔ _
      have existed : (delete keyspace id).1 = (stored keyspace id).isSome :=
        ((inRedisSimulationStore.atomic service retentionSecs).of_delete sound id).2.1
      rw [existed]
      obtain same | ⟨gone, held⟩ := agree.stored_cases id
      · rw [same]
        exact iff_of_true rfl rfl
      · rw [gone, held]
        refine iff_of_false (fun alike => by cases alike) fun alike => ?_
        rw [← alike] at held
        cases held
  | cleanup => exact ⟨⟨fun _ => trivial, fun _ => rfl⟩, fun _ => agree.cleanup present⟩

end Facts

section Runs

variable {service : Service} {retentionSecs : Nat}
  {memory : StoreRun (inMemorySimulationStore service retentionSecs)}
  {redis : StoreRun (inRedisSimulationStore service retentionSecs)}
  {action : StoreAction} {actions : List StoreAction}

/-- Two runs after the same actions that agreed so far. -/
structure RunsAgree (memory : StoreRun (inMemorySimulationStore service retentionSecs))
    (redis : StoreRun (inRedisSimulationStore service retentionSecs)) : Prop where
  stores : Agree service retentionSecs memory.state redis.keyspace
  memoryClock : memory.clock = redis.keyspace.clock
  redisClock : redis.clock = redis.keyspace.clock

/-- The results two runs came to, as far as the stores promise to agree. -/
def StoreRun.variants {store : SimulationStore} (run : StoreRun store) :
    List (Option (Except ChainError Bool)) :=
  run.results.map StoreResult.variant

theorem variants_prefix {store : SimulationStore} {run : StoreRun store} :
    run.variants <+: (run.through actions).variants := by
  induction actions generalizing run with
  | nil => exact List.prefix_refl _
  | cons action actions ih =>
      rw [StoreRun.through_cons]
      refine List.IsPrefix.trans ?_ ih
      cases action with
      | elapse => exact List.prefix_refl _
      | call call =>
          rw [StoreRun.variants, StoreRun.variants, StoreRun.after, List.map_append]
          exact List.prefix_append ..

theorem variants_call {store : SimulationStore} {run : StoreRun store} {call : StoreCall} :
    (run.after (.call call)).variants =
      run.variants ++ [(store.perform run.now run.state call).2.variant] :=
  List.map_append

theorem clock_of_step {keyspace after : Keyspace} {call : StoreCall} {result : StoreResult}
    (stepped : KeyspaceStep service retentionSecs keyspace call after result) :
    after.clock = keyspace.clock := by
  cases stepped with
  | get | create | saveCas | refuse | delete => rfl
  | cleanup => exact (foldl_drop keyspace _).1

theorem clock_after_call {call : StoreCall} :
    (redis.after (.call call)).keyspace.clock = redis.keyspace.clock := by
  obtain ⟨after, result, moved, stepped⟩ := keyspaceStep_of_call redis call
  rw [moved]
  exact clock_of_step stepped

theorem stamped_call {clock : Nat} {call : StoreCall} :
    Stamped clock (.call call :: actions) ↔ Stamped clock [.call call] ∧ Stamped clock actions := by
  cases call <;> simp [Stamped]

theorem forall_calls_cons {holds : List StoreAction → StoreCall → Prop} :
    (∀ done call rest, action :: actions = done ++ .call call :: rest → holds done call) ↔
      (∀ call, action = .call call → holds [] call) ∧
        ∀ done call rest, actions = done ++ .call call :: rest → holds (action :: done) call := by
  constructor
  · intro all
    refine ⟨fun call first => all [] call actions (by rw [first]; rfl),
      fun done call rest split => ?_⟩
    exact all (action :: done) call rest (by rw [split]; rfl)
  · intro both done call rest split
    cases done with
    | nil =>
        cases split
        exact both.1 call rfl
    | cons first done =>
        cases split
        exact both.2 done call rest rfl

theorem RunsAgree.elapse {milliseconds : Nat} (agree : RunsAgree memory redis)
    (whole : 1000 ∣ milliseconds) :
    RunsAgree (memory.after (.elapse milliseconds)) (redis.after (.elapse milliseconds)) := by
  refine ⟨agree.stores.elapse whole, ?_, ?_⟩
  · exact congrArg (· + milliseconds) agree.memoryClock
  · exact congrArg (· + milliseconds) agree.redisClock

theorem RunsAgree.call {call : StoreCall} (agree : RunsAgree memory redis)
    (same : memory.variants = redis.variants)
    (stamped : Stamped redis.keyspace.clock [.call call]) :
    ((memory.after (.call call)).variants = (redis.after (.call call)).variants ↔
        call.Unexpired service retentionSecs memory.state redis.keyspace) ∧
      (call.Unexpired service retentionSecs memory.state redis.keyspace →
        RunsAgree (memory.after (.call call)) (redis.after (.call call))) := by
  have clocks : memory.now = redis.now := by
    rw [StoreRun.now, StoreRun.now, agree.memoryClock, agree.redisClock]
  have present : redis.now = redis.keyspace.clock * 1000000 := by
    rw [StoreRun.now, agree.redisClock]
  obtain ⟨alike, agrees⟩ := perform_agrees agree.stores present stamped
  rw [variants_call, variants_call, clocks, same, List.append_cancel_left_eq, List.singleton_inj]
  refine ⟨alike, fun unexpired => ?_⟩
  refine ⟨?_, agree.memoryClock.trans clock_after_call.symm,
    agree.redisClock.trans clock_after_call.symm⟩
  have moved : (memory.after (.call call)).state =
      ((inMemorySimulationStore service retentionSecs).perform redis.now memory.state call).1 := by
    rw [← clocks]
    rfl
  rw [moved]
  exact agrees unexpired

/-- The stores answer the rest of a run alike exactly where all of its calls are in the window. -/
theorem variants_agree_iff (agree : RunsAgree memory redis)
    (same : memory.variants = redis.variants) (stamped : Stamped redis.keyspace.clock actions) :
    (memory.through actions).variants = (redis.through actions).variants ↔
      ∀ done call rest, actions = done ++ .call call :: rest →
        call.Unexpired service retentionSecs (memory.through done).state
          (redis.through done).keyspace := by
  induction actions generalizing memory redis with
  | nil =>
      refine iff_of_true same fun done call rest split => ?_
      simp at split
  | cons action actions ih =>
      rw [@forall_calls_cons action actions fun done call =>
        call.Unexpired service retentionSecs (memory.through done).state
          (redis.through done).keyspace]
      cases action with
      | elapse milliseconds =>
          obtain ⟨whole, rest⟩ := stamped
          rw [StoreRun.through_cons, StoreRun.through_cons, ih (agree.elapse whole) same rest]
          exact ⟨fun all => ⟨fun _ impossible => (by cases impossible), all⟩, fun both => both.2⟩
      | call call =>
          obtain ⟨single, rest⟩ := stamped_call.mp stamped
          obtain ⟨alike, next⟩ := agree.call same single
          rw [StoreRun.through_cons, StoreRun.through_cons]
          constructor
          · intro final
            have length : (memory.after (.call call)).variants.length =
                (redis.after (.call call)).variants.length := by
              rw [variants_call, variants_call, List.length_append, List.length_append, same]
              rfl
            have first : (memory.after (.call call)).variants =
                (redis.after (.call call)).variants := by
              have left : (memory.after (.call call)).variants <+:
                  ((redis.after (.call call)).through actions).variants :=
                final ▸ variants_prefix
              exact (List.prefix_of_prefix_length_le left variants_prefix length.le).eq_of_length
                length
            have unexpired := alike.mp first
            refine ⟨fun other equal => ?_, (ih (next unexpired) first ?_).mp final⟩
            · cases equal
              exact unexpired
            · rw [clock_after_call]
              exact rest
          · intro both
            have unexpired := both.1 call rfl
            apply (ih (next unexpired) (alike.mpr unexpired) ?_).mpr both.2
            rw [clock_after_call]
            exact rest

end Runs

section Theorem

variable {service : Service} {retentionSecs : Nat} {actions : List StoreAction}

/-- Under the same calls at the same instants, the two stores answer alike exactly where every
call is about a simulation whose window is not over; a window of no second is none to Redis. -/
theorem storesAgree_iff (_window : 1 ≤ retentionSecs) (stamped : Stamped 0 actions) :
    (memoryRun service retentionSecs actions).variants =
        (redisRun service retentionSecs actions).variants ↔
      CallsUnexpired service retentionSecs actions := by
  have starts : RunsAgree (StoreRun.start (inMemorySimulationStore service retentionSecs))
      (StoreRun.start (inRedisSimulationStore service retentionSecs)) := by
    refine ⟨⟨⟨fun id held found => (by cases found), fun found => by cases found⟩,
      Nat.dvd_zero _, fun held => (by cases held), fun _ => rfl⟩, rfl, rfl⟩
  exact variants_agree_iff starts rfl stamped

/-- A simulation as it is created at this second. -/
def simulationAt (second : Nat) : SessionV2 :=
  .new (dailyParameters Domain.Expiry.thursdayNoon) someId (second * 1000000000)

/-- With a window of a minute: a read at its end, a cleanup after it, and a new simulation. -/
def readingInTime : List StoreAction :=
  [.call (.create (simulationAt 0)), .elapse 60000, .call (.get someId), .elapse 1000,
    .call .cleanup, .call (.create (simulationAt 61))]

theorem storesAgree_iff_inTime :
    (redisRun utcService 60 readingInTime).variants =
        [some (.ok true), some (.ok true), none, some (.ok true)] ∧
      CallsUnexpired utcService 60 readingInTime := by
  have stamped : Stamped 0 readingInTime := by
    simp [readingInTime, Stamped, simulationAt, SessionV2.new]
  have alike : (memoryRun utcService 60 readingInTime).variants =
      (redisRun utcService 60 readingInTime).variants := by
    decide +kernel
  exact ⟨by decide +kernel, (storesAgree_iff (by decide) stamped).mp alike⟩

def readingLate : List StoreAction :=
  [.call (.create (simulationAt 0)), .elapse 61000, .call (.get someId)]

/-- The cleanup runs at the very second the window ends. -/
def cleaningAtTheEnd : List StoreAction :=
  [.call (.create (simulationAt 0)), .elapse 60000, .call .cleanup, .call (.get someId)]

theorem readingLate_differs :
    Stamped 0 readingLate ∧ Stamped 0 cleaningAtTheEnd ∧
      (memoryRun utcService 60 readingLate).variants = [some (.ok true), some (.ok true)] ∧
      (redisRun utcService 60 readingLate).variants =
        [some (.ok true), some (.error (.notFound ""))] ∧
      (memoryRun utcService 60 cleaningAtTheEnd).variants =
        [some (.ok true), none, some (.ok true)] ∧
      (redisRun utcService 60 cleaningAtTheEnd).variants =
        [some (.ok true), none, some (.error (.notFound ""))] := by
  refine ⟨?_, ?_, by decide +kernel, by decide +kernel, by decide +kernel, by decide +kernel⟩
  · simp [readingLate, Stamped, simulationAt, SessionV2.new]
  · simp [cleaningAtTheEnd, Stamped, simulationAt, SessionV2.new]

end Theorem

end OptionChainSimulator.Session
