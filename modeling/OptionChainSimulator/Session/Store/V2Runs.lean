import Mathlib.Tactic
import OptionChainSimulator.Session.Store.V2Memory
import OptionChainSimulator.Session.Store.V2Redis

namespace OptionChainSimulator.Session

open Foundation Utils

/-! Runs of calls on a v2 store, one after the other, while time passes. -/

inductive StoreCall where
  | get (id : Uuid)
  | create (simulation : SessionV2)
  | saveCas (simulation : SessionV2) (expectedVersion : Nat)
  | delete (id : Uuid)
  | cleanup

inductive StoreResult where
  | got (found : Except ChainError SessionV2)
  | wrote (written : Except ChainError Unit)
  | deleted (deleted : Bool)
  | cleaned (ids : List Uuid)

inductive StoreAction where
  | call (call : StoreCall)
  | elapse (milliseconds : Nat)

namespace SimulationStore

/-- A write that fails leaves the store as it is. -/
def wrote {store : SimulationStore} (state : store.State) :
    Except ChainError store.State → store.State × StoreResult
  | .ok after => (after, .wrote (.ok ()))
  | .error e => (state, .wrote (.error e))

def perform (store : SimulationStore) (now : SystemTime) (state : store.State) :
    StoreCall → store.State × StoreResult
  | .get id => (state, .got (store.get state id))
  | .create simulation => wrote state (store.create state simulation)
  | .saveCas simulation expectedVersion =>
      wrote state (store.saveCas state simulation expectedVersion)
  | .delete id => ((store.delete state id).2, .deleted (store.delete state id).1)
  | .cleanup => ((store.cleanup now state).2, .cleaned (store.cleanup now state).1)

variable {store : SimulationStore} {state : store.State} {now : SystemTime}
  {simulation : SessionV2} {expectedVersion : Nat} {e : ChainError}

theorem perform_create_error (refused : store.create state simulation = .error e) :
    store.perform now state (.create simulation) = (state, .wrote (.error e)) := by
  rw [perform, refused, wrote]

theorem perform_saveCas_error
    (refused : store.saveCas state simulation expectedVersion = .error e) :
    store.perform now state (.saveCas simulation expectedVersion) =
      (state, .wrote (.error e)) := by
  rw [perform, refused, wrote]

end SimulationStore

/-- A store, the clock in milliseconds, and what its calls returned. -/
structure StoreRun (store : SimulationStore) where
  state : store.State
  clock : Nat
  results : List StoreResult

namespace StoreRun

variable {store : SimulationStore}

def start (store : SimulationStore) : StoreRun store := ⟨store.empty, 0, []⟩

/-- The clock as a reading of the wall clock, in nanoseconds. -/
def now (run : StoreRun store) : SystemTime := run.clock * 1000000

def after (run : StoreRun store) : StoreAction → StoreRun store
  | .call call =>
      let (state, result) := store.perform run.now run.state call
      ⟨state, run.clock, run.results ++ [result]⟩
  | .elapse milliseconds =>
      ⟨store.elapse milliseconds run.state, run.clock + milliseconds, run.results⟩

def through (run : StoreRun store) (actions : List StoreAction) : StoreRun store :=
  actions.foldl StoreRun.after run

variable {run : StoreRun store} {action : StoreAction} {actions more : List StoreAction}

@[simp] theorem through_cons :
    run.through (action :: actions) = (run.after action).through actions := rfl

theorem holds_through (holds : StoreRun store → Prop)
    (kept : ∀ {run action}, holds run → holds (run.after action)) (starts : holds run) :
    holds (run.through actions) := by
  induction actions generalizing run with
  | nil => exact starts
  | cons action actions ih => exact ih (kept starts)

end StoreRun

section Inversion

variable {service : Service} {retentionSecs : Nat} {keyspace after : Keyspace}
  {now : SystemTime} {call : StoreCall} {result : StoreResult}

open InRedisSimulationStore

/-- What one call does to the keys. -/
inductive KeyspaceStep (service : Service) (retentionSecs : Nat) (keyspace : Keyspace) :
    StoreCall → Keyspace → StoreResult → Prop where
  | get {id : Uuid} :
      KeyspaceStep service retentionSecs keyspace (.get id) keyspace
        (.got (InRedisSimulationStore.get service keyspace id))
  | create {simulation : SessionV2} (valid : simulation.validate service = .ok ())
      (vacant : stored keyspace simulation.id = none) :
      KeyspaceStep service retentionSecs keyspace (.create simulation)
        (keyspace.write retentionSecs simulation) (.wrote (.ok ()))
  | saveCas {simulation : SessionV2} {expectedVersion : Nat}
      (valid : simulation.validate service = .ok ())
      (held : (stored keyspace simulation.id).isSome) :
      KeyspaceStep service retentionSecs keyspace (.saveCas simulation expectedVersion)
        (keyspace.write retentionSecs simulation) (.wrote (.ok ()))
  | refuse {call : StoreCall} {e : ChainError} (writes : call ≠ .cleanup) :
      KeyspaceStep service retentionSecs keyspace call keyspace (.wrote (.error e))
  | delete {id : Uuid} {deleted : Bool} :
      KeyspaceStep service retentionSecs keyspace (.delete id) (keyspace.drop id)
        (.deleted deleted)
  | cleanup :
      KeyspaceStep service retentionSecs keyspace .cleanup (cleanupScript keyspace).2
        (.cleaned (cleanupScript keyspace).1)

theorem held_of_saveCas {simulation : SessionV2} {expectedVersion : Nat}
    (saved : saveCas service retentionSecs keyspace simulation expectedVersion = .ok after) :
    simulation.validate service = .ok () ∧ (stored keyspace simulation.id).isSome ∧
      after = keyspace.write retentionSecs simulation := by
  obtain ⟨valid, filed⟩ := bind_unit_eq_ok.mp saved
  refine ⟨valid, ?_⟩
  unfold saveCasScript at filed
  unfold stored
  cases held : Keyspace.live keyspace.clock keyspace.documents simulation.id with
  | none =>
      rw [held] at filed
      cases filed
  | some old =>
      rw [held] at filed
      dsimp only at filed
      split_ifs at filed with moved
      · cases filed
      · cases filed
        exact ⟨rfl, rfl⟩

theorem keyspaceStep_of_perform
    (performed : (inRedisSimulationStore service retentionSecs).perform now keyspace call =
      (after, result)) :
    KeyspaceStep service retentionSecs keyspace call after result := by
  cases call with
  | get id =>
      cases performed
      exact .get
  | create simulation =>
      change SimulationStore.wrote keyspace
        ((inRedisSimulationStore service retentionSecs).create keyspace simulation) = _ at performed
      cases created : (inRedisSimulationStore service retentionSecs).create keyspace simulation with
      | ok written =>
          rw [created] at performed
          cases performed
          obtain ⟨valid, vacant, rfl⟩ := of_create created
          exact .create valid vacant
      | error e =>
          rw [created] at performed
          cases performed
          exact .refuse fun same => by cases same
  | saveCas simulation expectedVersion =>
      change SimulationStore.wrote keyspace ((inRedisSimulationStore service
        retentionSecs).saveCas keyspace simulation expectedVersion) = _ at performed
      cases saved : (inRedisSimulationStore service retentionSecs).saveCas keyspace simulation
        expectedVersion with
      | ok written =>
          rw [saved] at performed
          cases performed
          obtain ⟨valid, held, rfl⟩ := held_of_saveCas saved
          exact .saveCas valid held
      | error e =>
          rw [saved] at performed
          cases performed
          exact .refuse fun same => by cases same
  | delete id =>
      cases performed
      exact .delete
  | cleanup =>
      cases performed
      exact .cleanup

end Inversion

end OptionChainSimulator.Session
