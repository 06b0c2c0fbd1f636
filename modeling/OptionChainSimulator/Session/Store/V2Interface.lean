import Mathlib.Tactic
import Mathlib.Logic.Function.Basic
import OptionChainSimulator.Session.ModelV2

namespace OptionChainSimulator.Session

open Utils

/-! What a v2 store does, and what the manager may rely on. -/

/-- The operations of `SimulationStore`, each one indivisible, and the passing of the
store's own time. -/
structure SimulationStore where
  State : Type
  empty : State
  get : State → Uuid → Except ChainError SessionV2
  create : State → SessionV2 → Except ChainError State
  saveCas : State → SessionV2 → (expectedVersion : Nat) → Except ChainError State
  delete : State → Uuid → Bool × State
  cleanup : (now : SystemTime) → State → List Uuid × State
  elapse : (milliseconds : Nat) → State → State

def simulationNotFound (id : Uuid) : ChainError :=
  .notFound s!"Simulation with id {id.hyphenated} not found"

def simulationExists (id : Uuid) : ChainError :=
  .alreadyExists s!"Simulation with id {id.hyphenated} already exists"

/-- The documents went away or stayed as they were. -/
def Shrunk (before after : Uuid → Option SessionV2) : Prop :=
  ∀ id, after id = none ∨ after id = before id

/-- A store whose operations act on one document at a time: each leaves every other
document alone, and a refused one changes nothing. -/
structure SimulationStore.Atomic (service : Service) (store : SimulationStore) where
  Sound : store.State → Prop
  stored : store.State → Uuid → Option SessionV2
  sound_empty : Sound store.empty
  stored_empty : ∀ id, stored store.empty id = none
  stored_id : ∀ {state id simulation}, Sound state → stored state id = some simulation →
    simulation.id = id
  get_eq : ∀ {state}, Sound state → ∀ id,
    store.get state id = okOr (stored state id) (simulationNotFound id)
  of_create : ∀ {state simulation after}, Sound state →
    store.create state simulation = .ok after →
    simulation.validate service = .ok () ∧ Sound after ∧
      stored after = Function.update (stored state) simulation.id (some simulation)
  of_saveCas : ∀ {state simulation expectedVersion after}, Sound state →
    store.saveCas state simulation expectedVersion = .ok after →
    (∃ old, stored state simulation.id = some old ∧ old.version = expectedVersion) ∧
      Sound after ∧
      stored after = Function.update (stored state) simulation.id (some simulation)
  of_saveCas_error : ∀ {state simulation expectedVersion error}, Sound state →
    simulation.validate service = .ok () →
    store.saveCas state simulation expectedVersion = .error error →
    (stored state simulation.id = none ∧ error = simulationNotFound simulation.id) ∨
      ∃ old message, stored state simulation.id = some old ∧ old.version ≠ expectedVersion ∧
        error = .conflict message
  of_delete : ∀ {state}, Sound state → ∀ id,
    Sound (store.delete state id).2 ∧
      (store.delete state id).1 = (stored state id).isSome ∧
      stored (store.delete state id).2 = Function.update (stored state) id none
  of_cleanup : ∀ {state}, Sound state → ∀ now,
    Sound (store.cleanup now state).2 ∧ Shrunk (stored state) (stored (store.cleanup now state).2)
  of_elapse : ∀ {state}, Sound state → ∀ milliseconds,
    Sound (store.elapse milliseconds state) ∧
      Shrunk (stored state) (stored (store.elapse milliseconds state))

end OptionChainSimulator.Session
