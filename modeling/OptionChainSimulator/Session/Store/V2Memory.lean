import Mathlib.Tactic
import OptionChainSimulator.Foundation.OrderedCollections
import OptionChainSimulator.Session.Store.V2Interface

namespace OptionChainSimulator.Session

open Foundation Utils

/-! The in-memory store of v2 simulations. Every operation runs under the map's
lock. -/

abbrev Documents := OrderedMap Uuid SessionV2

namespace InMemorySimulationStore

variable (service : Service)

def get (simulations : Documents) (id : Uuid) : Except ChainError SessionV2 :=
  okOr (simulations.get? id) (simulationNotFound id)

def create (simulations : Documents) (simulation : SessionV2) : Except ChainError Documents := do
  simulation.validate service
  match simulations.get? simulation.id with
  | some _ => .error (simulationExists simulation.id)
  | none => .ok (simulations.insert simulation.id simulation)

def saveCas (simulations : Documents) (simulation : SessionV2) (expectedVersion : Nat) :
    Except ChainError Documents := do
  simulation.validate service
  match simulations.get? simulation.id with
  | none => .error (simulationNotFound simulation.id)
  | some existing =>
      if existing.version ≠ expectedVersion then
        .error (.conflict <|
          s!"Simulation {simulation.id.hyphenated} was modified concurrently (expected version" ++
            s!" {expectedVersion}, found {existing.version})")
      else .ok (simulations.insert simulation.id simulation)

def delete (simulations : Documents) (id : Uuid) : Bool × Documents :=
  ((simulations.get? id).isSome, simulations.erase id)

/-- Idle for longer than the retention; a document stamped in the future is not. -/
def expired (retentionSecs : Nat) (now : SystemTime) (simulation : SessionV2) : Bool :=
  simulation.updatedAt ≤ now ∧ now - simulation.updatedAt > retentionSecs * 1000000000

def cleanup (retentionSecs : Nat) (now : SystemTime) (simulations : Documents) :
    List Uuid × Documents :=
  ((simulations.entries.filter fun entry => expired retentionSecs now entry.2).map (·.1),
    simulations.filter fun _ simulation => !expired retentionSecs now simulation)

end InMemorySimulationStore

open InMemorySimulationStore in
def inMemorySimulationStore (service : Service) (retentionSecs : Nat) : SimulationStore where
  State := Documents
  empty := .empty
  get := InMemorySimulationStore.get
  create := create service
  saveCas := saveCas service
  delete := delete
  cleanup := cleanup retentionSecs
  elapse _ simulations := simulations

namespace InMemorySimulationStore

/-- Every document is filed under its own id. -/
def Sound (simulations : Documents) : Prop :=
  ∀ id simulation, simulations.get? id = some simulation → simulation.id = id

variable {service : Service} {simulations after : Documents} {simulation : SessionV2}
  {expectedVersion : Nat}

theorem Sound.insert (sound : Sound simulations) :
    Sound (simulations.insert simulation.id simulation) := by
  intro id other found
  rw [OrderedMap.get?_insert] at found
  by_cases same : id = simulation.id
  · subst same
    rw [Function.update_self] at found
    cases found
    rfl
  · rw [Function.update_of_ne same] at found
    exact sound id other found

theorem Sound.filter {keep : Uuid → SessionV2 → Bool} (sound : Sound simulations) :
    Sound (simulations.filter keep) := by
  intro id other found
  rw [OrderedMap.get?_filter, Option.filter_eq_some_iff] at found
  exact sound id other found.1

theorem shrunk_filter {keep : Uuid → SessionV2 → Bool} :
    Shrunk simulations.get? (simulations.filter keep).get? := by
  intro id
  rw [OrderedMap.get?_filter]
  cases simulations.get? id with
  | none => exact .inl rfl
  | some simulation =>
      cases kept : keep id simulation with
      | true => exact .inr (by simp only [Option.filter_some, kept, if_true])
      | false => exact .inl (by simp [Option.filter_some, kept])

theorem of_create (created : create service simulations simulation = .ok after) :
    simulation.validate service = .ok () ∧
      after = simulations.insert simulation.id simulation := by
  obtain ⟨valid, filed⟩ := bind_unit_eq_ok.mp created
  cases held : simulations.get? simulation.id with
  | some other =>
      rw [held] at filed
      cases filed
  | none =>
      rw [held] at filed
      cases filed
      exact ⟨valid, rfl⟩

theorem of_saveCas (saved : saveCas service simulations simulation expectedVersion = .ok after) :
    (∃ old, simulations.get? simulation.id = some old ∧ old.version = expectedVersion) ∧
      after = simulations.insert simulation.id simulation := by
  obtain ⟨-, filed⟩ := bind_unit_eq_ok.mp saved
  cases held : simulations.get? simulation.id with
  | none =>
      rw [held] at filed
      cases filed
  | some old =>
      simp only [held] at filed
      split_ifs at filed with moved
      cases filed
      exact ⟨⟨old, rfl, not_not.mp moved⟩, rfl⟩

theorem of_saveCas_error {error : ChainError} (valid : simulation.validate service = .ok ())
    (refused : saveCas service simulations simulation expectedVersion = .error error) :
    (simulations.get? simulation.id = none ∧ error = simulationNotFound simulation.id) ∨
      ∃ old message, simulations.get? simulation.id = some old ∧
        old.version ≠ expectedVersion ∧ error = .conflict message := by
  unfold saveCas at refused
  rw [valid] at refused
  cases held : simulations.get? simulation.id with
  | none =>
      simp only [held] at refused
      cases refused
      exact .inl ⟨rfl, rfl⟩
  | some old =>
      simp only [held] at refused
      change (if old.version ≠ expectedVersion then _ else _) = _ at refused
      split_ifs at refused with moved
      cases refused
      exact .inr ⟨old, _, rfl, moved, rfl⟩

end InMemorySimulationStore

open InMemorySimulationStore in
def inMemorySimulationStore.atomic (service : Service) (retentionSecs : Nat) :
    (inMemorySimulationStore service retentionSecs).Atomic service where
  Sound := Sound
  stored simulations id := OrderedMap.get? simulations id
  sound_empty := by
    intro id simulation found
    cases found
  stored_empty _ := rfl
  stored_id sound found := sound _ _ found
  get_eq _ _ := rfl
  of_create sound created := by
    obtain ⟨valid, rfl⟩ := InMemorySimulationStore.of_create created
    exact ⟨valid, sound.insert, OrderedMap.get?_insert _ _ _⟩
  of_saveCas sound saved := by
    obtain ⟨current, rfl⟩ := InMemorySimulationStore.of_saveCas saved
    exact ⟨current, sound.insert, OrderedMap.get?_insert _ _ _⟩
  of_saveCas_error _ valid refused := InMemorySimulationStore.of_saveCas_error valid refused
  of_delete sound id := ⟨sound.filter, rfl, OrderedMap.get?_erase id _⟩
  of_cleanup sound now := ⟨sound.filter, shrunk_filter⟩
  of_elapse sound _ := ⟨sound, fun _ => .inr rfl⟩

end OptionChainSimulator.Session
