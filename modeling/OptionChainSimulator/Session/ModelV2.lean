import Mathlib.Tactic
import OptionChainSimulator.Utils.Uuid
import OptionChainSimulator.Session.State
import OptionChainSimulator.Session.ParametersV2

namespace OptionChainSimulator.Session

open Foundation Utils

/-! A v2 simulation: a document with a cursor, a lifecycle state and a revision. -/

def sessionV2SchemaVersion : Nat := 1

structure SessionV2 where
  id : Uuid
  schemaVersion : Nat
  createdAt : SystemTime
  updatedAt : SystemTime
  parameters : SimulationParametersV2
  currentStep : Nat
  totalSteps : Nat
  state : SessionState
  version : Nat
  deriving DecidableEq

namespace SessionV2

def new (parameters : SimulationParametersV2) (id : Uuid) (now : SystemTime) : SessionV2 where
  id := id
  schemaVersion := sessionV2SchemaVersion
  createdAt := now
  updatedAt := now
  parameters := parameters
  currentStep := 0
  totalSteps := parameters.steps
  state := .initialized
  version := 0

def validateState (simulation : SessionV2) : Except ChainError Unit :=
  let unreachable (reason : String) : Except ChainError Unit := .error (.validation "state" reason)
  let state := simulation.state.display
  match simulation.state with
  | .modified | .reinitialized | .error =>
      unreachable
        s!"{state} is unreachable for a v2 simulation, which is immutable after creation"
  | .initialized =>
      if simulation.currentStep ≠ 0 then
        unreachable s!"{state} requires a cursor of 0, got {simulation.currentStep}"
      else .ok ()
  | .completed =>
      if simulation.currentStep ≠ simulation.totalSteps then
        unreachable <|
          s!"{state} requires the cursor to have reached total_steps" ++
            s!" ({simulation.totalSteps}), got {simulation.currentStep}"
      else .ok ()
  | .inProgress =>
      if simulation.currentStep = 0 ∨ simulation.currentStep ≥ simulation.totalSteps then
        unreachable <|
          s!"{state} requires a cursor between 1 and total_steps" ++
            s!" ({simulation.totalSteps}) exclusive, got {simulation.currentStep}"
      else .ok ()

def schemaField (schemaVersion : Nat) : Except ChainError Unit :=
  if schemaVersion > sessionV2SchemaVersion then
    .error (.validation "schema_version" <|
      s!"document was written under schema {schemaVersion} but this binary understands at most" ++
        s!" {sessionV2SchemaVersion}")
  else .ok ()

def totalStepsField (steps totalSteps : Nat) : Except ChainError Unit :=
  if totalSteps ≠ steps then
    .error (.validation "total_steps"
      s!"must equal the parameters' steps ({steps}), got {totalSteps}")
  else .ok ()

def currentStepField (totalSteps currentStep : Nat) : Except ChainError Unit :=
  if currentStep > totalSteps then
    .error (.validation "current_step"
      s!"must not exceed total_steps ({totalSteps}), got {currentStep}")
  else .ok ()

def validate (service : Service) (simulation : SessionV2) : Except ChainError Unit := do
  schemaField simulation.schemaVersion
  simulation.parameters.validate service
  totalStepsField simulation.parameters.steps simulation.totalSteps
  currentStepField simulation.totalSteps simulation.currentStep
  simulation.validateState

/-- Whether the cursor has served every snapshot. -/
def isComplete (simulation : SessionV2) : Bool := simulation.totalSteps ≤ simulation.currentStep

def bumpVersion (simulation : SessionV2) (now : SystemTime) : Except ChainError SessionV2 := do
  let version ← okOr (unsigned? u64Limit (simulation.version + 1))
    (.internal s!"version counter overflowed for simulation {simulation.id.hyphenated}")
  return { simulation with version := version, updatedAt := now }

/-- The cursor, state and revision an advance writes. -/
def advanced (simulation : SessionV2) (now : SystemTime) : Except ChainError SessionV2 := do
  let currentStep ← okOr (unsigned? u64Limit (simulation.currentStep + 1))
    (.internal "the cursor overflowed")
  let moved := { simulation with currentStep := currentStep }
  let moved := { moved with state := if moved.isComplete then .completed else .inProgress }
  moved.bumpVersion now

/-- `SimulationManager::reject_terminal`. -/
def rejectTerminal (simulation : SessionV2) (what : String) : Except ChainError Unit :=
  if simulation.state = .completed ∨ simulation.isComplete then
    .error (.simulatorError s!"simulation completed; {what}")
  else if simulation.state = .error then
    .error (.invalidState "simulation is in error state")
  else .ok ()

/-- The lifecycle state is the one the cursor says. -/
structure StateOfCursor (simulation : SessionV2) : Prop where
  initialized : simulation.state = .initialized ↔ simulation.currentStep = 0
  completed : simulation.state = .completed ↔
    simulation.currentStep = simulation.parameters.steps
  inProgress : simulation.state = .inProgress ↔
    simulation.currentStep ≠ 0 ∧ simulation.currentStep ≠ simulation.parameters.steps

theorem steps_of_validate {service : Service} {parameters : SimulationParametersV2}
    (valid : parameters.validate service = .ok ()) :
    1 ≤ parameters.steps ∧ parameters.steps < u64Limit := by
  unfold SimulationParametersV2.validate at valid
  obtain ⟨steps, -⟩ := bind_unit_eq_ok.mp valid
  unfold stepsField at steps
  split_ifs at steps with none many
  have fits := service.limits.stepsFit
  omega

variable {service : Service} {simulation moved : SessionV2} {now : SystemTime} {what : String}

theorem validate_eq_ok : simulation.validate service = .ok () ↔
    simulation.schemaVersion ≤ sessionV2SchemaVersion ∧
      simulation.parameters.validate service = .ok () ∧
      simulation.totalSteps = simulation.parameters.steps ∧
      simulation.currentStep ≤ simulation.totalSteps ∧ simulation.validateState = .ok () := by
  simp only [validate, bind_unit_eq_ok, schemaField, totalStepsField, currentStepField]
  simp

theorem validateState_eq_ok : simulation.validateState = .ok () ↔
    (simulation.state = .initialized ∧ simulation.currentStep = 0) ∨
      (simulation.state = .completed ∧ simulation.currentStep = simulation.totalSteps) ∨
      (simulation.state = .inProgress ∧ simulation.currentStep ≠ 0 ∧
        simulation.currentStep < simulation.totalSteps) := by
  unfold validateState
  cases state : simulation.state <;> simp [not_or]

theorem stateOfCursor_of_validate (valid : simulation.validate service = .ok ()) :
    simulation.StateOfCursor := by
  obtain ⟨-, parameters, total, within, state⟩ := validate_eq_ok.mp valid
  have positive := (steps_of_validate parameters).1
  rw [validateState_eq_ok] at state
  constructor <;> cases stateIs : simulation.state <;> simp [stateIs] at state ⊢ <;> omega

theorem rejectTerminal_eq_ok (valid : simulation.validate service = .ok ()) :
    simulation.rejectTerminal what = .ok () ↔ simulation.currentStep < simulation.totalSteps := by
  obtain ⟨-, -, total, within, -⟩ := validate_eq_ok.mp valid
  have states := stateOfCursor_of_validate valid
  unfold rejectTerminal isComplete
  constructor
  · intro accepted
    split_ifs at accepted with done failed
    simpa using (not_or.mp done).2
  · intro left
    have unfinished : simulation.state ≠ .completed := by
      rw [Ne, states.completed]
      omega
    have running : simulation.state ≠ .error := by
      intro failed
      have started := states.initialized
      have going := states.inProgress
      simp only [failed, reduceCtorEq, false_iff] at started going
      omega
    simp [unfinished, running, left]

theorem unfinished_iff (valid : simulation.validate service = .ok ()) :
    simulation.state ≠ .completed ↔ simulation.currentStep < simulation.totalSteps := by
  obtain ⟨-, -, total, within, -⟩ := validate_eq_ok.mp valid
  rw [Ne, (stateOfCursor_of_validate valid).completed]
  omega

theorem rejectTerminal_completed (done : simulation.state = .completed) :
    simulation.rejectTerminal what = .error (.simulatorError s!"simulation completed; {what}") := by
  simp [rejectTerminal, done]

theorem advanced_eq_ok : simulation.advanced now = .ok moved ↔
    simulation.currentStep + 1 < u64Limit ∧ simulation.version + 1 < u64Limit ∧
      moved = { simulation with
        currentStep := simulation.currentStep + 1
        version := simulation.version + 1
        updatedAt := now
        state := if simulation.totalSteps ≤ simulation.currentStep + 1 then .completed
          else .inProgress } := by
  unfold advanced bumpVersion
  simp only [bind_eq_ok, okOr_eq_ok, unsigned?_eq_some, isComplete]
  constructor
  · intro succeeded
    obtain ⟨_, ⟨cursorFits, rfl⟩, _, ⟨versionFits, rfl⟩, kept⟩ := succeeded
    cases kept
    exact ⟨cursorFits, versionFits, by simp⟩
  · intro succeeded
    obtain ⟨cursorFits, versionFits, rfl⟩ := succeeded
    exact ⟨_, ⟨cursorFits, rfl⟩, _, ⟨versionFits, rfl⟩, by simp [pure, Except.pure]⟩

theorem validate_advanced (valid : simulation.validate service = .ok ())
    (left : simulation.currentStep < simulation.totalSteps)
    (advancing : simulation.advanced now = .ok moved) : moved.validate service = .ok () := by
  obtain ⟨-, -, rfl⟩ := advanced_eq_ok.mp advancing
  obtain ⟨schema, parameters, total, within, -⟩ := validate_eq_ok.mp valid
  refine validate_eq_ok.mpr ⟨schema, parameters, total, left, ?_⟩
  rw [validateState_eq_ok]
  by_cases last : simulation.totalSteps ≤ simulation.currentStep + 1
  · simp only [last, if_true]
    simp
    omega
  · simp only [last, if_false]
    simp
    omega

theorem validate_new {parameters : SimulationParametersV2} {id : Uuid} :
    (new parameters id now).validate service = parameters.validate service := by
  have state : (new parameters id now).validateState = .ok () :=
    validateState_eq_ok.mpr (.inl ⟨rfl, rfl⟩)
  unfold validate
  rw [state]
  simp only [new, schemaField, totalStepsField, currentStepField]
  cases parameters.validate service with
  | error error => simp; rfl
  | ok value => simp; rfl

end SessionV2

end OptionChainSimulator.Session
