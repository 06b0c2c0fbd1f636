import Mathlib.Tactic
import OptionChainSimulator.Foundation.MachineInt
import OptionChainSimulator.Foundation.OrderedCollections
import OptionChainSimulator.Utils.Uuid
import OptionChainSimulator.Utils.Error
import OptionChainSimulator.Domain.WalkType
import OptionChainSimulator.Session.State

set_option linter.dupNamespace false

namespace OptionChainSimulator.Session

open Foundation Utils Domain

/-! A v1 session, whose parameters can be replaced, and the in-memory store of
sessions. -/

@[ext]
structure SimulationParameters where
  symbol : String
  steps : Nat
  initialPrice : Positive
  daysToExpiration : Positive
  volatility : Positive
  riskFreeRate : Decimal
  dividendYield : Positive
  method : SimulationMethod
  timeFrame : TimeFrame
  chainSize : Option Nat
  strikeInterval : Option Positive
  skewSlope : Option Decimal
  smileCurve : Option Decimal
  spread : Option Positive
  seed : Option Nat
  deriving DecidableEq

structure Session where
  id : Uuid
  createdAt : SystemTime
  updatedAt : SystemTime
  parameters : SimulationParameters
  currentStep : Nat
  totalSteps : Nat
  state : SessionState
  version : Nat
  deriving DecidableEq

namespace Session

def withRandomId (parameters : SimulationParameters) (id : Uuid) (now : SystemTime) :
    Session where
  id := id
  createdAt := now
  updatedAt := now
  parameters := parameters
  currentStep := 0
  totalSteps := parameters.steps
  state := .initialized
  version := 0

def advanceStep (session : Session) (now : SystemTime) : Except ChainError Session :=
  if session.totalSteps ≤ session.currentStep then
    .error (.sessionError "Session has completed all steps")
  else
    let moved := { session with currentStep := session.currentStep + 1, updatedAt := now }
    .ok { moved with
      state :=
        if moved.currentStep = moved.totalSteps then .completed
        else if moved.state = .initialized ∨ moved.state = .modified then .inProgress
        else moved.state }

/-- `StateProgressionHandler::advance_state`. -/
def advanceState (session : Session) (now : SystemTime) : Except ChainError Session :=
  match session.state with
  | .initialized | .modified | .reinitialized =>
      { session with state := .inProgress }.advanceStep now
  | .inProgress => session.advanceStep now
  | .completed => .error (.invalidState "Session has completed all steps")
  | .error => .error (.invalidState "Session is in error state")

def reinitialize (session : Session) (parameters : SimulationParameters) (now : SystemTime) :
    Session :=
  { session with
    totalSteps := parameters.steps
    parameters := parameters
    currentStep := 0
    updatedAt := now
    state := .reinitialized }

def bumpVersion (session : Session) : Except ChainError Session := do
  let version ← okOr (unsigned? u64Limit (session.version + 1))
    (.internal "session version overflow")
  return { session with version := version }

/-- The cursor, state and revision an advance writes. -/
def advanced (session : Session) (now : SystemTime) : Except ChainError Session := do
  let moved ← session.advanceState now
  moved.bumpVersion

/-- What a parameter change writes. -/
def replaced (session : Session) (parameters : SimulationParameters) (now : SystemTime) :
    Except ChainError Session :=
  (session.reinitialize parameters now).bumpVersion

variable {session moved : Session} {parameters : SimulationParameters} {now : SystemTime}

theorem bumpVersion_eq_ok : session.bumpVersion = .ok moved ↔
    session.version + 1 < u64Limit ∧ moved = { session with version := session.version + 1 } := by
  simp only [bumpVersion, bind_eq_ok, okOr_eq_ok, unsigned?_eq_some, pure, Except.pure,
    Except.ok.injEq]
  constructor
  · intro succeeded
    obtain ⟨_, ⟨fits, rfl⟩, rfl⟩ := succeeded
    exact ⟨fits, rfl⟩
  · intro succeeded
    obtain ⟨fits, rfl⟩ := succeeded
    exact ⟨_, ⟨fits, rfl⟩, rfl⟩

theorem replaced_eq_ok : session.replaced parameters now = .ok moved ↔
    session.version + 1 < u64Limit ∧
      moved = { session.reinitialize parameters now with version := session.version + 1 } := by
  rw [replaced, bumpVersion_eq_ok]
  rfl

theorem advanceState_eq_ok {stepped : Session}
    (progressed : session.advanceState now = .ok stepped) :
    session.currentStep < session.totalSteps ∧ stepped = { session with
      currentStep := session.currentStep + 1
      updatedAt := now
      state := if session.currentStep + 1 = session.totalSteps then .completed
        else .inProgress } := by
  unfold advanceState at progressed
  cases held : session.state with
  | completed =>
      rw [held] at progressed
      cases progressed
  | error =>
      rw [held] at progressed
      cases progressed
  | initialized | modified | reinitialized | inProgress =>
      simp only [held, advanceStep] at progressed
      by_cases done : session.totalSteps ≤ session.currentStep
      · rw [if_pos done] at progressed
        cases progressed
      · rw [if_neg done] at progressed
        cases progressed
        exact ⟨not_le.mp done, rfl⟩

theorem advanced_eq_ok (advancing : session.advanced now = .ok moved) :
    session.currentStep < session.totalSteps ∧
      ∃ state, (state = .inProgress ∨ state = .completed) ∧
        moved = { session with
          currentStep := session.currentStep + 1
          updatedAt := now
          state := state
          version := session.version + 1 } := by
  obtain ⟨stepped, progressed, bumped⟩ := bind_eq_ok.mp advancing
  obtain ⟨-, rfl⟩ := bumpVersion_eq_ok.mp bumped
  obtain ⟨left, rfl⟩ := advanceState_eq_ok progressed
  refine ⟨left, _, ?_, rfl⟩
  split_ifs <;> simp

theorem state_of_advanced (advancing : session.advanced now = .ok moved) :
    moved.state = if moved.currentStep = moved.totalSteps then .completed else .inProgress := by
  obtain ⟨stepped, progressed, bumped⟩ := bind_eq_ok.mp advancing
  obtain ⟨-, rfl⟩ := bumpVersion_eq_ok.mp bumped
  obtain ⟨-, rfl⟩ := advanceState_eq_ok progressed
  rfl

theorem advanced_of_left (left : session.currentStep < session.totalSteps)
    (running : session.state ≠ .completed) (sound : session.state ≠ .error)
    (fits : session.version + 1 < u64Limit) : ∃ moved, session.advanced now = .ok moved := by
  have progressed : ∃ stepped, session.advanceState now = .ok stepped ∧
      stepped.version = session.version := by
    unfold advanceState
    cases held : session.state with
    | completed => exact absurd held running
    | error => exact absurd held sound
    | initialized | modified | reinitialized | inProgress =>
        simp only [advanceStep, if_neg (not_le.mpr left)]
        exact ⟨_, rfl, rfl⟩
  obtain ⟨stepped, progressed, same⟩ := progressed
  refine ⟨_, bind_eq_ok.mpr ⟨stepped, progressed, bumpVersion_eq_ok.mpr ⟨?_, rfl⟩⟩⟩
  rwa [same]

end Session

abbrev Sessions := OrderedMap Uuid Session

def sessionNotFound (id : Uuid) : ChainError :=
  .notFound s!"Session with id {id.hyphenated} not found"

/-! Every operation of `InMemorySessionStore` runs under the map's lock. -/

namespace InMemorySessionStore

def get (sessions : Sessions) (id : Uuid) : Except ChainError Session :=
  okOr (sessions.get? id) (sessionNotFound id)

def create (sessions : Sessions) (session : Session) : Except ChainError Sessions :=
  match sessions.get? session.id with
  | some _ => .error (.alreadyExists s!"Session with id {session.id.hyphenated} already exists")
  | none => .ok (sessions.insert session.id session)

def saveCas (sessions : Sessions) (session : Session) (expectedVersion : Nat) :
    Except ChainError Sessions :=
  match sessions.get? session.id with
  | none => .error (sessionNotFound session.id)
  | some existing =>
      if existing.version ≠ expectedVersion then
        .error (.conflict <|
          s!"Session {session.id.hyphenated} was modified concurrently (expected version" ++
            s!" {expectedVersion}, found {existing.version})")
      else .ok (sessions.insert session.id session)

def delete (sessions : Sessions) (id : Uuid) : Bool × Sessions :=
  ((sessions.get? id).isSome, sessions.erase id)

/-- Older than thirty minutes, in whole seconds. -/
def expired (now : SystemTime) (session : Session) : Bool :=
  session.updatedAt ≤ now ∧ (now - session.updatedAt) / 1000000000 > 1800

def cleanup (now : SystemTime) (sessions : Sessions) : Nat × Sessions :=
  ((sessions.entries.filter fun entry => expired now entry.2).length,
    sessions.filter fun _ session => !expired now session)

variable {sessions after : Sessions} {session : Session} {expectedVersion : Nat} {id : Uuid}
  {e : ChainError}

theorem create_eq_ok (created : create sessions session = .ok after) :
    sessions.get? session.id = none ∧ after = sessions.insert session.id session := by
  unfold create at created
  split at created
  · cases created
  · next vacant =>
    cases created
    exact ⟨vacant, rfl⟩

theorem saveCas_eq_ok (saved : saveCas sessions session expectedVersion = .ok after) :
    (∃ existing, sessions.get? session.id = some existing ∧
        existing.version = expectedVersion) ∧
      after = sessions.insert session.id session := by
  unfold saveCas at saved
  split at saved
  · cases saved
  · next existing held =>
    split_ifs at saved with moved
    cases saved
    exact ⟨⟨existing, held, not_not.mp moved⟩, rfl⟩

theorem saveCas_eq_error (lost : saveCas sessions session expectedVersion = .error e) :
    sessions.get? session.id = none ∧ e = sessionNotFound session.id ∨
      ∃ existing message, sessions.get? session.id = some existing ∧
        existing.version ≠ expectedVersion ∧ e = .conflict message := by
  unfold saveCas at lost
  split at lost
  · next vacant =>
    cases lost
    exact .inl ⟨vacant, rfl⟩
  · next existing held =>
    split_ifs at lost with moved
    cases lost
    exact .inr ⟨existing, _, held, moved, rfl⟩

theorem held_of_delete {other : Uuid} (held : (delete sessions id).2.get? other = some session) :
    sessions.get? other = some session := by
  rw [delete, OrderedMap.get?_erase, Function.update_apply] at held
  split_ifs at held
  exact held

theorem held_of_cleanup {now : SystemTime} {other : Uuid}
    (held : (cleanup now sessions).2.get? other = some session) :
    sessions.get? other = some session := by
  rw [cleanup, OrderedMap.get?_filter, Option.filter_eq_some_iff] at held
  exact held.1

end InMemorySessionStore

end OptionChainSimulator.Session
