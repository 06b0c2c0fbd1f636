import Mathlib.Tactic
import OptionChainSimulator.Session.ManagerFacts
import OptionChainSimulator.Session.TapeCalls

namespace OptionChainSimulator.Session

open Foundation Foundation.Protocol Utils Domain

/-! Every step of a simulation is served once, whatever calls interleave. -/

section Statement

variable {Chain : Type} (runtime : Runtime Chain) {store : SimulationStore}

/-- What is stored for an id. -/
def Manager.stored {service : Service} (atomic : store.Atomic service)
    (manager : Manager Chain store) (id : Uuid) : Option SessionV2 :=
  atomic.stored manager.ledger.documents id

/-- The stored document of a simulation created with the given parameters. -/
structure Consistent (created : Option SimulationParametersV2) (simulation : SessionV2) :
    Prop where
  valid : simulation.validate runtime.service = .ok ()
  version : simulation.version = simulation.currentStep
  totalSteps : simulation.totalSteps = simulation.parameters.steps
  parameters : created = some simulation.parameters
  state : simulation.StateOfCursor

/-- The next section of a call that reads an id is told that nothing is left, or that
nothing is there. -/
def ReadsNothing (atomic : store.Atomic runtime.service) (id : Uuid)
    (config : SimulationConfig Chain store) : Prop :=
  ∀ call route moment next, config.calls call = .active (.reading route id) →
    (managerCalls runtime store).step config (.call call (.proceed moment)) = some next →
    (config.shared.stored atomic id = none ∧
        next.calls call = .active (refused (simulationNotFound id))) ∨
      (config.shared.stored atomic id ≠ none ∧
        next.calls call =
          .active (refused (.simulatorError s!"simulation completed; {route.lacking}")))

structure ExactlyOnce (atomic : store.Atomic runtime.service)
    (config : SimulationConfig Chain store) : Prop where
  steps : ∀ {id parameters}, config.shared.ledger.created id = some parameters →
    ∃ count ≤ parameters.steps, config.shared.ledger.steps id = List.range count
  answered : ∀ {call moved snapshot},
    config.calls call = .active (.done (.ok (.advanced moved snapshot))) →
    ⟨call, moved.id, snapshot.step⟩ ∈ config.shared.ledger.commits
  committed : ∀ commit ∈ config.shared.ledger.commits,
    config.calls commit.call = .dropped ∨
      ∃ stage moved snapshot, config.calls commit.call = .active stage ∧
        stage.answer? = some (.advanced moved snapshot) ∧ moved.id = commit.id ∧
        snapshot.step = commit.step
  documents : ∀ {id simulation}, config.shared.stored atomic id = some simulation →
    Consistent runtime (config.shared.ledger.created id) simulation
  saving : ∀ {call simulation snapshot moment next},
    config.calls call = .active (.saving simulation snapshot) →
    (managerCalls runtime store).step config (.call call (.proceed moment)) = some next →
    (∃ moved, next.calls call = .active (Session.committed moved snapshot)) ∨
      ∃ e, next.calls call = .active (refused e) ∧ next.shared = config.shared ∧
        ((∃ message, e = .conflict message) ∨
          (config.shared.stored atomic simulation.id = none ∧
            e = simulationNotFound simulation.id))
  finished : ∀ {id simulation}, config.shared.stored atomic id = some simulation →
    simulation.state = .completed → ∀ {more later},
      (managerCalls runtime store).run config more = some later →
      ReadsNothing runtime atomic id later

end Statement

section Runs

variable {Chain : Type} {runtime : Runtime Chain} {store : SimulationStore}
  {atomic : store.Atomic runtime.service} {config next later last : SimulationConfig Chain store}
  {actions : List SimulationAction} {id : Uuid} {parameters : SimulationParametersV2}

/-- The assertions that hold in every run. -/
abbrev Backed (atomic : store.Atomic runtime.service) (config : SimulationConfig Chain store) :
    Prop :=
  Holds (ManagerFacts runtime atomic)
    (fun call manager phase => SimulationCall.Backed runtime call manager phase) config

theorem grows_of_step {action : SimulationAction} (backed : Backed atomic config)
    (stepped : (managerCalls runtime store).step config action = some next) :
    config.shared.ledger.Grows (fun _ => False) next.shared.ledger := by
  cases action with
  | call index input =>
      obtain ⟨after, phase, moved, rfl⟩ := step_call_eq_some.mp stepped
      obtain ⟨-, grows, -⟩ := backed_of_move backed.shared (backed.own index) moved
      obtain ⟨new, more, -⟩ := grows.ledger.commits
      exact ⟨grows.ledger.created, new, more, fun _ _ => not_false⟩
  | background input =>
      obtain ⟨after, ticked, rfl⟩ := step_background_eq_some.mp stepped
      obtain ⟨-, grows⟩ := backed_of_tick backed.shared ticked
      obtain ⟨new, more, -⟩ := grows.ledger.commits
      exact ⟨grows.ledger.created, new, more, fun _ _ => not_false⟩

theorem exhausted_of_run (backed : Backed atomic config)
    (created : config.shared.ledger.created id = some parameters)
    (exhausted : config.shared.ledger.steps id = List.range parameters.steps)
    (ran : (managerCalls runtime store).run config actions = some later) :
    later.shared.ledger.created id = some parameters ∧
      later.shared.ledger.steps id = List.range parameters.steps := by
  have ends : Backed atomic later ∧ later.shared.ledger.created id = some parameters ∧
      later.shared.ledger.steps id = List.range parameters.steps := by
    apply holds_of_run (fun reached : SimulationConfig Chain store => Backed atomic reached ∧
      reached.shared.ledger.created id = some parameters ∧
      reached.shared.ledger.steps id = List.range parameters.steps) _
      ⟨backed, created, exhausted⟩ ran
    intro reached action next held stepped
    obtain ⟨backed, created, exhausted⟩ := held
    have backedNext := backed_free.preserved backed atCall_unguarded stepped
    have grows := grows_of_step backed stepped
    have createdNext := grows.created created
    obtain ⟨new, more, -⟩ := grows.commits
    obtain ⟨cursor, served⟩ := backedNext.shared.ledger.served id
    have longer := congrArg List.length served.steps
    have within := served.within createdNext
    rw [Ledger.steps, more, List.filter_append, List.map_append, List.length_append,
      List.length_range, ← Ledger.steps, exhausted, List.length_range] at longer
    refine ⟨backedNext, createdNext, ?_⟩
    rw [served.steps, le_antisymm within (by omega)]
  exact ends.2

theorem readsNothing_of_exhausted (backed : Backed atomic config)
    (created : config.shared.ledger.created id = some parameters)
    (exhausted : config.shared.ledger.steps id = List.range parameters.steps) :
    ReadsNothing runtime atomic id config := by
  intro call route moment next reading stepped
  obtain ⟨after, phase, moved, rfl⟩ := step_call_eq_some.mp stepped
  rw [reading] at moved
  obtain ⟨_, -, impossible, -⟩ | ⟨_, stage, nextStage, equal, active, rfl, proceeded⟩ |
    ⟨_, impossible, -⟩ := staged_cases moved
  · cases impossible
  · cases active
    cases equal
    have facts := backed.shared.ledger
    have read : config.shared.ledger.read route id =
        (okOr (config.shared.stored atomic id) (simulationNotFound id) >>= fun simulation => do
          simulation.rejectTerminal route.lacking
          return simulation) := by
      rw [Ledger.read, atomic.get_eq facts.sound, Manager.stored]
    simp only [Function.update_self]
    cases held : config.shared.stored atomic id with
    | none =>
        simp only [held, okOr, bind, Except.bind] at read
        simp only [Manager.proceed, Ledger.proceed, read, Option.map_some] at proceeded
        cases proceeded
        exact .inl ⟨rfl, rfl⟩
    | some simulation =>
        obtain ⟨cursor, served⟩ := facts.served id
        have known := facts.known held
        have named := atomic.stored_id facts.sound held
        have same : parameters = simulation.parameters := by
          have owned := known.owned
          rw [named, created] at owned
          exact Option.some.inj owned
        have length := congrArg List.length (served.steps.symm.trans exhausted)
        simp only [List.length_range] at length
        have done : simulation.state = .completed := by
          rw [(SessionV2.stateOfCursor_of_validate known.valid).completed, served.current held,
            length, same]
        simp only [held, okOr, bind, Except.bind, SessionV2.rejectTerminal_completed done] at read
        simp only [Manager.proceed, Ledger.proceed, read, Option.map_some] at proceeded
        cases proceeded
        exact .inr ⟨by simp, rfl⟩
  · cases impossible

theorem saving_of_backed {call : Nat} {simulation : SessionV2} {snapshot : SeriesSnapshot Chain}
    {moment : Moment} (backed : Backed atomic config)
    (saving : config.calls call = .active (.saving simulation snapshot))
    (stepped : (managerCalls runtime store).step config (.call call (.proceed moment)) =
      some next) :
    (∃ moved, next.calls call = .active (committed moved snapshot)) ∨
      ∃ e, next.calls call = .active (refused e) ∧ next.shared = config.shared ∧
        ((∃ message, e = .conflict message) ∨
          (config.shared.stored atomic simulation.id = none ∧
            e = simulationNotFound simulation.id)) := by
  obtain ⟨after, phase, moved, rfl⟩ := step_call_eq_some.mp stepped
  obtain ⟨-, known, left⟩ := (backed.own call).active saving
  rw [saving] at moved
  obtain ⟨_, -, impossible, -⟩ | ⟨_, stage, nextStage, -, active, rfl, proceeded⟩ |
    ⟨_, impossible, -⟩ := staged_cases moved
  · cases impossible
  · cases active
    simp only [Function.update_self]
    cases managerStep_of_proceed proceeded with
    | ledger saved =>
        cases ledgerStep_of_proceed saved with
        | commit saved => exact .inl ⟨_, rfl⟩
        | lose lost =>
            refine .inr ⟨_, rfl, rfl, ?_⟩
            cases backed.shared.ledger.lose known left lost with
            | inl gone => exact .inr gone
            | inr conflict => exact .inl conflict
  · cases impossible

theorem exactlyOnce_of_backed (backed : Backed atomic config) :
    ExactlyOnce runtime atomic config where
  steps {id parameters} created := by
    obtain ⟨count, served⟩ := backed.shared.ledger.served id
    exact ⟨count, served.within created, served.steps⟩
  answered {call moved snapshot} done := by
    obtain ⟨-, step, -, built, committed⟩ := (backed.own call).active done
    rwa [step_of_freshSnapshot built]
  committed commit member := by
    obtain dropped | ⟨stage, moved, snapshot, active, answer, named, cursor⟩ :=
      (backed.own commit.call).settled commit member rfl
    · exact .inl dropped
    · refine .inr ⟨stage, moved, snapshot, active, answer, named, ?_⟩
      obtain ⟨-, step, moved, built, -⟩ :=
        backed_of_answer ((backed.own commit.call).active active) answer
      rw [step_of_freshSnapshot built]
      omega
  documents {id simulation} held := by
    have known := backed.shared.ledger.known held
    have named := atomic.stored_id backed.shared.ledger.sound held
    obtain ⟨-, -, total, -, -⟩ := SessionV2.validate_eq_ok.mp known.valid
    subst named
    exact ⟨known.valid, known.version, total, known.owned,
      SessionV2.stateOfCursor_of_validate known.valid⟩
  saving := saving_of_backed backed
  finished {id simulation} held done _ _ ran := by
    have known := backed.shared.ledger.known held
    have named := atomic.stored_id backed.shared.ledger.sound held
    obtain ⟨cursor, served⟩ := backed.shared.ledger.served id
    have exhausted : config.shared.ledger.steps id =
        List.range simulation.parameters.steps := by
      rw [served.steps, ← served.current held,
        (SessionV2.stateOfCursor_of_validate known.valid).completed.mp done]
    subst named
    obtain ⟨created, exhausted⟩ := exhausted_of_run backed known.owned exhausted ran
    exact readsNothing_of_exhausted (backed_free.holds_of_any_run backed ran) created exhausted

end Runs

/-! A simulation of one step, completed and then deleted. -/

def SimulationCall.error? {Chain : Type} : SimulationCall Chain → Option ChainError
  | .active (.done (.error (.error e))) => some e
  | _ => none

/-- Consecutive sections of one call, at a moment whose next random id is `someId`. -/
def sections (call count : Nat) : List SimulationAction :=
  List.replicate count (.call call (.proceed ⟨0, 0, someId⟩))

/-- The creation, and the advance that serves the only step. -/
def completing : List SimulationAction :=
  .call 0 (.request (.create (dailyParameters Domain.Expiry.thursdayNoon))) :: sections 0 1 ++
    .call 1 (.request (.advance someId none)) :: sections 1 4 ++
    .background (.runTask 1 0) :: sections 1 8

def deletingAndPeeking : List SimulationAction :=
  .call 2 (.request (.delete someId)) :: sections 2 1 ++
    .call 3 (.request (.peek someId)) :: sections 3 1

abbrev memoryBackend : Backend := .memory 60

abbrev memoryCalls := managerCalls flatRuntime (memoryBackend.store utcService)

abbrev emptyMemory := memoryCalls.start (.new flatRuntime (memoryBackend.store utcService))

/-- In every run of a manager, over either store, each step of a simulation is served
once and in order, the documents follow the cursor, an advance that loses changes
nothing, and a completed simulation serves nothing more. -/
theorem exactlyOnce {Chain : Type} {runtime : Runtime Chain} (backend : Backend)
    {actions : List SimulationAction}
    {last : SimulationConfig Chain (backend.store runtime.service)}
    (ran : (managerCalls runtime _).run ((managerCalls runtime _).start (.new runtime _)) actions =
      some last) : ExactlyOnce runtime (backend.atomic runtime.service) last :=
  exactlyOnce_of_backed (backed_of_run _ ran)

/-- Two advances read the only step and share the build of its tape, and the first to
save wins. -/
def advancingTwice : List SimulationAction :=
  .call 0 (.request (.create (dailyParameters Domain.Expiry.thursdayNoon))) :: sections 0 1 ++
    .call 1 (.request (.advance someId none)) :: sections 1 1 ++
    .call 2 (.request (.advance someId none)) :: sections 2 1 ++ sections 1 3 ++ sections 2 3 ++
    .background (.runTask 1 0) :: sections 1 5 ++ sections 2 3 ++ sections 1 3

theorem exactlyOnce_advancingTwice : ∃ last, memoryCalls.run emptyMemory advancingTwice = some last ∧
    (last.calls 1).error? = none ∧ (last.calls 2).error?.map ChainError.status = some 409 ∧
    ExactlyOnce flatRuntime (memoryBackend.atomic utcService) last := by
  have computed : (memoryCalls.run emptyMemory advancingTwice).any (fun last =>
      (last.calls 1).error? = none && (last.calls 2).error?.map ChainError.status = some 409) =
        true := by decide +kernel
  obtain ⟨last, ran, checked⟩ := (Option.any_eq_true _ _).mp computed
  obtain ⟨served, lost⟩ := Bool.and_eq_true_iff.mp checked
  exact ⟨last, ran, of_decide_eq_true served, of_decide_eq_true lost,
    exactlyOnce memoryBackend ran⟩

/-- After a delete, a peek of a completed simulation does not find it. -/
theorem peek_after_delete_not_found :
    ∃ completed last, memoryCalls.run emptyMemory completing = some completed ∧
      (∃ simulation,
        completed.shared.stored (memoryBackend.atomic utcService) someId = some simulation ∧
          simulation.state = .completed) ∧
      memoryCalls.run completed deletingAndPeeking = some last ∧
      (last.calls 3).error? = some (simulationNotFound someId) := by
  have computed : (memoryCalls.run emptyMemory completing).any (fun completed =>
      (completed.shared.stored (memoryBackend.atomic utcService) someId).any (fun simulation =>
        simulation.state = .completed) &&
      (memoryCalls.run completed deletingAndPeeking).any fun last =>
        (last.calls 3).error? = some (simulationNotFound someId)) = true := by
    decide +kernel
  obtain ⟨completed, ran, checked⟩ := (Option.any_eq_true _ _).mp computed
  obtain ⟨held, peeked⟩ := Bool.and_eq_true_iff.mp checked
  obtain ⟨simulation, held, done⟩ := (Option.any_eq_true _ _).mp held
  obtain ⟨last, continued, answered⟩ := (Option.any_eq_true _ _).mp peeked
  exact ⟨completed, last, ran, ⟨simulation, held, of_decide_eq_true done⟩, continued,
    of_decide_eq_true answered⟩

end OptionChainSimulator.Session
