import Mathlib.Tactic
import OptionChainSimulator.Session.PricingFailures

namespace OptionChainSimulator.Session

open Foundation Foundation.Protocol Utils Domain

/-! The statuses of the v2 routes, and the reasons for them. -/

/-- The statuses a route documents. `cleanup` is not a route. -/
def SimulationRequest.documented : SimulationRequest → List Nat
  | .create _ => [201, 400, 409, 500]
  | .get _ | .delete _ => [200, 400, 404, 500]
  | .peek _ => [200, 400, 404, 410, 500]
  | .advance .. => [200, 400, 404, 409, 410, 412, 500]
  | .cleanup => [200]

def SimulationRequest.id? : SimulationRequest → Option Uuid
  | .get id | .peek id | .advance id _ | .delete id => some id
  | .create _ | .cleanup => none

/-- The requests a route is taken by. -/
def Route.Serves (request : SimulationRequest) (id : Uuid) : Route → Prop
  | .peek => request = .peek id
  | .advance => ∃ expectedStep, request = .advance id expectedStep

theorem Route.Serves.id? {route : Route} {request : SimulationRequest} {id : Uuid}
    (serves : route.Serves request id) : request.id? = some id := by
  cases route with
  | peek =>
      cases serves
      rfl
  | advance =>
      obtain ⟨expectedStep, rfl⟩ := serves
      rfl

/-- What an answer says of its request. -/
def Answer.Answers {Chain : Type} (request : SimulationRequest) : Answer Chain → Prop
  | .created simulation => request = .create simulation.parameters
  | .found simulation => request = .get simulation.id
  | .peeked simulation _ => request = .peek simulation.id
  | .advanced simulation _ => ∃ expectedStep, request = .advance simulation.id expectedStep
  | .preconditionFailed simulation =>
      ∃ expectedStep, request = .advance simulation.id (some expectedStep) ∧
        simulation.currentStep ≠ expectedStep
  | .deleted id _ => request = .delete id
  | .expired _ => request = .cleanup

section Reasons

variable {Chain : Type} (runtime : Runtime Chain) {store : SimulationStore}

/-- Why a request is refused. -/
inductive Refusal (ledger : Ledger store) (call : Nat) :
    SimulationRequest → ChainError → Prop where
  | missing {request : SimulationRequest} {id : Uuid} (asked : request.id? = some id) :
      Refusal ledger call request (simulationNotFound id)
  | taken {parameters : SimulationParametersV2} {id : Uuid} :
      Refusal ledger call (.create parameters) (simulationExists id)
  | invalid {parameters : SimulationParametersV2} {e : ChainError}
      (failed : parameters.validate runtime.service = .error e) :
      Refusal ledger call (.create parameters) e
  | completed {request : SimulationRequest} {route : Route} {id : Uuid}
      {parameters : SimulationParametersV2} {reason : String}
      (serves : route.Serves request id) (owned : ledger.created id = some parameters)
      (served : ledger.steps id = List.range parameters.steps) :
      Refusal ledger call request (.simulatorError reason)
  | overtaken {id : Uuid} {expectedStep : Option Nat} {rival : Commit} {message : String}
      (committed : rival ∈ ledger.commits) (named : rival.id = id) (other : rival.call ≠ call) :
      Refusal ledger call (.advance id expectedStep) (.conflict message)
  | unpriced {request : SimulationRequest} {route : Route} {id : Uuid}
      {parameters : SimulationParametersV2} {step : Nat} {fault : Fault} {e : ChainError}
      (serves : route.Serves request id) (owned : ledger.created id = some parameters)
      (left : step < parameters.steps)
      (failed : runtime.freshSnapshot parameters step = .error fault) (kind : Unpriced e) :
      Refusal ledger call request e

/-- A call answers what its route documents, for a reason that still stands. -/
structure Explained (ledger : Ledger store) (call : Nat) (request : SimulationRequest)
    (response : Response Chain) : Prop where
  documented : ∀ code, status response = some code → code ∈ request.documented
  answers : ∀ answer, response = .ok answer → answer.Answers request
  refused : ∀ e, response = .error (.error e) → Refusal runtime ledger call request e

/-- The copy a call holds is of no later state than the commits. -/
def Ledger.Reaches (ledger : Ledger store) (simulation : SessionV2) : Prop :=
  simulation.currentStep ≤ (ledger.steps simulation.id).length

/-- What the stage of a call has to do with its request. -/
def Stage.Explained (ledger : Ledger store) (call : Nat) (request : SimulationRequest) :
    Stage Chain → Prop
  | .creating parameters => request = .create parameters
  | .getting id => request = .get id
  | .checking id expectedStep => request = .advance id (some expectedStep)
  | .reading route id => route.Serves request id
  | .looking route simulation | .fetching route simulation _ =>
      route.Serves request simulation.id ∧ ledger.Reaches simulation
  | .saving simulation _ =>
      Route.advance.Serves request simulation.id ∧ ledger.Reaches simulation
  | .deleting id => request = .delete id
  | .cleaning => request = .cleanup
  | .evictingTapes _ answer | .evictingSnapshots _ _ answer | .done (.ok answer) =>
      answer.Answers request
  | .done (.error (.error e)) => Refusal runtime ledger call request e
  | .done (.error (.panic _)) => True

def SimulationCall.Explained (asked : Nat → SimulationRequest → Prop) (call : Nat)
    (manager : Manager Chain store) (phase : SimulationCall Chain) : Prop :=
  ∀ stage, phase = .active stage →
    ∃ request, asked call request ∧ stage.Explained runtime manager.ledger call request

end Reasons

section Growth

variable {Chain : Type} {runtime : Runtime Chain} {store : SimulationStore}
  {atomic : store.Atomic runtime.service} {before after : Ledger store} {call : Nat}
  {request : SimulationRequest} {e : ChainError} {others : Nat → Prop}
  {simulation : SessionV2}

theorem Ledger.Reaches.grow (reaches : before.Reaches simulation)
    (grows : before.Grows others after) : after.Reaches simulation := by
  obtain ⟨new, more, -⟩ := grows.commits
  exact reaches.trans (length_steps_mono more)

/-- A simulation that has served every step serves no other. -/
theorem Refusal.grow (refusal : Refusal runtime before call request e)
    (grows : before.Grows others after) (facts : LedgerFacts atomic after) :
    Refusal runtime after call request e := by
  obtain ⟨new, more, -⟩ := grows.commits
  cases refusal with
  | missing asked => exact .missing asked
  | taken => exact .taken
  | invalid failed => exact .invalid failed
  | @completed _ _ id parameters _ serves owned served =>
      obtain ⟨cursor, servedAfter⟩ := facts.served id
      have within := servedAfter.within (grows.created owned)
      have longer : (before.steps id).length ≤ (after.steps id).length :=
        length_steps_mono more
      rw [served, servedAfter.steps, List.length_range, List.length_range] at longer
      have ended : cursor = parameters.steps := by omega
      refine .completed serves (grows.created owned) ?_
      rw [servedAfter.steps, ended]
  | overtaken committed named other =>
      refine .overtaken ?_ named other
      rw [more]
      exact List.mem_append_left new committed
  | unpriced serves owned left failed kind =>
      exact .unpriced serves (grows.created owned) left failed kind

theorem Stage.Explained.grow {stage : Stage Chain}
    (explained : stage.Explained runtime before call request)
    (grows : before.Grows others after) (facts : LedgerFacts atomic after) :
    stage.Explained runtime after call request := by
  cases stage with
  | looking route simulation => exact ⟨explained.1, explained.2.grow grows⟩
  | fetching route simulation tape => exact ⟨explained.1, explained.2.grow grows⟩
  | saving simulation snapshot => exact ⟨explained.1, explained.2.grow grows⟩
  | done response =>
      cases response with
      | ok answer => exact explained
      | error fault =>
          cases fault with
          | error e => exact Refusal.grow explained grows facts
          | panic message => trivial
  | creating | getting | checking | reading | deleting | cleaning | evictingTapes |
      evictingSnapshots => exact explained

theorem SimulationCall.Explained.grow {asked : Nat → SimulationRequest → Prop}
    {earlier later : Manager Chain store} {phase : SimulationCall Chain}
    (explained : phase.Explained runtime asked call earlier)
    (grows : earlier.Grows others later) (facts : ManagerFacts runtime atomic later) :
    phase.Explained runtime asked call later := by
  intro stage running
  obtain ⟨request, wanted, stands⟩ := explained stage running
  exact ⟨request, wanted, stands.grow grows.ledger facts.ledger⟩

end Growth

section Refusals

variable {service : Service} {Chain : Type} {runtime : Runtime Chain} {store : SimulationStore}
  {atomic : store.Atomic runtime.service} {ledger : Ledger store} {call : Nat}
  {request : SimulationRequest} {e : ChainError} {simulation : SessionV2} {route : Route}
  {id : Uuid}

theorem invalid_or_exists_of_create (backend : Backend)
    {state : (backend.store service).State}
    (failed : (backend.store service).create state simulation = .error e) :
    simulation.validate service = .error e ∨ e = simulationExists simulation.id := by
  cases backend with
  | memory retentionSecs =>
      obtain invalid | ⟨_, -, present⟩ := bind_eq_error.mp failed
      · exact .inl invalid
      · split at present
        · cases present
          exact .inr rfl
        · cases present
  | redis retentionSecs =>
      obtain invalid | ⟨_, -, present⟩ := bind_eq_error.mp failed
      · exact .inl invalid
      · dsimp only at present
        split_ifs at present
        cases present
        exact .inr rfl

theorem notFound_of_get (facts : LedgerFacts atomic ledger)
    (missing : store.get ledger.documents id = .error e) : e = simulationNotFound id := by
  rw [atomic.get_eq facts.sound] at missing
  cases held : atomic.stored ledger.documents id with
  | none =>
      rw [held] at missing
      cases missing
      rfl
  | some simulation =>
      rw [held] at missing
      cases missing

/-- A read finds no simulation, or one that has served every step. -/
theorem refusal_of_read (facts : LedgerFacts atomic ledger) (serves : route.Serves request id)
    (failed : ledger.read route id = .error e) : Refusal runtime ledger call request e := by
  obtain missing | ⟨simulation, found, failed⟩ := bind_eq_error.mp failed
  · obtain rfl := notFound_of_get facts missing
    exact .missing serves.id?
  · obtain rejected | ⟨_, -, impossible⟩ := bind_eq_error.mp failed
    · obtain ⟨held, rfl, known⟩ := facts.get found
      obtain ⟨-, -, total, within, -⟩ := SessionV2.validate_eq_ok.mp known.valid
      have ended : ¬ simulation.currentStep < simulation.totalSteps := by
        intro left
        rw [(SessionV2.rejectTerminal_eq_ok known.valid).mpr left] at rejected
        cases rejected
      obtain ⟨cursor, served⟩ := facts.served simulation.id
      have reached := served.current held
      have all : simulation.parameters.steps = cursor := by omega
      have complete : simulation.isComplete := decide_eq_true (not_lt.mp ended)
      simp only [SessionV2.rejectTerminal, complete, or_true, if_true] at rejected
      cases rejected
      refine .completed serves known.owned ?_
      rw [served.steps, all]
    · cases impossible

theorem refusal_of_loss {now : SystemTime} (facts : LedgerFacts atomic ledger)
    (serving : ledger.Serving runtime simulation) (reaches : ledger.Reaches simulation)
    (uncommitted : ∀ commit ∈ ledger.commits, commit.call ≠ call)
    (serves : Route.advance.Serves request simulation.id)
    (lost : ledger.commit call now simulation = .error e) :
    Refusal runtime ledger call request e := by
  obtain ⟨_, _, saved, -⟩ | ⟨gone, -⟩ | ⟨message, overtaken, -, member⟩ :=
    facts.commit_cases call now serving.1 serving.2 reaches
  · rw [saved] at lost
    cases lost
  · rw [gone] at lost
    cases lost
    exact .missing serves.id?
  · rw [overtaken] at lost
    cases lost
    obtain ⟨expectedStep, rfl⟩ := serves
    obtain ⟨rival, committed, named, -⟩ := mem_steps.mp member
    exact .overtaken committed named (uncommitted rival committed)

theorem refusal_of_delivered (generates : GeneratesOrPanics runtime.upstream)
    (serves : route.Serves request simulation.id)
    (serving : ledger.Serving runtime simulation)
    (delivered : Delivered runtime simulation.parameters (.error e)) :
    Refusal runtime ledger call request e := by
  obtain ⟨-, -, total, -, -⟩ := SessionV2.validate_eq_ok.mp serving.1.valid
  obtain ⟨cause, built, kind⟩ : ∃ cause, runtime.build simulation.parameters = .error cause ∧
      Unpriced e := by
    obtain built | ⟨cause, built, told⟩ := delivered
    · exact ⟨e, built.symm, build_unpriced generates e built.symm⟩
    · cases told
      exact ⟨cause, built, unpriced_internal⟩
  have failed : runtime.freshSnapshot simulation.parameters simulation.currentStep =
      .error (.error cause) := by
    unfold Runtime.freshSnapshot
    rw [built]
    rfl
  exact .unpriced serves serving.1.owned (total ▸ serving.2) failed kind

theorem refusal_of_snapshot {tape : FactorTape} (serves : route.Serves request simulation.id)
    (serving : ledger.Serving runtime simulation)
    (built : runtime.build simulation.parameters = .ok tape)
    (failed : runtime.snapshot simulation tape = .error (.error e)) :
    Refusal runtime ledger call request e := by
  obtain ⟨-, -, total, -, -⟩ := SessionV2.validate_eq_ok.mp serving.1.valid
  have left : simulation.currentStep < simulation.parameters.steps := total ▸ serving.2
  have fresh : runtime.freshSnapshot simulation.parameters simulation.currentStep =
      .error (.error e) := by
    unfold Runtime.freshSnapshot
    rw [built]
    exact failed
  exact .unpriced serves serving.1.owned left fresh (snapshotOver_unpriced built left _ failed)

end Refusals

section Steps

variable {Chain : Type} {runtime : Runtime Chain} {backend : Backend}
  {before after : Manager Chain (backend.store runtime.service)} {call : Nat} {moment : Moment}
  {request : SimulationRequest} {stage next : Stage Chain}

theorem explained_served {ledger : Ledger (backend.store runtime.service)} {route : Route}
    {simulation : SessionV2} {snapshot : SeriesSnapshot Chain}
    (serves : route.Serves request simulation.id) (reaches : ledger.Reaches simulation) :
    (route.served simulation snapshot).Explained runtime ledger call request := by
  cases route with
  | peek => exact serves
  | advance => exact ⟨serves, reaches⟩

theorem explained_committed {ledger : Ledger (backend.store runtime.service)}
    {simulation : SessionV2} {snapshot : SeriesSnapshot Chain}
    (serves : Route.advance.Serves request simulation.id) :
    (committed simulation snapshot).Explained runtime ledger call request := by
  unfold committed
  split_ifs
  · exact serves
  · exact serves

theorem explained_of_ledgerStep {ledger ledgerAfter : Ledger (backend.store runtime.service)}
    (facts : LedgerFacts (backend.atomic runtime.service) ledger)
    (backed : ∀ simulation snapshot, stage = .saving simulation snapshot →
      ledger.Serving runtime simulation)
    (settled : ledger.Settled call (.active stage))
    (explained : stage.Explained runtime ledger call request)
    (stepped : LedgerStep call moment ledger stage ledgerAfter next) :
    next.Explained runtime ledgerAfter call request := by
  cases stepped with
  | create fresh created => exact explained
  | refuseCreate failed =>
      obtain rfl := explained
      obtain failed | ⟨_, -, impossible⟩ := bind_eq_error.mp failed
      · obtain invalid | rfl := invalid_or_exists_of_create backend failed
        · rw [SessionV2.validate_new] at invalid
          exact .invalid invalid
        · exact .taken
      · cases impossible
  | get found =>
      obtain ⟨-, rfl, -⟩ := facts.get found
      exact explained
  | missGet missing =>
      obtain rfl := explained
      obtain rfl := notFound_of_get facts missing
      exact .missing rfl
  | check found => exact ⟨_, explained⟩
  | mismatch found moved =>
      obtain ⟨-, rfl, -⟩ := facts.get found
      exact ⟨_, explained, moved⟩
  | missCheck missing =>
      obtain rfl := explained
      obtain rfl := notFound_of_get facts missing
      exact .missing rfl
  | @read route id simulation found =>
      obtain ⟨held, rfl, -⟩ := facts.read found
      obtain ⟨cursor, served⟩ := facts.served simulation.id
      refine ⟨explained, ?_⟩
      unfold Ledger.Reaches
      rw [served.steps, List.length_range, served.current held]
  | refuseRead failed => exact refusal_of_read facts explained failed
  | @commit simulation moved snapshot _ saved =>
      obtain ⟨advancing, -⟩ := commit_eq_ok.mp saved
      obtain ⟨-, -, rfl⟩ := SessionV2.advanced_eq_ok.mp advancing
      exact explained_committed explained.1
  | lose lost =>
      exact refusal_of_loss facts (backed _ _ rfl) explained.2 (settled.uncommitted rfl)
        explained.1 lost
  | delete => exact explained
  | cleanup => exact explained

theorem explained_of_managerStep (generates : GeneratesOrPanics runtime.upstream)
    (facts : ManagerFacts runtime (backend.atomic runtime.service) before)
    (backed : SimulationCall.Backed runtime call before (.active stage))
    (explained : stage.Explained runtime before.ledger call request)
    (stepped : ManagerStep runtime call moment before stage after next) :
    next.Explained runtime after.ledger call request := by
  have own := backed.active rfl
  cases stepped with
  | ledger moved =>
      refine explained_of_ledgerStep facts.ledger ?_ backed.settled explained
        (ledgerStep_of_proceed moved)
      rintro simulation snapshot rfl
      exact own.2
  | hit found => exact explained_served explained.1 explained.2
  | miss => exact explained
  | fetch stepped => exact explained
  | refuseTape => exact refusal_of_delivered generates explained.1 own.2 own.1
  | price built => exact explained_served explained.1 explained.2
  | @refusePrice route simulation tape fault failed =>
      cases fault with
      | error e => exact refusal_of_snapshot explained.1 own.2 (tape_of_delivered own.1) failed
      | panic message => trivial
  | evicted => exact explained
  | evictTape => exact explained
  | evictSnapshots => exact explained

theorem explained_request {ledger : Ledger (backend.store runtime.service)} :
    (request.stage : Stage Chain).Explained runtime ledger call request := by
  cases request with
  | advance id expectedStep =>
      cases expectedStep with
      | none => exact ⟨none, rfl⟩
      | some expectedStep => exact rfl
  | create | get | peek | delete | cleanup => exact rfl

/-- Only these requests are made. -/
def RequestsAsked (asked : Nat → SimulationRequest → Prop) (call : Nat) :
    SimulationInput → Manager Chain (backend.store runtime.service) → SimulationCall Chain → Prop
  | .request request, _, _ => asked call request
  | .proceed _, _, _ | .drop, _, _ => True

variable {asked : Nat → SimulationRequest → Prop}

theorem explained_free (generates : GeneratesOrPanics runtime.upstream) :
    (managerCalls runtime (backend.store runtime.service)).FreeOfInterference
      (RequestsAsked asked) (ManagerFacts runtime (backend.atomic runtime.service))
      fun call manager phase =>
        phase.Backed runtime call manager ∧ phase.Explained runtime asked call manager where
  move facts own allowed moved := by
    obtain ⟨factsAfter, grows, backed⟩ := backed_of_move facts own.1 moved
    refine ⟨factsAfter, backed, ?_⟩
    obtain ⟨request, rfl, rfl, rfl, rfl⟩ | ⟨moment, stage, next, -, rfl, rfl, proceeded⟩ |
      ⟨stage, -, rfl, -, rfl, rfl⟩ := staged_cases moved
    · intro stage running
      cases running
      exact ⟨request, allowed, explained_request⟩
    · intro _ running
      cases running
      obtain ⟨request, wanted, explained⟩ := own.2 stage rfl
      exact ⟨request, wanted, explained_of_managerStep generates facts own.1 explained
        (managerStep_of_proceed proceeded)⟩
    · intro stage running
      cases running
  others facts own _ moved other different phase held := by
    obtain ⟨factsAfter, grows, -⟩ := backed_of_move facts own.1 moved
    exact ⟨held.1.grow grows different, held.2.grow grows factsAfter⟩
  tick facts ticked := by
    obtain ⟨factsAfter, grows⟩ := backed_of_tick facts ticked
    exact ⟨factsAfter, fun _ _ held => ⟨held.1.grow grows trivial, held.2.grow grows factsAfter⟩⟩

theorem start_explained : Holds (ManagerFacts runtime (backend.atomic runtime.service))
    (fun call manager phase =>
      SimulationCall.Backed runtime call manager phase ∧ phase.Explained runtime asked call manager)
    ((managerCalls runtime (backend.store runtime.service)).start (.new runtime _)) where
  shared := start_backed.shared
  own call :=
    ⟨(@start_backed Chain _ runtime (backend.atomic runtime.service)).own call,
      fun _ impossible => by cases impossible⟩

end Steps

section Theorem

variable {Chain : Type} {runtime : Runtime Chain} {store : SimulationStore}
  {ledger : Ledger store} {call : Nat} {request : SimulationRequest}

theorem documented_of_answers {answer : Answer Chain} (answers : answer.Answers request) :
    answer.status ∈ request.documented := by
  cases answer with
  | advanced simulation snapshot =>
      obtain ⟨expectedStep, rfl⟩ := answers
      simp [Answer.status, SimulationRequest.documented]
  | preconditionFailed simulation =>
      obtain ⟨expectedStep, rfl, -⟩ := answers
      simp [Answer.status, SimulationRequest.documented]
  | deleted id deleted =>
      obtain rfl := answers
      cases deleted <;> simp [Answer.status, SimulationRequest.documented]
  | created | found | peeked | expired =>
      obtain rfl := answers
      simp [Answer.status, SimulationRequest.documented]

theorem status_of_unpriced {e : ChainError} (kind : Unpriced e) :
    e.status = 400 ∨ e.status = 500 := by
  cases e with
  | validation => exact .inl rfl
  | internal => exact .inr rfl
  | sessionError | stdError | invalidState | notFound | alreadyExists | conflict |
      simulatorError | clickHouseError | notEnoughData => exact kind.elim

theorem documented_of_refusal {e : ChainError}
    (refusal : Refusal runtime ledger call request e) : e.status ∈ request.documented := by
  cases refusal with
  | missing asked =>
      cases request with
      | create | cleanup => cases asked
      | get | peek | advance | delete =>
          simp [SimulationRequest.documented, simulationNotFound, ChainError.status]
  | taken => simp [SimulationRequest.documented, simulationExists, ChainError.status]
  | invalid failed =>
      obtain code | code := status_of_unpriced (validate_unpriced _ failed) <;>
        simp [SimulationRequest.documented, code]
  | @completed _ route _ _ _ serves =>
      cases route with
      | peek =>
          cases serves
          simp [SimulationRequest.documented, ChainError.status]
      | advance =>
          obtain ⟨expectedStep, rfl⟩ := serves
          simp [SimulationRequest.documented, ChainError.status]
  | overtaken => simp [SimulationRequest.documented, ChainError.status]
  | @unpriced _ route _ _ _ _ _ serves _ _ _ kind =>
      cases route with
      | peek =>
          cases serves
          obtain code | code := status_of_unpriced kind <;>
            simp [SimulationRequest.documented, code]
      | advance =>
          obtain ⟨expectedStep, rfl⟩ := serves
          obtain code | code := status_of_unpriced kind <;>
            simp [SimulationRequest.documented, code]

/-- A call that is done answers for what its last stage knows. -/
theorem explained_response {response : Response Chain}
    (explained : (Stage.done response).Explained runtime ledger call request) :
    Explained runtime ledger call request response := by
  cases response with
  | ok answer =>
      refine ⟨fun code coded => ?_, fun other same => ?_, fun e impossible => ?_⟩
      · cases coded
        exact documented_of_answers explained
      · cases same
        exact explained
      · cases impossible
  | error fault =>
      cases fault with
      | error e =>
          refine ⟨fun code coded => ?_, fun other impossible => ?_, fun other same => ?_⟩
          · cases coded
            exact documented_of_refusal explained
          · cases impossible
          · cases same
            exact explained
      | panic message =>
          refine ⟨fun code impossible => ?_, fun other impossible => ?_, fun e impossible => ?_⟩
          · cases impossible
          · cases impossible
          · cases impossible

/-- Every call of a run that has answered was asked something, and answered it with a status that
its route documents. A 404 names the simulation that was asked for. A 410 says that every step of
it has been served, and a 409 that another call has committed a step of it. A call whose pricing
failed had a step left that nobody can price. -/
theorem statuses_tell_why (backend : Backend) (generates : GeneratesOrPanics runtime.upstream)
    {actions : List SimulationAction}
    {last : SimulationConfig Chain (backend.store runtime.service)} {response : Response Chain}
    (ran : (managerCalls runtime _).run ((managerCalls runtime _).start (.new runtime _)) actions =
      some last)
    (done : last.calls call = .active (.done response)) :
    ∃ request, .call call (.request request) ∈ actions ∧
      Explained runtime last.shared.ledger call request response := by
  have met : (managerCalls runtime (backend.store runtime.service)).Meets
      (atCall (RequestsAsked fun call request => .call call (.request request) ∈ actions))
      ((managerCalls runtime _).start (.new runtime _)) actions := by
    apply meets_of_members
    intro action member _
    cases action with
    | background tick => trivial
    | call index input =>
        cases input with
        | request request => exact member
        | proceed moment => trivial
        | drop => trivial
  obtain ⟨request, wanted, explained⟩ :=
    (((explained_free generates).holds_of_run start_explained met ran).own call).2 _ done
  exact ⟨request, wanted, explained_response explained⟩

end Theorem

/-! The first of two advances of one step is overtaken by the second. -/

theorem kernelUpstream_generates (draws : Nat → Draws) :
    GeneratesOrPanics (kernelUpstream draws) := by
  intro seed params e
  simp only [kernelUpstream]
  split
  · split <;> simp
  · simp
  · simp

theorem error?_eq_some {Chain : Type} {phase : SimulationCall Chain} {e : ChainError}
    (refused : phase.error? = some e) : phase = .active (.done (.error (.error e))) := by
  unfold SimulationCall.error? at refused
  split at refused
  · cases refused
    rfl
  · cases refused

def overtakenFirst : List SimulationAction := creatingTwoDays ++ racingForFirst ++ sections 1 1

theorem statuses_tell_why_overtaken :
    ∃ last e, kernelCalls.run kernelStart overtakenFirst = some last ∧
      last.calls 1 = .active (.done (.error (.error e))) ∧ e.status = 409 ∧
      ∃ request, .call 1 (.request request) ∈ overtakenFirst ∧
        Explained kernelRuntime last.shared.ledger 1 request (.error (.error e)) := by
  have computed : ((kernelCalls.run kernelStart overtakenFirst).any fun last =>
      (last.calls 1).error?.any fun e => e.status == 409) = true := by
    decide +kernel
  obtain ⟨last, ran, refused⟩ := (Option.any_eq_true _ _).mp computed
  obtain ⟨e, refused, code⟩ := (Option.any_eq_true _ _).mp refused
  have done := error?_eq_some refused
  exact ⟨last, e, ran, done, eq_of_beq code,
    statuses_tell_why memoryBackend (kernelUpstream_generates _) ran done⟩

end OptionChainSimulator.Session
