import Mathlib.Tactic
import OptionChainSimulator.Session.CacheFree
import OptionChainSimulator.Session.Merges

namespace OptionChainSimulator.Session

open Foundation Foundation.Protocol Utils Domain

/-! POSTs that all expect the cursor where it is, on both surfaces, and when at most one
of them moves it. -/

/-- What a retry that consumes nothing is told: precondition failed, conflict, or gone. -/
def harmlessStatuses : List Nat := [412, 409, 410]

section Simulations

section Statement

variable {Chain : Type} (runtime : Runtime Chain) {store : SimulationStore}
  (atomic : store.Atomic runtime.service) (id : Uuid) (step : Nat)

/-- Nothing arrives but advances of one simulation that expect one cursor. -/
def SimulationAction.Retries : SimulationAction → Prop
  | .call _ (.request request) => request = .advance id (some step)
  | _ => True

/-- The stages whose next section is one of the store. -/
def Stage.readsStore {Chain : Type} : Stage Chain → Bool
  | .checking .. | .reading .. | .saving .. => true
  | _ => false

/-- The simulation is still stored where a section needs it, and the manager's own read
finds the cursor expected, or nothing left to serve. -/
def ReadsExpected : SimulationConfig Chain store → SimulationAction → Prop
  | config, .call call (.proceed _) =>
      ∀ stage, config.calls call = .active stage → stage.readsStore →
        ∃ simulation, config.shared.stored atomic id = some simulation ∧
          (stage = .reading .advance id → simulation.state ≠ .completed →
            simulation.currentStep = step)
  | _, _ => True

/-- No call is under way. -/
def Resting (config : SimulationConfig Chain store) : Prop :=
  ∀ call stage, config.calls call = .active stage → ∃ response, stage = .done response

/-- At most one of the calls since then moved the cursor, off the expected step, and the
others were told that they did not. -/
structure RetriesOnce (before config : SimulationConfig Chain store) : Prop where
  commits : ∃ new, config.shared.ledger.commits = before.shared.ledger.commits ++ new ∧
    new.length ≤ 1 ∧ (∀ commit ∈ new, commit.id = id ∧ commit.step = step) ∧
    ∀ simulation, config.shared.stored atomic id = some simulation →
      simulation.currentStep = step + new.length
  answered : ∀ {call response}, before.calls call = .idle →
    config.calls call = .active (.done response) →
    (∃ moved snapshot, response = .ok (.advanced moved snapshot) ∧
        moved.currentStep = step + 1 ∧
        ⟨call, id, step⟩ ∈ config.shared.ledger.commits) ∨
      ∃ told ∈ harmlessStatuses, status response = some told

end Statement

variable {Chain : Type} {runtime : Runtime Chain} {store : SimulationStore}
  {atomic : store.Atomic runtime.service} {id : Uuid} {step : Nat}
  {parameters : SimulationParametersV2}

/-- An advance of the expected step, or one that is told it made none. -/
def Response.Retried (id : Uuid) (step : Nat) (response : Response Chain) : Prop :=
  (∃ moved snapshot, response = .ok (.advanced moved snapshot) ∧ moved.id = id ∧
      moved.currentStep = step + 1) ∨
    ∃ told ∈ harmlessStatuses, status response = some told

def Stage.Retrying (id : Uuid) (step : Nat) : Stage Chain → Prop
  | .checking other expectedStep => other = id ∧ expectedStep = step
  | .reading route other => route = .advance ∧ other = id
  | .looking route simulation | .fetching route simulation _ =>
      route = .advance ∧ simulation.id = id ∧ simulation.currentStep = step
  | .saving simulation _ => simulation.id = id ∧ simulation.currentStep = step
  | .evictingTapes _ answer | .evictingSnapshots _ _ answer =>
      Response.Retried id step (.ok answer)
  | .done response => Response.Retried id step response
  | _ => False

structure RetryFacts (atomic : store.Atomic runtime.service) (id : Uuid) (step : Nat)
    (parameters : SimulationParametersV2) (before config : SimulationConfig Chain store) :
    Prop where
  backed : Backed atomic config
  created : config.shared.ledger.created id = some parameters
  commits : ∃ new, config.shared.ledger.commits = before.shared.ledger.commits ++ new ∧
    ∀ commit ∈ new, commit.id = id ∧ commit.step = step
  calls : Since (Stage.Retrying id step) before config

variable {manager after : Manager Chain store} {ledger : Ledger store} {call : Nat}
  {moment : Moment} {stage next : Stage Chain}

theorem retried_of_status {response : Response Chain} (told : Nat)
    (given : status response = some told) (harmless : told ∈ harmlessStatuses) :
    Response.Retried id step response :=
  .inr ⟨told, harmless, given⟩

theorem retrying_of_ledgerStep (facts : LedgerFacts atomic manager.ledger)
    (backed : stage.Backed runtime manager call) (retrying : stage.Retrying id step)
    (expected : stage.readsStore → ∃ simulation,
      atomic.stored manager.ledger.documents id = some simulation ∧
        (stage = .reading .advance id → simulation.state ≠ .completed →
          simulation.currentStep = step))
    (stepped : LedgerStep call moment manager.ledger stage ledger next) :
    next.Retrying id step ∧
      (ledger.commits = manager.ledger.commits ∨
        ledger.commits = manager.ledger.commits ++ [⟨call, id, step⟩]) := by
  cases stepped with
  | check found =>
      exact ⟨⟨rfl, retrying.1⟩, .inl rfl⟩
  | mismatch found moved =>
      exact ⟨retried_of_status 412 rfl (by simp [harmlessStatuses]), .inl rfl⟩
  | missCheck missing =>
      obtain ⟨rfl, rfl⟩ := retrying
      obtain ⟨simulation, held, -⟩ := expected rfl
      rw [atomic.get_eq facts.sound, held] at missing
      cases missing
  | read found =>
      obtain ⟨rfl, rfl⟩ := retrying
      obtain ⟨simulation, held, current⟩ := expected rfl
      obtain ⟨heldAgain, named, known, left⟩ := facts.read found
      rw [held] at heldAgain
      cases heldAgain
      refine ⟨⟨rfl, named, current rfl ?_⟩, .inl rfl⟩
      exact (SessionV2.unfinished_iff known.valid).mpr left
  | refuseRead failed =>
      obtain ⟨rfl, rfl⟩ := retrying
      obtain ⟨simulation, held, -⟩ := expected rfl
      have valid := (facts.known held).valid
      have done : simulation.state = .completed := by
        by_contra unfinished
        have accepted : simulation.rejectTerminal Route.advance.lacking = .ok () :=
          (SessionV2.rejectTerminal_eq_ok valid).mpr
          ((SessionV2.unfinished_iff valid).mp unfinished)
        rw [Ledger.read, atomic.get_eq facts.sound, held] at failed
        simp only [okOr, bind, Except.bind, accepted] at failed
        cases failed
      rw [Ledger.read, atomic.get_eq facts.sound, held] at failed
      simp only [okOr, bind, Except.bind, SessionV2.rejectTerminal_completed done] at failed
      cases failed
      exact ⟨retried_of_status 410 rfl (by simp [harmlessStatuses]), .inl rfl⟩
  | commit saved =>
      obtain ⟨-, known, left⟩ := backed
      obtain ⟨rfl, rfl⟩ := retrying
      obtain ⟨-, -, named, -, cursor, -, commits⟩ := facts.commit known left saved
      refine ⟨?_, .inr (named ▸ commits)⟩
      unfold committed
      split_ifs <;> exact .inl ⟨_, _, rfl, named, cursor⟩
  | lose lost =>
      obtain ⟨-, known, left⟩ := backed
      obtain ⟨rfl, rfl⟩ := retrying
      obtain ⟨simulation, held, -⟩ := expected rfl
      refine ⟨?_, .inl rfl⟩
      cases facts.lose known left lost with
      | inl gone =>
          rw [gone.1] at held
          cases held
      | inr conflict =>
          obtain ⟨message, rfl⟩ := conflict
          exact retried_of_status 409 rfl (by simp [harmlessStatuses])
  | create | refuseCreate | get | missGet | delete | cleanup => exact retrying.elim

theorem retrying_of_managerStep (facts : ManagerFacts runtime atomic manager)
    (backed : stage.Backed runtime manager call) (retrying : stage.Retrying id step)
    (created : manager.ledger.created id = some parameters)
    (builds : step < parameters.steps →
      ∃ snapshot, runtime.freshSnapshot parameters step = .ok snapshot)
    (expected : stage.readsStore → ∃ simulation,
      atomic.stored manager.ledger.documents id = some simulation ∧
        (stage = .reading .advance id → simulation.state ≠ .completed →
          simulation.currentStep = step))
    (stepped : ManagerStep runtime call moment manager stage after next) :
    next.Retrying id step ∧
      (after.ledger.commits = manager.ledger.commits ∨
        after.ledger.commits = manager.ledger.commits ++ [⟨call, id, step⟩]) := by
  have built : ∀ {simulation}, manager.ledger.Serving runtime simulation → simulation.id = id →
      simulation.currentStep = step → ∀ {fault},
        runtime.freshSnapshot simulation.parameters simulation.currentStep ≠ .error fault := by
    intro simulation serving named current fault failed
    obtain ⟨known, left⟩ := serving
    obtain ⟨-, -, total, -, -⟩ := SessionV2.validate_eq_ok.mp known.valid
    have owned := known.owned
    rw [named, created] at owned
    cases owned
    subst current
    obtain ⟨snapshot, built⟩ := builds (total ▸ left)
    rw [built] at failed
    cases failed
  cases stepped with
  | ledger moved =>
      exact retrying_of_ledgerStep facts.ledger backed retrying expected
        (ledgerStep_of_proceed moved)
  | hit found =>
      obtain ⟨rfl, named, current⟩ := retrying
      exact ⟨⟨named, current⟩, .inl rfl⟩
  | miss | fetch => exact ⟨retrying, .inl rfl⟩
  | @refuseTape _ simulation e =>
      obtain ⟨delivered, serving⟩ := backed
      obtain ⟨fault, failed, -⟩ :=
        @sameResponse_of_delivered _ _ _ _ simulation.currentStep delivered
      exact absurd failed (built serving retrying.2.1 retrying.2.2)
  | price =>
      obtain ⟨rfl, named, current⟩ := retrying
      exact ⟨⟨named, current⟩, .inl rfl⟩
  | @refusePrice _ simulation tape fault failed =>
      obtain ⟨delivered, serving⟩ := backed
      have fresh : runtime.freshSnapshot simulation.parameters simulation.currentStep =
          .error fault := by
        rw [Runtime.freshSnapshot, tape_of_delivered delivered]
        exact failed
      exact absurd fresh (built serving retrying.2.1 retrying.2.2)
  | evicted | evictTape | evictSnapshots => exact ⟨retrying, .inl rfl⟩

variable {before config following last : SimulationConfig Chain store}
  {action : SimulationAction}

theorem retryFacts_of_step (resting : Resting before)
    (builds : step < parameters.steps →
      ∃ snapshot, runtime.freshSnapshot parameters step = .ok snapshot)
    (facts : RetryFacts atomic id step parameters before config)
    (retries : action.Retries id step)
    (expected : ReadsExpected runtime atomic id step config action)
    (stepped : (managerCalls runtime store).step config action = some following) :
    RetryFacts atomic id step parameters before following := by
  have backed := backed_free.preserved facts.backed atCall_unguarded stepped
  have created := (grows_of_step facts.backed stepped).created facts.created
  cases action with
  | background input =>
      obtain ⟨after, ticked, rfl⟩ := step_background_eq_some.mp stepped
      obtain ⟨-, grows⟩ := backed_of_tick facts.backed.shared ticked
      obtain ⟨new, history, none⟩ := grows.ledger.commits
      have silent : new = [] := List.eq_nil_iff_forall_not_mem.mpr fun commit member =>
        none commit member trivial
      subst silent
      rw [List.append_nil] at history
      exact ⟨backed, created, by rw [history]; exact facts.commits, facts.calls.begun,
        facts.calls.others⟩
  | call index input =>
      obtain ⟨after, phase, moved, rfl⟩ := step_call_eq_some.mp stepped
      have idle : before.calls index = .idle := by
        apply facts.calls.idle_of_move resting _ moved
        intro stage finished
        obtain ⟨response, rfl⟩ := finished
        exact ⟨rfl, fun _ _ _ => rfl⟩
      obtain ⟨request, rfl, -, rfl, rfl⟩ | ⟨moment, stage, next, rfl, active, rfl, proceeded⟩ |
        ⟨stage, rfl, active, -, rfl, rfl⟩ := staged_cases moved
      · refine ⟨backed, created, facts.commits, facts.calls.update idle fun stage running => ?_⟩
        cases retries
        cases running
        exact ⟨rfl, rfl⟩
      · obtain ⟨retrying, commits⟩ := retrying_of_managerStep facts.backed.shared
          ((facts.backed.own index).active active) (facts.calls.begun idle active) facts.created
          builds (expected stage active) (managerStep_of_proceed proceeded)
        refine ⟨backed, created, ?_, facts.calls.update idle fun stage running => ?_⟩
        · obtain ⟨new, history, all⟩ := facts.commits
          cases commits with
          | inl same => exact ⟨new, same.trans history, all⟩
          | inr more =>
              refine ⟨new ++ [⟨index, id, step⟩], ?_, fun commit member => ?_⟩
              · rw [more, history, List.append_assoc]
              · cases List.mem_append.mp member with
                | inl earlier => exact all commit earlier
                | inr last =>
                    cases List.mem_singleton.mp last
                    exact ⟨rfl, rfl⟩
        · cases running
          exact retrying
      · exact ⟨backed, created, facts.commits,
          facts.calls.update idle fun stage running => (by cases running)⟩

theorem retriesOnce_of_facts {simulation : SessionV2} (backedBefore : Backed atomic before)
    (held : before.shared.stored atomic id = some simulation)
    (current : simulation.currentStep = step)
    (facts : RetryFacts atomic id step parameters before config) :
    RetriesOnce runtime atomic id step before config where
  commits := by
    obtain ⟨new, history, all⟩ := facts.commits
    obtain ⟨cursor, served⟩ := facts.backed.shared.ledger.served id
    obtain ⟨earlier, servedBefore⟩ := backedBefore.shared.ledger.served id
    have begins : earlier = step := by rw [← servedBefore.current held, current]
    have steps : List.range cursor = List.range step ++ List.replicate new.length step := by
      rw [← served.steps, Ledger.steps, history, List.filter_append, List.map_append,
        ← begins, ← servedBefore.steps]
      congr 1
      have same : new.filter (·.id = id) = new :=
        List.filter_eq_self.mpr fun commit member => decide_eq_true (all commit member).1
      rw [same, begins]
      refine List.eq_replicate_iff.mpr ⟨List.length_map .., fun served member => ?_⟩
      obtain ⟨commit, within, rfl⟩ := List.mem_map.mp member
      exact (all commit within).2
    have once : new.length ≤ 1 := by
      have distinct := List.nodup_range (n := cursor)
      rw [steps] at distinct
      exact List.nodup_replicate.mp distinct.of_append_right
    have lengths := congrArg List.length steps
    simp only [List.length_append, List.length_range, List.length_replicate] at lengths
    exact ⟨new, history, once, all, fun other found => (served.current found).trans lengths⟩
  answered {call response} idle done := by
    cases facts.calls.begun idle done with
    | inl advanced =>
        obtain ⟨moved, snapshot, rfl, named, cursor⟩ := advanced
        obtain ⟨-, own, ownCursor, -, committed⟩ := (facts.backed.own call).active done
        have same : own = step := by omega
        rw [named, same] at committed
        exact .inl ⟨moved, snapshot, rfl, cursor, committed⟩
    | inr harmless => exact .inr harmless

end Simulations

section Sessions

section Statement

variable {Chain : Type} (id : Uuid) (step : Nat)

def SessionAction.Retries : SessionAction → Prop
  | .call _ (.request request) => request = .advance id (some step)
  | _ => True

/-- The manager's own read finds the cursor expected, or refuses to serve. -/
def SessionReadsExpected : SessionConfig Chain → SessionAction → Prop
  | config, .call call (.proceed _) =>
      config.calls call = .active (.reading .advance id) →
        ∀ session, config.shared.sessions.get? id = some session →
          Accepted .advance session → session.currentStep = step
  | _, _ => True

/-- At most one of the calls since then moved the cursor, off the expected step, and the
others were told that they did not. -/
structure SessionRetriesOnce (before config : SessionConfig Chain) : Prop where
  events : ∃ new, config.shared.events = before.shared.events ++ new ∧ new.length ≤ 1 ∧
    (∀ event ∈ new, ∃ call stored chain, event = .advanced call stored chain ∧
      stored.id = id ∧ stored.currentStep = step) ∧
    ∃ session, config.shared.sessions.get? id = some session ∧
      session.currentStep = step + new.length
  answered : ∀ {call response}, before.calls call = .idle →
    config.calls call = .active (.done response) →
    (∃ moved chain, response = .ok (.advanced moved chain) ∧
        ∃ stored, .advanced call stored chain ∈ config.shared.events ∧
          .advanced call stored chain ∉ before.shared.events) ∨
      sessionStatus response ∈ harmlessStatuses

end Statement

variable {Chain : Type} {service : SessionService Chain} {id : Uuid} {step : Nat}
  {before config following last : SessionConfig Chain} {manager after : SessionManager Chain}
  {stage next : SessionStage Chain} {call : Nat} {moment : SessionMoment}
  {action : SessionAction}

def SessionResponse.Retried (response : SessionResponse Chain) : Prop :=
  (∃ moved chain, response = .ok (.advanced moved chain)) ∨
    sessionStatus response ∈ harmlessStatuses

/-- A copy of the expected step whose revision can be bumped. -/
def Copied (id : Uuid) (step : Nat) (session : Session) : Prop :=
  session.id = id ∧ session.currentStep = step ∧ session.version + 1 < u64Limit

def SessionStage.Retrying (id : Uuid) (step : Nat) : SessionStage Chain → Prop
  | .checking other expectedStep => other = id ∧ expectedStep = step
  | .reading route other => route = .advance ∧ other = id
  | .probing route session | .building route session | .filing route session _
  | .hitting route session => route = .advance ∧ Copied id step session
  | .saving session _ => Copied id step session
  | .removing _ answer => ∃ moved chain, answer = .advanced moved chain
  | .done response => SessionResponse.Retried response
  | _ => False

/-- The session is stored, at the expected step until one advance is saved. -/
structure Standing (id : Uuid) (step : Nat) (manager : SessionManager Chain)
    (new : List (SessionEvent Chain)) : Prop where
  session : ∃ session, manager.sessions.get? id = some session ∧
    session.currentStep = step + new.length ∧
    (new = [] → session.version + 1 < u64Limit)
  once : new.length ≤ 1
  events : ∀ event ∈ new, ∃ call stored chain, event = .advanced call stored chain ∧
    stored.id = id ∧ stored.currentStep = step

theorem retrying_answered {served : Except ChainError (Session × Chain)}
    (same : ∀ copy chain, served = .ok (copy, chain) → Copied id step copy) :
    (Route.advance.answered served).Retrying id step := by
  cases served with
  | error e => exact .inr (by simp [sessionStatus, ChainError.status, harmlessStatuses])
  | ok step => exact same step.1 step.2 rfl

theorem simulatorError_of_read {session : Session} {route : Route} {e : ChainError}
    (sound : session.state ≠ .error) (held : manager.sessions.get? id = some session)
    (failed : manager.read route id = .error e) : ∃ message, e = .simulatorError message := by
  rw [SessionManager.read, InMemorySessionStore.get, held] at failed
  simp only [okOr, bind, Except.bind, Route.accept, if_neg sound] at failed
  split_ifs at failed with terminal
  · cases failed
    exact ⟨_, rfl⟩
  · cases failed

theorem retrying_of_sessionStep {new : List (SessionEvent Chain)} (facts : SessionFacts manager)
    (backed : stage.Backed manager) (retrying : stage.Retrying id step)
    (standing : Standing id step manager new)
    (expected : stage = .reading .advance id → ∀ session,
      manager.sessions.get? id = some session → Accepted .advance session →
        session.currentStep = step)
    (stepped : SessionStep service call moment manager stage after next) :
    next.Retrying id step ∧
      ((after.events = manager.events ∧ Standing id step after new) ∨
        ∃ event, after.events = manager.events ++ [event] ∧
          Standing id step after (new ++ [event])) := by
  obtain ⟨current, held, cursor, fits⟩ := standing.session
  have serves : ∀ {walk : BuiltWalk Chain} {session : Session}, Copied id step session →
      ∀ copy chain, serveStep walk session = .ok (copy, chain) → Copied id step copy := by
    intro walk session copied copy chain served
    obtain ⟨rfl, -⟩ := serveStep_eq_ok served
    exact copied
  have same : ∀ {walks}, Standing id step { manager with walks } new :=
    ⟨standing.session, standing.once, standing.events⟩
  cases stepped with
  | check found => exact ⟨⟨rfl, retrying.1⟩, .inl ⟨rfl, standing⟩⟩
  | mismatch moved =>
      exact ⟨.inr (by simp [sessionStatus, SessionAnswer.status, harmlessStatuses]),
        .inl ⟨rfl, standing⟩⟩
  | missCheck missing =>
      obtain ⟨rfl, rfl⟩ := retrying
      rw [InMemorySessionStore.get, held] at missing
      cases missing
  | read found =>
      obtain ⟨rfl, rfl⟩ := retrying
      obtain ⟨heldAgain, accepted⟩ := read_eq_ok.mp found
      rw [held] at heldAgain
      cases heldAgain
      have current := expected rfl _ held accepted
      have first : new = [] := List.eq_nil_of_length_eq_zero (by omega)
      exact ⟨⟨rfl, facts.named held, current, fits first⟩, .inl ⟨rfl, standing⟩⟩
  | refuseRead failed =>
      obtain ⟨rfl, rfl⟩ := retrying
      obtain ⟨message, rfl⟩ := simulatorError_of_read (facts.sound held) held failed
      exact ⟨.inr (by simp [sessionStatus, ChainError.status, harmlessStatuses]),
        .inl ⟨rfl, standing⟩⟩
  | renew | begin | reuse | build => exact ⟨retrying, .inl ⟨rfl, same⟩⟩
  | refuseBuild =>
      exact ⟨.inr (by simp [sessionStatus, ChainError.status, harmlessStatuses]),
        .inl ⟨rfl, standing⟩⟩
  | file filed =>
      obtain ⟨rfl, copied⟩ := retrying
      exact ⟨retrying_answered (serves copied), .inl ⟨rfl, same⟩⟩
  | hit found =>
      obtain ⟨rfl, copied⟩ := retrying
      exact ⟨retrying_answered (serves copied), .inl ⟨rfl, same⟩⟩
  | missHit =>
      obtain ⟨rfl, copied⟩ := retrying
      exact ⟨retrying_answered (fun _ _ impossible => by cases impossible), .inl ⟨rfl, standing⟩⟩
  | @commit session moved chain after saved =>
      obtain ⟨named, copied, copiedFits⟩ := retrying
      obtain ⟨advancing, stored, found, version, movedNamed, rfl⟩ := commit_eq_ok_cases saved
      have unchanged : SameButMethod _ stored := backed.1.current found version.symm
      rw [named, held] at found
      cases found
      have sameStep : current.currentStep = step := by
        rw [SameButMethod] at unchanged
        rw [unchanged] at copied
        exact copied
      have first : new = [] := List.eq_nil_of_length_eq_zero (by omega)
      subst first
      have movedStep : moved.currentStep = step + 1 := by
        obtain ⟨-, state, -, equal⟩ := Session.advanced_eq_ok advancing
        rw [equal, ← copied]
      refine ⟨?_, .inr ⟨_, rfl, ⟨⟨moved, ?_, movedStep, ?_⟩, le_refl 1, fun event member => ?_⟩⟩⟩
      · unfold advancedStage
        split_ifs
        · exact ⟨_, _, rfl⟩
        · exact .inl ⟨_, _, rfl⟩
      · rw [named, OrderedMap.get?_insert, Function.update_self]
      · intro impossible
        cases impossible
      · cases List.mem_singleton.mp member
        exact ⟨call, current, _, rfl, facts.named held, sameStep⟩
  | @lose session chain e lost =>
      obtain ⟨named, -, copiedFits⟩ := retrying
      have accepted := backed.2
      obtain ⟨moved, advancing⟩ : ∃ moved, session.advanced moment.now = .ok moved :=
        Session.advanced_of_left (accepted.left rfl) accepted.active accepted.sound copiedFits
      obtain ⟨-, state, -, equal⟩ := Session.advanced_eq_ok advancing
      rw [SessionManager.commit, advancing] at lost
      refine ⟨?_, .inl ⟨rfl, standing⟩⟩
      cases stored : InMemorySessionStore.saveCas manager.sessions moved session.version with
      | ok sessions =>
          simp only [bind, Except.bind, stored] at lost
          cases lost
      | error refusal =>
          simp only [bind, Except.bind, stored] at lost
          cases lost
          cases InMemorySessionStore.saveCas_eq_error stored with
          | inl gone =>
              rw [equal, named, held] at gone
              cases gone.1
          | inr conflict =>
              obtain ⟨_, message, -, -, rfl⟩ := conflict
              exact .inr (by simp [sessionStatus, ChainError.status, harmlessStatuses])
  | remove =>
      obtain ⟨moved, chain, rfl⟩ := retrying
      exact ⟨.inl ⟨moved, chain, rfl⟩, .inl ⟨rfl, same⟩⟩
  | create | refuseCreate | merge | refuseMerge | replace | refuseReplace | change |
      refuseChange | delete | cleanup => exact retrying.elim

structure SessionRetryFacts (id : Uuid) (step : Nat) (before config : SessionConfig Chain) :
    Prop where
  backed : Protocol.Holds SessionFacts SessionCall.Backed config
  events : ∃ new, config.shared.events = before.shared.events ++ new ∧
    Standing id step config.shared new
  calls : Since (SessionStage.Retrying id step) before config

theorem sessionRetryFacts_of_step (quiet : Quiet before)
    (facts : SessionRetryFacts id step before config)
    (retries : SessionAction.Retries id step action)
    (expected : SessionReadsExpected id step config action)
    (stepped : (sessionCalls service).step config action = some following) :
    SessionRetryFacts id step before following := by
  have backed := sessions_free.preserved facts.backed atCall_unguarded stepped
  cases action with
  | background input => cases input
  | call index input =>
      obtain ⟨after, phase, moved, rfl⟩ := step_call_eq_some.mp stepped
      have idle : before.calls index = .idle := by
        apply facts.calls.idle_of_move quiet _ moved
        intro stage finished
        obtain ⟨response, rfl⟩ := finished
        exact ⟨rfl, fun _ _ _ => rfl⟩
      obtain ⟨request, rfl, -, rfl, rfl⟩ | ⟨moment, stage, next, rfl, active, rfl, proceeded⟩ |
        ⟨stage, rfl, active, -, rfl, rfl⟩ := staged_cases moved
      · refine ⟨backed, facts.events, facts.calls.update idle fun stage running => ?_⟩
        cases retries
        cases running
        exact ⟨rfl, rfl⟩
      · obtain ⟨new, history, standing⟩ := facts.events
        obtain ⟨retrying, effect⟩ := retrying_of_sessionStep facts.backed.shared
          ((facts.backed.own index).active active).1 (facts.calls.begun idle active) standing
          (fun reading => expected (reading ▸ active)) (sessionStep_of_proceed proceeded)
        refine ⟨backed, ?_, facts.calls.update idle fun stage running => ?_⟩
        · cases effect with
          | inl same => exact ⟨new, same.1.trans history, same.2⟩
          | inr more =>
              obtain ⟨event, more, standing⟩ := more
              exact ⟨new ++ [event], by rw [more, history, List.append_assoc], standing⟩
        · cases running
          exact retrying
      · exact ⟨backed, facts.events,
          facts.calls.update idle fun stage running => (by cases running)⟩

theorem sessionRetriesOnce_of_facts
    (backedBefore : Protocol.Holds SessionFacts SessionCall.Backed before)
    (facts : SessionRetryFacts id step before config) :
    SessionRetriesOnce id step before config where
  events := by
    obtain ⟨new, history, standing⟩ := facts.events
    obtain ⟨session, held, cursor, -⟩ := standing.session
    exact ⟨new, history, standing.once, standing.events, session, held, cursor⟩
  answered {call response} idle done := by
    cases facts.calls.begun idle done with
    | inl advanced =>
        obtain ⟨moved, chain, rfl⟩ := advanced
        obtain ⟨stored, recorded⟩ := ((facts.backed.own call).active done).2
        refine .inl ⟨moved, chain, rfl, stored, recorded, fun earlier => ?_⟩
        exact (backedBefore.own call).idle idle _ earlier rfl
    | inr harmless => exact .inr harmless

end Sessions

/-! Two advances of a session, and of a simulation, that expect its first step. -/

def expecting (call count : Nat) : List SessionAction :=
  sessionCall call (.advance someId (some 0)) count

def retryingInTurn : List SessionAction := expecting 1 6 ++ expecting 2 1

/-- The second one passes its check before the first one saves. -/
def retryingAcross : List SessionAction :=
  expecting 2 1 ++ expecting 1 6 ++ sessionSections 2 4

def twoSteps : SimulationParametersV2 :=
  { dailyParameters Domain.Expiry.thursdayNoon with steps := 2 }

def creatingTwoSteps : List SimulationAction :=
  .call 0 (.request (.create twoSteps)) :: sections 0 1

def expectingFirst (call count : Nat) : List SimulationAction :=
  .call call (.request (.advance someId (some 0))) :: sections call count

def simulationsInTurn : List SimulationAction :=
  expectingFirst 1 5 ++ .background (.runTask 1 0) :: sections 1 5 ++ expectingFirst 2 1

def simulationsAcross : List SimulationAction :=
  expectingFirst 2 1 ++ expectingFirst 1 5 ++ .background (.runTask 1 0) :: sections 1 5 ++
    sections 2 8

/-- Whether a read of a session finds its first step. -/
def sessionReadsFirst (config : SessionConfig Nat) : SessionAction → Bool
  | .call call (.proceed _) =>
      match config.calls call with
      | .active (.reading _ _) =>
          (config.shared.sessions.get? someId).all fun session => session.currentStep = 0
      | _ => true
  | _ => true

theorem expected_of_sessionReadsFirst (config : SessionConfig Nat) (action : SessionAction)
    (allowed : sessionReadsFirst config action) : SessionReadsExpected someId 0 config action := by
  cases action with
  | background input => cases input
  | call call input =>
      cases input with
      | request | drop => trivial
      | proceed moment =>
          intro reading session held _
          simp only [sessionReadsFirst, reading, held, Option.all_some,
            decide_eq_true_eq] at allowed
          exact allowed

/-- Whether the simulation is stored, and a read of it finds its first step. -/
def readsFirst (config : SimulationConfig Unit (memoryBackend.store utcService)) :
    SimulationAction → Bool
  | .call call (.proceed _) =>
      (config.shared.stored (memoryBackend.atomic utcService) someId).any fun simulation =>
        match config.calls call with
        | .active (.reading _ _) => simulation.currentStep = 0
        | _ => true
  | _ => true

theorem expected_of_readsFirst (config : SimulationConfig Unit (memoryBackend.store utcService))
    (action : SimulationAction) (allowed : readsFirst config action) :
    ReadsExpected flatRuntime (memoryBackend.atomic utcService) someId 0 config action := by
  cases action with
  | background input => trivial
  | call call input =>
      cases input with
      | request | drop => trivial
      | proceed moment =>
          intro stage active _
          obtain ⟨simulation, held, reads⟩ := (Option.any_eq_true _ _).mp allowed
          refine ⟨simulation, held, fun reading _ => ?_⟩
          subst reading
          rw [active] at reads
          exact of_decide_eq_true reads

def SimulationCall.answered {Chain : Type} : SimulationCall Chain → Bool
  | .active (.done _) => true
  | _ => false

theorem resting_of_creatingTwoSteps
    {config : SimulationConfig Unit (memoryBackend.store utcService)}
    (ran : memoryCalls.run emptyMemory creatingTwoSteps = some config) : Resting config := by
  intro call stage running
  by_cases first : call = 0
  · subst first
    have done : (memoryCalls.run emptyMemory creatingTwoSteps).all (fun config =>
        SimulationCall.answered (config.calls 0)) = true := by
      decide +kernel
    rw [ran, Option.all_some, running] at done
    cases stage with
    | done response => exact ⟨response, rfl⟩
    | creating | getting | checking | reading | looking | fetching | saving | deleting | cleaning |
        evictingTapes | evictingSnapshots => cases done
  · have idle : config.calls call = emptyMemory.calls call := calls_of_run (by
      simp [creatingTwoSteps, sections, first]) ran
    rw [idle] at running
    cases running

/-- On either surface, of the advances that expect the stored cursor at most one moves it
and every other one is told that it did not, while each reads that cursor, or nothing left,
when it goes on to serve. -/
theorem retriesOnce {Chain Quote : Type} {service : SessionService Chain}
    {runtime : Runtime Quote} (backend : Backend) :
    (∀ {earlier actions : List SessionAction} {config last : SessionConfig Chain} {id : Uuid}
        {session : Session},
      (sessionCalls service).run ((sessionCalls service).start .empty) earlier = some config →
      Quiet config → config.shared.sessions.get? id = some session →
      session.version + 1 < u64Limit →
      (∀ action ∈ actions, SessionAction.Retries id session.currentStep action) →
      (sessionCalls service).Meets (SessionReadsExpected id session.currentStep) config actions →
      (sessionCalls service).run config actions = some last →
      SessionRetriesOnce id session.currentStep config last) ∧
    (∀ {earlier actions : List SimulationAction}
        {config last : SimulationConfig Quote (backend.store runtime.service)} {id : Uuid}
        {simulation : SessionV2},
      (managerCalls runtime _).run ((managerCalls runtime _).start (.new runtime _)) earlier =
        some config →
      Resting config →
      config.shared.stored (backend.atomic runtime.service) id = some simulation →
      (simulation.currentStep < simulation.totalSteps → ∃ snapshot,
        runtime.freshSnapshot simulation.parameters simulation.currentStep = .ok snapshot) →
      (∀ action ∈ actions, SimulationAction.Retries id simulation.currentStep action) →
      (managerCalls runtime _).Meets
        (ReadsExpected runtime (backend.atomic runtime.service) id simulation.currentStep) config
        actions →
      (managerCalls runtime _).run config actions = some last →
      RetriesOnce runtime (backend.atomic runtime.service) id simulation.currentStep config
        last) := by
  constructor
  · intro earlier actions config last id session reached quiet held fits only met ran
    have backed := sessionFacts_of_run reached
    have starts : SessionRetryFacts id session.currentStep config config :=
      ⟨backed, ⟨[], (List.append_nil _).symm, ⟨session, held, rfl, fun _ => fits⟩, Nat.zero_le 1,
        fun _ member => absurd member List.not_mem_nil⟩, since_start⟩
    apply sessionRetriesOnce_of_facts backed
    exact holds_of_guarded_run (fun facts guard stepped =>
      sessionRetryFacts_of_step quiet facts guard.1 guard.2 stepped) starts (met.among only) ran
  · intro earlier actions config last id simulation reached resting held builds only met ran
    have backed := backed_of_run (backend.atomic runtime.service) reached
    have owned := (backed.shared.ledger.known held).owned
    rw [(backend.atomic runtime.service).stored_id backed.shared.ledger.sound held] at owned
    obtain ⟨-, -, total, -, -⟩ :=
      SessionV2.validate_eq_ok.mp (backed.shared.ledger.known held).valid
    rw [total] at builds
    have starts : RetryFacts (backend.atomic runtime.service) id simulation.currentStep
        simulation.parameters config config :=
      ⟨backed, owned,
        ⟨[], (List.append_nil _).symm, fun _ member => absurd member List.not_mem_nil⟩,
        since_start⟩
    apply retriesOnce_of_facts backed held rfl
    exact holds_of_guarded_run (fun facts guard stepped =>
      retryFacts_of_step resting builds facts guard.1 guard.2 stepped) starts (met.among only) ran

theorem retriesOnce_inTurn :
    (∃ config session last, seededCalls.run noSessions creating = some config ∧
      config.shared.sessions.get? someId = some session ∧
      seededCalls.run config retryingInTurn = some last ∧
      SessionRetriesOnce someId session.currentStep config last) ∧
    (∃ config simulation last, memoryCalls.run emptyMemory creatingTwoSteps = some config ∧
      config.shared.stored (memoryBackend.atomic utcService) someId = some simulation ∧
      memoryCalls.run config simulationsInTurn = some last ∧
      RetriesOnce flatRuntime (memoryBackend.atomic utcService) someId simulation.currentStep
        config last) := by
  constructor
  · have computed : (seededCalls.run noSessions creating).any (fun config =>
        (config.shared.sessions.get? someId).any (fun session =>
          session.currentStep = 0 ∧ session.version + 1 < u64Limit) &&
          (seededCalls.run config retryingInTurn).isSome &&
          seededCalls.checks sessionReadsFirst config retryingInTurn) = true := by
      decide +kernel
    obtain ⟨config, created, computed⟩ := (Option.any_eq_true _ _).mp computed
    obtain ⟨found, checked⟩ := Bool.and_eq_true_iff.mp computed
    obtain ⟨held, ran⟩ := Bool.and_eq_true_iff.mp found
    obtain ⟨session, held, start⟩ := (Option.any_eq_true _ _).mp held
    obtain ⟨first, fits⟩ := of_decide_eq_true start
    obtain ⟨last, ran⟩ := Option.isSome_iff_exists.mp ran
    refine ⟨config, session, last, created, held, ran, ?_⟩
    refine (@retriesOnce _ _ seededService flatRuntime memoryBackend).1 created
      (quiet_of_creating created) held fits ?_ ?_ ran
    · rw [first]
      simp [retryingInTurn, expecting, sessionCall, sessionSections, SessionAction.Retries]
    · rw [first]
      exact meets_of_checks expected_of_sessionReadsFirst checked
  · have computed : (memoryCalls.run emptyMemory creatingTwoSteps).any (fun config =>
        (config.shared.stored (memoryBackend.atomic utcService) someId).any (fun simulation =>
          decide (simulation.currentStep = 0) &&
            (flatRuntime.freshSnapshot simulation.parameters simulation.currentStep).isOk) &&
          (memoryCalls.run config simulationsInTurn).isSome &&
          memoryCalls.checks readsFirst config simulationsInTurn) = true := by
      decide +kernel
    obtain ⟨config, created, computed⟩ := (Option.any_eq_true _ _).mp computed
    obtain ⟨found, checked⟩ := Bool.and_eq_true_iff.mp computed
    obtain ⟨held, ran⟩ := Bool.and_eq_true_iff.mp found
    obtain ⟨simulation, held, start⟩ := (Option.any_eq_true _ _).mp held
    obtain ⟨first, built⟩ := Bool.and_eq_true_iff.mp start
    obtain ⟨last, ran⟩ := Option.isSome_iff_exists.mp ran
    refine ⟨config, simulation, last, created, held, ran, ?_⟩
    refine (@retriesOnce _ _ seededService flatRuntime memoryBackend).2 created
      (resting_of_creatingTwoSteps created) held (fun _ => ?_) ?_ ?_ ran
    · cases fresh : flatRuntime.freshSnapshot simulation.parameters simulation.currentStep with
      | ok snapshot => exact ⟨snapshot, rfl⟩
      | error fault =>
          rw [fresh] at built
          cases built
    · rw [of_decide_eq_true first]
      simp [simulationsInTurn, expectingFirst, sections, SimulationAction.Retries]
    · rw [of_decide_eq_true first]
      exact meets_of_checks expected_of_readsFirst checked

/-- Both advances pass their check, and both move the cursor. -/
theorem retryingAcross_commits_twice :
    (∃ config session last, seededCalls.run noSessions creating = some config ∧
      config.shared.sessions.get? someId = some session ∧
      seededCalls.run config retryingAcross = some last ∧
      ¬ SessionRetriesOnce someId session.currentStep config last) ∧
    (∃ config simulation last, memoryCalls.run emptyMemory creatingTwoSteps = some config ∧
      config.shared.stored (memoryBackend.atomic utcService) someId = some simulation ∧
      memoryCalls.run config simulationsAcross = some last ∧
      ¬ RetriesOnce flatRuntime (memoryBackend.atomic utcService) someId simulation.currentStep
        config last) := by
  constructor
  · have computed : (seededCalls.run noSessions creating).any (fun config =>
        (config.shared.sessions.get? someId).isSome &&
          (seededCalls.run config retryingAcross).any fun last =>
            config.shared.events.length + 2 ≤ last.shared.events.length) = true := by
      decide +kernel
    obtain ⟨config, created, computed⟩ := (Option.any_eq_true _ _).mp computed
    obtain ⟨held, ran⟩ := Bool.and_eq_true_iff.mp computed
    obtain ⟨session, held⟩ := Option.isSome_iff_exists.mp held
    obtain ⟨last, ran, twice⟩ := (Option.any_eq_true _ _).mp ran
    refine ⟨config, session, last, created, held, ran, fun once => ?_⟩
    obtain ⟨new, history, few, -⟩ := once.events
    have longer := of_decide_eq_true twice
    rw [history, List.length_append] at longer
    omega
  · have computed : (memoryCalls.run emptyMemory creatingTwoSteps).any (fun config =>
        (config.shared.stored (memoryBackend.atomic utcService) someId).isSome &&
          (memoryCalls.run config simulationsAcross).any fun last =>
            config.shared.ledger.commits.length + 2 ≤ last.shared.ledger.commits.length) =
              true := by
      decide +kernel
    obtain ⟨config, created, computed⟩ := (Option.any_eq_true _ _).mp computed
    obtain ⟨held, ran⟩ := Bool.and_eq_true_iff.mp computed
    obtain ⟨simulation, held⟩ := Option.isSome_iff_exists.mp held
    obtain ⟨last, ran, twice⟩ := (Option.any_eq_true _ _).mp ran
    refine ⟨config, simulation, last, created, held, ran, fun once => ?_⟩
    obtain ⟨new, history, few, -⟩ := once.commits
    have longer := of_decide_eq_true twice
    rw [history, List.length_append] at longer
    omega

end OptionChainSimulator.Session
