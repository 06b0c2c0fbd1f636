import Mathlib.Tactic
import OptionChainSimulator.Session.SessionFacts

namespace OptionChainSimulator.Session

open Foundation Foundation.Protocol Utils Domain Api

/-! The life of a v1 session: its state, its revisions, and the cursors it served between
two changes of its parameters. -/

section Statement

variable {Chain : Type}

def SessionEvent.session : SessionEvent Chain → Uuid
  | .advanced _ stored _ | .replaced _ stored _ _ => stored.id

/-- The saves of one session, in order. -/
def SessionManager.history (manager : SessionManager Chain) (id : Uuid) :
    List (SessionEvent Chain) :=
  manager.events.filter (·.session = id)

/-- The cursors served since the last change of parameters, and before each change. -/
structure Playback where
  current : List Nat
  closed : List (List Nat)
  deriving DecidableEq

def Playback.start : Playback := ⟨[], []⟩

def Playback.after (playback : Playback) : SessionEvent Chain → Playback
  | .advanced _ stored _ => { playback with current := playback.current ++ [stored.currentStep] }
  | .replaced .. => ⟨[], playback.closed ++ [playback.current]⟩

def SessionManager.playback (manager : SessionManager Chain) (id : Uuid) : Playback :=
  (manager.history id).foldl Playback.after .start

/-- The state is the one the cursor says. -/
inductive StateAtCursor (session : Session) : Prop where
  | initialized (state : session.state = .initialized) (first : session.currentStep = 0)
  | reinitialized (state : session.state = .reinitialized) (first : session.currentStep = 0)
  | inProgress (state : session.state = .inProgress) (started : 0 < session.currentStep)
      (left : session.currentStep < session.totalSteps)
  | completed (state : session.state = .completed)
      (last : session.currentStep = session.totalSteps)

/-- A section that changes the sessions belongs to a call that never answers an error. -/
def ErrorsChangeNothing (service : SessionService Chain) (config : SessionConfig Chain) : Prop :=
  ∀ {call moment next},
    (sessionCalls service).step config (.call call (.proceed moment)) = some next →
    next.shared.sessions ≠ config.shared.sessions →
    ∀ {more later e}, (sessionCalls service).run next more = some later →
      later.calls call ≠ .active (.done (.error e))

structure LifecycleHolds (service : SessionService Chain) (config : SessionConfig Chain) :
    Prop where
  sessions : ∀ {id session}, config.shared.sessions.get? id = some session →
    session.totalSteps = session.parameters.steps ∧
      session.version = (config.shared.history id).length ∧ StateAtCursor session
  playback : ∀ id, ∀ tape ∈ (config.shared.playback id).current ::
    (config.shared.playback id).closed, tape = List.range tape.length
  errors : ErrorsChangeNothing service config

/-- New parameters have a step. -/
def SessionRequest.Positive : SessionRequest → Prop
  | .create parameters | .replace _ parameters => 1 ≤ parameters.steps
  | _ => True

def Positive : SessionAction → Prop
  | .call _ (.request request) => request.Positive
  | _ => True

end Statement

section Facts

variable {Chain : Type} {service : SessionService Chain}
  {before after manager : SessionManager Chain}
  {config next last : SessionConfig Chain} {stage nextStage : SessionStage Chain}
  {action : SessionAction} {call : Nat} {moment : SessionMoment} {id : Uuid}
  {session moved : Session}

/-- The new parameters a request carries have a step. -/
def SessionStage.Positive : SessionStage Chain → Prop
  | .creating parameters | .replacing _ parameters _ => 1 ≤ parameters.steps
  | .storing session _ _ => 1 ≤ session.parameters.steps ∧ session.currentStep = 0
  | _ => True

/-- A session has served the cursors before its own since its parameters last changed, and
ranges before that. -/
structure Played (manager : SessionManager Chain) (id : Uuid) (cursor : Nat) : Prop where
  current : (manager.playback id).current = List.range cursor
  closed : ∀ tape ∈ (manager.playback id).closed, tape = List.range tape.length
  stored : ∀ {session}, manager.sessions.get? id = some session → session.currentStep = cursor

structure LifecycleFacts (manager : SessionManager Chain) : Prop where
  positive : ∀ {id session}, manager.sessions.get? id = some session →
    1 ≤ session.parameters.steps
  state : ∀ {id session}, manager.sessions.get? id = some session → StateAtCursor session
  version : ∀ {id session}, manager.sessions.get? id = some session →
    session.version = (manager.history id).length
  unborn : ∀ {id}, id ∉ manager.issued → manager.history id = []
  played : ∀ id, ∃ cursor, Played manager id cursor

theorem lifecycleFacts_empty : LifecycleFacts (.empty : SessionManager Chain) where
  positive held := by cases held
  state held := by cases held
  version held := by cases held
  unborn _ := rfl
  played _ := ⟨0, rfl, fun _ member => absurd member List.not_mem_nil, fun held => by cases held⟩

theorem LifecycleFacts.shrink (facts : LifecycleFacts before)
    (earlier : ∀ {id session}, after.sessions.get? id = some session →
      before.sessions.get? id = some session)
    (events : after.events = before.events) (issued : after.issued = before.issued) :
    LifecycleFacts after := by
  have history : ∀ id, after.history id = before.history id := by
    intro id
    rw [SessionManager.history, events, SessionManager.history]
  refine ⟨fun held => facts.positive (earlier held), fun held => facts.state (earlier held),
    fun held => ?_, fun unborn => ?_, fun id => ?_⟩
  · rw [history]
    exact facts.version (earlier held)
  · rw [history]
    exact facts.unborn (issued ▸ unborn)
  · obtain ⟨cursor, played⟩ := facts.played id
    have playback : after.playback id = before.playback id := by
      rw [SessionManager.playback, history, SessionManager.playback]
    exact ⟨cursor, playback ▸ played.current, playback ▸ played.closed,
      fun held => played.stored (earlier held)⟩

theorem history_append {sessions : Sessions} {event : SessionEvent Chain} {other : Uuid} :
    SessionManager.history
        { before with sessions := sessions, events := before.events ++ [event] } other =
      if event.session = other then before.history other ++ [event] else before.history other := by
  unfold SessionManager.history
  rw [List.filter_append]
  by_cases same : event.session = other
  · simp [same]
  · simp [same]

theorem LifecycleFacts.save {stored : Session} {event : SessionEvent Chain}
    (facts : LifecycleFacts before) (issued : id ∈ before.issued)
    (held : before.sessions.get? id = some stored) (own : event.session = id)
    (version : moved.version = stored.version + 1) (positive : 1 ≤ moved.parameters.steps)
    (state : StateAtCursor moved)
    (current : ((before.playback id).after event).current = List.range moved.currentStep)
    (closed : ∀ tape ∈ ((before.playback id).after event).closed, tape = List.range tape.length) :
    LifecycleFacts { before with
      sessions := before.sessions.insert id moved
      events := before.events ++ [event] } := by
  refine ⟨fun given => ?_, fun given => ?_, fun given => ?_, fun unborn => ?_, fun other => ?_⟩
  · obtain ⟨-, rfl⟩ | ⟨-, earlier⟩ := OrderedMap.get?_insert_cases given
    · exact positive
    · exact facts.positive earlier
  · obtain ⟨-, rfl⟩ | ⟨-, earlier⟩ := OrderedMap.get?_insert_cases given
    · exact state
    · exact facts.state earlier
  · rw [history_append, own]
    obtain ⟨rfl, rfl⟩ | ⟨different, earlier⟩ := OrderedMap.get?_insert_cases given
    · rw [if_pos rfl, List.length_append, ← facts.version held, version]
      rfl
    · rw [if_neg different.symm]
      exact facts.version earlier
  · rw [history_append, own, if_neg]
    · exact facts.unborn unborn
    · intro same
      exact unborn (same ▸ issued)
  · by_cases same : other = id
    · subst same
      have playback : SessionManager.playback
          { before with
            sessions := before.sessions.insert other moved
            events := before.events ++ [event] } other = (before.playback other).after event := by
        rw [SessionManager.playback, history_append, if_pos own, List.foldl_append]
        rfl
      refine ⟨moved.currentStep, playback ▸ current, playback ▸ closed, fun given => ?_⟩
      obtain ⟨-, rfl⟩ | ⟨different, -⟩ := OrderedMap.get?_insert_cases given
      · rfl
      · exact absurd rfl different
    · obtain ⟨cursor, played⟩ := facts.played other
      have playback : SessionManager.playback
          { before with
            sessions := before.sessions.insert id moved
            events := before.events ++ [event] } other = before.playback other := by
        rw [SessionManager.playback, history_append, own, if_neg (Ne.symm same)]
        rfl
      refine ⟨cursor, playback ▸ played.current, playback ▸ played.closed, fun given => ?_⟩
      obtain ⟨impossible, -⟩ | ⟨-, earlier⟩ := OrderedMap.get?_insert_cases given
      · exact absurd impossible same
      · exact played.stored earlier

theorem LifecycleFacts.create {parameters : SimulationParameters} {now : SystemTime}
    (facts : LifecycleFacts before) (fresh : id ∉ before.issued)
    (positive : 1 ≤ parameters.steps) :
    LifecycleFacts { before with
      sessions := before.sessions.insert id (.withRandomId parameters id now)
      issued := before.issued ++ [id] } := by
  refine ⟨fun given => ?_, fun given => ?_, fun given => ?_, fun unborn => ?_, fun other => ?_⟩
  · obtain ⟨-, rfl⟩ | ⟨-, earlier⟩ := OrderedMap.get?_insert_cases given
    · exact positive
    · exact facts.positive earlier
  · obtain ⟨-, rfl⟩ | ⟨-, earlier⟩ := OrderedMap.get?_insert_cases given
    · exact .initialized rfl rfl
    · exact facts.state earlier
  · obtain ⟨rfl, rfl⟩ | ⟨-, earlier⟩ := OrderedMap.get?_insert_cases given
    · exact (congrArg List.length (facts.unborn fresh)).symm
    · exact facts.version earlier
  · exact facts.unborn fun earlier => unborn (List.mem_append_left _ earlier)
  · obtain ⟨cursor, played⟩ := facts.played other
    by_cases same : other = id
    · subst same
      have nothing : before.playback other = .start := by
        rw [SessionManager.playback, facts.unborn fresh]
        rfl
      refine ⟨0, congrArg Playback.current nothing, played.closed, fun given => ?_⟩
      obtain ⟨-, rfl⟩ | ⟨different, -⟩ := OrderedMap.get?_insert_cases given
      · rfl
      · exact absurd rfl different
    · refine ⟨cursor, played.current, played.closed, fun given => ?_⟩
      obtain ⟨impossible, -⟩ | ⟨-, earlier⟩ := OrderedMap.get?_insert_cases given
      · exact absurd impossible same
      · exact played.stored earlier

theorem positive_answered {route : Route} {served : Except ChainError (Session × Chain)} :
    (route.answered served).Positive := by
  cases served with
  | error e => trivial
  | ok step => cases route <;> trivial

theorem stateAtCursor_of_advanced {now : SystemTime}
    (advancing : session.advanced now = .ok moved) :
    StateAtCursor moved := by
  obtain ⟨left, -⟩ := Session.advanced_eq_ok advancing
  have state := Session.state_of_advanced advancing
  have cursor : moved.currentStep = session.currentStep + 1 ∧
      moved.totalSteps = session.totalSteps := by
    obtain ⟨-, _, -, rfl⟩ := Session.advanced_eq_ok advancing
    exact ⟨rfl, rfl⟩
  by_cases last : moved.currentStep = moved.totalSteps
  · rw [if_pos last] at state
    exact .completed state last
  · rw [if_neg last] at state
    exact .inProgress state (by omega) (by omega)

theorem lifecycle_of_sessionStep (shared : SessionFacts before) (facts : LifecycleFacts before)
    (backed : stage.Backed before) (positive : stage.Positive)
    (stepped : SessionStep service call moment before stage after nextStage) :
    LifecycleFacts after ∧ nextStage.Positive := by
  cases stepped with
  | create fresh created =>
      obtain ⟨-, rfl⟩ := InMemorySessionStore.create_eq_ok created
      exact ⟨facts.create fresh positive, trivial⟩
  | renew | remove => exact ⟨facts.shrink (fun held => held) rfl rfl, trivial⟩
  | file | hit => exact ⟨facts.shrink (fun held => held) rfl rfl, positive_answered⟩
  | missHit => exact ⟨facts, positive_answered⟩
  | @commit session moved chain after saved =>
      obtain ⟨advancing, stored, held, version, -, rfl⟩ := commit_eq_ok_cases saved
      have copied : SameButMethod session stored := backed.1.current held version.symm
      have same : session.currentStep = stored.currentStep ∧
          session.parameters.steps = stored.parameters.steps := by
        rw [copied]
        exact ⟨rfl, rfl⟩
      obtain ⟨cursor, played⟩ := facts.played session.id
      have storedCursor := played.stored held
      have state := stateAtCursor_of_advanced advancing
      obtain ⟨-, _, -, rfl⟩ := Session.advanced_eq_ok advancing
      have movedCursor : session.currentStep + 1 = cursor + 1 := by
        rw [same.1, storedCursor]
      refine ⟨facts.save (shared.issued held) held (shared.named held) ?_ ?_ state ?_ played.closed,
        ?_⟩
      · rw [version]
      · rw [same.2]
        exact facts.positive held
      · simp only [Playback.after]
        rw [movedCursor, played.current, storedCursor, List.range_succ]
      · unfold advancedStage
        split_ifs <;> trivial
  | merge merged =>
      obtain ⟨⟨stored, held, rfl⟩, applied⟩ := merge_eq_ok.mp merged
      exact ⟨facts, steps_of_applyUpdate (facts.positive held) applied⟩
  | replace found =>
      obtain ⟨stored, -, replaced, -⟩ := readToReplace_eq_ok.mp found
      obtain ⟨-, rfl⟩ := Session.replaced_eq_ok.mp replaced
      exact ⟨facts, positive, rfl⟩
  | change saved =>
      obtain ⟨stored, held, version, rfl⟩ := change_eq_ok_cases saved
      obtain ⟨total, state, bumped, -⟩ := backed
      obtain ⟨steps, first⟩ := positive
      obtain ⟨cursor, played⟩ := facts.played _
      refine ⟨facts.save (shared.issued held) held (shared.named held) (by omega) steps
        (.reinitialized state first) ?_ ?_, trivial⟩
      · rw [first]
        rfl
      · intro tape member
        cases List.mem_append.mp member with
        | inl earlier => exact played.closed tape earlier
        | inr last =>
            rw [List.mem_singleton.mp last, played.current, List.length_range]
  | delete =>
      exact ⟨facts.shrink InMemorySessionStore.held_of_delete rfl rfl, trivial⟩
  | cleanup =>
      exact ⟨facts.shrink InMemorySessionStore.held_of_cleanup rfl rfl, trivial⟩
  | refuseCreate | check | mismatch | missCheck | read | refuseRead | begin | reuse | build |
      refuseBuild | lose | refuseMerge | refuseReplace | refuseChange => exact ⟨facts, trivial⟩

theorem lifecycle_free : (sessionCalls service).FreeOfInterference
    (fun call input _ _ => Positive (.call call input))
    (fun manager => SessionFacts manager ∧ LifecycleFacts manager)
    (fun call manager phase => SessionCall.Backed call manager phase ∧
      ∀ stage, phase = .active stage → stage.Positive) where
  move {call input before phase after next} facts own positive moved := by
    obtain ⟨sharedAfter, -, nextBacked⟩ := backed_of_sessionMove facts.1 own.1 moved
    obtain ⟨request, rfl, rfl, rfl, rfl⟩ | ⟨moment, stage, nextStage, -, rfl, rfl, stepped⟩ |
      ⟨stage, -, rfl, -, rfl, rfl⟩ := staged_cases moved
    · refine ⟨facts, nextBacked, fun stage running => ?_⟩
      cases running
      cases request with
      | create | replace => exact positive
      | advance id expectedStep => cases expectedStep <;> trivial
      | peek | update | delete | cleanup => trivial
    · obtain ⟨factsAfter, nextPositive⟩ := lifecycle_of_sessionStep facts.1 facts.2
        (own.1.active rfl).1 (own.2 stage rfl) (sessionStep_of_proceed stepped)
      refine ⟨⟨sharedAfter, factsAfter⟩, nextBacked, fun stage running => ?_⟩
      cases running
      exact nextPositive
    · exact ⟨facts, nextBacked, fun stage running => by cases running⟩
  others facts own _ moved other different phase held := by
    obtain ⟨-, evolves, -⟩ := backed_of_sessionMove facts.1 own.1 moved
    exact ⟨held.1.evolve evolves different, held.2⟩
  tick _ ticked := by cases ticked

/-- Past its save, a call answers what it did. -/
def SessionStage.Settled : SessionStage Chain → Prop
  | .removing _ _ | .done (.ok _) => True
  | _ => False

theorem settled_of_write (stepped : SessionStep service call moment before stage after nextStage)
    (changed : after.sessions ≠ before.sessions) : nextStage.Settled := by
  cases stepped with
  | create | change | delete | cleanup => trivial
  | commit =>
      unfold advancedStage
      split_ifs <;> trivial
  | refuseCreate | check | mismatch | missCheck | read | refuseRead | renew | begin | reuse |
      build | refuseBuild | file | hit | missHit | lose | merge | refuseMerge | replace |
      refuseReplace | refuseChange | remove => exact absurd rfl changed

theorem Settled.step (settled : stage.Settled)
    (stepped : SessionStep service call moment before stage after nextStage) :
    nextStage.Settled := by
  cases stepped with
  | remove => trivial
  | create | refuseCreate | check | mismatch | missCheck | read | refuseRead | renew | begin |
      reuse | build | refuseBuild | file | hit | missHit | commit | lose | merge | refuseMerge |
      replace | refuseReplace | change | refuseChange | delete | cleanup => cases settled

/-- A call whose write is done stays past it. -/
theorem settled_of_run {more : List SessionAction}
    (begun : config.calls call ≠ .idle)
    (settled : ∀ stage, config.calls call = .active stage → stage.Settled)
    (ran : (sessionCalls service).run config more = some last) :
    ∀ stage, last.calls call = .active stage → stage.Settled := by
  have both := holds_of_run
    (fun config => config.calls call ≠ .idle ∧
      ∀ stage, config.calls call = .active stage → stage.Settled) ?_ ⟨begun, settled⟩ ran
  · exact both.2
  intro config action next held stepped
  cases action with
  | background input => cases input
  | call other input =>
      obtain ⟨shared, phase, moved, rfl⟩ := step_call_eq_some.mp stepped
      by_cases same : call = other
      · subst same
        simp only [Function.update_self]
        obtain ⟨_, -, idle, -⟩ | ⟨moment, stage, nextStage, -, active, rfl, proceeded⟩ |
          ⟨stage, -, -, -, -, rfl⟩ := staged_cases moved
        · exact absurd idle held.1
        · refine ⟨fun idle => (by cases idle), fun stage running => ?_⟩
          cases running
          exact Settled.step (held.2 stage active) (sessionStep_of_proceed proceeded)
        · exact ⟨fun idle => (by cases idle), fun stage running => by cases running⟩
      · simp only [Function.update_of_ne same]
        exact held

theorem errorsChangeNothing : ErrorsChangeNothing service config := by
  intro call moment next stepped changed more later e ran answered
  obtain ⟨shared, phase, moved, rfl⟩ := step_call_eq_some.mp stepped
  obtain ⟨_, impossible, -⟩ | ⟨_, stage, nextStage, -, -, rfl, proceeded⟩ |
    ⟨_, impossible, -⟩ := staged_cases moved
  · cases impossible
  · have settled : nextStage.Settled := settled_of_write (sessionStep_of_proceed proceeded) changed
    refine settled_of_run ?_ ?_ ran _ answered
    · simp
    · intro stage running
      simp only [Function.update_self] at running
      cases running
      exact settled
  · cases impossible

end Facts

section Result

variable {Chain : Type} {service : SessionService Chain} {last : SessionConfig Chain}
  {actions : List SessionAction}

/-- In any run of v1 requests, a session's state is the one its cursor says, its revision
counts its saves, each parameters' cursors are served in order, and errors change nothing. -/
theorem lifecycle (positive : ∀ action ∈ actions, Positive action)
    (ran : (sessionCalls service).run ((sessionCalls service).start .empty) actions = some last) :
    LifecycleHolds service last := by
  have met : (sessionCalls service).Meets
      (atCall fun call input _ _ => Positive (.call call input))
      ((sessionCalls service).start .empty) actions := by
    have always : (sessionCalls service).Meets (fun _ _ => True)
        ((sessionCalls service).start .empty) actions := meets_of_always fun _ _ => trivial
    refine (always.among positive).mono fun config action allowed => ?_
    cases action with
    | call => exact allowed.1
    | background => trivial
  have starts : Holds (fun manager => SessionFacts manager ∧ LifecycleFacts manager)
      (fun call manager phase => SessionCall.Backed call manager phase ∧
        ∀ stage, phase = .active stage → stage.Positive)
      ((sessionCalls service).start (.empty : SessionManager Chain)) :=
    ⟨⟨start_sessionFacts.shared, lifecycleFacts_empty⟩,
      fun call => ⟨start_sessionFacts.own call, fun _ running => by cases running⟩⟩
  obtain ⟨shared, facts⟩ := (lifecycle_free.holds_of_run starts met ran).shared
  refine ⟨fun held => ⟨shared.totalSteps held, facts.version held, facts.state held⟩, ?_,
    errorsChangeNothing⟩
  intro id tape member
  obtain ⟨cursor, played⟩ := facts.played id
  cases List.mem_cons.mp member with
  | inl last => rw [last, played.current, List.length_range]
  | inr earlier => exact played.closed tape earlier

/-- A session of two steps, replaced after its first one by one of one step. -/
def replacingMidway : List SessionAction :=
  sessionCall 0 (.create (seededParameters 1)) 1 ++ sessionCall 1 (.advance someId none) 5 ++
    sessionCall 2 (.replace someId { seededParameters 1 with steps := 1 }) 2 ++
    sessionCall 3 (.advance someId none) 6

theorem lifecycle_replacingMidway :
    ∃ last session, seededCalls.run noSessions replacingMidway = some last ∧
      last.shared.sessions.get? someId = some session ∧
      session.state = .completed ∧ session.version = 3 ∧
      last.shared.playback someId = ⟨[0], [[0]]⟩ ∧ LifecycleHolds seededService last := by
  have computed : (seededCalls.run noSessions replacingMidway).any (fun last =>
      (last.shared.sessions.get? someId).any (fun session =>
        session.state = .completed ∧ session.version = 3) &&
        decide (last.shared.playback someId = ⟨[0], [[0]]⟩)) = true := by
    decide +kernel
  obtain ⟨last, ran, computed⟩ := (Option.any_eq_true _ _).mp computed
  obtain ⟨held, served⟩ := Bool.and_eq_true_iff.mp computed
  obtain ⟨session, held, ended⟩ := (Option.any_eq_true _ _).mp held
  obtain ⟨completed, version⟩ := of_decide_eq_true ended
  refine ⟨last, session, ran, held, completed, version, of_decide_eq_true served,
    lifecycle ?_ ran⟩
  simp [replacingMidway, sessionCall, sessionSections, Positive, SessionRequest.Positive,
    seededParameters]

end Result

end OptionChainSimulator.Session
