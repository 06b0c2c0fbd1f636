import Mathlib.Tactic
import OptionChainSimulator.Session.Horizon
import OptionChainSimulator.Session.Manager

namespace OptionChainSimulator.Session

open Foundation Foundation.Protocol Utils Domain Api

/-! What holds in every run of v1 requests: a copy in flight that has the stored revision
is the stored session. -/

section Facts

variable {Chain : Type}

structure SessionFacts (manager : SessionManager Chain) : Prop where
  named : ∀ {id session}, manager.sessions.get? id = some session → session.id = id
  issued : ∀ {id session}, manager.sessions.get? id = some session → id ∈ manager.issued
  totalSteps : ∀ {id session}, manager.sessions.get? id = some session →
    session.totalSteps = session.parameters.steps
  sound : ∀ {id session}, manager.sessions.get? id = some session → session.state ≠ .error

/-- The copy is not newer than what is stored, and the same as it where not older. -/
structure Follows (same : Session → Session → Prop) (manager : SessionManager Chain)
    (copy : Session) : Prop where
  issued : copy.id ∈ manager.issued
  version : ∀ {stored}, manager.sessions.get? copy.id = some stored →
    copy.version ≤ stored.version
  current : ∀ {stored}, manager.sessions.get? copy.id = some stored →
    copy.version = stored.version → same copy stored

/-- A served copy differs from what it was read from in its resolved method at most. -/
def SameButMethod (copy stored : Session) : Prop :=
  copy = { stored with
    parameters := { stored.parameters with method := copy.parameters.method } }

/-- An accepted copy: not terminal, and with a step left where it is to advance. -/
structure Accepted (route : Route) (session : Session) : Prop where
  active : session.state ≠ .completed
  sound : session.state ≠ .error
  left : route = .advance → session.currentStep < session.totalSteps

def SessionStage.Backed (manager : SessionManager Chain) : SessionStage Chain → Prop
  | .probing route session | .building route session | .filing route session _
  | .hitting route session => Follows Eq manager session ∧ Accepted route session
  | .saving session _ => Follows SameButMethod manager session ∧ Accepted .advance session
  | .storing session expectedVersion _ =>
      session.totalSteps = session.parameters.steps ∧ session.state = .reinitialized ∧
        session.version = expectedVersion + 1 ∧ session.id ∈ manager.issued
  | _ => True

/-- What the sections of one call leave to the others: a stored session goes, stays or
gets a new revision, an id is given out once, and the history grows. -/
structure SessionManager.Evolves (before : SessionManager Chain) (call : Nat)
    (after : SessionManager Chain) : Prop where
  events : ∃ new, after.events = before.events ++ new ∧ ∀ event ∈ new, event.call = call
  issued : ∀ id ∈ before.issued, id ∈ after.issued
  sessions : ∀ id ∈ before.issued, after.sessions.get? id = none ∨
    after.sessions.get? id = before.sessions.get? id ∨
      ∃ old new, before.sessions.get? id = some old ∧ after.sessions.get? id = some new ∧
        old.version < new.version

variable {service : SessionService Chain} {before after manager : SessionManager Chain}
  {same : Session → Session → Prop} {session copy moved : Session} {call : Nat}
  {moment : SessionMoment} {stage next : SessionStage Chain} {route : Route} {id : Uuid}

theorem SessionManager.Evolves.of_same (sessions : after.sessions = before.sessions)
    (issued : after.issued = before.issued) (events : after.events = before.events) :
    before.Evolves call after :=
  ⟨⟨[], by rw [events, List.append_nil], fun _ member => absurd member List.not_mem_nil⟩,
    fun _ given => by rwa [issued], fun _ _ => .inr (.inl (by rw [sessions]))⟩

theorem Follows.evolve (follows : Follows same before copy) (evolves : before.Evolves call after) :
    Follows same after copy := by
  have stays := evolves.sessions copy.id follows.issued
  refine ⟨evolves.issued _ follows.issued, fun {stored} held => ?_, fun {stored} held current => ?_⟩
  · obtain gone | kept | ⟨old, new, was, is_, newer⟩ := stays
    · rw [gone] at held
      cases held
    · exact follows.version (kept ▸ held)
    · rw [is_] at held
      cases held
      exact (follows.version was).trans newer.le
  · obtain gone | kept | ⟨old, new, was, is_, newer⟩ := stays
    · rw [gone] at held
      cases held
    · exact follows.current (kept ▸ held) current
    · rw [is_] at held
      cases held
      have older := follows.version was
      omega

theorem SessionStage.Backed.evolve (backed : stage.Backed before)
    (evolves : before.Evolves call after) : stage.Backed after := by
  cases stage with
  | probing | building | filing | hitting | saving => exact ⟨backed.1.evolve evolves, backed.2⟩
  | storing =>
      obtain ⟨total, state, version, issued⟩ := backed
      exact ⟨total, state, version, evolves.issued _ issued⟩
  | creating | checking | reading | merging | replacing | deleting | cleaning | removing | done =>
      trivial

theorem Route.accept_eq_ok : route.accept session = .ok () ↔ Accepted route session := by
  unfold Route.accept
  constructor
  · intro accepted
    split_ifs at accepted with terminal failed
    obtain ⟨active, left⟩ := not_or.mp terminal
    exact ⟨active, failed, fun advancing => not_le.mp fun over_ => left ⟨advancing, over_⟩⟩
  · intro accepted
    rw [if_neg, if_neg accepted.sound]
    intro terminal
    cases terminal with
    | inl completed => exact accepted.active completed
    | inr exhausted => exact absurd exhausted.2 (not_le.mpr (accepted.left exhausted.1))

theorem read_eq_ok : manager.read route id = .ok session ↔
    manager.sessions.get? id = some session ∧ Accepted route session := by
  simp only [SessionManager.read, InMemorySessionStore.get, bind_eq_ok, okOr_eq_ok, pure,
    Except.pure]
  constructor
  · intro succeeded
    obtain ⟨document, held, _, accepted, equal⟩ := succeeded
    cases equal
    exact ⟨held, Route.accept_eq_ok.mp accepted⟩
  · intro succeeded
    exact ⟨session, succeeded.1, (), Route.accept_eq_ok.mpr succeeded.2, rfl⟩

theorem readToReplace_eq_ok {parameters : SimulationParameters} {now : SystemTime}
    {expectedVersion : Nat} :
    manager.readToReplace id parameters now = .ok (session, expectedVersion) ↔
      ∃ stored, manager.sessions.get? id = some stored ∧
        stored.replaced parameters now = .ok session ∧ stored.version = expectedVersion := by
  simp only [SessionManager.readToReplace, InMemorySessionStore.get, bind_eq_ok, okOr_eq_ok,
    pure, Except.pure, Except.ok.injEq, Prod.mk.injEq]
  constructor
  · intro succeeded
    obtain ⟨stored, held, updated, replaced, rfl, version⟩ := succeeded
    exact ⟨stored, held, replaced, version⟩
  · intro succeeded
    obtain ⟨stored, held, replaced, version⟩ := succeeded
    exact ⟨stored, held, session, replaced, rfl, version⟩

theorem merge_eq_ok {request : UpdateSessionRequest} {random : Nat}
    {base parameters : SimulationParameters} :
    manager.merge service id request random = .ok (base, parameters) ↔
      (∃ stored, manager.sessions.get? id = some stored ∧ stored.parameters = base) ∧
        applyUpdate service.numerics service.limits base request random = .ok parameters := by
  simp only [SessionManager.merge, InMemorySessionStore.get, bind_eq_ok, okOr_eq_ok, pure,
    Except.pure, Except.ok.injEq, Prod.mk.injEq]
  constructor
  · intro succeeded
    obtain ⟨stored, held, merged, applied, rfl, rfl⟩ := succeeded
    exact ⟨⟨stored, held, rfl⟩, applied⟩
  · intro succeeded
    obtain ⟨⟨stored, held, rfl⟩, applied⟩ := succeeded
    exact ⟨stored, held, parameters, applied, rfl, rfl⟩

theorem commit_eq_ok_cases {now : SystemTime} {chain : Chain}
    (saved : manager.commit call now session chain = .ok (after, moved)) :
    session.advanced now = .ok moved ∧
      ∃ stored, manager.sessions.get? session.id = some stored ∧
        stored.version = session.version ∧ moved.id = session.id ∧
        after = { manager with
          sessions := manager.sessions.insert session.id moved
          events := manager.events ++ [.advanced call stored chain] } := by
  simp only [SessionManager.commit, bind_eq_ok, pure, Except.pure, Except.ok.injEq,
    Prod.mk.injEq] at saved
  obtain ⟨_, advancing, sessions, stored, rfl, rfl⟩ := saved
  obtain ⟨-, state, -, rfl⟩ := Session.advanced_eq_ok advancing
  obtain ⟨⟨existing, held, version⟩, rfl⟩ := InMemorySessionStore.saveCas_eq_ok stored
  refine ⟨advancing, existing, held, version, rfl, ?_⟩
  simp only [SessionManager.stored]
  rw [held]
  rfl

theorem change_eq_ok_cases {expectedVersion : Nat} {change : Change}
    (saved : manager.change call session expectedVersion change = .ok after) :
    ∃ stored, manager.sessions.get? session.id = some stored ∧
      stored.version = expectedVersion ∧
      after = { manager with
        sessions := manager.sessions.insert session.id session
        events := manager.events ++ [.replaced call stored session change] } := by
  simp only [SessionManager.change, bind_eq_ok, pure, Except.pure, Except.ok.injEq] at saved
  obtain ⟨sessions, stored, rfl⟩ := saved
  obtain ⟨⟨existing, held, version⟩, rfl⟩ := InMemorySessionStore.saveCas_eq_ok stored
  refine ⟨existing, held, version, ?_⟩
  simp only [SessionManager.stored]
  rw [held]
  rfl

theorem version_ne_of_change {stored : Session} {expectedVersion : Nat} {change : Change}
    {e : ChainError} (failed : manager.change call session expectedVersion change = .error e)
    (held : manager.sessions.get? session.id = some stored) :
    stored.version ≠ expectedVersion := by
  intro same
  rw [SessionManager.change, InMemorySessionStore.saveCas, held] at failed
  simp only [same, ne_eq, not_true, if_false] at failed
  cases failed

theorem SessionFacts.insert {stored : Session} {event : SessionEvent Chain}
    (facts : SessionFacts before) (held : before.sessions.get? id = some stored)
    (named : moved.id = id) (newer : stored.version < moved.version)
    (total : moved.totalSteps = moved.parameters.steps) (sound : moved.state ≠ .error)
    (own : event.call = call) :
    SessionFacts { before with
        sessions := before.sessions.insert id moved
        events := before.events ++ [event] } ∧
      before.Evolves call { before with
        sessions := before.sessions.insert id moved
        events := before.events ++ [event] } := by
  refine ⟨⟨fun given => ?_, fun given => ?_, fun given => ?_, fun given => ?_⟩,
    ⟨⟨[event], rfl, fun _ new => List.mem_singleton.mp new ▸ own⟩, fun _ given => given,
      fun other _ => .inr ?_⟩⟩
  · obtain ⟨rfl, rfl⟩ | ⟨-, earlier⟩ := OrderedMap.get?_insert_cases given
    · exact named
    · exact facts.named earlier
  · obtain ⟨rfl, rfl⟩ | ⟨-, earlier⟩ := OrderedMap.get?_insert_cases given
    · exact facts.issued held
    · exact facts.issued earlier
  · obtain ⟨rfl, rfl⟩ | ⟨-, earlier⟩ := OrderedMap.get?_insert_cases given
    · exact total
    · exact facts.totalSteps earlier
  · obtain ⟨rfl, rfl⟩ | ⟨-, earlier⟩ := OrderedMap.get?_insert_cases given
    · exact sound
    · exact facts.sound earlier
  · simp only [OrderedMap.get?_insert]
    by_cases same : other = id
    · subst same
      exact .inr ⟨stored, moved, held, Function.update_self .., newer⟩
    · exact .inl (Function.update_of_ne same ..)

theorem SessionFacts.shrink {sessions : Sessions} (facts : SessionFacts before)
    (earlier : ∀ {id session}, sessions.get? id = some session →
      before.sessions.get? id = some session) :
    SessionFacts { before with sessions } ∧ before.Evolves call { before with sessions } := by
  refine ⟨⟨fun held => facts.named (earlier held), fun held => facts.issued (earlier held),
    fun held => facts.totalSteps (earlier held), fun held => facts.sound (earlier held)⟩,
    ⟨⟨[], (List.append_nil _).symm, fun _ member => absurd member List.not_mem_nil⟩,
      fun _ given => given, fun id _ => ?_⟩⟩
  cases held : sessions.get? id with
  | none => exact .inl rfl
  | some session => exact .inr (.inl (earlier held).symm)

theorem SessionFacts.create {parameters : SimulationParameters} {now : SystemTime}
    {sessions : Sessions} (facts : SessionFacts before) (fresh : id ∉ before.issued)
    (created : InMemorySessionStore.create before.sessions (.withRandomId parameters id now) =
      .ok sessions) :
    SessionFacts { before with sessions, issued := before.issued ++ [id] } ∧
      before.Evolves call { before with sessions, issued := before.issued ++ [id] } := by
  obtain ⟨-, rfl⟩ := InMemorySessionStore.create_eq_ok created
  refine ⟨⟨fun given => ?_, fun given => ?_, fun given => ?_, fun given => ?_⟩,
    ⟨⟨[], (List.append_nil _).symm, fun _ member => absurd member List.not_mem_nil⟩,
      fun _ given => List.mem_append_left _ given, fun other given => .inr (.inl ?_)⟩⟩
  · obtain ⟨rfl, rfl⟩ | ⟨-, earlier⟩ := OrderedMap.get?_insert_cases given
    · rfl
    · exact facts.named earlier
  · obtain ⟨rfl, rfl⟩ | ⟨-, earlier⟩ := OrderedMap.get?_insert_cases given
    · simp
    · exact List.mem_append_left _ (facts.issued earlier)
  · obtain ⟨rfl, rfl⟩ | ⟨-, earlier⟩ := OrderedMap.get?_insert_cases given
    · rfl
    · exact facts.totalSteps earlier
  · obtain ⟨rfl, rfl⟩ | ⟨-, earlier⟩ := OrderedMap.get?_insert_cases given
    · simp [Session.withRandomId]
    · exact facts.sound earlier
  · have other_ne : other ≠ id := by
      intro same
      exact fresh (same ▸ given)
    simp only [Session.withRandomId, OrderedMap.get?_insert, Function.update_of_ne other_ne]

theorem SessionFacts.walks {walks : WalkCache Chain} (facts : SessionFacts before) :
    SessionFacts { before with walks } ∧ before.Evolves call { before with walks } :=
  ⟨⟨facts.named, facts.issued, facts.totalSteps, facts.sound⟩, .of_same rfl rfl rfl⟩

theorem follows_of_held (facts : SessionFacts manager)
    (held : manager.sessions.get? session.id = some session) : Follows Eq manager session where
  issued := facts.issued held
  version again := by
    rw [held] at again
    cases again
    rfl
  current again _ := by
    rw [held] at again
    exact Option.some.inj again

theorem serveStep_eq_ok {built : BuiltWalk Chain} {chain : Chain}
    (served : serveStep built session = .ok (copy, chain)) :
    copy = { session with
        parameters := { session.parameters with
          method := built.resolvedMethod.getD session.parameters.method } } ∧
      built.walk[session.currentStep]? = some chain := by
  simp only [serveStep] at served
  split at served
  next found =>
    cases served
    exact ⟨rfl, found⟩
  next => cases served

theorem backed_answered {built : BuiltWalk Chain} (follows : Follows Eq manager session)
    (accepted : Accepted route session) :
    (route.answered (serveStep built session)).Backed manager := by
  cases served : serveStep built session with
  | error e => trivial
  | ok step =>
      obtain ⟨copy, chain⟩ := step
      obtain ⟨rfl, -⟩ := serveStep_eq_ok served
      cases route with
      | peek => trivial
      | advance =>
          refine ⟨⟨follows.issued, follows.version, fun held current => ?_⟩,
            accepted.active, accepted.sound, accepted.left⟩
          cases follows.current held current
          rfl

theorem backed_advancedStage {chain : Chain} : (advancedStage moved chain).Backed manager := by
  unfold advancedStage
  split_ifs <;> trivial

/-- One section of a call leaves every stored session sound and every copy behind it. -/
theorem backed_of_sessionStep (facts : SessionFacts before) (backed : stage.Backed before)
    (stepped : SessionStep service call moment before stage after next) :
    SessionFacts after ∧ before.Evolves call after ∧ next.Backed after := by
  have same : before.Evolves call before := .of_same rfl rfl rfl
  cases stepped with
  | create fresh created =>
      obtain ⟨factsAfter, evolves⟩ := facts.create fresh created
      exact ⟨factsAfter, evolves, trivial⟩
  | refuseCreate | check | mismatch | missCheck | refuseRead | refuseBuild | lose | merge |
      refuseMerge | refuseReplace | refuseChange => exact ⟨facts, same, trivial⟩
  | read found =>
      obtain ⟨held, accepted⟩ := read_eq_ok.mp found
      cases facts.named held
      exact ⟨facts, same, follows_of_held facts held, accepted⟩
  | renew stale =>
      obtain ⟨factsAfter, evolves⟩ := facts.walks
      exact ⟨factsAfter, evolves, backed.1.evolve evolves, backed.2⟩
  | begin | reuse | build => exact ⟨facts, same, backed⟩
  | file filed =>
      obtain ⟨factsAfter, evolves⟩ := facts.walks
      exact ⟨factsAfter, evolves, backed_answered (backed.1.evolve evolves) backed.2⟩
  | hit found =>
      obtain ⟨factsAfter, evolves⟩ := facts.walks
      exact ⟨factsAfter, evolves, backed_answered (backed.1.evolve evolves) backed.2⟩
  | missHit => exact ⟨facts, same, trivial⟩
  | commit saved =>
      obtain ⟨advancing, stored, held, version, named, rfl⟩ := commit_eq_ok_cases saved
      have copied : SameButMethod _ stored := backed.1.current held version.symm
      obtain ⟨-, state, states, rfl⟩ := Session.advanced_eq_ok advancing
      have total := facts.totalSteps held
      obtain ⟨factsAfter, evolves⟩ := facts.insert held named
        (by rw [version]; exact Nat.lt_succ_self _) (by rw [copied]; exact total)
        (by cases states <;> simp [*]) rfl
      exact ⟨factsAfter, evolves, backed_advancedStage⟩
  | replace found =>
      obtain ⟨stored, held, replaced, version⟩ := readToReplace_eq_ok.mp found
      obtain ⟨-, rfl⟩ := Session.replaced_eq_ok.mp replaced
      cases facts.named held
      exact ⟨facts, same, rfl, rfl, congrArg (· + 1) version, facts.issued held⟩
  | change saved =>
      obtain ⟨stored, held, version, rfl⟩ := change_eq_ok_cases saved
      obtain ⟨total, state, bumped, -⟩ := backed
      obtain ⟨factsAfter, evolves⟩ := facts.insert held rfl (by omega) total (by simp [state]) rfl
      exact ⟨factsAfter, evolves, trivial⟩
  | delete =>
      obtain ⟨factsAfter, evolves⟩ := facts.shrink InMemorySessionStore.held_of_delete
      exact ⟨factsAfter, evolves, trivial⟩
  | cleanup =>
      obtain ⟨factsAfter, evolves⟩ := facts.shrink InMemorySessionStore.held_of_cleanup
      exact ⟨factsAfter, evolves, trivial⟩
  | remove =>
      obtain ⟨factsAfter, evolves⟩ := facts.walks
      exact ⟨factsAfter, evolves, trivial⟩

/-- A save is on record before the answer that tells of it. -/
def SessionAnswer.Recorded (events : List (SessionEvent Chain)) (call : Nat) :
    SessionAnswer Chain → Prop
  | .advanced _ chain => ∃ stored, .advanced call stored chain ∈ events
  | .replaced session => ∃ stored change, .replaced call stored session change ∈ events
  | _ => True

def SessionStage.Recorded (events : List (SessionEvent Chain)) (call : Nat) :
    SessionStage Chain → Prop
  | .removing _ answer | .done (.ok answer) => answer.Recorded events call
  | _ => True

theorem SessionStage.Recorded.grow (recorded : stage.Recorded before.events call)
    (grows : before.events ⊆ after.events) : stage.Recorded after.events call := by
  have answered : ∀ {answer : SessionAnswer Chain}, answer.Recorded before.events call →
      answer.Recorded after.events call := by
    intro answer recorded
    cases answer with
    | advanced session chain =>
        obtain ⟨stored, recorded⟩ := recorded
        exact ⟨stored, grows recorded⟩
    | replaced session =>
        obtain ⟨stored, change, recorded⟩ := recorded
        exact ⟨stored, change, grows recorded⟩
    | created | peeked | preconditionFailed | deleted | cleaned => trivial
  cases stage with
  | removing id answer => exact answered recorded
  | done response =>
      cases response with
      | ok answer => exact answered recorded
      | error e => trivial
  | creating | checking | reading | probing | building | filing | hitting | saving | merging |
      replacing | storing | deleting | cleaning => trivial

theorem recorded_answered {events : List (SessionEvent Chain)}
    {served : Except ChainError (Session × Chain)} :
    (route.answered served).Recorded events call := by
  cases served with
  | error e => trivial
  | ok step => cases route <;> trivial

theorem recorded_of_sessionStep (recorded : stage.Recorded before.events call)
    (stepped : SessionStep service call moment before stage after next) :
    next.Recorded after.events call := by
  cases stepped with
  | commit saved =>
      obtain ⟨-, _, -, -, -, rfl⟩ := commit_eq_ok_cases saved
      unfold advancedStage
      split_ifs <;> exact ⟨_, List.mem_append_right _ (List.mem_singleton_self _)⟩
  | change saved =>
      obtain ⟨_, -, -, rfl⟩ := change_eq_ok_cases saved
      exact ⟨_, _, List.mem_append_right _ (List.mem_singleton_self _)⟩
  | file | hit | missHit => exact recorded_answered
  | remove => exact recorded
  | create | refuseCreate | check | mismatch | missCheck | read | refuseRead | renew | begin |
      reuse | build | refuseBuild | lose | merge | refuseMerge | replace |
      refuseReplace | refuseChange | delete | cleanup => trivial

/-- What one call may rely on, whatever the others do. -/
structure SessionCall.Backed (call : Nat) (manager : SessionManager Chain)
    (phase : SessionCall Chain) : Prop where
  active : ∀ {stage}, phase = .active stage →
    stage.Backed manager ∧ stage.Recorded manager.events call
  idle : phase = .idle → ∀ event ∈ manager.events, event.call ≠ call

theorem SessionCall.Backed.evolve {other : Nat} {phase : SessionCall Chain}
    (backed : SessionCall.Backed other before phase) (evolves : before.Evolves call after)
    (different : other ≠ call) : SessionCall.Backed other after phase := by
  obtain ⟨new, history, own⟩ := evolves.events
  refine ⟨fun running => ?_, fun idle event member => ?_⟩
  · obtain ⟨stage, recorded⟩ := backed.active running
    refine ⟨stage.evolve evolves, recorded.grow ?_⟩
    rw [history]
    exact List.subset_append_left ..
  · rw [history] at member
    cases List.mem_append.mp member with
    | inl earlier => exact backed.idle idle event earlier
    | inr new =>
        rw [own event new]
        exact different.symm

theorem backed_of_sessionMove {input : SessionInput} {phase nextPhase : SessionCall Chain}
    (facts : SessionFacts before) (backed : SessionCall.Backed call before phase)
    (moved : (sessionCalls service).move call input before phase = some (after, nextPhase)) :
    SessionFacts after ∧ before.Evolves call after ∧ SessionCall.Backed call after nextPhase := by
  obtain ⟨request, -, rfl, rfl, rfl⟩ | ⟨moment, stage, next, -, rfl, rfl, stepped⟩ |
    ⟨stage, -, rfl, -, rfl, rfl⟩ := staged_cases moved
  · refine ⟨facts, .of_same rfl rfl rfl, fun running => ?_, fun idle => by cases idle⟩
    cases running
    cases request with
    | advance id expectedStep => cases expectedStep <;> exact ⟨trivial, trivial⟩
    | create | peek | update | replace | delete | cleanup => exact ⟨trivial, trivial⟩
  · have stepped := sessionStep_of_proceed stepped
    obtain ⟨own, recorded⟩ := backed.active rfl
    obtain ⟨factsAfter, evolves, nextBacked⟩ := backed_of_sessionStep facts own stepped
    refine ⟨factsAfter, evolves, fun running => ?_, fun idle => by cases idle⟩
    cases running
    exact ⟨nextBacked, recorded_of_sessionStep recorded stepped⟩
  · exact ⟨facts, .of_same rfl rfl rfl, fun running => (by cases running),
      fun idle => by cases idle⟩

theorem sessions_free : (sessionCalls service).FreeOfInterference (fun _ _ _ _ => True)
    SessionFacts SessionCall.Backed where
  move facts backed _ moved := by
    obtain ⟨factsAfter, -, nextBacked⟩ := backed_of_sessionMove facts backed moved
    exact ⟨factsAfter, nextBacked⟩
  others facts backed _ moved other different phase held := by
    obtain ⟨-, evolves, -⟩ := backed_of_sessionMove facts backed moved
    exact held.evolve evolves different
  tick _ ticked := by cases ticked

theorem start_sessionFacts : Holds SessionFacts SessionCall.Backed
    ((sessionCalls service).start (.empty : SessionManager Chain)) where
  shared := by
    refine ⟨fun held => ?_, fun held => ?_, fun held => ?_, fun held => ?_⟩ <;> cases held
  own _ := ⟨fun running => (by cases running), fun _ _ member => (by cases member)⟩

theorem sessionFacts_of_run {actions : List SessionAction} {last : SessionConfig Chain}
    (ran : (sessionCalls service).run ((sessionCalls service).start .empty) actions = some last) :
    Holds SessionFacts SessionCall.Backed last :=
  sessions_free.holds_of_any_run start_sessionFacts ran

end Facts

/-! Walks whose chains tell the seed they were drawn from, and sessions with seeds. -/

def seedOf : Walker → Nat
  | .newWithSeed seed => seed
  | .new => 0

def seededSource : WalkSource Nat where
  buildChain _ := .ok 0
  randomWalk _ params walker := .ok (List.replicate params.size (seedOf walker))
  Generator := Nat
  generator seed := seed.getD 0
  randomRange generator count := (generator % count, generator)
  connected := false
  availableSymbols := .ok []
  historicalPrices _ _ _ _ := .ok []

def seededService : SessionService Nat where
  source := seededSource
  numerics := utcService.numerics
  limits := utcService.limits
  maxCachedWalks := 2
  walksPositive := one_le_two

def seededParameters (seed : Nat) : SimulationParameters where
  symbol := "SPX"
  steps := 2
  initialPrice := .one
  daysToExpiration := .one
  volatility := .one
  riskFreeRate := 0
  dividendYield := .zero
  method := .brownian .one 0 .one
  timeFrame := .day
  chainSize := none
  strikeInterval := none
  skewSlope := none
  smileCurve := none
  spread := none
  seed := some seed

abbrev seededCalls := sessionCalls seededService

abbrev noSessions := seededCalls.start (.empty : SessionManager Nat)

/-- Consecutive sections of one call, at a moment whose next random id is `someId`. -/
def sessionSections (call count : Nat) : List SessionAction :=
  List.replicate count (.call call (.proceed ⟨⟨0, 0, someId⟩, 0⟩))

/-- A request and its first sections. -/
def sessionCall (call : Nat) (request : SessionRequest) (count : Nat) : List SessionAction :=
  .call call (.request request) :: sessionSections call count

end OptionChainSimulator.Session
