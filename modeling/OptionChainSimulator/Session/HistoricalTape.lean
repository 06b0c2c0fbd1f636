import Mathlib.Tactic
import OptionChainSimulator.Domain.HistoricalSource
import OptionChainSimulator.Session.SessionFacts

namespace OptionChainSimulator.Session

open Foundation Foundation.Protocol Utils Domain Api

/-! The tape of a v1 session whose parameters are never replaced: what happens to its cached
walk, and to the request that builds it, does not show. -/

/-- A walk is removed, by eviction or `remove_session`, or the process restarts. -/
inductive WalkLoss where
  | removed (id : Uuid)
  | restarted

section Calls

variable {Chain : Type}

def loseWalks : WalkLoss → SessionManager Chain → Option (SessionManager Chain)
  | .removed id, manager => some { manager with walks := manager.walks.remove id }
  | .restarted, manager => some { manager with walks := .empty }

/-- The v1 calls, with walks lost at any time beside them; a call that a restart ends is one
that is dropped. -/
def restartableCalls (service : SessionService Chain) :
    Protocol (SessionManager Chain) (SessionCall Chain) SessionInput WalkLoss :=
  staged SessionRequest.stage SessionStage.awaits (SessionManager.proceed service) loseWalks

end Calls

abbrev RestartableAction := Action SessionInput WalkLoss

section Statement

variable {Chain : Type}

/-- The request replaces the parameters of this session. -/
def SessionRequest.Replaces (id : Uuid) : SessionRequest → Prop
  | .update other _ | .replace other _ => other = id
  | _ => False

def Keeps (id : Uuid) : RestartableAction → Prop
  | .call _ (.request request) => ¬ request.Replaces id
  | _ => True

/-- This is the session a call has created. -/
def Created (config : SessionConfig Chain) (session : Session) : Prop :=
  ∃ call, config.calls call = .active (.done (.ok (.created session)))

/-- A peek or an advance has served this chain of the session at this cursor. -/
def ServedAt (config : SessionConfig Chain) (id : Uuid) (cursor : Nat) (chain : Chain) : Prop :=
  ∃ call session, session.id = id ∧
    (config.calls call = .active (.done (.ok (.peeked session chain))) ∧
        session.currentStep = cursor ∨
      config.calls call = .active (.done (.ok (.advanced session chain))) ∧
        session.currentStep = cursor + 1)

/-- The walk a build from these parameters walks. -/
def WalkOf (source : WalkSource Chain) (id : Uuid) (parameters : SimulationParameters)
    (walk : List Chain) : Prop :=
  ∃ built, createRandomWalk source id parameters = .ok built ∧ built.walk = walk

/-- What a build from these parameters resolves their method to. -/
def Resolution (source : WalkSource Chain) (id : Uuid) (parameters : SimulationParameters)
    (resolved : SimulationMethod) : Prop :=
  ∃ built, createRandomWalk source id parameters = .ok built ∧
    built.resolvedMethod = some resolved

/-- The parameters themselves, or with their resolved method. -/
def OriginalOrResolved (source : WalkSource Chain) (id : Uuid)
    (parameters current : SimulationParameters) : Prop :=
  current = parameters ∨ ∃ resolved, Resolution source id parameters resolved ∧
    current = { parameters with method := resolved }

end Statement

section Tape

variable {Chain : Type} {source : WalkSource Chain} {id : Uuid}
  {parameters current : SimulationParameters} {built again : BuiltWalk Chain}
  {resolved : SimulationMethod}

theorem symbol_of_getHistoricalData {symbol : Option String} {timeframe : TimeFrame} {steps : Nat}
    {generator : source.Generator} {loaded : String × List Positive}
    (succeeded : getHistoricalData source symbol timeframe steps generator = .ok loaded)
    {given : String} (named : symbol = some given) : loaded.1 = given := by
  subst named
  unfold getHistoricalData at succeeded
  split_ifs at succeeded with connected
  obtain ⟨⟨actualSymbol, generator⟩, selected, succeeded⟩ := bind_eq_ok.mp succeeded
  cases selected
  obtain ⟨prices, -, succeeded⟩ := bind_eq_ok.mp succeeded
  split_ifs at succeeded with short
  cases succeeded
  rfl

theorem resolution_historical {timeframe : TimeFrame} {prices : List Positive}
    {symbol : Option String} (historical : parameters.method = .historical timeframe prices symbol)
    (resolution : Resolution source id parameters resolved) :
    ∃ chosen series, resolved = .historical timeframe series (some chosen) ∧
      series.length = parameters.steps ∧ ∀ given, symbol = some given → chosen = given := by
  obtain ⟨built, succeeded, method⟩ := resolution
  obtain ⟨walked, chosen, -⟩ := createRandomWalk_eq_ok.mp succeeded
  rw [method] at chosen
  obtain ⟨-, _, _, _, loaded, held, succeeded, shape⟩ := resolveMethod_eq_some chosen
  rw [historical] at held
  cases held
  exact ⟨loaded.1, loaded.2, shape, getHistoricalData_length succeeded,
    fun given named => symbol_of_getHistoricalData succeeded named⟩

/-- What a resolved method is built with, if it is built: itself. -/
theorem resolveMethod_again {method again : SimulationMethod}
    {resolution : Option SimulationMethod}
    (chosen : resolveMethod source parameters = .ok (method, some resolved))
    (rebuilt : resolveMethod source { parameters with method := resolved } =
      .ok (again, resolution)) :
    again = resolved ∧ (resolution = none ∨ resolution = some resolved) := by
  obtain ⟨-, timeframe, _, _, ⟨symbol, series⟩, -, succeeded, rfl⟩ := resolveMethod_eq_some chosen
  have long : series.length = parameters.steps := getHistoricalData_length succeeded
  simp only [resolveMethod] at rebuilt
  split_ifs at rebuilt with short
  · -- no prices were asked for, and none are loaded again
    have empty : series = [] := by
      cases short with
      | inl empty => exact List.isEmpty_iff.mp empty
      | inr short => omega
    obtain ⟨⟨resolvedSymbol, loadedPrices⟩, loaded, kept⟩ := bind_eq_ok.mp rebuilt
    have same : resolvedSymbol = symbol := symbol_of_getHistoricalData loaded rfl
    have none : loadedPrices = [] := by
      apply List.eq_nil_of_length_eq_zero
      rw [← List.length_eq_zero_iff, long] at empty
      rw [← empty]
      exact getHistoricalData_length loaded
    cases kept
    rw [same, none, empty]
    exact ⟨rfl, .inr rfl⟩
  · cases rebuilt
    exact ⟨rfl, .inl rfl⟩

/-- A build from the resolved method walks the same walk. -/
theorem createRandomWalk_again (succeeded : createRandomWalk source id parameters = .ok built)
    (resolution : built.resolvedMethod = some resolved)
    (rebuilt : createRandomWalk source id { parameters with method := resolved } = .ok again) :
    again.walk = built.walk ∧
      (again.resolvedMethod = none ∨ again.resolvedMethod = some resolved) := by
  obtain ⟨method, chosen, walked⟩ := createRandomWalk_eq_ok.mp succeeded
  obtain ⟨method', chosen', walked'⟩ := createRandomWalk_eq_ok.mp rebuilt
  rw [resolution] at chosen
  obtain ⟨rfl, -⟩ := resolveMethod_eq_some chosen
  obtain ⟨rfl, resolvedAgain⟩ := resolveMethod_again chosen chosen'
  have same : Except.ok built.walk = Except.ok again.walk := walked.symm.trans walked'
  exact ⟨(Except.ok.inj same).symm, resolvedAgain⟩

end Tape

section Invariant

variable {Chain : Type} (source : WalkSource Chain) (id : Uuid)
  (born : Option SimulationParameters)

/-! `born` is what the session of the id was created with, once it is. -/

def Descends (session : Session) : Prop :=
  session.id = id → ∃ parameters, born = some parameters ∧
    OriginalOrResolved source id parameters session.parameters

def CutFrom (key : Uuid) (walk : BuiltWalk Chain) : Prop :=
  key = id → ∃ parameters built, born = some parameters ∧
    createRandomWalk source id parameters = .ok built ∧ walk.walk = built.walk ∧
      (walk.resolvedMethod = none ∨ walk.resolvedMethod = built.resolvedMethod)

def ServedFrom (key : Uuid) (cursor : Nat) (chain : Chain) : Prop :=
  key = id → ∃ parameters walk, born = some parameters ∧
    WalkOf source id parameters walk ∧ walk[cursor]? = some chain

def SessionAnswer.OnTape : SessionAnswer Chain → Prop
  | .created session => session.id = id → born = some session.parameters
  | .peeked session chain => ServedFrom source id born session.id session.currentStep chain
  | .advanced session chain =>
      ∃ cursor, session.currentStep = cursor + 1 ∧
        ServedFrom source id born session.id cursor chain
  | _ => True

def SessionStage.OnTape : SessionStage Chain → Prop
  | .probing _ session | .building _ session | .hitting _ session =>
      Descends source id born session
  | .filing _ session built =>
      Descends source id born session ∧ CutFrom source id born session.id built
  | .saving session chain =>
      Descends source id born session ∧
        ServedFrom source id born session.id session.currentStep chain
  | .merging other _ | .replacing other _ _ => other ≠ id
  | .storing session _ _ => session.id ≠ id
  | .removing _ answer | .done (.ok answer) => answer.OnTape source id born
  | _ => True

structure OneTape (manager : SessionManager Chain) : Prop where
  named : ∀ {key session}, manager.sessions.get? key = some session → session.id = key
  stored : ∀ {key session}, manager.sessions.get? key = some session →
    Descends source id born session
  walks : manager.walks.All (CutFrom source id born)
  issued : born.isSome → id ∈ manager.issued

end Invariant

section Preservation

variable {Chain : Type} {service : SessionService Chain} {source : WalkSource Chain} {id : Uuid}
  {born later : Option SimulationParameters} {session moved : Session} {chain : Chain}
  {walk built : BuiltWalk Chain} {before after : SessionManager Chain} {call : Nat}
  {moment : SessionMoment} {stage next : SessionStage Chain} {route : Route}

section Born

variable (once : ∀ parameters, born = some parameters → later = some parameters)

include once

theorem Descends.mono (descends : Descends source id born session) :
    Descends source id later session := by
  intro same
  obtain ⟨parameters, given, current⟩ := descends same
  exact ⟨parameters, once parameters given, current⟩

theorem CutFrom.mono {key : Uuid} (cut : CutFrom source id born key walk) :
    CutFrom source id later key walk := by
  intro same
  obtain ⟨parameters, built, given, succeeded⟩ := cut same
  exact ⟨parameters, built, once parameters given, succeeded⟩

theorem ServedFrom.mono {key : Uuid} {cursor : Nat}
    (served : ServedFrom source id born key cursor chain) :
    ServedFrom source id later key cursor chain := by
  intro same
  obtain ⟨parameters, walk, given, found⟩ := served same
  exact ⟨parameters, walk, once parameters given, found⟩

theorem SessionAnswer.OnTape.mono {answer : SessionAnswer Chain}
    (on : answer.OnTape source id born) : answer.OnTape source id later := by
  cases answer with
  | created session => exact fun same => once _ (on same)
  | peeked session chain => exact ServedFrom.mono once on
  | advanced session chain =>
      obtain ⟨cursor, step, served⟩ := on
      exact ⟨cursor, step, served.mono once⟩
  | preconditionFailed | replaced | deleted | cleaned => trivial

theorem SessionStage.OnTape.mono (on : stage.OnTape source id born) :
    stage.OnTape source id later := by
  cases stage with
  | probing | building | hitting => exact Descends.mono once on
  | filing => exact ⟨Descends.mono once on.1, CutFrom.mono once on.2⟩
  | saving => exact ⟨Descends.mono once on.1, ServedFrom.mono once on.2⟩
  | merging | replacing | storing => exact on
  | removing => exact SessionAnswer.OnTape.mono once on
  | done response =>
      cases response with
      | ok answer => exact SessionAnswer.OnTape.mono once on
      | error e => trivial
  | creating | checking | reading | deleting | cleaning => trivial

end Born

theorem Descends.build (descends : Descends source id born session)
    (succeeded : createRandomWalk source session.id session.parameters = .ok built) :
    CutFrom source id born session.id built := by
  intro same
  obtain ⟨parameters, given, original | ⟨resolved, ⟨first, firstBuilt, method⟩, current⟩⟩ :=
    descends same
  · rw [same, original] at succeeded
    exact ⟨parameters, built, given, succeeded, rfl, .inr rfl⟩
  · rw [same, current] at succeeded
    obtain ⟨walks, resolution⟩ := createRandomWalk_again firstBuilt method succeeded
    refine ⟨parameters, first, given, firstBuilt, walks, ?_⟩
    rw [method]
    exact resolution

/-- What a copy is served from a walk of the tape, and what the walk makes of the copy. -/
theorem Descends.serve (descends : Descends source id born session)
    (cut : CutFrom source id born session.id walk)
    (served : serveStep walk session = .ok (moved, chain)) :
    moved.id = session.id ∧ moved.currentStep = session.currentStep ∧
      Descends source id born moved ∧
      ServedFrom source id born session.id session.currentStep chain := by
  obtain ⟨rfl, found⟩ := serveStep_eq_ok served
  refine ⟨rfl, rfl, fun same => ?_, fun same => ?_⟩
  · obtain ⟨parameters, given, current⟩ := descends same
    obtain ⟨others, built, again, succeeded, -, resolution⟩ := cut same
    rw [given] at again
    cases again
    refine ⟨parameters, given, ?_⟩
    cases method : walk.resolvedMethod with
    | none => exact current
    | some resolved =>
        have resolves : Resolution source id parameters resolved := by
          rw [method] at resolution
          exact ⟨built, succeeded, (resolution.resolve_left (by simp)).symm⟩
        refine .inr ⟨resolved, resolves, ?_⟩
        obtain original | ⟨_, _, current⟩ := current
        · simp [original]
        · simp [current]
  · obtain ⟨parameters, built, given, succeeded, same, -⟩ := cut same
    exact ⟨parameters, built.walk, given, ⟨built, succeeded, rfl⟩, same ▸ found⟩

theorem onTape_answered (descends : Descends source id born session)
    (cut : CutFrom source id born session.id walk) :
    (route.answered (serveStep walk session)).OnTape source id born := by
  cases served : serveStep walk session with
  | error e => trivial
  | ok step =>
      obtain ⟨moved, chain⟩ := step
      obtain ⟨named, cursor, descends, from_⟩ := descends.serve cut served
      rw [← named, ← cursor] at from_
      cases route with
      | peek => exact from_
      | advance => exact ⟨descends, from_⟩

theorem OneTape.insert {events : List (SessionEvent Chain)} (one : OneTape source id born before)
    (descends : Descends source id born session) :
    OneTape source id born { before with
      sessions := before.sessions.insert session.id session
      events := events } where
  named held := by
    obtain ⟨rfl, rfl⟩ | ⟨-, earlier⟩ := OrderedMap.get?_insert_cases held
    · rfl
    · exact one.named earlier
  stored held := by
    obtain ⟨rfl, rfl⟩ | ⟨-, earlier⟩ := OrderedMap.get?_insert_cases held
    · exact descends
    · exact one.stored earlier
  walks := one.walks
  issued := one.issued

theorem OneTape.cache {walks : WalkCache Chain} (one : OneTape source id born before)
    (cut : walks.All (CutFrom source id born)) :
    OneTape source id born { before with walks } :=
  ⟨one.named, one.stored, cut, one.issued⟩

theorem OneTape.shrink {sessions : Sessions} (one : OneTape source id born before)
    (earlier : ∀ {key session}, sessions.get? key = some session →
      before.sessions.get? key = some session) :
    OneTape source id born { before with sessions } :=
  ⟨fun held => one.named (earlier held), fun held => one.stored (earlier held), one.walks,
    one.issued⟩

/-- A session that is created begins a tape, or one of another id. -/
theorem OneTape.create {parameters : SimulationParameters} {draw : Uuid} {now : SystemTime}
    {sessions : Sessions} (one : OneTape source id born before) (fresh : draw ∉ before.issued)
    (created : InMemorySessionStore.create before.sessions (.withRandomId parameters draw now) =
      .ok sessions) :
    ∃ later, (∀ parameters, born = some parameters → later = some parameters) ∧
      OneTape source id later { before with sessions, issued := before.issued ++ [draw] } ∧
      (draw = id → later = some parameters) := by
  obtain ⟨-, rfl⟩ := InMemorySessionStore.create_eq_ok created
  have named : ∀ {key session}, (before.sessions.insert draw
      (.withRandomId parameters draw now)).get? key = some session → session.id = key := by
    intro key session held
    obtain ⟨rfl, rfl⟩ | ⟨-, earlier⟩ := OrderedMap.get?_insert_cases held
    · rfl
    · exact one.named earlier
  by_cases own : draw = id
  · -- nothing of this id was there before
    have unborn : born = none := by
      cases given : born with
      | none => rfl
      | some parameters =>
          have issued := one.issued (by rw [given]; rfl)
          exact absurd (own ▸ issued) fresh
    have once : ∀ other, born = some other → some parameters = some other := by
      intro other given
      rw [unborn] at given
      cases given
    refine ⟨some parameters, once, ⟨named, ?_, ?_, ?_⟩, fun _ => rfl⟩
    · intro key session held
      obtain ⟨rfl, rfl⟩ | ⟨-, earlier⟩ := OrderedMap.get?_insert_cases held
      · exact fun _ => ⟨parameters, rfl, .inl rfl⟩
      · exact (one.stored earlier).mono once
    · exact one.walks.mono fun key walk cut => cut.mono once
    · intro _
      rw [own]
      exact List.mem_append_right _ (List.mem_singleton_self _)
  · refine ⟨born, fun _ given => given, ⟨named, ?_, one.walks, ?_⟩, fun same => absurd same own⟩
    · intro key session held
      obtain ⟨rfl, rfl⟩ | ⟨-, earlier⟩ := OrderedMap.get?_insert_cases held
      · exact fun same => absurd same own
      · exact one.stored earlier
    · intro given
      exact List.mem_append_left _ (one.issued given)

theorem oneTape_of_sessionStep (one : OneTape service.source id born before)
    (own : stage.OnTape service.source id born)
    (stepped : SessionStep service call moment before stage after next) :
    ∃ later, (∀ parameters, born = some parameters → later = some parameters) ∧
      OneTape service.source id later after ∧ next.OnTape service.source id later := by
  have stays : OneTape service.source id born after → next.OnTape service.source id born →
      ∃ later, (∀ parameters, born = some parameters → later = some parameters) ∧
        OneTape service.source id later after ∧ next.OnTape service.source id later :=
    fun one on => ⟨born, fun _ given => given, one, on⟩
  cases stepped with
  | create fresh created =>
      obtain ⟨later, once, one, begun⟩ := one.create fresh created
      exact ⟨later, once, one, begun⟩
  | refuseCreate | check | mismatch | missCheck | refuseRead | refuseBuild | lose | refuseMerge |
      refuseReplace | refuseChange => exact stays one trivial
  | read found =>
      obtain ⟨held, -⟩ := read_eq_ok.mp found
      exact stays one (one.stored held)
  | renew stale => exact stays (one.cache one.walks.remove) own
  | begin | reuse => exact stays one own
  | build succeeded => exact stays one ⟨own, own.build succeeded⟩
  | @file route session built entry walks filed =>
      have cached := all_fileWalk service.maxCachedWalks session.id built moment.instant one.walks
        fun _ => own.2
      rw [filed] at cached
      exact stays (one.cache cached.1) (onTape_answered own.1 cached.2)
  | @hit route session entry found =>
      exact stays (one.cache one.walks.touch) (onTape_answered own (one.walks.find? found))
  | missHit => exact stays one trivial
  | @commit session moved chain after saved =>
      obtain ⟨advancing, stored, held, version, named, rfl⟩ := commit_eq_ok_cases saved
      obtain ⟨-, state, -, shape⟩ := Session.advanced_eq_ok advancing
      have descends : Descends service.source id born moved := by
        rw [shape]
        exact own.1
      have answered : (SessionAnswer.advanced moved chain).OnTape service.source id born := by
        rw [shape]
        exact ⟨session.currentStep, rfl, own.2⟩
      refine stays ?_ ?_
      · rw [← named]
        exact one.insert descends
      · unfold advancedStage
        split_ifs <;> exact answered
  | merge merged => exact stays one own
  | @replace key parameters change updated expectedVersion found =>
      obtain ⟨stored, held, replaced, -⟩ := readToReplace_eq_ok.mp found
      obtain ⟨-, rfl⟩ := Session.replaced_eq_ok.mp replaced
      refine stays one ?_
      have other : stored.id ≠ id := (one.named held).symm ▸ own
      exact other
  | change saved =>
      obtain ⟨stored, held, -, rfl⟩ := change_eq_ok_cases saved
      exact stays (one.insert fun same => absurd same own) trivial
  | delete => exact stays (one.shrink InMemorySessionStore.held_of_delete) trivial
  | cleanup => exact stays (one.shrink InMemorySessionStore.held_of_cleanup) trivial
  | remove => exact stays (one.cache one.walks.remove) own

/-- The shared state and every call are of one tape. -/
def OnOneTape (source : WalkSource Chain) (id : Uuid) (config : SessionConfig Chain) : Prop :=
  ∃ born, OneTape source id born config.shared ∧
    ∀ call stage, config.calls call = .active stage → stage.OnTape source id born

theorem onOneTape_of_step {config nextConfig : SessionConfig Chain} {action : RestartableAction}
    (one : OnOneTape service.source id config) (keeps : Keeps id action)
    (stepped : (restartableCalls service).step config action = some nextConfig) :
    OnOneTape service.source id nextConfig := by
  obtain ⟨born, one, calls⟩ := one
  cases action with
  | background loss =>
      obtain ⟨after, lost, rfl⟩ := step_background_eq_some.mp stepped
      cases loss with
      | removed key =>
          cases lost
          exact ⟨born, one.cache one.walks.remove, calls⟩
      | restarted =>
          cases lost
          exact ⟨born, one.cache RecencyCache.all_empty, calls⟩
  | call index input =>
      obtain ⟨after, phase, moved, rfl⟩ := step_call_eq_some.mp stepped
      have update : ∀ {later}, (∀ parameters, born = some parameters → later = some parameters) →
          (∀ stage, phase = .active stage → stage.OnTape service.source id later) →
          ∀ call stage, Function.update config.calls index phase call = .active stage →
            stage.OnTape service.source id later := by
        intro later once own call stage running
        apply active_of_update own _ running
        intro earlier
        exact (calls call stage earlier).mono once
      obtain ⟨request, rfl, -, rfl, rfl⟩ | ⟨moment, stage, next, -, active, rfl, proceeded⟩ |
        ⟨stage, -, -, -, rfl, rfl⟩ := staged_cases moved
      · refine ⟨born, one, update (fun _ given => given) fun stage running => ?_⟩
        cases running
        cases request with
        | advance key expectedStep => cases expectedStep <;> trivial
        | update key request => exact keeps
        | replace key parameters => exact keeps
        | create | peek | delete | cleanup => trivial
      · obtain ⟨later, once, one, own⟩ := oneTape_of_sessionStep one (calls index stage active)
          (sessionStep_of_proceed proceeded)
        refine ⟨later, one, update once fun stage running => ?_⟩
        cases running
        exact own
      · refine ⟨born, one, update (fun _ given => given) fun stage running => ?_⟩
        cases running

theorem onOneTape_start :
    OnOneTape service.source id
      ((restartableCalls service).start (.empty : SessionManager Chain)) := by
  refine ⟨none, ⟨fun held => ?_, fun held => ?_, RecencyCache.all_empty, fun born => ?_⟩,
    fun call stage running => ?_⟩
  · cases held
  · cases held
  · cases born
  · cases running

end Preservation

section Theorem

variable {Chain : Type} {service : SessionService Chain} {source : WalkSource Chain} {id : Uuid}
  {parameters current : SimulationParameters} {timeframe : TimeFrame} {prices : List Positive}
  {symbol : Option String}

/-- A history, of given prices or to be loaded, and a seed to choose with. -/
structure SeededHistory (parameters : SimulationParameters) (timeframe : TimeFrame)
    (prices : List Positive) (symbol : Option String) : Prop where
  method : parameters.method = .historical timeframe prices symbol
  seeded : parameters.seed.isSome

theorem series_of_walkOf (historical : parameters.method = .historical timeframe prices symbol)
    {walk : List Chain} (walked : WalkOf source id parameters walk) :
    ∃ series chosen,
      walkOf source id parameters (.historical timeframe series chosen) = .ok walk := by
  obtain ⟨built, succeeded, rfl⟩ := walked
  obtain ⟨method, chosen, walked⟩ := createRandomWalk_eq_ok.mp succeeded
  cases resolution : built.resolvedMethod with
  | some resolved =>
      rw [resolution] at chosen
      obtain ⟨rfl, -⟩ := resolveMethod_eq_some chosen
      obtain ⟨chosenSymbol, series, rfl, -⟩ :=
        resolution_historical historical ⟨built, succeeded, resolution⟩
      exact ⟨series, some chosenSymbol, walked⟩
  | none =>
      rw [resolution, resolveMethod, historical] at chosen
      dsimp only at chosen
      split_ifs at chosen with short
      · obtain ⟨loaded, -, impossible⟩ := bind_eq_ok.mp chosen
        cases impossible
      · cases chosen
        exact ⟨prices, symbol, walked⟩

theorem WalkOf.unique {left right : List Chain} (first : WalkOf source id parameters left)
    (second : WalkOf source id parameters right) : left = right := by
  obtain ⟨built, succeeded, rfl⟩ := first
  obtain ⟨other, again, rfl⟩ := second
  rw [succeeded] at again
  cases again
  rfl

/-- Either form of the parameters is walked the same, and the resolved form is walked at all
where it was resolved for some step. -/
theorem walkOf_originalOrResolved (either : OriginalOrResolved source id parameters current)
    {walk : List Chain} (walked : WalkOf source id parameters walk) :
    (∀ again, WalkOf source id current again → again = walk) ∧
      (0 < parameters.steps → WalkOf source id current walk) := by
  obtain rfl | ⟨resolved, ⟨built, succeeded, method⟩, rfl⟩ := either
  · exact ⟨fun again rebuilt => rebuilt.unique walked, fun _ => walked⟩
  · have first : built.walk = walk := WalkOf.unique ⟨built, succeeded, rfl⟩ walked
    constructor
    · intro again rebuilt
      obtain ⟨other, rebuilt, rfl⟩ := rebuilt
      rw [← first]
      exact (createRandomWalk_again succeeded method rebuilt).1
    · intro positive
      exact ⟨_, createRandomWalk_resolved positive succeeded method, first⟩

theorem served_on_tape {born : Option SimulationParameters} {config : SessionConfig Chain}
    (calls : ∀ call stage, config.calls call = .active stage → stage.OnTape source id born)
    {cursor : Nat} {chain : Chain} (served : ServedAt config id cursor chain) :
    ServedFrom source id born id cursor chain := by
  obtain ⟨call, session, rfl, ⟨running, rfl⟩ | ⟨running, step⟩⟩ := served
  · exact calls call _ running
  · obtain ⟨other, same, from_⟩ := calls call _ running
    obtain rfl : other = cursor := by omega
    exact from_

/-- Whatever becomes of its cached walk and of the requests that build it, a seeded history that
is not replaced is served from one walk of one series of prices, is stored with its own method or
the one it resolves to, and is walked the same from both. -/
theorem historical_session_has_one_tape {actions : List RestartableAction}
    {last : SessionConfig Chain} {original : Session}
    (kept : ∀ action ∈ actions, Keeps original.id action)
    (ran : (restartableCalls service).run ((restartableCalls service).start .empty) actions =
      some last)
    (created : Created last original)
    (history : SeededHistory original.parameters timeframe prices symbol) :
    (∃ series chosen walk, ∀ cursor chain, ServedAt last original.id cursor chain →
      WalkOf service.source original.id original.parameters walk ∧
        walkOf service.source original.id original.parameters
          (.historical timeframe series chosen) = .ok walk ∧
        walk[cursor]? = some chain) ∧
    (∀ stored, last.shared.sessions.get? original.id = some stored →
      OriginalOrResolved service.source original.id original.parameters stored.parameters) ∧
    (∀ resolved, Resolution service.source original.id original.parameters resolved →
      ∃ chosen series, resolved = .historical timeframe series (some chosen) ∧
        series.length = original.parameters.steps ∧
        ∀ given, symbol = some given → chosen = given) ∧
    (∀ current, OriginalOrResolved service.source original.id original.parameters current →
      ∀ walk, WalkOf service.source original.id original.parameters walk →
        (∀ again, WalkOf service.source original.id current again → again = walk) ∧
          (0 < original.parameters.steps → WalkOf service.source original.id current walk)) := by
  obtain ⟨born, one, calls⟩ : OnOneTape service.source original.id last := by
    have met : (restartableCalls service).Meets (fun _ action => Keeps original.id action)
        ((restartableCalls service).start .empty) actions :=
      meets_of_members fun action member _ => kept action member
    exact holds_of_guarded_run onOneTape_of_step onOneTape_start met ran
  obtain ⟨call, answered⟩ := created
  obtain rfl : born = some original.parameters := calls call _ answered rfl
  refine ⟨?_, ?_, fun resolved => resolution_historical history.method,
    fun current either walk walked => walkOf_originalOrResolved either walked⟩
  · by_cases builds : ∃ walk, WalkOf service.source original.id original.parameters walk
    · obtain ⟨walk, walked⟩ := builds
      obtain ⟨series, chosen, ofSeries⟩ := series_of_walkOf history.method walked
      refine ⟨series, chosen, walk, fun cursor chain served => ?_⟩
      obtain ⟨_, other, given, again, found⟩ := served_on_tape calls served rfl
      cases given
      rw [again.unique walked] at found
      exact ⟨walked, ofSeries, found⟩
    · refine ⟨[], none, [], fun cursor chain served => ?_⟩
      obtain ⟨_, other, given, again, -⟩ := served_on_tape calls served rfl
      cases given
      exact absurd ⟨other, again⟩ builds
  · intro stored held
    obtain ⟨_, given, either⟩ := one.stored held (one.named held)
    cases given
    exact either

end Theorem

/-- The same prices of two symbols from every date. -/
def twoSymbols : HistoricalDataRepository where
  listAvailableSymbols := .ok ["SPX", "NDX"]
  getDateRangeForSymbol _ :=
    .ok (Expiry.thursdayNoon, { Expiry.thursdayNoon with date := Expiry.lastFriday })
  getHistoricalPrices _ _ _ limit := .ok (List.replicate limit .one)

/-- A generator that counts its draws from its seed. -/
def countingRng : StdRng where
  State := Nat
  seedFromU64 seed := seed
  fromEntropy := 0
  randomRange state count := (state % count, state + 1)

def replayHistory (params : WalkParams Positive) : Except String (List Positive) :=
  match params.walkType with
  | .historical _ prices _ => .ok prices
  | _ => .error "not a history"

def archiveService : SessionService Positive where
  source := .ofRepository (fun _ => .ok .one) (fun _ params _ => replayHistory params)
    countingRng (fun _ => 0) (some twoSymbols)
  numerics := seededService.numerics
  limits := seededService.limits
  maxCachedWalks := seededService.maxCachedWalks
  walksPositive := seededService.walksPositive

def historyParameters : SimulationParameters :=
  { seededParameters 42 with method := .historical .hour [] none }

def restartableSections (call count : Nat) : List RestartableAction :=
  List.replicate count (.call call (.proceed ⟨⟨0, 0, someId⟩, 0⟩))

def restartableCall (call : Nat) (request : SessionRequest) (count : Nat) :
    List RestartableAction :=
  .call call (.request request) :: restartableSections call count

/-- A peek builds the walk before a restart, an advance after it, and the next advance once
the walk is removed. -/
def restartedAndRemoved : List RestartableAction :=
  restartableCall 0 (.create historyParameters) 1 ++ restartableCall 1 (.peek someId) 4 ++
    .background .restarted :: restartableCall 2 (.advance someId none) 5 ++
    .background (.removed someId) :: restartableCall 3 (.advance someId none) 6

def createdBy : SessionCall Positive → Option Session
  | .active (.done (.ok (.created session))) => some session
  | _ => none

theorem historical_session_has_one_tape_restartedAndRemoved :
    ∃ last original, original.parameters = historyParameters ∧
      (restartableCalls archiveService).run ((restartableCalls archiveService).start .empty)
        restartedAndRemoved = some last ∧
      Created last original ∧
      ∃ series chosen walk, ∀ cursor chain, ServedAt last original.id cursor chain →
        WalkOf archiveService.source original.id original.parameters walk ∧
          walkOf archiveService.source original.id original.parameters
            (.historical .hour series chosen) = .ok walk ∧
          walk[cursor]? = some chain := by
  have computed : ((restartableCalls archiveService).run
      ((restartableCalls archiveService).start .empty) restartedAndRemoved).any (fun last =>
        (createdBy (last.calls 0)).any fun original =>
          original.parameters = historyParameters) = true := by
    decide +kernel
  obtain ⟨last, ran, found⟩ := (Option.any_eq_true _ _).mp computed
  obtain ⟨original, answered, same⟩ := (Option.any_eq_true _ _).mp found
  have parameters : original.parameters = historyParameters := of_decide_eq_true same
  have created : Created last original := by
    refine ⟨0, ?_⟩
    unfold createdBy at answered
    split at answered
    next session running =>
      cases answered
      exact running
    next => cases answered
  have kept : ∀ action ∈ restartedAndRemoved, Keeps original.id action := by
    simp [restartedAndRemoved, restartableCall, restartableSections, Keeps,
      SessionRequest.Replaces]
  have history : SeededHistory original.parameters .hour [] none := by
    rw [parameters]
    exact ⟨rfl, rfl⟩
  exact ⟨last, original, parameters, ran, created,
    (historical_session_has_one_tape kept ran created history).1⟩

end OptionChainSimulator.Session
