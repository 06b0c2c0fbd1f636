import Mathlib.Tactic
import OptionChainSimulator.Session.SessionFacts

namespace OptionChainSimulator.Session

open Foundation Foundation.Protocol Utils Domain Api

/-! Which walk the cache serves for a session, and when it is the walk of the session's
parameters. -/

section Statement

variable {Chain : Type}

/-- The chain at the session's cursor on the walk of its parameters. -/
def Serves (source : WalkSource Chain) (session : Session) (chain : Chain) : Prop :=
  ∃ built, createRandomWalk source session.id session.parameters = .ok built ∧
    built.walk[session.currentStep]? = some chain

/-- The walk of the session's parameters, with the method its build resolved: resolved
anew by a build from them, or in them already. -/
def Describes (source : WalkSource Chain) (walk : BuiltWalk Chain) (session : Session) : Prop :=
  ∃ built, createRandomWalk source session.id session.parameters = .ok built ∧
    walk.walk = built.walk ∧
      (walk.resolvedMethod = built.resolvedMethod ∨
        (built.resolvedMethod = none ∧
          walk.resolvedMethod = some session.parameters.method))

/-- A copy of this revision that is past its cache check. -/
def SessionStage.PastCheck (session : Session) : SessionStage Chain → Prop
  | .building _ copy | .filing _ copy _ | .hitting _ copy | .saving copy _ =>
      copy.id = session.id ∧ copy.version = session.version
  | _ => False

/-- The next request that reads this session may take its cached walk, or a request that
is past its check still may. -/
def MayServe (config : SessionConfig Chain) (except : Nat → Prop) (stored : Session) : Prop :=
  stored.state ≠ .reinitialized ∨
    ∃ call stage, ¬ except call ∧ config.calls call = .active stage ∧ stage.PastCheck stored

/-- A walk filed into a free slot is that of the stored parameters, wherever it may be
served for them. -/
def FilesCurrent (service : SessionService Chain) : SessionConfig Chain → SessionAction → Prop
  | config, .call call (.proceed _) =>
      ∀ route session built, config.calls call = .active (.filing route session built) →
        SlotFree service.maxCachedWalks config.shared.walks session.id →
        ∀ stored, config.shared.sessions.get? session.id = some stored →
          MayServe config (· = call) stored → Describes service.source built stored
  | _, _ => True

/-- Every advance served the walk of the parameters it replaced, at their cursor. -/
structure ServesCurrent (service : SessionService Chain) (config : SessionConfig Chain) :
    Prop where
  served : ∀ {call stored chain}, .advanced call stored chain ∈ config.shared.events →
    Serves service.source stored chain
  answered : ∀ {call session chain},
    config.calls call = .active (.done (.ok (.advanced session chain))) →
    ∃ stored, .advanced call stored chain ∈ config.shared.events

end Statement

section Facts

variable {Chain : Type} {source : WalkSource Chain} {service : SessionService Chain}
  {walk built : BuiltWalk Chain} {session stored moved : Session} {chain : Chain}

theorem Describes.resolved (describes : Describes source walk stored)
    (positive : 0 < stored.parameters.steps) (named : moved.id = stored.id)
    (succeeded : createRandomWalk source stored.id stored.parameters = .ok built)
    (resolved : moved.parameters = { stored.parameters with
      method := built.resolvedMethod.getD stored.parameters.method }) :
    Describes source walk moved := by
  obtain ⟨other, otherBuilt, same, resolution⟩ := describes
  rw [succeeded] at otherBuilt
  cases otherBuilt
  cases method : built.resolvedMethod with
  | none =>
      rw [method, Option.getD_none] at resolved
      exact ⟨built, by rw [named, resolved]; exact succeeded, same, by rwa [resolved]⟩
  | some method' =>
      rw [method, Option.getD_some] at resolved
      refine ⟨⟨built.walk, none⟩, ?_, same, .inr ⟨rfl, ?_⟩⟩
      · rw [named, resolved]
        exact createRandomWalk_resolved positive succeeded method
      · cases resolution with
        | inl anew => rw [anew, method, resolved]
        | inr already =>
            rw [already.1] at method
            cases method

theorem Describes.serve (describes : Describes source walk session)
    (served : serveStep walk session = .ok (moved, chain)) :
    ∃ built, createRandomWalk source session.id session.parameters = .ok built ∧
      built.walk[session.currentStep]? = some chain ∧
      moved.parameters.method = built.resolvedMethod.getD session.parameters.method := by
  obtain ⟨rfl, found⟩ := serveStep_eq_ok served
  obtain ⟨built, succeeded, same, resolution⟩ := describes
  refine ⟨built, succeeded, same ▸ found, ?_⟩
  cases resolution with
  | inl anew => rw [anew]
  | inr already => rw [already.1, already.2, Option.getD_some, Option.getD_none]

/-- What a copy past its cache check carries. -/
def SessionStage.Carries (source : WalkSource Chain) (manager : SessionManager Chain) :
    SessionStage Chain → Prop
  | .filing _ session built =>
      createRandomWalk source session.id session.parameters = .ok built
  | .saving session chain =>
      ∀ stored, manager.sessions.get? session.id = some stored →
        session.version = stored.version →
        ∃ built, createRandomWalk source stored.id stored.parameters = .ok built ∧
          built.walk[stored.currentStep]? = some chain ∧
          session.parameters.method = built.resolvedMethod.getD stored.parameters.method
  | _ => True

/-- A cached walk is that of the stored session, wherever it may be served for it. -/
def Fits (source : WalkSource Chain) (config : SessionConfig Chain) (id : Uuid)
    (walk : BuiltWalk Chain) : Prop :=
  id ∈ config.shared.issued ∧
    ∀ stored, config.shared.sessions.get? id = some stored →
      MayServe config (fun _ => False) stored → Describes source walk stored

structure WalkFacts (source : WalkSource Chain) (config : SessionConfig Chain) : Prop where
  backed : Protocol.Holds SessionFacts SessionCall.Backed config
  walks : config.shared.walks.All (Fits source config)
  carried : ∀ {call stage}, config.calls call = .active stage →
    stage.Carries source config.shared
  served : ∀ {call stored chain}, .advanced call stored chain ∈ config.shared.events →
    Serves source stored chain

variable {before after : SessionManager Chain} {stage next : SessionStage Chain} {call : Nat}
  {moment : SessionMoment} {config : SessionConfig Chain}

theorem Follows.earlier {same : Session → Session → Prop} (follows : Follows same before session)
    (evolves : before.Evolves call after) (held : after.sessions.get? session.id = some stored)
    (current : session.version = stored.version) :
    before.sessions.get? session.id = some stored := by
  obtain gone | kept | ⟨old, new, was, is_, newer⟩ := evolves.sessions _ follows.issued
  · rw [gone] at held
    cases held
  · rwa [← kept]
  · rw [is_] at held
    cases held
    have older := follows.version was
    omega

theorem SessionStage.Carries.evolve (carries : stage.Carries source before)
    (backed : stage.Backed before) (evolves : before.Evolves call after) :
    stage.Carries source after := by
  cases stage with
  | saving session chain =>
      intro stored held current
      exact carries stored (backed.1.earlier evolves held current) current
  | filing => exact carries
  | creating | checking | reading | probing | building | hitting | merging | replacing |
      storing | deleting | cleaning | removing | done => trivial

theorem Carries.answered {route : Route} (follows : Follows Eq before session)
    (describes : ∀ stored, before.sessions.get? session.id = some stored →
      session.version = stored.version → Describes source walk stored) :
    (route.answered (serveStep walk session)).Carries source before := by
  cases served : serveStep walk session with
  | error e => trivial
  | ok step =>
      obtain ⟨copy, chain⟩ := step
      cases route with
      | peek => trivial
      | advance =>
          intro stored held current
          obtain ⟨rfl, -⟩ := serveStep_eq_ok served
          cases follows.current held current
          exact (describes _ held current).serve served

theorem pastCheck_answered {route : Route}
    (past : (route.answered (serveStep walk session)).PastCheck stored) :
    session.id = stored.id ∧ session.version = stored.version := by
  cases served : serveStep walk session with
  | error e =>
      rw [served] at past
      cases past
  | ok step =>
      obtain ⟨copy, chain⟩ := step
      rw [served] at past
      obtain ⟨rfl, -⟩ := serveStep_eq_ok served
      cases route with
      | peek => cases past
      | advance => exact past

theorem MayServe.earlier {except : Nat → Prop} {phase : SessionCall Chain}
    (serve : MayServe ⟨after, Function.update config.calls call phase⟩ except stored) :
    MayServe config (fun other => except other ∨ other = call) stored ∨
      (¬ except call ∧ ∃ stage, phase = .active stage ∧ stage.PastCheck stored) := by
  cases serve with
  | inl current => exact .inl (.inl current)
  | inr past =>
      obtain ⟨other, held, allowed, running, past⟩ := past
      by_cases same : other = call
      · subst same
        simp only [Function.update_self] at running
        exact .inr ⟨allowed, held, running, past⟩
      · simp only [Function.update_of_ne same] at running
        exact .inl (.inr ⟨other, held, not_or.mpr ⟨allowed, same⟩, running, past⟩)

theorem MayServe.mono {except fewer : Nat → Prop} (serve : MayServe config except stored)
    (implied : ∀ call, fewer call → except call) : MayServe config fewer stored := by
  cases serve with
  | inl current => exact .inl current
  | inr past =>
      obtain ⟨other, held, allowed, running⟩ := past
      exact .inr ⟨other, held, fun excepted => allowed (implied other excepted), running⟩

theorem Fits.keep {id : Uuid} (fits : Fits source config id walk)
    (active : config.calls call = .active stage)
    (issued : ∀ id ∈ config.shared.issued, id ∈ after.issued)
    (earlier : ∀ stored, after.sessions.get? id = some stored →
      config.shared.sessions.get? id = some stored)
    (past : ∀ stored, after.sessions.get? id = some stored → next.PastCheck stored →
      stage.PastCheck stored ∨ stored.state ≠ .reinitialized) :
    Fits source ⟨after, Function.update config.calls call (.active next)⟩ id walk := by
  refine ⟨issued _ fits.1, fun stored held serve => fits.2 stored (earlier stored held) ?_⟩
  cases serve.earlier with
  | inl others => exact others.mono fun _ impossible => impossible.elim
  | inr own =>
      obtain ⟨-, _, equal, own⟩ := own
      cases equal
      cases past stored held own with
      | inl own => exact .inr ⟨call, _, not_false, active, own⟩
      | inr current => exact .inl current

theorem Fits.quiet {id : Uuid} {phase : SessionCall Chain} (fits : Fits source config id walk)
    (quiet : ∀ stage, phase = .active stage → ∀ stored, ¬ stage.PastCheck stored) :
    Fits source ⟨config.shared, Function.update config.calls call phase⟩ id walk := by
  refine ⟨fits.1, fun stored held serve => fits.2 stored held ?_⟩
  cases serve.earlier with
  | inl others => exact others.mono fun _ impossible => impossible.elim
  | inr own =>
      obtain ⟨-, stage, running, past⟩ := own
      exact absurd past (quiet stage running stored)

theorem pastCheck_advancedStage
    (past : (advancedStage moved chain).PastCheck stored) : False := by
  unfold advancedStage at past
  split_ifs at past <;> cases past

theorem Describes.advanced {old : Session} {now : SystemTime}
    (describes : Describes source walk old) (facts : SessionFacts before)
    (held : before.sessions.get? session.id = some old)
    (backed : (SessionStage.saving session chain).Backed before)
    (version : old.version = session.version) (advancing : session.advanced now = .ok moved)
    (succeeded : createRandomWalk source old.id old.parameters = .ok built)
    (method : session.parameters.method = built.resolvedMethod.getD old.parameters.method) :
    Describes source walk moved := by
  obtain ⟨follows, accepted⟩ := backed
  have copied : SameButMethod session old := follows.current held version.symm
  obtain ⟨left, state, -, rfl⟩ := Session.advanced_eq_ok advancing
  rw [SameButMethod] at copied
  apply describes.resolved _ _ succeeded
  · rw [copied]
    rw [← method]
  · rw [← facts.totalSteps held]
    rw [copied] at left
    exact Nat.zero_lt_of_lt left
  · rw [copied]

theorem Fits.insert {id saved : Uuid} {event : SessionEvent Chain}
    (fits : Fits source config id walk) (active : config.calls call = .active stage)
    (past : ∀ stored, ¬ next.PastCheck stored)
    (describes : id = saved →
      MayServe config (fun _ => False) moved → Describes source walk moved) :
    Fits source
      ⟨{ config.shared with
          sessions := config.shared.sessions.insert saved moved
          events := config.shared.events ++ [event] },
        Function.update config.calls call (.active next)⟩ id walk := by
  by_cases same : id = saved
  · subst same
    refine ⟨fits.1, fun stored found serve => ?_⟩
    rw [OrderedMap.get?_insert, Function.update_self] at found
    cases found
    cases serve.earlier with
    | inl others => exact describes rfl (others.mono fun _ impossible => impossible.elim)
    | inr own =>
        obtain ⟨-, _, equal, own⟩ := own
        cases equal
        exact absurd own (past moved)
  · refine fits.keep active (fun _ given => given) (fun stored found => ?_)
      fun stored _ own => absurd own (past stored)
    rwa [OrderedMap.get?_insert, Function.update_of_ne same] at found

theorem WalkFacts.not_pastCheck {old : Session} {other : Nat} (facts : WalkFacts source config)
    (held : config.shared.sessions.get? session.id = some old)
    (newer : old.version < session.version) (running : config.calls other = .active stage) :
    ¬ stage.PastCheck session := by
  intro past
  obtain ⟨backed, -⟩ := (facts.backed.own other).active running
  cases stage with
  | building route copy | filing route copy built | hitting route copy | saving copy chain =>
      obtain ⟨named, version⟩ := past
      have older := backed.1.version (named ▸ held)
      omega
  | creating | checking | reading | probing | merging | replacing | storing | deleting |
      cleaning | removing | done => cases past

section Step

variable (facts : WalkFacts service.source config) (active : config.calls call = .active stage)
  (stepped : SessionStep service call moment config.shared stage after next)

include facts active stepped

theorem served_of_sessionStep {other : Nat}
    (advanced : .advanced other stored chain ∈ after.events) :
    Serves service.source stored chain := by
  cases stepped with
  | commit saved =>
      obtain ⟨-, old, held, version, -, rfl⟩ := commit_eq_ok_cases saved
      cases List.mem_append.mp advanced with
      | inl earlier => exact facts.served earlier
      | inr new =>
          cases List.mem_singleton.mp new
          obtain ⟨built, succeeded, found, -⟩ := facts.carried active _ held version.symm
          exact ⟨built, succeeded, found⟩
  | change saved =>
      obtain ⟨old, -, -, rfl⟩ := change_eq_ok_cases saved
      cases List.mem_append.mp advanced with
      | inl earlier => exact facts.served earlier
      | inr new => cases List.mem_singleton.mp new
  | create | refuseCreate | check | mismatch | missCheck | read | refuseRead | renew | begin |
      reuse | build | refuseBuild | file | hit | missHit | lose | merge | refuseMerge | replace |
      refuseReplace | refuseChange | delete | cleanup | remove => exact facts.served advanced

theorem carries_of_sessionStep : next.Carries service.source after := by
  obtain ⟨follows, -⟩ := (facts.backed.own call).active active
  cases stepped with
  | build succeeded => exact succeeded
  | @file route session built entry walks filed =>
      have fits : ∀ stored, config.shared.sessions.get? session.id = some stored →
          session.version = stored.version → Describes service.source entry stored := by
        intro stored held current
        have mayServe : MayServe config (fun _ => False) stored := by
          refine .inr ⟨call, _, not_false, active, ?_, current⟩
          exact (facts.backed.shared.named held).symm
        have cached : config.shared.walks.All fun id walk =>
            id = session.id → Describes service.source walk stored :=
          facts.walks.mono fun id walk fits same =>
            fits.2 stored (by rw [same]; exact held) mayServe
        have served := all_fileWalk service.maxCachedWalks session.id built moment.instant cached
          fun _ _ => by
            obtain rfl := follows.1.current held current
            exact ⟨built, facts.carried active, rfl, .inl rfl⟩
        rw [filed] at served
        exact served.2 rfl
      exact Carries.answered ⟨follows.1.issued, follows.1.version, follows.1.current⟩ fits
  | hit found =>
      refine Carries.answered ⟨follows.1.issued, follows.1.version, follows.1.current⟩
        fun stored held current => ?_
      refine (facts.walks.find? found).2 stored held
        (.inr ⟨call, _, not_false, active, ?_, current⟩)
      exact (facts.backed.shared.named held).symm
  | commit saved =>
      unfold advancedStage
      split_ifs <;> trivial
  | create | refuseCreate | check | mismatch | missCheck | read | refuseRead | renew | begin |
      reuse | refuseBuild | missHit | lose | merge | refuseMerge | replace | change |
      refuseReplace | refuseChange | delete | cleanup | remove => trivial

/-- A filed walk is that of the stored session, where its slot was free and it may be
served. -/
def FiledCurrent (service : SessionService Chain) (config : SessionConfig Chain) (call : Nat)
    (stage : SessionStage Chain) : Prop :=
  ∀ route session built, stage = .filing route session built →
    SlotFree service.maxCachedWalks config.shared.walks session.id →
    ∀ stored, config.shared.sessions.get? session.id = some stored →
      MayServe config (· = call) stored → Describes service.source built stored

theorem walks_of_sessionStep (files : FiledCurrent service config call stage) :
    after.walks.All
      (Fits service.source ⟨after, Function.update config.calls call (.active next)⟩) := by
  obtain ⟨backed, -⟩ := (facts.backed.own call).active active
  have issued : ∀ id ∈ config.shared.issued, id ∈ config.shared.issued := fun _ given => given
  cases stepped with
  | create fresh created =>
      obtain ⟨-, rfl⟩ := InMemorySessionStore.create_eq_ok created
      refine RecencyCache.All.mono facts.walks fun id walk fits => ?_
      have other : id ≠ moment.draw := by
        intro same
        exact fresh (same ▸ fits.1)
      apply fits.keep active (fun _ given => List.mem_append_left _ given) _
        fun _ _ past => by cases past
      intro stored held
      rwa [OrderedMap.get?_insert, Session.withRandomId, Function.update_of_ne other] at held
  | commit saved =>
      obtain ⟨advancing, old, held, version, -, rfl⟩ := commit_eq_ok_cases saved
      refine RecencyCache.All.mono facts.walks fun id walk fits => ?_
      apply fits.insert active fun _ past => pastCheck_advancedStage past
      intro same _
      subst same
      obtain ⟨built, succeeded, -, method⟩ := facts.carried active old held version.symm
      have describes := fits.2 old held
        (.inr ⟨call, _, not_false, active, (facts.backed.shared.named held).symm, version.symm⟩)
      exact describes.advanced facts.backed.shared held backed version advancing succeeded method
  | change saved =>
      obtain ⟨old, held, version, rfl⟩ := change_eq_ok_cases saved
      obtain ⟨-, reinitialized, bumped, -⟩ := backed
      refine RecencyCache.All.mono facts.walks fun id walk fits => ?_
      apply fits.insert active fun _ past => by cases past
      intro same serve
      cases serve with
      | inl current => exact absurd reinitialized current
      | inr past =>
          obtain ⟨other, _, -, running, past⟩ := past
          exact absurd past (facts.not_pastCheck held (by omega) running)
  | delete =>
      refine RecencyCache.All.mono facts.walks fun id walk fits => ?_
      exact fits.keep active issued (fun _ held => InMemorySessionStore.held_of_delete held)
        fun _ _ past => by cases past
  | cleanup =>
      refine RecencyCache.All.mono facts.walks fun id walk fits => ?_
      exact fits.keep active issued (fun _ held => InMemorySessionStore.held_of_cleanup held)
        fun _ _ past => by cases past
  | renew stale =>
      refine RecencyCache.All.mono facts.walks.others fun id walk fits => ?_
      refine fits.2.keep active issued (fun _ held => held) fun stored held past => ?_
      exact absurd ((facts.backed.shared.named held).symm.trans past.1.symm) fits.1
  | begin current absent =>
      refine RecencyCache.All.mono (facts.walks.of_absent absent) fun id walk fits => ?_
      refine fits.2.keep active issued (fun _ held => held) fun stored held past => ?_
      exact absurd ((facts.backed.shared.named held).symm.trans past.1.symm) fits.1
  | reuse current held => 
      refine RecencyCache.All.mono facts.walks fun id walk fits => ?_
      refine fits.keep active issued (fun _ held => held) fun stored held past => .inr ?_
      obtain ⟨named, version⟩ := past
      rw [← facts.backed.shared.named held, ← named] at held
      rw [← backed.1.current held version]
      exact current
  | @file route session built entry walks filed =>
      have kept : config.shared.walks.All (Fits service.source
          ⟨{ config.shared with walks }, Function.update config.calls call
            (.active (route.answered (serveStep entry session)))⟩) :=
        facts.walks.mono fun id walk fits =>
          fits.keep active issued (fun _ held => held) fun _ _ past =>
            .inl (pastCheck_answered past)
      have cached := all_fileWalk service.maxCachedWalks session.id built moment.instant kept
        fun free => ?_
      · rw [filed] at cached
        exact cached.1
      · refine ⟨backed.1.issued, fun stored held serve => ?_⟩
        cases serve.earlier with
        | inl others =>
            exact files route session built rfl free stored held
              (others.mono fun _ same => .inr same)
        | inr own =>
            obtain ⟨-, _, equal, own⟩ := own
            cases equal
            obtain rfl := backed.1.current held (pastCheck_answered own).2
            exact ⟨built, facts.carried active, rfl, .inl rfl⟩
  | hit found => 
      refine RecencyCache.All.mono facts.walks.touch fun id walk fits => ?_
      exact fits.keep active issued (fun _ held => held) fun stored held past =>
        .inl (pastCheck_answered past)
  | remove =>
      refine RecencyCache.All.mono facts.walks.remove fun id walk fits => ?_
      exact fits.keep active issued (fun _ held => held) fun stored held past => by cases past
  | build =>
      refine RecencyCache.All.mono facts.walks fun id walk fits => ?_
      exact fits.keep active issued (fun _ held => held) fun stored held past => .inl past
  | refuseCreate | check | mismatch | missCheck | read | refuseRead |
      refuseBuild | missHit | lose | merge | refuseMerge | replace |
      refuseReplace | refuseChange =>
      refine RecencyCache.All.mono facts.walks fun id walk fits => ?_
      exact fits.keep active issued (fun _ held => held) fun stored held past => by cases past

end Step

theorem walkFacts_of_step {action : SessionAction} {next : SessionConfig Chain}
    (facts : WalkFacts service.source config) (files : FilesCurrent service config action)
    (stepped : (sessionCalls service).step config action = some next) :
    WalkFacts service.source next := by
  have backed := sessions_free.preserved facts.backed atCall_unguarded stepped
  cases action with
  | background input => cases input
  | call index input =>
      obtain ⟨after, phase, moved, rfl⟩ := step_call_eq_some.mp stepped
      obtain ⟨-, evolves, -⟩ :=
        backed_of_sessionMove facts.backed.shared (facts.backed.own index) moved
      have carried : (∀ stage, phase = .active stage → stage.Carries service.source after) →
          ∀ {other stage}, Function.update config.calls index phase other = .active stage →
            stage.Carries service.source after := by
        intro own other stage running
        apply active_of_update own _ running
        intro earlier
        exact (facts.carried earlier).evolve ((facts.backed.own other).active earlier).1 evolves
      obtain ⟨request, -, -, rfl, rfl⟩ | ⟨moment, stage, next, rfl, active, rfl, proceeded⟩ |
        ⟨stage, -, active, -, rfl, rfl⟩ := staged_cases moved
      · have begun : ∀ stage : SessionStage Chain, .active request.stage = StagedCall.active stage →
            stage.Carries service.source config.shared ∧ ∀ stored, ¬ stage.PastCheck stored := by
          intro stage running
          cases running
          cases request with
          | advance id expectedStep => cases expectedStep <;> exact ⟨trivial, fun _ past => past⟩
          | create | peek | update | replace | delete | cleanup =>
              exact ⟨trivial, fun _ past => past⟩
        refine ⟨backed, ?_, carried fun stage running => (begun stage running).1, facts.served⟩
        exact facts.walks.mono fun id walk fits =>
          fits.quiet fun stage running => (begun stage running).2
      · have stepped := sessionStep_of_proceed proceeded
        refine ⟨backed, ?_, carried fun stage running => ?_, ?_⟩
        · apply walks_of_sessionStep facts active stepped
          intro route session built filing
          exact files route session built (filing ▸ active)
        · cases running
          exact carries_of_sessionStep facts active stepped
        · exact served_of_sessionStep facts active stepped
      · refine ⟨backed, ?_, carried fun stage running => (by cases running), facts.served⟩
        exact facts.walks.mono fun id walk fits =>
          fits.quiet fun stage running => (by cases running)

end Facts

section Decisions

variable {Chain : Type} [DecidableEq Chain] (source : WalkSource Chain)
  (walk : BuiltWalk Chain) (session : Session) (chain : Chain)

instance : Decidable (Serves source session chain) :=
  match built : createRandomWalk source session.id session.parameters with
  | .error _ => .isFalse fun serves => by
      obtain ⟨other, succeeded, -⟩ := serves
      rw [built] at succeeded
      cases succeeded
  | .ok result =>
      decidable_of_iff (result.walk[session.currentStep]? = some chain) (by
        simp [Serves, built])

instance : Decidable (Describes source walk session) :=
  match built : createRandomWalk source session.id session.parameters with
  | .error _ => .isFalse fun describes => by
      obtain ⟨other, succeeded, -⟩ := describes
      rw [built] at succeeded
      cases succeeded
  | .ok result =>
      decidable_of_iff (walk.walk = result.walk ∧
        (walk.resolvedMethod = result.resolvedMethod ∨
          (result.resolvedMethod = none ∧
            walk.resolvedMethod = some session.parameters.method))) (by
        simp [Describes, built])

end Decisions

/-- A peek, a PUT of another seed and an advance, one after another. -/
def replacingBetween : List SessionAction :=
  sessionCall 0 (.create (seededParameters 1)) 1 ++ sessionCall 1 (.peek someId) 4 ++
    sessionCall 2 (.replace someId (seededParameters 2)) 2 ++
    sessionCall 3 (.advance someId none) 5

/-- The peek files its walk after the PUT, between the check and the filing of the
advance. -/
def filingLate : List SessionAction :=
  sessionCall 0 (.create (seededParameters 1)) 1 ++ sessionCall 1 (.peek someId) 3 ++
    sessionCall 2 (.replace someId (seededParameters 2)) 2 ++
    sessionCall 3 (.advance someId none) 2 ++ sessionSections 1 1 ++ sessionSections 3 3

/-- Whether a filed walk is that of what is stored. -/
def filesStored (config : SessionConfig Nat) : SessionAction → Bool
  | .call call (.proceed _) =>
      match config.calls call with
      | .active (.filing _ session built) =>
          (config.shared.sessions.get? session.id).all fun stored =>
            Describes seededSource built stored
      | _ => true
  | _ => true

theorem filesCurrent_of_filesStored (config : SessionConfig Nat) (action : SessionAction)
    (allowed : filesStored config action) : FilesCurrent seededService config action := by
  cases action with
  | background input => cases input
  | call call input =>
      cases input with
      | request | drop => trivial
      | proceed moment =>
          intro route session built filing free stored held _
          simp only [filesStored, filing, held, Option.all_some, decide_eq_true_eq] at allowed
          exact allowed

section Theorem

variable {Chain : Type} {service : SessionService Chain}

/-- While every walk filed into a free slot is that of the stored parameters, wherever it
may be served for them, every advance serves the walk of the parameters it commits from. -/
theorem servesCurrent {actions : List SessionAction} {last : SessionConfig Chain}
    (met : (sessionCalls service).Meets (FilesCurrent service)
      ((sessionCalls service).start .empty) actions)
    (ran : (sessionCalls service).run ((sessionCalls service).start .empty) actions = some last) :
    ServesCurrent service last := by
  have facts : WalkFacts service.source last := by
    apply holds_of_guarded_run walkFacts_of_step _ met ran
    refine ⟨start_sessionFacts, RecencyCache.all_empty, fun running => ?_, fun advanced => ?_⟩
    · cases running
    · cases advanced
  refine ⟨facts.served, fun answered => ?_⟩
  exact ((facts.backed.own _).active answered).2

end Theorem

theorem servesCurrent_replacingBetween :
    ∃ last, seededCalls.run noSessions replacingBetween = some last ∧
      ServesCurrent seededService last := by
  obtain ⟨last, ran⟩ := Option.isSome_iff_exists.mp
    (by decide +kernel : (seededCalls.run noSessions replacingBetween).isSome)
  have checked : seededCalls.checks filesStored noSessions replacingBetween := by decide +kernel
  exact ⟨last, ran, servesCurrent (meets_of_checks filesCurrent_of_filesStored checked) ran⟩

def lastAdvance : List (SessionEvent Nat) → Option (Session × Nat)
  | [_, .advanced _ stored chain] => some (stored, chain)
  | _ => none

theorem advanced_of_lastAdvance {events : List (SessionEvent Nat)} {stored : Session}
    {chain : Nat} (found : lastAdvance events = some (stored, chain)) :
    ∃ call, .advanced call stored chain ∈ events := by
  unfold lastAdvance at found
  split at found
  next call _ _ =>
    cases found
    exact ⟨call, List.mem_cons_of_mem _ (List.mem_singleton_self _)⟩
  next => cases found

/-- An advance after the PUT serves the walk of the parameters before it. -/
theorem late_filing_serves_stale_walk :
    ∃ last, seededCalls.run noSessions filingLate = some last ∧
      ∃ call stored chain, .advanced call stored chain ∈ last.shared.events ∧
        stored.parameters = seededParameters 2 ∧ ¬ Serves seededSource stored chain := by
  have computed : (seededCalls.run noSessions filingLate).any (fun last =>
      (lastAdvance last.shared.events).any fun served =>
        served.1.parameters = seededParameters 2 ∧ ¬ Serves seededSource served.1 served.2) =
          true := by
    decide +kernel
  obtain ⟨last, ran, found⟩ := (Option.any_eq_true _ _).mp computed
  obtain ⟨⟨stored, chain⟩, found, stale⟩ := (Option.any_eq_true _ _).mp found
  obtain ⟨call, member⟩ := advanced_of_lastAdvance found
  exact ⟨last, ran, call, stored, chain, member, of_decide_eq_true stale⟩

end OptionChainSimulator.Session
