import Mathlib.Tactic
import OptionChainSimulator.Api.Creation
import OptionChainSimulator.Session.Merges

namespace OptionChainSimulator.Session

open Foundation Foundation.Protocol Utils Domain Api

/-! What a v1 session is stored with, whatever was asked of it since it was created. -/

section Statement

variable {Chain : Type} (service : SessionService Chain)

/-- What a POST makes of some request. -/
def Postable (parameters : SimulationParameters) : Prop :=
  ∃ (request : CreateSessionRequest) (random : Nat),
    request.tryIntoParameters service.numerics service.limits random = .ok parameters

/-- A method whose symbol and prices the build of a walk has loaded. -/
def Loaded (method : SimulationMethod) : Prop :=
  ∃ id parameters built, createRandomWalk service.source id parameters = .ok built ∧
    built.resolvedMethod = some method

/-- What a POST makes, but for a method that a walk has loaded. -/
def PostableOrLoaded (parameters : SimulationParameters) : Prop :=
  ∃ method, Postable service { parameters with method } ∧
    (parameters.method = method ∨ Loaded service parameters.method)

/-- The parameters of a request to create or to replace were made from a body. -/
def FromBody : SessionAction → Prop
  | .call _ (.request (.create parameters)) | .call _ (.request (.replace _ parameters)) =>
      Postable service parameters
  | _ => True

def Change.Makes (parameters : SimulationParameters) : Change → Prop
  | .merge base patch random =>
      applyUpdate service.numerics service.limits base patch random = .ok parameters
  | .whole => True

structure CreatedFacts (manager : SessionManager Chain) : Prop where
  sessions : ∀ {id session}, manager.sessions.get? id = some session →
    PostableOrLoaded service session.parameters
  walks : manager.walks.All fun _ built =>
    ∀ resolved, built.resolvedMethod = some resolved → Loaded service resolved
  events : ∀ {call before after change}, .replaced call before after change ∈ manager.events →
    change.Makes service after.parameters

def SessionStage.Created : SessionStage Chain → Prop
  | .creating parameters => Postable service parameters
  | .probing _ session | .building _ session | .hitting _ session | .saving session _ =>
      PostableOrLoaded service session.parameters
  | .filing _ session built => PostableOrLoaded service session.parameters ∧
      ∀ resolved, built.resolvedMethod = some resolved → Loaded service resolved
  | .replacing _ parameters change =>
      PostableOrLoaded service parameters ∧ change.Makes service parameters
  | .storing session _ change =>
      PostableOrLoaded service session.parameters ∧ change.Makes service session.parameters
  | _ => True

def SessionCall.Created (phase : SessionCall Chain) : Prop :=
  ∀ {stage}, phase = .active stage → stage.Created service

end Statement

section Steps

variable {Chain : Type} {service : SessionService Chain} {before after : SessionManager Chain}
  {call : Nat} {moment : SessionMoment} {stage next : SessionStage Chain} {session : Session}
  {parameters base merged : SimulationParameters} {built : BuiltWalk Chain} {route : Route}

theorem Postable.orLoaded (created : Postable service parameters) :
    PostableOrLoaded service parameters :=
  ⟨parameters.method, created, .inl rfl⟩

theorem PostableOrLoaded.resolve {method : Option SimulationMethod}
    (created : PostableOrLoaded service parameters)
    (loaded : ∀ resolved, method = some resolved → Loaded service resolved) :
    PostableOrLoaded service { parameters with method := method.getD parameters.method } := by
  obtain ⟨original, postable, same⟩ := created
  refine ⟨original, postable, ?_⟩
  cases method with
  | none => exact same
  | some resolved => exact .inr (loaded resolved rfl)

/-- A merge keeps a loaded method only where the PATCH names none. -/
theorem PostableOrLoaded.merge {patch : UpdateSessionRequest} {random : Nat}
    (created : PostableOrLoaded service base)
    (applied : applyUpdate service.numerics service.limits base patch random = .ok merged) :
    PostableOrLoaded service merged := by
  obtain ⟨method, ⟨request, drawn, postable⟩, same⟩ := created
  obtain ⟨symbol, steps, price, days, volatility, rate, yield, replaced, others⟩ :=
    applyUpdate_eq_ok.mp applied
  cases named : patch.method with
  | none =>
      rw [named, keepOrReplace, Except.ok.injEq] at replaced
      have again : applyUpdate service.numerics service.limits { base with method } patch random =
          .ok { merged with method } := by
        apply applyUpdate_eq_ok.mpr
        exact ⟨symbol, steps, price, days, volatility, rate, yield,
          by rw [named, keepOrReplace], others⟩
      refine ⟨method, ⟨_, drawn, (applyUpdate_eq_ok_iff_create postable).mp again⟩, ?_⟩
      rw [← replaced]
      exact same
  | some given =>
      have again : applyUpdate service.numerics service.limits { base with method } patch random =
          .ok merged := by
        apply applyUpdate_eq_ok.mpr
        refine ⟨symbol, steps, price, days, volatility, rate, yield, ?_, others⟩
        rw [named] at replaced ⊢
        exact replaced
      exact Postable.orLoaded ⟨_, drawn, (applyUpdate_eq_ok_iff_create postable).mp again⟩

theorem created_answered (created : PostableOrLoaded service session.parameters)
    (loaded : ∀ resolved, built.resolvedMethod = some resolved → Loaded service resolved) :
    (route.answered (serveStep built session)).Created service := by
  cases served : serveStep built session with
  | error e => trivial
  | ok step =>
      obtain ⟨copy, chain⟩ := step
      obtain ⟨rfl, -⟩ := serveStep_eq_ok served
      cases route with
      | peek => trivial
      | advance => exact created.resolve loaded

theorem CreatedFacts.insert {event : SessionEvent Chain} (facts : CreatedFacts service before)
    (created : PostableOrLoaded service session.parameters)
    (makes : ∀ {call old new change}, event = .replaced call old new change →
      change.Makes service new.parameters) (id : Uuid) :
    CreatedFacts service { before with
      sessions := before.sessions.insert id session
      events := before.events ++ [event] } where
  sessions held := by
    obtain ⟨-, rfl⟩ | ⟨-, earlier⟩ := OrderedMap.get?_insert_cases held
    · exact created
    · exact facts.sessions earlier
  walks := facts.walks
  events recorded := by
    cases List.mem_append.mp recorded with
    | inl earlier => exact facts.events earlier
    | inr own => exact makes (List.mem_singleton.mp own).symm

theorem created_of_sessionStep (facts : CreatedFacts service before)
    (created : stage.Created service)
    (stepped : SessionStep service call moment before stage after next) :
    CreatedFacts service after ∧ next.Created service := by
  cases stepped with
  | create fresh stored =>
      obtain ⟨-, rfl⟩ := InMemorySessionStore.create_eq_ok stored
      refine ⟨⟨fun held => ?_, facts.walks, facts.events⟩, trivial⟩
      obtain ⟨-, rfl⟩ | ⟨-, earlier⟩ := OrderedMap.get?_insert_cases held
      · exact Postable.orLoaded created
      · exact facts.sessions earlier
  | refuseCreate | check | mismatch | missCheck | refuseRead | refuseBuild | lose | refuseMerge |
      refuseReplace | refuseChange => exact ⟨facts, trivial⟩
  | read found => exact ⟨facts, facts.sessions (read_eq_ok.mp found).1⟩
  | renew stale => exact ⟨⟨facts.sessions, facts.walks.remove, facts.events⟩, created⟩
  | begin | reuse => exact ⟨facts, created⟩
  | build succeeded => exact ⟨facts, created, fun _ resolution => ⟨_, _, _, succeeded, resolution⟩⟩
  | @file route session built entry walks filed =>
      have kept := all_fileWalk service.maxCachedWalks session.id built moment.instant facts.walks
        fun _ => created.2
      rw [filed] at kept
      exact ⟨⟨facts.sessions, kept.1, facts.events⟩, created_answered created.1 kept.2⟩
  | hit found =>
      exact ⟨⟨facts.sessions, facts.walks.touch, facts.events⟩,
        created_answered created (facts.walks.find? found)⟩
  | @missHit route session e =>
      refine ⟨facts, ?_⟩
      cases route <;> trivial
  | @commit session moved chain after saved =>
      obtain ⟨advancing, stored, -, -, -, rfl⟩ := commit_eq_ok_cases saved
      obtain ⟨-, state, -, same⟩ := Session.advanced_eq_ok advancing
      refine ⟨facts.insert ?_ ?_ session.id, ?_⟩
      · rw [same]
        exact created
      · intro call old new change impossible
        cases impossible
      · unfold advancedStage
        split_ifs <;> trivial
  | merge merged =>
      obtain ⟨⟨stored, held, rfl⟩, applied⟩ := merge_eq_ok.mp merged
      exact ⟨facts, (facts.sessions held).merge applied, applied⟩
  | replace found =>
      obtain ⟨stored, -, replacing, -⟩ := readToReplace_eq_ok.mp found
      obtain ⟨-, rfl⟩ := Session.replaced_eq_ok.mp replacing
      exact ⟨facts, created⟩
  | @change session expectedVersion change after saved =>
      obtain ⟨stored, -, -, rfl⟩ := change_eq_ok_cases saved
      refine ⟨facts.insert created.1 (fun same => ?_) session.id, trivial⟩
      cases same
      exact created.2
  | delete =>
      exact ⟨⟨fun held => facts.sessions (InMemorySessionStore.held_of_delete held), facts.walks,
        facts.events⟩, trivial⟩
  | cleanup =>
      exact ⟨⟨fun held => facts.sessions (InMemorySessionStore.held_of_cleanup held), facts.walks,
        facts.events⟩, trivial⟩
  | remove => exact ⟨⟨facts.sessions, facts.walks.remove, facts.events⟩, trivial⟩

end Steps

section Theorem

variable {Chain : Type} {service : SessionService Chain}

theorem created_free : (sessionCalls service).FreeOfInterference
    (fun call input _ _ => FromBody service (.call call input)) (CreatedFacts service)
    (fun _ _ phase => phase.Created service) where
  move facts created allowed moved := by
    obtain ⟨request, rfl, -, rfl, rfl⟩ | ⟨moment, stage, next, -, rfl, rfl, proceeded⟩ |
      ⟨stage, -, rfl, -, rfl, rfl⟩ := staged_cases moved
    · refine ⟨facts, ?_⟩
      intro stage same
      cases same
      cases request with
      | create parameters => exact allowed
      | replace id parameters => exact ⟨Postable.orLoaded allowed, trivial⟩
      | advance id expectedStep => cases expectedStep <;> trivial
      | peek | update | delete | cleanup => trivial
    · obtain ⟨factsAfter, createdAfter⟩ :=
        created_of_sessionStep facts (created rfl) (sessionStep_of_proceed proceeded)
      refine ⟨factsAfter, ?_⟩
      intro stage same
      cases same
      exact createdAfter
    · refine ⟨facts, ?_⟩
      intro stage same
      cases same
  others _ _ _ _ _ _ _ created := created
  tick {input} := by cases input

theorem start_created : Holds (CreatedFacts service) (fun _ _ phase => phase.Created service)
    ((sessionCalls service).start .empty) where
  shared := by
    refine ⟨fun held => ?_, RecencyCache.all_empty, fun recorded => ?_⟩
    · cases held
    · cases recorded
  own call := by
    intro stage same
    cases same

/-- A stored session has what a POST would give it, its method apart where a walk has loaded it,
and each PATCH that was saved and merged into created parameters gave what a POST of the patched
body gives. -/
theorem sessions_stay_postable {actions : List SessionAction} {last : SessionConfig Chain}
    (bodies : ∀ action ∈ actions, FromBody service action)
    (ran : (sessionCalls service).run ((sessionCalls service).start .empty) actions = some last) :
    (∀ id session, last.shared.sessions.get? id = some session →
      PostableOrLoaded service session.parameters) ∧
    ∀ call before after base patch random,
      .replaced call before after (.merge base patch random) ∈ last.shared.events →
        ∀ (request : CreateSessionRequest) (drawn : Nat),
          request.tryIntoParameters service.numerics service.limits drawn = .ok base →
            (request.patched patch drawn random).tryIntoParameters service.numerics
              service.limits drawn = .ok after.parameters := by
  have always : (sessionCalls service).Meets (fun _ _ => True)
      ((sessionCalls service).start .empty) actions := meets_of_always fun _ _ => trivial
  have met : (sessionCalls service).Meets
      (atCall fun call input _ _ => FromBody service (.call call input))
      ((sessionCalls service).start .empty) actions := by
    apply (always.among bodies).mono
    intro config action allowed
    cases action with
    | call index input => exact allowed.1
    | background input => trivial
  have facts := (created_free.holds_of_run start_created met ran).shared
  refine ⟨fun id session held => facts.sessions held, ?_⟩
  intro call before after base patch random recorded request drawn created
  exact (applyUpdate_eq_ok_iff_create created).mp (facts.events recorded)

end Theorem

def seededBody : CreateSessionRequest where
  symbol := "SPX"
  steps := 2
  initialPrice := .finite 1
  daysToExpiration := .finite 1
  volatility := .finite 1
  riskFreeRate := .finite 0
  dividendYield := .finite 0
  method := .brownian (.finite 1) (.finite 0) (.finite 1)
  timeFrame := .day
  chainSize := none
  strikeInterval := none
  skewSlope := none
  smileCurve := none
  spread := none
  seed := some 1

theorem sessions_stay_postable_inTurn :
    ∃ last session, seededCalls.run noSessions (creating ++ patchingInTurn) = some last ∧
      last.shared.sessions.get? someId = some session ∧ session.parameters.symbol = "NDX" ∧
      PostableOrLoaded seededService session.parameters := by
  have computed : (seededCalls.run noSessions (creating ++ patchingInTurn)).any (fun last =>
      (last.shared.sessions.get? someId).any fun session =>
        session.parameters.symbol = "NDX") = true := by
    decide +kernel
  obtain ⟨last, ran, computed⟩ := (Option.any_eq_true _ _).mp computed
  obtain ⟨session, held, symbol⟩ := (Option.any_eq_true _ _).mp computed
  have postable : Postable seededService (seededParameters 1) :=
    ⟨seededBody, 0, by decide +kernel⟩
  have bodies : ∀ action ∈ creating ++ patchingInTurn, FromBody seededService action := by
    simp [creating, patchingInTurn, sessionCall, sessionSections, newSymbol, newSeed, FromBody,
      postable]
  exact ⟨last, session, ran, held, of_decide_eq_true symbol,
    (sessions_stay_postable bodies ran).1 someId session held⟩

end OptionChainSimulator.Session
