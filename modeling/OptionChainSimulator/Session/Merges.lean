import Mathlib.Tactic
import OptionChainSimulator.Session.SessionFacts

namespace OptionChainSimulator.Session

open Foundation Foundation.Protocol Utils Domain Api

/-! Concurrent PATCHes of one session, and when their merges add up. -/

section Statement

variable {Chain : Type} (service : SessionService Chain)

/-- The saved merges, applied one after another. -/
def mergesInOrder (parameters : SimulationParameters) :
    List (SessionEvent Chain) → Except ChainError SimulationParameters
  | [] => .ok parameters
  | .replaced _ _ _ (.merge _ request random) :: rest => do
      let merged ← applyUpdate service.numerics service.limits parameters request random
      mergesInOrder merged rest
  | _ :: rest => mergesInOrder parameters rest

/-- The stored parameters are the initial ones with every merge saved since then applied to
them in order, and every PATCH that was answered with success is among those. -/
structure Merged (id : Uuid) (initial : SimulationParameters)
    (before config : SessionConfig Chain) : Prop where
  stored : ∃ session new, config.shared.sessions.get? id = some session ∧
    config.shared.events = before.shared.events ++ new ∧
    mergesInOrder service initial new = .ok session.parameters
  answered : ∀ {call session}, before.calls call = .idle →
    config.calls call = .active (.done (.ok (.replaced session))) →
    ∃ stored change, .replaced call stored session change ∈ config.shared.events ∧
      .replaced call stored session change ∉ before.shared.events

/-- A PATCH that saves was merged into parameters that agree with the stored ones
wherever it says nothing. -/
def MergesIntoStored : SessionConfig Chain → SessionAction → Prop
  | config, .call call (.proceed _) =>
      ∀ session expectedVersion base request random,
        config.calls call =
            .active (.storing session expectedVersion (.merge base request random)) →
        ∀ stored, config.shared.sessions.get? session.id = some stored →
          stored.version = expectedVersion → request.AgreeElsewhere base stored.parameters
  | _, _ => True

/-- Nothing but PATCHes of one session arrives. -/
def Patches (id : Uuid) : SessionAction → Prop
  | .call _ (.request request) => ∃ body, request = .update id body
  | _ => True

/-- No call is under way. -/
def Quiet (config : SessionConfig Chain) : Prop :=
  ∀ call stage, config.calls call = .active stage → ∃ response, stage = .done response

end Statement

section Runs

variable {Chain : Type} {service : SessionService Chain} {id : Uuid}
  {initial : SimulationParameters} {before config next last : SessionConfig Chain}
  {action : SessionAction}
  {manager after : SessionManager Chain} {stage nextStage : SessionStage Chain}
  {call : Nat} {moment : SessionMoment} {parameters : SimulationParameters}

theorem answered_of_backed {session : Session}
    (backedBefore : Protocol.Holds SessionFacts SessionCall.Backed before)
    (backed : Protocol.Holds SessionFacts SessionCall.Backed config)
    (idle : before.calls call = .idle)
    (answered : config.calls call = .active (.done (.ok (.replaced session)))) :
    ∃ stored change, .replaced call stored session change ∈ config.shared.events ∧
      .replaced call stored session change ∉ before.shared.events := by
  obtain ⟨stored, change, recorded⟩ := ((backed.own call).active answered).2
  refine ⟨stored, change, recorded, fun earlier => ?_⟩
  exact (backedBefore.own call).idle idle _ earlier rfl

/-- A change that gives these parameters is the merge of a PATCH. -/
def Change.Gives (service : SessionService Chain) (parameters : SimulationParameters) :
    Change → Prop
  | .merge base request random =>
      applyUpdate service.numerics service.limits base request random = .ok parameters
  | .whole => False

def SessionStage.Patching (service : SessionService Chain) (id : Uuid) :
    SessionStage Chain → Prop
  | .merging other _ => other = id
  | .replacing other parameters change => other = id ∧ change.Gives service parameters
  | .storing session _ change => session.id = id ∧ change.Gives service session.parameters
  | .done _ => True
  | _ => False

theorem mergesInOrder_append {new more : List (SessionEvent Chain)} :
    mergesInOrder service initial (new ++ more) =
      (mergesInOrder service initial new >>= fun merged => mergesInOrder service merged more) := by
  induction new generalizing initial with
  | nil => rfl
  | cons event new ih =>
      cases event with
      | advanced call stored chain => exact ih
      | replaced call stored session change =>
          cases change with
          | whole => exact ih
          | merge base request random =>
              simp only [List.cons_append, mergesInOrder, ih, bind_assoc]

structure PatchFacts (service : SessionService Chain) (id : Uuid)
    (config : SessionConfig Chain) : Prop where
  backed : Protocol.Holds SessionFacts SessionCall.Backed config
  patching : ∀ {call stage}, config.calls call = .active stage → stage.Patching service id

theorem patching_of_sessionStep (facts : SessionFacts manager)
    (patching : stage.Patching service id)
    (stepped : SessionStep service call moment manager stage after nextStage) :
    nextStage.Patching service id ∧
      ((after.sessions = manager.sessions ∧ after.events = manager.events ∧
          ∀ session expectedVersion change,
            stage = .storing session expectedVersion change →
              ∀ stored, manager.sessions.get? session.id = some stored →
                stored.version ≠ expectedVersion) ∨
        ∃ session change stored, stage = .storing session stored.version change ∧
          manager.sessions.get? id = some stored ∧
          change.Gives service session.parameters ∧
          after.sessions = manager.sessions.insert id session ∧
          after.events = manager.events ++ [.replaced call stored session change]) := by
  cases stepped with
  | merge merged =>
      exact ⟨⟨patching, (merge_eq_ok.mp merged).2⟩,
        .inl ⟨rfl, rfl, fun _ _ _ storing => by cases storing⟩⟩
  | refuseMerge | refuseReplace =>
      exact ⟨trivial, .inl ⟨rfl, rfl, fun _ _ _ storing => by cases storing⟩⟩
  | replace found =>
      obtain ⟨stored, held, replaced, -⟩ := readToReplace_eq_ok.mp found
      obtain ⟨-, rfl⟩ := Session.replaced_eq_ok.mp replaced
      obtain ⟨same, gives⟩ := patching
      exact ⟨⟨(facts.named held).trans same, gives⟩,
        .inl ⟨rfl, rfl, fun _ _ _ storing => by cases storing⟩⟩
  | @change session expectedVersion change after saved =>
      obtain ⟨stored, held, rfl, rfl⟩ := change_eq_ok_cases saved
      obtain ⟨named, gives⟩ := patching
      rw [named] at held
      refine ⟨trivial, .inr ⟨session, change, stored, rfl, held, gives, ?_, rfl⟩⟩
      rw [named]
  | refuseChange failed =>
      refine ⟨trivial, .inl
        ⟨rfl, rfl, fun session expectedVersion change storing stored held => ?_⟩⟩
      cases storing
      exact version_ne_of_change failed held
  | create | refuseCreate | check | mismatch | missCheck | read | refuseRead | renew | begin |
      reuse | build | refuseBuild | file | hit | missHit | commit | lose | delete | cleanup |
      remove => exact patching.elim

/-- Saving what was merged into other parameters adds the merge to the stored ones
exactly where the two agree wherever the request says nothing. -/
theorem Merged.change_iff {session stored : Session} {base : SimulationParameters}
    {request : UpdateSessionRequest} {random : Nat}
    (backedBefore : Protocol.Holds SessionFacts SessionCall.Backed before)
    (merged : Merged service id initial before config)
    (held : config.shared.sessions.get? id = some stored)
    (gives : applyUpdate service.numerics service.limits base request random =
      .ok session.parameters)
    (sessions : next.shared.sessions = config.shared.sessions.insert id session)
    (events : next.shared.events =
      config.shared.events ++ [.replaced call stored session (.merge base request random)])
    (backed : Protocol.Holds SessionFacts SessionCall.Backed next) :
    Merged service id initial before next ↔ request.AgreeElsewhere base stored.parameters := by
  obtain ⟨_, new, heldAgain, history, applied⟩ := merged.stored
  rw [held] at heldAgain
  cases heldAgain
  obtain ⟨other, again⟩ := applyUpdate_total gives stored.parameters
  have extended : mergesInOrder service initial
      (new ++ [.replaced call stored session (.merge base request random)]) = .ok other := by
    rw [mergesInOrder_append, applied]
    simp only [mergesInOrder, bind, Except.bind, again]
  rw [← applyUpdate_agree gives again]
  constructor
  · intro mergedNext
    obtain ⟨_, newNext, heldNext, historyNext, appliedNext⟩ := mergedNext.stored
    rw [sessions, OrderedMap.get?_insert, Function.update_self] at heldNext
    cases heldNext
    rw [events, history, List.append_assoc] at historyNext
    rw [← List.append_cancel_left historyNext, extended] at appliedNext
    cases appliedNext
    rfl
  · intro same
    refine ⟨⟨session, _, ?_, ?_, same ▸ extended⟩, answered_of_backed backedBefore backed⟩
    · rw [sessions, OrderedMap.get?_insert, Function.update_self]
    · rw [events, history, List.append_assoc]

theorem patching_of_step
    (backedBefore : Protocol.Holds SessionFacts SessionCall.Backed before)
    (facts : PatchFacts service id config) (patches : Patches id action)
    (merged : Merged service id initial before config)
    (stepped : (sessionCalls service).step config action = some next) :
    PatchFacts service id next ∧
      (Merged service id initial before next ↔ MergesIntoStored config action) := by
  have backed := sessions_free.preserved facts.backed atCall_unguarded stepped
  cases action with
  | background input => cases input
  | call index input =>
      obtain ⟨after, phase, moved, rfl⟩ := step_call_eq_some.mp stepped
      have patching : (∀ stage, phase = .active stage → stage.Patching service id) →
          ∀ {other stage}, Function.update config.calls index phase other = .active stage →
            stage.Patching service id :=
        fun own {_ _} running => active_of_update own facts.patching running
      have kept : after.sessions = config.shared.sessions → after.events = config.shared.events →
          Merged service id initial before ⟨after, Function.update config.calls index phase⟩ := by
        intro sessions events
        obtain ⟨session, new, held, history, applied⟩ := merged.stored
        exact ⟨⟨session, new, by rw [sessions]; exact held, by rw [events]; exact history, applied⟩,
          answered_of_backed backedBefore backed⟩
      obtain ⟨request, rfl, -, rfl, rfl⟩ | ⟨moment, stage, nextStage, rfl, active, rfl, proceeded⟩ |
        ⟨stage, rfl, active, -, rfl, rfl⟩ := staged_cases moved
      · obtain ⟨body, rfl⟩ := patches
        refine ⟨⟨backed, patching fun stage running => ?_⟩,
          iff_of_true (kept rfl rfl) trivial⟩
        cases running
        rfl
      · obtain ⟨nextPatching, effect⟩ := patching_of_sessionStep facts.backed.shared
          (facts.patching active) (sessionStep_of_proceed proceeded)
        refine ⟨⟨backed, patching fun stage running => ?_⟩, ?_⟩
        · cases running
          exact nextPatching
        · obtain ⟨sessions, events, lost⟩ |
            ⟨session, change, stored, rfl, held, gives, sessions, events⟩ := effect
          · refine iff_of_true (kept sessions events) ?_
            intro session expectedVersion base request random storing stored held current
            rw [active] at storing
            cases storing
            exact absurd current (lost _ _ _ rfl stored held)
          · cases change with
            | whole => exact gives.elim
            | merge base request random =>
                rw [merged.change_iff backedBefore held gives sessions events backed]
                have named : session.id = id := (facts.patching active).1
                constructor
                · intro agree _ _ _ _ _ storing other heldAgain _
                  rw [active] at storing
                  cases storing
                  rw [named, held] at heldAgain
                  cases heldAgain
                  exact agree
                · intro merges
                  exact merges session _ base request random active stored (named ▸ held) rfl
      · exact ⟨⟨backed, patching fun stage running => by cases running⟩,
          iff_of_true (kept rfl rfl) trivial⟩

end Runs

/-! Two PATCHes of one session: of its symbol and of its seed. -/

def untouched : UpdateSessionRequest where
  symbol := none
  steps := none
  initialPrice := none
  daysToExpiration := none
  volatility := none
  riskFreeRate := none
  dividendYield := none
  method := none
  timeFrame := none
  chainSize := .absent
  strikeInterval := .absent
  skewSlope := .absent
  smileCurve := .absent
  spread := .absent
  seed := .absent

def newSymbol : SessionRequest := .update someId { untouched with symbol := some "NDX" }

def newSeed : SessionRequest := .update someId { untouched with seed := .value 2 }

def creating : List SessionAction := sessionCall 0 (.create (seededParameters 1)) 1

def patchingInTurn : List SessionAction := sessionCall 1 newSymbol 3 ++ sessionCall 2 newSeed 3

/-- The second one reads what it merges into before the first one saves. -/
def patchingAcross : List SessionAction :=
  sessionCall 2 newSeed 1 ++ sessionCall 1 newSymbol 3 ++ sessionSections 2 2

/-- Whether a PATCH saves into the parameters it read. -/
def savesIntoBase (config : SessionConfig Nat) : SessionAction → Bool
  | .call call (.proceed _) =>
      match config.calls call with
      | .active (.storing session _ (.merge base _ _)) =>
          (config.shared.sessions.get? session.id).all fun stored => stored.parameters = base
      | _ => true
  | _ => true

theorem mergesIntoStored_of_savesIntoBase (config : SessionConfig Nat) (action : SessionAction)
    (allowed : savesIntoBase config action) : MergesIntoStored config action := by
  cases action with
  | background input => cases input
  | call call input =>
      cases input with
      | request | drop => trivial
      | proceed moment =>
          intro session expectedVersion base request random storing stored held _
          simp only [savesIntoBase, storing, held, Option.all_some, decide_eq_true_eq] at allowed
          rw [allowed]
          exact .refl request base

section Theorem

variable {Chain : Type} {service : SessionService Chain} {id : Uuid}
  {config last : SessionConfig Chain}

/-- Whatever PATCHes of a session interleave, its parameters are throughout the initial
ones with the saved merges applied in order exactly where every saved merge was made into
parameters that agree with those it replaces wherever its request says nothing. -/
theorem mergedThroughout_iff {session : Session} {earlier actions : List SessionAction}
    (reached : (sessionCalls service).run ((sessionCalls service).start .empty) earlier =
      some config)
    (quiet : Quiet config) (held : config.shared.sessions.get? id = some session)
    (patches : ∀ action ∈ actions, Patches id action)
    (ran : (sessionCalls service).run config actions = some last) :
    (∀ done rest later, actions = done ++ rest →
        (sessionCalls service).run config done = some later →
        Merged service id session.parameters config later) ↔
      (sessionCalls service).Meets MergesIntoStored config actions := by
  have backed := sessionFacts_of_run reached
  refine holds_throughout_iff (patching_of_step backed) ⟨backed, fun running => ?_⟩
    ⟨⟨session, [], held, (List.append_nil _).symm, rfl⟩, answered_of_backed backed backed⟩
    patches ran
  obtain ⟨response, rfl⟩ := quiet _ _ running
  trivial

end Theorem

def answered {Chain : Type} : SessionCall Chain → Bool
  | .active (.done _) => true
  | _ => false

theorem quiet_of_creating {config : SessionConfig Nat}
    (ran : seededCalls.run noSessions creating = some config) : Quiet config := by
  intro call stage running
  by_cases first : call = 0
  · subst first
    have done : (seededCalls.run noSessions creating).all (fun config =>
        answered (config.calls 0)) = true := by
      decide +kernel
    rw [ran, Option.all_some, running] at done
    cases stage with
    | done response => exact ⟨response, rfl⟩
    | creating | checking | reading | probing | building | filing | hitting | saving | merging |
        replacing | storing | deleting | cleaning | removing => cases done
  · have idle : config.calls call = noSessions.calls call := calls_of_run (by
      simp [creating, sessionCall, sessionSections, first]) ran
    rw [idle] at running
    cases running

theorem mergedThroughout_iff_inTurn :
    ∃ config session last, seededCalls.run noSessions creating = some config ∧
      config.shared.sessions.get? someId = some session ∧
      seededCalls.run config patchingInTurn = some last ∧
      Merged seededService someId session.parameters config last := by
  have computed : (seededCalls.run noSessions creating).any (fun config =>
      (config.shared.sessions.get? someId).isSome &&
        (seededCalls.run config patchingInTurn).isSome &&
        seededCalls.checks savesIntoBase config patchingInTurn) = true := by
    decide +kernel
  obtain ⟨config, created, computed⟩ := (Option.any_eq_true _ _).mp computed
  obtain ⟨found, checked⟩ := Bool.and_eq_true_iff.mp computed
  obtain ⟨held, ran⟩ := Bool.and_eq_true_iff.mp found
  obtain ⟨session, held⟩ := Option.isSome_iff_exists.mp held
  obtain ⟨last, ran⟩ := Option.isSome_iff_exists.mp ran
  have patches : ∀ action ∈ patchingInTurn, Patches someId action := by
    simp [patchingInTurn, sessionCall, sessionSections, newSymbol, newSeed, Patches]
  have throughout := (mergedThroughout_iff created (quiet_of_creating created) held patches ran).mpr
    (meets_of_checks mergesIntoStored_of_savesIntoBase checked)
  exact ⟨config, session, last, created, held, ran,
    throughout patchingInTurn [] last (List.append_nil _).symm ran⟩

def replaced? {Chain : Type} : SessionCall Chain → Option Session
  | .active (.done (.ok (.replaced session))) => some session
  | _ => none

/-- Both PATCHes succeed, and the new symbol is lost. -/
theorem patchingAcross_loses_merge :
    ∃ config session last, seededCalls.run noSessions creating = some config ∧
      config.shared.sessions.get? someId = some session ∧
      seededCalls.run config patchingAcross = some last ∧
      ((replaced? (last.calls 1)).isSome ∧ (replaced? (last.calls 2)).isSome) ∧
      ¬ Merged seededService someId session.parameters config last := by
  have computed : (seededCalls.run noSessions creating).any (fun config =>
      (config.shared.sessions.get? someId).any fun session =>
        (seededCalls.run config patchingAcross).any fun last =>
          ((replaced? (last.calls 1)).isSome && (replaced? (last.calls 2)).isSome) &&
            (last.shared.sessions.get? someId).all fun stored =>
              mergesInOrder seededService session.parameters
                (last.shared.events.drop config.shared.events.length) ≠
                  .ok stored.parameters) = true := by
    decide +kernel
  obtain ⟨config, created, computed⟩ := (Option.any_eq_true _ _).mp computed
  obtain ⟨session, held, computed⟩ := (Option.any_eq_true _ _).mp computed
  obtain ⟨last, ran, computed⟩ := (Option.any_eq_true _ _).mp computed
  obtain ⟨answered, lost⟩ := Bool.and_eq_true_iff.mp computed
  refine ⟨config, session, last, created, held, ran, Bool.and_eq_true_iff.mp answered, ?_⟩
  intro merged
  obtain ⟨stored, new, found, history, applied⟩ := merged.stored
  rw [found, Option.all_some, history, List.drop_left] at lost
  exact of_decide_eq_true lost applied

end OptionChainSimulator.Session
