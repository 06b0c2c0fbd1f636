import Mathlib.Tactic
import OptionChainSimulator.Session.ExactlyOnce

namespace OptionChainSimulator.Session

open Foundation Foundation.Protocol Utils Domain

/-! The manager against one that caches nothing: it builds the tape and the snapshot
anew for every peek and advance. -/

section Reference

variable {Chain : Type} (runtime : Runtime Chain) {store : SimulationStore}

/-- The sections of the manager that caches nothing. -/
def Ledger.serve (call : Nat) (moment : Moment) (ledger : Ledger store) :
    Stage Chain → Option (Ledger store × Stage Chain)
  | .looking route simulation =>
      match runtime.freshSnapshot simulation.parameters simulation.currentStep with
      | .ok snapshot => some (ledger, route.served simulation snapshot)
      | .error fault => some (ledger, .done (.error fault))
  | .evictingTapes _ answer => some (ledger, .done (.ok answer))
  | stage => ledger.proceed call moment stage

def Ledger.tick : SimulationTick → Ledger store → Option (Ledger store)
  | .elapse milliseconds, ledger =>
      some { ledger with documents := store.elapse milliseconds ledger.documents }
  | _, _ => none

def cacheFreeCalls (store : SimulationStore) :
    Protocol (Ledger store) (SimulationCall Chain) SimulationInput SimulationTick :=
  simulationCalls (Ledger.serve runtime) Ledger.tick

end Reference

section Simulation

variable {Chain : Type} {runtime : Runtime Chain} {store : SimulationStore}

/-- Equal, or the same failed build, told as an internal error by a shared one. -/
def SameResponse (response reference : Response Chain) : Prop :=
  response = reference ∨
    ∃ e, reference = .error (.error e) ∧ response = .error (.error (.internal e.toString))

/-- The stages before anything is answered and outside a tape's build. -/
def Stage.plain : Stage Chain → Bool
  | .fetching .. | .evictingTapes .. | .evictingSnapshots .. | .done _ => false
  | _ => true

/-- Where the manager that caches nothing stands when the other one stands at a stage. -/
inductive Stage.Mirrors : Stage Chain → Stage Chain → Prop where
  | same {stage : Stage Chain} (plain : stage.plain) : Mirrors stage stage
  | fetching {route : Route} {simulation : SessionV2} {tape : TapeStage} :
      Mirrors (.fetching route simulation tape) (.looking route simulation)
  | evictingTapes {ids left : List Uuid} {answer : Answer Chain} :
      Mirrors (.evictingTapes ids answer) (.evictingTapes left answer)
  | evictingSnapshots {id : Uuid} {rest left : List Uuid} {answer : Answer Chain} :
      Mirrors (.evictingSnapshots id rest answer) (.evictingTapes left answer)
  | done {response reference : Response Chain} (same : SameResponse response reference) :
      Mirrors (.done response) (.done reference)

inductive SimulationCall.Mirrors : SimulationCall Chain → SimulationCall Chain → Prop where
  | idle : Mirrors .idle .idle
  | active {stage reference : Stage Chain} (stages : stage.Mirrors reference) :
      Mirrors (.active stage) (.active reference)
  | dropped {reference : SimulationCall Chain} : Mirrors .dropped reference

/-- The same store, and every call where its counterpart is. -/
structure MirroredBy (atomic : store.Atomic runtime.service)
    (config : SimulationConfig Chain store) (model : Config (Ledger store) (SimulationCall Chain)) :
    Prop where
  backed : Backed atomic config
  ledger : model.shared = config.shared.ledger
  calls : ∀ call, (config.calls call).Mirrors (model.calls call)

variable {atomic : store.Atomic runtime.service} {before after : Manager Chain store}
  {call : Nat} {moment : Moment} {stage next reference : Stage Chain}

theorem mirrors_served {route : Route} {simulation : SessionV2}
    {snapshot : SeriesSnapshot Chain} :
    (route.served simulation snapshot).Mirrors (route.served simulation snapshot) := by
  cases route with
  | peek => exact .done (.inl rfl)
  | advance => exact .same rfl

theorem mirrors_of_proceed {ledger changed : Ledger store}
    (moved : ledger.proceed call moment stage = some (changed, next)) : next.Mirrors next := by
  cases ledgerStep_of_proceed moved with
  | check | read => exact .same rfl
  | delete | cleanup => exact .evictingTapes
  | commit =>
      unfold committed
      split_ifs
      · exact .evictingTapes
      · exact .done (.inl rfl)
  | create | refuseCreate | get | missGet | mismatch | missCheck | refuseRead | lose =>
      exact .done (.inl rfl)

theorem serve_of_proceed {ledger changed : Ledger store}
    (moved : ledger.proceed call moment stage = some (changed, next)) :
    ledger.serve runtime call moment stage = some (changed, next) := by
  cases stage with
  | looking | evictingTapes => cases moved
  | creating | getting | checking | reading | fetching | saving | deleting | cleaning |
      evictingSnapshots | done => exact moved

theorem eq_of_mirrors {ledger changed : Ledger store} (mirrors : stage.Mirrors reference)
    (moved : ledger.proceed call moment stage = some (changed, next)) : reference = stage := by
  cases mirrors with
  | same => rfl
  | fetching | evictingTapes | evictingSnapshots | done => cases moved

theorem serve_of_fresh {ledger : Ledger store} {route : Route} {simulation : SessionV2}
    {snapshot : SeriesSnapshot Chain}
    (built : runtime.freshSnapshot simulation.parameters simulation.currentStep = .ok snapshot) :
    ledger.serve runtime call moment (.looking route simulation) =
      some (ledger, route.served simulation snapshot) := by
  simp only [Ledger.serve, built]

theorem serve_of_failed {ledger : Ledger store} {route : Route} {simulation : SessionV2}
    {fault : Fault}
    (failed : runtime.freshSnapshot simulation.parameters simulation.currentStep =
      .error fault) :
    ledger.serve runtime call moment (.looking route simulation) =
      some (ledger, .done (.error fault)) := by
  simp only [Ledger.serve, failed]

theorem sameResponse_of_delivered {parameters : SimulationParametersV2} {e : ChainError}
    {step : Nat} (delivered : Delivered runtime parameters (.error e)) :
    ∃ fault, runtime.freshSnapshot parameters step = .error fault ∧
      SameResponse (.error (.error e) : Response Chain) (.error fault) := by
  obtain built | ⟨cause, built, told⟩ := delivered
  · refine ⟨.error e, ?_, .inl rfl⟩
    rw [Runtime.freshSnapshot, ← built]
    rfl
  · cases told
    refine ⟨.error cause, ?_, .inr ⟨cause, rfl, rfl⟩⟩
    rw [Runtime.freshSnapshot, built]
    rfl

/-- A section with the caches is none of the reference, or the section that builds. -/
theorem mirrored_of_managerStep (facts : ManagerFacts runtime atomic before)
    (backed : stage.Backed runtime before call) (mirrors : stage.Mirrors reference)
    (stepped : ManagerStep runtime call moment before stage after next) :
    (after.ledger = before.ledger ∧ next.Mirrors reference) ∨
      ∃ nextReference,
        before.ledger.serve runtime call moment reference =
          some (after.ledger, nextReference) ∧ next.Mirrors nextReference := by
  cases stepped with
  | ledger moved =>
      rw [eq_of_mirrors mirrors moved]
      exact .inr ⟨next, serve_of_proceed moved, mirrors_of_proceed moved⟩
  | hit found =>
      obtain ⟨⟨parameters, owned, built⟩, -⟩ := facts.snapshots.get found
      obtain ⟨-, known, -⟩ := backed
      rw [known.owned] at owned
      cases owned
      cases mirrors
      exact .inr ⟨_, serve_of_fresh built, mirrors_served⟩
  | miss =>
      cases mirrors
      exact .inl ⟨rfl, .fetching⟩
  | fetch stepped =>
      cases mirrors with
      | same impossible => cases impossible
      | fetching => exact .inl ⟨rfl, .fetching⟩
  | refuseTape =>
      obtain ⟨fault, failed, same⟩ := sameResponse_of_delivered backed.1
      cases mirrors with
      | same impossible => cases impossible
      | fetching => exact .inr ⟨_, serve_of_failed failed, .done same⟩
  | price built =>
      have fresh := freshSnapshot_eq_ok.mpr ⟨_, tape_of_delivered backed.1, built⟩
      cases mirrors with
      | same impossible => cases impossible
      | fetching => exact .inr ⟨_, serve_of_fresh fresh, mirrors_served⟩
  | @refusePrice _ simulation tape fault failed =>
      have fresh : runtime.freshSnapshot simulation.parameters simulation.currentStep =
          .error fault := by
        rw [Runtime.freshSnapshot, tape_of_delivered backed.1]
        exact failed
      cases mirrors with
      | same impossible => cases impossible
      | fetching => exact .inr ⟨_, serve_of_failed fresh, .done (.inl rfl)⟩
  | evicted =>
      cases mirrors with
      | same impossible => cases impossible
      | evictingTapes => exact .inr ⟨_, rfl, .done (.inl rfl)⟩
  | evictTape =>
      cases mirrors with
      | same impossible => cases impossible
      | evictingTapes => exact .inl ⟨rfl, .evictingSnapshots⟩
  | evictSnapshots =>
      cases mirrors with
      | same impossible => cases impossible
      | evictingSnapshots => exact .inl ⟨rfl, .evictingTapes⟩

variable {config next : SimulationConfig Chain store}
  {model nextModel : Config (Ledger store) (SimulationCall Chain)} {action : SimulationAction}

theorem mirrors_update (call : Nat) {phase reference : SimulationCall Chain}
    (calls : ∀ call, (config.calls call).Mirrors (model.calls call))
    (moved : phase.Mirrors reference) (other : Nat) :
    (Function.update config.calls call phase other).Mirrors
      (Function.update model.calls call reference other) := by
  by_cases same : other = call
  · subst same
    simpa only [Function.update_self] using moved
  · simpa only [Function.update_of_ne same] using calls other

theorem mirrors_silent {phase : SimulationCall Chain}
    (calls : ∀ call, (config.calls call).Mirrors (model.calls call))
    (moved : phase.Mirrors (model.calls call)) (other : Nat) :
    (Function.update config.calls call phase other).Mirrors (model.calls other) := by
  have unchanged := mirrors_update call calls moved other
  rwa [Function.update_eq_self] at unchanged

theorem mirrored_of_call {input : SimulationInput} {index : Nat}
    (mirrored : MirroredBy atomic config model)
    (stepped : (managerCalls runtime store).step config (.call index input) = some next) :
    MirroredBy atomic next model ∨
      ∃ nextModel, (cacheFreeCalls runtime store).step model (.call index input) =
        some nextModel ∧ MirroredBy atomic next nextModel := by
  have backedNext := backed_free.preserved mirrored.backed atCall_unguarded stepped
  obtain ⟨after, phase, moved, rfl⟩ := step_call_eq_some.mp stepped
  have mirrors := mirrored.calls index
  obtain ⟨request, rfl, quiet, rfl, rfl⟩ | ⟨moment, stage, nextStage, rfl, active, rfl, proceeded⟩ |
    ⟨stage, rfl, active, -, rfl, rfl⟩ := staged_cases moved
  · rw [quiet] at mirrors
    generalize idle : model.calls index = reference at mirrors
    cases mirrors
    refine .inr ⟨⟨model.shared, Function.update model.calls index (.active request.stage)⟩,
      step_call_eq_some.mpr ⟨_, _, by rw [idle]; rfl, rfl⟩,
      ⟨backedNext, mirrored.ledger, mirrors_update index mirrored.calls (.active ?_)⟩⟩
    cases request with
    | advance id expectedStep => cases expectedStep <;> exact .same rfl
    | create | get | peek | delete | cleanup => exact .same rfl
  · have backed := (mirrored.backed.own index).active active
    rw [active] at mirrors
    generalize held : model.calls index = reference at mirrors
    cases mirrors with
    | @active _ reference mirrors =>
        obtain ⟨same, silent⟩ | ⟨nextReference, served, mirrorsNext⟩ :=
          mirrored_of_managerStep mirrored.backed.shared backed mirrors
            (managerStep_of_proceed proceeded)
        · refine .inl ⟨backedNext, mirrored.ledger.trans same.symm, ?_⟩
          exact mirrors_silent mirrored.calls (held ▸ .active silent)
        · refine .inr ⟨⟨after.ledger, Function.update model.calls index (.active nextReference)⟩,
            step_call_eq_some.mpr ⟨_, _, ?_, rfl⟩,
            ⟨backedNext, rfl, mirrors_update index mirrored.calls (.active mirrorsNext)⟩⟩
          simp only [cacheFreeCalls, simulationCalls, staged, held, mirrored.ledger, served,
            Option.map_some]
  · exact .inl ⟨backedNext, mirrored.ledger, mirrors_silent mirrored.calls .dropped⟩

theorem mirrored_of_tick {tick : SimulationTick} (mirrored : MirroredBy atomic config model)
    (stepped : (managerCalls runtime store).step config (.background tick) = some next) :
    MirroredBy atomic next model ∨
      ∃ nextModel, (cacheFreeCalls runtime store).step model (.background tick) =
        some nextModel ∧ MirroredBy atomic next nextModel := by
  have backedNext := backed_free.preserved mirrored.backed atCall_unguarded stepped
  obtain ⟨after, ticked, rfl⟩ := step_background_eq_some.mp stepped
  cases tick with
  | runTask call now =>
      obtain ⟨tapes, -, rfl⟩ := Option.map_eq_some_iff.mp ticked
      exact .inl ⟨backedNext, mirrored.ledger, mirrored.calls⟩
  | evictTape id =>
      cases ticked
      exact .inl ⟨backedNext, mirrored.ledger, mirrored.calls⟩
  | evictSnapshot id step =>
      cases ticked
      exact .inl ⟨backedNext, mirrored.ledger, mirrored.calls⟩
  | elapse milliseconds =>
      cases ticked
      exact .inr ⟨_, step_background_eq_some.mpr ⟨_, rfl, rfl⟩,
        ⟨backedNext, by rw [mirrored.ledger], mirrored.calls⟩⟩

end Simulation

section Statement

variable {Chain : Type} (runtime : Runtime Chain) {store : SimulationStore}

/-- Every snapshot answered is the one built anew, and every call answered what the
manager that caches nothing answers. -/
structure AsIfUncached (config : SimulationConfig Chain store)
    (model : Config (Ledger store) (SimulationCall Chain)) : Prop where
  peeked : ∀ {call simulation snapshot},
    config.calls call = .active (.done (.ok (.peeked simulation snapshot))) →
    config.shared.ledger.created simulation.id = some simulation.parameters ∧
      runtime.freshSnapshot simulation.parameters simulation.currentStep = .ok snapshot
  advanced : ∀ {call simulation snapshot},
    config.calls call = .active (.done (.ok (.advanced simulation snapshot))) →
    config.shared.ledger.created simulation.id = some simulation.parameters ∧
      ∃ step, simulation.currentStep = step + 1 ∧
        runtime.freshSnapshot simulation.parameters step = .ok snapshot
  ledger : model.shared = config.shared.ledger
  responses : ∀ {call response}, config.calls call = .active (.done response) →
    ∃ reference, model.calls call = .active (.done reference) ∧ SameResponse response reference

end Statement

theorem asIfUncached_of_mirrored {Chain : Type} {runtime : Runtime Chain}
    {store : SimulationStore} {atomic : store.Atomic runtime.service}
    {config : SimulationConfig Chain store}
    {model : Config (Ledger store) (SimulationCall Chain)}
    (mirrored : MirroredBy atomic config model) : AsIfUncached runtime config model where
  peeked {call simulation snapshot} done := by
    obtain ⟨known, built⟩ := (mirrored.backed.own call).active done
    exact ⟨known.owned, built⟩
  advanced {call simulation snapshot} done := by
    obtain ⟨known, step, moved, built, -⟩ := (mirrored.backed.own call).active done
    exact ⟨known.owned, step, moved, built⟩
  ledger := mirrored.ledger
  responses {call response} done := by
    have mirrors := mirrored.calls call
    rw [done] at mirrors
    generalize held : model.calls call = reference at mirrors
    cases mirrors with
    | active stages =>
        cases stages with
        | same impossible => cases impossible
        | done same => exact ⟨_, rfl, same⟩

/-- In every run of a manager, over either store, the answers are those of some run of
the manager that caches nothing, given the same calls in the same order. -/
theorem asIfUncached {Chain : Type} {runtime : Runtime Chain} (backend : Backend)
    {actions : List SimulationAction}
    {last : SimulationConfig Chain (backend.store runtime.service)}
    (ran : (managerCalls runtime _).run ((managerCalls runtime _).start (.new runtime _)) actions =
      some last) :
    ∃ kept model, List.Sublist kept actions ∧
      (cacheFreeCalls runtime (backend.store runtime.service)).run
        ((cacheFreeCalls runtime _).start .empty) kept = some model ∧
      AsIfUncached runtime last model := by
  have starts : MirroredBy (backend.atomic runtime.service)
      ((managerCalls runtime _).start (.new runtime _))
      ((cacheFreeCalls runtime _).start .empty) := ⟨start_backed, rfl, fun _ => .idle⟩
  obtain ⟨kept, model, within, modelRan, mirrored⟩ := simulated_run
    (fun {config action next model} mirrored stepped => by
      cases action with
      | call index input => exact mirrored_of_call mirrored stepped
      | background tick => exact mirrored_of_tick mirrored stepped) starts ran
  exact ⟨kept, model, within, modelRan, asIfUncached_of_mirrored mirrored⟩

theorem asIfUncached_completing : ∃ last, memoryCalls.run emptyMemory completing = some last ∧
    ∃ kept model, List.Sublist kept completing ∧
      (cacheFreeCalls flatRuntime (memoryBackend.store utcService)).run
        ((cacheFreeCalls flatRuntime _).start .empty) kept = some model ∧
      AsIfUncached flatRuntime last model := by
  obtain ⟨last, ran⟩ := Option.isSome_iff_exists.mp
    (by decide +kernel : (memoryCalls.run emptyMemory completing).isSome)
  exact ⟨last, ran, asIfUncached memoryBackend ran⟩

end OptionChainSimulator.Session
