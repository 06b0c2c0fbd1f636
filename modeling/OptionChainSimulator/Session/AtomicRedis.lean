import Mathlib.Tactic
import OptionChainSimulator.Session.RevisionKeys

namespace OptionChainSimulator.Session

open Foundation Foundation.Protocol Utils

/-! The Redis store of v1 sessions under the calls that a manager makes: every call takes effect
at one of its commands, as on a store that keeps documents alone and compares their versions. -/

/-- The documents, each with the time until which it lives. -/
structure SessionDocuments where
  clock : Nat
  documents : OrderedMap Uuid (Timed Session)

namespace SessionDocuments

def empty : SessionDocuments := ⟨0, .empty⟩

def session (store : SessionDocuments) : Uuid → Option Session :=
  Keyspace.live store.clock store.documents

def write (ttl : Nat) (store : SessionDocuments) (session : Session) : SessionDocuments :=
  { store with documents := Keyspace.setEx store.clock ttl store.documents session.id session }

/-- A whole call at once. -/
def serve (ttl : Nat) (store : SessionDocuments) :
    RedisRequest → SessionDocuments × Except ChainError RedisAnswer
  | .get id => (store, (okOr (store.session id) (sessionNotFound id)).map .got)
  | .create session =>
      match store.session session.id with
      | some _ =>
          (store, .error (.alreadyExists
            s!"Session with id {session.id.hyphenated} already exists"))
      | none => (store.write ttl session, .ok .written)
  | .save session => (store.write ttl session, .ok .written)
  | .saveCas session expectedVersion =>
      match store.session session.id with
      | none => (store, .error (sessionNotFound session.id))
      | some held =>
          if held.version = expectedVersion then (store.write ttl session, .ok .written)
          else
            (store, .error (.conflict <|
              s!"Session {session.id.hyphenated} was modified concurrently" ++
                s!" (expected version {expectedVersion})"))
  | .delete id =>
      ({ store with documents := store.documents.erase id },
        .ok (.deleted (store.session id).isSome))

end SessionDocuments

/-- The documents of a keyspace. -/
def SessionKeyspace.visible (keyspace : SessionKeyspace) : SessionDocuments :=
  ⟨keyspace.clock, keyspace.documents⟩

@[simp] theorem session_visible (keyspace : SessionKeyspace) :
    keyspace.visible.session = keyspace.session := rfl

inductive AtomicStage where
  | requested (request : RedisRequest)
  | done (response : Except ChainError RedisAnswer)

/-- The calls on the documents, each served in one section. -/
def atomicCalls (ttl : Nat) :
    Protocol SessionDocuments (StagedCall AtomicStage) (StagedInput RedisRequest Unit) Nat :=
  staged .requested (fun _ => false)
    (fun _ _ store stage =>
      match stage with
      | .requested request =>
          some ((store.serve ttl request).1, .done (store.serve ttl request).2)
      | .done _ => none)
    fun milliseconds store => some { store with clock := store.clock + milliseconds }

section Discipline

/-- The id whose keys a call in flight may still change. -/
def RedisStage.writes : RedisStage → Option Uuid
  | .creating session | .seeding session | .saving session | .syncing session
  | .swapping session _ => some session.id
  | .deleting id | .dropping id _ => some id
  | .getting _ | .done _ => none

def RedisStage.creates : RedisStage → Option Uuid
  | .creating session | .seeding session => some session.id
  | _ => none

def RedisStage.saves : RedisStage → Bool
  | .saving _ | .syncing _ => true
  | _ => false

/-- What the manager asks of its store: every creation has a new id, which nobody uses before the
creation has answered, and nothing is saved without a comparison. -/
def AsManager (config : RedisConfig) : RedisAction → Prop
  | .call _ (.request (.create session)) =>
      config.shared.writers session.id = none ∧
        ∀ call stage, config.calls call = .active stage → stage.writes ≠ some session.id
  | .call _ (.request (.saveCas session _)) =>
      ∀ call stage, config.calls call = .active stage → stage.creates ≠ some session.id
  | .call _ (.request (.delete id)) =>
      ∀ call stage, config.calls call = .active stage → stage.creates ≠ some id
  | .call _ (.request (.save _)) => False
  | _ => True

/-- What the calls of a manager leave of each other. -/
structure Managed (config : RedisConfig) : Prop where
  alone : ∀ {call other stage otherStage id}, config.calls call = .active stage →
    stage.creates = some id → config.calls other = .active otherStage →
    otherStage.writes = some id → other = call
  fresh : ∀ {call session}, config.calls call = .active (.creating session) →
    config.shared.writers session.id = none
  seeds : ∀ {call session}, config.calls call = .active (.seeding session) →
    config.shared.writers session.id = some call
  gone : ∀ {call id deleted}, config.calls call = .active (.dropping id deleted) →
    config.shared.documents.get? id = none
  unsaved : ∀ {call stage}, config.calls call = .active stage → stage.saves = false

end Discipline

section Steps

variable {ttl call : Nat} {before after : SessionKeyspace} {stage nextStage : RedisStage}
  {id : Uuid} {config next : RedisConfig} {request : RedisRequest}

open InRedisSessionStore
open InRedisSimulationStore (live_eq_some repr_injective)

theorem writes_of_creates (creates : stage.creates = some id) : stage.writes = some id := by
  cases stage with
  | creating session => exact creates
  | seeding session => exact creates
  | _ => cases creates

theorem writes_of_revision {version : Option Nat}
    (second : stage.revision = some (id, version)) : stage.writes = some id := by
  cases stage with
  | seeding session =>
      cases second
      rfl
  | syncing session =>
      cases second
      rfl
  | dropping id deleted =>
      cases second
      rfl
  | _ => cases second

theorem writes_of_step (stepped : RedisStep ttl call before stage after nextStage)
    (writes : nextStage.writes = some id) : stage.writes = some id := by
  cases stepped with
  | answer => cases writes
  | create => exact writes
  | save => exact writes
  | swap => cases writes
  | delete => exact writes
  | revise => cases writes

theorem creates_of_step (stepped : RedisStep ttl call before stage after nextStage)
    (creates : nextStage.creates = some id) : stage.creates = some id := by
  cases stepped with
  | create => exact creates
  | _ => cases creates

theorem saves_of_step (stepped : RedisStep ttl call before stage after nextStage)
    (unsaved : stage.saves = false) : nextStage.saves = false := by
  cases stepped with
  | save => cases unsaved
  | _ => rfl

theorem sameAt_of_step (stepped : RedisStep ttl call before stage after nextStage)
    (elsewhere : stage.writes ≠ some id) : SameAt id before after := by
  cases stepped with
  | answer => exact ⟨rfl, rfl, rfl, rfl⟩
  | create =>
      apply sameAt_write
      intro same
      exact elsewhere (same ▸ rfl)
  | save =>
      apply sameAt_write
      intro same
      exact elsewhere (same ▸ rfl)
  | @swap session expectedVersion =>
      have different : id ≠ session.id := by
        intro same
        exact elsewhere (same ▸ rfl)
      exact (sameAt_write different).trans (sameAt_revise different)
  | delete =>
      apply sameAt_delete
      intro same
      exact elsewhere (same ▸ rfl)
  | revise second =>
      apply sameAt_revise
      intro same
      exact elsewhere (same ▸ writes_of_revision second)

/-- No command but the first of a creation or of a save brings a document back. -/
theorem stays_gone (moved : proceed ttl call () before stage = some (after, nextStage))
    (uncreated : stage.creates ≠ some id) (unsaved : stage.saves = false)
    (absent : before.documents.get? id = none) : after.documents.get? id = none := by
  by_cases elsewhere : stage.writes = some id
  · cases stage with
    | creating session => exact absurd elsewhere uncreated
    | seeding session => exact absurd elsewhere uncreated
    | saving session => cases unsaved
    | syncing session => cases unsaved
    | swapping session expectedVersion =>
        cases elsewhere
        simp only [proceed] at moved
        split at moved
        next saved =>
          obtain ⟨present, -⟩ := saveCas_eq_ok.mp saved
          obtain ⟨held, live⟩ := Option.isSome_iff_exists.mp present
          obtain ⟨expiresAt, found, -⟩ := live_eq_some.mp live
          rw [absent] at found
          cases found
        next =>
          cases moved
          exact absent
    | deleting touched =>
        cases elsewhere
        cases moved
        simp [SessionKeyspace.delete, OrderedMap.get?_erase]
    | dropping touched deleted =>
        cases moved
        exact absent
    | getting touched => cases elsewhere
    | done response => cases elsewhere
  · rw [(sameAt_of_step (redisStep_of_proceed moved) elsewhere).document]
    exact absent

theorem running_of_update {calls : Nat → RedisCall} {other : Nat} {otherStage : RedisStage}
    (running : Function.update calls call (.active nextStage) other = .active otherStage) :
    other = call ∧ otherStage = nextStage ∨
      other ≠ call ∧ calls other = .active otherStage := by
  by_cases same : other = call
  · subst same
    rw [Function.update_self] at running
    cases running
    exact .inl ⟨rfl, rfl⟩
  · rw [Function.update_of_ne same] at running
    exact .inr ⟨same, running⟩

theorem managed_of_request (managed : Managed config) (idle : config.calls call = .idle)
    (allowed : AsManager config (.call call (.request request))) :
    Managed ⟨config.shared, Function.update config.calls call (.active request.stage)⟩ where
  alone := by
    intro first other stage otherStage id running creates otherRunning writes
    obtain ⟨rfl, rfl⟩ | ⟨apart, ran⟩ := running_of_update running
    · obtain ⟨rfl, rfl⟩ | ⟨otherApart, otherRan⟩ := running_of_update otherRunning
      · rfl
      · cases request with
        | create session =>
            cases creates
            exact absurd writes (allowed.2 other otherStage otherRan)
        | _ => cases creates
    · obtain ⟨rfl, rfl⟩ | ⟨otherApart, otherRan⟩ := running_of_update otherRunning
      · cases request with
        | get id => cases writes
        | create session =>
            cases writes
            exact absurd (writes_of_creates creates) (allowed.2 first stage ran)
        | save session => exact allowed.elim
        | saveCas session expectedVersion =>
            cases writes
            exact absurd creates (allowed first stage ran)
        | delete id =>
            cases writes
            exact absurd creates (allowed first stage ran)
      · exact managed.alone ran creates otherRan writes
  fresh := by
    intro other session running
    obtain ⟨rfl, same⟩ | ⟨apart, ran⟩ := running_of_update running
    · cases request with
      | create created =>
          cases same
          exact allowed.1
      | _ => cases same
    · exact managed.fresh ran
  seeds := by
    intro other session running
    obtain ⟨rfl, same⟩ | ⟨apart, ran⟩ := running_of_update running
    · cases request <;> cases same
    · exact managed.seeds ran
  gone := by
    intro other id deleted running
    obtain ⟨rfl, same⟩ | ⟨apart, ran⟩ := running_of_update running
    · cases request <;> cases same
    · exact managed.gone ran
  unsaved := by
    intro other stage running
    obtain ⟨rfl, rfl⟩ | ⟨apart, ran⟩ := running_of_update running
    · cases request with
      | save session => exact allowed.elim
      | _ => rfl
    · exact managed.unsaved ran

theorem managed_of_proceed (managed : Managed config) (running : config.calls call = .active stage)
    (moved : proceed ttl call () config.shared stage = some (after, nextStage)) :
    Managed ⟨after, Function.update config.calls call (.active nextStage)⟩ where
  alone := by
    have stepped := redisStep_of_proceed moved
    intro first other firstStage otherStage id firstRunning creates otherRunning writes
    obtain ⟨rfl, rfl⟩ | ⟨apart, firstRan⟩ := running_of_update firstRunning
    · obtain ⟨rfl, rfl⟩ | ⟨otherApart, otherRan⟩ := running_of_update otherRunning
      · rfl
      · exact managed.alone running (creates_of_step stepped creates) otherRan writes
    · obtain ⟨rfl, rfl⟩ | ⟨otherApart, otherRan⟩ := running_of_update otherRunning
      · exact managed.alone firstRan creates running (writes_of_step stepped writes)
      · exact managed.alone firstRan creates otherRan writes
  fresh := by
    have stepped := redisStep_of_proceed moved
    intro other session otherRunning
    obtain ⟨rfl, same⟩ | ⟨apart, otherRan⟩ := running_of_update otherRunning
    · subst same
      cases stepped
    · have elsewhere : stage.writes ≠ some session.id := by
        intro writes
        exact apart (managed.alone otherRan rfl running writes).symm
      rw [(sameAt_of_step stepped elsewhere).writer]
      exact managed.fresh otherRan
  seeds := by
    have stepped := redisStep_of_proceed moved
    intro other session otherRunning
    obtain ⟨rfl, same⟩ | ⟨apart, otherRan⟩ := running_of_update otherRunning
    · subst same
      cases stepped
      exact Function.update_self ..
    · have elsewhere : stage.writes ≠ some session.id := by
        intro writes
        exact apart (managed.alone otherRan rfl running writes).symm
      rw [(sameAt_of_step stepped elsewhere).writer]
      exact managed.seeds otherRan
  gone := by
    intro other id deleted otherRunning
    obtain ⟨rfl, same⟩ | ⟨apart, otherRan⟩ := running_of_update otherRunning
    · subst same
      cases redisStep_of_proceed moved
      simp [SessionKeyspace.delete, OrderedMap.get?_erase]
    · apply stays_gone moved _ (managed.unsaved running) (managed.gone otherRan)
      intro creates
      exact apart (managed.alone running creates otherRan rfl)
  unsaved := by
    intro other otherStage otherRunning
    obtain ⟨rfl, rfl⟩ | ⟨apart, otherRan⟩ := running_of_update otherRunning
    · exact saves_of_step (redisStep_of_proceed moved) (managed.unsaved running)
    · exact managed.unsaved otherRan

end Steps

/-- A call of the Redis store beside the same call of the documents, which may have answered
already. -/
inductive RedisStage.Mirrors : RedisStage → AtomicStage → Prop where
  | pending {request : RedisRequest} : Mirrors request.stage (.requested request)
  | seeding {session : Session} : Mirrors (.seeding session) (.done (.ok .written))
  | dropping {id : Uuid} {deleted : Bool} :
      Mirrors (.dropping id deleted) (.done (.ok (.deleted deleted)))
  | done {response : Except ChainError RedisAnswer} : Mirrors (.done response) (.done response)

inductive RedisCall.Mirrors : RedisCall → StagedCall AtomicStage → Prop where
  | idle : Mirrors .idle .idle
  | active {stage : RedisStage} {model : AtomicStage} (stages : stage.Mirrors model) :
      Mirrors (.active stage) (.active model)

section Simulation

variable {ttl call : Nat} {after : SessionKeyspace} {stage nextStage : RedisStage} {id : Uuid}
  {config next last : RedisConfig} {request : RedisRequest} {action : RedisAction}
  {actions : List RedisAction} {store : SessionDocuments}
  {model : Config SessionDocuments (StagedCall AtomicStage)}

open InRedisSessionStore
open InRedisSimulationStore (live_eq_some repr_injective)

structure Atomically (ttl : Nat) (config : RedisConfig)
    (model : Config SessionDocuments (StagedCall AtomicStage)) : Prop where
  facts : ∀ id, RedisFacts ttl config id
  inStep : ∀ id, InStep config id
  managed : Managed config
  shared : model.shared = config.shared.visible
  calls : ∀ call, RedisCall.Mirrors (config.calls call) (model.calls call)

/-- The second command of a creation finds its own document, that of a deletion none. -/
theorem Managed.revisesInStep (managed : Managed config) : RevisesInStep config action := by
  cases action with
  | background milliseconds => trivial
  | call call input =>
      cases input with
      | request request => trivial
      | drop => trivial
      | proceed moment =>
          intro stage id version running second session held written
          cases stage with
          | seeding created =>
              cases second
              obtain ⟨response, done⟩ := written call (managed.seeds running)
              rw [running] at done
              cases done
          | syncing saved => cases managed.unsaved running
          | dropping touched deleted =>
              cases second
              obtain ⟨expiresAt, present, -⟩ := live_eq_some.mp held
              rw [managed.gone running] at present
              cases present
          | _ => cases second

/-- Whoever wrote a document that a call is about to replace has finished. -/
theorem written_of_running (facts : RedisFacts ttl config id) (managed : Managed config)
    (running : config.calls call = .active stage) (writes : stage.writes = some id)
    (uncreated : stage.creates = none) {session : Session}
    (held : config.shared.session id = some session) : Written config id := by
  intro writer wrote
  obtain ⟨expiresAt, present, -⟩ := live_eq_some.mp held
  obtain ⟨written, active, wroteIt⟩ := facts.writer present wrote
  cases written with
  | seeding created =>
      obtain ⟨rfl, -⟩ := wroteIt
      have same := managed.alone active rfl running writes
      rw [same, active] at running
      cases running
      cases uncreated
  | syncing saved => cases managed.unsaved active
  | done response => exact ⟨response, active⟩
  | _ => exact wroteIt.elim

theorem SessionKeyspace.Tells.compares {keyspace : SessionKeyspace} {version expected : Nat}
    (tells : keyspace.Tells id version) :
    (keyspace.revision id).getD "0" = expected.repr ↔ version = expected := by
  have told : (keyspace.revision id).getD "0" = version.repr := by
    cases tells with
    | inl told => rw [told, Option.getD_some]
    | inr untold =>
        rw [untold.1, untold.2]
        rfl
  rw [told]
  exact ⟨fun same => repr_injective same, fun same => congrArg Nat.repr same⟩

/-- The comparison of a revision key is the comparison of the version of its document. -/
theorem serve_swap {session : Session} {expectedVersion : Nat}
    (related : Atomically ttl config model)
    (running : config.calls call = .active (.swapping session expectedVersion))
    (moved : proceed ttl call () config.shared (.swapping session expectedVersion) =
      some (after, nextStage)) :
    ∃ response, config.shared.visible.serve ttl (.saveCas session expectedVersion) =
        (after.visible, response) ∧ nextStage = .done response := by
  simp only [SessionDocuments.serve, session_visible]
  simp only [proceed, saveCas, saveCasScript] at moved
  cases held : config.shared.session session.id with
  | none =>
      rw [held] at moved
      cases moved
      exact ⟨_, rfl, rfl⟩
  | some document =>
      have written := written_of_running (related.facts session.id) related.managed running rfl rfl
        held
      have compares : _ ↔ document.version = expectedVersion :=
        (related.inStep session.id document held written).compares
      rw [held] at moved
      by_cases current : document.version = expectedVersion
      · simp only [compares.mpr current, ne_eq, not_true_eq_false, if_false] at moved
        cases moved
        refine ⟨.ok .written, ?_, rfl⟩
        simp only [current, if_true]
        rfl
      · have stale : (config.shared.revision session.id).getD "0" ≠ expectedVersion.repr :=
          fun equal => current (compares.mp equal)
        simp only [ne_eq, stale, not_false_eq_true, if_true] at moved
        cases moved
        refine ⟨_, ?_, rfl⟩
        simp only [current, if_false]

/-- The first command of a call does what the whole call does to the documents. -/
theorem serve_request (related : Atomically ttl config model)
    (running : config.calls call = .active request.stage)
    (moved : proceed ttl call () config.shared request.stage = some (after, nextStage)) :
    ∃ response, config.shared.visible.serve ttl request = (after.visible, response) ∧
      nextStage.Mirrors (.done response) := by
  cases request with
  | get id =>
      cases moved
      exact ⟨_, rfl, .done⟩
  | create session =>
      simp only [RedisRequest.stage, proceed] at moved
      simp only [SessionDocuments.serve, session_visible]
      cases held : config.shared.session session.id with
      | some existing =>
          rw [held] at moved
          cases moved
          exact ⟨_, rfl, .done⟩
      | none =>
          rw [held] at moved
          cases moved
          exact ⟨_, rfl, .seeding⟩
  | save session => cases related.managed.unsaved running
  | saveCas session expectedVersion =>
      obtain ⟨response, served, rfl⟩ := serve_swap related running moved
      exact ⟨response, served, .done⟩
  | delete id =>
      cases moved
      exact ⟨_, rfl, .dropping⟩

theorem redisMirrors_update {phase : RedisCall} {reference : StagedCall AtomicStage} {other : Nat}
    (calls : ∀ call, RedisCall.Mirrors (config.calls call) (model.calls call))
    (moved : RedisCall.Mirrors phase reference) :
    RedisCall.Mirrors (Function.update config.calls call phase other)
      (Function.update model.calls call reference other) := by
  by_cases same : other = call
  · subst same
    simpa only [Function.update_self] using moved
  · simpa only [Function.update_of_ne same] using calls other

/-- One command, beside one call of the documents or none. -/
theorem atomically_of_proceed (related : Atomically ttl config model)
    (running : config.calls call = .active stage)
    (moved : proceed ttl call () config.shared stage = some (after, nextStage))
    (stepped : (redisCalls ttl).step config (.call call (.proceed ())) =
      some ⟨after, Function.update config.calls call (.active nextStage)⟩) :
    Atomically ttl ⟨after, Function.update config.calls call (.active nextStage)⟩ model ∨
      ∃ nextModel, (atomicCalls ttl).step model (.call call (.proceed ())) = some nextModel ∧
        Atomically ttl ⟨after, Function.update config.calls call (.active nextStage)⟩
          nextModel := by
  obtain ⟨facts, step⟩ := redis_of_action related.facts related.inStep stepped
  have inStep := step.mpr related.managed.revisesInStep
  have managed := managed_of_proceed related.managed running moved
  have mirrors := related.calls call
  rw [running] at mirrors
  generalize served : model.calls call = reference at mirrors
  have silent : ∀ response, RedisStage.Mirrors nextStage (.done response) →
      reference = .active (.done response) → after.visible = config.shared.visible →
      Atomically ttl ⟨after, Function.update config.calls call (.active nextStage)⟩ model := by
    intro response mirrored same unseen
    refine ⟨facts, inStep, managed, related.shared.trans unseen.symm, fun other => ?_⟩
    have updated :=
      @redisMirrors_update call config model _ _ other related.calls (.active mirrored)
    rwa [← same, ← served, Function.update_eq_self] at updated
  cases mirrors with
  | active stages =>
      cases stages with
      | pending =>
          obtain ⟨response, atOnce, mirrored⟩ := serve_request related running moved
          refine .inr ⟨⟨after.visible,
            Function.update model.calls call (.active (.done response))⟩, ?_,
            ⟨facts, inStep, managed, rfl, fun other => redisMirrors_update related.calls
              (.active mirrored)⟩⟩
          apply step_call_eq_some.mpr
          refine ⟨_, _, ?_, rfl⟩
          simp only [atomicCalls, staged, served, related.shared, atOnce, Option.map_some]
      | seeding =>
          cases moved
          exact .inl (silent _ .done rfl rfl)
      | dropping =>
          cases moved
          exact .inl (silent _ .done rfl rfl)
      | done => cases moved

theorem atomically_of_action (related : Atomically ttl config model)
    (allowed : AsManager config action)
    (stepped : (redisCalls ttl).step config action = some next) :
    Atomically ttl next model ∨
      ∃ nextModel, (atomicCalls ttl).step model action = some nextModel ∧
        Atomically ttl next nextModel := by
  obtain ⟨facts, step⟩ := redis_of_action related.facts related.inStep stepped
  have inStep := step.mpr related.managed.revisesInStep
  cases action with
  | background milliseconds =>
      obtain ⟨keyspace, elapsed, rfl⟩ := step_background_eq_some.mp stepped
      cases elapsed
      refine .inr ⟨_, step_background_eq_some.mpr ⟨_, rfl, rfl⟩, facts, inStep, ?_, ?_,
        related.calls⟩
      · exact ⟨related.managed.alone, related.managed.fresh, related.managed.seeds,
          related.managed.gone, related.managed.unsaved⟩
      · rw [related.shared]
        rfl
  | call call input =>
      obtain ⟨keyspace, phase, moved, rfl⟩ := step_call_eq_some.mp stepped
      obtain ⟨request, rfl, idle, rfl, rfl⟩ |
        ⟨moment, stage, nextStage, rfl, running, rfl, proceeded⟩ | ⟨_, -, -, waits, -⟩ :=
          staged_cases moved
      · have mirrors := related.calls call
        rw [idle] at mirrors
        generalize served : model.calls call = reference at mirrors
        cases mirrors
        refine .inr
          ⟨⟨model.shared, Function.update model.calls call (.active (.requested request))⟩,
          step_call_eq_some.mpr ⟨_, _, by rw [served]; rfl, rfl⟩, facts, inStep,
          managed_of_request related.managed idle allowed, related.shared, fun other => ?_⟩
        exact redisMirrors_update related.calls (.active .pending)
      · exact atomically_of_proceed related running proceeded stepped
      · cases waits

/-- In every run of the calls a manager makes, whatever way their commands interleave and keys
expire, each call answers what it answers on documents that are read and written at once, in an
order that keeps the order of the calls; and the documents are the same. -/
theorem redis_sessions_atomic
    (managed : (redisCalls ttl).Meets AsManager ((redisCalls ttl).start .empty) actions)
    (ran : (redisCalls ttl).run ((redisCalls ttl).start .empty) actions = some last) :
    ∃ kept model, List.Sublist kept actions ∧
      (atomicCalls ttl).run ((atomicCalls ttl).start .empty) kept = some model ∧
      model.shared = last.shared.visible ∧
      ∀ call response, last.calls call = .active (.done response) →
        model.calls call = .active (.done response) := by
  have starts :
      Atomically ttl ((redisCalls ttl).start .empty) ((atomicCalls ttl).start .empty) := by
    refine ⟨fun id => ⟨?_, ?_, ?_⟩, fun id session held => ?_, ⟨?_, ?_, ?_, ?_, ?_⟩, rfl,
      fun call => .idle⟩
    all_goals
      intros
      contradiction
  obtain ⟨kept, model, within, modelRan, related⟩ :=
    simulated_guarded_run atomically_of_action starts managed ran
  refine ⟨kept, model, within, modelRan, related.shared, ?_⟩
  intro call response done
  have mirrors := related.calls call
  rw [done] at mirrors
  generalize model.calls call = reference at mirrors
  cases mirrors with
  | active stages =>
      generalize finished : RedisStage.done response = stage at stages
      cases stages with
      | @pending request => cases request <;> cases finished
      | seeding => cases finished
      | dropping => cases finished
      | done =>
          cases finished
          rfl

end Simulation

section Overlapping

/-! A session created, changed by two calls at once, and deleted while it is read. -/

def overlapping : List RedisAction :=
  redisCall 0 (.create (sessionAt 0)) 2 ++
    [.call 1 (.request (.saveCas (sessionAt 1) 0)), .call 2 (.request (.saveCas (sessionAt 1) 0)),
      .call 2 (.proceed ()), .call 1 (.proceed ()), .background 1000] ++
    redisCall 3 (.delete someId) 1 ++ redisCall 4 (.get someId) 1 ++ [.call 3 (.proceed ())]

def busy (part : RedisStage → Option Uuid) (config : RedisConfig) (id : Uuid) (call : Nat) :
    Bool :=
  match config.calls call with
  | .active stage => part stage = some id
  | _ => false

def quiet (part : RedisStage → Option Uuid) (count : Nat) (config : RedisConfig) (id : Uuid) :
    Bool :=
  (List.range count).all fun call => !busy part config id call

/-- The discipline of the first calls, computed. -/
def asManager (count : Nat) (config : RedisConfig) (action : RedisAction) : Bool :=
  amongFirst count action &&
    match action with
    | .call _ (.request (.create session)) =>
        (config.shared.writers session.id).isNone && quiet RedisStage.writes count config session.id
    | .call _ (.request (.saveCas session _)) => quiet RedisStage.creates count config session.id
    | .call _ (.request (.delete id)) => quiet RedisStage.creates count config id
    | .call _ (.request (.save _)) => false
    | _ => true

variable {ttl count : Nat} {config next : RedisConfig} {action : RedisAction}

/-- The other calls have not begun. -/
def OthersIdle (count : Nat) (config : RedisConfig) : Prop :=
  ∀ call, count ≤ call → config.calls call = .idle

theorem othersIdle_of_step (rest : OthersIdle count config)
    (checked : asManager count config action)
    (stepped : (redisCalls ttl).step config action = some next) : OthersIdle count next := by
  cases action with
  | background milliseconds =>
      obtain ⟨keyspace, -, rfl⟩ := step_background_eq_some.mp stepped
      exact rest
  | call index input =>
      obtain ⟨keyspace, phase, -, rfl⟩ := step_call_eq_some.mp stepped
      have below := of_decide_eq_true (Bool.and_eq_true_iff.mp checked).1
      intro call beyond
      have different : call ≠ index := by omega
      exact (Function.update_of_ne different ..).trans (rest call beyond)

theorem quiet_spec {part : RedisStage → Option Uuid} {id : Uuid} (rest : OthersIdle count config)
    (checked : quiet part count config id) {call : Nat} {stage : RedisStage}
    (running : config.calls call = .active stage) : part stage ≠ some id := by
  intro same
  have below : call < count := by
    by_contra beyond
    rw [rest call (not_lt.mp beyond)] at running
    cases running
  have idle := List.all_eq_true.mp checked call (List.mem_range.mpr below)
  simp [busy, running, same] at idle

theorem asManager_of_check (rest : OthersIdle count config)
    (checked : asManager count config action) : AsManager config action := by
  obtain ⟨-, allowed⟩ := Bool.and_eq_true_iff.mp checked
  cases action with
  | background milliseconds => trivial
  | call index input =>
      cases input with
      | proceed moment => trivial
      | drop => trivial
      | request request =>
          cases request with
          | get id => trivial
          | create session =>
              obtain ⟨unwritten, still⟩ := Bool.and_eq_true_iff.mp allowed
              exact ⟨Option.isNone_iff_eq_none.mp unwritten, fun _ _ => quiet_spec rest still⟩
          | save session => cases allowed
          | saveCas session expectedVersion => exact fun _ _ => quiet_spec rest allowed
          | delete id => exact fun _ _ => quiet_spec rest allowed

theorem redis_sessions_atomic_overlapping :
    ∃ last kept model, halfHour.run noKeys overlapping = some last ∧
      List.Sublist kept overlapping ∧
      (atomicCalls 1800).run ((atomicCalls 1800).start .empty) kept = some model ∧
      ∀ call response, last.calls call = .active (.done response) →
        model.calls call = .active (.done response) := by
  have computed : ((halfHour.run noKeys overlapping).isSome &&
      halfHour.checks (asManager 5) noKeys overlapping) = true := by
    decide +kernel
  obtain ⟨found, checked⟩ := Bool.and_eq_true_iff.mp computed
  obtain ⟨last, ran⟩ := Option.isSome_iff_exists.mp found
  have met : halfHour.Meets (fun config action => asManager 5 config action) noKeys overlapping :=
    meets_of_checks (fun _ _ allowed => allowed) checked
  have managed := (met.along othersIdle_of_step fun _ _ => rfl).mono
    fun _ _ both => asManager_of_check both.1 both.2
  obtain ⟨kept, model, within, modelRan, -, answers⟩ := redis_sessions_atomic managed ran
  exact ⟨last, kept, model, ran, within, modelRan, answers⟩

end Overlapping

end OptionChainSimulator.Session
