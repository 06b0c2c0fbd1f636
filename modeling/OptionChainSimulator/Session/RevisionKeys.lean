import Mathlib.Tactic
import OptionChainSimulator.Session.SessionFacts
import OptionChainSimulator.Session.Store.InRedis

namespace OptionChainSimulator.Session

open Foundation Foundation.Protocol Utils

/-! The revision keys of v1 sessions in Redis: whether they tell the version of the document
that is stored. -/

section Statement

/-- The next save that expects this version finds it. -/
def SessionKeyspace.Tells (keyspace : SessionKeyspace) (id : Uuid) (version : Nat) : Prop :=
  keyspace.revision id = some version.repr ∨ keyspace.revision id = none ∧ version = 0

/-- The call that wrote the document has finished. -/
def Written (config : RedisConfig) (id : Uuid) : Prop :=
  ∀ call, config.shared.writers id = some call →
    ∃ response, config.calls call = .active (.done response)

/-- No call is between two commands about this id. -/
def NoneHalfway (config : RedisConfig) (id : Uuid) : Prop :=
  ∀ call stage version, config.calls call = .active stage → stage.revision ≠ some (id, version)

/-- A second command agrees with the document, where another call wrote it and has finished. -/
def RevisesInStep (config : RedisConfig) : RedisAction → Prop
  | .call call (.proceed _) =>
      ∀ stage id version, config.calls call = .active stage → stage.revision = some (id, version) →
        ∀ session, config.shared.session id = some session → Written config id →
          session.version = version.getD 0
  | _ => True

/-- The revision key is the one of the document, once its writer has finished. -/
def InStep (config : RedisConfig) (id : Uuid) : Prop :=
  ∀ session, config.shared.session id = some session → Written config id →
    config.shared.Tells id session.version

end Statement

section Facts

variable {ttl call milliseconds : Nat} {before after keyspace : SessionKeyspace}
  {config next last : RedisConfig} {stage nextStage : RedisStage} {phase : RedisCall}
  {id : Uuid} {session : Session} {version : Option Nat} {action : RedisAction}

open InRedisSessionStore
open InRedisSimulationStore (live_eq_some live_setEx live_erase repr_injective)

/-- The call has written this document under this id, and may still have to write its
revision. -/
def RedisStage.Wrote (id : Uuid) (session : Session) : RedisStage → Prop
  | .seeding written | .syncing written => written.id = id ∧ written = session
  | .done _ => True
  | _ => False

structure RedisFacts (ttl : Nat) (config : RedisConfig) (id : Uuid) : Prop where
  bounded : ∀ {held}, config.shared.documents.get? id = some held →
    held.expiresAt ≤ config.shared.clock + ttl * 1000
  outlives : ∀ {held revision}, config.shared.documents.get? id = some held →
    Written config id → config.shared.revisions.get? id = some revision →
    held.expiresAt ≤ revision.expiresAt
  writer : ∀ {held call}, config.shared.documents.get? id = some held →
    config.shared.writers id = some call →
    ∃ stage, config.calls call = .active stage ∧ stage.Wrote id held.value

/-- The two keys of an id, and who wrote them, are as they were. -/
structure SameAt (id : Uuid) (before after : SessionKeyspace) : Prop where
  clock : after.clock = before.clock
  document : after.documents.get? id = before.documents.get? id
  revision : after.revisions.get? id = before.revisions.get? id
  writer : after.writers id = before.writers id

theorem SameAt.held (same : SameAt id before after) : after.session id = before.session id := by
  simp only [SessionKeyspace.session, Keyspace.live, same.document, same.clock]

theorem SameAt.tells {version : Nat} (same : SameAt id before after) :
    after.Tells id version ↔ before.Tells id version := by
  simp only [SessionKeyspace.Tells, SessionKeyspace.revision, Keyspace.live, same.revision,
    same.clock]

theorem sameAt_write (different : id ≠ session.id) :
    SameAt id before (before.write ttl call session) where
  clock := rfl
  document := by
    simp [SessionKeyspace.write, Keyspace.setEx, OrderedMap.get?_insert,
      Function.update_of_ne different]
  revision := rfl
  writer := Function.update_of_ne different ..

theorem sameAt_delete {other : Uuid} (different : id ≠ other) :
    SameAt id before (before.delete other) where
  clock := rfl
  document := by
    simp [SessionKeyspace.delete, OrderedMap.get?_erase, Function.update_of_ne different]
  revision := rfl
  writer := rfl

theorem sameAt_revise {other : Uuid} (different : id ≠ other) :
    SameAt id before (before.revise ttl other version) := by
  cases version with
  | some version =>
      refine ⟨rfl, rfl, ?_, rfl⟩
      simp [SessionKeyspace.revise, Keyspace.setEx, OrderedMap.get?_insert,
        Function.update_of_ne different]
  | none =>
      refine ⟨rfl, rfl, ?_, rfl⟩
      simp [SessionKeyspace.revise, OrderedMap.get?_erase, Function.update_of_ne different]

theorem SameAt.trans {between : SessionKeyspace} (first : SameAt id before between)
    (second : SameAt id between after) : SameAt id before after :=
  ⟨second.clock.trans first.clock, second.document.trans first.document,
    second.revision.trans first.revision, second.writer.trans first.writer⟩

theorem RedisStage.Wrote.pending_or_done (wrote : stage.Wrote id session) :
    stage.revision = some (id, some session.version) ∨ ∃ response, stage = .done response := by
  cases stage with
  | seeding written | syncing written =>
      obtain ⟨rfl, rfl⟩ := wrote
      exact .inl rfl
  | done response => exact .inr ⟨response, rfl⟩
  | getting | creating | saving | swapping | deleting | dropping => cases wrote

theorem RedisFacts.others (facts : RedisFacts ttl config id)
    (same : SameAt id config.shared keyspace)
    (other : ∀ {held}, config.shared.documents.get? id = some held →
      config.shared.writers id ≠ some call) :
    RedisFacts ttl ⟨keyspace, Function.update config.calls call phase⟩ id ∧
      (InStep config id → InStep ⟨keyspace, Function.update config.calls call phase⟩ id) := by
  have writes : ∀ {held writer}, config.shared.documents.get? id = some held →
      keyspace.writers id = some writer →
      config.shared.writers id = some writer ∧
        Function.update config.calls call phase writer = config.calls writer := by
    intro held writer present wrote
    rw [same.writer] at wrote
    have different : writer ≠ call := by
      intro equal
      exact other present (equal ▸ wrote)
    exact ⟨wrote, Function.update_of_ne different ..⟩
  have earlier : ∀ {held}, config.shared.documents.get? id = some held →
      Written ⟨keyspace, Function.update config.calls call phase⟩ id → Written config id := by
    intro held present written writer wrote
    have unmoved := (writes present (same.writer.trans wrote)).2
    rw [← unmoved]
    exact written writer (same.writer.trans wrote)
  refine ⟨⟨fun {held} present => ?_, fun {held revision} present written revised => ?_,
    fun {held writer} present wrote => ?_⟩, fun inStep session held written => ?_⟩
  · rw [same.document] at present
    rw [same.clock]
    exact facts.bounded present
  · rw [same.document] at present
    rw [same.revision] at revised
    exact facts.outlives present (earlier present written) revised
  · rw [same.document] at present
    obtain ⟨wrote, unmoved⟩ := writes present wrote
    simp only [unmoved]
    exact facts.writer present wrote
  · rw [same.held] at held
    obtain ⟨expiresAt, present, -⟩ := live_eq_some.mp held
    exact same.tells.mpr (inStep session held (earlier present written))

theorem redisFacts_write (wrote : nextStage.Wrote session.id session)
    (pending : ∀ response, nextStage ≠ .done response) :
    RedisFacts ttl ⟨config.shared.write ttl call session,
        Function.update config.calls call (.active nextStage)⟩ session.id ∧
      InStep ⟨config.shared.write ttl call session,
        Function.update config.calls call (.active nextStage)⟩ session.id := by
  have unwritten : ¬ Written ⟨config.shared.write ttl call session,
      Function.update config.calls call (.active nextStage)⟩ session.id := by
    intro written
    obtain ⟨response, finished⟩ := written call (Function.update_self ..)
    simp only [Function.update_self, StagedCall.active.injEq] at finished
    exact pending response finished
  have document : (config.shared.write ttl call session).documents.get? session.id =
      some ⟨session, config.shared.clock + ttl * 1000⟩ := by
    simp [SessionKeyspace.write, Keyspace.setEx, OrderedMap.get?_insert]
  refine ⟨⟨fun present => ?_, fun _ written => absurd written unwritten,
    fun {held writer} present writes => ?_⟩, fun _ _ written => absurd written unwritten⟩
  · rw [document] at present
    cases present
    exact le_rfl
  · rw [document] at present
    cases present
    simp only [SessionKeyspace.write, Function.update_self, Option.some.injEq] at writes
    subst writes
    exact ⟨nextStage, Function.update_self .., wrote⟩

theorem tells_revise {told : Nat} :
    (keyspace.revise ttl id version).Tells id told ↔ told = version.getD 0 := by
  cases version with
  | some version =>
      have revised : (keyspace.revise ttl id (some version)).revision id = some version.repr := by
        simp only [SessionKeyspace.revise, SessionKeyspace.revision, live_setEx,
          Function.update_self]
      simp only [SessionKeyspace.Tells, revised, Option.some.injEq, reduceCtorEq, false_and,
        or_false, Option.getD_some]
      exact ⟨fun same => (repr_injective same).symm, fun same => by rw [same]⟩
  | none =>
      have revised : (keyspace.revise ttl id none).revision id = none := by
        simp only [SessionKeyspace.revise, SessionKeyspace.revision, live_erase,
          Function.update_self]
      simp [SessionKeyspace.Tells, revised]

theorem redisFacts_swap {response : Except ChainError RedisAnswer} :
    RedisFacts ttl ⟨(config.shared.write ttl call session).revise ttl session.id
          (some session.version), Function.update config.calls call (.active (.done response))⟩
        session.id ∧
      InStep ⟨(config.shared.write ttl call session).revise ttl session.id (some session.version),
        Function.update config.calls call (.active (.done response))⟩ session.id := by
  refine ⟨⟨fun present => ?_, fun present _ revised => ?_, fun {held writer} present writes => ?_⟩,
    fun document held _ => ?_⟩
  · simp only [SessionKeyspace.revise, SessionKeyspace.write, Keyspace.setEx,
      OrderedMap.get?_insert, Function.update_self] at present
    cases present
    exact le_rfl
  · simp only [SessionKeyspace.revise, SessionKeyspace.write, Keyspace.setEx,
      OrderedMap.get?_insert, Function.update_self] at present revised
    cases present
    cases revised
    exact le_rfl
  · simp only [SessionKeyspace.revise, SessionKeyspace.write, Function.update_self,
      Option.some.injEq] at writes
    subst writes
    exact ⟨.done response, Function.update_self .., trivial⟩
  · simp only [SessionKeyspace.session, SessionKeyspace.revise, SessionKeyspace.write, live_setEx,
      Function.update_self, Option.some.injEq] at held
    subst held
    exact tells_revise.mpr rfl

theorem redisFacts_revise {response : Except ChainError RedisAnswer}
    (facts : RedisFacts ttl config id) (running : config.calls call = .active stage)
    (second : stage.revision = some (id, version)) :
    RedisFacts ttl ⟨config.shared.revise ttl id version,
        Function.update config.calls call (.active (.done response))⟩ id ∧
      (InStep ⟨config.shared.revise ttl id version,
          Function.update config.calls call (.active (.done response))⟩ id ↔
        ∀ session, config.shared.session id = some session → Written config id →
          session.version = version.getD 0) := by
  let after := config.shared.revise ttl id version
  have documents : after.documents = config.shared.documents := by cases version <;> rfl
  have writers : after.writers = config.shared.writers := by cases version <;> rfl
  have clock : after.clock = config.shared.clock := by cases version <;> rfl
  have held : after.session id = config.shared.session id := by
    simp only [SessionKeyspace.session, documents, clock]
  have own : ∀ {held}, config.shared.documents.get? id = some held →
      config.shared.writers id = some call → held.value.version = version.getD 0 := by
    intro held present writes
    obtain ⟨other, active, wrote⟩ := facts.writer present writes
    rw [running] at active
    cases active
    obtain pending | ⟨response, rfl⟩ := wrote.pending_or_done
    · rw [pending] at second
      cases second
      rfl
    · cases second
  refine ⟨⟨fun present => ?_, fun {held revision} present _ revised => ?_,
    fun {held writer} present writes => ?_⟩, fun inStep session found written => ?_,
    fun agrees session found written => ?_⟩
  · rw [documents] at present
    rw [clock]
    exact facts.bounded present
  · rw [documents] at present
    cases version with
    | some version =>
        simp only [SessionKeyspace.revise, Keyspace.setEx, OrderedMap.get?_insert,
          Function.update_self, Option.some.injEq] at revised
        rw [← revised]
        exact facts.bounded present
    | none =>
        simp [SessionKeyspace.revise, OrderedMap.get?_erase] at revised
  · rw [documents] at present
    rw [writers] at writes
    by_cases same : writer = call
    · subst same
      exact ⟨.done response, Function.update_self .., trivial⟩
    · simp only [Function.update_of_ne same]
      exact facts.writer present writes
  · apply tells_revise.mp (inStep session (held.trans found) _)
    intro writer writes
    obtain ⟨earlier, finished⟩ := written writer (writers ▸ writes)
    have different : writer ≠ call := by
      intro same
      rw [same, running] at finished
      cases finished
      cases second
    exact ⟨earlier, by simpa only [Function.update_of_ne different] using finished⟩
  · rw [held] at found
    apply tells_revise.mpr
    obtain ⟨expiresAt, present, -⟩ := live_eq_some.mp found
    by_cases same : config.shared.writers id = some call
    · exact own present same
    · apply agrees session found
      intro writer writes
      have different : writer ≠ call := by
        intro equal
        exact same (equal ▸ writes)
      simpa only [Function.update_of_ne different] using written writer (writers.symm ▸ writes)

theorem RedisStage.not_wrote (first : stage.revision = none)
    (unfinished : ∀ response, stage ≠ .done response) : ¬ stage.Wrote id session := by
  intro wrote
  obtain pending | ⟨response, done⟩ := wrote.pending_or_done
  · rw [first] at pending
    cases pending
  · exact unfinished response done

theorem redisFacts_elsewhere {touched : Uuid} (facts : ∀ id, RedisFacts ttl config id)
    (inStep : ∀ id, InStep config id) (running : config.calls call = .active stage)
    (same : ∀ id, id ≠ touched → SameAt id config.shared after)
    (other : ∀ id, id ≠ touched → ∀ document, ¬ stage.Wrote id document)
    (own : RedisFacts ttl ⟨after, Function.update config.calls call phase⟩ touched) :
    (∀ id, RedisFacts ttl ⟨after, Function.update config.calls call phase⟩ id) ∧
      ((∀ id, InStep ⟨after, Function.update config.calls call phase⟩ id) ↔
        InStep ⟨after, Function.update config.calls call phase⟩ touched) := by
  have each : ∀ id, id ≠ touched →
      RedisFacts ttl ⟨after, Function.update config.calls call phase⟩ id ∧
        (InStep config id → InStep ⟨after, Function.update config.calls call phase⟩ id) := by
    intro id different
    refine (facts id).others (same id different) ?_
    intro held present writes
    obtain ⟨earlier, active, wrote⟩ := (facts id).writer present writes
    rw [running] at active
    cases active
    exact other id different _ wrote
  refine ⟨fun id => ?_, fun all => all touched, fun ownStep id => ?_⟩
  · by_cases equal : id = touched
    · exact equal ▸ own
    · exact (each id equal).1
  · by_cases equal : id = touched
    · exact equal ▸ ownStep
    · exact (each id equal).2 (inStep id)

/-- A call that leaves the keys alone keeps them in step. -/
theorem redis_of_unchanged (facts : ∀ id, RedisFacts ttl config id)
    (inStep : ∀ id, InStep config id)
    (idle : ∀ id stage, config.calls call = .active stage → ∀ document, ¬ stage.Wrote id document) :
    (∀ id, RedisFacts ttl ⟨config.shared, Function.update config.calls call phase⟩ id) ∧
      ∀ id, InStep ⟨config.shared, Function.update config.calls call phase⟩ id := by
  have each : ∀ id,
      RedisFacts ttl ⟨config.shared, Function.update config.calls call phase⟩ id ∧
      (InStep config id →
        InStep ⟨config.shared, Function.update config.calls call phase⟩ id) := by
    intro id
    apply (facts id).others ⟨rfl, rfl, rfl, rfl⟩
    intro held present writes
    obtain ⟨stage, active, wrote⟩ := (facts id).writer present writes
    exact idle id stage active _ wrote
  exact ⟨fun id => (each id).1, fun id => (each id).2 (inStep id)⟩

/-- A document that is written, its revision key to follow, is not yet compared. -/
theorem redis_of_write (facts : ∀ id, RedisFacts ttl config id) (inStep : ∀ id, InStep config id)
    (running : config.calls call = .active stage) (first : stage.revision = none)
    (unfinished : ∀ response, stage ≠ .done response)
    (wrote : nextStage.Wrote session.id session)
    (pending : ∀ response, nextStage ≠ .done response) :
    (∀ id, RedisFacts ttl ⟨config.shared.write ttl call session,
        Function.update config.calls call (.active nextStage)⟩ id) ∧
      ∀ id, InStep ⟨config.shared.write ttl call session,
        Function.update config.calls call (.active nextStage)⟩ id := by
  have own := @redisFacts_write ttl call config nextStage session wrote pending
  obtain ⟨all, step⟩ := redisFacts_elsewhere facts inStep running
    (fun id different => sameAt_write different)
    (fun _ _ _ => RedisStage.not_wrote first unfinished) own.1
  exact ⟨all, step.mpr own.2⟩

/-- A command keeps the keys in step exactly where it revises in step. -/
theorem redis_of_step (facts : ∀ id, RedisFacts ttl config id) (inStep : ∀ id, InStep config id)
    (running : config.calls call = .active stage)
    (stepped : RedisStep ttl call config.shared stage after nextStage) :
    (∀ id, RedisFacts ttl ⟨after, Function.update config.calls call (.active nextStage)⟩ id) ∧
      ((∀ id, InStep ⟨after, Function.update config.calls call (.active nextStage)⟩ id) ↔
        ∀ id version, stage.revision = some (id, version) →
          ∀ session, config.shared.session id = some session → Written config id →
            session.version = version.getD 0) := by
  cases stepped with
  | @answer _ response first unfinished =>
      have idle : ∀ id earlier, config.calls call = .active earlier →
          ∀ document, ¬ earlier.Wrote id document := by
        intro id earlier active document
        rw [running] at active
        cases active
        exact RedisStage.not_wrote first unfinished
      obtain ⟨all, each⟩ := redis_of_unchanged facts inStep idle
      refine ⟨all, fun _ id version second => ?_, fun _ => each⟩
      rw [first] at second
      cases second
  | @create session =>
      have wrote : (RedisStage.seeding session).Wrote session.id session := ⟨rfl, rfl⟩
      obtain ⟨all, each⟩ := redis_of_write facts inStep running rfl (fun _ same => by cases same)
        wrote fun _ same => by cases same
      exact ⟨all, fun _ _ _ second => (by cases second), fun _ => each⟩
  | @save session =>
      have wrote : (RedisStage.syncing session).Wrote session.id session := ⟨rfl, rfl⟩
      obtain ⟨all, each⟩ := redis_of_write facts inStep running rfl (fun _ same => by cases same)
        wrote fun _ same => by cases same
      exact ⟨all, fun _ _ _ second => (by cases second), fun _ => each⟩
  | swap =>
      obtain ⟨own, ownStep⟩ := redisFacts_swap
      obtain ⟨all, step⟩ := redisFacts_elsewhere facts inStep running
        (fun id different => (sameAt_write different).trans (sameAt_revise different))
        (fun _ _ _ => RedisStage.not_wrote rfl fun _ same => by cases same) own
      exact ⟨all, fun _ _ _ second => (by cases second), fun _ => step.mpr ownStep⟩
  | @delete touched deleted =>
      have gone : (config.shared.delete touched).documents.get? touched = none := by
        simp [SessionKeyspace.delete, OrderedMap.get?_erase]
      have own : RedisFacts ttl ⟨config.shared.delete touched,
          Function.update config.calls call (.active (.dropping touched deleted))⟩ touched := by
        refine ⟨fun present => ?_, fun present => ?_, fun present => ?_⟩ <;>
          (rw [gone] at present; cases present)
      obtain ⟨all, step⟩ := redisFacts_elsewhere facts inStep running
        (fun id different => sameAt_delete different)
        (fun _ _ _ => RedisStage.not_wrote rfl fun _ same => by cases same) own
      refine ⟨all, fun _ _ _ second => (by cases second), fun _ => step.mpr ?_⟩
      intro session held
      obtain ⟨_, present, -⟩ := live_eq_some.mp held
      rw [gone] at present
      cases present
  | @revise stage touched version response second =>
      obtain ⟨own, ownStep⟩ := redisFacts_revise (facts _) running second
      have other : ∀ id, id ≠ touched → ∀ document, ¬ stage.Wrote id document := by
        intro id different document wrote
        obtain pending | ⟨response, rfl⟩ := wrote.pending_or_done
        · rw [second] at pending
          cases pending
          exact different rfl
        · cases second
      obtain ⟨all, step⟩ := redisFacts_elsewhere facts inStep running
        (fun id different => sameAt_revise different) other own
      refine ⟨all, (step.trans ownStep).trans ⟨fun agrees id other same => ?_,
        fun agrees => agrees _ _ second⟩⟩
      rw [second] at same
      cases same
      exact agrees

/-- A document expires before the revision key that tells its version. -/
theorem redisFacts_elapse (facts : RedisFacts ttl config id) :
    RedisFacts ttl
        { config with shared :=
          { config.shared with clock := config.shared.clock + milliseconds } } id ∧
      (InStep config id → InStep
        { config with shared :=
          { config.shared with clock := config.shared.clock + milliseconds } } id) := by
  refine ⟨⟨fun present => ?_, facts.outlives, facts.writer⟩, fun inStep session held written => ?_⟩
  · have bounded := facts.bounded present
    simp only
    omega
  · obtain ⟨expiresAt, present, alive⟩ := live_eq_some.mp held
    simp only at alive
    have earlier : config.shared.session id = some session :=
      live_eq_some.mpr ⟨expiresAt, present, by omega⟩
    cases inStep session earlier written with
    | inl told =>
        obtain ⟨until_, revised, -⟩ := live_eq_some.mp told
        have outlives := facts.outlives present written revised
        simp only at outlives
        exact .inl (live_eq_some.mpr ⟨until_, revised, alive.trans outlives⟩)
    | inr untold =>
        obtain ⟨absent, first⟩ := untold
        refine .inr ⟨?_, first⟩
        cases revised : (SessionKeyspace.revision
            { config.shared with clock := config.shared.clock + milliseconds } id) with
        | none => rfl
        | some version =>
            obtain ⟨until_, revised, alive⟩ := live_eq_some.mp revised
            simp only at alive
            have present : config.shared.revision id = some version :=
              live_eq_some.mpr ⟨until_, revised, by omega⟩
            rw [absent] at present
            cases present

theorem redis_of_action (facts : ∀ id, RedisFacts ttl config id) (inStep : ∀ id, InStep config id)
    (stepped : (redisCalls ttl).step config action = some next) :
    (∀ id, RedisFacts ttl next id) ∧ ((∀ id, InStep next id) ↔ RevisesInStep config action) := by
  cases action with
  | background milliseconds =>
      obtain ⟨keyspace, elapsed, rfl⟩ := step_background_eq_some.mp stepped
      cases elapsed
      exact ⟨fun id => (redisFacts_elapse (facts id)).1, fun _ => trivial,
        fun _ id => (redisFacts_elapse (facts id)).2 (inStep id)⟩
  | call call input =>
      obtain ⟨keyspace, phase, moved, rfl⟩ := step_call_eq_some.mp stepped
      obtain ⟨request, rfl, idle, rfl, rfl⟩ |
        ⟨moment, stage, nextStage, rfl, active, rfl, proceeded⟩ | ⟨_, -, -, waits, -⟩ :=
          staged_cases moved
      · have unwritten : ∀ id stage, config.calls call = .active stage →
            ∀ document, ¬ stage.Wrote id document := by
          intro id stage active
          rw [idle] at active
          cases active
        obtain ⟨all, each⟩ := redis_of_unchanged facts inStep unwritten
        exact ⟨all, fun _ => trivial, fun _ => each⟩
      · obtain ⟨all, step⟩ :=
          redis_of_step facts inStep active (redisStep_of_proceed proceeded)
        refine ⟨all, step.trans ⟨fun agrees other id version running => ?_,
          fun agrees id version => agrees stage id version active⟩⟩
        rw [active] at running
        cases running
        exact agrees id version
      · cases waits

end Facts

def sessionAt (version : Nat) : Session :=
  { Session.withRandomId (seededParameters 1) someId 0 with version }

def redisCall (call : Nat) (request : RedisRequest) (commands : Nat) : List RedisAction :=
  .call call (.request request) :: List.replicate commands (.call call (.proceed ()))

/-- A compare-and-swap between the two commands of a save conflicts, a later one commits. -/
def savingInTurn : List RedisAction :=
  redisCall 0 (.create (sessionAt 0)) 2 ++ redisCall 1 (.save (sessionAt 5)) 1 ++
    redisCall 2 (.saveCas (sessionAt 6) 5) 1 ++ [.background 1000, .call 1 (.proceed ())] ++
    redisCall 3 (.saveCas (sessionAt 6) 5) 1

/-- A compare-and-swap between the two commands of a save commits. -/
def savingAcross : List RedisAction :=
  redisCall 0 (.create (sessionAt 0)) 2 ++ redisCall 1 (.save (sessionAt 5)) 1 ++
    redisCall 2 (.saveCas (sessionAt 1) 0) 1 ++ [.call 1 (.proceed ())]

abbrev halfHour := redisCalls 1800

abbrev noKeys := halfHour.start SessionKeyspace.empty

def revisesInStep (config : RedisConfig) : RedisAction → Bool
  | .call call (.proceed _) =>
      match config.calls call with
      | .active stage =>
          match stage.revision with
          | some (id, version) =>
              (config.shared.session id).all fun session =>
                session.version = version.getD 0
          | none => true
      | _ => true
  | _ => true

theorem revisesInStep_of_check (config : RedisConfig) (action : RedisAction)
    (allowed : revisesInStep config action) : RevisesInStep config action := by
  cases action with
  | background => trivial
  | call call input =>
      cases input with
      | request | drop => trivial
      | proceed moment =>
          intro stage id version active second session held _
          simp only [revisesInStep, active, second, held, Option.all_some,
            decide_eq_true_eq] at allowed
          exact allowed

/-- Whether the first calls have finished. -/
def firstFinished (count : Nat) (config : RedisConfig) : Bool :=
  (List.range count).all fun call =>
    match config.calls call with
    | .active (.done _) => true
    | _ => false

def amongFirst (count : Nat) : RedisAction → Bool
  | .call call _ => call < count
  | .background _ => true

theorem finished_of_first {count : Nat} {actions : List RedisAction} {last : RedisConfig}
    (first : firstFinished count last) (only : ∀ action ∈ actions, amongFirst count action)
    (ran : halfHour.run noKeys actions = some last) :
    ∀ call stage, last.calls call = .active stage → ∃ response, stage = .done response := by
  intro call stage active
  by_cases begun : call < count
  · have done := List.all_eq_true.mp first call (List.mem_range.mpr begun)
    rw [active] at done
    cases stage with
    | done response => exact ⟨response, rfl⟩
    | getting | creating | seeding | saving | syncing | swapping | deleting | dropping =>
        cases done
  · have untouched := @calls_of_run _ _ _ _ halfHour noKeys last actions call
      (fun input member => begun (of_decide_eq_true (only (.call call input) member))) ran
    rw [active] at untouched
    cases untouched

section Theorem

variable {ttl : Nat} {last : RedisConfig} {actions : List RedisAction}

/-- In any run of commands, the revision keys are in step in every state exactly where every
second command is; and where it is, once no call is halfway, the next save that expects the
stored version commits. -/
theorem revisionKeys_inStep
    (ran : (redisCalls ttl).run ((redisCalls ttl).start .empty) actions = some last) :
    ((∀ done rest reached, actions = done ++ rest →
        (redisCalls ttl).run ((redisCalls ttl).start .empty) done = some reached →
        ∀ id, InStep reached id) ↔
      (redisCalls ttl).Meets RevisesInStep ((redisCalls ttl).start .empty) actions) ∧
    ((redisCalls ttl).Meets RevisesInStep ((redisCalls ttl).start .empty) actions →
      ∀ id session, NoneHalfway last id → last.shared.session id = some session →
        last.shared.Tells id session.version ∧
          ∀ call moved, moved.id = id → ∃ after,
            InRedisSessionStore.saveCas ttl call last.shared moved session.version =
              .ok after) := by
  have starts : ∀ id, RedisFacts ttl ((redisCalls ttl).start .empty) id := fun id =>
    ⟨fun present => (by cases present), fun present => (by cases present),
      fun present => by cases present⟩
  have vacant : ∀ id, InStep ((redisCalls ttl).start .empty) id := fun id session held => by
    cases held
  have kept : ∀ {config : RedisConfig} {action next}, (∀ id, RedisFacts ttl config id) → True →
      (∀ id, InStep config id) → (redisCalls ttl).step config action = some next →
      (∀ id, RedisFacts ttl next id) ∧ ((∀ id, InStep next id) ↔ RevisesInStep config action) :=
    fun facts _ inStep stepped => redis_of_action facts inStep stepped
  refine ⟨holds_throughout_iff kept starts vacant (fun _ _ => trivial) ran,
    fun met id session whole held => ?_⟩
  have both : (∀ id, RedisFacts ttl last id) ∧ ∀ id, InStep last id := by
    apply holds_of_guarded_run _ (And.intro starts vacant) met ran
    intro config action next holding guarded stepped
    obtain ⟨facts, inStep⟩ := redis_of_action holding.1 holding.2 stepped
    exact ⟨facts, inStep.mpr guarded⟩
  obtain ⟨facts, inStep⟩ := both
  have told : last.shared.Tells id session.version := by
    refine inStep id session held ?_
    intro call wrote
    obtain ⟨expiresAt, present, -⟩ := InRedisSimulationStore.live_eq_some.mp held
    obtain ⟨stage, active, wrote⟩ := (facts id).writer present wrote
    obtain pending | ⟨response, rfl⟩ := wrote.pending_or_done
    · exact absurd pending (whole call stage _ active)
    · exact ⟨response, active⟩
  refine ⟨told, fun call moved named => ?_⟩
  apply Exists.intro
  apply saveCas_eq_ok.mpr
  refine ⟨?_, ?_, rfl⟩
  · rw [named, held]
    rfl
  · rw [named]
    cases told with
    | inl told => rw [told, Option.getD_some]
    | inr first =>
        rw [first.1, first.2]
        rfl

theorem revisionKeys_inStep_inTurn :
    ∃ last session, halfHour.run noKeys savingInTurn = some last ∧
      last.shared.session someId = some session ∧ session.version = 6 ∧
      last.shared.Tells someId 6 := by
  have computed : ((halfHour.run noKeys savingInTurn).any (fun last =>
      (last.shared.session someId).any (fun session => session.version = 6) &&
        firstFinished 4 last) && halfHour.checks revisesInStep noKeys savingInTurn) = true := by
    decide +kernel
  obtain ⟨found, checked⟩ := Bool.and_eq_true_iff.mp computed
  obtain ⟨last, ran, ended⟩ := (Option.any_eq_true _ _).mp found
  obtain ⟨stored, finished⟩ := Bool.and_eq_true_iff.mp ended
  obtain ⟨session, held, version⟩ := (Option.any_eq_true _ _).mp stored
  have version := of_decide_eq_true version
  refine ⟨last, session, ran, held, version, ?_⟩
  have told := (revisionKeys_inStep ran).2 (meets_of_checks revisesInStep_of_check checked)
    someId session ?_ held
  · rw [← version]
    exact told.1
  · intro call stage pending active second
    obtain ⟨response, rfl⟩ := finished_of_first finished (by decide) ran call stage active
    cases second

/-- The compare-and-swap commits in between, and the save then sets another revision. -/
theorem savingAcross_breaks_revision :
    ∃ last session, halfHour.run noKeys savingAcross = some last ∧
      (∀ call stage, last.calls call = .active stage → ∃ response, stage = .done response) ∧
      last.shared.session someId = some session ∧
      ¬ last.shared.Tells someId session.version ∧
      ∀ call moved, moved.id = someId → ∃ message,
        InRedisSessionStore.saveCas 1800 call last.shared moved session.version =
          .error (.conflict message) := by
  have computed : (halfHour.run noKeys savingAcross).any (fun last =>
      (last.shared.session someId).any (fun session => session.version = 1) &&
        decide (last.shared.revision someId = some "5") && firstFinished 3 last) = true := by
    decide +kernel
  obtain ⟨last, ran, ended⟩ := (Option.any_eq_true _ _).mp computed
  obtain ⟨keys, finished⟩ := Bool.and_eq_true_iff.mp ended
  obtain ⟨stored, revised⟩ := Bool.and_eq_true_iff.mp keys
  obtain ⟨session, held, version⟩ := (Option.any_eq_true _ _).mp stored
  have version := of_decide_eq_true version
  have revised := of_decide_eq_true revised
  refine ⟨last, session, ran, finished_of_first finished (by decide) ran,
    held, ?_, fun call moved named => ?_⟩
  · rw [SessionKeyspace.Tells, revised, version]
    decide
  · unfold InRedisSessionStore.saveCas InRedisSessionStore.saveCasScript
    rw [named, held, revised, version]
    exact ⟨_, rfl⟩

end Theorem

end OptionChainSimulator.Session
