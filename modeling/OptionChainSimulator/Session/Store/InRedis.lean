import Mathlib.Tactic
import OptionChainSimulator.Foundation.Interleaving
import OptionChainSimulator.Session.Model
import OptionChainSimulator.Session.Store.V2Redis

namespace OptionChainSimulator.Session

open Foundation Foundation.Protocol Utils

/-! The Redis store of v1 sessions: a document and a revision key for each. Every command
runs alone; the compare-and-swap is one script, the other writes are two commands. -/

/-- The server's clock, the keys, and, as history, the call that wrote each document. -/
structure SessionKeyspace where
  clock : Nat
  documents : OrderedMap Uuid (Timed Session)
  revisions : OrderedMap Uuid (Timed String)
  writers : Uuid → Option Nat

inductive RedisRequest where
  | get (id : Uuid)
  | create (session : Session)
  | save (session : Session)
  | saveCas (session : Session) (expectedVersion : Nat)
  | delete (id : Uuid)

inductive RedisAnswer where
  | got (session : Session)
  | written
  | deleted (deleted : Bool)

/-- The command a call sends next. -/
inductive RedisStage where
  | getting (id : Uuid)
  | creating (session : Session)
  | seeding (session : Session)
  | saving (session : Session)
  | syncing (session : Session)
  | swapping (session : Session) (expectedVersion : Nat)
  | deleting (id : Uuid)
  | dropping (id : Uuid) (deleted : Bool)
  | done (response : Except ChainError RedisAnswer)

def RedisRequest.stage : RedisRequest → RedisStage
  | .get id => .getting id
  | .create session => .creating session
  | .save session => .saving session
  | .saveCas session expectedVersion => .swapping session expectedVersion
  | .delete id => .deleting id

namespace SessionKeyspace

def empty : SessionKeyspace := ⟨0, .empty, .empty, fun _ => none⟩

def session (keyspace : SessionKeyspace) : Uuid → Option Session :=
  Keyspace.live keyspace.clock keyspace.documents

def revision (keyspace : SessionKeyspace) : Uuid → Option String :=
  Keyspace.live keyspace.clock keyspace.revisions

/-- `SET` of a document. -/
def write (ttl : Nat) (keyspace : SessionKeyspace) (call : Nat) (session : Session) :
    SessionKeyspace :=
  { keyspace with
    documents := Keyspace.setEx keyspace.clock ttl keyspace.documents session.id session
    writers := Function.update keyspace.writers session.id (some call) }

def delete (keyspace : SessionKeyspace) (id : Uuid) : SessionKeyspace :=
  { keyspace with documents := keyspace.documents.erase id }

/-- `SET` or `DEL` of a revision key. -/
def revise (ttl : Nat) (keyspace : SessionKeyspace) (id : Uuid) :
    Option Nat → SessionKeyspace
  | some version =>
      { keyspace with
        revisions := Keyspace.setEx keyspace.clock ttl keyspace.revisions id version.repr }
  | none => { keyspace with revisions := keyspace.revisions.erase id }

end SessionKeyspace

namespace InRedisSessionStore

def mapCasResult (code : Int) (id : Uuid) (expectedVersion : Nat) : Except ChainError Unit :=
  if code = 1 then .ok ()
  else if code = -1 then .error (sessionNotFound id)
  else if code = -2 then
    .error (.conflict <|
      s!"Session {id.hyphenated} was modified concurrently" ++
        s!" (expected version {expectedVersion})")
  else
    .error (.internal s!"Unexpected CAS result code {code} for session {id.hyphenated}")

variable (ttl call : Nat)

/-- `SAVE_CAS_SCRIPT`: a missing revision counts as `'0'`. -/
def saveCasScript (keyspace : SessionKeyspace) (session : Session) (expected version : String) :
    Int × SessionKeyspace :=
  match keyspace.session session.id with
  | none => (-1, keyspace)
  | some _ =>
      if (keyspace.revision session.id).getD "0" ≠ expected then (-2, keyspace)
      else
        (1, { keyspace.write ttl call session with
          revisions := Keyspace.setEx keyspace.clock ttl keyspace.revisions session.id version })

def saveCas (keyspace : SessionKeyspace) (session : Session) (expectedVersion : Nat) :
    Except ChainError SessionKeyspace := do
  let (code, after) :=
    saveCasScript ttl call keyspace session expectedVersion.repr session.version.repr
  mapCasResult code session.id expectedVersion
  return after

/-- The next command of a call. -/
def proceed (call : Nat) (_ : Unit) (keyspace : SessionKeyspace) :
    RedisStage → Option (SessionKeyspace × RedisStage)
  | .getting id =>
      some (keyspace, .done ((okOr (keyspace.session id) (sessionNotFound id)).map .got))
  | .creating session =>
      match keyspace.session session.id with
      | some _ =>
          some (keyspace, .done (.error (.alreadyExists
            s!"Session with id {session.id.hyphenated} already exists")))
      | none => some (keyspace.write ttl call session, .seeding session)
  | .seeding session | .syncing session =>
      some (keyspace.revise ttl session.id (some session.version), .done (.ok .written))
  | .saving session => some (keyspace.write ttl call session, .syncing session)
  | .swapping session expectedVersion =>
      match saveCas ttl call keyspace session expectedVersion with
      | .ok after => some (after, .done (.ok .written))
      | .error e => some (keyspace, .done (.error e))
  | .deleting id => some (keyspace.delete id, .dropping id (keyspace.session id).isSome)
  | .dropping id deleted => some (keyspace.revise ttl id none, .done (.ok (.deleted deleted)))
  | .done _ => none

end InRedisSessionStore

abbrev RedisCall := StagedCall RedisStage
abbrev RedisConfig := Config SessionKeyspace RedisCall
abbrev RedisAction := Action (StagedInput RedisRequest Unit) Nat

/-- The calls on one Redis, each of which runs to its end, while the server's milliseconds
pass. -/
def redisCalls (ttl : Nat) :
    Protocol SessionKeyspace RedisCall (StagedInput RedisRequest Unit) Nat :=
  staged RedisRequest.stage (fun _ => false) (InRedisSessionStore.proceed ttl)
    fun milliseconds keyspace => some { keyspace with clock := keyspace.clock + milliseconds }

section Inversion

variable {ttl call : Nat} {before after : SessionKeyspace} {stage nextStage : RedisStage}
  {session : Session}

open InRedisSessionStore

/-- The revision key that a call's second command is about, and what it sets there. -/
def RedisStage.revision : RedisStage → Option (Uuid × Option Nat)
  | .seeding session | .syncing session => some (session.id, some session.version)
  | .dropping id _ => some (id, none)
  | _ => none

/-- What a command of a call can do. -/
inductive RedisStep (ttl call : Nat) (before : SessionKeyspace) :
    RedisStage → SessionKeyspace → RedisStage → Prop where
  | answer {stage : RedisStage} {response : Except ChainError RedisAnswer}
      (first : stage.revision = none) (running : ∀ earlier, stage ≠ .done earlier) :
      RedisStep ttl call before stage before (.done response)
  | create {session : Session} :
      RedisStep ttl call before (.creating session) (before.write ttl call session)
        (.seeding session)
  | save {session : Session} :
      RedisStep ttl call before (.saving session) (before.write ttl call session)
        (.syncing session)
  | swap {session : Session} {expectedVersion : Nat} :
      RedisStep ttl call before (.swapping session expectedVersion)
        ((before.write ttl call session).revise ttl session.id (some session.version))
        (.done (.ok .written))
  | delete {id : Uuid} {deleted : Bool} :
      RedisStep ttl call before (.deleting id) (before.delete id) (.dropping id deleted)
  | revise {stage : RedisStage} {id : Uuid} {version : Option Nat}
      {response : Except ChainError RedisAnswer} (second : stage.revision = some (id, version)) :
      RedisStep ttl call before stage (before.revise ttl id version) (.done response)

theorem saveCas_eq_ok {expectedVersion : Nat} :
    saveCas ttl call before session expectedVersion = .ok after ↔
      (before.session session.id).isSome ∧
        (before.revision session.id).getD "0" = expectedVersion.repr ∧
        after = (before.write ttl call session).revise ttl session.id (some session.version) := by
  unfold saveCas saveCasScript
  cases held : before.session session.id with
  | none =>
      simp only [Option.isSome_none, Bool.false_eq_true, false_and, iff_false]
      intro saved
      cases saved
  | some document =>
      by_cases current : (before.revision session.id).getD "0" = expectedVersion.repr
      · simp only [current, ne_eq, not_true, if_false, Option.isSome_some, true_and]
        constructor
        · intro saved
          cases saved
          rfl
        · intro equal
          rw [equal]
          rfl
      · simp only [current, ne_eq, not_false_eq_true, if_true, false_and, and_false, iff_false]
        intro saved
        cases saved

theorem redisStep_of_proceed
    (moved : proceed ttl call () before stage = some (after, nextStage)) :
    RedisStep ttl call before stage after nextStage := by
  cases stage with
  | getting id =>
      cases moved
      exact .answer rfl fun _ same => by cases same
  | creating session =>
      simp only [proceed] at moved
      split at moved
      · cases moved
        exact .answer rfl fun _ same => by cases same
      · cases moved
        exact .create
  | seeding session | syncing session =>
      cases moved
      exact .revise rfl
  | saving session =>
      cases moved
      exact .save
  | swapping session expectedVersion =>
      simp only [proceed] at moved
      split at moved
      next saved =>
        cases moved
        obtain ⟨-, -, rfl⟩ := saveCas_eq_ok.mp saved
        exact .swap
      next =>
        cases moved
        exact .answer rfl fun _ same => by cases same
  | deleting id =>
      cases moved
      exact .delete
  | dropping id deleted =>
      cases moved
      exact .revise rfl
  | done response => cases moved

end Inversion

end OptionChainSimulator.Session
