import Mathlib.Tactic
import OptionChainSimulator.Foundation.Interleaving
import OptionChainSimulator.Domain.Simulator
import OptionChainSimulator.Api.Update
import OptionChainSimulator.Session.ManagerV2

namespace OptionChainSimulator.Session

open Foundation Foundation.Protocol Utils Domain Api

/-! The v1 requests, through the handlers, `SessionManager` and `Simulator`, in the
sections between their locks and awaits. -/

structure SessionService (Chain : Type) where
  source : WalkSource Chain
  numerics : Numerics
  limits : Limits
  maxCachedWalks : Nat
  walksPositive : 1 ≤ maxCachedWalks

inductive SessionRequest where
  | create (parameters : SimulationParameters)
  | peek (id : Uuid)
  | advance (id : Uuid) (expectedStep : Option Nat)
  | update (id : Uuid) (request : UpdateSessionRequest)
  | replace (id : Uuid) (parameters : SimulationParameters)
  | delete (id : Uuid)
  | cleanup

inductive SessionAnswer (Chain : Type) where
  | created (session : Session)
  | peeked (session : Session) (chain : Chain)
  | advanced (session : Session) (chain : Chain)
  | preconditionFailed (session : Session)
  | replaced (session : Session)
  | deleted (id : Uuid) (deleted : Bool)
  | cleaned (count : Nat)

abbrev SessionResponse (Chain : Type) := Except ChainError (SessionAnswer Chain)

def SessionAnswer.status {Chain : Type} : SessionAnswer Chain → Nat
  | .created _ => 201
  | .preconditionFailed _ => 412
  | .deleted _ false => 404
  | _ => 200

def sessionStatus {Chain : Type} : SessionResponse Chain → Nat
  | .ok answer => answer.status
  | .error e => e.status

/-- What replaces parameters: a PATCH merged into the parameters it read, with the seed
drawn for it, or whole new ones. -/
inductive Change where
  | merge (base : SimulationParameters) (request : UpdateSessionRequest) (random : Nat)
  | whole

/-- Where a v1 request stands: what it does next. -/
inductive SessionStage (Chain : Type) where
  | creating (parameters : SimulationParameters)
  | checking (id : Uuid) (expectedStep : Nat)
  | reading (route : Route) (id : Uuid)
  | probing (route : Route) (session : Session)
  | building (route : Route) (session : Session)
  | filing (route : Route) (session : Session) (built : BuiltWalk Chain)
  | hitting (route : Route) (session : Session)
  | saving (session : Session) (chain : Chain)
  | merging (id : Uuid) (request : UpdateSessionRequest)
  | replacing (id : Uuid) (parameters : SimulationParameters) (change : Change)
  | storing (session : Session) (expectedVersion : Nat) (change : Change)
  | deleting (id : Uuid)
  | cleaning
  | removing (id : Uuid) (answer : SessionAnswer Chain)
  | done (response : SessionResponse Chain)

/-- What a section reads from outside: the clocks, a random id and a random seed. -/
structure SessionMoment extends Moment where
  seed : Nat

/-- A save that succeeded, with the stored session it replaced. -/
inductive SessionEvent (Chain : Type) where
  | advanced (call : Nat) (before : Session) (chain : Chain)
  | replaced (call : Nat) (before after : Session) (change : Change)

def SessionEvent.call {Chain : Type} : SessionEvent Chain → Nat
  | .advanced call _ _ | .replaced call _ _ _ => call

/-- The store and the walk cache. The last two fields are history: the ids given out,
and the saves in order. -/
structure SessionManager (Chain : Type) where
  sessions : Sessions
  walks : WalkCache Chain
  issued : List Uuid
  events : List (SessionEvent Chain)

section Sections

variable {Chain : Type}

def SessionRequest.stage : SessionRequest → SessionStage Chain
  | .create parameters => .creating parameters
  | .peek id => .reading .peek id
  | .advance id none => .reading .advance id
  | .advance id (some expectedStep) => .checking id expectedStep
  | .update id request => .merging id request
  | .replace id parameters => .replacing id parameters .whole
  | .delete id => .deleting id
  | .cleanup => .cleaning

/-- Every section waits for the store or for a lock. -/
def SessionStage.awaits : SessionStage Chain → Bool
  | .done _ => false
  | _ => true

def SessionStage.refused (e : ChainError) : SessionStage Chain := .done (.error e)

/-- The guards of `get_next_step` and `peek_current_step`. -/
def Route.accept (route : Route) (session : Session) : Except ChainError Unit :=
  if session.state = .completed ∨
      (route = .advance ∧ session.totalSteps ≤ session.currentStep) then
    .error (.simulatorError s!"session completed; {route.lacking}")
  else if session.state = .error then .error (.invalidState "Session is in error state")
  else .ok ()

/-- What `simulate_next_step` makes of a cached walk: the session with its resolved
method, and the chain at its cursor. -/
def serveStep (built : BuiltWalk Chain) (session : Session) :
    Except ChainError (Session × Chain) :=
  let session := { session with
    parameters := { session.parameters with
      method := built.resolvedMethod.getD session.parameters.method } }
  match built.walk[session.currentStep]? with
  | some chain => .ok (session, chain)
  | none => .error (.simulatorError "Walker reached end of data")

/-- A served request answers, or commits first. -/
def Route.answered (route : Route) : Except ChainError (Session × Chain) → SessionStage Chain
  | .ok (session, chain) =>
      match route with
      | .peek => .done (.ok (.peeked session chain))
      | .advance => .saving session chain
  | .error e => .refused (.simulatorError e.toString)

/-- A committed advance answers, or drops its walk first. -/
def advancedStage (session : Session) (chain : Chain) : SessionStage Chain :=
  if session.state = .completed then .removing session.id (.advanced session chain)
  else .done (.ok (.advanced session chain))

namespace SessionManager

def empty : SessionManager Chain where
  sessions := .empty
  walks := .empty
  issued := []
  events := []

/-- The read that begins a peek or an advance. -/
def read (manager : SessionManager Chain) (route : Route) (id : Uuid) :
    Except ChainError Session := do
  let session ← InMemorySessionStore.get manager.sessions id
  route.accept session
  return session

/-- The read that begins a parameter change, and what it is going to save. -/
def readToReplace (manager : SessionManager Chain) (id : Uuid)
    (parameters : SimulationParameters) (now : SystemTime) :
    Except ChainError (Session × Nat) := do
  let session ← InMemorySessionStore.get manager.sessions id
  let updated ← session.replaced parameters now
  return (updated, session.version)

/-- The read and the merge that begin a PATCH: what it read, and what it makes of it. -/
def merge (service : SessionService Chain) (manager : SessionManager Chain) (id : Uuid)
    (request : UpdateSessionRequest) (random : Nat) :
    Except ChainError (SimulationParameters × SimulationParameters) := do
  let session ← InMemorySessionStore.get manager.sessions id
  let merged ← applyUpdate service.numerics service.limits session.parameters request random
  return (session.parameters, merged)

/-- The stored session that a save of this one replaces. -/
def stored (manager : SessionManager Chain) (session : Session) : Session :=
  (manager.sessions.get? session.id).getD session

/-- The compare-and-swap that ends an advance. -/
def commit (manager : SessionManager Chain) (call : Nat) (now : SystemTime) (session : Session)
    (chain : Chain) : Except ChainError (SessionManager Chain × Session) := do
  let moved ← session.advanced now
  let sessions ← InMemorySessionStore.saveCas manager.sessions moved session.version
  return ({ manager with
    sessions := sessions
    events := manager.events ++ [.advanced call (manager.stored session) chain] }, moved)

/-- The compare-and-swap that ends a parameter change. -/
def change (manager : SessionManager Chain) (call : Nat) (session : Session)
    (expectedVersion : Nat) (change : Change) : Except ChainError (SessionManager Chain) := do
  let sessions ← InMemorySessionStore.saveCas manager.sessions session expectedVersion
  return { manager with
    sessions := sessions
    events := manager.events ++ [.replaced call (manager.stored session) session change] }

/-- The next section of a request. -/
def proceed (service : SessionService Chain) (call : Nat) (moment : SessionMoment)
    (manager : SessionManager Chain) :
    SessionStage Chain → Option (SessionManager Chain × SessionStage Chain)
  | .creating parameters =>
      if moment.draw ∈ manager.issued then none
      else
        let session := Session.withRandomId parameters moment.draw moment.now
        match InMemorySessionStore.create manager.sessions session with
        | .ok sessions =>
            some ({ manager with sessions, issued := manager.issued ++ [moment.draw] },
              .done (.ok (.created session)))
        | .error e => some (manager, .refused e)
  | .checking id expectedStep =>
      match InMemorySessionStore.get manager.sessions id with
      | .ok session =>
          if session.currentStep ≠ expectedStep then
            some (manager, .done (.ok (.preconditionFailed session)))
          else some (manager, .reading .advance id)
      | .error e => some (manager, .refused e)
  | .reading route id =>
      match manager.read route id with
      | .ok session => some (manager, .probing route session)
      | .error e => some (manager, .refused e)
  | .probing route session =>
      let stale := session.state = .reinitialized
      let needNewWalk := ¬ manager.walks.Holds session.id ∨ stale
      let walks := if stale then manager.walks.remove session.id else manager.walks
      some ({ manager with walks },
        if needNewWalk then .building route session else .hitting route session)
  | .building route session =>
      match createRandomWalk service.source session.id session.parameters with
      | .ok built => some (manager, .filing route session built)
      | .error e => some (manager, .refused (.simulatorError e.toString))
  | .filing route session built =>
      let (walks, entry) :=
        fileWalk service.maxCachedWalks manager.walks session.id built moment.instant
      some ({ manager with walks }, route.answered (serveStep entry session))
  | .hitting route session =>
      match manager.walks.find? session.id with
      | some entry =>
          some ({ manager with walks := manager.walks.touch session.id moment.instant },
            route.answered (serveStep entry.value session))
      | none =>
          some (manager, route.answered (.error (.internal
            s!"Failed to get random walk for session {session.id.hyphenated}")))
  | .saving session chain =>
      match manager.commit call moment.now session chain with
      | .ok (after, moved) => some (after, advancedStage moved chain)
      | .error e => some (manager, .refused e)
  | .merging id request =>
      match manager.merge service id request moment.seed with
      | .ok (base, parameters) =>
          some (manager, .replacing id parameters (.merge base request moment.seed))
      | .error e => some (manager, .refused e)
  | .replacing id parameters change =>
      match manager.readToReplace id parameters moment.now with
      | .ok (updated, expectedVersion) => some (manager, .storing updated expectedVersion change)
      | .error e => some (manager, .refused e)
  | .storing session expectedVersion change =>
      match manager.change call session expectedVersion change with
      | .ok after => some (after, .done (.ok (.replaced session)))
      | .error e => some (manager, .refused e)
  | .deleting id =>
      let (deleted, sessions) := InMemorySessionStore.delete manager.sessions id
      some ({ manager with sessions }, .removing id (.deleted id deleted))
  | .cleaning =>
      let (count, sessions) := InMemorySessionStore.cleanup moment.now manager.sessions
      some ({ manager with sessions }, .done (.ok (.cleaned count)))
  | .removing id answer =>
      some ({ manager with walks := manager.walks.remove id }, .done (.ok answer))
  | .done _ => none

end SessionManager

abbrev SessionCall (Chain : Type) := StagedCall (SessionStage Chain)
abbrev SessionInput := StagedInput SessionRequest SessionMoment

/-- The v1 calls on one manager. Nothing happens beside them. -/
def sessionCalls (service : SessionService Chain) :
    Protocol (SessionManager Chain) (SessionCall Chain) SessionInput Empty :=
  staged SessionRequest.stage SessionStage.awaits (SessionManager.proceed service)
    fun _ _ => none

end Sections

abbrev SessionConfig (Chain : Type) := Config (SessionManager Chain) (SessionCall Chain)
abbrev SessionAction := Action SessionInput Empty

section Inversion

variable {Chain : Type} {service : SessionService Chain} {call : Nat} {moment : SessionMoment}

/-- What a section of a v1 request can do. -/
inductive SessionStep (service : SessionService Chain) (call : Nat) (moment : SessionMoment)
    (before : SessionManager Chain) :
    SessionStage Chain → SessionManager Chain → SessionStage Chain → Prop where
  | create {parameters : SimulationParameters} {sessions : Sessions}
      (fresh : moment.draw ∉ before.issued)
      (created : InMemorySessionStore.create before.sessions
        (.withRandomId parameters moment.draw moment.now) = .ok sessions) :
      SessionStep service call moment before (.creating parameters)
        { before with sessions, issued := before.issued ++ [moment.draw] }
        (.done (.ok (.created (.withRandomId parameters moment.draw moment.now))))
  | refuseCreate {parameters : SimulationParameters} {e : ChainError} :
      SessionStep service call moment before (.creating parameters) before (.refused e)
  | check {id : Uuid} {session : Session}
      (found : InMemorySessionStore.get before.sessions id = .ok session) :
      SessionStep service call moment before (.checking id session.currentStep) before
        (.reading .advance id)
  | mismatch {id : Uuid} {expectedStep : Nat} {session : Session}
      (moved : session.currentStep ≠ expectedStep) :
      SessionStep service call moment before (.checking id expectedStep) before
        (.done (.ok (.preconditionFailed session)))
  | missCheck {id : Uuid} {expectedStep : Nat} {e : ChainError}
      (missing : InMemorySessionStore.get before.sessions id = .error e) :
      SessionStep service call moment before (.checking id expectedStep) before (.refused e)
  | read {route : Route} {id : Uuid} {session : Session}
      (found : before.read route id = .ok session) :
      SessionStep service call moment before (.reading route id) before (.probing route session)
  | refuseRead {route : Route} {id : Uuid} {e : ChainError}
      (failed : before.read route id = .error e) :
      SessionStep service call moment before (.reading route id) before (.refused e)
  | renew {route : Route} {session : Session} (stale : session.state = .reinitialized) :
      SessionStep service call moment before (.probing route session)
        { before with walks := before.walks.remove session.id } (.building route session)
  | begin {route : Route} {session : Session} (current : session.state ≠ .reinitialized)
      (absent : ¬ before.walks.Holds session.id) :
      SessionStep service call moment before (.probing route session) before
        (.building route session)
  | reuse {route : Route} {session : Session} (current : session.state ≠ .reinitialized)
      (held : before.walks.Holds session.id) :
      SessionStep service call moment before (.probing route session) before
        (.hitting route session)
  | build {route : Route} {session : Session} {built : BuiltWalk Chain}
      (succeeded : createRandomWalk service.source session.id session.parameters = .ok built) :
      SessionStep service call moment before (.building route session) before
        (.filing route session built)
  | refuseBuild {route : Route} {session : Session} {e : ChainError} :
      SessionStep service call moment before (.building route session) before
        (.refused (.simulatorError e.toString))
  | file {route : Route} {session : Session} {built entry : BuiltWalk Chain}
      {walks : WalkCache Chain}
      (filed : fileWalk service.maxCachedWalks before.walks session.id built moment.instant =
        (walks, entry)) :
      SessionStep service call moment before (.filing route session built)
        { before with walks } (route.answered (serveStep entry session))
  | hit {route : Route} {session : Session} {entry : CacheEntry Uuid (BuiltWalk Chain)}
      (found : before.walks.find? session.id = some entry) :
      SessionStep service call moment before (.hitting route session)
        { before with walks := before.walks.touch session.id moment.instant }
        (route.answered (serveStep entry.value session))
  | missHit {route : Route} {session : Session} {e : ChainError} :
      SessionStep service call moment before (.hitting route session) before
        (route.answered (.error e))
  | commit {session moved : Session} {chain : Chain} {after : SessionManager Chain}
      (saved : before.commit call moment.now session chain = .ok (after, moved)) :
      SessionStep service call moment before (.saving session chain) after
        (advancedStage moved chain)
  | lose {session : Session} {chain : Chain} {e : ChainError}
      (lost : before.commit call moment.now session chain = .error e) :
      SessionStep service call moment before (.saving session chain) before (.refused e)
  | merge {id : Uuid} {request : UpdateSessionRequest} {base parameters : SimulationParameters}
      (merged : before.merge service id request moment.seed = .ok (base, parameters)) :
      SessionStep service call moment before (.merging id request) before
        (.replacing id parameters (.merge base request moment.seed))
  | refuseMerge {id : Uuid} {request : UpdateSessionRequest} {e : ChainError} :
      SessionStep service call moment before (.merging id request) before (.refused e)
  | replace {id : Uuid} {parameters : SimulationParameters} {change : Change}
      {updated : Session} {expectedVersion : Nat}
      (found : before.readToReplace id parameters moment.now = .ok (updated, expectedVersion)) :
      SessionStep service call moment before (.replacing id parameters change) before
        (.storing updated expectedVersion change)
  | refuseReplace {id : Uuid} {parameters : SimulationParameters} {change : Change}
      {e : ChainError} :
      SessionStep service call moment before (.replacing id parameters change) before
        (.refused e)
  | change {session : Session} {expectedVersion : Nat} {change : Change}
      {after : SessionManager Chain}
      (saved : before.change call session expectedVersion change = .ok after) :
      SessionStep service call moment before (.storing session expectedVersion change) after
        (.done (.ok (.replaced session)))
  | refuseChange {session : Session} {expectedVersion : Nat} {change : Change}
      {e : ChainError}
      (failed : before.change call session expectedVersion change = .error e) :
      SessionStep service call moment before (.storing session expectedVersion change) before
        (.refused e)
  | delete {id : Uuid} :
      SessionStep service call moment before (.deleting id)
        { before with sessions := (InMemorySessionStore.delete before.sessions id).2 }
        (.removing id (.deleted id (InMemorySessionStore.delete before.sessions id).1))
  | cleanup :
      SessionStep service call moment before .cleaning
        { before with sessions := (InMemorySessionStore.cleanup moment.now before.sessions).2 }
        (.done (.ok (.cleaned (InMemorySessionStore.cleanup moment.now before.sessions).1)))
  | remove {id : Uuid} {answer : SessionAnswer Chain} :
      SessionStep service call moment before (.removing id answer)
        { before with walks := before.walks.remove id } (.done (.ok answer))

theorem sessionStep_of_proceed {before after : SessionManager Chain}
    {stage next : SessionStage Chain}
    (moved : before.proceed service call moment stage = some (after, next)) :
    SessionStep service call moment before stage after next := by
  unfold SessionManager.proceed at moved
  split at moved
  next parameters =>
    split_ifs at moved with given
    dsimp only at moved
    split at moved
    next sessions created =>
      cases moved
      exact .create given created
    next =>
      cases moved
      exact .refuseCreate
  next id expectedStep =>
    split at moved
    next session found =>
      split_ifs at moved with same
      · cases moved
        exact .mismatch same
      · cases moved
        rw [not_not] at same
        subst same
        exact .check found
    next e missing =>
      cases moved
      exact .missCheck missing
  next route id =>
    split at moved
    next session found =>
      cases moved
      exact .read found
    next e failed =>
      cases moved
      exact .refuseRead failed
  next route session =>
    cases moved
    by_cases stale : session.state = .reinitialized
    · simp only [stale, if_true, or_true]
      exact .renew stale
    · by_cases held : before.walks.Holds session.id
      · simp only [stale, held, if_false, or_false, not_true]
        exact .reuse stale held
      · simp only [stale, held, if_false, if_true, or_false, not_false_iff]
        exact .begin stale held
  next route session =>
    split at moved
    next built succeeded =>
      cases moved
      exact .build succeeded
    next =>
      cases moved
      exact .refuseBuild
  next route session built =>
    cases moved
    exact .file rfl
  next route session =>
    split at moved
    next entry found =>
      cases moved
      exact .hit found
    next =>
      cases moved
      exact .missHit
  next session chain =>
    split at moved
    next saved =>
      cases moved
      exact .commit saved
    next lost =>
      cases moved
      exact .lose lost
  next id request =>
    split at moved
    next merged =>
      cases moved
      exact .merge merged
    next =>
      cases moved
      exact .refuseMerge
  next id parameters change =>
    split at moved
    next found =>
      cases moved
      exact .replace found
    next =>
      cases moved
      exact .refuseReplace
  next session expectedVersion change =>
    split at moved
    next saved =>
      cases moved
      exact .change saved
    next failed =>
      cases moved
      exact .refuseChange failed
  next =>
    cases moved
    exact .delete
  next =>
    cases moved
    exact .cleanup
  next =>
    cases moved
    exact .remove
  next => cases moved

end Inversion

end OptionChainSimulator.Session
