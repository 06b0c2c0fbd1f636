import Mathlib.Tactic
import OptionChainSimulator.Domain.Series
import OptionChainSimulator.Session.Tapes
import OptionChainSimulator.Session.Store.V2Interface

namespace OptionChainSimulator.Session

open Foundation Utils Domain

/-! The requests a `SimulationManager` serves, each in the atomic sections between its
locks and its awaits. The warehouse is left out: filing a snapshot answers nobody. -/

inductive SimulationRequest where
  | create (parameters : SimulationParametersV2)
  | get (id : Uuid)
  | peek (id : Uuid)
  | advance (id : Uuid) (expectedStep : Option Nat)
  | delete (id : Uuid)
  | cleanup

inductive Route where
  | peek
  | advance
  deriving DecidableEq

/-- What a terminal simulation is told it lacks. -/
def Route.lacking : Route → String
  | .peek => "no current step"
  | .advance => "no further steps"

inductive Answer (Chain : Type) where
  | created (simulation : SessionV2)
  | found (simulation : SessionV2)
  | peeked (simulation : SessionV2) (snapshot : SeriesSnapshot Chain)
  | advanced (simulation : SessionV2) (snapshot : SeriesSnapshot Chain)
  | preconditionFailed (simulation : SessionV2)
  | deleted (id : Uuid) (deleted : Bool)
  | expired (ids : List Uuid)

/-- A call that panicked answers nothing. -/
abbrev Response (Chain : Type) := Except Fault (Answer Chain)

/-- The HTTP status the handlers give; `cleanup` is not a route. -/
def Answer.status {Chain : Type} : Answer Chain → Nat
  | .created _ => 201
  | .preconditionFailed _ => 412
  | .deleted _ false => 404
  | _ => 200

def status {Chain : Type} : Response Chain → Option Nat
  | .ok answer => some answer.status
  | .error (.error e) => some e.status
  | .error (.panic _) => none

/-- Where a request stands: what it does next. -/
inductive Stage (Chain : Type) where
  | creating (parameters : SimulationParametersV2)
  | getting (id : Uuid)
  | checking (id : Uuid) (expectedStep : Nat)
  | reading (route : Route) (id : Uuid)
  | looking (route : Route) (simulation : SessionV2)
  | fetching (route : Route) (simulation : SessionV2) (tape : TapeStage)
  | saving (simulation : SessionV2) (snapshot : SeriesSnapshot Chain)
  | deleting (id : Uuid)
  | cleaning
  | evictingTapes (ids : List Uuid) (answer : Answer Chain)
  | evictingSnapshots (id : Uuid) (rest : List Uuid) (answer : Answer Chain)
  | done (response : Response Chain)

/-- What a section reads from outside: the two clocks, and the next random id. -/
structure Moment where
  now : SystemTime
  instant : Nat
  draw : Uuid

/-- A committed advance: which call moved which simulation off which step. -/
structure Commit where
  call : Nat
  id : Uuid
  step : Nat
  deriving DecidableEq

/-- The store. The other two fields are history: the parameters each simulation was
created with, and the committed advances in order. -/
structure Ledger (store : SimulationStore) where
  documents : store.State
  created : Uuid → Option SimulationParametersV2
  commits : List Commit

structure Manager (Chain : Type) (store : SimulationStore) where
  ledger : Ledger store
  tapes : Tapes
  snapshots : SnapshotCache Chain

section Sections

variable {Chain : Type} {store : SimulationStore}

def SimulationRequest.stage : SimulationRequest → Stage Chain
  | .create parameters => .creating parameters
  | .get id => .getting id
  | .peek id => .reading .peek id
  | .advance id none => .reading .advance id
  | .advance id (some expectedStep) => .checking id expectedStep
  | .delete id => .deleting id
  | .cleanup => .cleaning

/-- A future can be dropped where it awaits. The answer of a store that did its work can
still be lost, before anything is evicted. -/
def Stage.awaits : Stage Chain → Bool
  | .fetching _ _ tape => tape.awaits
  | .looking .. | .evictingSnapshots .. | .done _ => false
  | _ => true

/-- A request that has its snapshot answers, or commits first. -/
def Route.served (simulation : SessionV2) (snapshot : SeriesSnapshot Chain) : Route → Stage Chain
  | .peek => .done (.ok (.peeked simulation snapshot))
  | .advance => .saving simulation snapshot

/-- A committed advance answers, or evicts first. -/
def committed (simulation : SessionV2) (snapshot : SeriesSnapshot Chain) : Stage Chain :=
  if simulation.state = .completed then
    .evictingTapes [simulation.id] (.advanced simulation snapshot)
  else .done (.ok (.advanced simulation snapshot))

def refused (e : ChainError) : Stage Chain := .done (.error (.error e))

def Ledger.empty : Ledger store where
  documents := store.empty
  created _ := none
  commits := []

/-- `store.create` of a new session. -/
def Ledger.create (ledger : Ledger store) (simulation : SessionV2) :
    Except ChainError (Ledger store) := do
  let documents ← store.create ledger.documents simulation
  return { ledger with
    documents := documents
    created := Function.update ledger.created simulation.id (some simulation.parameters) }

/-- The read that begins a peek or an advance. -/
def Ledger.read (ledger : Ledger store) (route : Route) (id : Uuid) :
    Except ChainError SessionV2 := do
  let simulation ← store.get ledger.documents id
  simulation.rejectTerminal route.lacking
  return simulation

/-- The compare-and-swap that ends an advance. -/
def Ledger.commit (ledger : Ledger store) (call : Nat) (now : SystemTime)
    (simulation : SessionV2) : Except ChainError (Ledger store × SessionV2) := do
  let moved ← simulation.advanced now
  let documents ← store.saveCas ledger.documents moved simulation.version
  return ({ ledger with
    documents := documents
    commits := ledger.commits ++ [⟨call, simulation.id, simulation.currentStep⟩] }, moved)

/-- The sections that concern the store. A new id is one that no simulation has had. -/
def Ledger.proceed (call : Nat) (moment : Moment) (ledger : Ledger store) :
    Stage Chain → Option (Ledger store × Stage Chain)
  | .creating parameters =>
      if (ledger.created moment.draw).isSome then none
      else
        let simulation := SessionV2.new parameters moment.draw moment.now
        match ledger.create simulation with
        | .ok after => some (after, .done (.ok (.created simulation)))
        | .error e => some (ledger, refused e)
  | .getting id =>
      match store.get ledger.documents id with
      | .ok simulation => some (ledger, .done (.ok (.found simulation)))
      | .error e => some (ledger, refused e)
  | .checking id expectedStep =>
      match store.get ledger.documents id with
      | .ok simulation =>
          if simulation.currentStep ≠ expectedStep then
            some (ledger, .done (.ok (.preconditionFailed simulation)))
          else some (ledger, .reading .advance id)
      | .error e => some (ledger, refused e)
  | .reading route id =>
      match ledger.read route id with
      | .ok simulation => some (ledger, .looking route simulation)
      | .error e => some (ledger, refused e)
  | .saving simulation snapshot =>
      match ledger.commit call moment.now simulation with
      | .ok (after, moved) => some (after, committed moved snapshot)
      | .error e => some (ledger, refused e)
  | .deleting id =>
      let (deleted, documents) := store.delete ledger.documents id
      some ({ ledger with documents }, .evictingTapes [id] (.deleted id deleted))
  | .cleaning =>
      let (expired, documents) := store.cleanup moment.now ledger.documents
      some ({ ledger with documents }, .evictingTapes expired (.expired expired))
  | _ => none

variable (runtime : Runtime Chain)

def Manager.new (store : SimulationStore) : Manager Chain store where
  ledger := .empty
  tapes := .empty
  snapshots :=
    .withBounds runtime.config.maxCachedSnapshots runtime.config.maxCachedSnapshotContracts

/-- `SeriesBuilder::new(..)?.snapshot(step)?` over a tape. -/
def Runtime.snapshot (simulation : SessionV2) (tape : FactorTape) :
    Except Fault (SeriesSnapshot Chain) :=
  snapshotOver runtime.service runtime.upstream simulation.parameters tape simulation.currentStep

/-- The next section of a request. -/
def Manager.proceed (call : Nat) (moment : Moment) (manager : Manager Chain store) :
    Stage Chain → Option (Manager Chain store × Stage Chain)
  | .looking route simulation =>
      match manager.snapshots.get simulation.id simulation.currentStep moment.instant with
      | some (snapshot, snapshots) =>
          some ({ manager with snapshots }, route.served simulation snapshot)
      | none => some (manager, .fetching route simulation .cached)
  | .fetching _ _ (.returned (.error e)) => some (manager, refused e)
  | .fetching route simulation (.returned (.ok tape)) =>
      match runtime.snapshot simulation tape with
      | .ok snapshot =>
          some ({ manager with
              snapshots := manager.snapshots.insert runtime.upstream simulation.id snapshot
                moment.instant },
            route.served simulation snapshot)
      | .error fault => some (manager, .done (.error fault))
  | .fetching route simulation tape =>
      (manager.tapes.tapeFor call simulation.id simulation.parameters moment.instant tape).map
        fun (tapes, next) => ({ manager with tapes }, .fetching route simulation next)
  | .evictingTapes [] answer => some (manager, .done (.ok answer))
  | .evictingTapes (id :: rest) answer =>
      some ({ manager with tapes := manager.tapes.evict id }, .evictingSnapshots id rest answer)
  | .evictingSnapshots id rest answer =>
      some ({ manager with snapshots := manager.snapshots.evictSimulation id },
        .evictingTapes rest answer)
  | stage =>
      (manager.ledger.proceed call moment stage).map fun (ledger, next) =>
        ({ manager with ledger }, next)

abbrev SimulationCall (Chain : Type) := StagedCall (Stage Chain)
abbrev SimulationInput := StagedInput SimulationRequest Moment

/-- What happens beside the requests: blocking tasks run, entries leave the caches, and
the store's own time passes. -/
inductive SimulationTick where
  | runTask (call now : Nat)
  | evictTape (id : Uuid)
  | evictSnapshot (id : Uuid) (step : Nat)
  | elapse (milliseconds : Nat)

def Manager.tick (manager : Manager Chain store) : SimulationTick → Option (Manager Chain store)
  | .runTask call now =>
      (manager.tapes.runTask runtime call now).map fun tapes => { manager with tapes }
  | .evictTape id => some { manager with tapes := manager.tapes.evict id }
  | .evictSnapshot id step =>
      some { manager with snapshots := manager.snapshots.removeEntry (id, step) }
  | .elapse milliseconds =>
      some { manager with
        ledger := { manager.ledger with
          documents := store.elapse milliseconds manager.ledger.documents } }

/-- The calls over a shared state whose sections are given. -/
def simulationCalls {Shared : Type}
    (proceed : Nat → Moment → Shared → Stage Chain → Option (Shared × Stage Chain))
    (tick : SimulationTick → Shared → Option Shared) :
    Protocol Shared (SimulationCall Chain) SimulationInput SimulationTick :=
  staged SimulationRequest.stage Stage.awaits proceed tick

/-- The calls on one manager. -/
def managerCalls (store : SimulationStore) :
    Protocol (Manager Chain store) (SimulationCall Chain) SimulationInput SimulationTick :=
  simulationCalls (Manager.proceed runtime) fun input manager => manager.tick runtime input

end Sections

abbrev SimulationConfig (Chain : Type) (store : SimulationStore) :=
  Config (Manager Chain store) (SimulationCall Chain)

abbrev SimulationAction := Action SimulationInput SimulationTick

section Inversion

variable {Chain : Type} {store : SimulationStore} {runtime : Runtime Chain} {call : Nat}
  {moment : Moment}

/-- What a section that concerns the store can do. -/
inductive LedgerStep (call : Nat) (moment : Moment) (before : Ledger store) :
    Stage Chain → Ledger store → Stage Chain → Prop where
  | create {parameters : SimulationParametersV2} {after : Ledger store}
      (fresh : before.created moment.draw = none)
      (created : before.create (.new parameters moment.draw moment.now) = .ok after) :
      LedgerStep call moment before (.creating parameters) after
        (.done (.ok (.created (.new parameters moment.draw moment.now))))
  | refuseCreate {parameters : SimulationParametersV2} {e : ChainError}
      (failed : before.create (.new parameters moment.draw moment.now) = .error e) :
      LedgerStep call moment before (.creating parameters) before (refused e)
  | get {id : Uuid} {simulation : SessionV2}
      (found : store.get before.documents id = .ok simulation) :
      LedgerStep call moment before (.getting id) before (.done (.ok (.found simulation)))
  | missGet {id : Uuid} {e : ChainError} (missing : store.get before.documents id = .error e) :
      LedgerStep call moment before (.getting id) before (refused e)
  | check {id : Uuid} {simulation : SessionV2}
      (found : store.get before.documents id = .ok simulation) :
      LedgerStep call moment before (.checking id simulation.currentStep) before
        (.reading .advance id)
  | mismatch {id : Uuid} {expectedStep : Nat} {simulation : SessionV2}
      (found : store.get before.documents id = .ok simulation)
      (moved : simulation.currentStep ≠ expectedStep) :
      LedgerStep call moment before (.checking id expectedStep) before
        (.done (.ok (.preconditionFailed simulation)))
  | missCheck {id : Uuid} {expectedStep : Nat} {e : ChainError}
      (missing : store.get before.documents id = .error e) :
      LedgerStep call moment before (.checking id expectedStep) before (refused e)
  | read {route : Route} {id : Uuid} {simulation : SessionV2}
      (found : before.read route id = .ok simulation) :
      LedgerStep call moment before (.reading route id) before (.looking route simulation)
  | refuseRead {route : Route} {id : Uuid} {e : ChainError}
      (failed : before.read route id = .error e) :
      LedgerStep call moment before (.reading route id) before (refused e)
  | commit {simulation moved : SessionV2} {snapshot : SeriesSnapshot Chain}
      {after : Ledger store}
      (saved : before.commit call moment.now simulation = .ok (after, moved)) :
      LedgerStep call moment before (.saving simulation snapshot) after (committed moved snapshot)
  | lose {simulation : SessionV2} {snapshot : SeriesSnapshot Chain} {e : ChainError}
      (lost : before.commit call moment.now simulation = .error e) :
      LedgerStep call moment before (.saving simulation snapshot) before (refused e)
  | delete {id : Uuid} :
      LedgerStep call moment before (.deleting id)
        { before with documents := (store.delete before.documents id).2 }
        (.evictingTapes [id] (.deleted id (store.delete before.documents id).1))
  | cleanup :
      LedgerStep call moment before .cleaning
        { before with documents := (store.cleanup moment.now before.documents).2 }
        (.evictingTapes (store.cleanup moment.now before.documents).1
          (.expired (store.cleanup moment.now before.documents).1))

theorem ledgerStep_of_proceed {before after : Ledger store} {stage next : Stage Chain}
    (moved : before.proceed call moment stage = some (after, next)) :
    LedgerStep call moment before stage after next := by
  cases stage with
  | creating parameters =>
      simp only [Ledger.proceed, Option.isSome_iff_ne_none, ne_eq, ite_not] at moved
      split_ifs at moved with fresh
      cases created : before.create (.new parameters moment.draw moment.now) with
      | ok ledger =>
          simp only [created] at moved
          cases moved
          exact .create fresh created
      | error e =>
          simp only [created] at moved
          cases moved
          exact .refuseCreate created
  | getting id =>
      cases found : store.get before.documents id with
      | ok simulation =>
          simp only [Ledger.proceed, found] at moved
          cases moved
          exact .get found
      | error e =>
          simp only [Ledger.proceed, found] at moved
          cases moved
          exact .missGet found
  | checking id expectedStep =>
      cases found : store.get before.documents id with
      | ok simulation =>
          simp only [Ledger.proceed, found, ne_eq, ite_not] at moved
          split_ifs at moved with same
          · cases moved
            subst same
            exact .check found
          · cases moved
            exact .mismatch found same
      | error e =>
          simp only [Ledger.proceed, found] at moved
          cases moved
          exact .missCheck found
  | reading route id =>
      cases found : before.read route id with
      | ok simulation =>
          simp only [Ledger.proceed, found] at moved
          cases moved
          exact .read found
      | error e =>
          simp only [Ledger.proceed, found] at moved
          cases moved
          exact .refuseRead found
  | saving simulation snapshot =>
      cases saved : before.commit call moment.now simulation with
      | ok kept =>
          simp only [Ledger.proceed, saved] at moved
          cases moved
          exact .commit saved
      | error e =>
          simp only [Ledger.proceed, saved] at moved
          cases moved
          exact .lose saved
  | deleting id =>
      cases moved
      exact .delete
  | cleaning =>
      cases moved
      exact .cleanup
  | looking | fetching | evictingTapes | evictingSnapshots | done => cases moved

/-- What a section of a request can do. -/
inductive ManagerStep (runtime : Runtime Chain) (call : Nat) (moment : Moment)
    (before : Manager Chain store) : Stage Chain → Manager Chain store → Stage Chain → Prop where
  | ledger {stage next : Stage Chain} {after : Ledger store}
      (moved : before.ledger.proceed call moment stage = some (after, next)) :
      ManagerStep runtime call moment before stage { before with ledger := after } next
  | hit {route : Route} {simulation : SessionV2} {snapshot : SeriesSnapshot Chain}
      {after : SnapshotCache Chain}
      (found : before.snapshots.get simulation.id simulation.currentStep moment.instant =
        some (snapshot, after)) :
      ManagerStep runtime call moment before (.looking route simulation)
        { before with snapshots := after } (route.served simulation snapshot)
  | miss {route : Route} {simulation : SessionV2} :
      ManagerStep runtime call moment before (.looking route simulation) before
        (.fetching route simulation .cached)
  | fetch {route : Route} {simulation : SessionV2} {tape next : TapeStage} {after : Tapes}
      (stepped : TapeStep call simulation.id simulation.parameters moment.instant before.tapes
        tape after next) :
      ManagerStep runtime call moment before (.fetching route simulation tape)
        { before with tapes := after } (.fetching route simulation next)
  | refuseTape {route : Route} {simulation : SessionV2} {e : ChainError} :
      ManagerStep runtime call moment before
        (.fetching route simulation (.returned (.error e))) before (refused e)
  | price {route : Route} {simulation : SessionV2} {tape : FactorTape}
      {snapshot : SeriesSnapshot Chain} (built : runtime.snapshot simulation tape = .ok snapshot) :
      ManagerStep runtime call moment before (.fetching route simulation (.returned (.ok tape)))
        { before with
          snapshots := before.snapshots.insert runtime.upstream simulation.id snapshot
            moment.instant }
        (route.served simulation snapshot)
  | refusePrice {route : Route} {simulation : SessionV2} {tape : FactorTape} {fault : Fault}
      (failed : runtime.snapshot simulation tape = .error fault) :
      ManagerStep runtime call moment before (.fetching route simulation (.returned (.ok tape)))
        before (.done (.error fault))
  | evicted {answer : Answer Chain} :
      ManagerStep runtime call moment before (.evictingTapes [] answer) before
        (.done (.ok answer))
  | evictTape {id : Uuid} {rest : List Uuid} {answer : Answer Chain} :
      ManagerStep runtime call moment before (.evictingTapes (id :: rest) answer)
        { before with tapes := before.tapes.evict id } (.evictingSnapshots id rest answer)
  | evictSnapshots {id : Uuid} {rest : List Uuid} {answer : Answer Chain} :
      ManagerStep runtime call moment before (.evictingSnapshots id rest answer)
        { before with snapshots := before.snapshots.evictSimulation id }
        (.evictingTapes rest answer)

theorem managerStep_of_proceed {before after : Manager Chain store} {stage next : Stage Chain}
    (moved : before.proceed runtime call moment stage = some (after, next)) :
    ManagerStep runtime call moment before stage after next := by
  unfold Manager.proceed at moved
  split at moved
  next route simulation =>
    split at moved
    next snapshot snapshots found =>
      cases moved
      exact .hit found
    next =>
      cases moved
      exact .miss
  next =>
    cases moved
    exact .refuseTape
  next route simulation tape =>
    split at moved
    next snapshot built =>
      cases moved
      exact .price built
    next fault failed =>
      cases moved
      exact .refusePrice failed
  next =>
    obtain ⟨⟨tapes, next⟩, stepped, equal⟩ := Option.map_eq_some_iff.mp moved
    cases equal
    exact .fetch (tapeStep_of_tapeFor stepped)
  next =>
    cases moved
    exact .evicted
  next =>
    cases moved
    exact .evictTape
  next =>
    cases moved
    exact .evictSnapshots
  next =>
    obtain ⟨⟨ledger, next⟩, stepped, equal⟩ := Option.map_eq_some_iff.mp moved
    cases equal
    exact .ledger stepped

end Inversion

end OptionChainSimulator.Session
