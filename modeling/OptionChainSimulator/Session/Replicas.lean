import Mathlib.Tactic
import OptionChainSimulator.Session.Linearized

namespace OptionChainSimulator.Session

open Foundation Foundation.Protocol Utils Domain

/-! Replicas of the service over one Redis store, each a process with tapes, builds and snapshots
of its own. One that is restarted is another one, and one that has died serves no call further. -/

section Model

variable {Chain : Type} {store : SimulationStore}

structure Deployment (Chain : Type) where
  service : Service
  upstream : Upstream Chain
  configs : Nat → SimulationV2Config
  /-- The replica that takes a call. -/
  host : Nat → Nat

abbrev Deployment.runtime (deployment : Deployment Chain) (replica : Nat) : Runtime Chain where
  service := deployment.service
  upstream := deployment.upstream
  config := deployment.configs replica

structure Replicas (Chain : Type) (store : SimulationStore) where
  ledger : Ledger store
  tapes : Nat → Tapes
  snapshots : Nat → SnapshotCache Chain

namespace Replicas

def manager (replicas : Replicas Chain store) (replica : Nat) : Manager Chain store where
  ledger := replicas.ledger
  tapes := replicas.tapes replica
  snapshots := replicas.snapshots replica

def put (replicas : Replicas Chain store) (replica : Nat) (manager : Manager Chain store) :
    Replicas Chain store where
  ledger := manager.ledger
  tapes := Function.update replicas.tapes replica manager.tapes
  snapshots := Function.update replicas.snapshots replica manager.snapshots

variable (deployment : Deployment Chain)

def new (store : SimulationStore) : Replicas Chain store where
  ledger := .empty
  tapes _ := .empty
  snapshots replica := (Manager.new (deployment.runtime replica) store).snapshots

end Replicas

/-- The calls on all replicas. -/
def replicaCalls (deployment : Deployment Chain) (store : SimulationStore) :
    Protocol (Replicas Chain store) (SimulationCall Chain) SimulationInput
      (Nat × SimulationTick) where
  idle := .idle
  move call input replicas phase :=
    let replica := deployment.host call
    ((managerCalls (deployment.runtime replica) store).move call input (replicas.manager replica)
      phase).map fun (manager, next) => (replicas.put replica manager, next)
  tick input replicas :=
    ((managerCalls (deployment.runtime input.1) store).tick input.2
      (replicas.manager input.1)).map (replicas.put input.1)

/-- The calls served at one instant each, by whichever replica: none caches anything. -/
def replicasAtOnce (deployment : Deployment Chain) (store : SimulationStore) :
    Protocol (Ledger store) (AtOnceCall Chain) SimulationInput (Nat × SimulationTick) where
  idle := .idle
  move call := (atOnceCalls (deployment.runtime (deployment.host call)) store).move call
  tick input := (atOnceCalls (deployment.runtime input.1) store).tick input.2

abbrev ReplicaConfig (Chain : Type) (store : SimulationStore) :=
  Config (Replicas Chain store) (SimulationCall Chain)

abbrev ReplicaAction := Action SimulationInput (Nat × SimulationTick)

end Model

section Facts

variable {Chain : Type} {store : SimulationStore} {deployment : Deployment Chain}
  {atomic : store.Atomic deployment.service} {before : Replicas Chain store}
  {manager : Manager Chain store} {replica other call : Nat} {phase : SimulationCall Chain}

namespace Replicas

@[simp] theorem ledger_manager : (before.manager replica).ledger = before.ledger := rfl

@[simp] theorem ledger_put : (before.put replica manager).ledger = manager.ledger := rfl

@[simp] theorem manager_put : (before.put replica manager).manager replica = manager := by
  simp [Replicas.manager, put]

theorem manager_put_of_ne (different : other ≠ replica) :
    (before.put replica manager).manager other =
      { before.manager other with ledger := manager.ledger } := by
  simp [Replicas.manager, put, Function.update_of_ne different]

/-- What each replica relies on. -/
def Sound (atomic : store.Atomic deployment.service) (replicas : Replicas Chain store) : Prop :=
  ∀ replica, ManagerFacts (deployment.runtime replica) atomic (replicas.manager replica)

theorem sound_new : Sound atomic (new deployment store) :=
  fun replica => (@start_backed Chain store (deployment.runtime replica) atomic).shared

/-- What a replica writes to the store leaves the caches of the others sound. -/
theorem Sound.put (sound : Sound atomic before)
    (facts : ManagerFacts (deployment.runtime replica) atomic manager)
    {others : Nat → Prop} (grows : before.ledger.Grows others manager.ledger) :
    Sound atomic (before.put replica manager) := by
  intro other
  by_cases same : other = replica
  · subst same
    rw [manager_put]
    exact facts
  · rw [manager_put_of_ne same]
    refine ⟨facts.ledger, (sound other).tapes.mono fun _ _ => grows.created, ?_⟩
    apply (sound other).snapshots.mono
    intro key snapshot filed
    obtain ⟨parameters, owned, built⟩ := filed
    exact ⟨parameters, grows.created owned, built⟩

theorem grows_put {others : Nat → Prop} (grows : (before.manager replica).Grows others manager)
    (other : Nat) :
    (before.manager other).Grows others ((before.put replica manager).manager other) := by
  by_cases same : other = replica
  · subst same
    rwa [manager_put]
  · rw [manager_put_of_ne same]
    exact ⟨grows.ledger, .of_same rfl rfl⟩

end Replicas

/-- What a call relies on, of the replica that has taken it. -/
def BackedByHost (deployment : Deployment Chain) (call : Nat) (replicas : Replicas Chain store)
    (phase : SimulationCall Chain) : Prop :=
  phase.Backed (deployment.runtime (deployment.host call)) call
    (replicas.manager (deployment.host call))

variable {after : Replicas Chain store} {nextPhase : SimulationCall Chain}
  {input : SimulationInput}

theorem replica_move (moved : (replicaCalls deployment store).move call input before phase =
      some (after, nextPhase)) :
    ∃ manager, (managerCalls (deployment.runtime (deployment.host call)) store).move call input
        (before.manager (deployment.host call)) phase = some (manager, nextPhase) ∧
      after = before.put (deployment.host call) manager := by
  obtain ⟨⟨manager, next⟩, moved, same⟩ := Option.map_eq_some_iff.mp moved
  cases same
  exact ⟨manager, moved, rfl⟩

theorem replicas_free : (replicaCalls deployment store).FreeOfInterference (fun _ _ _ _ => True)
    (Replicas.Sound atomic) (BackedByHost deployment) where
  move sound backed _ moved := by
    obtain ⟨manager, hosted, rfl⟩ := replica_move moved
    obtain ⟨facts, grows, own⟩ := backed_of_move (sound _) backed hosted
    refine ⟨sound.put facts grows.ledger, ?_⟩
    rw [BackedByHost, Replicas.manager_put]
    exact own
  others sound backed _ moved other different phase held := by
    obtain ⟨manager, hosted, rfl⟩ := replica_move moved
    obtain ⟨-, grows, -⟩ := backed_of_move (sound _) backed hosted
    exact SimulationCall.Backed.grow held (Replicas.grows_put grows _) different
  tick sound ticked := by
    obtain ⟨manager, hosted, rfl⟩ := Option.map_eq_some_iff.mp ticked
    obtain ⟨facts, grows⟩ := backed_of_tick (sound _) hosted
    refine ⟨sound.put facts grows.ledger, fun call phase held => ?_⟩
    exact SimulationCall.Backed.grow held (Replicas.grows_put grows _) trivial

theorem start_replicas : Holds (Replicas.Sound atomic) (BackedByHost deployment)
    ((replicaCalls deployment store).start (.new deployment store)) where
  shared := Replicas.sound_new
  own call :=
    (@start_backed Chain store (deployment.runtime (deployment.host call)) atomic).own call

end Facts

section Simulation

variable {Chain : Type} {store : SimulationStore} {deployment : Deployment Chain}
  {atomic : store.Atomic deployment.service}

/-- The same store, every call where the request at once stands, and every copy held current. -/
structure ServedAsOne (atomic : store.Atomic deployment.service)
    (config : ReplicaConfig Chain store) (model : Config (Ledger store) (AtOnceCall Chain)) :
    Prop where
  backed : Holds (Replicas.Sound atomic) (BackedByHost deployment) config
  current : ∀ call, @SimulationCall.HoldsCurrent Chain (deployment.runtime 0) store atomic
    config.shared.ledger (config.calls call)
  ledger : model.shared = config.shared.ledger
  calls : ∀ call, (config.calls call).Effected (deployment.runtime (deployment.host call))
    (model.calls call)

variable {config nextConfig : ReplicaConfig Chain store}
  {model : Config (Ledger store) (AtOnceCall Chain)} {action : ReplicaAction}

theorem servedAsOne_of_step (served : ServedAsOne atomic config model)
    (stepped : (replicaCalls deployment store).step config action = some nextConfig) :
    ServedAsOne atomic nextConfig model ∨
      ∃ nextModel, (replicasAtOnce deployment store).step model action = some nextModel ∧
        ServedAsOne atomic nextConfig nextModel := by
  have backed := replicas_free.preserved served.backed atCall_unguarded stepped
  cases action with
  | call index input =>
      obtain ⟨after, phase, moved, rfl⟩ := step_call_eq_some.mp stepped
      obtain ⟨manager, hosted, rfl⟩ := replica_move moved
      obtain ⟨revises, own, matched⟩ := effected_of_move (served.backed.shared _)
        (served.backed.own index) (served.current index) (served.calls index) hosted
      have current : ∀ call, (Function.update config.calls index phase call).HoldsCurrent atomic
          manager.ledger :=
        forall_update own fun call =>
          (served.current call).revise (served.backed.own call) revises
      obtain ⟨same, effected⟩ | ⟨reference, movedModel, effected⟩ := matched
      · exact .inl ⟨backed, current, served.ledger.trans same.symm,
          related_update_left served.calls effected⟩
      · rw [Replicas.ledger_manager, ← served.ledger] at movedModel
        exact .inr ⟨_, step_call_eq_some.mpr ⟨_, _, movedModel, rfl⟩,
          ⟨backed, current, rfl, related_update served.calls effected⟩⟩
  | background input =>
      obtain ⟨after, ticked, rfl⟩ := step_background_eq_some.mp stepped
      obtain ⟨manager, hosted, rfl⟩ := Option.map_eq_some_iff.mp ticked
      have revises := revises_of_tick (served.backed.shared _) hosted
      have current : ∀ call, (config.calls call).HoldsCurrent atomic manager.ledger :=
        fun call => (served.current call).revise (served.backed.own call) revises
      cases effected_of_tick hosted with
      | inl same =>
          exact .inl ⟨backed, current, served.ledger.trans same.symm, served.calls⟩
      | inr moved =>
          rw [Replicas.ledger_manager, ← served.ledger] at moved
          exact .inr ⟨_, step_background_eq_some.mpr ⟨_, moved, rfl⟩,
            ⟨backed, current, rfl, served.calls⟩⟩

end Simulation

section Theorem

variable {Chain : Type} {store : SimulationStore} {deployment : Deployment Chain}
  {atomic : store.Atomic deployment.service} {config : ReplicaConfig Chain store}
  {model : Config (Ledger store) (AtOnceCall Chain)}

/-- The calls were served as if each at one instant, every step was served once and in order, and
every snapshot is the one that any replica would build anew. -/
structure ActsAsOne (deployment : Deployment Chain) (config : ReplicaConfig Chain store)
    (model : Config (Ledger store) (AtOnceCall Chain)) : Prop where
  ledger : model.shared = config.shared.ledger
  answered : AnsweredAtOnce config model
  steps : ∀ {id parameters}, config.shared.ledger.created id = some parameters →
    ∃ count ≤ parameters.steps, config.shared.ledger.steps id = List.range count
  peeked : ∀ {call simulation snapshot},
    config.calls call = .active (.done (.ok (.peeked simulation snapshot))) →
    config.shared.ledger.created simulation.id = some simulation.parameters ∧
      ∀ replica, (deployment.runtime replica).freshSnapshot simulation.parameters
        simulation.currentStep = .ok snapshot
  advanced : ∀ {call simulation snapshot},
    config.calls call = .active (.done (.ok (.advanced simulation snapshot))) →
    config.shared.ledger.created simulation.id = some simulation.parameters ∧
      ∃ step, simulation.currentStep = step + 1 ∧
        ⟨call, simulation.id, step⟩ ∈ config.shared.ledger.commits ∧
        ∀ replica, (deployment.runtime replica).freshSnapshot simulation.parameters step =
          .ok snapshot

theorem actsAsOne_of_served (served : ServedAsOne atomic config model) :
    ActsAsOne deployment config model where
  ledger := served.ledger
  answered := answeredAtOnce_of_effected served.calls
  steps {id parameters} created := by
    obtain ⟨count, held⟩ := (served.backed.shared 0).ledger.served id
    exact ⟨count, held.within created, held.steps⟩
  peeked {call simulation snapshot} done := by
    obtain ⟨known, built⟩ := (served.backed.own call).active done
    exact ⟨known.owned, fun _ => built⟩
  advanced {call simulation snapshot} done := by
    obtain ⟨known, step, moved, built, committed⟩ := (served.backed.own call).active done
    exact ⟨known.owned, step, moved, committed, fun _ => built⟩

/-- Replicas over one Redis store act as one service that caches nothing and serves each call at
one instant: however many there are, whatever each of them caches, whichever takes a call, and
wherever one of them stops for good. -/
theorem replicas_act_as_one {retentionSecs : Nat} {actions : List ReplicaAction}
    {last : ReplicaConfig Chain (inRedisSimulationStore deployment.service retentionSecs)}
    (ran : (replicaCalls deployment _).run
      ((replicaCalls deployment _).start (.new deployment _)) actions = some last) :
    ∃ kept model, List.Sublist kept actions ∧
      (replicasAtOnce deployment (inRedisSimulationStore deployment.service retentionSecs)).run
        ((replicasAtOnce deployment _).start .empty) kept = some model ∧
      ActsAsOne deployment last model := by
  have starts : ServedAsOne (inRedisSimulationStore.atomic deployment.service retentionSecs)
      ((replicaCalls deployment _).start (.new deployment _))
      ((replicasAtOnce deployment _).start .empty) := by
    refine ⟨start_replicas, fun call stage running => ?_, rfl, fun _ => .idle⟩
    cases running
  obtain ⟨kept, model, within, modelRan, served⟩ := simulated_run servedAsOne_of_step starts ran
  exact ⟨kept, model, within, modelRan, actsAsOne_of_served served⟩

end Theorem

/-! Two replicas race for the first step of a simulation that a third has created, and each builds
its tape. -/

def oneEach : Deployment Domain.Positive where
  service := utcService
  upstream := kernelRuntime.upstream
  configs _ := flatRuntime.config
  host call := call

def onReplica (replica : Nat) : SimulationAction → ReplicaAction
  | .call index input => .call index input
  | .background tick => .background (replica, tick)

def advancingToSave (call : Nat) : List ReplicaAction :=
  List.map (onReplica call) <|
    .call call (.request (.advance someId none)) :: sections call 4 ++
      .background (.runTask call 0) :: sections call 4

def racingReplicas : List ReplicaAction :=
  creatingTwoDays.map (onReplica 0) ++ advancingToSave 1 ++ advancingToSave 2 ++
    (sections 2 1 ++ sections 1 1).map (onReplica 0)

abbrev replicasOfRedis := replicaCalls oneEach (inRedisSimulationStore utcService 60)

theorem replicas_act_as_one_racing :
    ∃ last,
      replicasOfRedis.run (replicasOfRedis.start (.new oneEach _)) racingReplicas = some last ∧
      ∃ kept model, List.Sublist kept racingReplicas ∧
        (replicasAtOnce oneEach (inRedisSimulationStore utcService 60)).run
          ((replicasAtOnce oneEach _).start .empty) kept = some model ∧
        ActsAsOne oneEach last model := by
  obtain ⟨last, ran⟩ := Option.isSome_iff_exists.mp
    (by decide +kernel :
      (replicasOfRedis.run (replicasOfRedis.start (.new oneEach _)) racingReplicas).isSome)
  exact ⟨last, ran, replicas_act_as_one ran⟩

end OptionChainSimulator.Session
