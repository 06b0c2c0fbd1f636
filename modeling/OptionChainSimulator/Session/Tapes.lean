import Mathlib.Tactic
import OptionChainSimulator.Foundation.Interleaving
import OptionChainSimulator.Foundation.RecencyCache
import OptionChainSimulator.Utils.Uuid
import OptionChainSimulator.Domain.Factors

namespace OptionChainSimulator.Session

open Foundation Utils Domain

/-! The factor tapes of `SimulationManager`: a bounded cache of built tapes, and one
shared build for the calls that miss it together. -/

/-- The bounds a configuration is loaded with; the tape bound is validated there. -/
structure SimulationV2Config where
  maxCachedTapes : Nat
  maxCachedSnapshots : Nat
  maxCachedSnapshotContracts : Nat
  tapesPositive : 1 ≤ maxCachedTapes

structure Runtime (Chain : Type) where
  service : Service
  upstream : Upstream Chain
  config : SimulationV2Config

/-- What awaiting a blocking task gives: a panic becomes an internal error. -/
def joined {α : Type} : Except Fault α → Except ChainError α
  | .ok value => .ok value
  | .error (.error e) => .error e
  | .error (.panic e) => .error (.internal s!"the factor tape build did not finish: {e}")

/-- `FactorTape::build(&parameters, &parameters.method)` in a blocking task. -/
def Runtime.build {Chain : Type} (runtime : Runtime Chain)
    (parameters : SimulationParametersV2) : Except ChainError FactorTape :=
  joined (FactorTape.build runtime.service runtime.upstream parameters parameters.method)

abbrev TapeCache := RecencyCache Uuid FactorTape

def cacheTape (maxCachedTapes : Nat) (id : Uuid) (tape : FactorTape) (now : Nat)
    (tapes : TapeCache) : TapeCache :=
  ((tapes.remove id).evictTo (·.lastAccess) (maxCachedTapes - 1)).insert id tape now

theorem holds_cacheTape_self {maxCachedTapes now : Nat} {id : Uuid} {tape : FactorTape}
    {tapes : TapeCache} : (cacheTape maxCachedTapes id tape now tapes).Holds id :=
  RecencyCache.holds_insert.mpr (.inl rfl)

theorem of_holds_cacheTape {maxCachedTapes now : Nat} {id other : Uuid} {tape : FactorTape}
    {tapes : TapeCache} (held : (cacheTape maxCachedTapes id tape now tapes).Holds other) :
    other = id ∨ tapes.Holds other := by
  apply (RecencyCache.holds_insert.mp held).imp_right
  apply RecencyCache.evictTo_induction fun left => left.Holds other → tapes.Holds other
  · intro cache key kept left
    exact kept (RecencyCache.holds_remove.mp left).1
  · intro left
    exact (RecencyCache.holds_remove.mp left).1

/-- What a broadcast channel's receivers can read. -/
inductive Broadcast where
  | silent
  | sent (result : Except String FactorTape)
  | closed

/-- The channel of a shared build, and the simulation it was opened for. -/
structure Channel where
  id : Uuid
  broadcast : Broadcast

/-- A task on the blocking pool. Dropping the call that spawned it does not stop it. -/
structure BlockingTask where
  id : Uuid
  parameters : SimulationParametersV2
  result : Option (Except ChainError FactorTape)

/-- Channels and tasks go by the call that opened or spawned them. The last two fields
are history: the builds started and the tapes that left the cache, in order. -/
structure Tapes where
  tapes : TapeCache
  builds : Uuid → Option Nat
  channels : Nat → Option Channel
  tasks : Nat → Option BlockingTask
  started : List Uuid
  evicted : List Uuid

/-- Where a call of `tape_for` stands. -/
inductive TapeStage where
  | cached
  | claiming
  | waiting (channel : Nat)
  | rescuing
  | building
  | releasing (result : Except ChainError FactorTape)
  | publishing (channel : Nat) (result : Except ChainError FactorTape)
  | returned (result : Except ChainError FactorTape)

/-- A future can be dropped before it is first polled and where it awaits. -/
def TapeStage.awaits : TapeStage → Bool
  | .cached | .waiting _ | .rescuing | .building => true
  | _ => false

/-- An owner that is still going to remove its entry and publish. -/
def TapeStage.owns : TapeStage → Bool
  | .building | .releasing _ => true
  | _ => false

/-- What the owner sends to the waiting calls: an error only as its text. -/
def published (result : Except ChainError FactorTape) : Except String FactorTape :=
  result.mapError (·.toString)

/-- What a waiting call makes of a broadcast. -/
def received (broadcast : Except String FactorTape) : Except ChainError FactorTape :=
  broadcast.mapError .internal

namespace Tapes

def empty : Tapes where
  tapes := .empty
  builds _ := none
  channels _ := none
  tasks _ := none
  started := []
  evicted := []

/-- The cache afterwards, with what went recorded. -/
def recache (tapes : Tapes) (after : TapeCache) : Tapes :=
  { tapes with
    tapes := after
    evicted := tapes.evicted ++
      (tapes.tapes.entries.map (·.key)).filter fun key => ¬ after.Holds key }

/-- `build_tape` up to its await. -/
def spawn (tapes : Tapes) (call : Nat) (id : Uuid) (parameters : SimulationParametersV2) :
    Tapes :=
  { tapes with
    tasks := Function.update tapes.tasks call (some ⟨id, parameters, none⟩)
    started := tapes.started ++ [id] }

/-- The result of a call's finished task. -/
def outcome (tapes : Tapes) (call : Nat) : Option (Except ChainError FactorTape) :=
  (tapes.tasks call).bind (·.result)

/-- The entry, the channel and the task of a new shared build. -/
def claim (tapes : Tapes) (call : Nat) (id : Uuid) (parameters : SimulationParametersV2) :
    Tapes :=
  { tapes with
    builds := Function.update tapes.builds id (some call)
    channels := Function.update tapes.channels call (some ⟨id, .silent⟩) }.spawn call id parameters

def send (tapes : Tapes) (channel : Nat) (result : Except ChainError FactorTape) : Tapes :=
  { tapes with
    channels := Function.update tapes.channels channel <|
      (tapes.channels channel).map fun opened =>
        { opened with broadcast := .sent (published result) } }

def release (tapes : Tapes) (id : Uuid) : Tapes :=
  { tapes with builds := Function.update tapes.builds id none }

def finish (tapes : Tapes) (call : Nat) (id : Uuid) (parameters : SimulationParametersV2)
    (result : Except ChainError FactorTape) : Tapes :=
  { tapes with tasks := Function.update tapes.tasks call (some ⟨id, parameters, some result⟩) }

/-- `evict`, the half that concerns tapes. -/
def evict (tapes : Tapes) (id : Uuid) : Tapes := tapes.recache (tapes.tapes.remove id)

/-- What `recv` finds on a channel. -/
def heard (tapes : Tapes) (channel : Nat) : Option Broadcast :=
  (tapes.channels channel).map fun opened => opened.broadcast

/-- The next section of a call of `tape_for`. -/
def tapeFor (call : Nat) (id : Uuid) (parameters : SimulationParametersV2) (now : Nat)
    (tapes : Tapes) : TapeStage → Option (Tapes × TapeStage)
  | .cached =>
      match tapes.tapes.find? id with
      | some entry =>
          some ({ tapes with tapes := tapes.tapes.touch id now }, .returned (.ok entry.value))
      | none => some (tapes, .claiming)
  | .claiming =>
      match tapes.builds id with
      | some channel => some (tapes, .waiting channel)
      | none => some (tapes.claim call id parameters, .building)
  | .waiting channel =>
      match tapes.heard channel with
      | some (.sent result) => some (tapes, .returned (received result))
      | some .closed => some (tapes.spawn call id parameters, .rescuing)
      | _ => none
  | .rescuing => (tapes.outcome call).map fun result => (tapes, .returned result)
  | .building => (tapes.outcome call).map fun result => (tapes, .releasing result)
  | .releasing result =>
      some (tapes.release id,
        match tapes.builds id with
        | some channel => .publishing channel result
        | none => .returned result)
  | .publishing channel result => some (tapes.send channel result, .returned result)
  | .returned _ => none

/-- A blocking task builds its tape and files it. -/
def runTask {Chain : Type} (runtime : Runtime Chain) (call now : Nat) (tapes : Tapes) :
    Option Tapes :=
  match tapes.tasks call with
  | some ⟨id, parameters, none⟩ =>
      let finished := tapes.finish call id parameters (runtime.build parameters)
      match runtime.build parameters with
      | .ok tape =>
          some (finished.recache (cacheTape runtime.config.maxCachedTapes id tape now tapes.tapes))
      | .error _ => some finished
  | _ => none

end Tapes

/-- What a section of a call can do. -/
inductive TapeStep (call : Nat) (id : Uuid) (parameters : SimulationParametersV2) (now : Nat)
    (before : Tapes) : TapeStage → Tapes → TapeStage → Prop where
  | hit {entry : CacheEntry Uuid FactorTape} (found : before.tapes.find? id = some entry) :
      TapeStep call id parameters now before .cached
        { before with tapes := before.tapes.touch id now } (.returned (.ok entry.value))
  | miss (absent : before.tapes.find? id = none) :
      TapeStep call id parameters now before .cached before .claiming
  | join {channel : Nat} (running : before.builds id = some channel) :
      TapeStep call id parameters now before .claiming before (.waiting channel)
  | own (vacant : before.builds id = none) :
      TapeStep call id parameters now before .claiming (before.claim call id parameters) .building
  | hear {channel : Nat} {result : Except String FactorTape}
      (sent : before.heard channel = some (.sent result)) :
      TapeStep call id parameters now before (.waiting channel) before
        (.returned (received result))
  | rescue {channel : Nat} (closed : before.heard channel = some .closed) :
      TapeStep call id parameters now before (.waiting channel)
        (before.spawn call id parameters) .rescuing
  | rescued {result : Except ChainError FactorTape}
      (finished : before.outcome call = some result) :
      TapeStep call id parameters now before .rescuing before (.returned result)
  | built {result : Except ChainError FactorTape}
      (finished : before.outcome call = some result) :
      TapeStep call id parameters now before .building before (.releasing result)
  | release {channel : Nat} {result : Except ChainError FactorTape}
      (registered : before.builds id = some channel) :
      TapeStep call id parameters now before (.releasing result) (before.release id)
        (.publishing channel result)
  | gone {result : Except ChainError FactorTape} (missing : before.builds id = none) :
      TapeStep call id parameters now before (.releasing result) (before.release id)
        (.returned result)
  | publish {channel : Nat} {result : Except ChainError FactorTape} :
      TapeStep call id parameters now before (.publishing channel result)
        (before.send channel result) (.returned result)

theorem tapeStep_of_tapeFor {call now : Nat} {id : Uuid} {parameters : SimulationParametersV2}
    {before after : Tapes} {stage next : TapeStage}
    (moved : Tapes.tapeFor call id parameters now before stage = some (after, next)) :
    TapeStep call id parameters now before stage after next := by
  cases stage with
  | cached =>
      cases found : before.tapes.find? id with
      | some entry =>
          simp only [Tapes.tapeFor, found] at moved
          cases moved
          exact .hit found
      | none =>
          simp only [Tapes.tapeFor, found] at moved
          cases moved
          exact .miss found
  | claiming =>
      cases running : before.builds id with
      | some channel =>
          simp only [Tapes.tapeFor, running] at moved
          cases moved
          exact .join running
      | none =>
          simp only [Tapes.tapeFor, running] at moved
          cases moved
          exact .own running
  | waiting channel =>
      simp only [Tapes.tapeFor] at moved
      split at moved
      next result sent =>
        cases moved
        exact .hear sent
      next closed =>
        cases moved
        exact .rescue closed
      next => cases moved
  | rescuing =>
      obtain ⟨result, finished, equal⟩ := Option.map_eq_some_iff.mp moved
      cases equal
      exact .rescued finished
  | building =>
      obtain ⟨result, finished, equal⟩ := Option.map_eq_some_iff.mp moved
      cases equal
      exact .built finished
  | releasing result =>
      cases registered : before.builds id with
      | some channel =>
          simp only [Tapes.tapeFor, registered] at moved
          cases moved
          exact .release registered
      | none =>
          simp only [Tapes.tapeFor, registered] at moved
          cases moved
          exact .gone registered
  | publishing channel result =>
      cases moved
      exact .publish
  | returned result => cases moved

section Fields

variable {tapes : Tapes} {call channel : Nat} {id : Uuid} {parameters : SimulationParametersV2}
  {result : Except ChainError FactorTape}

theorem Tapes.tasks_spawn : (tapes.spawn call id parameters).tasks =
    Function.update tapes.tasks call (some ⟨id, parameters, none⟩) := rfl

theorem Tapes.tasks_claim : (tapes.claim call id parameters).tasks =
    Function.update tapes.tasks call (some ⟨id, parameters, none⟩) := rfl

theorem Tapes.channels_claim : (tapes.claim call id parameters).channels =
    Function.update tapes.channels call (some ⟨id, .silent⟩) := rfl

theorem Tapes.builds_claim : (tapes.claim call id parameters).builds =
    Function.update tapes.builds id (some call) := rfl

theorem Tapes.channels_send : (tapes.send channel result).channels =
    Function.update tapes.channels channel ((tapes.channels channel).map fun opened =>
      { opened with broadcast := .sent (published result) }) := rfl

theorem Tapes.builds_release : (tapes.release id).builds =
    Function.update tapes.builds id none := rfl

theorem Tapes.tasks_finish : (tapes.finish call id parameters result).tasks =
    Function.update tapes.tasks call (some ⟨id, parameters, some result⟩) := rfl

end Fields

section Soundness

/-! Every tape in the cache, in a task or on a channel is the one its simulation's
parameters build. `belongs` says which parameters an id has. -/

variable {Chain : Type} (runtime : Runtime Chain) (belongs : Uuid → SimulationParametersV2 → Prop)

/-- The channel was opened for the simulation. -/
def Tapes.Opened (tapes : Tapes) (channel : Nat) (id : Uuid) : Prop :=
  ∃ opened, tapes.channels channel = some opened ∧ opened.id = id

/-- The call's task was spawned for the simulation. -/
def Tapes.Spawned (tapes : Tapes) (call : Nat) (id : Uuid)
    (parameters : SimulationParametersV2) : Prop :=
  ∃ result, tapes.tasks call = some ⟨id, parameters, result⟩

/-- The call has opened no channel and spawned no task. -/
def Tapes.Fresh (tapes : Tapes) (call : Nat) : Prop :=
  tapes.channels call = none ∧ tapes.tasks call = none

structure Tapes.Sound (tapes : Tapes) : Prop where
  cached : tapes.tapes.All fun id tape =>
    ∃ parameters, belongs id parameters ∧ runtime.build parameters = .ok tape
  task : ∀ {call id parameters result}, tapes.tasks call = some ⟨id, parameters, result⟩ →
    belongs id parameters ∧ ∀ outcome, result = some outcome → outcome = runtime.build parameters
  channel : ∀ {channel id result}, tapes.channels channel = some ⟨id, .sent result⟩ →
    ∃ parameters, belongs id parameters ∧ result = published (runtime.build parameters)
  build : ∀ {id channel}, tapes.builds id = some channel → tapes.Opened channel id

/-- What a caller may get: what building alone gives, or, from a shared build, its error
as an internal one. -/
def Delivered (parameters : SimulationParametersV2) (result : Except ChainError FactorTape) :
    Prop :=
  result = runtime.build parameters ∨
    ∃ e, runtime.build parameters = .error e ∧ result = .error (.internal e.toString)

theorem tape_of_delivered {runtime : Runtime Chain} {parameters : SimulationParametersV2}
    {tape : FactorTape} (delivered : Delivered runtime parameters (.ok tape)) :
    runtime.build parameters = .ok tape := by
  obtain built | ⟨e, -, impossible⟩ := delivered
  · exact built.symm
  · cases impossible

def TapeStage.Sound (tapes : Tapes) (call : Nat) (id : Uuid)
    (parameters : SimulationParametersV2) : TapeStage → Prop
  | .cached | .claiming => tapes.Fresh call
  | .waiting channel => tapes.Opened channel id
  | .rescuing | .building => tapes.Spawned call id parameters
  | .releasing result => result = runtime.build parameters
  | .publishing channel result => tapes.Opened channel id ∧ result = runtime.build parameters
  | .returned result => Delivered runtime parameters result

/-- Opened channels and the spawned tasks of the other calls are kept. -/
structure Tapes.Extends (others : Nat → Prop) (before after : Tapes) : Prop where
  opened : ∀ {channel id}, before.Opened channel id → after.Opened channel id
  spawned : ∀ {call id parameters}, others call → before.Spawned call id parameters →
    after.Spawned call id parameters
  fresh : ∀ {call}, others call → before.Fresh call → after.Fresh call

variable {runtime belongs} {others : Nat → Prop} {before after : Tapes}

theorem TapeStage.Sound.extends (extend : before.Extends others after) {call : Nat} {id : Uuid}
    {parameters : SimulationParametersV2} (other : others call) {stage : TapeStage}
    (sound : stage.Sound runtime before call id parameters) :
    stage.Sound runtime after call id parameters := by
  cases stage with
  | cached => exact extend.fresh other sound
  | claiming => exact extend.fresh other sound
  | waiting channel => exact extend.opened sound
  | rescuing => exact extend.spawned other sound
  | building => exact extend.spawned other sound
  | releasing result => exact sound
  | publishing channel result => exact ⟨extend.opened sound.1, sound.2⟩
  | returned result => exact sound

namespace Tapes

theorem Extends.of_same (channels : after.channels = before.channels)
    (tasks : after.tasks = before.tasks) : before.Extends others after where
  opened open_ := by rwa [Opened, channels]
  spawned _ spawned := by rwa [Spawned, tasks]
  fresh _ fresh := by rwa [Fresh, channels, tasks]

theorem Sound.mono {wider : Uuid → SimulationParametersV2 → Prop}
    (sound : before.Sound runtime belongs)
    (implied : ∀ id parameters, belongs id parameters → wider id parameters) :
    before.Sound runtime wider where
  cached := sound.cached.mono fun id tape ⟨parameters, owned, built⟩ =>
    ⟨parameters, implied id parameters owned, built⟩
  task spawned := ⟨implied _ _ (sound.task spawned).1, (sound.task spawned).2⟩
  channel sent := by
    obtain ⟨parameters, owned, result⟩ := sound.channel sent
    exact ⟨parameters, implied _ _ owned, result⟩
  build := sound.build

theorem sound_empty : empty.Sound runtime belongs where
  cached := RecencyCache.all_empty
  task spawned := by cases spawned
  channel sent := by cases sent
  build claimed := by cases claimed

variable {tapes : Tapes} {call now : Nat} {id : Uuid} {parameters : SimulationParametersV2}

theorem Sound.spawn (sound : tapes.Sound runtime belongs) (owned : belongs id parameters) :
    (tapes.spawn call id parameters).Sound runtime belongs where
  cached := sound.cached
  task {other _ _ _} spawned := by
    rw [tasks_spawn] at spawned
    by_cases same : other = call
    · subst same
      rw [Function.update_self] at spawned
      cases spawned
      exact ⟨owned, fun _ impossible => by cases impossible⟩
    · rw [Function.update_of_ne same] at spawned
      exact sound.task spawned
  channel sent := sound.channel sent
  build claimed := sound.build claimed

theorem extends_spawn : tapes.Extends (· ≠ call) (tapes.spawn call id parameters) where
  opened open_ := open_
  spawned different spawned := by
    obtain ⟨result, held⟩ := spawned
    exact ⟨result, by rwa [tasks_spawn, Function.update_of_ne different]⟩
  fresh different fresh :=
    ⟨fresh.1, by rw [tasks_spawn, Function.update_of_ne different]; exact fresh.2⟩

theorem spawned_spawn : (tapes.spawn call id parameters).Spawned call id parameters :=
  ⟨none, Function.update_self ..⟩

theorem Fresh.ne_of_opened {channel : Nat} (fresh : tapes.Fresh call)
    (open_ : tapes.Opened channel id) : channel ≠ call := by
  obtain ⟨opened, held, -⟩ := open_
  intro same
  rw [same, fresh.1] at held
  cases held

theorem opened_claim {channel : Nat} {other : Uuid} (fresh : tapes.Fresh call)
    (open_ : tapes.Opened channel other) :
    (tapes.claim call id parameters).Opened channel other := by
  have different := fresh.ne_of_opened open_
  obtain ⟨opened, held, named⟩ := open_
  exact ⟨opened, by rwa [channels_claim, Function.update_of_ne different], named⟩

theorem Sound.claim (sound : tapes.Sound runtime belongs) (fresh : tapes.Fresh call)
    (owned : belongs id parameters) :
    (tapes.claim call id parameters).Sound runtime belongs where
  cached := sound.cached
  task := (sound.spawn owned).task
  channel {channel _ _} sent := by
    rw [channels_claim] at sent
    by_cases same : channel = call
    · subst same
      rw [Function.update_self] at sent
      cases sent
    · rw [Function.update_of_ne same] at sent
      exact sound.channel sent
  build {other channel} claimed := by
    rw [builds_claim] at claimed
    by_cases same : other = id
    · subst same
      rw [Function.update_self] at claimed
      cases claimed
      exact ⟨_, Function.update_self .., rfl⟩
    · rw [Function.update_of_ne same] at claimed
      exact opened_claim fresh (sound.build claimed)

theorem extends_claim (fresh : tapes.Fresh call) :
    tapes.Extends (· ≠ call) (tapes.claim call id parameters) where
  opened open_ := opened_claim fresh open_
  spawned different spawned := by
    obtain ⟨result, held⟩ := spawned
    exact ⟨result, by rwa [tasks_claim, Function.update_of_ne different]⟩
  fresh different fresh := by
    rw [Fresh, channels_claim, tasks_claim, Function.update_of_ne different,
      Function.update_of_ne different]
    exact fresh

theorem opened_send {channel other : Nat} {named : Uuid}
    {result : Except ChainError FactorTape} (open_ : tapes.Opened other named) :
    (tapes.send channel result).Opened other named := by
  obtain ⟨opened, held, rfl⟩ := open_
  by_cases same : other = channel
  · subst same
    refine ⟨{ opened with broadcast := .sent (published result) }, ?_, rfl⟩
    rw [channels_send, Function.update_self, held, Option.map_some]
  · exact ⟨opened, by rwa [channels_send, Function.update_of_ne same], rfl⟩

theorem Sound.send (sound : tapes.Sound runtime belongs) {channel : Nat}
    {result : Except ChainError FactorTape} (open_ : tapes.Opened channel id)
    (owned : belongs id parameters) (built : result = runtime.build parameters) :
    (tapes.send channel result).Sound runtime belongs where
  cached := sound.cached
  task := sound.task
  channel {other _ _} sent := by
    obtain ⟨opened, held, rfl⟩ := open_
    rw [channels_send] at sent
    by_cases same : other = channel
    · subst same
      rw [Function.update_self, held, Option.map_some] at sent
      cases sent
      exact ⟨parameters, owned, by rw [built]⟩
    · rw [Function.update_of_ne same] at sent
      exact sound.channel sent
  build registered := opened_send (sound.build registered)

theorem extends_send {channel : Nat} {result : Except ChainError FactorTape} :
    tapes.Extends others (tapes.send channel result) where
  opened open_ := opened_send open_
  spawned _ spawned := spawned
  fresh {other} _ fresh := by
    refine ⟨?_, fresh.2⟩
    rw [channels_send]
    by_cases same : other = channel
    · subst same
      rw [Function.update_self, fresh.1, Option.map_none]
    · rw [Function.update_of_ne same]
      exact fresh.1

theorem Sound.release (sound : tapes.Sound runtime belongs) :
    (tapes.release id).Sound runtime belongs where
  cached := sound.cached
  task := sound.task
  channel := sound.channel
  build {other channel} claimed := by
    rw [builds_release] at claimed
    by_cases same : other = id
    · subst same
      rw [Function.update_self] at claimed
      cases claimed
    · rw [Function.update_of_ne same] at claimed
      exact sound.build claimed

theorem Sound.finish {result : Except ChainError FactorTape}
    (sound : tapes.Sound runtime belongs) (owned : belongs id parameters)
    (built : result = runtime.build parameters) :
    (tapes.finish call id parameters result).Sound runtime belongs where
  cached := sound.cached
  task {other _ _ _} spawned := by
    rw [tasks_finish] at spawned
    by_cases same : other = call
    · subst same
      rw [Function.update_self] at spawned
      cases spawned
      exact ⟨owned, fun outcome done => by cases done; exact built⟩
    · rw [Function.update_of_ne same] at spawned
      exact sound.task spawned
  channel := sound.channel
  build := sound.build

theorem extends_finish {result : Except ChainError FactorTape}
    (held : tapes.tasks call = some ⟨id, parameters, none⟩) :
    tapes.Extends others (tapes.finish call id parameters result) where
  opened open_ := open_
  spawned {other _ _} _ spawned := by
    obtain ⟨outcome, spawned⟩ := spawned
    by_cases same : other = call
    · subst same
      rw [held] at spawned
      cases spawned
      exact ⟨_, Function.update_self ..⟩
    · exact ⟨outcome, by rwa [tasks_finish, Function.update_of_ne same]⟩
  fresh {other} _ fresh := by
    have different : other ≠ call := by
      intro same
      rw [Tapes.Fresh, same, held] at fresh
      cases fresh.2
    exact ⟨fresh.1, by rw [tasks_finish, Function.update_of_ne different]; exact fresh.2⟩

theorem Sound.recache {cache : TapeCache} (sound : tapes.Sound runtime belongs)
    (cached : cache.All fun id tape =>
      ∃ parameters, belongs id parameters ∧ runtime.build parameters = .ok tape) :
    (tapes.recache cache).Sound runtime belongs :=
  ⟨cached, sound.task, sound.channel, sound.build⟩

theorem Sound.evict (sound : tapes.Sound runtime belongs) :
    (tapes.evict id).Sound runtime belongs :=
  sound.recache sound.cached.remove

theorem extends_evict : tapes.Extends others (tapes.evict id) := .of_same rfl rfl

theorem Sound.outcome (sound : tapes.Sound runtime belongs)
    (spawned : tapes.Spawned call id parameters) {result : Except ChainError FactorTape}
    (finished : tapes.outcome call = some result) : result = runtime.build parameters := by
  obtain ⟨outcome, held⟩ := spawned
  simp only [Tapes.outcome, held, Option.bind_some] at finished
  exact (sound.task held).2 result finished

/-- A section of a call keeps every tape right and leaves the other calls' channels and
tasks in place. -/
theorem tapeStep_sound {stage next : TapeStage}
    (unique : ∀ {id left right}, belongs id left → belongs id right → left = right)
    (sound : before.Sound runtime belongs) (owned : belongs id parameters)
    (staged : stage.Sound runtime before call id parameters)
    (stepped : TapeStep call id parameters now before stage after next) :
    after.Sound runtime belongs ∧ next.Sound runtime after call id parameters ∧
      before.Extends (· ≠ call) after := by
  cases stepped with
  | hit found =>
      obtain ⟨others, othersOwned, built⟩ := sound.cached.find? found
      refine ⟨⟨sound.cached.touch, sound.task, sound.channel, sound.build⟩, .inl ?_,
        .of_same rfl rfl⟩
      rw [unique owned othersOwned, built]
  | miss absent => exact ⟨sound, staged, .of_same rfl rfl⟩
  | join running => exact ⟨sound, sound.build running, .of_same rfl rfl⟩
  | own vacant => exact ⟨sound.claim staged owned, spawned_spawn, extends_claim staged⟩
  | hear sent =>
      obtain ⟨⟨_, broadcast⟩, held, rfl⟩ := staged
      simp only [heard, held, Option.map_some, Option.some.injEq] at sent
      subst sent
      obtain ⟨others, othersOwned, rfl⟩ := sound.channel held
      rw [unique othersOwned owned]
      refine ⟨sound, ?_, .of_same rfl rfl⟩
      cases built : runtime.build parameters with
      | ok tape => exact .inl built.symm
      | error e => exact .inr ⟨e, built, rfl⟩
  | rescue closed => exact ⟨sound.spawn owned, spawned_spawn, extends_spawn⟩
  | rescued finished => exact ⟨sound, .inl (sound.outcome staged finished), .of_same rfl rfl⟩
  | built finished => exact ⟨sound, sound.outcome staged finished, .of_same rfl rfl⟩
  | release registered =>
      exact ⟨sound.release, ⟨sound.build registered, staged⟩, .of_same rfl rfl⟩
  | gone missing => exact ⟨sound.release, .inl staged, .of_same rfl rfl⟩
  | publish => exact ⟨sound.send staged.1 owned staged.2, .inl staged.2, extends_send⟩

theorem runTask_cases (ran : runTask runtime call now before = some after) :
    ∃ id parameters, before.tasks call = some ⟨id, parameters, none⟩ ∧
      ((∃ tape, runtime.build parameters = .ok tape ∧
          after = (before.finish call id parameters (.ok tape)).recache
            (cacheTape runtime.config.maxCachedTapes id tape now before.tapes)) ∨
        ∃ e, runtime.build parameters = .error e ∧
          after = before.finish call id parameters (.error e)) := by
  unfold runTask at ran
  split at ran
  next id parameters held =>
    refine ⟨id, parameters, held, ?_⟩
    cases built : runtime.build parameters with
    | ok tape =>
        simp only [built] at ran
        cases ran
        exact .inl ⟨tape, rfl, rfl⟩
    | error e =>
        simp only [built] at ran
        cases ran
        exact .inr ⟨e, rfl, rfl⟩
  next => cases ran

theorem runTask_sound (sound : before.Sound runtime belongs)
    (ran : runTask runtime call now before = some after) : after.Sound runtime belongs := by
  obtain ⟨id, parameters, held, ⟨tape, built, rfl⟩ | ⟨e, built, rfl⟩⟩ := runTask_cases ran
  · obtain ⟨owned, -⟩ := sound.task held
    apply (sound.finish owned built.symm).recache
    exact sound.cached.remove.evictTo.insert ⟨parameters, owned, built⟩
  · exact sound.finish (sound.task held).1 built.symm

theorem runTask_extends (ran : runTask runtime call now before = some after) :
    before.Extends others after := by
  obtain ⟨id, parameters, held, ⟨tape, -, rfl⟩ | ⟨e, -, rfl⟩⟩ := runTask_cases ran
  · have extended : before.Extends others (before.finish call id parameters (.ok tape)) :=
      extends_finish held
    exact ⟨extended.opened, extended.spawned, extended.fresh⟩
  · exact extends_finish held

end Tapes

end Soundness

end OptionChainSimulator.Session
