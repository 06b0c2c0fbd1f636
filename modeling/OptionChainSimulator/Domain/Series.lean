import Mathlib.Tactic
import Mathlib.Data.Prod.Lex
import OptionChainSimulator.Foundation.RecencyCache
import OptionChainSimulator.Utils.Uuid
import OptionChainSimulator.Domain.Expiry.Pricing
import OptionChainSimulator.Domain.Factors

namespace OptionChainSimulator.Domain

open Foundation Utils Session Domain.Expiry

/-! The snapshots of a simulation, and the bounded cache of built ones. -/

structure ExpiryChain (Chain : Type) where
  expiresAt : UtcDateTime
  daysToExpiration : Positive
  labels : List String
  chain : Chain

structure SeriesSnapshot (Chain : Type) where
  step : Nat
  simulatedAt : UtcDateTime
  spot : Positive
  baseVolatility : Positive
  chains : List (ExpiryChain Chain)

section Build

variable {Chain : Type} (service : Service) (upstream : Upstream Chain)

def snapshotContracts (snapshot : SeriesSnapshot Chain) : Nat :=
  (snapshot.chains.map fun expiry => upstream.optionCount expiry.chain).sum

structure SeriesBuilder where
  parameters : SimulationParametersV2
  tape : FactorTape

namespace SeriesBuilder

def new (parameters : SimulationParametersV2) (tape : FactorTape) :
    Except ChainError SeriesBuilder := do
  parameters.validate service
  return ⟨parameters, tape⟩

def buildExpiryChain (builder : SeriesBuilder) (row : FactorRow) (expiry : ActiveExpiry) :
    Except ChainError (ExpiryChain Chain) := do
  let days ← expiry.daysToExpiration row.simulatedAt
  let daysToExpiration ← (upstream.positiveNewDecimal days).mapError fun e =>
    .internal <|
      s!"days to expiration {upstream.displayDecimal days} for" ++
        s!" {expiry.expiresAt.utcToString} is not a valid Positive: {e}"
  let chain ← buildChain upstream builder.parameters row.spot row.baseVolatility daysToExpiration
  return {
    expiresAt := expiry.expiresAt
    daysToExpiration := daysToExpiration
    labels := expiry.labels
    chain := chain }

def snapshot (builder : SeriesBuilder) (step : Nat) :
    Except Fault (SeriesSnapshot Chain) := do
  let row ← (okOr (builder.tape.row step)
    (.notFound s!"step {step} is past the end of a {builder.tape.len}-step simulation") :
      Except ChainError FactorRow)
  let planner : RollingPlanner := ⟨service.zones, builder.parameters.schedule⟩
  let active ← planner.activeAt row.simulatedAt
  let chains ← (active.mapM (builder.buildExpiryChain upstream row) :
    Except ChainError (List (ExpiryChain Chain)))
  return {
    step := row.step
    simulatedAt := row.simulatedAt
    spot := row.spot
    baseVolatility := row.baseVolatility
    chains := chains }

end SeriesBuilder

/-- The snapshot of a step over a given tape. -/
def snapshotOver (parameters : SimulationParametersV2) (tape : FactorTape) (step : Nat) :
    Except Fault (SeriesSnapshot Chain) := do
  let builder ← SeriesBuilder.new service parameters tape
  builder.snapshot service upstream step

end Build

/-- One cached snapshot and its weight. -/
structure CachedSnapshot (Chain : Type) where
  snapshot : SeriesSnapshot Chain
  contracts : Nat

structure SnapshotCache (Chain : Type) where
  entries : RecencyCache (Uuid × Nat) (CachedSnapshot Chain)
  capacity : Nat
  contractBudget : Nat
  residentContracts : Nat

namespace SnapshotCache

variable {Chain : Type}

def withBounds (capacity contractBudget : Nat) : SnapshotCache Chain where
  entries := .empty
  capacity := max capacity 1
  contractBudget := max contractBudget 1
  residentContracts := 0

def get (cache : SnapshotCache Chain) (simulation : Uuid) (step now : Nat) :
    Option (SeriesSnapshot Chain × SnapshotCache Chain) :=
  (cache.entries.find? (simulation, step)).map fun entry =>
    (entry.value.snapshot, { cache with entries := cache.entries.touch (simulation, step) now })

/-- Subtraction here saturates at zero, as `saturating_sub` does. -/
def removeEntry (cache : SnapshotCache Chain) (key : Uuid × Nat) : SnapshotCache Chain :=
  match cache.entries.find? key with
  | some entry =>
      { cache with
        entries := cache.entries.remove key
        residentContracts := cache.residentContracts - entry.value.contracts }
  | none => cache

/-- The key breaks a tie of the access times. -/
def leastRecentlyUsed (cache : SnapshotCache Chain) : Option (Uuid × Nat) :=
  cache.entries.leastRecent fun entry =>
    toLex (entry.lastAccess, toLex (entry.key.1, entry.key.2))

/-- One victim after another while the cache is over a bound. -/
def evictLoop (exceeds : SnapshotCache Chain → Bool) :
    Nat → SnapshotCache Chain → SnapshotCache Chain
  | 0, cache => cache
  | fuel + 1, cache =>
      if exceeds cache then
        match cache.leastRecentlyUsed with
        | some key => evictLoop exceeds fuel (cache.removeEntry key)
        | none => cache
      else cache

def evictTo (max : Nat) (cache : SnapshotCache Chain) : SnapshotCache Chain :=
  evictLoop (fun cache => max < cache.entries.size) cache.entries.size cache

def evictToContracts (max : Nat) (cache : SnapshotCache Chain) : SnapshotCache Chain :=
  evictLoop (fun cache => max < cache.residentContracts) cache.entries.size cache

/-- `saturating_add` of a `usize`. -/
def saturatingAdd (left right : Nat) : Nat := min (left + right) (u64Limit - 1)

def insert (upstream : Upstream Chain) (cache : SnapshotCache Chain) (simulation : Uuid)
    (snapshot : SeriesSnapshot Chain) (now : Nat) : SnapshotCache Chain :=
  let key := (simulation, snapshot.step)
  let cache := cache.removeEntry key
  let incoming := snapshotContracts upstream snapshot
  if incoming > cache.contractBudget then cache
  else
    let cache := cache.evictTo (cache.capacity - 1)
    let cache := cache.evictToContracts (cache.contractBudget - incoming)
    { cache with
      residentContracts := saturatingAdd cache.residentContracts incoming
      entries := cache.entries.insert key ⟨snapshot, incoming⟩ now }

def evictSimulation (cache : SnapshotCache Chain) (simulation : Uuid) : SnapshotCache Chain :=
  let victims := (cache.entries.entries.map (·.key)).filter fun key => key.1 = simulation
  victims.foldl removeEntry cache

section Contents

/-! What the cache holds: an operation drops entries or files the one it is given. -/

variable {fits : Uuid × Nat → SeriesSnapshot Chain → Prop} {cache : SnapshotCache Chain}
  {exceeds : SnapshotCache Chain → Bool} {simulation : Uuid} {step now : Nat}

def All (fits : Uuid × Nat → SeriesSnapshot Chain → Prop) (cache : SnapshotCache Chain) : Prop :=
  cache.entries.All fun key cached => fits key cached.snapshot

theorem all_withBounds {capacity contractBudget : Nat} :
    (withBounds capacity contractBudget : SnapshotCache Chain).All fits :=
  RecencyCache.all_empty

theorem All.mono {wider : Uuid × Nat → SeriesSnapshot Chain → Prop} (all : cache.All fits)
    (implied : ∀ key snapshot, fits key snapshot → wider key snapshot) : cache.All wider :=
  RecencyCache.All.mono all fun key cached => implied key cached.snapshot

theorem All.get {snapshot : SeriesSnapshot Chain} {after : SnapshotCache Chain}
    (all : cache.All fits) (found : cache.get simulation step now = some (snapshot, after)) :
    fits (simulation, step) snapshot ∧ after.All fits := by
  obtain ⟨entry, present, served⟩ := Option.map_eq_some_iff.mp found
  cases served
  exact ⟨RecencyCache.All.find? all present, RecencyCache.All.touch all⟩

theorem All.removeEntry {key : Uuid × Nat} (all : cache.All fits) :
    (cache.removeEntry key).All fits := by
  unfold SnapshotCache.removeEntry
  split
  · exact RecencyCache.All.remove all
  · exact all

theorem All.evictLoop {fuel : Nat} (all : cache.All fits) :
    (SnapshotCache.evictLoop exceeds fuel cache).All fits := by
  induction fuel generalizing cache with
  | zero => exact all
  | succ fuel ih =>
      unfold SnapshotCache.evictLoop
      split_ifs
      · split
        · exact ih all.removeEntry
        · exact all
      · exact all

theorem All.insert {upstream : Upstream Chain} {snapshot : SeriesSnapshot Chain}
    (all : cache.All fits) (fitting : fits (simulation, snapshot.step) snapshot) :
    (cache.insert upstream simulation snapshot now).All fits := by
  unfold SnapshotCache.insert
  dsimp only
  split_ifs with heavy
  · exact all.removeEntry
  · exact RecencyCache.All.insert (all.removeEntry.evictLoop.evictLoop) fitting

theorem All.evictSimulation (all : cache.All fits) :
    (cache.evictSimulation simulation).All fits := by
  unfold SnapshotCache.evictSimulation
  generalize (cache.entries.entries.map (·.key)).filter (fun key => key.1 = simulation) = victims
  induction victims generalizing cache with
  | nil => exact all
  | cons key victims ih => exact ih all.removeEntry

end Contents

end SnapshotCache

end OptionChainSimulator.Domain
