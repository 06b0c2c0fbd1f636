import Mathlib.Tactic
import OptionChainSimulator.Foundation.RecencyCache
import OptionChainSimulator.Domain.Factors
import OptionChainSimulator.Session.Model

namespace OptionChainSimulator.Domain

open Foundation Utils Session

/-! The walks of v1 sessions: how one is built, and the bounded cache of built ones. -/

/-- A walker draws from a seeded generator, or from the system's entropy. -/
inductive Walker where
  | newWithSeed (seed : Nat)
  | new

/-- What a walk's build takes from outside: chain pricing, the walk kernel, and the price
archive with the seeded generator that selects from it. -/
structure WalkSource (Chain : Type) where
  buildChain : OptionChainBuildParams → Except String Chain
  randomWalk : (title : String) → WalkParams Chain → Walker → Except String (List Chain)
  Generator : Type
  generator : (seed : Option Nat) → Generator
  randomRange : Generator → (count : Nat) → Nat × Generator
  connected : Bool
  availableSymbols : Except ChainError (List String)
  historicalPrices : Generator → String → TimeFrame → (steps : Nat) →
    Except ChainError (List Positive)

/-- `CacheEntry`, without its access time. -/
structure BuiltWalk (Chain : Type) where
  walk : List Chain
  resolvedMethod : Option SimulationMethod

section Build

variable {Chain : Type} (source : WalkSource Chain)

/-- The symbol a history is loaded for, chosen where none is given. -/
def selectSymbol (generator : source.Generator) :
    Option String → Except ChainError (String × source.Generator)
  | some symbol => .ok (symbol, generator)
  | none => do
      let symbols ← source.availableSymbols.mapError fun e => .clickHouseError e.toString
      if symbols.isEmpty then .error (.notFound "No symbols available in the database")
      else do
        let (index, generator) := source.randomRange generator symbols.length
        let symbol ← okOr symbols[index]? (.internal "symbol index out of range")
        return (symbol, generator)

def getHistoricalData (symbol : Option String) (timeframe : TimeFrame) (steps : Nat)
    (generator : source.Generator) : Except ChainError (String × List Positive) := do
  if source.connected then do
    let (actualSymbol, generator) ← selectSymbol source generator symbol
    let prices ← source.historicalPrices generator actualSymbol timeframe steps
    if prices.length < steps then
      .error (.notEnoughData <|
        s!"Retrieved {prices.length} data points but {steps} required for symbol {actualSymbol}")
    else return (actualSymbol, prices.take steps)
  else .error (.simulatorError "Database not available")

/-- The method a walk is built with, and the same where this build resolved it. -/
def resolveMethod (parameters : SimulationParameters) :
    Except ChainError (SimulationMethod × Option SimulationMethod) :=
  match parameters.method with
  | .historical timeframe prices symbol =>
      if prices.isEmpty ∨ prices.length < parameters.steps then do
        let (resolvedSymbol, loadedPrices) ← getHistoricalData source symbol timeframe
          parameters.steps (source.generator parameters.seed)
        let resolved := WalkType.historical timeframe loadedPrices (some resolvedSymbol)
        return (resolved, some resolved)
      else .ok (parameters.method, none)
  | _ => .ok (parameters.method, none)

def sessionWalker : Option Nat → Walker
  | some seed => .newWithSeed seed
  | none => .new

theorem defaultSpread_nonneg : 0 ≤ defaultSpread := by
  unfold defaultSpread
  norm_num

/-- `pos_or_panic!(0.01)`. -/
def walkDefaultSpread : Positive := ⟨defaultSpread, defaultSpread_nonneg⟩

/-- The walk of a method and the other parameters of a session. -/
def walkOf (id : Uuid) (parameters : SimulationParameters) (method : SimulationMethod) :
    Except ChainError (List Chain) := do
  let initialChain ← (source.buildChain {
    symbol := parameters.symbol
    volume := some .one
    chainSize := parameters.chainSize.getD defaultChainSize
    strikeInterval := parameters.strikeInterval
    skewSlope := parameters.skewSlope.getD defaultSkewSlope
    smileCurve := parameters.smileCurve.getD defaultSmileCurve
    spread := parameters.spread.getD walkDefaultSpread
    decimalPlaces := 2
    underlyingPrice := parameters.initialPrice
    daysToExpiration := parameters.daysToExpiration
    riskFreeRate := parameters.riskFreeRate
    dividendYield := parameters.dividendYield
    impliedVolatility := parameters.volatility }).mapError fun e =>
      ChainError.internal s!"Failed to build option chain: {e}"
  (source.randomWalk s!"Session_{id.hyphenated}"
    { size := parameters.steps
      timeFrame := parameters.timeFrame
      daysToExpiration := parameters.daysToExpiration
      initialChain := initialChain
      walkType := method } (sessionWalker parameters.seed)).mapError fun e =>
        .internal s!"Failed to create random walk: {e}"

def createRandomWalk (id : Uuid) (parameters : SimulationParameters) :
    Except ChainError (BuiltWalk Chain) := do
  let (method, resolvedMethod) ← resolveMethod source parameters
  let walk ← walkOf source id parameters method
  return ⟨walk, resolvedMethod⟩

variable {source} {id : Uuid} {parameters : SimulationParameters} {built : BuiltWalk Chain}
  {method resolved : SimulationMethod} {resolution : Option SimulationMethod}

theorem createRandomWalk_eq_ok : createRandomWalk source id parameters = .ok built ↔
    ∃ method, resolveMethod source parameters = .ok (method, built.resolvedMethod) ∧
      walkOf source id parameters method = .ok built.walk := by
  simp only [createRandomWalk, bind_eq_ok, pure, Except.pure, Except.ok.injEq]
  constructor
  · intro succeeded
    obtain ⟨⟨method, resolution⟩, chosen, walk, walked, rfl⟩ := succeeded
    exact ⟨method, chosen, walked⟩
  · intro succeeded
    obtain ⟨method, chosen, walked⟩ := succeeded
    exact ⟨(method, built.resolvedMethod), chosen, built.walk, walked, rfl⟩

theorem getHistoricalData_length {symbol : Option String} {timeframe : TimeFrame} {steps : Nat}
    {generator : source.Generator} {loaded : String × List Positive}
    (succeeded : getHistoricalData source symbol timeframe steps generator = .ok loaded) :
    loaded.2.length = steps := by
  unfold getHistoricalData at succeeded
  split_ifs at succeeded with connected
  obtain ⟨⟨actualSymbol, generator⟩, -, succeeded⟩ := bind_eq_ok.mp succeeded
  obtain ⟨prices, -, succeeded⟩ := bind_eq_ok.mp succeeded
  split_ifs at succeeded with short
  cases succeeded
  exact List.length_take_of_le (not_lt.mp short)

theorem resolveMethod_eq_some
    (chosen : resolveMethod source parameters = .ok (method, some resolved)) :
    method = resolved ∧ ∃ timeframe prices symbol loaded,
      parameters.method = .historical timeframe prices symbol ∧
        getHistoricalData source symbol timeframe parameters.steps
          (source.generator parameters.seed) = .ok loaded ∧
        resolved = .historical timeframe loaded.2 (some loaded.1) := by
  unfold resolveMethod at chosen
  split at chosen
  next timeframe prices symbol held =>
    split_ifs at chosen with short
    · obtain ⟨loaded, succeeded, chosen⟩ := bind_eq_ok.mp chosen
      cases chosen
      exact ⟨rfl, timeframe, prices, symbol, loaded, held, succeeded, rfl⟩
    · cases chosen
  next => cases chosen

theorem resolveMethod_resolved (positive : 0 < parameters.steps)
    (chosen : resolveMethod source parameters = .ok (method, some resolved)) :
    method = resolved ∧
      resolveMethod source { parameters with method := resolved } = .ok (resolved, none) := by
  obtain ⟨same, timeframe, prices, symbol, loaded, -, succeeded, rfl⟩ :=
    resolveMethod_eq_some chosen
  have long := getHistoricalData_length succeeded
  refine ⟨same, ?_⟩
  simp only [resolveMethod, List.isEmpty_iff, ← List.length_eq_zero_iff, long]
  rw [if_neg]
  omega

/-- Persisting a resolved method changes nothing about the walk. -/
theorem createRandomWalk_resolved (positive : 0 < parameters.steps)
    (succeeded : createRandomWalk source id parameters = .ok built)
    (resolution : built.resolvedMethod = some resolved) :
    createRandomWalk source id { parameters with method := resolved } =
      .ok ⟨built.walk, none⟩ := by
  obtain ⟨method, chosen, walked⟩ := createRandomWalk_eq_ok.mp succeeded
  rw [resolution] at chosen
  obtain ⟨rfl, again⟩ := resolveMethod_resolved positive chosen
  exact createRandomWalk_eq_ok.mpr ⟨method, again, walked⟩

end Build

abbrev WalkCache (Chain : Type) := RecencyCache Uuid (BuiltWalk Chain)

section Cache

variable {Chain : Type} {walks : WalkCache Chain} {id other : Uuid} {now max : Nat}
  {built : BuiltWalk Chain}

/-- `cache.entry(id).or_insert(built)`, with its access time refreshed. -/
def orInsert (walks : WalkCache Chain) (id : Uuid) (built : BuiltWalk Chain) (now : Nat) :
    WalkCache Chain × BuiltWalk Chain :=
  match walks.find? id with
  | some entry => (walks.touch id now, entry.value)
  | none => (walks.insert id built now, built)

/-- The second critical section of a request that built a walk. -/
def fileWalk (maxCachedWalks : Nat) (walks : WalkCache Chain) (id : Uuid)
    (built : BuiltWalk Chain) (now : Nat) : WalkCache Chain × BuiltWalk Chain :=
  orInsert (walks.evictTo (·.lastAccess) (maxCachedWalks - 1)) id built now

/-- The slot a walk is filed into, once older ones made room. -/
def SlotFree (maxCachedWalks : Nat) (walks : WalkCache Chain) (id : Uuid) : Prop :=
  (walks.evictTo (·.lastAccess) (maxCachedWalks - 1)).find? id = none

theorem all_fileWalk {fits : Uuid → BuiltWalk Chain → Prop} (max : Nat) (id : Uuid)
    (built : BuiltWalk Chain) (now : Nat) (all : walks.All fits)
    (filing : SlotFree max walks id → fits id built) :
    (fileWalk max walks id built now).1.All fits ∧ fits id (fileWalk max walks id built now).2 := by
  have evicted : (walks.evictTo (·.lastAccess) (max - 1)).All fits := all.evictTo
  unfold fileWalk orInsert
  split
  next entry found => exact ⟨evicted.touch, evicted.find? found⟩
  next vacant => exact ⟨evicted.insert (filing vacant), filing vacant⟩

end Cache

end OptionChainSimulator.Domain
