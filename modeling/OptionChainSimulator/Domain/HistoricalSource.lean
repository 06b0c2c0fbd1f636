import Mathlib.Tactic
import OptionChainSimulator.Domain.Chrono
import OptionChainSimulator.Domain.Simulator

namespace OptionChainSimulator.Domain

open Foundation Utils Session

/-! The archive of historical prices, and the seeded choice of what a session loads from it. -/

/-- `HistoricalDataRepository`, a pure function of its arguments. -/
structure HistoricalDataRepository where
  listAvailableSymbols : Except ChainError (List String)
  getDateRangeForSymbol : String → Except ChainError (UtcDateTime × UtcDateTime)
  getHistoricalPrices : String → TimeFrame → (startDate : UtcDateTime) → (limit : Nat) →
    Except ChainError (List Positive)

/-- `rand::StdRng`; `randomRange` draws below a count. -/
structure StdRng where
  State : Type
  seedFromU64 : Nat → State
  fromEntropy : State
  randomRange : State → (count : Nat) → Nat × State

def historicalStreamSalt : Nat := 0x00484953544F5259

/-- `as i64`. -/
def asI64 (value : Nat) : Int :=
  if value < 9223372036854775808 then value else value - 18446744073709551616

def nanosecondsPerDay : Int := 86400 * 1000000000

/-- A `TimeDelta` of that many nanoseconds, unless its constructor panics. -/
def timeDelta? (nanoseconds : Int) : Option Int :=
  if -9223372036854775807000000 ≤ nanoseconds ∧ nanoseconds ≤ 9223372036854775807000000 then
    some nanoseconds
  else none

/-- `toI64` is `Positive::to_i64`; the products of the approximations are the ones a release build
takes without a check. -/
def calculateRequiredDuration (toI64 : Positive → Int) (timeframe : TimeFrame) (steps : Nat) :
    Option Int :=
  timeDelta? <|
    match timeframe with
    | .microsecond => asI64 steps * 1000
    | .millisecond => asI64 steps * 1000000
    | .second => asI64 steps * 1000000000
    | .minute => asI64 steps * 60 * 1000000000
    | .hour => asI64 steps * 3600 * 1000000000
    | .day => asI64 steps * nanosecondsPerDay
    | .week => asI64 steps * 7 * nanosecondsPerDay
    | .month => wrapI64 (asI64 steps * 30) * nanosecondsPerDay
    | .quarter => wrapI64 (asI64 steps * 90) * nanosecondsPerDay
    | .year => wrapI64 (asI64 steps * 365) * nanosecondsPerDay
    | .custom periods => toI64 periods * nanosecondsPerDay

/-- `TimeDelta::num_days`. -/
def numDays (nanoseconds : Int) : Int := Int.tdiv (NaiveDateTime.numSeconds nanoseconds) 86400

/-- A panic ends the request that ran into it as an error does. -/
def panicked : ChainError := .internal "the task panicked"

def selectRandomDate (rng : StdRng) (toI64 : Positive → Int) (state : rng.State)
    (minDate maxDate : UtcDateTime) (timeframe : TimeFrame) (steps : Nat) :
    Except ChainError UtcDateTime := do
  let required ← okOr (calculateRequiredDuration toI64 timeframe steps) panicked
  let available := maxDate.nanosecondsSince minDate
  if available < required then
    .error (.notEnoughData <|
      s!"Date range too small. Required: {numDays required} days, Available:" ++
        s!" {numDays available} days")
  else
    let latestPossibleStart ← okOr (maxDate.checkedSubSigned required) panicked
    if latestPossibleStart ≤ minDate then .ok minDate
    else
      let possibleRange := latestPossibleStart.nanosecondsSince minDate
      let randomDays := (rng.randomRange state ((numDays possibleRange).toNat + 1)).1
      okOr (minDate.checkedAddSeconds (randomDays * 86400)) panicked

/-- The source of walks that draws on an archive. -/
def WalkSource.ofRepository {Chain : Type}
    (buildChain : OptionChainBuildParams → Except String Chain)
    (randomWalk : String → WalkParams Chain → Walker → Except String (List Chain))
    (rng : StdRng) (toI64 : Positive → Int) (databaseRepo : Option HistoricalDataRepository) :
    WalkSource Chain where
  buildChain := buildChain
  randomWalk := randomWalk
  Generator := rng.State
  generator seed :=
    match seed with
    | some seed => rng.seedFromU64 (seed ^^^ historicalStreamSalt)
    | none => rng.fromEntropy
  randomRange := rng.randomRange
  connected := databaseRepo.isSome
  availableSymbols :=
    match databaseRepo with
    | some repo => repo.listAvailableSymbols
    | none => .ok []
  historicalPrices state symbol timeframe steps := do
    let repo ← okOr databaseRepo (.simulatorError "Database not available")
    let (minDate, maxDate) ← (repo.getDateRangeForSymbol symbol).mapError fun e =>
      .clickHouseError e.toString
    let startDate ← selectRandomDate rng toI64 state minDate maxDate timeframe steps
    (repo.getHistoricalPrices symbol timeframe startDate steps).mapError fun e =>
      .clickHouseError e.toString

end OptionChainSimulator.Domain
