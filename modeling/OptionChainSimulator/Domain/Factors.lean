import Mathlib.Tactic
import OptionChainSimulator.Session.ParametersV2

namespace OptionChainSimulator.Domain

open Foundation Utils Session

/-! The factor tape: the market path of a simulation, one row a step. -/

def defaultSkewSlope : Decimal := -1 / 5
def defaultSmileCurve : Decimal := 2 / 5
def defaultSpread : Decimal := 1 / 100

/-- `OptionChainBuildParams`, with the price parameters it carries. -/
structure OptionChainBuildParams where
  symbol : String
  volume : Option Positive
  chainSize : Nat
  strikeInterval : Option Positive
  skewSlope : Decimal
  smileCurve : Decimal
  spread : Positive
  decimalPlaces : Nat
  underlyingPrice : Positive
  daysToExpiration : Positive
  riskFreeRate : Decimal
  dividendYield : Positive
  impliedVolatility : Positive

/-- A walked path; only a stochastic-volatility model reports volatilities. -/
structure WalkPath where
  prices : List Positive
  vols : Option (List Positive)

/-- `WalkParams`: what a kernel starts from. -/
structure WalkParams (Chain : Type) where
  size : Nat
  timeFrame : TimeFrame
  daysToExpiration : Positive
  initialChain : Chain
  walkType : SimulationMethod

/-- What the service takes from its libraries: chain pricing, the walk kernels, the
volatility estimators, and the texts their values are shown as. -/
structure Upstream (Chain : Type) where
  buildChain : OptionChainBuildParams → Except String Chain
  optionCount : Chain → Nat
  generateWithVol : (seed : Nat) → WalkParams Chain → Except Fault (Except String WalkPath)
  constantVolatility : List Decimal → Except String Positive
  adjustVolatility : Positive → TimeFrame → TimeFrame → Except String Positive
  checkedLn : Decimal → Option Decimal
  positiveNewDecimal : Decimal → Except String Positive
  displayDecimal : Decimal → String
  displayTimeFrame : TimeFrame → String
  debugMethod : SimulationMethod → String

def Positive.one : Positive := ⟨1, zero_le_one⟩

structure FactorRow where
  step : Nat
  simulatedAt : UtcDateTime
  spot : Positive
  baseVolatility : Positive
  deriving DecidableEq

structure FactorTape where
  rows : List FactorRow
  deriving DecidableEq

def FactorTape.len (tape : FactorTape) : Nat := tape.rows.length
def FactorTape.row (tape : FactorTape) (step : Nat) : Option FactorRow := tape.rows[step]?

/-- Where a volatility outside the priceable range came from. -/
inductive VolatilitySource where
  | model
  | series
  deriving DecidableEq

namespace VolatilitySource

def field : VolatilitySource → String
  | .model => "volatility"
  | .series => "method.prices"

def seriesRemedy : String :=
  "the volatility is estimated from the series, so it is the series that has to change —" ++
    " the request's volatility prices nothing for a historical walk"

def remedyTooHigh : VolatilitySource → String
  | .model => "lower the model's volatility or shorten the horizon"
  | .series => seriesRemedy

def remedyZero : VolatilitySource → String
  | .model =>
      "raise the model's volatility, or change the parameters that let its variance" ++
        " collapse to zero"
  | .series => seriesRemedy

end VolatilitySource

def volatilitySource : SimulationMethod → VolatilitySource
  | .historical _ _ _ => .series
  | _ => .model

def atStep : Option Nat → String
  | some step => s!" at step {step}"
  | none => ""

def rejectUnpriceableVolatility (numerics : Numerics) (volatility : Positive)
    (step : Option Nat) (source : VolatilitySource) : Except ChainError Unit :=
  if volatility = .zero then
    .error (.validation source.field <|
      s!"the volatility is zero{atStep step}, and an option chain priced at zero volatility" ++
        s!" is a chain of zero-value options; {source.remedyZero}")
  else if volatility.value ≤ 1 then .ok ()
  else
    .error (.validation source.field <|
      s!"the volatility reaches {numerics.displayPositive volatility}{atStep step}, above the" ++
        s!" 1.0 maximum an option chain can be priced at; {source.remedyTooHigh}")

section Build

variable {Chain : Type} (service : Service) (upstream : Upstream Chain)

def ensureMethodMatches (parameters : SimulationParametersV2) (method : SimulationMethod) :
    Except ChainError Unit :=
  let agrees :=
    match parameters.method, method with
    | .historical _ _ _, .historical _ _ _ => true
    | stored, resolved => stored = resolved
  if agrees then .ok ()
  else
    .error (.internal <|
      "the resolved walk method does not match the simulation's parameters:" ++
        s!" parameters say {upstream.debugMethod parameters.method}, the caller passed" ++
        s!" {upstream.debugMethod method}")

def tooFewPrices (supplied steps : Nat) : ChainError :=
  .validation "method.prices"
    s!"must carry at least one price per step: {supplied} supplied for {steps} steps"

def ensureHistoricalSeriesCoversTheHorizon (parameters : SimulationParametersV2) :
    SimulationMethod → Except ChainError Unit
  | .historical _ prices _ =>
      if prices.length < parameters.steps then
        .error (tooFewPrices prices.length parameters.steps)
      else
        match (prices.take parameters.steps).findIdx? (· = .zero) with
        | some index =>
            .error (.validation "method.prices" <|
              s!"must be strictly positive: the price at index {index} is zero, and a log" ++
                " return divides by the previous price and takes the log of the ratio")
        | none => .ok ()
  | _ => .ok ()

def logReturn (index : Nat) (previous current : Decimal) : Except ChainError Decimal := do
  if previous = 0 then
    throw (.validation "method.prices"
      s!"the price at index {index} is zero, so the series has no return at {index + 1}")
  let ratio ← okOr (Decimal.checkedDiv current previous)
    (.validation "method.prices" <|
      s!"the price ratio at index {index + 1} is not representable" ++
        s!" ({upstream.displayDecimal current} over {upstream.displayDecimal previous})")
  okOr (upstream.checkedLn ratio)
    (.validation "method.prices" <|
      s!"the log return at index {index + 1} is not representable" ++
        s!" (ratio {upstream.displayDecimal ratio})")

def logReturnsFrom (index : Nat) : List Positive → Except ChainError (List Decimal)
  | previous :: current :: rest => do
      let log ← logReturn upstream index previous.value current.value
      let others ← logReturnsFrom (index + 1) (current :: rest)
      return log :: others
  | _ => .ok []

def logReturns (prices : List Positive) : Except ChainError (List Decimal) :=
  logReturnsFrom upstream 0 prices

def annualise (volatility : Positive) (timeframe : TimeFrame) : Except ChainError Positive :=
  (upstream.adjustVolatility volatility timeframe .year).mapError fun e =>
    .validation "volatility" <|
      "the historical volatility cannot be annualised from" ++
        s!" {upstream.displayTimeFrame timeframe}: {e}"

def historicalConstantVolatility (prices : List Positive) (timeframe : TimeFrame) :
    Except ChainError Positive := do
  let returns ← logReturns upstream prices
  let volatility ← (upstream.constantVolatility returns).mapError fun e =>
    .validation "volatility" s!"the historical series has no usable volatility: {e}"
  annualise upstream volatility timeframe

def windowVolatility (returns : List Decimal) (prices : Nat) (timeframe : TimeFrame)
    (point : Nat) : Except ChainError Positive := do
  if returns.length < point then
    throw (.validation "method.prices" <|
      s!"the historical series yielded {returns.length} returns for {prices} prices, too few" ++
        s!" to estimate the volatility at point {point}")
  let volatility ← (upstream.constantVolatility (returns.take point)).mapError fun e =>
    .validation "volatility"
      s!"the historical window ending at point {point} has no volatility: {e}"
  annualise upstream volatility timeframe

/-- Points 0 and 1 carry the first estimate. -/
def expandingWindowVolatilities (prices : List Positive) (timeframe : TimeFrame) :
    Except ChainError (Option (List Positive)) :=
  if prices.length < 3 then .ok none
  else do
    let returns ← logReturns upstream prices
    let volatilities ← (List.range' 2 (prices.length - 2)).mapM
      (windowVolatility upstream returns prices.length timeframe)
    match volatilities with
    | [] => return none
    | fill :: _ => return some (fill :: fill :: volatilities)

def resolveBaseVolatility (parameters : SimulationParametersV2) (method : SimulationMethod) :
    Except ChainError Positive :=
  match method.volatility with
  | some modelVolatility =>
      if modelVolatility ≠ parameters.volatility then
        .error (.validation "volatility" <|
          "must match the walk model's volatility" ++
            s!" ({service.numerics.displayPositive modelVolatility}), got" ++
            s!" {service.numerics.displayPositive parameters.volatility};" ++
            " a simulation has exactly one base volatility")
      else .ok modelVolatility
  | none =>
      match method with
      | .historical timeframe prices _ =>
          if prices.length < parameters.steps then
            .error (tooFewPrices prices.length parameters.steps)
          else historicalConstantVolatility upstream (prices.take parameters.steps) timeframe
      | _ => .ok parameters.volatility

def chainSpread : Option Positive → Except ChainError Positive
  | some spread => .ok spread
  | none => (upstream.positiveNewDecimal defaultSpread).mapError fun e =>
      .internal s!"the default spread is not a valid Positive: {e}"

def buildChain (parameters : SimulationParametersV2) (spot volatility : Positive)
    (daysToExpiration : Positive) : Except ChainError Chain := do
  let spread ← chainSpread upstream parameters.spread
  (upstream.buildChain {
    symbol := parameters.symbol
    volume := some .one
    chainSize := parameters.chainSize.getD defaultChainSize
    strikeInterval := parameters.strikeInterval
    skewSlope := parameters.skewSlope.getD defaultSkewSlope
    smileCurve := parameters.smileCurve.getD defaultSmileCurve
    spread := spread
    decimalPlaces := 2
    underlyingPrice := spot
    daysToExpiration := daysToExpiration
    riskFreeRate := parameters.riskFreeRate
    dividendYield := parameters.dividendYield
    impliedVolatility := volatility }).mapError fun e =>
      .internal s!"Failed to build the option chain: {e}"

def buildInitialChain (parameters : SimulationParametersV2) (baseVolatility : Positive) :
    Except ChainError Chain :=
  buildChain upstream parameters parameters.initialPrice baseVolatility .one

/-- The volatilities that price each step: the path's own, or estimated from a walked
series, or none where the model's constant applies. -/
def stepVolatilities (method : SimulationMethod) (path : WalkPath) :
    Except ChainError (Option (List Positive)) :=
  match path.vols with
  | some vols => .ok (some vols)
  | none =>
      match method with
      | .historical timeframe _ _ => expandingWindowVolatilities upstream path.prices timeframe
      | _ => .ok none

def rowVolatility (volatilities : Option (List Positive)) (baseVolatility : Positive)
    (step : Nat) : Except ChainError Positive :=
  match volatilities with
  | some volatilities =>
      okOr volatilities[step]? (.internal s!"the walk has no volatility for step {step}")
  | none => .ok baseVolatility

def factorRow (parameters : SimulationParametersV2) (method : SimulationMethod)
    (prices : List Positive) (volatilities : Option (List Positive)) (baseVolatility : Positive)
    (step : Nat) : Except ChainError FactorRow := do
  let spot ← okOr prices[step]? (.internal s!"the walk has no price for step {step}")
  let rowVolatility ← rowVolatility volatilities baseVolatility step
  rejectUnpriceableVolatility service.numerics rowVolatility (some step) (volatilitySource method)
  let simulatedAt ← parameters.simulatedAt step
  return {
    step := step
    simulatedAt := simulatedAt
    spot := spot
    baseVolatility := rowVolatility }

def factorRows (parameters : SimulationParametersV2) (method : SimulationMethod)
    (baseVolatility : Positive) (path : WalkPath) : Except ChainError FactorTape := do
  if path.prices.length < parameters.steps then
    throw (.internal <|
      s!"the walk produced {path.prices.length} points but {parameters.steps} steps were" ++
        " requested")
  let volatilities ← stepVolatilities upstream method path
  let rows ← (List.range parameters.steps).mapM
    (factorRow service parameters method path.prices volatilities baseVolatility)
  return ⟨rows⟩

/-- The checks before the walk, and the chain that seeds it. -/
def factorWalk (parameters : SimulationParametersV2) (method : SimulationMethod) :
    Except ChainError (Positive × WalkParams Chain) := do
  parameters.validate service
  ensureMethodMatches upstream parameters method
  ensureHistoricalSeriesCoversTheHorizon parameters method
  let baseVolatility ← resolveBaseVolatility service upstream parameters method
  rejectUnpriceableVolatility service.numerics baseVolatility none (volatilitySource method)
  let initialChain ← buildInitialChain upstream parameters baseVolatility
  return (baseVolatility, {
    size := parameters.steps
    timeFrame := parameters.timeFrame
    daysToExpiration := .one
    initialChain := initialChain
    walkType := method })

/-- A kernel may panic; nothing else here does. -/
def FactorTape.build (parameters : SimulationParametersV2) (method : SimulationMethod) :
    Except Fault FactorTape := do
  let (baseVolatility, walkParams) ← factorWalk service upstream parameters method
  let walked ← upstream.generateWithVol parameters.seed walkParams
  let path ← (walked.mapError fun e =>
    .internal s!"Failed to generate the factor tape: {e}" : Except ChainError WalkPath)
  factorRows service upstream parameters method baseVolatility path

end Build

section Rows

variable {Chain : Type} {service : Service} {upstream : Upstream Chain}
  {parameters : SimulationParametersV2} {method : SimulationMethod} {tape : FactorTape}

theorem factorWalk_eq_ok {base : Positive} {walkParams : WalkParams Chain}
    (prepared : factorWalk service upstream parameters method = .ok (base, walkParams)) :
    parameters.validate service = .ok () ∧
      ensureHistoricalSeriesCoversTheHorizon parameters method = .ok () ∧
      walkParams.size = parameters.steps ∧ walkParams.walkType = method ∧
      ∃ build, upstream.buildChain build = .ok walkParams.initialChain ∧
        build.underlyingPrice = parameters.initialPrice := by
  unfold factorWalk at prepared
  simp only [bind_unit_eq_ok] at prepared
  obtain ⟨valid, -, covers, prepared⟩ := prepared
  obtain ⟨volatility, -, prepared⟩ := bind_eq_ok.mp prepared
  obtain ⟨-, prepared⟩ := bind_unit_eq_ok.mp prepared
  obtain ⟨chain, built, kept⟩ := bind_eq_ok.mp prepared
  cases kept
  unfold buildInitialChain buildChain at built
  obtain ⟨spread, -, built⟩ := bind_eq_ok.mp built
  exact ⟨valid, covers, rfl, rfl, _, mapError_eq_ok.mp built, rfl⟩

theorem steps_le_of_covers {timeframe : TimeFrame} {prices : List Positive}
    {symbol : Option String}
    (covers : ensureHistoricalSeriesCoversTheHorizon parameters
      (.historical timeframe prices symbol) = .ok ()) : parameters.steps ≤ prices.length := by
  simp only [ensureHistoricalSeriesCoversTheHorizon] at covers
  split_ifs at covers with short
  exact not_lt.mp short

theorem FactorTape.walked_of_build
    (built : FactorTape.build service upstream parameters method = .ok tape) :
    ∃ base walkParams path volatilities,
      factorWalk service upstream parameters method = .ok (base, walkParams) ∧
      upstream.generateWithVol parameters.seed walkParams = .ok (.ok path) ∧
      parameters.steps ≤ path.prices.length ∧
      stepVolatilities upstream method path = .ok volatilities ∧
      List.Forall₂ (fun step row =>
          factorRow service parameters method path.prices volatilities base step = .ok row)
        (List.range parameters.steps) tape.rows := by
  unfold FactorTape.build at built
  obtain ⟨⟨base, walkParams⟩, prepared, walking⟩ := bind_eq_ok.mp built
  obtain ⟨walked, generated, assembling⟩ := bind_eq_ok.mp walking
  obtain ⟨path, accepted, assembled⟩ := bind_eq_ok.mp assembling
  have rowsBuilt := lift_eq_ok.mp assembled
  rw [lift_eq_ok, mapError_eq_ok] at accepted
  subst accepted
  unfold factorRows at rowsBuilt
  split_ifs at rowsBuilt with short
  · cases rowsBuilt
  · obtain ⟨volatilities, priced, collecting⟩ := bind_eq_ok.mp rowsBuilt
    obtain ⟨rows, collected, kept⟩ := bind_eq_ok.mp collecting
    cases kept
    exact ⟨base, walkParams, path, volatilities, lift_eq_ok.mp prepared, generated,
      not_lt.mp short, priced, mapM_eq_ok.mp collected⟩

theorem factorRow_eq_ok {base : Positive} {walked : List Positive}
    {volatilities : Option (List Positive)} {step : Nat} {row : FactorRow}
    (assembled : factorRow service parameters method walked volatilities base step = .ok row) :
    row.step = step ∧ walked[step]? = some row.spot ∧
      rowVolatility volatilities base step = .ok row.baseVolatility ∧
      rejectUnpriceableVolatility service.numerics row.baseVolatility (some step)
        (volatilitySource method) = .ok () ∧
      parameters.simulatedAt step = .ok row.simulatedAt := by
  unfold factorRow at assembled
  obtain ⟨spot, found, rest⟩ := bind_eq_ok.mp assembled
  obtain ⟨volatility, priced, rest⟩ := bind_eq_ok.mp rest
  obtain ⟨accepted, rest⟩ := bind_unit_eq_ok.mp rest
  obtain ⟨simulatedAt, clocked, kept⟩ := bind_eq_ok.mp rest
  cases kept
  exact ⟨rfl, okOr_eq_ok.mp found, priced, accepted, clocked⟩

theorem forall₂_range {α : Type} {relates : Nat → α → Prop} {steps : Nat} {rows : List α}
    (each : List.Forall₂ relates (List.range steps) rows) :
    rows.length = steps ∧ ∀ step row, rows[step]? = some row → relates step row := by
  have counted : rows.length = steps := by rw [← each.length_eq, List.length_range]
  refine ⟨counted, ?_⟩
  intro step row present
  obtain ⟨within, held⟩ := List.getElem?_eq_some_iff.mp present
  have inRange : step < (List.range steps).length := each.length_eq ▸ within
  have related := List.Forall₂.get each inRange within
  simpa only [List.get_eq_getElem, List.getElem_range, held] using related

theorem FactorTape.step_of_row {step : Nat} {row : FactorRow}
    (built : FactorTape.build service upstream parameters method = .ok tape)
    (present : tape.row step = some row) : row.step = step := by
  obtain ⟨base, walkParams, path, volatilities, -, -, -, -, rows⟩ := walked_of_build built
  obtain ⟨-, assembled⟩ := forall₂_range rows
  exact (factorRow_eq_ok (assembled step row present)).1

end Rows

end OptionChainSimulator.Domain
