import Mathlib.Tactic
import OptionChainSimulator.Api.Models
import OptionChainSimulator.Domain.Expiry.Schedule

namespace OptionChainSimulator.Session

open Foundation Utils Domain Domain.Expiry Api

/-! The parameters of a v2 simulation: resolved from a request, and checked again
whenever a stored document is read. -/

def minStepIntervalSeconds : Nat := 1
def maxStepIntervalSeconds : Nat := 31536000
def secondsPerYear : Nat := 31536000
def supportedCalendar : String := "weekdays_v1"
def defaultChainSize : Nat := 30

/-- What a running service is configured with: its limits, its zone database, its
number conversions and `NaiveTime::parse_from_str`. -/
structure Service where
  limits : Limits
  zones : TzDatabase
  numerics : Numerics
  parseTime : (raw format : String) → Option NaiveTime

def intervalTooShort (timeFrame : String) : ChainError :=
  .validation "step_interval_seconds" <|
    s!"cannot be derived from time_frame {timeFrame}: it is shorter than" ++
      s!" {minStepIntervalSeconds} second; supply step_interval_seconds explicitly"

def intervalOutside (seconds : String) : ChainError :=
  .validation "step_interval_seconds" <|
    s!"derived interval {seconds} s is outside" ++
      s!" [{minStepIntervalSeconds}, {maxStepIntervalSeconds}];" ++
      " supply step_interval_seconds explicitly"

def periodsNotPositive (periods : String) : ChainError :=
  .validation "time_frame" s!"custom periods per year must be finite and positive, got {periods}"

def deriveStepIntervalSeconds (numerics : Numerics) (timeFrame : TimeFrame) :
    Except ChainError Nat :=
  match timeFrame with
  | .microsecond => .error (intervalTooShort "Microsecond")
  | .millisecond => .error (intervalTooShort "Millisecond")
  | .second => .ok 1
  | .minute => .ok 60
  | .hour => .ok 3600
  | .day => .ok 86400
  | .week => .ok 604800
  | .month => .ok 2592000
  | .quarter => .ok 7776000
  | .year => .ok secondsPerYear
  | .custom periodsPerYear =>
      match numerics.positiveToF64 periodsPerYear with
      | .finite periods =>
          if periods ≤ 0 then
            .error (periodsNotPositive (numerics.displayF64 (.finite periods)))
          else
            match numerics.rounded (secondsPerYear / periods) with
            | .finite quotient =>
                let seconds := Numerics.roundHalfAway quotient
                if minStepIntervalSeconds ≤ seconds ∧ seconds ≤ maxStepIntervalSeconds then
                  .ok seconds.toNat
                else .error (intervalOutside (numerics.displayF64 (.finite seconds)))
            | other => .error (intervalOutside (numerics.displayF64 other))
      | other => .error (periodsNotPositive (numerics.displayF64 other))

def rejectZero (field : String) (value : Positive) : Except ChainError Unit :=
  if value = .zero then .error (.validation field "must be strictly positive, got 0")
  else .ok ()

def validateStepIntervalSeconds (seconds : Nat) : Except ChainError Nat :=
  if minStepIntervalSeconds ≤ seconds ∧ seconds ≤ maxStepIntervalSeconds then .ok seconds
  else
    .error (.validation "step_interval_seconds"
      s!"must be within [{minStepIntervalSeconds}, {maxStepIntervalSeconds}], got {seconds}")

def parseExpirationTime (service : Service) (raw : String) : Except ChainError NaiveTime :=
  match service.parseTime raw "%H:%M:%S" with
  | some time => .ok time
  | none =>
      okOr (service.parseTime raw "%H:%M")
        (.validation "expiration_time"
          s!"must be a local time as HH:MM or HH:MM:SS, got {raw.quote}")

def parseTimezone (service : Service) (raw : String) : Except ChainError Tz :=
  okOr (service.zones.parse raw)
    (.validation "timezone" s!"must be a known IANA time-zone name, got {raw.quote}")

def parseCalendar (raw : Option String) : Except ChainError CalendarVersion :=
  let name := raw.getD supportedCalendar
  if name = supportedCalendar then .ok .weekdaysV1
  else .error (.validation "calendar" s!"must be {supportedCalendar}, got {name.quote}")

structure SimulationParametersV2 where
  symbol : String
  steps : Nat
  effectiveStart : UtcDateTime
  stepIntervalSeconds : Nat
  timeFrame : TimeFrame
  schedule : ExpirationSchedule
  tzdbVersion : String
  initialPrice : Positive
  volatility : Positive
  riskFreeRate : Decimal
  dividendYield : Positive
  method : SimulationMethod
  chainSize : Option Nat
  strikeInterval : Option Positive
  skewSlope : Option Decimal
  smileCurve : Option Decimal
  spread : Option Positive
  seed : Nat
  deriving DecidableEq

def strikesPerChain (chainSize : Nat) : Option Nat :=
  (unsigned? u64Limit (chainSize * 2)).bind fun sides => unsigned? u64Limit (sides + 1)

/-- The fold over the rules' `target_count`s. -/
def countExpirations (total : Nat) : List ExpiryRule → Option Nat
  | [] => some total
  | rule :: rest =>
      (unsigned? u64Limit (total + rule.targetCount.get)).bind fun total =>
        countExpirations total rest

def stepsField (limits : Limits) (steps : Nat) : Except ChainError Unit :=
  if steps < 1 then .error (.validation "steps" "must be at least 1")
  else if steps > limits.maxSteps then
    .error (.validation "steps" s!"must not exceed {limits.maxSteps}, got {steps}")
  else .ok ()

def chainSizeField (limits : Limits) : Option Nat → Except ChainError Unit
  | some chainSize =>
      if chainSize > limits.maxChainSize then
        .error (.validation "chain_size"
          s!"must not exceed {limits.maxChainSize}, got {chainSize}")
      else .ok ()
  | none => .ok ()

namespace SimulationParametersV2

def validateSnapshotWork (limits : Limits) (parameters : SimulationParametersV2) :
    Except ChainError Unit := do
  let requested := parameters.chainSize.getD defaultChainSize
  let strikes ← okOr (strikesPerChain requested)
    (.validation "chain_size"
      s!"a chain of {requested} does not have a representable strike count")
  let expirations ← okOr (countExpirations 0 parameters.schedule.rules)
    (.validation "schedules" "the requested expiration counts overflow")
  let contracts ← okOr (unsigned? u64Limit (strikes * expirations))
    (.validation "chain_size" <|
      s!"{strikes} strikes across {expirations} expirations overflows the contract count")
  if contracts > limits.maxSnapshotContracts then
    .error (.validation "chain_size" <|
      s!"every snapshot would price {contracts} contracts ({strikes} strikes across up to" ++
        s!" {expirations} expirations), above the {limits.maxSnapshotContracts} maximum; lower" ++
        " chain_size or the schedules' target_count")
  else .ok ()

def wholeSecondField (effectiveStart : UtcDateTime) : Except ChainError Unit :=
  if effectiveStart.time.frac ≠ 0 then
    .error (.validation "effective_start"
      s!"must be on a whole second, got {effectiveStart.toRfc3339}")
  else .ok ()

def baseVolatilityField (numerics : Numerics) (method : SimulationMethod)
    (volatility : Positive) : Except ChainError Unit :=
  match method.volatility with
  | some modelVolatility =>
      if modelVolatility ≠ volatility then
        .error (.validation "volatility" <|
          s!"must match the walk model's volatility ({numerics.displayPositive modelVolatility})," ++
            s!" got {numerics.displayPositive volatility};" ++
            " a simulation has exactly one base volatility")
      else .ok ()
  | none => .ok ()

/-- A stored zone release other than the running one is only logged. -/
def validate (service : Service) (parameters : SimulationParametersV2) :
    Except ChainError Unit := do
  stepsField service.limits parameters.steps
  chainSizeField service.limits parameters.chainSize
  symbolField "symbol" parameters.symbol
  let _ ← validateStepIntervalSeconds parameters.stepIntervalSeconds
  rejectZero "initial_price" parameters.initialPrice
  rejectZero "volatility" parameters.volatility
  let _ ← optionalField (rejectZero "strike_interval") parameters.strikeInterval
  validateWalkType service.numerics service.limits parameters.method
  wholeSecondField parameters.effectiveStart
  validateRules parameters.schedule.rules
  parameters.validateSnapshotWork service.limits
  baseVolatilityField service.numerics parameters.method parameters.volatility

def simulatedTimeOverflow (parameters : SimulationParametersV2) (cursor : Nat) : ChainError :=
  .validation "steps" <|
    s!"simulated time overflows at cursor {cursor} with a" ++
      s!" {parameters.stepIntervalSeconds} s interval"

def simulatedAt (parameters : SimulationParametersV2) (cursor : Nat) :
    Except ChainError UtcDateTime := do
  let overflow := parameters.simulatedTimeOverflow cursor
  let cursor ← okOr (signed? i64Limit cursor) overflow
  let interval ← okOr (signed? i64Limit parameters.stepIntervalSeconds) overflow
  let offset ← okOr (signed? i64Limit (cursor * interval)) overflow
  let delta ← okOr (trySeconds offset) overflow
  okOr (parameters.effectiveStart.checkedAddSeconds delta) overflow

end SimulationParametersV2

structure CreateSimulationRequest where
  symbol : String
  steps : Nat
  startAt : Option UtcDateTime
  stepIntervalSeconds : Option Nat
  timezone : String
  calendar : Option String
  expirationTime : String
  schedules : List ExpiryRule
  initialPrice : F64
  volatility : F64
  riskFreeRate : F64
  dividendYield : F64
  method : ApiWalkType
  timeFrame : ApiTimeFrame
  chainSize : Option Nat
  strikeInterval : Option F64
  skewSlope : Option F64
  smileCurve : Option F64
  spread : Option F64
  seed : Option Nat

def stepIntervalField (numerics : Numerics) (timeFrame : TimeFrame) :
    Option Nat → Except ChainError Nat
  | some seconds => validateStepIntervalSeconds seconds
  | none => deriveStepIntervalSeconds numerics timeFrame

namespace CreateSimulationRequest

/-- The field checks and conversions of `TryFrom<CreateSimulationRequest>`. The wall
clock and the random draw are read only where the request leaves the start or the
seed out. -/
def resolve (service : Service) (now : UtcDateTime) (draw : Nat)
    (request : CreateSimulationRequest) : Except ChainError SimulationParametersV2 := do
  let numerics := service.numerics
  stepsField service.limits request.steps
  chainSizeField service.limits request.chainSize
  symbolField "symbol" request.symbol
  let timeFrame ← timeFrameField numerics "time_frame" request.timeFrame
  let stepIntervalSeconds ←
    stepIntervalField numerics timeFrame request.stepIntervalSeconds
  -- `with_nanosecond(0)` never fails
  let effectiveStart := (request.startAt.getD now).withoutNanoseconds
  let calendar ← parseCalendar request.calendar
  let timezone ← parseTimezone service request.timezone
  let expirationTime ← parseExpirationTime service request.expirationTime
  let schedule ← ExpirationSchedule.new calendar timezone expirationTime request.schedules
  let initialPrice ← strictlyPositiveField numerics "initial_price" request.initialPrice
  let volatility ← strictlyPositiveField numerics "volatility" request.volatility
  let riskFreeRate ← decimalField numerics "risk_free_rate" request.riskFreeRate
  let dividendYield ← positiveField numerics "dividend_yield" request.dividendYield
  let method ← request.method.tryIntoWalkType numerics service.limits
  let strikeInterval ←
    optionalField (strictlyPositiveField numerics "strike_interval") request.strikeInterval
  let skewSlope ← optionalField (decimalField numerics "skew_slope") request.skewSlope
  let smileCurve ← optionalField (decimalField numerics "smile_curve") request.smileCurve
  let spread ← optionalField (positiveField numerics "spread") request.spread
  return {
    symbol := request.symbol
    steps := request.steps
    effectiveStart := effectiveStart
    stepIntervalSeconds := stepIntervalSeconds
    timeFrame := timeFrame
    schedule := schedule
    tzdbVersion := service.zones.version
    initialPrice := initialPrice
    volatility := volatility
    riskFreeRate := riskFreeRate
    dividendYield := dividendYield
    method := method
    chainSize := request.chainSize
    strikeInterval := strikeInterval
    skewSlope := skewSlope
    smileCurve := smileCurve
    spread := spread
    seed := request.seed.getD draw }

/-- `TryFrom<CreateSimulationRequest> for SimulationParametersV2`. -/
def tryIntoParameters (service : Service) (now : UtcDateTime) (draw : Nat)
    (request : CreateSimulationRequest) : Except ChainError SimulationParametersV2 := do
  let parameters ← request.resolve service now draw
  parameters.validate service
  return parameters

/-- Whatever a request resolves to has passed the checks a stored document is held to. -/
theorem validate_of_tryIntoParameters {service : Service} {now : UtcDateTime} {draw : Nat}
    {request : CreateSimulationRequest} {parameters : SimulationParametersV2}
    (accepted : request.tryIntoParameters service now draw = .ok parameters) :
    parameters.validate service = .ok () := by
  obtain ⟨resolved, -, checked⟩ := bind_eq_ok.mp accepted
  obtain ⟨passed, kept⟩ := bind_unit_eq_ok.mp checked
  cases kept
  exact passed

end CreateSimulationRequest

namespace SimulationParametersV2

theorem clock_of_validate {service : Service} {parameters : SimulationParametersV2}
    (valid : parameters.validate service = .ok ()) :
    1 ≤ parameters.stepIntervalSeconds ∧ parameters.stepIntervalSeconds ≤ 31536000 ∧
      parameters.effectiveStart.time.frac = 0 := by
  unfold validate at valid
  simp only [bind_unit_eq_ok] at valid
  obtain ⟨-, -, -, interval⟩ := valid
  obtain ⟨seconds, interval, rest⟩ := bind_eq_ok.mp interval
  simp only [bind_unit_eq_ok] at rest
  obtain ⟨-, -, others⟩ := rest
  obtain ⟨_, -, others⟩ := bind_eq_ok.mp others
  simp only [bind_unit_eq_ok] at others
  obtain ⟨-, wholeSecond, -⟩ := others
  unfold validateStepIntervalSeconds at interval
  unfold wholeSecondField at wholeSecond
  split_ifs at interval with within
  split_ifs at wholeSecond with whole
  exact ⟨within.1, within.2, not_not.mp whole⟩

end SimulationParametersV2

end OptionChainSimulator.Session
