import Mathlib.Tactic
import OptionChainSimulator.Session.Replay

namespace OptionChainSimulator.Session

open Foundation Utils Domain Domain.Expiry Api

/-! Stored parameters against those of a request. -/

section Standard

/-- What every request that resolves establishes of its parameters. -/
structure HeldToRequest (limits : Limits) (parameters : SimulationParametersV2) : Prop where
  steps : 1 ≤ parameters.steps ∧ parameters.steps ≤ limits.maxSteps
  chainSize : ∀ size, parameters.chainSize = some size → size ≤ limits.maxChainSize
  symbol : validateSymbol parameters.symbol = .ok ()
  timeFrame : StrictlyPositive parameters.timeFrame
  stepInterval : 1 ≤ parameters.stepIntervalSeconds ∧ parameters.stepIntervalSeconds ≤ 31536000
  effectiveStart : parameters.effectiveStart.time.frac = 0
  expirationTime : parameters.schedule.expirationTime.WholeSecond
  initialPrice : parameters.initialPrice ≠ .zero
  volatility : parameters.volatility ≠ .zero
  strikeInterval : ∀ interval, parameters.strikeInterval = some interval → interval ≠ .zero
  method : Admissible limits parameters.method
  baseVolatility : ∀ volatility, parameters.method.volatility = some volatility →
    volatility = parameters.volatility
  rulesValid : validateRules parameters.schedule.rules = .ok ()
  rulesSorted : parameters.schedule.rules.Pairwise fun left right => left.ruleId ≤ right.ruleId
  rulesNormalised : ∀ rule ∈ parameters.schedule.rules, rule.kind.normalised = rule.kind
  contracts : (parameters.chainSize.getD defaultChainSize * 2 + 1) *
    totalCount parameters.schedule.rules ≤ limits.maxSnapshotContracts

end Standard

section Checks

variable {service : Service} {parameters : SimulationParametersV2}

theorem countExpirations_eq_some {total expirations : Nat} {rules : List ExpiryRule}
    (counted : countExpirations total rules = some expirations) :
    expirations = total + totalCount rules := by
  induction rules generalizing total with
  | nil =>
      cases counted
      rfl
  | cons rule rest ih =>
      obtain ⟨sum, added, counted⟩ := Option.bind_eq_some_iff.mp counted
      obtain ⟨-, rfl⟩ := unsigned?_eq_some.mp added
      have sums : totalCount (rule :: rest) = rule.targetCount.get + totalCount rest := rfl
      rw [ih counted, sums]
      omega

theorem strikesPerChain_eq_some {chainSize strikes : Nat}
    (counted : strikesPerChain chainSize = some strikes) : strikes = chainSize * 2 + 1 := by
  obtain ⟨sides, doubled, counted⟩ := Option.bind_eq_some_iff.mp counted
  obtain ⟨-, rfl⟩ := unsigned?_eq_some.mp doubled
  exact (unsigned?_eq_some.mp counted).2

theorem contracts_of_validateSnapshotWork
    (checked : parameters.validateSnapshotWork service.limits = .ok ()) :
    (parameters.chainSize.getD defaultChainSize * 2 + 1) * totalCount parameters.schedule.rules ≤
      service.limits.maxSnapshotContracts := by
  unfold SimulationParametersV2.validateSnapshotWork at checked
  simp only [bind_eq_ok, okOr_eq_ok] at checked
  obtain ⟨strikes, counted, expirations, summed, contracts, product, within⟩ := checked
  obtain rfl := strikesPerChain_eq_some counted
  obtain rfl := countExpirations_eq_some summed
  obtain ⟨-, rfl⟩ := unsigned?_eq_some.mp product
  split_ifs at within with above
  rw [Nat.zero_add] at above
  exact not_lt.mp above

theorem rejectZero_eq_ok {field : String} {value : Positive} :
    rejectZero field value = .ok () ↔ value ≠ .zero := by
  unfold rejectZero
  split_ifs with zero <;> simp [zero]

/-- The shared check leaves two of the constraints open. -/
theorem heldToRequest_of_validate (exact : Exact service.numerics)
    (valid : parameters.validate service = .ok ())
    (timeFrame : StrictlyPositive parameters.timeFrame)
    (expirationTime : parameters.schedule.expirationTime.WholeSecond) :
    HeldToRequest service.limits parameters := by
  obtain ⟨least, most, whole⟩ := SimulationParametersV2.clock_of_validate valid
  unfold SimulationParametersV2.validate at valid
  simp only [bind_unit_eq_ok] at valid
  obtain ⟨steps, chainSize, symbol, valid⟩ := valid
  obtain ⟨_, -, valid⟩ := bind_eq_ok.mp valid
  simp only [bind_unit_eq_ok] at valid
  obtain ⟨price, volatility, valid⟩ := valid
  obtain ⟨kept, strike, valid⟩ := bind_eq_ok.mp valid
  simp only [bind_unit_eq_ok] at valid
  obtain ⟨method, -, rules, work, base⟩ := valid
  refine ⟨?_, ?_, symbolField_eq_ok.mp symbol, timeFrame, ⟨least, most⟩, whole, expirationTime,
    rejectZero_eq_ok.mp price, rejectZero_eq_ok.mp volatility, ?_,
    (validateWalkType_eq_ok exact).mp method, ?_, rules, parameters.schedule.rules_sorted, ?_,
    contracts_of_validateSnapshotWork work⟩
  · unfold stepsField at steps
    split_ifs at steps
    omega
  · intro size given
    rw [given] at chainSize
    simp only [chainSizeField] at chainSize
    split_ifs at chainSize with above
    exact not_lt.mp above
  · intro interval given
    rw [given] at strike
    obtain ⟨_, checked, -⟩ := map_eq_ok.mp strike
    exact rejectZero_eq_ok.mp checked
  · intro modelVolatility carried
    simp only [SimulationParametersV2.baseVolatilityField, carried] at base
    split_ifs at base with same
    exact not_not.mp same
  · intro rule _
    exact rule.kind_normalised

end Checks

/-- The stored document, its fields already of their types. -/
structure SimulationParametersV2Wire where
  symbol : String
  steps : Nat
  effectiveStart : UtcDateTime
  stepIntervalSeconds : Nat
  timeFrame : TimeFrame
  schedule : ExpirationScheduleWire
  tzdbVersion : String
  initialPrice : Positive
  volatility : Positive
  riskFreeRate : Decimal
  dividendYield : Positive
  method : SimulationMethod
  chainSize : Option Nat
  strikeInterval : Option Positive
  skewSlope : Option Decimal
  smileCurve : Option Decimal
  spread : Option Positive
  seed : Nat

/-- `TryFrom<SimulationParametersV2Wire>`, after the schedule's own `TryFrom`. -/
def SimulationParametersV2Wire.tryIntoParameters (service : Service)
    (wire : SimulationParametersV2Wire) : Except ChainError SimulationParametersV2 := do
  let schedule ← wire.schedule.tryIntoSchedule
  let parameters : SimulationParametersV2 :=
    { symbol := wire.symbol
      steps := wire.steps
      effectiveStart := wire.effectiveStart
      stepIntervalSeconds := wire.stepIntervalSeconds
      timeFrame := wire.timeFrame
      schedule := schedule
      tzdbVersion := wire.tzdbVersion
      initialPrice := wire.initialPrice
      volatility := wire.volatility
      riskFreeRate := wire.riskFreeRate
      dividendYield := wire.dividendYield
      method := wire.method
      chainSize := wire.chainSize
      strikeInterval := wire.strikeInterval
      skewSlope := wire.skewSlope
      smileCurve := wire.smileCurve
      spread := wire.spread
      seed := wire.seed }
  parameters.validate service
  return parameters

section Requests

variable {service : Service} {parameters : SimulationParametersV2}
  {document : SimulationParametersV2Wire} {request : CreateSimulationRequest}
  {now : UtcDateTime} {draw : Nat}

/-- Some request resolves to these parameters; the zone release is the running one. -/
def Creatable (service : Service) (parameters : SimulationParametersV2) : Prop :=
  ∃ request now draw, CreateSimulationRequest.tryIntoParameters service now draw request =
    .ok { parameters with tzdbVersion := service.zones.version }

/-- The zone of a stored schedule is one of the database, and its time, shown in whole seconds,
is one that is read. -/
structure NamesRead (service : Service) (schedule : ExpirationScheduleWire) : Prop where
  zone : service.zones.parse schedule.timezone.name = some schedule.timezone
  time : schedule.expirationTime.WholeSecond →
    service.parseTime (formatTime schedule.expirationTime) "%H:%M:%S" =
      some schedule.expirationTime

/-- The request that spells out some parameters. -/
def spelledOut (numerics : Numerics) (parameters : SimulationParametersV2) :
    CreateSimulationRequest :=
  asRequest parameters
    { symbol := parameters.symbol
      steps := parameters.steps
      startAt := none
      stepIntervalSeconds := none
      timezone := ""
      calendar := none
      expirationTime := ""
      schedules := []
      initialPrice := numerics.positiveToF64 parameters.initialPrice
      volatility := numerics.positiveToF64 parameters.volatility
      riskFreeRate := numerics.decimalToF64 parameters.riskFreeRate
      dividendYield := numerics.positiveToF64 parameters.dividendYield
      method := ApiWalkType.ofWalkType numerics parameters.method
      timeFrame := ApiTimeFrame.ofTimeFrame numerics parameters.timeFrame
      chainSize := none
      strikeInterval := parameters.strikeInterval.map numerics.positiveToF64
      skewSlope := parameters.skewSlope.map numerics.decimalToF64
      smileCurve := parameters.smileCurve.map numerics.decimalToF64
      spread := parameters.spread.map numerics.positiveToF64
      seed := none }

theorem heldToRequest_of_request (exact : Exact service.numerics)
    (formats : WholeSecondFormats service)
    (accepted : request.tryIntoParameters service now draw = .ok parameters) :
    HeldToRequest service.limits parameters := by
  obtain ⟨resolves, valid⟩ := CreateSimulationRequest.tryIntoParameters_eq_ok.mp accepted
  exact heldToRequest_of_validate exact valid
    ((timeFrameField_eq_ok exact).mp resolves.timeFrame).2
    (wholeSecond_of_parse formats resolves.expirationTime)

theorem optionalDecimal_eq_ok {numerics : Numerics} {field : String} (exact : Exact numerics)
    {given : Option F64} {converted : Option Decimal} :
    optionalField (decimalField numerics field) given = .ok converted ↔
      given = converted.map numerics.decimalToF64 := by
  cases given with
  | none => cases converted <;> simp [optionalField]
  | some value =>
      simp only [optionalField, map_eq_ok, decimalField_eq_ok exact]
      cases converted <;> simp

/-- What is held to the standard of a request is what some request resolves to. -/
theorem creatable_of_held (exact : Exact service.numerics)
    (valid : parameters.validate service = .ok ())
    (zone : service.zones.parse parameters.schedule.timezone.name =
      some parameters.schedule.timezone)
    (time : service.parseTime (formatTime parameters.schedule.expirationTime) "%H:%M:%S" =
      some parameters.schedule.expirationTime)
    (held : HeldToRequest service.limits parameters) : Creatable service parameters := by
  refine ⟨spelledOut service.numerics parameters, parameters.effectiveStart, 0,
    CreateSimulationRequest.tryIntoParameters_eq_ok.mpr ⟨?_, valid⟩⟩
  have interval : validateStepIntervalSeconds parameters.stepIntervalSeconds =
      .ok parameters.stepIntervalSeconds := if_pos held.stepInterval
  unfold SimulationParametersV2.validate at valid
  simp only [bind_unit_eq_ok] at valid
  obtain ⟨steps, chainSize, symbol, -⟩ := valid
  exact {
    symbol := rfl
    steps := rfl
    chainSize := rfl
    seed := rfl
    tzdbVersion := rfl
    effectiveStart := (NaiveDateTime.withoutNanoseconds_of_whole held.effectiveStart).symm
    stepsChecked := steps
    chainSizeChecked := chainSize
    symbolChecked := symbol
    timeFrame := (timeFrameField_eq_ok exact).mpr ⟨rfl, held.timeFrame⟩
    stepInterval := interval
    calendar := parseCalendar_asStr parameters.schedule.calendar
    timezone := parseTimezone_name zone
    expirationTime := parseExpirationTime_formatTime time
    schedule := parameters.schedule.new_self
    initialPrice := (strictlyPositiveField_eq_ok exact).mpr ⟨rfl, held.initialPrice⟩
    volatility := (strictlyPositiveField_eq_ok exact).mpr ⟨rfl, held.volatility⟩
    riskFreeRate := (decimalField_eq_ok exact).mpr rfl
    dividendYield := (positiveField_eq_ok exact).mpr rfl
    method := tryIntoWalkType_ofWalkType exact held.method
    strikeInterval := (optionalField_eq_ok fun _ _ => strictlyPositiveField_eq_ok exact).mpr
      ⟨rfl, held.strikeInterval⟩
    skewSlope := (optionalDecimal_eq_ok exact).mpr rfl
    smileCurve := (optionalDecimal_eq_ok exact).mpr rfl
    spread := (optionalPositive_eq_ok exact).mpr rfl }

theorem facts_of_tryIntoParameters (decoded : document.tryIntoParameters service = .ok parameters) :
    parameters.validate service = .ok () ∧ parameters.timeFrame = document.timeFrame ∧
      parameters.schedule.timezone = document.schedule.timezone ∧
      parameters.schedule.expirationTime = document.schedule.expirationTime := by
  obtain ⟨schedule, scheduled, checked⟩ := bind_eq_ok.mp decoded
  obtain ⟨valid, kept⟩ := bind_unit_eq_ok.mp checked
  cases kept
  obtain ⟨rules, -, scheduled⟩ := bind_eq_ok.mp scheduled
  obtain ⟨-, -, zoned, timed, -⟩ := ExpirationSchedule.new_eq_ok scheduled
  exact ⟨valid, rfl, zoned, timed⟩

/-- A decoded document is held to the standard of a request, and is what some request resolves
to, exactly when its custom time frame is positive and its expiration time in whole seconds. -/
theorem stored_held_iff (exact : Exact service.numerics) (formats : WholeSecondFormats service)
    (reads : NamesRead service document.schedule)
    (decoded : document.tryIntoParameters service = .ok parameters) :
    (∀ request now draw resolved,
      CreateSimulationRequest.tryIntoParameters service now draw request = .ok resolved →
        HeldToRequest service.limits resolved) ∧
    (HeldToRequest service.limits parameters ↔
      StrictlyPositive document.timeFrame ∧ document.schedule.expirationTime.WholeSecond) ∧
    (Creatable service parameters ↔
      StrictlyPositive document.timeFrame ∧ document.schedule.expirationTime.WholeSecond) := by
  obtain ⟨valid, timeFrame, zoned, timed⟩ := facts_of_tryIntoParameters decoded
  have standard : ∀ request now draw resolved,
      CreateSimulationRequest.tryIntoParameters service now draw request = .ok resolved →
        HeldToRequest service.limits resolved :=
    fun request now draw resolved => heldToRequest_of_request exact formats
  rw [← timeFrame, ← timed]
  have held : StrictlyPositive parameters.timeFrame ∧
      parameters.schedule.expirationTime.WholeSecond →
        HeldToRequest service.limits parameters :=
    fun fine => heldToRequest_of_validate exact valid fine.1 fine.2
  refine ⟨standard, ⟨?_, held⟩, ?_, ?_⟩
  · intro held
    exact ⟨held.timeFrame, held.expirationTime⟩
  · intro creatable
    obtain ⟨request, now, draw, accepted⟩ := creatable
    have held := standard request now draw _ accepted
    exact ⟨held.timeFrame, held.expirationTime⟩
  · intro fine
    refine creatable_of_held exact valid ?_ ?_ (held fine)
    · rw [zoned]
      exact reads.zone
    · rw [timed]
      exact reads.time (timed ▸ fine.2)

/-- The document of a stored daily simulation, up to its time frame and expiration time. -/
def dailyDocument (timeFrame : TimeFrame) (expirationTime : NaiveTime) :
    SimulationParametersV2Wire where
  symbol := "SPX"
  steps := 1
  effectiveStart := thursdayNoon
  stepIntervalSeconds := 86400
  timeFrame := timeFrame
  schedule := .ofSchedule (dailiesAndMonthlies expirationTime)
  tzdbVersion := "2025b"
  initialPrice := .one
  volatility := .one
  riskFreeRate := 0
  dividendYield := .zero
  method := .brownian .one 0 .one
  chainSize := none
  strikeInterval := none
  skewSlope := none
  smileCurve := none
  spread := none
  seed := 7

def dailyStored (timeFrame : TimeFrame) (expirationTime : NaiveTime) :
    SimulationParametersV2 :=
  { dailyParameters thursdayNoon with
    timeFrame := timeFrame
    schedule := dailiesAndMonthlies expirationTime
    initialPrice := .one
    volatility := .one
    dividendYield := .zero
    method := .brownian .one 0 .one }

theorem stored_held_iff_daily :
    (∀ request now draw resolved,
      CreateSimulationRequest.tryIntoParameters echoService now draw request = .ok resolved →
        HeldToRequest echoService.limits resolved) ∧
    (HeldToRequest echoService.limits (dailyStored .day fivePm) ↔
      StrictlyPositive .day ∧ fivePm.WholeSecond) ∧
    (Creatable echoService (dailyStored .day fivePm) ↔
      StrictlyPositive .day ∧ fivePm.WholeSecond) := by
  have decoded : (dailyDocument .day fivePm).tryIntoParameters echoService =
      .ok (dailyStored .day fivePm) := by decide +kernel
  refine stored_held_iff exactNumerics_exact echoService_wholeSecondFormats ⟨?_, ?_⟩ decoded
  · rfl
  · intro whole
    decide +kernel

/-- A custom time frame of zero periods decodes, and so does an expiration half a second past
five. -/
theorem stored_parameters_below_standard :
    ((dailyDocument (.custom .zero) fivePm).tryIntoParameters echoService =
        .ok (dailyStored (.custom .zero) fivePm) ∧
      ¬ HeldToRequest echoService.limits (dailyStored (.custom .zero) fivePm)) ∧
    (dailyDocument .day halfSecondPastFive).tryIntoParameters echoService =
        .ok (dailyStored .day halfSecondPastFive) ∧
      ¬ HeldToRequest echoService.limits (dailyStored .day halfSecondPastFive) := by
  refine ⟨⟨by decide +kernel, ?_⟩, by decide +kernel, ?_⟩
  · intro held
    exact held.timeFrame rfl
  · intro held
    exact absurd held.expirationTime (by decide)

end Requests

end OptionChainSimulator.Session
