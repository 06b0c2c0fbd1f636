import Mathlib.Tactic
import OptionChainSimulator.Api.Export
import OptionChainSimulator.Session.Horizon
import OptionChainSimulator.Session.ModelV2
import OptionChainSimulator.Session.Resolution

namespace OptionChainSimulator.Session

open Foundation Utils Domain Domain.Expiry Api

/-! The parameters a creation answers with, and the request a client makes of them. -/

/-- `format("%H:%M:%S")`; a leap second shows as second 60. -/
def formatTime (time : NaiveTime) : String :=
  let second := time.secs % 60 + time.frac / 1000000000
  s!"{padded 2 (time.secs / 3600)}:{padded 2 (time.secs / 60 % 60)}:{padded 2 second}"

structure ScheduleRuleResponse where
  ruleId : String
  kind : String
  targetCount : Nat
  weekdays : Option (List String)
  weekday : Option String
  month : Option Nat
  deriving DecidableEq

namespace ScheduleRuleResponse

/-- `From<&ExpiryRule>`. -/
def ofRule (rule : ExpiryRule) : ScheduleRuleResponse :=
  let (kind, weekdays, weekday, month) :=
    match rule.kind with
    | .daily => ("daily", none, none, none)
    | .weekly weekdays => ("weekly", some (weekdays.map weekdayName), none, none)
    | .monthly weekday => ("monthly", none, some (weekdayName weekday), none)
    | .yearly weekday month => ("yearly", none, some (weekdayName weekday), some month)
  { ruleId := rule.ruleId
    kind := kind
    targetCount := rule.targetCount.get
    weekdays := weekdays
    weekday := weekday
    month := month }

end ScheduleRuleResponse

/-- What the echo shows through the text forms of other crates. -/
structure EchoTexts where
  displayTimeFrame : TimeFrame → String
  methodValue : SimulationMethod → JsonValue

structure SimulationParametersResponse where
  symbol : String
  steps : Nat
  seed : Nat
  effectiveStart : String
  stepIntervalSeconds : Nat
  timeFrame : String
  timezone : String
  calendar : String
  tzdbVersion : String
  expirationTime : String
  schedules : List ScheduleRuleResponse
  initialPrice : F64
  volatility : F64
  riskFreeRate : F64
  dividendYield : F64
  method : JsonValue
  chainSize : Option Nat
  strikeInterval : Option F64
  skewSlope : Option F64
  smileCurve : Option F64
  spread : Option F64

/-- `From<&SessionV2> for SimulationParametersResponse`. -/
def SimulationParametersResponse.ofSession (numerics : Numerics) (texts : EchoTexts)
    (simulation : SessionV2) : SimulationParametersResponse :=
  let parameters := simulation.parameters
  let schedule := parameters.schedule
  { symbol := parameters.symbol
    steps := parameters.steps
    seed := parameters.seed
    effectiveStart := renderInstant parameters.effectiveStart
    stepIntervalSeconds := parameters.stepIntervalSeconds
    timeFrame := texts.displayTimeFrame parameters.timeFrame
    timezone := schedule.timezone.name
    calendar := schedule.calendar.asStr
    tzdbVersion := parameters.tzdbVersion
    expirationTime := formatTime schedule.expirationTime
    schedules := schedule.rules.map ScheduleRuleResponse.ofRule
    initialPrice := numerics.positiveToF64 parameters.initialPrice
    volatility := numerics.positiveToF64 parameters.volatility
    riskFreeRate := numerics.decimalToF64 parameters.riskFreeRate
    dividendYield := numerics.positiveToF64 parameters.dividendYield
    method := texts.methodValue parameters.method
    chainSize := parameters.chainSize
    strikeInterval := parameters.strikeInterval.map numerics.positiveToF64
    skewSlope := parameters.skewSlope.map numerics.decimalToF64
    smileCurve := parameters.smileCurve.map numerics.decimalToF64
    spread := parameters.spread.map numerics.positiveToF64 }

/-- How chrono reads the texts of a request. -/
structure Parsers where
  weekday : String → Option Weekday
  instant : String → Option UtcDateTime

namespace ScheduleRuleResponse

variable (parsers : Parsers)

/-- The rule object read back as the wire form of a rule. -/
def readWire (rule : ScheduleRuleResponse) : Option ExpiryRuleWire := do
  let targetCount ← NonZeroUsize.new rule.targetCount
  let weekdays ←
    match rule.weekdays with
    | some days => some <$> days.mapM parsers.weekday
    | none => some none
  let weekday ←
    match rule.weekday with
    | some day => some <$> parsers.weekday day
    | none => some none
  return ⟨rule.ruleId, rule.kind, targetCount, weekdays, weekday, rule.month⟩

def readRule (rule : ScheduleRuleResponse) : Option ExpiryRule := do
  let wire ← rule.readWire parsers
  wire.tryIntoRule.toOption

end ScheduleRuleResponse

/-- The request a client makes of an echo, the prices and the model taken from elsewhere. -/
def SimulationParametersResponse.replay (parsers : Parsers) (echo : SimulationParametersResponse)
    (market : CreateSimulationRequest) : Option CreateSimulationRequest := do
  let startAt ← parsers.instant echo.effectiveStart
  let schedules ← echo.schedules.mapM (ScheduleRuleResponse.readRule parsers)
  return { market with
    symbol := echo.symbol
    steps := echo.steps
    startAt := some startAt
    stepIntervalSeconds := some echo.stepIntervalSeconds
    timezone := echo.timezone
    calendar := some echo.calendar
    expirationTime := echo.expirationTime
    schedules := schedules
    chainSize := echo.chainSize
    seed := some echo.seed }

/-- The texts of an echo are read back as what they show. -/
structure ReadsBack (parsers : Parsers) (service : Service)
    (parameters : SimulationParametersV2) : Prop where
  weekday : ∀ day, parsers.weekday (weekdayName day) = some day
  instant : parameters.effectiveStart.time.frac = 0 →
    parsers.instant (renderInstant parameters.effectiveStart) = some parameters.effectiveStart
  time : parameters.schedule.expirationTime.WholeSecond →
    service.parseTime (formatTime parameters.schedule.expirationTime) "%H:%M:%S" =
      some parameters.schedule.expirationTime
  zone : service.zones.parse parameters.schedule.timezone.name =
    some parameters.schedule.timezone

/-- The two formats of an expiration time have no fraction of a second. -/
def WholeSecondFormats (service : Service) : Prop :=
  ∀ raw format time, format = "%H:%M:%S" ∨ format = "%H:%M" →
    service.parseTime raw format = some time → time.WholeSecond

/-- Nothing of the clock or of the schedule differs. -/
structure SameTimeline (service : Service) (left right : SimulationParametersV2) : Prop where
  schedule : left.schedule = right.schedule
  effectiveStart : left.effectiveStart = right.effectiveStart
  stepIntervalSeconds : left.stepIntervalSeconds = right.stepIntervalSeconds
  steps : left.steps = right.steps
  seed : left.seed = right.seed
  symbol : left.symbol = right.symbol
  chainSize : left.chainSize = right.chainSize
  simulatedAt : ∀ cursor, left.simulatedAt cursor = right.simulatedAt cursor
  activeAt : ∀ instant,
    (left.planner service).activeAt instant = (right.planner service).activeAt instant

section Rules

variable {parsers : Parsers}

namespace ScheduleRuleResponse

theorem mapM_weekday (reads : ∀ day, parsers.weekday (weekdayName day) = some day)
    (days : List Weekday) : (days.map weekdayName).mapM parsers.weekday = some days := by
  induction days with
  | nil => rfl
  | cons day days ih => simp [reads, ih]

theorem readWire_ofRule (reads : ∀ day, parsers.weekday (weekdayName day) = some day)
    (rule : ExpiryRule) : (ofRule rule).readWire parsers = some (ExpiryRuleWire.ofRule rule) := by
  unfold readWire ofRule ExpiryRuleWire.ofRule
  cases rule.kind with
  | daily => simp [ExpiryRuleKind.kindName]
  | weekly weekdays => simp [ExpiryRuleKind.kindName, mapM_weekday reads]
  | monthly weekday => simp [ExpiryRuleKind.kindName, reads]
  | yearly weekday month => simp [ExpiryRuleKind.kindName, reads]

theorem readRule_ofRule (reads : ∀ day, parsers.weekday (weekdayName day) = some day)
    (rule : ExpiryRule) : (ofRule rule).readRule parsers = some rule := by
  unfold readRule
  rw [readWire_ofRule reads]
  simp [ExpiryRuleWire.tryIntoRule_ofRule, Except.toOption]

theorem mapM_readRule (reads : ∀ day, parsers.weekday (weekdayName day) = some day)
    (rules : List ExpiryRule) :
    (rules.map ofRule).mapM (readRule parsers) = some rules := by
  induction rules with
  | nil => rfl
  | cons rule rules ih => simp [readRule_ofRule reads, ih]

end ScheduleRuleResponse

end Rules

section Replays

variable {parsers : Parsers} {service : Service} {texts : EchoTexts} {numerics : Numerics}
  {request market : CreateSimulationRequest} {parameters replayed : SimulationParametersV2}
  {simulation : SessionV2} {now later : UtcDateTime} {draw other : Nat}

/-- The request made of the echo of some parameters. -/
def asRequest (parameters : SimulationParametersV2) (market : CreateSimulationRequest) :
    CreateSimulationRequest :=
  { market with
    symbol := parameters.symbol
    steps := parameters.steps
    startAt := some parameters.effectiveStart
    stepIntervalSeconds := some parameters.stepIntervalSeconds
    timezone := parameters.schedule.timezone.name
    calendar := some parameters.schedule.calendar.asStr
    expirationTime := formatTime parameters.schedule.expirationTime
    schedules := parameters.schedule.rules
    chainSize := parameters.chainSize
    seed := some parameters.seed }

theorem replay_ofSession (reads : ReadsBack parsers service simulation.parameters)
    (whole : simulation.parameters.effectiveStart.time.frac = 0) :
    (SimulationParametersResponse.ofSession numerics texts simulation).replay parsers market =
      some (asRequest simulation.parameters market) := by
  simp [SimulationParametersResponse.replay, SimulationParametersResponse.ofSession,
    reads.instant whole, ScheduleRuleResponse.mapM_readRule reads.weekday, asRequest]

theorem wholeSecond_of_parse (formats : WholeSecondFormats service) {raw : String}
    {time : NaiveTime} (parsed : parseExpirationTime service raw = .ok time) :
    time.WholeSecond := by
  unfold parseExpirationTime at parsed
  split at parsed
  next found =>
    cases parsed
    exact formats raw _ _ (.inl rfl) found
  next => exact formats raw _ _ (.inr rfl) (okOr_eq_ok.mp parsed)

theorem parseCalendar_asStr (calendar : CalendarVersion) :
    parseCalendar (some calendar.asStr) = .ok calendar := by
  cases calendar
  rfl

theorem parseTimezone_name {zone : Tz} (read : service.zones.parse zone.name = some zone) :
    parseTimezone service zone.name = .ok zone := by
  unfold parseTimezone
  rw [read]
  rfl

theorem parseExpirationTime_formatTime {time : NaiveTime}
    (read : service.parseTime (formatTime time) "%H:%M:%S" = some time) :
    parseExpirationTime service (formatTime time) = .ok time := by
  unfold parseExpirationTime
  rw [read]

theorem eq_of_validateStepIntervalSeconds {seconds kept : Nat}
    (accepted : validateStepIntervalSeconds seconds = .ok kept) : kept = seconds := by
  unfold validateStepIntervalSeconds at accepted
  split_ifs at accepted
  cases accepted
  rfl

theorem SameTimeline.of_fields {left right : SimulationParametersV2}
    (schedule : left.schedule = right.schedule)
    (effectiveStart : left.effectiveStart = right.effectiveStart)
    (stepIntervalSeconds : left.stepIntervalSeconds = right.stepIntervalSeconds)
    (steps : left.steps = right.steps) (seed : left.seed = right.seed)
    (symbol : left.symbol = right.symbol) (chainSize : left.chainSize = right.chainSize) :
    SameTimeline service left right where
  schedule := schedule
  effectiveStart := effectiveStart
  stepIntervalSeconds := stepIntervalSeconds
  steps := steps
  seed := seed
  symbol := symbol
  chainSize := chainSize
  simulatedAt cursor := by
    simp only [SimulationParametersV2.simulatedAt, SimulationParametersV2.simulatedTimeOverflow,
      effectiveStart, stepIntervalSeconds]
  activeAt instant := by
    simp only [SimulationParametersV2.planner, schedule]

/-- Whatever the request around it resolves to has the echoed clock and schedule. -/
theorem sameTimeline_of_asRequest (reads : ReadsBack parsers service parameters)
    (whole : parameters.effectiveStart.time.frac = 0)
    (wholeTime : parameters.schedule.expirationTime.WholeSecond)
    (accepted : (asRequest parameters market).tryIntoParameters service later other =
      .ok replayed) : SameTimeline service replayed parameters := by
  obtain ⟨resolves, -⟩ := CreateSimulationRequest.tryIntoParameters_eq_ok.mp accepted
  have started : replayed.effectiveStart = parameters.effectiveStart :=
    resolves.effectiveStart.trans (NaiveDateTime.withoutNanoseconds_of_whole whole)
  have interval := eq_of_validateStepIntervalSeconds resolves.stepInterval
  have calendar := Except.ok.inj
    (resolves.calendar.symm.trans (parseCalendar_asStr parameters.schedule.calendar))
  have zone := Except.ok.inj (resolves.timezone.symm.trans (parseTimezone_name reads.zone))
  have time := Except.ok.inj
    (resolves.expirationTime.symm.trans (parseExpirationTime_formatTime (reads.time wholeTime)))
  have schedule := resolves.schedule
  rw [calendar, zone, time] at schedule
  have same := schedule.symm.trans parameters.schedule.new_self
  exact SameTimeline.of_fields (Except.ok.inj same) started interval resolves.steps resolves.seed
    resolves.symbol resolves.chainSize

/-- With the prices and the model of the first request it resolves to the same parameters. -/
theorem resolves_asRequest (reads : ReadsBack parsers service parameters)
    (wholeTime : parameters.schedule.expirationTime.WholeSecond)
    (accepted : request.tryIntoParameters service now draw = .ok parameters) :
    Resolves service later other (asRequest parameters request) parameters := by
  obtain ⟨resolves, valid⟩ := CreateSimulationRequest.tryIntoParameters_eq_ok.mp accepted
  obtain ⟨least, most, whole⟩ := SimulationParametersV2.clock_of_validate valid
  have interval : validateStepIntervalSeconds parameters.stepIntervalSeconds =
      .ok parameters.stepIntervalSeconds := if_pos ⟨least, most⟩
  exact { resolves with
    symbol := rfl
    steps := rfl
    chainSize := rfl
    seed := rfl
    effectiveStart := (NaiveDateTime.withoutNanoseconds_of_whole whole).symm
    stepsChecked :=
      (congrArg (stepsField service.limits) resolves.steps).trans resolves.stepsChecked
    chainSizeChecked :=
      (congrArg (chainSizeField service.limits) resolves.chainSize).trans
        resolves.chainSizeChecked
    symbolChecked :=
      (congrArg (symbolField "symbol") resolves.symbol).trans resolves.symbolChecked
    stepInterval := interval
    calendar := parseCalendar_asStr parameters.schedule.calendar
    timezone := parseTimezone_name reads.zone
    expirationTime := parseExpirationTime_formatTime (reads.time wholeTime)
    schedule := parameters.schedule.new_self }

/-- The echo of a creation, sent back as a request, is the same clock and schedule whatever
prices and model go with it, and the same simulation with those of the first request. -/
theorem echo_replays (formats : WholeSecondFormats service)
    (reads : ReadsBack parsers service parameters)
    (accepted : request.tryIntoParameters service now draw = .ok parameters) (id : Uuid)
    (created : SystemTime) :
    (∀ market, ∃ again,
      (SimulationParametersResponse.ofSession service.numerics texts
        (.new parameters id created)).replay parsers market = some again ∧
      ∀ later other replayed, again.tryIntoParameters service later other = .ok replayed →
        SameTimeline service replayed parameters) ∧
    ∃ again,
      (SimulationParametersResponse.ofSession service.numerics texts
        (.new parameters id created)).replay parsers request = some again ∧
      ∀ later other, again.tryIntoParameters service later other = .ok parameters := by
  obtain ⟨resolves, valid⟩ := CreateSimulationRequest.tryIntoParameters_eq_ok.mp accepted
  obtain ⟨-, -, whole⟩ := SimulationParametersV2.clock_of_validate valid
  have wholeTime := wholeSecond_of_parse formats resolves.expirationTime
  constructor
  · intro market
    refine ⟨asRequest parameters market, replay_ofSession reads whole, ?_⟩
    intro later other replayed
    exact sameTimeline_of_asRequest reads whole wholeTime
  · refine ⟨asRequest parameters request, replay_ofSession reads whole, ?_⟩
    intro later other
    exact CreateSimulationRequest.tryIntoParameters_eq_ok.mpr
      ⟨resolves_asRequest reads wholeTime accepted, valid⟩

def echoParsers : Parsers where
  weekday raw := [Weekday.mon, .tue, .wed, .thu, .fri, .sat, .sun].find? (weekdayName · = raw)
  instant raw := if raw = renderInstant thursdayNoon then some thursdayNoon else none

/-- `utcService`, with an expiration time read in its long form too. -/
def echoService : Service :=
  { utcService with
    parseTime := fun raw format =>
      if raw = "17:00:00" ∧ format = "%H:%M:%S" then some fivePm
      else utcService.parseTime raw format }

theorem echoService_wholeSecondFormats : WholeSecondFormats echoService := by
  intro raw format time _ parsed
  unfold echoService utcService at parsed
  dsimp only at parsed
  split_ifs at parsed <;>
    (cases parsed; decide)

theorem echo_replays_thursday :
    (∀ market, ∃ again,
      (SimulationParametersResponse.ofSession exactNumerics ⟨fun _ => "", fun _ => .null⟩
        (.new (dailyParameters thursdayNoon) someId 0)).replay echoParsers market =
          some again ∧
      ∀ later other replayed, again.tryIntoParameters echoService later other = .ok replayed →
        SameTimeline echoService replayed (dailyParameters thursdayNoon)) ∧
    ∃ again,
      (SimulationParametersResponse.ofSession exactNumerics ⟨fun _ => "", fun _ => .null⟩
        (.new (dailyParameters thursdayNoon) someId 0)).replay echoParsers
          (dailyRequest thursdayNoon) = some again ∧
      ∀ later other, again.tryIntoParameters echoService later other =
        .ok (dailyParameters thursdayNoon) := by
  have accepted : (dailyRequest thursdayNoon).tryIntoParameters echoService thursdayNoon 0 =
      .ok (dailyParameters thursdayNoon) := by decide +kernel
  refine echo_replays echoService_wholeSecondFormats ⟨?_, ?_, ?_, ?_⟩ accepted _ _
  · intro day
    cases day <;> decide +kernel
  · intro whole
    rfl
  · intro whole
    decide +kernel
  · rfl

end Replays

end OptionChainSimulator.Session
