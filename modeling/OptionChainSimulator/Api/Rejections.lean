import Mathlib.Tactic
import OptionChainSimulator.Foundation.Failures
import OptionChainSimulator.Api.Creation
import OptionChainSimulator.Session.Resolution

namespace OptionChainSimulator.Api

open Foundation Utils Domain Domain.Expiry Session

/-! What a body is rejected with: always one of its fields, named. -/

/-- A validation error, which the boundary answers with a 400 and the name of the field. -/
def NamesField (known : String → Prop) : ChainError → Prop
  | .validation field _ => known field
  | _ => False

section Naming

variable {known wider : String → Prop} {field reason : String}

@[simp] theorem namesField_validation :
    NamesField known (.validation field reason) ↔ known field := Iff.rfl

theorem NamesField.mono {e : ChainError} (named : NamesField known e)
    (implied : ∀ field, known field → wider field) : NamesField wider e := by
  cases e with
  | validation field reason => exact implied field named
  | sessionError | stdError | invalidState | internal | notFound | alreadyExists | conflict |
      simulatorError | clickHouseError | notEnoughData => exact named.elim

theorem NamesField.status {e : ChainError} (named : NamesField known e) : e.status = 400 := by
  cases e with
  | validation field reason => rfl
  | sessionError | stdError | invalidState | internal | notFound | alreadyExists | conflict |
      simulatorError | clickHouseError | notEnoughData => exact named.elim

end Naming

@[simp] theorem failsOnly_okOr {α ε : Type} {allowed : ε → Prop} {value : Option α} {e : ε}
    (held : allowed e) : FailsOnly allowed (okOr value e) := by
  cases value with
  | none => exact failsOnly_error.mpr held
  | some value => exact failsOnly_ok

section Fields

variable {known : String → Prop} {numerics : Numerics} {limits : Limits} {field : String}
  {value : F64}

@[simp] theorem finiteField_fails (named : known field) :
    FailsOnly (NamesField known) (finiteField numerics field value) := by
  unfold finiteField
  split <;> simp [named]

@[simp] theorem positiveField_fails (named : known field) :
    FailsOnly (NamesField known) (positiveField numerics field value) := by
  simp [positiveField, named, failsOnly_of_forall]

@[simp] theorem strictlyPositiveField_fails (named : known field) :
    FailsOnly (NamesField known) (strictlyPositiveField numerics field value) := by
  unfold strictlyPositiveField
  apply (positiveField_fails named).bind
  intro positive _
  split <;> simp [named]

@[simp] theorem decimalField_fails (named : known field) :
    FailsOnly (NamesField known) (decimalField numerics field value) := by
  simp [decimalField, named, failsOnly_of_forall]

@[simp] theorem boundedDecimalField_fails {min max : ℚ} (named : known field) :
    FailsOnly (NamesField known) (boundedDecimalField numerics field value min max) := by
  unfold boundedDecimalField
  apply (finiteField_fails named).bind
  intro finite _
  split <;> simp [named]

@[simp] theorem timeFrameField_fails {timeFrame : ApiTimeFrame} (named : known field) :
    FailsOnly (NamesField known) (timeFrameField numerics field timeFrame) := by
  cases timeFrame <;> simp [timeFrameField, named]

@[simp] theorem optionalField_fails {α β : Type} {check : α → Except ChainError β}
    {given : Option α} (fails : ∀ value, FailsOnly (NamesField known) (check value)) :
    FailsOnly (NamesField known) (optionalField check given) := by
  cases given with
  | none => exact failsOnly_ok
  | some value => exact failsOnly_map.mpr (fails value)

@[simp] theorem symbolField_fails {symbol : String} (named : known field) :
    FailsOnly (NamesField known) (symbolField field symbol) := by
  simp [symbolField, named, failsOnly_of_forall]

@[simp] theorem stepsField_fails {steps : Nat} (named : known "steps") :
    FailsOnly (NamesField known) (stepsField limits steps) := by
  unfold stepsField
  split_ifs <;> simp [named]

@[simp] theorem chainSizeField_fails {chainSize : Option Nat} (named : known "chain_size") :
    FailsOnly (NamesField known) (chainSizeField limits chainSize) := by
  unfold chainSizeField
  split
  · split_ifs <;> simp [named]
  · simp

theorem pricesField_fails {prices : List F64} (named : known "prices") :
    FailsOnly (NamesField known) (pricesField numerics prices) := by
  induction prices with
  | nil => exact failsOnly_ok
  | cons price prices ih => simp [pricesField, named, ih]

def methodFields : List String :=
  ["dt", "drift", "volatility", "expected_return", "autocorrelation", "speed", "mean",
    "intensity", "jump_mean", "jump_volatility", "alpha", "beta", "kappa", "theta", "xi", "rho",
    "vov", "vol_speed", "vol_mean", "lambda_up", "lambda_down", "vol_multiplier_up",
    "vol_multiplier_down", "prices", "method.symbol", "method.timeframe"]

theorem tryIntoWalkType_fails {walk : ApiWalkType}
    (names : ∀ field ∈ methodFields, known field) :
    FailsOnly (NamesField known) (walk.tryIntoWalkType numerics limits) := by
  simp only [methodFields, List.forall_mem_cons] at names
  cases walk with
  | garch dt drift volatility alpha beta =>
      simp only [ApiWalkType.tryIntoWalkType]
      refine (positiveField_fails (by simp [names])).bind fun _ _ => ?_
      refine (positiveField_fails (by simp [names])).bind fun _ _ => ?_
      split <;> simp [names]
  | historical timeframe prices symbol =>
      simp only [ApiWalkType.tryIntoWalkType]
      split <;> simp [names, pricesField_fails]
  | brownian | geometricBrownian | logReturns | meanReverting | jumpDiffusion | heston | custom |
      telegraph => simp [ApiWalkType.tryIntoWalkType, names]

end Fields

section Rules

variable {rule : ExpiryRuleWire} {ruleId field name text rest : String} {kind : ExpiryRuleKind}
  {rules : List ExpiryRule}

/-- A path into the schedules of a request. -/
def SchedulePath (field : String) : Prop := "schedules".toList <+: field.toList

instance : DecidablePred SchedulePath :=
  fun field => inferInstanceAs (Decidable ("schedules".toList <+: field.toList))

theorem SchedulePath.append (path : SchedulePath text) : SchedulePath (text ++ rest) := by
  unfold SchedulePath
  rw [String.toList_append]
  exact path.trans (List.prefix_append ..)

theorem schedulePath_below : SchedulePath (s!"schedules.{text}") :=
  SchedulePath.append (by decide)

@[simp] theorem validateRuleId_fails :
    FailsOnly (NamesField SchedulePath) (validateRuleId ruleId) := by
  have named : SchedulePath "schedules.rule_id" := by decide
  unfold validateRuleId
  split_ifs
  · simp [named]
  · simp [named]
  · split <;> simp [named]

theorem rejectWeekend_fails {weekday : Weekday} (named : SchedulePath field) :
    FailsOnly (NamesField SchedulePath) (rejectWeekend field weekday) := by
  cases weekday <;> simp [rejectWeekend, named]

theorem rejectWeekends_fails {weekdays : List Weekday} (named : SchedulePath field) :
    FailsOnly (NamesField SchedulePath) (rejectWeekends field weekdays) := by
  induction weekdays with
  | nil => exact failsOnly_ok
  | cons weekday weekdays ih => simp [rejectWeekends, rejectWeekend_fails named, ih]

theorem validateRuleKind_fails :
    FailsOnly (NamesField SchedulePath) (validateRuleKind ruleId kind) := by
  have named : ∀ rest, SchedulePath (s!"schedules.{ruleId}.{kind.kindName}" ++ rest) :=
    fun rest => schedulePath_below.append.append.append
  unfold validateRuleKind
  dsimp only
  cases kind with
  | daily => exact failsOnly_ok
  | weekly weekdays =>
      dsimp only
      split
      · exact failsOnly_error.mpr (named _)
      · exact rejectWeekends_fails (named _)
  | monthly weekday => exact rejectWeekend_fails (named _)
  | yearly weekday month =>
      dsimp only
      apply (rejectWeekend_fails (named _)).bind
      intro _ _
      split_ifs
      · exact failsOnly_ok
      · exact failsOnly_error.mpr (named _)

theorem fromParts_fails {targetCount : NonZeroUsize} :
    FailsOnly (NamesField SchedulePath) (ExpiryRule.fromParts ruleId kind targetCount) := by
  intro e failed
  unfold ExpiryRule.fromParts at failed
  split at failed
  next invalid =>
    cases failed
    exact validateRuleId_fails _ invalid
  next =>
    split at failed
    next =>
      cases failed
      exact schedulePath_below.append
    next =>
      split at failed
      next invalid =>
        cases failed
        exact validateRuleKind_fails _ invalid
      next => cases failed

theorem schedulePath_field : SchedulePath (rule.field name) :=
  schedulePath_below.append.append

@[simp] theorem reject_fails {present : Bool} :
    FailsOnly (NamesField SchedulePath) (rule.reject present name) := by
  unfold ExpiryRuleWire.reject
  split <;> simp [schedulePath_field]

@[simp] theorem required_fails {α : Type} {value : Option α} :
    FailsOnly (NamesField SchedulePath) (rule.required value name) := by
  unfold ExpiryRuleWire.required
  split <;> simp [schedulePath_field]

theorem ruleKind_fails : FailsOnly (NamesField SchedulePath) rule.ruleKind := by
  unfold ExpiryRuleWire.ruleKind
  split <;> simp [schedulePath_field]

/-- Whatever a rule document is rejected for, it is a path into the schedules. -/
theorem tryIntoRule_fails : FailsOnly (NamesField SchedulePath) rule.tryIntoRule := by
  unfold ExpiryRuleWire.tryIntoRule
  simp [ruleKind_fails, fromParts_fails]

theorem validateEach_fails {seen : OrderedSet String} {projected : Nat} :
    FailsOnly (NamesField SchedulePath) (validateEach seen projected rules) := by
  induction rules generalizing seen projected with
  | nil => exact failsOnly_ok
  | cons rule rules ih =>
      unfold validateEach
      split_ifs
      · exact failsOnly_error.mpr schedulePath_below.append
      · split
        · have named : SchedulePath "schedules" := by decide
          exact failsOnly_error.mpr named
        · exact ih

theorem validateRules_fails : FailsOnly (NamesField SchedulePath) (validateRules rules) := by
  have named : SchedulePath "schedules" := by decide
  unfold validateRules
  split_ifs
  · simp [named]
  · simp [named]
  · apply validateEach_fails.bind
    intro projected _
    split_ifs <;> simp [named]

theorem schedule_fails {calendar : CalendarVersion} {timezone : Tz}
    {expirationTime : NaiveTime} :
    FailsOnly (NamesField SchedulePath)
      (ExpirationSchedule.new calendar timezone expirationTime rules) := by
  intro e failed
  unfold ExpirationSchedule.new at failed
  split at failed
  next invalid =>
    cases failed
    exact validateRules_fails _ invalid
  next => cases failed

end Rules

section Simulations

variable {numerics : Numerics} {limits : Limits} {service : Service}
  {parameters : SimulationParametersV2} {known : String → Prop}

def simulationFields : List String :=
  ["symbol", "steps", "step_interval_seconds", "timezone", "calendar", "expiration_time",
    "initial_price", "volatility", "risk_free_rate", "dividend_yield", "time_frame", "chain_size",
    "strike_interval", "skew_slope", "smile_curve", "spread"] ++ methodFields

/-- A field of a creation request, or a path into its schedules. -/
def SimulationField (field : String) : Prop := field ∈ simulationFields ∨ SchedulePath field

theorem simulationField_of_method : ∀ field ∈ methodFields, SimulationField field :=
  fun _ member => .inl (List.mem_append_right _ member)

@[simp] theorem validateStepIntervalSeconds_fails {seconds : Nat} :
    FailsOnly (NamesField SimulationField) (validateStepIntervalSeconds seconds) := by
  unfold validateStepIntervalSeconds
  split_ifs <;> simp [SimulationField, simulationFields]

@[simp] theorem deriveStepIntervalSeconds_fails {timeFrame : TimeFrame} :
    FailsOnly (NamesField SimulationField) (deriveStepIntervalSeconds numerics timeFrame) := by
  have interval : SimulationField "step_interval_seconds" := .inl (by simp [simulationFields])
  have frame : SimulationField "time_frame" := .inl (by simp [simulationFields])
  cases timeFrame with
  | custom periodsPerYear =>
      simp only [deriveStepIntervalSeconds]
      split
      · split_ifs
        · exact failsOnly_error.mpr frame
        · split
          · split_ifs
            · exact failsOnly_ok
            · exact failsOnly_error.mpr interval
          · exact failsOnly_error.mpr interval
      · exact failsOnly_error.mpr frame
  | microsecond | millisecond => exact failsOnly_error.mpr interval
  | second | minute | hour | day | week | month | quarter | year => exact failsOnly_ok

@[simp] theorem stepIntervalField_fails {timeFrame : TimeFrame} {given : Option Nat} :
    FailsOnly (NamesField SimulationField) (stepIntervalField numerics timeFrame given) := by
  cases given <;> simp [stepIntervalField]

@[simp] theorem parseExpirationTime_fails {raw : String} :
    FailsOnly (NamesField SimulationField) (parseExpirationTime service raw) := by
  unfold parseExpirationTime
  split <;> simp [SimulationField, simulationFields]

@[simp] theorem parseTimezone_fails {raw : String} :
    FailsOnly (NamesField SimulationField) (parseTimezone service raw) := by
  simp [parseTimezone, SimulationField, simulationFields]

@[simp] theorem parseCalendar_fails {raw : Option String} :
    FailsOnly (NamesField SimulationField) (parseCalendar raw) := by
  unfold parseCalendar
  dsimp only
  split_ifs <;> simp [SimulationField, simulationFields]

theorem rejectZero_fails {field : String} {value : Positive} (named : known field) :
    FailsOnly (NamesField known) (rejectZero field value) := by
  unfold rejectZero
  split_ifs <;> simp [named]

theorem validateSnapshotWork_fails :
    FailsOnly (NamesField SimulationField) (parameters.validateSnapshotWork limits) := by
  have size : SimulationField "chain_size" := .inl (by simp [simulationFields])
  have schedules : SimulationField "schedules" := .inr (by decide)
  unfold SimulationParametersV2.validateSnapshotWork
  refine (failsOnly_okOr (namesField_validation.mpr size)).bind fun strikes _ => ?_
  refine (failsOnly_okOr (namesField_validation.mpr schedules)).bind fun expirations _ => ?_
  refine (failsOnly_okOr (namesField_validation.mpr size)).bind fun contracts _ => ?_
  split_ifs <;> simp [size]

theorem baseVolatilityField_fails {method : SimulationMethod} {volatility : Positive} :
    FailsOnly (NamesField SimulationField)
      (SimulationParametersV2.baseVolatilityField numerics method volatility) := by
  have named : SimulationField "volatility" := .inl (by simp [simulationFields])
  unfold SimulationParametersV2.baseVolatilityField
  split
  · split_ifs <;> simp [named]
  · simp

/-- A document read back from a store can also be rejected for its start. -/
theorem validate_fails (implied : ∀ field, SimulationField field → known field)
    (whole : parameters.effectiveStart.time.frac = 0 ∨ known "effective_start") :
    FailsOnly (NamesField known) (parameters.validate service) := by
  have names : ∀ field ∈ simulationFields, known field := fun field member =>
    implied field (.inl member)
  have method := fun field member => implied field (simulationField_of_method field member)
  simp only [simulationFields, List.cons_append, List.forall_mem_cons] at names
  have started : FailsOnly (NamesField known)
      (SimulationParametersV2.wholeSecondField parameters.effectiveStart) := by
    unfold SimulationParametersV2.wholeSecondField
    split_ifs with fraction
    · cases whole with
      | inl none => exact absurd none fraction
      | inr named => exact failsOnly_error.mpr named
    · exact failsOnly_ok
  have walk : FailsOnly (NamesField known)
      (validateWalkType service.numerics service.limits parameters.method) := by
    unfold validateWalkType
    apply (tryIntoWalkType_fails method).bind
    intro _ _
    exact failsOnly_pure
  have lifted : ∀ {α : Type} {checked : Except ChainError α},
      FailsOnly (NamesField SimulationField) checked → FailsOnly (NamesField known) checked :=
    fun fails => fails.mono fun e named => named.mono implied
  have rules : FailsOnly (NamesField known) (validateRules parameters.schedule.rules) :=
    validateRules_fails.mono fun e named => named.mono fun field path => implied field (.inr path)
  have interval : FailsOnly (NamesField known)
      (validateStepIntervalSeconds parameters.stepIntervalSeconds) :=
    lifted validateStepIntervalSeconds_fails
  have work : FailsOnly (NamesField known) (parameters.validateSnapshotWork service.limits) :=
    lifted validateSnapshotWork_fails
  have base : FailsOnly (NamesField known)
      (SimulationParametersV2.baseVolatilityField service.numerics parameters.method
        parameters.volatility) := lifted baseVolatilityField_fails
  simp [SimulationParametersV2.validate, names, started, walk, rules, interval, work, base,
    rejectZero_fails]

theorem tryIntoSimulation_fails {request : CreateSimulationRequest} {now : UtcDateTime}
    {draw : Nat} :
    FailsOnly (NamesField SimulationField) (request.tryIntoParameters service now draw) := by
  have names : ∀ field ∈ simulationFields, SimulationField field := fun _ => .inl
  simp only [simulationFields, List.cons_append, List.forall_mem_cons] at names
  have walk : FailsOnly (NamesField SimulationField)
      (request.method.tryIntoWalkType service.numerics service.limits) :=
    tryIntoWalkType_fails simulationField_of_method
  have schedules : ∀ {calendar timezone expirationTime}, FailsOnly (NamesField SimulationField)
      (ExpirationSchedule.new calendar timezone expirationTime request.schedules) :=
    schedule_fails.mono fun e named => named.mono fun field => .inr
  have resolving : FailsOnly (NamesField SimulationField)
      (request.resolve service now draw) := by
    simp [CreateSimulationRequest.resolve, names, walk, schedules]
  apply resolving.bind
  intro parameters resolved
  have started := (CreateSimulationRequest.resolves_of_resolve resolved).effectiveStart
  have whole : parameters.effectiveStart.time.frac = 0 := by
    rw [started]
    rfl
  apply (validate_fails (fun _ named => named) (.inl whole)).bind
  intro _ _
  exact failsOnly_pure

end Simulations

section Sessions

variable {numerics : Numerics} {limits : Limits} {known : String → Prop}

variable {α β : Type} {check : α → Except ChainError β}

@[simp] theorem keepOrReplace_fails {current : β} {given : Option α}
    (fails : ∀ value, FailsOnly (NamesField known) (check value)) :
    FailsOnly (NamesField known) (keepOrReplace check current given) := by
  cases given with
  | none => exact failsOnly_ok
  | some value => exact fails value

@[simp] theorem merge_fails {current : Option β} {given : Patch α}
    (fails : ∀ value, FailsOnly (NamesField known) (check value)) :
    FailsOnly (NamesField known) (given.merge check current) := by
  cases given with
  | absent | null => exact failsOnly_ok
  | value given => exact failsOnly_map.mpr (fails given)

def sessionFields : List String :=
  ["steps", "chain_size", "initial_price", "days_to_expiration", "volatility", "risk_free_rate",
    "dividend_yield", "time_frame", "strike_interval", "skew_slope", "smile_curve", "spread"] ++
      methodFields

section Known

variable (names : ∀ field ∈ sessionFields, known field)

include names

theorem tryIntoWalkType_ofSession {walk : ApiWalkType} :
    FailsOnly (NamesField known) (walk.tryIntoWalkType numerics limits) :=
  tryIntoWalkType_fails fun field member => names field (List.mem_append_right _ member)

theorem tryIntoSession_fails {request : CreateSessionRequest} {random : Nat} :
    FailsOnly (NamesField known) (request.tryIntoParameters numerics limits random) := by
  have walk := @tryIntoWalkType_ofSession numerics limits known names
  simp only [sessionFields, List.cons_append, List.forall_mem_cons] at names
  simp [CreateSessionRequest.tryIntoParameters, names, walk]

theorem applyUpdate_fails {parameters : SimulationParameters} {request : UpdateSessionRequest}
    {random : Nat} :
    FailsOnly (NamesField known) (applyUpdate numerics limits parameters request random) := by
  have walk := @tryIntoWalkType_ofSession numerics limits known names
  simp only [sessionFields, List.cons_append, List.forall_mem_cons] at names
  simp [applyUpdate, checkedSteps, checkedChainSize, names, walk]

end Known

end Sessions

/-- Whatever is wrong with the body of a POST, PUT or PATCH, or with a rule in it, the answer is a
400 that names one of the body's own fields. -/
theorem rejections_name_field (service : Service) :
    (∀ (request : CreateSessionRequest) (random : Nat),
      FailsOnly (fun e => e.status = 400 ∧ NamesField (· ∈ sessionFields) e)
        (request.tryIntoParameters service.numerics service.limits random)) ∧
    (∀ (parameters : SimulationParameters) (request : UpdateSessionRequest) (random : Nat),
      FailsOnly (fun e => e.status = 400 ∧ NamesField (· ∈ sessionFields) e)
        (applyUpdate service.numerics service.limits parameters request random)) ∧
    (∀ (request : CreateSimulationRequest) (now : UtcDateTime) (draw : Nat),
      FailsOnly (fun e => e.status = 400 ∧ NamesField SimulationField e)
        (request.tryIntoParameters service now draw)) ∧
    (∀ rule : ExpiryRuleWire,
      FailsOnly (fun e => e.status = 400 ∧ NamesField SchedulePath e) rule.tryIntoRule) := by
  have told : ∀ {known : String → Prop} {α : Type} {checked : Except ChainError α},
      FailsOnly (NamesField known) checked →
        FailsOnly (fun e => e.status = 400 ∧ NamesField known e) checked :=
    fun fails => fails.mono fun e named => ⟨named.status, named⟩
  refine ⟨fun request random => ?_, fun parameters request random => ?_,
    fun request now draw => ?_, fun rule => ?_⟩
  · exact told (tryIntoSession_fails fun _ member => member)
  · exact told (applyUpdate_fails fun _ member => member)
  · exact told tryIntoSimulation_fails
  · exact told tryIntoRule_fails

end OptionChainSimulator.Api
