import Mathlib.Tactic
import OptionChainSimulator.Api.Admissible
import OptionChainSimulator.Session.ParametersV2

namespace OptionChainSimulator.Session

open Foundation Utils Domain Domain.Expiry Api

/-! What a request that resolves has passed, and what the shared check asks. -/

section Resolves

/-- Every field of the parameters, from the request. -/
structure Resolves (service : Service) (now : UtcDateTime) (draw : Nat)
    (request : CreateSimulationRequest) (parameters : SimulationParametersV2) : Prop where
  symbol : parameters.symbol = request.symbol
  steps : parameters.steps = request.steps
  chainSize : parameters.chainSize = request.chainSize
  seed : parameters.seed = request.seed.getD draw
  tzdbVersion : parameters.tzdbVersion = service.zones.version
  effectiveStart : parameters.effectiveStart = (request.startAt.getD now).withoutNanoseconds
  stepsChecked : stepsField service.limits request.steps = .ok ()
  chainSizeChecked : chainSizeField service.limits request.chainSize = .ok ()
  symbolChecked : symbolField "symbol" request.symbol = .ok ()
  timeFrame : timeFrameField service.numerics "time_frame" request.timeFrame =
    .ok parameters.timeFrame
  stepInterval : stepIntervalField service.numerics parameters.timeFrame
    request.stepIntervalSeconds = .ok parameters.stepIntervalSeconds
  calendar : parseCalendar request.calendar = .ok parameters.schedule.calendar
  timezone : parseTimezone service request.timezone = .ok parameters.schedule.timezone
  expirationTime : parseExpirationTime service request.expirationTime =
    .ok parameters.schedule.expirationTime
  schedule : ExpirationSchedule.new parameters.schedule.calendar parameters.schedule.timezone
    parameters.schedule.expirationTime request.schedules = .ok parameters.schedule
  initialPrice : strictlyPositiveField service.numerics "initial_price" request.initialPrice =
    .ok parameters.initialPrice
  volatility : strictlyPositiveField service.numerics "volatility" request.volatility =
    .ok parameters.volatility
  riskFreeRate : decimalField service.numerics "risk_free_rate" request.riskFreeRate =
    .ok parameters.riskFreeRate
  dividendYield : positiveField service.numerics "dividend_yield" request.dividendYield =
    .ok parameters.dividendYield
  method : request.method.tryIntoWalkType service.numerics service.limits = .ok parameters.method
  strikeInterval : optionalField
    (strictlyPositiveField service.numerics "strike_interval") request.strikeInterval =
      .ok parameters.strikeInterval
  skewSlope : optionalField (decimalField service.numerics "skew_slope") request.skewSlope =
    .ok parameters.skewSlope
  smileCurve : optionalField (decimalField service.numerics "smile_curve") request.smileCurve =
    .ok parameters.smileCurve
  spread : optionalField (positiveField service.numerics "spread") request.spread =
    .ok parameters.spread

variable {service : Service} {now : UtcDateTime} {draw : Nat} {request : CreateSimulationRequest}
  {parameters : SimulationParametersV2}

namespace CreateSimulationRequest

theorem resolves_of_resolve (resolved : request.resolve service now draw = .ok parameters) :
    Resolves service now draw request parameters := by
  unfold resolve at resolved
  simp only [bind_unit_eq_ok] at resolved
  obtain ⟨stepsChecked, chainSizeChecked, symbolChecked, resolved⟩ := resolved
  obtain ⟨timeFrame, timeFrameIs, resolved⟩ := bind_eq_ok.mp resolved
  obtain ⟨interval, intervalIs, resolved⟩ := bind_eq_ok.mp resolved
  obtain ⟨calendar, calendarIs, resolved⟩ := bind_eq_ok.mp resolved
  obtain ⟨timezone, timezoneIs, resolved⟩ := bind_eq_ok.mp resolved
  obtain ⟨time, timeIs, resolved⟩ := bind_eq_ok.mp resolved
  obtain ⟨schedule, scheduleIs, resolved⟩ := bind_eq_ok.mp resolved
  obtain ⟨price, priceIs, resolved⟩ := bind_eq_ok.mp resolved
  obtain ⟨volatility, volatilityIs, resolved⟩ := bind_eq_ok.mp resolved
  obtain ⟨rate, rateIs, resolved⟩ := bind_eq_ok.mp resolved
  obtain ⟨dividend, dividendIs, resolved⟩ := bind_eq_ok.mp resolved
  obtain ⟨method, methodIs, resolved⟩ := bind_eq_ok.mp resolved
  obtain ⟨strike, strikeIs, resolved⟩ := bind_eq_ok.mp resolved
  obtain ⟨skew, skewIs, resolved⟩ := bind_eq_ok.mp resolved
  obtain ⟨smile, smileIs, resolved⟩ := bind_eq_ok.mp resolved
  obtain ⟨spread, spreadIs, resolved⟩ := bind_eq_ok.mp resolved
  cases resolved
  obtain ⟨-, rfl, rfl, rfl, -⟩ := ExpirationSchedule.new_eq_ok scheduleIs
  exact ⟨rfl, rfl, rfl, rfl, rfl, rfl, stepsChecked, chainSizeChecked, symbolChecked, timeFrameIs,
    intervalIs, calendarIs, timezoneIs, timeIs, scheduleIs, priceIs, volatilityIs, rateIs,
    dividendIs, methodIs, strikeIs, skewIs, smileIs, spreadIs⟩

theorem resolve_of_resolves (resolves : Resolves service now draw request parameters) :
    request.resolve service now draw = .ok parameters := by
  unfold resolve
  simp only [bind_unit_eq_ok]
  refine ⟨resolves.stepsChecked, resolves.chainSizeChecked, resolves.symbolChecked, ?_⟩
  simp only [resolves.timeFrame, resolves.stepInterval, resolves.calendar, resolves.timezone,
    resolves.expirationTime, resolves.schedule, resolves.initialPrice, resolves.volatility,
    resolves.riskFreeRate, resolves.dividendYield, resolves.method, resolves.strikeInterval,
    resolves.skewSlope, resolves.smileCurve, resolves.spread, bind, Except.bind, pure, Except.pure,
    ← resolves.symbol, ← resolves.steps, ← resolves.chainSize, ← resolves.seed,
    ← resolves.tzdbVersion, ← resolves.effectiveStart]

theorem tryIntoParameters_eq_ok :
    request.tryIntoParameters service now draw = .ok parameters ↔
      Resolves service now draw request parameters ∧ parameters.validate service = .ok () := by
  constructor
  · intro accepted
    obtain ⟨resolved, resolving, checked⟩ := bind_eq_ok.mp accepted
    obtain ⟨passed, kept⟩ := bind_unit_eq_ok.mp checked
    cases kept
    exact ⟨resolves_of_resolve resolving, passed⟩
  · intro accepted
    obtain ⟨resolves, passed⟩ := accepted
    unfold tryIntoParameters
    rw [resolve_of_resolves resolves]
    exact bind_unit_eq_ok.mpr ⟨passed, rfl⟩

end CreateSimulationRequest

end Resolves

end OptionChainSimulator.Session
