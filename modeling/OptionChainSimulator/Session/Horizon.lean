import Mathlib.Tactic
import OptionChainSimulator.Domain.Expiry.Reach
import OptionChainSimulator.Api.Admissible
import OptionChainSimulator.Session.ParametersV2

namespace OptionChainSimulator.Session

open Foundation Utils Domain Domain.Expiry Api

/-! Whether the simulated clock of an accepted request, and the expirations at every
instant it shows, stay inside the representable calendar. -/

namespace SimulationParametersV2

variable {parameters : SimulationParametersV2}

def planner (service : Service) (parameters : SimulationParametersV2) : RollingPlanner :=
  ⟨service.zones, parameters.schedule⟩

theorem simulatedAt_eq_ok {service : Service} (valid : parameters.validate service = .ok ())
    {cursor : Nat} {instant : UtcDateTime} :
    parameters.simulatedAt cursor = .ok instant ↔
      instant.timestamp =
          parameters.effectiveStart.timestamp + cursor * parameters.stepIntervalSeconds ∧
        instant.time.frac = 0 := by
  obtain ⟨positive, bounded, whole⟩ := clock_of_validate valid
  have small : parameters.effectiveStart.time.frac < 1000000000 := by omega
  unfold simulatedAt
  simp only [bind_eq_ok, okOr_eq_ok, signed?_eq_some]
  constructor
  · rintro ⟨_, ⟨-, rfl⟩, _, ⟨-, rfl⟩, _, ⟨-, rfl⟩, delta, tried, shifted⟩
    unfold trySeconds at tried
    split_ifs at tried
    cases tried
    unfold NaiveDateTime.checkedAddSeconds at shifted
    rw [if_pos (.inl small), NaiveDateTime.ofTimestamp?_eq_some] at shifted
    exact ⟨shifted.1, shifted.2.trans whole⟩
  · rintro ⟨stamp, frac⟩
    have bottom := parameters.effectiveStart.date.lower
    have top := instant.date.upper
    have within := instant.time.secs_lt
    rw [minDay_eq] at bottom
    rw [maxDay_eq] at top
    have product : (cursor : Int) ≤ cursor * parameters.stepIntervalSeconds :=
      le_mul_of_one_le_right (by omega) (by exact_mod_cast positive)
    have offset : (cursor : Int) * parameters.stepIntervalSeconds ≤ 20000000000000 := by
      unfold NaiveDateTime.timestamp at stamp
      omega
    unfold i64Limit
    refine ⟨cursor, ⟨by omega, rfl⟩, parameters.stepIntervalSeconds, ⟨by omega, rfl⟩, _,
      ⟨by omega, rfl⟩, _, if_pos (by omega), ?_⟩
    unfold NaiveDateTime.checkedAddSeconds
    rw [if_pos (.inl small), NaiveDateTime.ofTimestamp?_eq_some]
    exact ⟨stamp, frac.trans whole.symm⟩

/-- A run stays in the calendar: every step shows a representable instant, and there
every rule can still reach the expirations it asks for. -/
def StaysInCalendar (service : Service) (parameters : SimulationParametersV2) : Prop :=
  ∀ step < parameters.steps, ∃ instant : UtcDateTime,
    instant.timestamp =
        parameters.effectiveStart.timestamp + step * parameters.stepIntervalSeconds ∧
      instant.time.frac = 0 ∧
      ∀ rule ∈ parameters.schedule.rules, (parameters.planner service).InReach rule instant

end SimulationParametersV2

/-- An accepted simulation can be walked to its end exactly when its run stays in the
calendar; nothing at creation asks for that. -/
theorem accepted_walks_to_end_iff {service : Service} {now : UtcDateTime} {draw : Nat}
    {request : CreateSimulationRequest} {parameters : SimulationParametersV2}
    (offsets : OffsetsWithinADay service.zones)
    (ordered : ∀ instant, (parameters.planner service).ResolvesInOrder instant)
    (accepted : request.tryIntoParameters service now draw = .ok parameters) :
    (∀ step < parameters.steps, ∃ instant, parameters.simulatedAt step = .ok instant ∧
        ∃ active, (parameters.planner service).activeAt instant = .ok active) ↔
      parameters.StaysInCalendar service := by
  have valid := CreateSimulationRequest.validate_of_tryIntoParameters accepted
  refine forall₂_congr fun step _ => exists_congr fun instant => ?_
  rw [SimulationParametersV2.simulatedAt_eq_ok valid,
    RollingPlanner.activeAt_ok_iff (ordered instant) offsets, and_assoc]
  rfl

/-! ### A request that starts on the last representable day -/

def exactNumerics : Numerics where
  rounded := .finite
  toF64 := .finite
  decimalTryFrom
    | .finite value => .ok value
    | _ => .error "not a number"
  positiveNew
    | .finite value =>
        if nonneg : 0 ≤ value then .ok ⟨value, nonneg⟩ else .error "negative"
    | _ => .error "not a number"
  displayF64 _ := ""
  displayPositive _ := ""

theorem exactNumerics_exact : Api.Exact exactNumerics where
  rounded _ := rfl
  toF64 _ := rfl
  decimal value decimal := by
    simp only [exactNumerics, Except.ok.injEq]
    exact eq_comm
  positive value positive := by
    simp only [exactNumerics]
    split_ifs with nonneg
    · cases positive
      simp [eq_comm]
    · constructor
      · intro impossible
        cases impossible
      · intro same
        exact absurd (same ▸ positive.nonneg) nonneg

def utcService : Service where
  limits := ⟨defaultMaxSteps, 500, 100000, 50000, defaultMaxSteps_lt⟩
  zones := .utc
  numerics := exactNumerics
  parseTime raw format := if raw = "17:00" ∧ format = "%H:%M" then some fivePm else none

def dailyRequest (start : UtcDateTime) : CreateSimulationRequest where
  symbol := "SPX"
  steps := 1
  startAt := some start
  stepIntervalSeconds := some 86400
  timezone := "UTC"
  calendar := none
  expirationTime := "17:00"
  schedules := [dailies, monthlies]
  initialPrice := .finite 100
  volatility := .finite (1 / 4)
  riskFreeRate := .finite 0
  dividendYield := .finite 0
  method := .brownian (.finite (1 / 4)) (.finite 0) (.finite (1 / 4))
  timeFrame := .day
  chainSize := none
  strikeInterval := none
  skewSlope := none
  smileCurve := none
  spread := none
  seed := some 7

def dailyParameters (start : UtcDateTime) : SimulationParametersV2 where
  symbol := "SPX"
  steps := 1
  effectiveStart := start
  stepIntervalSeconds := 86400
  timeFrame := .day
  schedule := dailiesAndMonthlies fivePm
  tzdbVersion := "2025b"
  initialPrice := ⟨100, by norm_num⟩
  volatility := ⟨1 / 4, by norm_num⟩
  riskFreeRate := 0
  dividendYield := ⟨0, by norm_num⟩
  method := .brownian ⟨1 / 4, by norm_num⟩ 0 ⟨1 / 4, by norm_num⟩
  chainSize := none
  strikeInterval := none
  skewSlope := none
  smileCurve := none
  spread := none
  seed := 7

theorem accepted_walks_to_end_iff_thursday :
    (∀ step < 1, ∃ instant, (dailyParameters thursdayNoon).simulatedAt step = .ok instant ∧
        ∃ active, ((dailyParameters thursdayNoon).planner utcService).activeAt instant =
          .ok active) ↔
      (dailyParameters thursdayNoon).StaysInCalendar utcService := by
  have accepted : (dailyRequest thursdayNoon).tryIntoParameters utcService thursdayNoon 0 =
      .ok (dailyParameters thursdayNoon) := by decide +kernel
  have ordered : ∀ instant,
      ((dailyParameters thursdayNoon).planner utcService).ResolvesInOrder instant :=
    fun instant => utc_resolvesInOrder _ instant
  exact accepted_walks_to_end_iff utc_offsetsWithinADay ordered accepted

def lastDayOfTime : UtcDateTime :=
  ⟨⟨maxDay, by rw [minDay_eq, maxDay_eq]; omega, le_refl _⟩, thursdayNoon.time⟩

/-- On the last representable day the request is accepted, its clock starts, and its
second daily expiration cannot be projected. -/
theorem accepted_request_fails_on_last_day :
    (dailyRequest lastDayOfTime).tryIntoParameters utcService lastDayOfTime 0 =
        .ok (dailyParameters lastDayOfTime) ∧
      (dailyParameters lastDayOfTime).simulatedAt 0 = .ok lastDayOfTime ∧
      ((dailyParameters lastDayOfTime).planner utcService).activeAt lastDayOfTime =
        .error (.error (.validation "schedules.dailies" "date arithmetic overflows")) := by
  refine ⟨by decide +kernel, by decide +kernel, ?_⟩
  rfl

end OptionChainSimulator.Session
