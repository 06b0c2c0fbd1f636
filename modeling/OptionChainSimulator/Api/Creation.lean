import Mathlib.Tactic
import OptionChainSimulator.Api.Update

namespace OptionChainSimulator.Api

open Utils Domain Session

/-! The body of a POST or a PUT, and a PATCH told as the POST it amounts to. -/

structure CreateSessionRequest where
  symbol : String
  steps : Nat
  initialPrice : F64
  daysToExpiration : F64
  volatility : F64
  riskFreeRate : F64
  dividendYield : F64
  method : ApiWalkType
  timeFrame : ApiTimeFrame
  chainSize : Option Nat
  strikeInterval : Option F64
  skewSlope : Option F64
  smileCurve : Option F64
  spread : Option F64
  seed : Option Nat

section Create

variable (numerics : Numerics) (limits : Limits)

/-- `TryFrom<CreateSessionRequest> for SimulationParameters`, with the seed that is drawn for a
request without one. -/
def CreateSessionRequest.tryIntoParameters (request : CreateSessionRequest) (random : Nat) :
    Except ChainError SimulationParameters := do
  stepsField limits request.steps
  chainSizeField limits request.chainSize
  let initialPrice ← positiveField numerics "initial_price" request.initialPrice
  let daysToExpiration ← positiveField numerics "days_to_expiration" request.daysToExpiration
  let volatility ← positiveField numerics "volatility" request.volatility
  let riskFreeRate ← decimalField numerics "risk_free_rate" request.riskFreeRate
  let dividendYield ← positiveField numerics "dividend_yield" request.dividendYield
  let method ← request.method.tryIntoWalkType numerics limits
  let timeFrame ← timeFrameField numerics "time_frame" request.timeFrame
  let strikeInterval ←
    optionalField (strictlyPositiveField numerics "strike_interval") request.strikeInterval
  let skewSlope ← optionalField (decimalField numerics "skew_slope") request.skewSlope
  let smileCurve ← optionalField (decimalField numerics "smile_curve") request.smileCurve
  let spread ← optionalField (positiveField numerics "spread") request.spread
  return ⟨request.symbol, request.steps, initialPrice, daysToExpiration, volatility, riskFreeRate,
    dividendYield, method, timeFrame, request.chainSize, strikeInterval, skewSlope, smileCurve,
    spread, some (request.seed.getD random)⟩

end Create

/-- What a PATCH leaves in the place of an optional field. -/
def Patch.over {α : Type} (base : Option α) : Patch α → Option α
  | .absent => base
  | .null => none
  | .value given => some given

/-- The request that says what the PATCH says and, where it says nothing, what this one says.
`drawn` is the seed that was drawn for this one, `random` the one for the PATCH. -/
def CreateSessionRequest.patched (request : CreateSessionRequest) (patch : UpdateSessionRequest)
    (drawn random : Nat) : CreateSessionRequest where
  symbol := patch.symbol.getD request.symbol
  steps := patch.steps.getD request.steps
  initialPrice := patch.initialPrice.getD request.initialPrice
  daysToExpiration := patch.daysToExpiration.getD request.daysToExpiration
  volatility := patch.volatility.getD request.volatility
  riskFreeRate := patch.riskFreeRate.getD request.riskFreeRate
  dividendYield := patch.dividendYield.getD request.dividendYield
  method := patch.method.getD request.method
  timeFrame := patch.timeFrame.getD request.timeFrame
  chainSize := patch.chainSize.over request.chainSize
  strikeInterval := patch.strikeInterval.over request.strikeInterval
  skewSlope := patch.skewSlope.over request.skewSlope
  smileCurve := patch.smileCurve.over request.smileCurve
  spread := patch.spread.over request.spread
  seed := patch.seed.mergeSeed (some (request.seed.getD drawn)) random

section Fields

variable {α β : Type} {check : α → Except ChainError β} {limits : Limits}

theorem keepOrReplace_eq {base : α} {current : β} (valid : check base = .ok current)
    (field : Option α) : keepOrReplace check current field = check (field.getD base) := by
  cases field with
  | none => exact valid.symm
  | some value => rfl

theorem Patch.merge_eq {base : Option α} {current : Option β}
    (valid : optionalField check base = .ok current) (field : Patch α) :
    field.merge check current = optionalField check (field.over base) := by
  cases field with
  | absent => exact valid.symm
  | null => rfl
  | value given => rfl

theorem checkedSteps_eq_ok {steps checked : Nat} :
    checkedSteps limits steps = .ok checked ↔
      stepsField limits steps = .ok () ∧ steps = checked := by
  rw [checkedSteps, bind_unit_eq_ok]
  simp only [pure, Except.pure, Except.ok.injEq]

theorem checkedChainSize_eq_ok {chainSize checked : Option Nat} :
    optionalField (checkedChainSize limits) chainSize = .ok checked ↔
      chainSizeField limits chainSize = .ok () ∧ chainSize = checked := by
  cases chainSize with
  | none => simp [optionalField, chainSizeField]
  | some value =>
      simp only [optionalField, map_eq_ok, checkedChainSize, bind_eq_ok, pure, Except.pure,
        Except.ok.injEq]
      constructor
      · intro succeeded
        obtain ⟨_, ⟨_, valid, rfl⟩, rfl⟩ := succeeded
        exact ⟨valid, rfl⟩
      · intro succeeded
        obtain ⟨valid, rfl⟩ := succeeded
        exact ⟨value, ⟨(), valid, rfl⟩, rfl⟩

theorem mergeSeed_eq_some {seed random : Nat} (field : Patch Nat) :
    ∃ effective, field.mergeSeed (some seed) random = some effective := by
  cases field with
  | absent => exact ⟨seed, rfl⟩
  | null => exact ⟨random, rfl⟩
  | value given => exact ⟨given, rfl⟩

end Fields

section Commutes

variable {numerics : Numerics} {limits : Limits} {request : CreateSessionRequest}
  {patch : UpdateSessionRequest} {parameters merged : SimulationParameters} {drawn random : Nat}

theorem tryIntoParameters_eq_ok :
    request.tryIntoParameters numerics limits random = .ok parameters ↔
      parameters.symbol = request.symbol ∧
        checkedSteps limits request.steps = .ok parameters.steps ∧
        positiveField numerics "initial_price" request.initialPrice =
          .ok parameters.initialPrice ∧
        positiveField numerics "days_to_expiration" request.daysToExpiration =
          .ok parameters.daysToExpiration ∧
        positiveField numerics "volatility" request.volatility = .ok parameters.volatility ∧
        decimalField numerics "risk_free_rate" request.riskFreeRate =
          .ok parameters.riskFreeRate ∧
        positiveField numerics "dividend_yield" request.dividendYield =
          .ok parameters.dividendYield ∧
        request.method.tryIntoWalkType numerics limits = .ok parameters.method ∧
        timeFrameField numerics "time_frame" request.timeFrame = .ok parameters.timeFrame ∧
        optionalField (checkedChainSize limits) request.chainSize = .ok parameters.chainSize ∧
        optionalField (strictlyPositiveField numerics "strike_interval") request.strikeInterval =
          .ok parameters.strikeInterval ∧
        optionalField (decimalField numerics "skew_slope") request.skewSlope =
          .ok parameters.skewSlope ∧
        optionalField (decimalField numerics "smile_curve") request.smileCurve =
          .ok parameters.smileCurve ∧
        optionalField (positiveField numerics "spread") request.spread = .ok parameters.spread ∧
        parameters.seed = some (request.seed.getD random) := by
  rw [checkedSteps_eq_ok, checkedChainSize_eq_ok]
  unfold CreateSessionRequest.tryIntoParameters
  simp only [bind_eq_ok, pure, Except.pure, Except.ok.injEq]
  constructor
  · intro succeeded
    obtain ⟨_, steps, _, size, _, price, _, days, _, volatility, _, rate, _, yield, _, method, _,
      frame, _, interval, _, slope, _, curve, _, spread, rfl⟩ := succeeded
    exact ⟨rfl, ⟨steps, rfl⟩, price, days, volatility, rate, yield, method, frame, ⟨size, rfl⟩,
      interval, slope, curve, spread, rfl⟩
  · intro succeeded
    obtain ⟨symbol, ⟨steps, sameSteps⟩, price, days, volatility, rate, yield, method, frame,
      ⟨size, sameSize⟩, interval, slope, curve, spread, seed⟩ := succeeded
    refine ⟨(), steps, (), size, _, price, _, days, _, volatility, _, rate, _, yield, _, method, _,
      frame, _, interval, _, slope, _, curve, _, spread, ?_⟩
    rw [← symbol, sameSteps, sameSize, ← seed]

/-- Merging a PATCH into created parameters is creating from the patched request. -/
theorem applyUpdate_eq_ok_iff_create
    (created : request.tryIntoParameters numerics limits drawn = .ok parameters) :
    applyUpdate numerics limits parameters patch random = .ok merged ↔
      (request.patched patch drawn random).tryIntoParameters numerics limits drawn =
        .ok merged := by
  obtain ⟨symbol, steps, price, days, volatility, rate, yield, method, frame, size, interval,
    slope, curve, spread, seed⟩ := tryIntoParameters_eq_ok.mp created
  obtain ⟨effective, seeded⟩ := @mergeSeed_eq_some (request.seed.getD drawn) random patch.seed
  rw [applyUpdate_eq_ok, tryIntoParameters_eq_ok, keepOrReplace_eq steps, keepOrReplace_eq price,
    keepOrReplace_eq days, keepOrReplace_eq volatility, keepOrReplace_eq rate,
    keepOrReplace_eq yield, keepOrReplace_eq method, keepOrReplace_eq frame, Patch.merge_eq size,
    Patch.merge_eq interval, Patch.merge_eq slope, Patch.merge_eq curve, Patch.merge_eq spread,
    symbol, seed]
  simp only [CreateSessionRequest.patched, seeded, Option.getD_some]

end Commutes

end OptionChainSimulator.Api
