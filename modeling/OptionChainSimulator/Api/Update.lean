import Mathlib.Tactic
import OptionChainSimulator.Api.Models
import OptionChainSimulator.Session.Model
import OptionChainSimulator.Session.ParametersV2

namespace OptionChainSimulator.Api

open Utils Domain Session

/-! The body of a PATCH, and its merge into the parameters of a session. -/

inductive Patch (α : Type) where
  | absent
  | null
  | value (value : α)
  deriving DecidableEq

structure UpdateSessionRequest where
  symbol : Option String
  steps : Option Nat
  initialPrice : Option F64
  daysToExpiration : Option F64
  volatility : Option F64
  riskFreeRate : Option F64
  dividendYield : Option F64
  method : Option ApiWalkType
  timeFrame : Option ApiTimeFrame
  chainSize : Patch Nat
  strikeInterval : Patch F64
  skewSlope : Patch F64
  smileCurve : Patch F64
  spread : Patch F64
  seed : Patch Nat

section Merge

variable {α β : Type} (check : α → Except ChainError β)

/-- A field that cannot be cleared: absent keeps it, a value replaces it. -/
def keepOrReplace (current : β) : Option α → Except ChainError β
  | none => .ok current
  | some value => check value

/-- A field that can: null clears it. -/
def Patch.merge (current : Option β) : Patch α → Except ChainError (Option β)
  | .absent => .ok current
  | .null => .ok none
  | .value given => some <$> check given

/-- The seed is never cleared: null asks for a random one. -/
def Patch.mergeSeed (current : Option Nat) (random : Nat) : Patch Nat → Option Nat
  | .absent => current
  | .null => some random
  | .value seed => some seed

variable {check} {left right leftMerged rightMerged : β}

theorem keepOrReplace_total {field : Option α}
    (merged : keepOrReplace check left field = .ok leftMerged) (right : β) :
    ∃ other, keepOrReplace check right field = .ok other := by
  cases field with
  | none => exact ⟨right, rfl⟩
  | some value => exact ⟨leftMerged, merged⟩

theorem keepOrReplace_agree {field : Option α}
    (merged : keepOrReplace check left field = .ok leftMerged)
    (other : keepOrReplace check right field = .ok rightMerged) :
    leftMerged = rightMerged ↔ (field = none → left = right) := by
  cases field with
  | none =>
      cases merged
      cases other
      simp
  | some value =>
      simp only [keepOrReplace] at merged other
      rw [merged] at other
      cases other
      simp

theorem Patch.merge_total {left merged : Option β} {field : Patch α}
    (first : field.merge check left = .ok merged) (right : Option β) :
    ∃ other, field.merge check right = .ok other := by
  cases field with
  | absent => exact ⟨right, rfl⟩
  | null => exact ⟨none, rfl⟩
  | value given => exact ⟨merged, first⟩

theorem Patch.merge_agree {left right merged other : Option β} {field : Patch α}
    (first : field.merge check left = .ok merged)
    (second : field.merge check right = .ok other) :
    merged = other ↔ (field = .absent → left = right) := by
  cases field with
  | absent =>
      cases first
      cases second
      simp
  | null =>
      cases first
      cases second
      simp
  | value given =>
      simp only [Patch.merge] at first second
      rw [first] at second
      cases second
      simp

theorem Patch.mergeSeed_agree {left right : Option Nat} {random : Nat} {field : Patch Nat} :
    field.mergeSeed left random = field.mergeSeed right random ↔
      (field = .absent → left = right) := by
  cases field <;> simp [Patch.mergeSeed]

end Merge

section Update

variable (numerics : Numerics) (limits : Limits)

def checkedSteps (steps : Nat) : Except ChainError Nat := do
  stepsField limits steps
  return steps

def checkedChainSize (chainSize : Nat) : Except ChainError Nat := do
  chainSizeField limits (some chainSize)
  return chainSize

/-- The merge, with the seed that a null would draw. -/
def applyUpdate (parameters : SimulationParameters) (request : UpdateSessionRequest)
    (random : Nat) : Except ChainError SimulationParameters := do
  let symbol := request.symbol.getD parameters.symbol
  let steps ← keepOrReplace (checkedSteps limits) parameters.steps request.steps
  let initialPrice ← keepOrReplace (positiveField numerics "initial_price")
    parameters.initialPrice request.initialPrice
  let daysToExpiration ← keepOrReplace (positiveField numerics "days_to_expiration")
    parameters.daysToExpiration request.daysToExpiration
  let volatility ← keepOrReplace (positiveField numerics "volatility")
    parameters.volatility request.volatility
  let riskFreeRate ← keepOrReplace (decimalField numerics "risk_free_rate")
    parameters.riskFreeRate request.riskFreeRate
  let dividendYield ← keepOrReplace (positiveField numerics "dividend_yield")
    parameters.dividendYield request.dividendYield
  let method ← keepOrReplace (ApiWalkType.tryIntoWalkType numerics limits)
    parameters.method request.method
  let timeFrame ← keepOrReplace (timeFrameField numerics "time_frame")
    parameters.timeFrame request.timeFrame
  let chainSize ← request.chainSize.merge (checkedChainSize limits) parameters.chainSize
  let strikeInterval ← request.strikeInterval.merge
    (strictlyPositiveField numerics "strike_interval") parameters.strikeInterval
  let skewSlope ← request.skewSlope.merge (decimalField numerics "skew_slope")
    parameters.skewSlope
  let smileCurve ← request.smileCurve.merge (decimalField numerics "smile_curve")
    parameters.smileCurve
  let spread ← request.spread.merge (positiveField numerics "spread") parameters.spread
  let seed := request.seed.mergeSeed parameters.seed random
  return ⟨symbol, steps, initialPrice, daysToExpiration, volatility, riskFreeRate, dividendYield,
    method, timeFrame, chainSize, strikeInterval, skewSlope, smileCurve, spread, seed⟩

/-- The two agree wherever the request says nothing. -/
structure UpdateSessionRequest.AgreeElsewhere (request : UpdateSessionRequest)
    (left right : SimulationParameters) : Prop where
  symbol : request.symbol = none → left.symbol = right.symbol
  steps : request.steps = none → left.steps = right.steps
  initialPrice : request.initialPrice = none → left.initialPrice = right.initialPrice
  daysToExpiration : request.daysToExpiration = none →
    left.daysToExpiration = right.daysToExpiration
  volatility : request.volatility = none → left.volatility = right.volatility
  riskFreeRate : request.riskFreeRate = none → left.riskFreeRate = right.riskFreeRate
  dividendYield : request.dividendYield = none → left.dividendYield = right.dividendYield
  method : request.method = none → left.method = right.method
  timeFrame : request.timeFrame = none → left.timeFrame = right.timeFrame
  chainSize : request.chainSize = .absent → left.chainSize = right.chainSize
  strikeInterval : request.strikeInterval = .absent → left.strikeInterval = right.strikeInterval
  skewSlope : request.skewSlope = .absent → left.skewSlope = right.skewSlope
  smileCurve : request.smileCurve = .absent → left.smileCurve = right.smileCurve
  spread : request.spread = .absent → left.spread = right.spread
  seed : request.seed = .absent → left.seed = right.seed

theorem UpdateSessionRequest.AgreeElsewhere.refl (request : UpdateSessionRequest)
    (parameters : SimulationParameters) : request.AgreeElsewhere parameters parameters := by
  constructor <;> exact fun _ => rfl

variable {numerics limits} {left right leftMerged rightMerged : SimulationParameters}
  {request : UpdateSessionRequest} {random : Nat}

theorem applyUpdate_eq_ok : applyUpdate numerics limits left request random = .ok leftMerged ↔
    leftMerged.symbol = request.symbol.getD left.symbol ∧
      keepOrReplace (checkedSteps limits) left.steps request.steps = .ok leftMerged.steps ∧
      keepOrReplace (positiveField numerics "initial_price") left.initialPrice
        request.initialPrice = .ok leftMerged.initialPrice ∧
      keepOrReplace (positiveField numerics "days_to_expiration") left.daysToExpiration
        request.daysToExpiration = .ok leftMerged.daysToExpiration ∧
      keepOrReplace (positiveField numerics "volatility") left.volatility
        request.volatility = .ok leftMerged.volatility ∧
      keepOrReplace (decimalField numerics "risk_free_rate") left.riskFreeRate
        request.riskFreeRate = .ok leftMerged.riskFreeRate ∧
      keepOrReplace (positiveField numerics "dividend_yield") left.dividendYield
        request.dividendYield = .ok leftMerged.dividendYield ∧
      keepOrReplace (ApiWalkType.tryIntoWalkType numerics limits) left.method
        request.method = .ok leftMerged.method ∧
      keepOrReplace (timeFrameField numerics "time_frame") left.timeFrame
        request.timeFrame = .ok leftMerged.timeFrame ∧
      request.chainSize.merge (checkedChainSize limits) left.chainSize =
        .ok leftMerged.chainSize ∧
      request.strikeInterval.merge (strictlyPositiveField numerics "strike_interval")
        left.strikeInterval = .ok leftMerged.strikeInterval ∧
      request.skewSlope.merge (decimalField numerics "skew_slope") left.skewSlope =
        .ok leftMerged.skewSlope ∧
      request.smileCurve.merge (decimalField numerics "smile_curve") left.smileCurve =
        .ok leftMerged.smileCurve ∧
      request.spread.merge (positiveField numerics "spread") left.spread =
        .ok leftMerged.spread ∧
      leftMerged.seed = request.seed.mergeSeed left.seed random := by
  unfold applyUpdate
  simp only [bind_eq_ok, pure, Except.pure, Except.ok.injEq]
  constructor
  · intro succeeded
    obtain ⟨_, steps, _, price, _, days, _, volatility, _, rate, _, yield, _, method, _, frame,
      _, size, _, interval, _, slope, _, curve, _, spread, rfl⟩ := succeeded
    exact ⟨rfl, steps, price, days, volatility, rate, yield, method, frame, size, interval, slope,
      curve, spread, rfl⟩
  · intro succeeded
    obtain ⟨symbol, steps, price, days, volatility, rate, yield, method, frame, size, interval,
      slope, curve, spread, seed⟩ := succeeded
    refine ⟨_, steps, _, price, _, days, _, volatility, _, rate, _, yield, _, method, _, frame,
      _, size, _, interval, _, slope, _, curve, _, spread, ?_⟩
    rw [← symbol, ← seed]

/-- Whether a merge passes its checks depends on the request alone. -/
theorem applyUpdate_total
    (merged : applyUpdate numerics limits left request random = .ok leftMerged)
    (right : SimulationParameters) :
    ∃ other, applyUpdate numerics limits right request random = .ok other := by
  obtain ⟨-, steps, price, days, volatility, rate, yield, method, frame, size, interval, slope,
    curve, spread, -⟩ := applyUpdate_eq_ok.mp merged
  obtain ⟨_, steps⟩ := keepOrReplace_total steps right.steps
  obtain ⟨_, price⟩ := keepOrReplace_total price right.initialPrice
  obtain ⟨_, days⟩ := keepOrReplace_total days right.daysToExpiration
  obtain ⟨_, volatility⟩ := keepOrReplace_total volatility right.volatility
  obtain ⟨_, rate⟩ := keepOrReplace_total rate right.riskFreeRate
  obtain ⟨_, yield⟩ := keepOrReplace_total yield right.dividendYield
  obtain ⟨_, method⟩ := keepOrReplace_total method right.method
  obtain ⟨_, frame⟩ := keepOrReplace_total frame right.timeFrame
  obtain ⟨_, size⟩ := Patch.merge_total size right.chainSize
  obtain ⟨_, interval⟩ := Patch.merge_total interval right.strikeInterval
  obtain ⟨_, slope⟩ := Patch.merge_total slope right.skewSlope
  obtain ⟨_, curve⟩ := Patch.merge_total curve right.smileCurve
  obtain ⟨_, spread⟩ := Patch.merge_total spread right.spread
  exact ⟨⟨_, _, _, _, _, _, _, _, _, _, _, _, _, _, _⟩, applyUpdate_eq_ok.mpr ⟨rfl, steps, price,
    days, volatility, rate, yield, method, frame, size, interval, slope, curve, spread, rfl⟩⟩

theorem steps_of_applyUpdate (positive : 1 ≤ left.steps)
    (merged : applyUpdate numerics limits left request random = .ok leftMerged) :
    1 ≤ leftMerged.steps := by
  obtain ⟨-, steps, -⟩ := applyUpdate_eq_ok.mp merged
  cases given : request.steps with
  | none =>
      rw [given, keepOrReplace, Except.ok.injEq] at steps
      rwa [← steps]
  | some count =>
      rw [given] at steps
      obtain ⟨checked, steps⟩ := bind_unit_eq_ok.mp steps
      simp only [pure, Except.pure, Except.ok.injEq] at steps
      unfold stepsField at checked
      split_ifs at checked with none many
      omega

/-- Merging the same request gives the same parameters exactly where nothing that it
leaves alone differs. -/
theorem applyUpdate_agree
    (merged : applyUpdate numerics limits left request random = .ok leftMerged)
    (other : applyUpdate numerics limits right request random = .ok rightMerged) :
    leftMerged = rightMerged ↔ request.AgreeElsewhere left right := by
  obtain ⟨symbol, steps, price, days, volatility, rate, yield, method, frame, size, interval,
    slope, curve, spread, seed⟩ := applyUpdate_eq_ok.mp merged
  obtain ⟨otherSymbol, otherSteps, otherPrice, otherDays, otherVolatility, otherRate, otherYield,
    otherMethod, otherFrame, otherSize, otherInterval, otherSlope, otherCurve, otherSpread,
    otherSeed⟩ := applyUpdate_eq_ok.mp other
  have symbol : leftMerged.symbol = rightMerged.symbol ↔
      (request.symbol = none → left.symbol = right.symbol) := by
    rw [symbol, otherSymbol]
    cases request.symbol <;> simp
  have steps := keepOrReplace_agree steps otherSteps
  have price := keepOrReplace_agree price otherPrice
  have days := keepOrReplace_agree days otherDays
  have volatility := keepOrReplace_agree volatility otherVolatility
  have rate := keepOrReplace_agree rate otherRate
  have yield := keepOrReplace_agree yield otherYield
  have method := keepOrReplace_agree method otherMethod
  have frame := keepOrReplace_agree frame otherFrame
  have size := Patch.merge_agree size otherSize
  have interval := Patch.merge_agree interval otherInterval
  have slope := Patch.merge_agree slope otherSlope
  have curve := Patch.merge_agree curve otherCurve
  have spread := Patch.merge_agree spread otherSpread
  have seed : leftMerged.seed = rightMerged.seed ↔
      (request.seed = .absent → left.seed = right.seed) := by
    rw [seed, otherSeed, Patch.mergeSeed_agree]
  constructor
  · intro same
    subst same
    exact ⟨symbol.mp rfl, steps.mp rfl, price.mp rfl, days.mp rfl, volatility.mp rfl, rate.mp rfl,
      yield.mp rfl, method.mp rfl, frame.mp rfl, size.mp rfl, interval.mp rfl, slope.mp rfl,
      curve.mp rfl, spread.mp rfl, seed.mp rfl⟩
  · intro agree
    exact SimulationParameters.ext (symbol.mpr agree.symbol) (steps.mpr agree.steps)
      (price.mpr agree.initialPrice) (days.mpr agree.daysToExpiration)
      (volatility.mpr agree.volatility) (rate.mpr agree.riskFreeRate)
      (yield.mpr agree.dividendYield) (method.mpr agree.method) (frame.mpr agree.timeFrame)
      (size.mpr agree.chainSize) (interval.mpr agree.strikeInterval)
      (slope.mpr agree.skewSlope) (curve.mpr agree.smileCurve) (spread.mpr agree.spread)
      (seed.mpr agree.seed)

end Update

end OptionChainSimulator.Api
