import Mathlib.Tactic
import OptionChainSimulator.Api.Validation

namespace OptionChainSimulator.Api

open Utils Domain

/-! Walk models as a request spells them, and their conversion both ways. -/

inductive ApiWalkType where
  | brownian (dt drift volatility : F64)
  | geometricBrownian (dt drift volatility : F64)
  | logReturns (dt expectedReturn volatility : F64) (autocorrelation : Option F64)
  | meanReverting (dt volatility speed mean : F64)
  | jumpDiffusion (dt drift volatility intensity jumpMean jumpVolatility : F64)
  | garch (dt drift volatility alpha beta : F64)
  | heston (dt drift volatility kappa theta xi rho : F64)
  | custom (dt drift volatility vov volSpeed volMean : F64)
  | telegraph (dt drift volatility lambdaUp lambdaDown : F64)
      (volMultiplierUp volMultiplierDown : Option F64)
  | historical (timeframe : ApiTimeFrame) (prices : List F64) (symbol : Option String)
  deriving DecidableEq

section Conversions

variable (numerics : Numerics) (limits : Limits)

def ApiTimeFrame.ofTimeFrame : TimeFrame → ApiTimeFrame
  | .microsecond => .microsecond
  | .millisecond => .millisecond
  | .second => .second
  | .minute => .minute
  | .hour => .hour
  | .day => .day
  | .week => .week
  | .month => .month
  | .quarter => .quarter
  | .year => .year
  | .custom value => .custom (numerics.positiveToF64 value)

/-- `From<WalkType> for ApiWalkType`. -/
def ApiWalkType.ofWalkType : WalkType → ApiWalkType
  | .brownian dt drift volatility =>
      .brownian (numerics.positiveToF64 dt) (numerics.decimalToF64 drift)
        (numerics.positiveToF64 volatility)
  | .geometricBrownian dt drift volatility =>
      .geometricBrownian (numerics.positiveToF64 dt) (numerics.decimalToF64 drift)
        (numerics.positiveToF64 volatility)
  | .logReturns dt expectedReturn volatility autocorrelation =>
      .logReturns (numerics.positiveToF64 dt) (numerics.decimalToF64 expectedReturn)
        (numerics.positiveToF64 volatility) (autocorrelation.map numerics.decimalToF64)
  | .meanReverting dt volatility speed mean =>
      .meanReverting (numerics.positiveToF64 dt) (numerics.positiveToF64 volatility)
        (numerics.positiveToF64 speed) (numerics.positiveToF64 mean)
  | .jumpDiffusion dt drift volatility intensity jumpMean jumpVolatility =>
      .jumpDiffusion (numerics.positiveToF64 dt) (numerics.decimalToF64 drift)
        (numerics.positiveToF64 volatility) (numerics.positiveToF64 intensity)
        (numerics.decimalToF64 jumpMean) (numerics.positiveToF64 jumpVolatility)
  | .garch dt drift volatility alpha beta =>
      .garch (numerics.positiveToF64 dt) (numerics.decimalToF64 drift)
        (numerics.positiveToF64 volatility) (numerics.positiveToF64 alpha)
        (numerics.positiveToF64 beta)
  | .heston dt drift volatility kappa theta xi rho =>
      .heston (numerics.positiveToF64 dt) (numerics.decimalToF64 drift)
        (numerics.positiveToF64 volatility) (numerics.positiveToF64 kappa)
        (numerics.positiveToF64 theta) (numerics.positiveToF64 xi) (numerics.decimalToF64 rho)
  | .custom dt drift volatility vov volSpeed volMean =>
      .custom (numerics.positiveToF64 dt) (numerics.decimalToF64 drift)
        (numerics.positiveToF64 volatility) (numerics.positiveToF64 vov)
        (numerics.positiveToF64 volSpeed) (numerics.positiveToF64 volMean)
  | .telegraph dt drift volatility lambdaUp lambdaDown volMultiplierUp volMultiplierDown =>
      .telegraph (numerics.positiveToF64 dt) (numerics.decimalToF64 drift)
        (numerics.positiveToF64 volatility) (numerics.positiveToF64 lambdaUp)
        (numerics.positiveToF64 lambdaDown) (volMultiplierUp.map numerics.positiveToF64)
        (volMultiplierDown.map numerics.positiveToF64)
  | .historical timeframe prices symbol =>
      .historical (ApiTimeFrame.ofTimeFrame numerics timeframe)
        (prices.map numerics.positiveToF64) symbol

/-- `alpha + beta >= 1.0` in doubles. -/
def atLeastOne : F64 → Bool
  | .finite value => 1 ≤ value
  | .infinite negative => !negative
  | .nan => false

def pricesField : List F64 → Except ChainError (List Positive)
  | [] => .ok []
  | price :: rest => do
      let converted ← strictlyPositiveField numerics "prices" price
      let others ← pricesField rest
      return converted :: others

/-- `TryFrom<ApiWalkType> for WalkType`. -/
def ApiWalkType.tryIntoWalkType : ApiWalkType → Except ChainError WalkType
  | .brownian dt drift volatility => do
      let dt ← strictlyPositiveField numerics "dt" dt
      let drift ← decimalField numerics "drift" drift
      let volatility ← positiveField numerics "volatility" volatility
      return .brownian dt drift volatility
  | .geometricBrownian dt drift volatility => do
      let dt ← strictlyPositiveField numerics "dt" dt
      let drift ← decimalField numerics "drift" drift
      let volatility ← positiveField numerics "volatility" volatility
      return .geometricBrownian dt drift volatility
  | .logReturns dt expectedReturn volatility autocorrelation => do
      let dt ← strictlyPositiveField numerics "dt" dt
      let expectedReturn ← decimalField numerics "expected_return" expectedReturn
      let volatility ← positiveField numerics "volatility" volatility
      let autocorrelation ← optionalField
        (fun value => boundedDecimalField numerics "autocorrelation" value (-1) 1) autocorrelation
      return .logReturns dt expectedReturn volatility autocorrelation
  | .meanReverting dt volatility speed mean => do
      let dt ← strictlyPositiveField numerics "dt" dt
      let volatility ← positiveField numerics "volatility" volatility
      let speed ← positiveField numerics "speed" speed
      let mean ← positiveField numerics "mean" mean
      return .meanReverting dt volatility speed mean
  | .jumpDiffusion dt drift volatility intensity jumpMean jumpVolatility => do
      let dt ← strictlyPositiveField numerics "dt" dt
      let drift ← decimalField numerics "drift" drift
      let volatility ← positiveField numerics "volatility" volatility
      let intensity ← positiveField numerics "intensity" intensity
      let jumpMean ← decimalField numerics "jump_mean" jumpMean
      let jumpVolatility ← positiveField numerics "jump_volatility" jumpVolatility
      return .jumpDiffusion dt drift volatility intensity jumpMean jumpVolatility
  | .garch dt drift volatility alpha beta => do
      let alphaPositive ← positiveField numerics "alpha" alpha
      let betaPositive ← positiveField numerics "beta" beta
      let sum := numerics.addF64 alpha beta
      if atLeastOne sum then
        .error (.validation "alpha"
          s!"alpha + beta must be < 1 for GARCH stationarity, got {numerics.displayF64 sum}")
      else do
        let dt ← strictlyPositiveField numerics "dt" dt
        let drift ← decimalField numerics "drift" drift
        let volatility ← positiveField numerics "volatility" volatility
        return .garch dt drift volatility alphaPositive betaPositive
  | .heston dt drift volatility kappa theta xi rho => do
      let dt ← strictlyPositiveField numerics "dt" dt
      let drift ← decimalField numerics "drift" drift
      let volatility ← positiveField numerics "volatility" volatility
      let kappa ← positiveField numerics "kappa" kappa
      let theta ← positiveField numerics "theta" theta
      let xi ← positiveField numerics "xi" xi
      let rho ← boundedDecimalField numerics "rho" rho (-1) 1
      return .heston dt drift volatility kappa theta xi rho
  | .custom dt drift volatility vov volSpeed volMean => do
      let dt ← strictlyPositiveField numerics "dt" dt
      let drift ← decimalField numerics "drift" drift
      let volatility ← positiveField numerics "volatility" volatility
      let vov ← positiveField numerics "vov" vov
      let volSpeed ← positiveField numerics "vol_speed" volSpeed
      let volMean ← positiveField numerics "vol_mean" volMean
      return .custom dt drift volatility vov volSpeed volMean
  | .telegraph dt drift volatility lambdaUp lambdaDown volMultiplierUp volMultiplierDown => do
      let dt ← strictlyPositiveField numerics "dt" dt
      let drift ← decimalField numerics "drift" drift
      let volatility ← positiveField numerics "volatility" volatility
      let lambdaUp ← positiveField numerics "lambda_up" lambdaUp
      let lambdaDown ← positiveField numerics "lambda_down" lambdaDown
      let volMultiplierUp ←
        optionalField (positiveField numerics "vol_multiplier_up") volMultiplierUp
      let volMultiplierDown ←
        optionalField (positiveField numerics "vol_multiplier_down") volMultiplierDown
      return .telegraph dt drift volatility lambdaUp lambdaDown volMultiplierUp volMultiplierDown
  | .historical timeframe prices symbol => do
      if prices.length > limits.maxHistoricalPrices then
        .error (.validation "prices"
          s!"must not exceed {limits.maxHistoricalPrices} entries, got {prices.length}")
      else do
        let _ ← optionalField (symbolField "method.symbol") symbol
        let converted ← pricesField numerics prices
        let timeframe ← timeFrameField numerics "method.timeframe" timeframe
        return .historical timeframe converted symbol

/-- A stored model is held to the checks of a requested one. -/
def validateWalkType (walk : WalkType) : Except ChainError Unit := do
  let _ ← (ApiWalkType.ofWalkType numerics walk).tryIntoWalkType numerics limits
  return ()

end Conversions

end OptionChainSimulator.Api
