import Mathlib.Tactic
import OptionChainSimulator.Domain.Numeric

namespace OptionChainSimulator.Domain

/-! The stochastic models a simulation can be driven by. -/

inductive TimeFrame where
  | microsecond
  | millisecond
  | second
  | minute
  | hour
  | day
  | week
  | month
  | quarter
  | year
  | custom (periodsPerYear : Positive)
  deriving DecidableEq

inductive WalkType where
  | brownian (dt : Positive) (drift : Decimal) (volatility : Positive)
  | geometricBrownian (dt : Positive) (drift : Decimal) (volatility : Positive)
  | logReturns (dt : Positive) (expectedReturn : Decimal) (volatility : Positive)
      (autocorrelation : Option Decimal)
  | meanReverting (dt volatility speed mean : Positive)
  | jumpDiffusion (dt : Positive) (drift : Decimal) (volatility intensity : Positive)
      (jumpMean : Decimal) (jumpVolatility : Positive)
  | garch (dt : Positive) (drift : Decimal) (volatility alpha beta : Positive)
  | heston (dt : Positive) (drift : Decimal) (volatility kappa theta xi : Positive)
      (rho : Decimal)
  | custom (dt : Positive) (drift : Decimal) (volatility vov volSpeed volMean : Positive)
  | telegraph (dt : Positive) (drift : Decimal) (volatility lambdaUp lambdaDown : Positive)
      (volMultiplierUp volMultiplierDown : Option Positive)
  | historical (timeframe : TimeFrame) (prices : List Positive) (symbol : Option String)
  deriving DecidableEq

abbrev SimulationMethod := WalkType

/-- The volatility the model carries; a historical series carries none. -/
def WalkType.volatility : WalkType → Option Positive
  | .brownian _ _ volatility => some volatility
  | .geometricBrownian _ _ volatility => some volatility
  | .logReturns _ _ volatility _ => some volatility
  | .meanReverting _ volatility _ _ => some volatility
  | .jumpDiffusion _ _ volatility _ _ _ => some volatility
  | .garch _ _ volatility _ _ => some volatility
  | .heston _ _ volatility _ _ _ _ => some volatility
  | .custom _ _ volatility _ _ _ => some volatility
  | .telegraph _ _ volatility _ _ _ _ => some volatility
  | .historical _ _ _ => none

end OptionChainSimulator.Domain
