import Mathlib.Tactic
import OptionChainSimulator.Foundation.MachineInt
import OptionChainSimulator.Utils.Error
import OptionChainSimulator.Domain.WalkType

namespace OptionChainSimulator.Api

open Foundation Utils Domain

/-! The field checks of the REST boundary, and the walk models a request may name. -/

def maxSymbolLen : Nat := 32

def defaultMaxSteps : Nat := 10000

theorem defaultMaxSteps_lt : defaultMaxSteps < u64Limit := by
  unfold defaultMaxSteps u64Limit
  omega

/-- The limits are read into a `usize`. -/
structure Limits where
  maxSteps : Nat
  maxChainSize : Nat
  maxHistoricalPrices : Nat
  maxSnapshotContracts : Nat
  stepsFit : maxSteps < u64Limit

inductive ApiTimeFrame where
  | microsecond
  | millisecond
  | second
  | minute
  | hour
  | day
  | week
  | month
  | quarter
  | year
  | custom (periodsPerYear : F64)
  deriving DecidableEq

section Fields

variable (numerics : Numerics)

def finiteField (field : String) (value : F64) : Except ChainError F64 :=
  if value.isFinite then .ok value
  else .error (.validation field s!"must be a finite number, got {numerics.displayF64 value}")

def positiveField (field : String) (value : F64) : Except ChainError Positive := do
  let value ← finiteField numerics field value
  (numerics.positiveNew value).mapError fun reason => .validation field reason

def strictlyPositiveField (field : String) (value : F64) : Except ChainError Positive := do
  let positive ← positiveField numerics field value
  if positive = .zero then
    .error (.validation field s!"must be greater than zero, got {numerics.displayF64 value}")
  else .ok positive

def decimalField (field : String) (value : F64) : Except ChainError Decimal := do
  let value ← finiteField numerics field value
  (numerics.decimalTryFrom value).mapError fun reason => .validation field reason

/-- `(min..=max).contains(&value)`; a comparison with NaN is false. -/
def F64.within (value : F64) (min max : ℚ) : Bool :=
  match value with
  | .finite value => min ≤ value ∧ value ≤ max
  | _ => false

def boundedDecimalField (field : String) (value : F64) (min max : ℚ) :
    Except ChainError Decimal := do
  let value ← finiteField numerics field value
  if F64.within value min max then decimalField numerics field value
  else
    .error (.validation field <|
      s!"must be within [{numerics.displayF64 (.finite min)}, " ++
        s!"{numerics.displayF64 (.finite max)}], got {numerics.displayF64 value}")

def timeFrameField (field : String) (value : ApiTimeFrame) : Except ChainError TimeFrame :=
  match value with
  | .custom periods => .custom <$> strictlyPositiveField numerics field periods
  | .microsecond => .ok .microsecond
  | .millisecond => .ok .millisecond
  | .second => .ok .second
  | .minute => .ok .minute
  | .hour => .ok .hour
  | .day => .ok .day
  | .week => .ok .week
  | .month => .ok .month
  | .quarter => .ok .quarter
  | .year => .ok .year

/-- `Option::map` with a fallible check, then `transpose`. -/
def optionalField {α β : Type} (check : α → Except ChainError β) :
    Option α → Except ChainError (Option β)
  | none => .ok none
  | some value => some <$> check value

end Fields

def validateSymbol (symbol : String) : Except ChainError Unit :=
  if (1 ≤ symbol.length ∧ symbol.length ≤ maxSymbolLen) ∧
      symbol.toList.all fun c => c.isAlphanum || c == '.' || c == '_' || c == '-' then
    .ok ()
  else .error (.clickHouseError s!"invalid symbol: {symbol}")

def symbolField (field symbol : String) : Except ChainError Unit :=
  (validateSymbol symbol).mapError fun error =>
    .validation field
      (match error with
      | .clickHouseError message => message
      | other => other.toString)

end OptionChainSimulator.Api
