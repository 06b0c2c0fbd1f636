import Mathlib.Tactic
import Mathlib.Data.Rat.Defs
import OptionChainSimulator.Foundation.MachineInt

namespace OptionChainSimulator.Domain

/-! The number types of the service: JSON floats at the boundary, decimals and
non-negative decimals inside. -/

/-- `rust_decimal::Decimal` without its rounding: exact arithmetic within the
range of a 96-bit mantissa. -/
abbrev Decimal := ℚ

def decimalMax : Decimal := 2 ^ 96 - 1

namespace Decimal

/-- The value, if a decimal is large enough to hold it. -/
def checked (value : ℚ) : Option Decimal :=
  if -decimalMax ≤ value ∧ value ≤ decimalMax then some value else none

def checkedDiv (dividend divisor : Decimal) : Option Decimal :=
  if divisor = 0 then none else checked (dividend / divisor)

theorem checked_eq_some {value result : ℚ} :
    checked value = some result ↔
      (-decimalMax ≤ value ∧ value ≤ decimalMax) ∧ result = value := by
  unfold checked
  split_ifs with fits
  · simp [fits, eq_comm]
  · simp [fits]

theorem checkedDiv_eq_some {dividend divisor : Decimal} {result : Decimal} :
    checkedDiv dividend divisor = some result ↔
      divisor ≠ 0 ∧ (-decimalMax ≤ dividend / divisor ∧ dividend / divisor ≤ decimalMax) ∧
        result = dividend / divisor := by
  unfold checkedDiv
  split_ifs with zero
  · simp [zero]
  · simp [zero, checked_eq_some]

end Decimal

/-- `positive::Positive`: a decimal that is not negative. -/
structure Positive where
  value : Decimal
  nonneg : 0 ≤ value
  deriving DecidableEq

def Positive.zero : Positive := ⟨0, le_refl 0⟩

def Positive.ratio (numerator denominator : Nat) : Positive :=
  ⟨numerator / denominator, div_nonneg (Nat.cast_nonneg _) (Nat.cast_nonneg _)⟩

/-- A double.  A finite one is the rational number it denotes. -/
inductive F64 where
  | nan
  | infinite (negative : Bool)
  | finite (value : ℚ)
  deriving DecidableEq

def F64.isFinite : F64 → Bool
  | .finite _ => true
  | _ => false

/-- The conversions between doubles and decimals, the rounding of an exact result to
a double, and the `Display` forms that error texts quote. -/
structure Numerics where
  rounded : ℚ → F64
  toF64 : Decimal → F64
  decimalTryFrom : F64 → Except String Decimal
  positiveNew : F64 → Except String Positive
  displayF64 : F64 → String
  displayPositive : Positive → String

namespace Numerics

variable (numerics : Numerics)

def positiveToF64 (value : Positive) : F64 := numerics.toF64 value.value

/-- `decimal.to_f64().unwrap_or(0.0)`; a decimal always has a nearest double. -/
def decimalToF64 (value : Decimal) : F64 := numerics.toF64 value

def addF64 (left right : F64) : F64 :=
  match left, right with
  | .finite left, .finite right => numerics.rounded (left + right)
  | .infinite left, .infinite right => if left = right then .infinite left else .nan
  | .infinite negative, .finite _ => .infinite negative
  | .finite _, .infinite negative => .infinite negative
  | _, _ => .nan

/-- `round`: to the nearest whole number, a half away from zero. -/
def roundHalfAway (value : ℚ) : Int :=
  if 0 ≤ value then ⌊value + 1 / 2⌋ else ⌈value - 1 / 2⌉

end Numerics

end OptionChainSimulator.Domain
