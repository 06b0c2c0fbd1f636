import Mathlib.Tactic
import OptionChainSimulator.Infrastructure.Snapshots.Rows

namespace OptionChainSimulator.Infrastructure

open Foundation Utils Domain

/-! The decimals a column takes, and the ones that can be read from it. -/

/-- A `rust_decimal`: a mantissa of 96 bits at one of the scales up to 28. -/
def IsDecimal (value : Decimal) : Prop :=
  ∃ scale, scale ≤ decimalScale ∧ HeldAt value scale

/-- The codec on one decimal: what a `Decimal(38, 28)` can hold is stored and comes back, the
rest is refused. -/
structure CodecExact (crates : ColumnCrates) (value : Decimal) (field : String) : Prop where
  stored : ∀ raw : I128, toStorageDecimal crates value field = .ok raw ↔
    (raw.value : ℚ) = value * 10 ^ decimalScale ∧ raw.value.natAbs < 10 ^ 38
  refused : 10 ^ 38 ≤ |value * 10 ^ decimalScale| →
    ∃ message, toStorageDecimal crates value field = .error (.clickHouseError message)
  readBack : ∀ (raw : I128) (other : String), toStorageDecimal crates value field = .ok raw →
    fromStorageDecimal crates raw other = .ok value

variable {crates : ColumnCrates} {value : Decimal} {raw : I128} {field : String}

theorem isDecimal_iff : IsDecimal value ↔ scaleOf value ≤ decimalScale := by
  constructor
  · intro isDecimal
    obtain ⟨scale, small, held⟩ := isDecimal
    exact scaleOf_le held small
  · intro small
    exact ⟨scaleOf value, small, (scaleOf_held small).1⟩

theorem isDecimal_scaled (isDecimal : IsDecimal value) :
    ∃ scaled : Int, (scaled : ℚ) = value * 10 ^ decimalScale := by
  have small := isDecimal_iff.mp isDecimal
  refine ⟨mantissaOf value * 10 ^ (decimalScale - scaleOf value), ?_⟩
  push_cast
  rw [mantissaOf_eq small, mul_assoc, ← pow_add, Nat.add_sub_cancel' small]

/-- No decimal is scaled to the one number that only the negative side of an `i128` holds. -/
theorem isDecimal_ne_min (isDecimal : IsDecimal value) :
    value * 10 ^ decimalScale ≠ -(2 : ℚ) ^ 127 := by
  intro scaled
  obtain ⟨scale, small, whole, bounded⟩ := isDecimal
  have mantissa : ((value * 10 ^ scale).num : ℚ) = value * 10 ^ scale :=
    Rat.coe_int_num_of_den_eq_one whole
  have product : (value * 10 ^ scale).num * 10 ^ (decimalScale - scale) = -2 ^ 127 := by
    have split : ((value * 10 ^ scale).num * 10 ^ (decimalScale - scale) : ℚ) = -2 ^ 127 := by
      rw [mantissa, mul_assoc, ← pow_add, Nat.add_sub_cancel' small, scaled]
    exact_mod_cast split
  cases shift : decimalScale - scale with
  | zero =>
      rw [shift, pow_zero, mul_one] at product
      rw [product] at bounded
      revert bounded
      decide
  | succ shift' =>
      rw [shift, pow_succ] at product
      have fives : (5 : Int) ∣ -2 ^ 127 := by
        rw [← product]
        exact ((by decide : (5 : Int) ∣ 10).mul_left _).mul_left _
      revert fives
      decide

theorem toStorageDecimal_isOk_iff (isDecimal : IsDecimal value) :
    (∃ raw, toStorageDecimal crates value field = .ok raw) ↔
      |value * 10 ^ decimalScale| < 2 ^ 127 := by
  have small := isDecimal_iff.mp isDecimal
  constructor
  · intro stores
    obtain ⟨raw, stored⟩ := stores
    obtain ⟨-, same⟩ := toStorageDecimal_eq_ok.mp stored
    have lower : (-2 ^ 127 : ℚ) ≤ raw.value := by exact_mod_cast raw.lower
    have upper : (raw.value : ℚ) < 2 ^ 127 := by exact_mod_cast raw.upper
    rw [same] at lower upper
    exact abs_lt.mpr ⟨lt_of_le_of_ne lower (isDecimal_ne_min isDecimal).symm, upper⟩
  · intro within
    obtain ⟨scaled, same⟩ := isDecimal_scaled isDecimal
    rw [← same] at within
    obtain ⟨lower, upper⟩ := abs_lt.mp within
    have lower : -i128Limit ≤ scaled := le_of_lt (by exact_mod_cast lower)
    have upper : scaled < i128Limit := by exact_mod_cast upper
    exact ⟨⟨scaled, lower, upper⟩, toStorageDecimal_eq_ok.mpr ⟨small, same⟩⟩

theorem okOr_clickHouseError {α : Type} {stored : Option α} {message : String} {error : ChainError}
    (refused : okOr stored (.clickHouseError message) = .error error) :
    ∃ message, error = .clickHouseError message := by
  cases stored with
  | none =>
      cases refused
      exact ⟨message, rfl⟩
  | some raw => cases refused

theorem toStorageDecimal_error {error : ChainError}
    (refused : toStorageDecimal crates value field = .error error) :
    ∃ message, error = .clickHouseError message := by
  unfold toStorageDecimal at refused
  split_ifs at refused with beyond
  · cases refused
    exact ⟨_, rfl⟩
  · obtain refused | ⟨factor, -, refused⟩ := bind_eq_error.mp refused
    · exact okOr_clickHouseError refused
    · exact okOr_clickHouseError refused

theorem fromStorageDecimal_isOk_iff :
    (∃ read, fromStorageDecimal crates raw field = .ok read) ↔
      IsDecimal (raw.value / 10 ^ decimalScale) := by
  have scaled : (raw.value : ℚ) = raw.value / 10 ^ decimalScale * 10 ^ decimalScale :=
    (div_mul_cancel₀ _ (by norm_num)).symm
  constructor
  · intro reads
    obtain ⟨read, stored⟩ := reads
    have again : toStorageDecimal crates read field = .ok raw :=
      toStorageDecimal_of_fromStorageDecimal stored
    obtain ⟨small, same⟩ := toStorageDecimal_eq_ok.mp again
    rw [same, mul_div_cancel_right₀ _ (by norm_num)]
    exact isDecimal_iff.mpr small
  · intro isDecimal
    exact ⟨_, fromStorageDecimal_of_value (isDecimal_iff.mp isDecimal) scaled⟩

theorem natAbs_lt_iff (same : (raw.value : ℚ) = value * 10 ^ decimalScale) :
    raw.value.natAbs < 10 ^ 38 ↔ |value * 10 ^ decimalScale| < 10 ^ 38 := by
  rw [← same, ← Int.cast_abs, Int.abs_eq_natAbs]
  norm_cast

/-- The check for an overflow of 128 bits lets through what lies between the 38 digits of the
column and the 128 bits, and is right about every other decimal. -/
theorem decimal_codec_exact_iff (isDecimal : IsDecimal value) :
    (CodecExact crates value field ↔
      |value * 10 ^ decimalScale| < 10 ^ 38 ∨ 2 ^ 127 ≤ |value * 10 ^ decimalScale|) ∧
    ∀ (raw : I128) (other : String),
      (∃ read, fromStorageDecimal crates raw other = .ok read) ↔
        IsDecimal (raw.value / 10 ^ decimalScale) := by
  have stores : (∃ raw, toStorageDecimal crates value field = .ok raw) ↔ _ :=
    toStorageDecimal_isOk_iff isDecimal
  refine ⟨⟨?_, ?_⟩, fun raw other => fromStorageDecimal_isOk_iff⟩
  · intro exact
    rw [or_iff_not_imp_right, not_le]
    intro fits
    obtain ⟨raw, stored⟩ := stores.mpr fits
    obtain ⟨same, digits⟩ := (exact.stored raw).mp stored
    exact (natAbs_lt_iff same).mp digits
  · intro apart
    refine ⟨?_, ?_, fun raw other stored => fromStorageDecimal_of_toStorageDecimal stored⟩
    · intro raw
      constructor
      · intro stored
        have same := (toStorageDecimal_eq_ok.mp stored).2
        have digits := apart.resolve_right (not_le.mpr (stores.mp ⟨raw, stored⟩))
        exact ⟨same, (natAbs_lt_iff same).mpr digits⟩
      · rintro ⟨same, -⟩
        exact toStorageDecimal_eq_ok.mpr ⟨isDecimal_iff.mp isDecimal, same⟩
    · intro large
      cases result : toStorageDecimal crates value field with
      | error error =>
          obtain ⟨message, rfl⟩ := toStorageDecimal_error result
          exact ⟨message, rfl⟩
      | ok raw =>
          have fits := stores.mp ⟨raw, result⟩
          obtain small | beyond := apart
          · exact absurd small (not_lt.mpr large)
          · exact absurd fits (not_lt.mpr beyond)

theorem isDecimal_whole {whole : Nat} (small : whole < 2 ^ 96) : IsDecimal whole := by
  refine ⟨0, Nat.zero_le _, ?_⟩
  unfold HeldAt
  rw [pow_zero, mul_one]
  exact ⟨Rat.den_natCast whole, by rwa [Rat.num_natCast, Int.natAbs_natCast]⟩

theorem decimal_codec_exact_iff_hundred : CodecExact exactCrates 100 "strike" := by
  have isDecimal : IsDecimal 100 := @isDecimal_whole 100 (by decide)
  exact (decimal_codec_exact_iff isDecimal).1.mpr (.inl (by norm_num [decimalScale]))

/-- Ten billion needs 39 digits in the column and is stored all the same. -/
theorem ten_billion_is_stored :
    IsDecimal 10000000000 ∧
      (toStorageDecimal exactCrates 10000000000 "strike").map SignedInt.value = .ok (10 ^ 38) ∧
      ¬ CodecExact exactCrates 10000000000 "strike" := by
  have stored : (toStorageDecimal exactCrates 10000000000 "strike").map SignedInt.value =
      .ok (10 ^ 38) := by decide +kernel
  refine ⟨@isDecimal_whole 10000000000 (by decide), stored, ?_⟩
  intro exact
  cases result : toStorageDecimal exactCrates 10000000000 "strike" with
  | error error =>
      rw [result] at stored
      cases stored
  | ok raw =>
      obtain ⟨same, digits⟩ := (exact.stored raw).mp result
      rw [natAbs_lt_iff same] at digits
      norm_num [decimalScale] at digits

end OptionChainSimulator.Infrastructure
