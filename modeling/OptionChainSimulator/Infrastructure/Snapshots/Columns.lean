import Mathlib.Tactic
import OptionChainSimulator.Utils.Error
import OptionChainSimulator.Utils.Uuid
import OptionChainSimulator.Domain.Chrono
import OptionChainSimulator.Domain.Numeric

namespace OptionChainSimulator.Infrastructure

open Foundation Utils Domain

/-! The columns of the snapshot tables: decimals at one scale, instants as nanoseconds. -/

def decimalScale : Nat := 28

/-- The crates behind the columns: `Uuid::new_v5`, `Display` for a decimal and for the error
of a decimal out of range, `Positive::new_decimal`. -/
structure ColumnCrates where
  newV5 : Uuid → String → Uuid
  displayDecimal : Decimal → String
  displayOutOfRange : Int → Nat → String
  positiveNewDecimal : Decimal → Except String Positive

/-- `Positive::new_decimal` takes every decimal that is not negative. -/
def ColumnCrates.Accepts (crates : ColumnCrates) : Prop :=
  ∀ value (nonneg : 0 ≤ value), crates.positiveNewDecimal value = .ok ⟨value, nonneg⟩

/-- `Positive::new_decimal` takes exactly the decimals that are not negative, as they are. -/
def ColumnCrates.Exact (crates : ColumnCrates) : Prop :=
  ∀ value positive, crates.positiveNewDecimal value = .ok positive ↔ positive.value = value

theorem ColumnCrates.Exact.accepts {crates : ColumnCrates} (exact : crates.Exact) :
    crates.Accepts :=
  fun value nonneg => (exact value ⟨value, nonneg⟩).mpr rfl

section Decimals

/-- A mantissa of 96 bits holds the value at this scale. -/
def HeldAt (value : Decimal) (scale : Nat) : Prop :=
  (value * 10 ^ scale).den = 1 ∧ (value * 10 ^ scale).num.natAbs < 2 ^ 96

instance (value : Decimal) : DecidablePred (HeldAt value) :=
  fun _ => inferInstanceAs (Decidable (_ ∧ _))

/-- The least scale of the value, above 28 for a number that is no `rust_decimal`. -/
def scaleOf (value : Decimal) : Nat :=
  ((List.range (decimalScale + 1)).find? fun scale => HeldAt value scale).getD (decimalScale + 1)

def mantissaOf (value : Decimal) : Int := (value * 10 ^ scaleOf value).num

def toStorageDecimal (crates : ColumnCrates) (value : Decimal) (field : String) :
    Except ChainError I128 := do
  if decimalScale < scaleOf value then
    throw (.clickHouseError
      s!"{field} has scale {scaleOf value} beyond the storable {decimalScale}")
  let factor ← okOr (signed? i128Limit (10 ^ (decimalScale - scaleOf value)))
    (.clickHouseError s!"{field} needs an unrepresentable scale factor")
  okOr (SignedInt.ofInt? i128Limit (mantissaOf value * factor))
    (.clickHouseError <|
      s!"{field} value {crates.displayDecimal value} does not fit a Decimal(38," ++
        s!" {decimalScale}) column")

/-- Trailing zeros go while there is scale left. -/
def stripZeros : Int → Nat → Int × Nat
  | mantissa, 0 => (mantissa, 0)
  | mantissa, scale + 1 =>
      if Int.tmod mantissa 10 = 0 then stripZeros (Int.tdiv mantissa 10) scale
      else (mantissa, scale + 1)

/-- `Decimal::try_from_i128_with_scale`. -/
def tryFromI128WithScale (crates : ColumnCrates) (num : Int) (scale : Nat) :
    Except String Decimal :=
  if num.natAbs < 2 ^ 96 ∧ scale ≤ 28 then .ok (num / 10 ^ scale)
  else .error (crates.displayOutOfRange num scale)

def fromStorageDecimal (crates : ColumnCrates) (raw : I128) (field : String) :
    Except ChainError Decimal :=
  let stripped := stripZeros raw.value decimalScale
  (tryFromI128WithScale crates stripped.1 stripped.2).mapError fun error =>
    .clickHouseError s!"{field} holds an unreadable decimal: {error}"

def toStoragePositive (crates : ColumnCrates) (value : Positive) (field : String) :
    Except ChainError I128 :=
  toStorageDecimal crates value.value field

def fromStoragePositive (crates : ColumnCrates) (raw : I128) (field : String) :
    Except ChainError Positive := do
  let value ← fromStorageDecimal crates raw field
  (crates.positiveNewDecimal value).mapError fun error =>
    .clickHouseError s!"{field} holds a non-positive value: {error}"

def toStorageOptional (crates : ColumnCrates) (value : Option Decimal) (field : String) :
    Except ChainError (Option I128) :=
  value.mapM fun value => toStorageDecimal crates value field

def toStorageOptionalPositive (crates : ColumnCrates) (value : Option Positive)
    (field : String) : Except ChainError (Option I128) :=
  value.mapM fun value => toStoragePositive crates value field

def fromStorageOptional (crates : ColumnCrates) (raw : Option I128) (field : String) :
    Except ChainError (Option Decimal) :=
  raw.mapM fun raw => fromStorageDecimal crates raw field

def fromStorageOptionalPositive (crates : ColumnCrates) (raw : Option I128) (field : String) :
    Except ChainError (Option Positive) :=
  raw.mapM fun raw => fromStoragePositive crates raw field

end Decimals

def toStorageInstant (value : UtcDateTime) (field : String) : Except ChainError I64 :=
  okOr value.timestampNanosOpt
    (.clickHouseError
      s!"{field} instant {value.utcToString} is outside the storable 1678-2262 range")

def fromStorageInstant (raw : I64) : UtcDateTime := NaiveDateTime.fromTimestampNanos raw

def toStorageCount (value : Nat) (field : String) : Except ChainError Nat :=
  okOr (unsigned? u64Limit value) (.validation field s!"{value} does not fit a UInt64 column")

/-! What a column holds, and that it gives back the value it was written for. -/

section RoundTrips

variable {crates : ColumnCrates} {value : Decimal} {raw : I128} {field : String}

theorem scaleOf_eq {scale : Nat} :
    scaleOf value = scale ∧ scale ≤ decimalScale ↔
      HeldAt value scale ∧ scale ≤ decimalScale ∧ ∀ smaller < scale, ¬ HeldAt value smaller := by
  unfold scaleOf
  cases found : (List.range (decimalScale + 1)).find? fun scale => HeldAt value scale with
  | none =>
      rw [List.find?_eq_none] at found
      constructor
      · rintro ⟨rfl, impossible⟩
        exact absurd impossible (Nat.not_succ_le_self decimalScale)
      · rintro ⟨held, small, -⟩
        exact absurd (decide_eq_true held) (found scale
          (List.mem_range.mpr (Nat.lt_succ_of_le small)))
  | some least =>
      rw [List.find?_range_eq_some] at found
      obtain ⟨held, small, minimal⟩ := found
      have held := of_decide_eq_true held
      have minimal : ∀ smaller < least, ¬ HeldAt value smaller := by
        intro smaller below
        simpa using minimal smaller below
      have small := List.mem_range.mp small
      constructor
      · rintro ⟨rfl, fits⟩
        exact ⟨held, fits, minimal⟩
      · rintro ⟨other, fits, least'⟩
        obtain below | same | above := lt_trichotomy least scale
        · exact absurd held (least' least below)
        · exact ⟨same, fits⟩
        · exact absurd other (minimal scale above)

theorem scaleOf_held (small : scaleOf value ≤ decimalScale) :
    HeldAt value (scaleOf value) ∧ ∀ smaller < scaleOf value, ¬ HeldAt value smaller := by
  obtain ⟨held, -, minimal⟩ := scaleOf_eq.mp ⟨rfl, small⟩
  exact ⟨held, minimal⟩

theorem mantissaOf_eq (small : scaleOf value ≤ decimalScale) :
    (mantissaOf value : ℚ) = value * 10 ^ scaleOf value :=
  Rat.coe_int_num_of_den_eq_one (scaleOf_held small).1.1

theorem heldAt_of_whole {scale larger : Nat} {mantissa : Int}
    (whole : value * 10 ^ scale = mantissa) (le : scale ≤ larger) (held : HeldAt value larger) :
    HeldAt value scale := by
  have scaled : value * 10 ^ larger = ((mantissa * 10 ^ (larger - scale) : Int) : ℚ) := by
    rw [← Nat.add_sub_cancel' le, pow_add, ← mul_assoc, whole]
    push_cast
    rw [Nat.add_sub_cancel_left]
  have small := held.2
  rw [scaled, Rat.num_intCast, Int.natAbs_mul] at small
  refine ⟨by rw [whole, Rat.den_intCast], ?_⟩
  rw [whole, Rat.num_intCast]
  apply lt_of_le_of_lt _ small
  apply Nat.le_mul_of_pos_right
  rw [Int.natAbs_pow]
  exact Nat.pow_pos (by decide)

theorem toStorageDecimal_eq_ok :
    toStorageDecimal crates value field = .ok raw ↔
      scaleOf value ≤ decimalScale ∧ (raw.value : ℚ) = value * 10 ^ decimalScale := by
  unfold toStorageDecimal
  split_ifs with beyond
  · constructor
    · intro impossible
      cases impossible
    · rintro ⟨small, -⟩
      exact absurd beyond (not_lt.mpr small)
  · have small := not_lt.mp beyond
    have factor : signed? i128Limit (10 ^ (decimalScale - scaleOf value)) =
        some (10 ^ (decimalScale - scaleOf value)) := by
      apply signed?_eq_some.mpr
      refine ⟨⟨?_, ?_⟩, rfl⟩
      · exact le_trans (by decide) (pow_nonneg (by decide) _)
      · apply lt_of_le_of_lt (pow_le_pow_right₀ (by decide) (Nat.sub_le decimalScale _))
        decide
    have scaled : ((mantissaOf value * 10 ^ (decimalScale - scaleOf value) : Int) : ℚ) =
        value * 10 ^ decimalScale := by
      push_cast
      rw [mantissaOf_eq small, mul_assoc, ← pow_add, Nat.add_sub_cancel' small]
    rw [factor]
    change okOr (SignedInt.ofInt? i128Limit
      (mantissaOf value * 10 ^ (decimalScale - scaleOf value))) _ = _ ↔ _
    rw [okOr_eq_ok, SignedInt.ofInt?_eq_some, ← scaled, Int.cast_inj]
    exact (and_iff_right small).symm

theorem stripZeros_mul_pow (mantissa : Int) (extra scale : Nat) :
    stripZeros (mantissa * 10 ^ extra) (scale + extra) = stripZeros mantissa scale := by
  induction extra with
  | zero => rw [pow_zero, mul_one, Nat.add_zero]
  | succ extra ih =>
      rw [← Nat.add_assoc, stripZeros, pow_succ, ← mul_assoc, Int.mul_tmod_left, if_pos rfl,
        Int.mul_tdiv_cancel _ (by decide), ih]

theorem stripZeros_value (mantissa : Int) (scale : Nat) :
    ((stripZeros mantissa scale).1 : ℚ) / 10 ^ (stripZeros mantissa scale).2 =
      mantissa / 10 ^ scale ∧ (stripZeros mantissa scale).2 ≤ scale := by
  induction scale generalizing mantissa with
  | zero => exact ⟨rfl, le_refl 0⟩
  | succ scale ih =>
      rw [stripZeros]
      split_ifs with round
      · obtain ⟨same, small⟩ := ih (Int.tdiv mantissa 10)
        have whole : (mantissa : ℚ) = (Int.tdiv mantissa 10 : Int) * 10 := by
          exact_mod_cast (Int.tdiv_mul_cancel (Int.dvd_of_tmod_eq_zero round)).symm
        refine ⟨?_, small.trans (Nat.le_succ scale)⟩
        rw [same, whole, pow_succ]
        exact (mul_div_mul_right _ _ (by norm_num)).symm
      · exact ⟨rfl, le_refl _⟩

theorem value_of_fromStorageDecimal (read : fromStorageDecimal crates raw field = .ok value) :
    (raw.value : ℚ) = value * 10 ^ decimalScale := by
  obtain ⟨kept, -⟩ := stripZeros_value raw.value decimalScale
  have read := mapError_eq_ok.mp read
  unfold tryFromI128WithScale at read
  split_ifs at read
  cases read
  rw [kept, div_mul_cancel₀ _ (by norm_num)]

theorem fromStorageDecimal_of_value (small : scaleOf value ≤ decimalScale)
    (stored : (raw.value : ℚ) = value * 10 ^ decimalScale) :
    fromStorageDecimal crates raw field = .ok value := by
  obtain ⟨held, minimal⟩ := scaleOf_held small
  have mantissa := mantissaOf_eq small
  have whole : raw.value = mantissaOf value * 10 ^ (decimalScale - scaleOf value) := by
    have scaled : (raw.value : ℚ) =
        ((mantissaOf value * 10 ^ (decimalScale - scaleOf value) : Int) : ℚ) := by
      push_cast
      rw [stored, mantissa, mul_assoc, ← pow_add, Nat.add_sub_cancel' small]
    exact_mod_cast scaled
  -- The least scale leaves no zero to strip.
  have least : stripZeros (mantissaOf value) (scaleOf value) =
      (mantissaOf value, scaleOf value) := by
    cases least : scaleOf value with
    | zero => rfl
    | succ scale =>
        rw [stripZeros, if_neg]
        intro round
        rw [least] at held minimal mantissa
        refine minimal scale (Nat.lt_succ_self scale) (@heldAt_of_whole value scale (scale + 1)
          (Int.tdiv (mantissaOf value) 10) ?_ (Nat.le_succ scale) held)
        have tens : ((Int.tdiv (mantissaOf value) 10 * 10 : Int) : ℚ) = mantissaOf value := by
          exact_mod_cast Int.tdiv_mul_cancel (Int.dvd_of_tmod_eq_zero round)
        push_cast at tens
        rw [mantissa, pow_succ, ← mul_assoc] at tens
        exact (mul_right_cancel₀ (by norm_num) tens).symm
  have stripped : stripZeros raw.value decimalScale = (mantissaOf value, scaleOf value) := by
    have split := stripZeros_mul_pow (mantissaOf value) (decimalScale - scaleOf value)
      (scaleOf value)
    rw [Nat.add_sub_cancel' small, ← whole] at split
    rw [split, least]
  unfold fromStorageDecimal tryFromI128WithScale
  rw [stripped]
  refine mapError_eq_ok.mpr ((if_pos ⟨held.2, small⟩).trans ?_)
  rw [mantissa, mul_div_cancel_right₀ _ (by norm_num)]

theorem fromStorageDecimal_of_toStorageDecimal {other : String}
    (stored : toStorageDecimal crates value other = .ok raw) :
    fromStorageDecimal crates raw field = .ok value := by
  obtain ⟨small, same⟩ := toStorageDecimal_eq_ok.mp stored
  exact fromStorageDecimal_of_value small same

theorem fromStoragePositive_of_toStoragePositive (accepts : crates.Accepts) {value : Positive}
    {other : String} (stored : toStoragePositive crates value other = .ok raw) :
    fromStoragePositive crates raw field = .ok value := by
  apply bind_eq_ok.mpr
  exact ⟨value.value, fromStorageDecimal_of_toStorageDecimal stored,
    mapError_eq_ok.mpr (accepts value.value value.nonneg)⟩

theorem scaleOf_le {scale : Nat} (held : HeldAt value scale) (small : scale ≤ decimalScale) :
    scaleOf value ≤ decimalScale := by
  unfold scaleOf
  cases found : (List.range (decimalScale + 1)).find? fun scale => HeldAt value scale with
  | none =>
      rw [List.find?_eq_none] at found
      exact absurd (decide_eq_true held) (found scale
        (List.mem_range.mpr (Nat.lt_succ_of_le small)))
  | some least =>
      rw [List.find?_range_eq_some] at found
      exact Nat.le_of_lt_succ (List.mem_range.mp found.2.1)

theorem toStorageDecimal_of_fromStorageDecimal {other : String}
    (read : fromStorageDecimal crates raw field = .ok value) :
    toStorageDecimal crates value other = .ok raw := by
  apply toStorageDecimal_eq_ok.mpr
  refine ⟨?_, value_of_fromStorageDecimal read⟩
  have read := mapError_eq_ok.mp read
  unfold tryFromI128WithScale at read
  split_ifs at read with fits
  cases read
  apply scaleOf_le _ fits.2
  have whole : ((stripZeros raw.value decimalScale).1 / 10 ^ (stripZeros raw.value decimalScale).2 *
      10 ^ (stripZeros raw.value decimalScale).2 : ℚ) = (stripZeros raw.value decimalScale).1 :=
    div_mul_cancel₀ _ (by norm_num)
  unfold HeldAt
  rw [whole, Rat.den_intCast, Rat.num_intCast]
  exact ⟨rfl, fits.1⟩

theorem toStoragePositive_of_fromStoragePositive (exact : crates.Exact) (other : String)
    {value : Positive} (read : fromStoragePositive crates raw field = .ok value) :
    toStoragePositive crates value other = .ok raw := by
  obtain ⟨decimal, stored, positive⟩ := bind_eq_ok.mp read
  obtain rfl := (exact decimal value).mp (mapError_eq_ok.mp positive)
  exact toStorageDecimal_of_fromStorageDecimal stored

theorem optionMapM_inverse {ε α β : Type} {store : α → Except ε β} {read : β → Except ε α}
    (inverse : ∀ value raw, store value = .ok raw → read raw = .ok value) {value : Option α}
    {raw : Option β} (stored : value.mapM store = .ok raw) : raw.mapM read = .ok value := by
  cases value with
  | none =>
      cases stored
      rfl
  | some value =>
      obtain ⟨inner, innerStored, rfl⟩ := map_eq_ok.mp stored
      exact map_eq_ok.mpr ⟨value, inverse value inner innerStored, rfl⟩

theorem fromStorageOptional_of_toStorageOptional {value : Option Decimal} {raw : Option I128}
    {other : String} (stored : toStorageOptional crates value other = .ok raw) :
    fromStorageOptional crates raw field = .ok value :=
  optionMapM_inverse (fun _ _ => fromStorageDecimal_of_toStorageDecimal) stored

theorem fromStorageOptionalPositive_of_toStorageOptionalPositive (accepts : crates.Accepts)
    {value : Option Positive} {raw : Option I128} {other : String}
    (stored : toStorageOptionalPositive crates value other = .ok raw) :
    fromStorageOptionalPositive crates raw field = .ok value :=
  optionMapM_inverse (fun _ _ => fromStoragePositive_of_toStoragePositive accepts) stored

theorem fromStorageInstant_eq_iff {value : UtcDateTime} {raw : I64}
    (stored : toStorageInstant value field = .ok raw) :
    fromStorageInstant raw = value ↔ ¬ value.time.InLeapSecond :=
  NaiveDateTime.fromTimestampNanos_eq_iff (okOr_eq_ok.mp stored)

theorem toStorageInstant_fromStorageInstant (raw : I64) :
    toStorageInstant (fromStorageInstant raw) field = .ok raw :=
  okOr_eq_ok.mpr (NaiveDateTime.timestampNanosOpt_fromTimestampNanos raw)

theorem fromStorageInstant_injective : Function.Injective fromStorageInstant :=
  NaiveDateTime.fromTimestampNanos_injective

theorem fromStorageInstant_le {left right : I64} (le : left ≤ right) :
    fromStorageInstant left ≤ fromStorageInstant right := by
  obtain below | rfl := lt_or_eq_of_le le
  · exact (NaiveDateTime.fromTimestampNanos_lt_iff.mpr below).le
  · exact le_refl _

end RoundTrips

end OptionChainSimulator.Infrastructure
