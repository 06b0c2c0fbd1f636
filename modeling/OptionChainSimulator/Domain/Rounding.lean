import Mathlib.Tactic
import OptionChainSimulator.Domain.KernelRange

namespace OptionChainSimulator.Domain

/-! How far a rounded result is from the exact one, below a ceiling. -/

/-- Decimals are the numbers of at most twenty-eight places and ninety-six bits; rounding to them
keeps each of them and the order. -/
structure DecimalLibrary.Rounds {Chain : Type} (library : DecimalLibrary Chain) : Prop where
  mono : Monotone library.round
  keeps : ∀ (mantissa : ℤ) (places : ℕ), |(mantissa : ℚ)| ≤ decimalMax → places ≤ 28 →
    library.round (mantissa / 10 ^ places) = mantissa / 10 ^ places

/-- One unit in the last of so many places. -/
def lastPlace (places : ℕ) : ℚ := 1 / 10 ^ places

/-- The largest decimal of so many places. -/
def ceiling (places : ℕ) : ℚ := decimalMax / 10 ^ places

section Rounded

variable {Chain : Type} {library : DecimalLibrary Chain} {places : ℕ} {exact : ℚ}

theorem lastPlace_pos : 0 < lastPlace places := by
  unfold lastPlace
  positivity

theorem ceiling_le : ceiling places ≤ decimalMax := by
  unfold ceiling decimalMax
  apply div_le_self (by norm_num)
  exact one_le_pow₀ (by norm_num)

/-- Below a ceiling of so many places a rounding errs by less than one unit of the last. -/
theorem DecimalLibrary.Rounds.near (rounds : library.Rounds) (precise : places ≤ 28)
    (small : |exact| ≤ ceiling places) : |library.round exact - exact| ≤ lastPlace places := by
  have scale : (0 : ℚ) < 10 ^ places := by positivity
  obtain ⟨above, below⟩ := abs_le.mp small
  rw [ceiling, ← neg_div, div_le_iff₀ scale] at above
  rw [ceiling, le_div_iff₀ scale] at below
  have bound : (decimalMax : ℚ) = ((2 ^ 96 - 1 : ℤ) : ℚ) := by
    unfold decimalMax
    norm_num
  rw [bound] at above below
  rw [← Int.cast_neg] at above
  -- the decimals on either side
  have floorLow : (-(2 ^ 96 - 1) : ℤ) ≤ ⌊exact * 10 ^ places⌋ := Int.le_floor.mpr above
  have ceilHigh : ⌈exact * 10 ^ places⌉ ≤ (2 ^ 96 - 1 : ℤ) := Int.ceil_le.mpr below
  have floorCeil := Int.floor_le_ceil (exact * 10 ^ places)
  have floorFits : |((⌊exact * 10 ^ places⌋ : ℤ) : ℚ)| ≤ decimalMax := by
    rw [bound, ← Int.cast_abs, Int.cast_le, abs_le]
    exact ⟨floorLow, floorCeil.trans ceilHigh⟩
  have ceilFits : |((⌈exact * 10 ^ places⌉ : ℤ) : ℚ)| ≤ decimalMax := by
    rw [bound, ← Int.cast_abs, Int.cast_le, abs_le]
    exact ⟨floorLow.trans floorCeil, ceilHigh⟩
  have lower := rounds.mono (show (⌊exact * 10 ^ places⌋ : ℚ) / 10 ^ places ≤ exact by
    rw [div_le_iff₀ scale]
    exact Int.floor_le _)
  have upper := rounds.mono (show exact ≤ (⌈exact * 10 ^ places⌉ : ℚ) / 10 ^ places by
    rw [le_div_iff₀ scale]
    exact Int.le_ceil _)
  rw [rounds.keeps _ _ floorFits precise, div_le_iff₀ scale] at lower
  rw [rounds.keeps _ _ ceilFits precise, le_div_iff₀ scale] at upper
  have floorNear := Int.lt_floor_add_one (exact * 10 ^ places)
  have ceilNear := Int.ceil_lt_add_one (exact * 10 ^ places)
  rw [lastPlace, abs_le, ← neg_div, div_le_iff₀ scale, le_div_iff₀ scale, sub_mul]
  constructor
  · linarith
  · linarith

theorem DecimalLibrary.Rounds.inRange (rounds : library.Rounds) (small : |exact| ≤ decimalMax) :
    MachineWalker.InRange (library.round exact) := by
  have greatest : library.round decimalMax = decimalMax := by
    have kept := rounds.keeps (2 ^ 96 - 1) 0 (by norm_num [decimalMax]) (Nat.zero_le _)
    norm_num at kept
    norm_num [decimalMax, kept]
  have least : library.round (-decimalMax) = -decimalMax := by
    have kept := rounds.keeps (-(2 ^ 96 - 1)) 0 (by norm_num [decimalMax]) (Nat.zero_le _)
    norm_num at kept
    norm_num [decimalMax, kept]
  obtain ⟨above, below⟩ := abs_le.mp small
  exact ⟨least ▸ rounds.mono above, greatest ▸ rounds.mono below⟩

theorem DecimalLibrary.Rounds.nonneg (rounds : library.Rounds) (nonneg : 0 ≤ exact) :
    0 ≤ library.round exact := by
  have zero := rounds.keeps 0 0 (by unfold decimalMax; norm_num) (Nat.zero_le _)
  have kept := rounds.mono nonneg
  simp only [Int.cast_zero, zero_div] at zero
  rwa [zero] at kept

end Rounded

end OptionChainSimulator.Domain
