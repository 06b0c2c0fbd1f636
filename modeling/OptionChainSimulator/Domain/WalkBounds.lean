import Mathlib.Tactic
import OptionChainSimulator.Foundation.AffineGrowth
import OptionChainSimulator.Domain.KernelPrices
import OptionChainSimulator.Domain.Rounding

namespace OptionChainSimulator.Domain

open Foundation Utils

/-! What a walk is reckoned with before it is taken: bounds of its draws, of the exponentials and
of the roots, from which those of every number it forms follow. -/

/-- Every number of the walk is to leave room for so many decimal places. -/
structure WalkBounds where
  places : ℕ
  precise : places ≤ 28
  /-- of the normal draws -/
  normals : ℚ
  normals_nonneg : 0 ≤ normals
  /-- of the exponentials, from above and from below -/
  growth : ℚ
  growing : 1 ≤ growth
  decay : ℚ
  decay_nonneg : 0 ≤ decay
  shrinking : decay ≤ 1
  /-- of the variances and of their roots -/
  variance : ℚ
  root : ℚ
  root_nonneg : 0 ≤ root

/-- The first so many normal draws are within a bound. -/
def NormalsWithin (bound : ℚ) (count : ℕ) (draws : Draws) : Prop :=
  ∀ index < count, |(draws.get index).normal| ≤ bound

namespace NormalsWithin

variable {bound : ℚ} {count fewer : ℕ} {draws : Draws}

theorem mono (within : NormalsWithin bound count draws) (some_fewer : fewer ≤ count) :
    NormalsWithin bound fewer draws :=
  fun index before => within index (before.trans_le some_fewer)

theorem head (within : NormalsWithin bound (count + 1) draws) : |draws.head.normal| ≤ bound :=
  within 0 (Nat.succ_pos _)

theorem tail (within : NormalsWithin bound (count + 1) draws) :
    NormalsWithin bound count draws.tail :=
  fun index before => within (index + 1) (Nat.succ_lt_succ before)

theorem drop {skipped : ℕ} (within : NormalsWithin bound (skipped + count) draws) :
    NormalsWithin bound count (draws.drop skipped) := by
  intro index before
  rw [Stream'.get_drop]
  exact within _ (by omega)

end NormalsWithin

namespace WalkBounds

variable {Chain : Type} (bounds : WalkBounds) (library : DecimalLibrary Chain)

/-- How far one rounding is off at most. -/
def error : ℚ := lastPlace bounds.places

/-- What the exact results may not exceed. -/
def top : ℚ := ceiling bounds.places

/-- Of a volatility times the root of a time, times a draw. -/
def scaled (volatility sqrtDt : ℚ) : ℚ :=
  (volatility * sqrtDt + bounds.error) * bounds.normals + bounds.error

/-- Of a draw times a volatility, times the root of a time. -/
def noise (volatility sqrtDt : ℚ) : ℚ :=
  (bounds.normals * volatility + bounds.error) * sqrtDt + bounds.error

/-- Of a drift with a diffusion. -/
def change (drift diffusion : ℚ) : ℚ := drift + bounds.error + diffusion + bounds.error

/-- What so many multiplications by exponentials leave of a first price at least. -/
def lowest (start : Positive) : ℕ → ℚ := fallen bounds.decay bounds.error start.value

/-- What they make of it at most. -/
def highest (start : Positive) : ℕ → ℚ := risen bounds.growth bounds.error start.value

/-- `exp` takes every exponent so far from zero, and answers within the bounds. -/
def Exponentials (reach : ℚ) : Prop := ∀ exponent, |exponent| ≤ reach →
  library.expFits exponent = true ∧
    bounds.decay ≤ library.exp exponent ∧ library.exp exponent ≤ bounds.growth

/-- Where every move multiplies by an exponential of such a reach. -/
structure Exponential (reach : ℚ) (start : Positive) (moves : ℕ) : Prop where
  reaches : reach ≤ bounds.top
  exponentials : bounds.Exponentials library reach
  fits : bounds.highest start moves ≤ bounds.top

section Rounding

variable {library} {left right leftBound rightBound exact bound : ℚ}

theorem error_nonneg : 0 ≤ bounds.error := lastPlace_pos.le

theorem near (rounds : library.Rounds) (small : |exact| ≤ bounds.top) :
    |library.round exact - exact| ≤ bounds.error := rounds.near bounds.precise small

theorem kept (rounds : library.Rounds) (small : |exact| ≤ bound) (fits : bound ≤ bounds.top) :
    MachineWalker.InRange (library.round exact) ∧
      |library.round exact| ≤ bound + bounds.error := by
  have off := bounds.near rounds (small.trans fits)
  refine ⟨rounds.inRange ((small.trans fits).trans ceiling_le), ?_⟩
  calc |library.round exact| = |exact + (library.round exact - exact)| := by congr 1; ring
    _ ≤ |exact| + |library.round exact - exact| := abs_add_le _ _
    _ ≤ bound + bounds.error := add_le_add small off

/-- From above a rounding adds one error at most. -/
theorem round_le {above : ℚ} (rounds : library.Rounds) (small : |exact| ≤ bound)
    (fits : bound ≤ bounds.top) (below : exact ≤ above) :
    library.round exact ≤ above + bounds.error := by
  have off := (abs_le.mp (bounds.near rounds (small.trans fits))).2
  linarith

theorem le_round {below : ℚ} (rounds : library.Rounds) (small : |exact| ≤ bound)
    (fits : bound ≤ bounds.top) (above : below ≤ exact) :
    below - bounds.error ≤ library.round exact := by
  have off := (abs_le.mp (bounds.near rounds (small.trans fits))).1
  linarith

/-- What is near a number is rounded to what is one error further from it at most. -/
theorem round_near {target off : ℚ} (rounds : library.Rounds) (small : |exact| ≤ bound)
    (fits : bound ≤ bounds.top) (close : |exact - target| ≤ off) :
    |library.round exact - target| ≤ off + bounds.error := by
  calc |library.round exact - target| = |(library.round exact - exact) + (exact - target)| := by
        congr 1
        ring
    _ ≤ |library.round exact - exact| + |exact - target| := abs_add_le _ _
    _ ≤ off + bounds.error := by linarith [bounds.near rounds (small.trans fits)]

theorem kept_mul (rounds : library.Rounds) (first : |left| ≤ leftBound)
    (second : |right| ≤ rightBound) (fits : leftBound * rightBound ≤ bounds.top) :
    MachineWalker.InRange (library.round (left * right)) ∧
      |library.round (left * right)| ≤ leftBound * rightBound + bounds.error := by
  apply bounds.kept rounds _ fits
  rw [abs_mul]
  exact mul_le_mul first second (abs_nonneg _) ((abs_nonneg _).trans first)

theorem kept_add (rounds : library.Rounds) (first : |left| ≤ leftBound)
    (second : |right| ≤ rightBound) (fits : leftBound + rightBound ≤ bounds.top) :
    MachineWalker.InRange (library.round (left + right)) ∧
      |library.round (left + right)| ≤ leftBound + rightBound + bounds.error :=
  bounds.kept rounds ((abs_add_le _ _).trans (add_le_add first second)) fits

end Rounding

section Reckoned

open MachineWalker

variable {library} {volatility sqrtDt normal drift time diffusion volatilityBound rootBound
  driftBound diffusionBound reach price exponent : ℚ}

theorem scaled_kept (rounds : library.Rounds) (volatile : |volatility| ≤ volatilityBound)
    (rooted : |sqrtDt| ≤ rootBound) (drawn : |normal| ≤ bounds.normals)
    (fits : volatilityBound * rootBound ≤ bounds.top)
    (whole : bounds.scaled volatilityBound rootBound ≤ bounds.top) :
    InRange (library.round (volatility * sqrtDt)) ∧
      InRange (library.round (library.round (volatility * sqrtDt) * normal)) ∧
      |library.round (library.round (volatility * sqrtDt) * normal)| ≤
        bounds.scaled volatilityBound rootBound := by
  have exact := bounds.error_nonneg
  obtain ⟨first, small⟩ := bounds.kept_mul rounds volatile rooted fits
  unfold scaled at whole
  obtain ⟨second, within⟩ := bounds.kept_mul rounds small drawn (by linarith)
  exact ⟨first, second, within⟩

theorem change_kept (rounds : library.Rounds) (drifted : |drift * time| ≤ driftBound)
    (diffused : |diffusion| ≤ diffusionBound)
    (fits : bounds.change driftBound diffusionBound ≤ bounds.top) :
    InRange (library.round (drift * time)) ∧
      InRange (library.round (library.round (drift * time) + diffusion)) ∧
      |library.round (library.round (drift * time) + diffusion)| ≤
        bounds.change driftBound diffusionBound := by
  have exact := bounds.error_nonneg
  have nonneg := (abs_nonneg _).trans diffused
  unfold change at fits
  obtain ⟨first, small⟩ := bounds.kept rounds drifted (by linarith)
  obtain ⟨second, within⟩ := bounds.kept_add rounds small diffused (by linarith)
  exact ⟨first, second, within⟩

/-- A price that a move multiplies by an exponential. -/
theorem product_kept {priceBound : ℚ} (rounds : library.Rounds)
    (exponentials : bounds.Exponentials library reach) (within : |exponent| ≤ reach)
    (nonneg : 0 ≤ price) (small : price ≤ priceBound)
    (fits : bounds.growth * priceBound + bounds.error ≤ bounds.top) :
    library.expFits exponent = true ∧ InRange (library.round (price * library.exp exponent)) ∧
      bounds.decay * price - bounds.error ≤ library.round (price * library.exp exponent) ∧
      0 ≤ library.round (price * library.exp exponent) ∧
      library.round (price * library.exp exponent) ≤ bounds.growth * priceBound + bounds.error := by
  have exact := bounds.error_nonneg
  obtain ⟨taken, least, most⟩ := exponentials exponent within
  have positive := bounds.decay_nonneg.trans least
  have product : 0 ≤ price * library.exp exponent := mul_nonneg nonneg positive
  have above : price * library.exp exponent ≤ bounds.growth * priceBound := by
    rw [mul_comm]
    exact mul_le_mul most small nonneg (positive.trans most)
  have below : bounds.decay * price ≤ price * library.exp exponent := by
    rw [mul_comm]
    exact mul_le_mul_of_nonneg_left least nonneg
  have bounded : |price * library.exp exponent| ≤ bounds.top := by
    rw [abs_of_nonneg product]
    linarith
  obtain ⟨lower, upper⟩ := abs_le.mp (bounds.near rounds bounded)
  refine ⟨taken, rounds.inRange (bounded.trans ceiling_le), ?_, rounds.nonneg product, ?_⟩
  · linarith
  · linarith

end Reckoned

end WalkBounds

end OptionChainSimulator.Domain
