import Mathlib.Tactic
import OptionChainSimulator.Foundation.Recurrence
import OptionChainSimulator.Domain.WalkPaths

namespace OptionChainSimulator.Domain

open Foundation Utils

/-! The Ornstein-Uhlenbeck process of the kernels beside the Euler scheme it stands for. -/

namespace Walker

section Schemes

variable (mu theta volatility dt sqrtDt : Positive) (draws : Draws)

/-- A step of the Euler scheme, clamped at zero. -/
def eulerStep (step : Nat) (x : Decimal) : Decimal :=
  max 0 (x + theta.value * (mu.value - x) * dt.value +
    volatility.value * sqrtDt.value * (draws.get step).normal)

/-- A step of the kernel, whose drift is cut off above the mean. -/
def ouStep (step : Nat) (x : Decimal) : Decimal :=
  max (x + (theta.value * max (mu.value - x) 0 * dt.value +
    volatility.value * ((draws.get step).normal * sqrtDt.value))) 0

def eulerPath (x0 : Positive) (steps : Nat) : List Decimal :=
  (List.range steps).map (recur (eulerStep mu theta volatility dt sqrtDt draws) x0.value)

/-- At none of these steps does the cut-off matter: the value is not above the mean, nothing
drifts, or the shock alone takes it to zero. -/
def DriftsAsEuler (x0 : Positive) (steps : Nat) : Prop :=
  ∀ step, step + 1 < steps →
    let x := recur (eulerStep mu theta volatility dt sqrtDt draws) x0.value step
    x ≤ mu.value ∨ theta.value * dt.value = 0 ∨
      x + volatility.value * sqrtDt.value * (draws.get step).normal ≤ 0

end Schemes

variable {mu theta volatility dt sqrtDt x0 : Positive} {draws : Draws}

theorem ouStep_eq_eulerStep_iff {step : Nat} {x : Decimal} :
    ouStep mu theta volatility dt sqrtDt draws step x =
        eulerStep mu theta volatility dt sqrtDt draws step x ↔
      x ≤ mu.value ∨ theta.value * dt.value = 0 ∨
        x + volatility.value * sqrtDt.value * (draws.get step).normal ≤ 0 := by
  have rate := mul_nonneg theta.nonneg dt.nonneg
  obtain below | above := le_or_gt x mu.value
  · have kept : max (mu.value - x) 0 = mu.value - x := max_eq_left (sub_nonneg.mpr below)
    refine iff_of_true ?_ (.inl below)
    unfold ouStep eulerStep
    rw [kept, max_comm]
    congr 1
    ring
  · have cut : max (mu.value - x) 0 = 0 := max_eq_right (sub_nonpos.mpr above.le)
    have shocked : ouStep mu theta volatility dt sqrtDt draws step x =
        max 0 (x + volatility.value * sqrtDt.value * (draws.get step).normal) := by
      unfold ouStep
      rw [cut, max_comm]
      congr 1
      ring
    have drifted : eulerStep mu theta volatility dt sqrtDt draws step x =
        max 0 (x + volatility.value * sqrtDt.value * (draws.get step).normal -
          theta.value * dt.value * (x - mu.value)) := by
      unfold eulerStep
      congr 1
      ring
    have pull := mul_nonneg rate (sub_nonneg.mpr above.le)
    rw [shocked, drifted, or_iff_right (not_le.mpr above)]
    constructor
    · intro same
      rw [or_iff_not_imp_right, not_le]
      intro positive
      rw [max_eq_right positive.le] at same
      have still : theta.value * dt.value * (x - mu.value) = 0 := by
        obtain zero | equal := max_choice (0 : Decimal) (x + volatility.value * sqrtDt.value *
          (draws.get step).normal - theta.value * dt.value * (x - mu.value))
        · rw [zero] at same
          exact absurd same positive.ne'
        · rw [equal] at same
          linarith
      exact (mul_eq_zero.mp still).resolve_right (sub_ne_zero.mpr above.ne')
    · rintro (still | shock)
      · rw [still, zero_mul, sub_zero]
      · rw [max_eq_left shock, max_eq_left]
        linarith

theorem ouStep_nonneg (step : Nat) (x : Decimal) :
    0 ≤ ouStep mu theta volatility dt sqrtDt draws step x := le_max_right _ _

/-- Without a shock a value below the mean moves up, and one above it stays where it is. -/
theorem ouStep_without_shock {step : Nat} {x : Decimal} (nonneg : 0 ≤ x)
    (still : (draws.get step).normal = 0) :
    (x < mu.value → 0 < theta.value * dt.value →
      x < ouStep mu theta volatility dt sqrtDt draws step x) ∧
    (mu.value ≤ x → ouStep mu theta volatility dt sqrtDt draws step x = x) := by
  unfold ouStep
  rw [still, zero_mul, mul_zero, add_zero]
  constructor
  · intro below rate
    rw [max_eq_left (sub_pos.mpr below).le]
    have pull := mul_pos rate (sub_pos.mpr below)
    apply lt_max_of_lt_left
    linarith
  · intro above
    rw [max_eq_right (sub_nonpos.mpr above), mul_zero, zero_mul, add_zero, max_eq_left nonneg]

theorem ouTurn_value (turns : Nat) :
    (turned (ouTurn mu theta volatility dt sqrtDt) (x0.value, draws) turns).1 =
      recur (ouStep mu theta volatility dt sqrtDt draws) x0.value turns := by
  induction turns with
  | zero => rfl
  | succ turns ih =>
      have drawn := ouTurn_draws mu theta volatility dt sqrtDt (x0.value, draws) turns
      rw [turned, recur_succ, ← ih, ouStep, ← Stream'.head_drop draws turns, ← drawn]
      rfl

variable {Chain : Type} {library : WalkLibrary Chain} {steps : Nat}

theorem ouProcess_values :
    (ouProcess library x0 mu theta volatility dt steps draws).1.map Positive.value =
      (List.range (steps - 1 + 1)).map
        (recur (ouStep mu theta volatility dt (library.sqrtPositive dt) draws) x0.value) := by
  rw [ouProcess_eq, List.map_cons, List.map_map, List.range_succ_eq_map, List.map_cons,
    List.map_map]
  refine congrArg (List.cons x0.value) (List.map_congr_left ?_)
  intro turn _
  have value := @ouTurn_value mu theta volatility dt (library.sqrtPositive dt) x0 draws (turn + 1)
  change (Positive.ofDecimal (turned (ouTurn mu theta volatility dt (library.sqrtPositive dt))
    (x0.value, draws) (turn + 1)).1).value = _
  rw [value]
  exact congrArg Positive.value (dif_pos (ouStep_nonneg turn _))

theorem ouPath_eq_eulerPath_iff :
    (List.range steps).map
        (recur (ouStep mu theta volatility dt sqrtDt draws) x0.value) =
        eulerPath mu theta volatility dt sqrtDt draws x0 steps ↔
      DriftsAsEuler mu theta volatility dt sqrtDt draws x0 steps := by
  cases steps with
  | zero =>
      refine iff_of_true rfl ?_
      intro step within
      cases within
  | succ steps =>
      unfold eulerPath DriftsAsEuler
      rw [map_range_recur_agree_iff]
      simp only [ouStep_eq_eulerStep_iff, Nat.add_lt_add_iff_right]

theorem ouProcess_eq_eulerPath_iff :
    (ouProcess library x0 mu theta volatility dt steps draws).1.map Positive.value =
        eulerPath mu theta volatility dt (library.sqrtPositive dt) draws x0 steps ↔
      1 ≤ steps ∧
        DriftsAsEuler mu theta volatility dt (library.sqrtPositive dt) draws x0 steps := by
  rw [ouProcess_values]
  cases steps with
  | zero =>
      refine iff_of_false ?_ ?_
      · intro impossible
        cases impossible
      · rintro ⟨impossible, -⟩
        cases impossible
  | succ steps =>
      rw [Nat.add_sub_cancel, ouPath_eq_eulerPath_iff]
      exact (and_iff_right (Nat.le_add_left 1 steps)).symm

/-- The process is the clamped Euler scheme exactly on the paths where its drift never has to
pull a value down, as the prices of the mean-reverting model and as the volatilities of the custom
one. -/
theorem ornstein_uhlenbeck_is_euler_iff {params : WalkParams Chain} {start : Positive}
    (positive : 1 ≤ params.size) (stepped : ystep library params = .ok start) :
    (∀ x0 mu theta volatility dt steps,
      (ouProcess library x0 mu theta volatility dt steps draws).1.map Positive.value =
          eulerPath mu theta volatility dt (library.sqrtPositive dt) draws x0 steps ↔
        1 ≤ steps ∧
          DriftsAsEuler mu theta volatility dt (library.sqrtPositive dt) draws x0 steps) ∧
    (∀ dt volatility speed mean, params.walkType = .meanReverting dt volatility speed mean →
      ∃ prices, meanReverting library draws params = .ok prices ∧
        (prices.map Positive.value = eulerPath mean speed (volatility.mul mean) dt
            (library.sqrtPositive dt) draws start params.size ↔
          DriftsAsEuler mean speed (volatility.mul mean) dt (library.sqrtPositive dt) draws start
            params.size)) ∧
    ∀ dt drift volatility vov volSpeed volMean,
      params.walkType = .custom dt drift volatility vov volSpeed volMean →
      ∃ path vols, customWalkSeeded library draws params = .ok path ∧
        path.vols = some (volatility :: vols) ∧
        (vols.map Positive.value = eulerPath volMean volSpeed vov dt (library.sqrtPositive dt)
            draws volatility (params.size - 1) ↔
          DriftsAsEuler volMean volSpeed vov dt (library.sqrtPositive dt) draws volatility
            (params.size - 1)) := by
  refine ⟨fun x0 mu theta volatility dt steps => ouProcess_eq_eulerPath_iff, ?_, ?_⟩
  · intro dt volatility speed mean walks
    refine ⟨(ouProcess library start mean speed (volatility.mul mean) dt params.size draws).1, ?_,
      ?_⟩
    · unfold meanReverting
      simp only [walks, stepped]
      rfl
    · rw [ouProcess_eq_eulerPath_iff]
      exact and_iff_right positive
  · intro dt drift volatility vov volSpeed volMean walks
    have walked : ∃ prices, customWalkSeeded library draws params = .ok ⟨prices,
        some (volatility :: (ouProcess library volatility volMean volSpeed vov dt params.size
          draws).1.take (params.size - 1))⟩ := by
      unfold customWalkSeeded
      simp only [walks, stepped]
      exact ⟨_, rfl⟩
    obtain ⟨prices, walked⟩ := walked
    refine ⟨_, _, walked, rfl, ?_⟩
    rw [List.map_take, ouProcess_values, ← List.map_take, List.take_range,
      Nat.min_eq_left (Nat.le_succ _)]
    exact ouPath_eq_eulerPath_iff

def fiftyMean : Positive := .ratio 50 1

/-- Full speed towards a mean of fifty. -/
def fastReversion : WalkParams Unit :=
  ⟨2, .day, .one, (), .meanReverting .one (.ratio 1 5) .one fiftyMean⟩

def calmDraws : Draws := Stream'.const ⟨0, 0⟩

theorem ornstein_uhlenbeck_is_euler_iff_fromBelow :
    (ouProcess plainLibrary .one fiftyMean .one .one .one 2 calmDraws).1.map Positive.value =
      eulerPath fiftyMean .one .one .one (plainLibrary.sqrtPositive .one) calmDraws .one 2 := by
  have follows := (@ornstein_uhlenbeck_is_euler_iff calmDraws Unit plainLibrary fastReversion
    (.ratio 100 1) (by decide) rfl).1 .one fiftyMean .one .one .one 2
  apply follows.mpr
  refine ⟨by decide, ?_⟩
  intro step within
  obtain rfl : step = 0 := by omega
  exact .inl (by decide +kernel)

/-- From a hundred the prices stay at a hundred, where the scheme is at its mean after a step. -/
theorem above_the_mean_nothing_falls :
    (meanReverting plainLibrary calmDraws fastReversion).map (List.map Positive.value) =
        .ok [100, 100] ∧
      eulerPath fiftyMean .one (.ratio 10 1) .one (plainLibrary.sqrtPositive .one) calmDraws
        (.ratio 100 1) 2 = [100, 50] := by
  constructor <;> decide +kernel

end Walker

end OptionChainSimulator.Domain
