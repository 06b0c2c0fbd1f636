import Mathlib.Tactic
import OptionChainSimulator.Domain.WalkPaths

namespace OptionChainSimulator.Domain

open Utils

/-! When the telegraph process changes its regime. -/

namespace Walker

section Switching

variable {Chain : Type} (library : WalkLibrary Chain) (dt : Positive) (drift : Decimal)
  (volatility lambdaUp lambdaDown volMultUp volMultDown sqrtDt : Positive)

/-- What is compared with the probability of a transition. -/
def telegraphVariate (sample : Decimal) : Decimal := (|sample| + 1) / 2

/-- `1 - exp(-lambda * dt)` with the rate out of the regime. -/
def transitionProb (up : Bool) : Decimal :=
  1 - library.exp (-(if up then lambdaDown.value else lambdaUp.value) * dt.value)

/-- The regimes of a run, from the one its first draw chooses. -/
def regimes (start : Decimal) (draws : Draws) (step : Nat) : Bool :=
  (turned (telegraphTurn library dt drift volatility lambdaUp lambdaDown volMultUp volMultDown
    sqrtDt) ⟨start, draws.head.normal < 0, draws.tail⟩ step).up

/-- Every sequence of regimes is the one of some draws. -/
def AllRegimesReachable (start : Decimal) : Prop :=
  ∀ steps (wanted : Nat → Bool), ∃ draws, ∀ step ≤ steps,
    regimes library dt drift volatility lambdaUp lambdaDown volMultUp volMultDown sqrtDt start
      draws step = wanted step

/-- A Bernoulli test on a uniform variate. -/
structure BernoulliSwitching (start : Decimal) : Prop where
  uniform : ∀ sample, 0 ≤ telegraphVariate sample ∧ telegraphVariate sample < 1
  both : ∀ up, 0 < transitionProb library dt lambdaUp lambdaDown up →
    transitionProb library dt lambdaUp lambdaDown up < 1 →
      (∃ sample, telegraphVariate sample < transitionProb library dt lambdaUp lambdaDown up) ∧
      ∃ sample, transitionProb library dt lambdaUp lambdaDown up ≤ telegraphVariate sample
  reachable : AllRegimesReachable library dt drift volatility lambdaUp lambdaDown volMultUp
    volMultDown sqrtDt start

variable {library dt drift volatility lambdaUp lambdaDown volMultUp volMultDown sqrtDt}
  {start : Decimal} {draws : Draws}

theorem telegraphTurn_up (state : TelegraphState) :
    (telegraphTurn library dt drift volatility lambdaUp lambdaDown volMultUp volMultDown sqrtDt
      state).2.up =
      if telegraphVariate state.draws.head.normal <
          transitionProb library dt lambdaUp lambdaDown state.up then !state.up
      else state.up := rfl

theorem regimes_succ (step : Nat) :
    regimes library dt drift volatility lambdaUp lambdaDown volMultUp volMultDown sqrtDt start draws
        (step + 1) =
      let up := regimes library dt drift volatility lambdaUp lambdaDown volMultUp volMultDown sqrtDt
        start draws step
      if telegraphVariate (draws.get (2 * step + 1)).normal <
          transitionProb library dt lambdaUp lambdaDown up then !up
      else up := by
  have drawn := telegraphTurn_draws library dt volatility lambdaUp lambdaDown volMultUp volMultDown
    sqrtDt drift ⟨start, decide (draws.head.normal < 0), draws.tail⟩ step
  have head : (draws.get (2 * step + 1)).normal = (draws.tail.drop (2 * step)).head.normal := by
    simp
  rw [head, ← drawn]
  exact telegraphTurn_up _

theorem telegraphVariate_lt_one_iff {sample : Decimal} :
    (0 ≤ telegraphVariate sample ∧ telegraphVariate sample < 1) ↔ |sample| < 1 := by
  have nonneg := abs_nonneg sample
  unfold telegraphVariate
  constructor
  · rintro ⟨-, below⟩
    linarith
  · intro small
    constructor <;> linarith

theorem half_le_telegraphVariate (sample : Decimal) : 1 / 2 ≤ telegraphVariate sample := by
  have nonneg := abs_nonneg sample
  unfold telegraphVariate
  linarith

theorem exists_telegraphVariate_lt_iff {prob : Decimal} :
    (∃ sample, telegraphVariate sample < prob) ↔ 1 / 2 < prob := by
  constructor
  · rintro ⟨sample, below⟩
    exact (half_le_telegraphVariate sample).trans_lt below
  · intro half
    refine ⟨0, ?_⟩
    unfold telegraphVariate
    rw [abs_zero]
    linarith

theorem le_telegraphVariate_double {prob bound : Decimal} (within : prob ≤ bound)
    (nonneg : 0 ≤ bound) : prob ≤ telegraphVariate (2 * bound) := by
  unfold telegraphVariate
  rw [abs_of_nonneg (by linarith)]
  linarith

/-- The draws that lead through the wanted regimes: nothing for a change, a large sample to stay. -/
def steering (wanted : Nat → Bool) (hold : Decimal) : Draws := fun index =>
  if index = 0 then ⟨if wanted 0 then -1 else 1, 0⟩
  else if index % 2 = 1 ∧ wanted (index / 2 + 1) ≠ wanted (index / 2) then ⟨0, 0⟩
  else ⟨hold, 0⟩

theorem steering_get (wanted : Nat → Bool) (hold : Decimal) (step : Nat) :
    ((steering wanted hold).get (2 * step + 1)).normal =
      if wanted (step + 1) = wanted step then hold else 0 := by
  have odd : (2 * step + 1) % 2 = 1 := by omega
  have half : (2 * step + 1) / 2 = step := by omega
  unfold steering Stream'.get
  dsimp only
  rw [if_neg (Nat.succ_ne_zero _), odd, half]
  split_ifs with changes same same
  · exact absurd same changes.2
  · rfl
  · rfl
  · exact absurd ⟨rfl, same⟩ changes

theorem steering_regimes {hold : Decimal} {wanted : Nat → Bool}
    (switches : ∀ up, 1 / 2 < transitionProb library dt lambdaUp lambdaDown up)
    (holds : ∀ up, transitionProb library dt lambdaUp lambdaDown up ≤ telegraphVariate hold)
    (step : Nat) :
    regimes library dt drift volatility lambdaUp lambdaDown volMultUp volMultDown sqrtDt start
      (steering wanted hold) step = wanted step := by
  induction step with
  | zero =>
      change decide ((if wanted 0 then -1 else 1 : Decimal) < 0) = wanted 0
      cases wanted 0 <;> decide
  | succ step ih =>
      rw [regimes_succ, ih, steering_get]
      dsimp only
      by_cases same : wanted (step + 1) = wanted step
      · rw [if_pos same, if_neg (not_lt.mpr (holds _)), same]
      · have idle : telegraphVariate 0 = 1 / 2 := by
          unfold telegraphVariate
          norm_num
        rw [if_neg same, idle, if_pos (switches _)]
        exact (Bool.eq_not_of_ne same).symm

theorem allRegimesReachable_iff :
    AllRegimesReachable library dt drift volatility lambdaUp lambdaDown volMultUp volMultDown sqrtDt
        start ↔
      ∀ up, 1 / 2 < transitionProb library dt lambdaUp lambdaDown up := by
  constructor
  · intro reachable up
    obtain ⟨draws, follows⟩ := reachable 1 fun step => if step = 0 then up else !up
    have first := follows 0 (Nat.zero_le 1)
    have second := follows 1 (le_refl 1)
    rw [regimes_succ 0, first] at second
    apply exists_telegraphVariate_lt_iff.mp
    refine ⟨(draws.get 1).normal, ?_⟩
    by_contra stays
    simp only [if_true, Nat.mul_zero, Nat.zero_add, if_neg stays] at second
    cases up <;> cases second
  · intro switches steps wanted
    let bound := |transitionProb library dt lambdaUp lambdaDown true| +
      |transitionProb library dt lambdaUp lambdaDown false|
    have nonneg : 0 ≤ bound := add_nonneg (abs_nonneg _) (abs_nonneg _)
    have within : ∀ up, transitionProb library dt lambdaUp lambdaDown up ≤ bound := by
      intro up
      cases up with
      | true => exact (le_abs_self _).trans (le_add_of_nonneg_right (abs_nonneg _))
      | false => exact (le_abs_self _).trans (le_add_of_nonneg_left (abs_nonneg _))
    refine ⟨steering wanted (2 * bound), ?_⟩
    intro step _
    exact steering_regimes switches (fun up => le_telegraphVariate_double (within up) nonneg) step

/-- The variate is half of one and a folded normal sample: it is no uniform variate, the regime
can change only where a transition is more likely than not, and that is what it takes for every
sequence of regimes. -/
theorem telegraph_switching_iff :
    ¬ BernoulliSwitching library dt drift volatility lambdaUp lambdaDown volMultUp volMultDown
        sqrtDt start ∧
    (∀ sample, (0 ≤ telegraphVariate sample ∧ telegraphVariate sample < 1) ↔ |sample| < 1) ∧
    (∀ price up, ((∃ draws, (telegraphTurn library dt drift volatility lambdaUp lambdaDown volMultUp
        volMultDown sqrtDt ⟨price, up, draws⟩).2.up = !up) ↔
          1 / 2 < transitionProb library dt lambdaUp lambdaDown up) ∧
      ∃ draws, (telegraphTurn library dt drift volatility lambdaUp lambdaDown volMultUp volMultDown
        sqrtDt ⟨price, up, draws⟩).2.up = up) ∧
    (AllRegimesReachable library dt drift volatility lambdaUp lambdaDown volMultUp volMultDown
        sqrtDt start ↔
      ∀ up, 1 / 2 < transitionProb library dt lambdaUp lambdaDown up) := by
  refine ⟨?_, fun sample => telegraphVariate_lt_one_iff, ?_, allRegimesReachable_iff⟩
  · intro bernoulli
    have small := telegraphVariate_lt_one_iff.mp (bernoulli.uniform 1)
    rw [abs_one] at small
    exact lt_irrefl _ small
  · intro price up
    constructor
    · rw [← exists_telegraphVariate_lt_iff]
      constructor
      · rintro ⟨draws, switched⟩
        refine ⟨draws.head.normal, ?_⟩
        by_contra stays
        rw [telegraphTurn_up, if_neg stays] at switched
        cases up <;> cases switched
      · rintro ⟨sample, below⟩
        refine ⟨Stream'.const ⟨sample, 0⟩, ?_⟩
        rw [telegraphTurn_up]
        exact if_pos below
    · refine ⟨Stream'.const ⟨2 * |transitionProb library dt lambdaUp lambdaDown up|, 0⟩, ?_⟩
      rw [telegraphTurn_up]
      exact if_neg (not_lt.mpr (le_telegraphVariate_double (le_abs_self _) (abs_nonneg _)))

/-- The exponential of minus a fifth, to 28 digits. -/
def fifthLibrary : WalkLibrary Unit :=
  { plainLibrary with
    exp := fun value => if value = -1 / 5 then 8187307530779818586699355086 / 10 ^ 28 else 1 }

def oneFifth : Positive := .ratio 1 5

/-- At unit rates and a step of a fifth both regimes last for ever, where one in five or six steps
is to leave them. -/
theorem regime_outlasts_every_run :
    (∀ up, 0 < transitionProb fifthLibrary oneFifth .one .one up ∧
      transitionProb fifthLibrary oneFifth .one .one up < 1) ∧
    (∀ draws step, regimes fifthLibrary oneFifth 0 .one .one .one .one .one .one 100 draws step =
      regimes fifthLibrary oneFifth 0 .one .one .one .one .one .one 100 draws 0) ∧
    telegraphVariate 1 = 1 := by
  have rare : ∀ up, transitionProb fifthLibrary oneFifth .one .one up =
      1812692469220181413300644914 / 10 ^ 28 := by
    intro up
    cases up <;> decide +kernel
  refine ⟨?_, ?_, by decide +kernel⟩
  · intro up
    rw [rare]
    norm_num
  · intro draws step
    induction step with
    | zero => rfl
    | succ step ih =>
        rw [regimes_succ]
        dsimp only
        rw [rare, if_neg, ih]
        rw [not_lt]
        apply le_trans _ (half_le_telegraphVariate _)
        norm_num

end Switching

end Walker

end OptionChainSimulator.Domain
