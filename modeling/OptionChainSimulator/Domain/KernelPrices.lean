import Mathlib.Tactic
import OptionChainSimulator.Domain.KernelRange

namespace OptionChainSimulator.Domain

open Utils

/-! Which walks stay above zero. -/

section Loops

variable {σ α ε : Type}

/-- What holds of every value of a loop, by the states before its turns. -/
theorem forall_values_iff {turn : σ → Except ε (α × σ)} {good : α → Prop} {leads : σ → Prop}
    (same : ∀ state value after, turn state = .ok (value, after) → (good value ↔ leads state))
    {turns : Nat} {state final : σ} {values : List α}
    (unrolled : unroll turn turns state = .ok (values, final)) :
    (∀ value ∈ values, good value) ↔
      ∀ step < turns, ∀ before, reached turn state step = .ok before → leads before := by
  induction turns generalizing state values with
  | zero =>
      cases unrolled
      simp
  | succ turns ih =>
      rw [unroll] at unrolled
      obtain ⟨⟨value, next⟩, turned, unrolled⟩ := bind_eq_ok.mp unrolled
      obtain ⟨⟨rest, last⟩, remaining, kept⟩ := bind_eq_ok.mp unrolled
      cases kept
      rw [List.forall_mem_cons, same _ _ _ turned, ih remaining, forall_reached_succ_iff]
      apply and_congr_right
      intro _
      constructor
      · intro later other following again
        cases turned.symm.trans again
        exact later
      · intro later
        exact later value next turned

end Loops

theorem Positive.ofDecimal_pos {value : Decimal} :
    0 < (Positive.ofDecimal value).value ↔ 0 < value := by
  unfold Positive.ofDecimal
  split_ifs with nonneg
  · rfl
  · exact iff_of_false (lt_irrefl 0) (fun positive => nonneg positive.le)

theorem Positive.ofDecimal_max_pos {value : Decimal} :
    0 < (Positive.ofDecimal (max value 0)).value ↔ 0 < value := by
  rw [Positive.ofDecimal_pos, lt_max_iff, or_iff_left (lt_irrefl 0)]

namespace MachineWalker

open Walker

variable {Chain : Type} (library : DecimalLibrary Chain)

def OuKeepsAboveZero (draws : Draws) (size : Nat) (start mu theta volatility dt : Positive) :
    Prop :=
  let sqrtDt := library.sqrtPositive dt
  EveryTurn (ouTurn library mu theta volatility dt sqrtDt) (size - 1) (start.value, draws)
    fun state => 0 < ouMove library mu theta volatility dt sqrtDt state

/-- Every move from the state before it ends above zero, before the clamp that some models put
there. -/
def KeepsAboveZero (draws : Draws) (size : Nat) (start : Positive) : WalkType → Prop
  | .brownian dt drift volatility =>
      let sigmaAbs := library.round (volatility.value * start.value)
      ∀ sqrtDt, sqrtDtDec library.toWalkLibrary "simulation::brownian::sqrt_dt" dt = .ok sqrtDt →
        EveryTurn (brownianTurn library dt drift sigmaAbs sqrtDt) (size - 1) (start.value, draws)
          fun state => 0 < brownianMove library dt drift sigmaAbs sqrtDt state
  | .geometricBrownian dt drift volatility =>
      let sqrtDt := library.sqrtPositive dt
      EveryTurn (geometricBrownianTurn library dt drift volatility sqrtDt) (size - 1) (start, draws)
        fun state => 0 < geometricBrownianMove library dt drift volatility sqrtDt state
  | .logReturns dt expectedReturn volatility autocorrelation =>
      ∀ sqrtDt,
        sqrtDtDec library.toWalkLibrary "simulation::log_returns::sqrt_dt" dt = .ok sqrtDt →
        EveryTurn (logReturnsTurn library dt expectedReturn volatility autocorrelation sqrtDt)
          (size - 1) ⟨start, 0, draws⟩ fun state =>
            0 < logReturnsMove library dt expectedReturn volatility autocorrelation sqrtDt state
  | .meanReverting dt volatility speed mean =>
      let sigmaAbs := library.round (volatility.value * mean.value)
      OuKeepsAboveZero library draws size start mean speed (.ofDecimal sigmaAbs) dt
  | .jumpDiffusion dt drift volatility intensity jumpMean jumpVolatility =>
      let lambdaDt := library.round (intensity.value * dt.value)
      let sqrtDt := library.sqrtPositive dt
      EveryTurn
        (jumpDiffusionTurn library dt drift volatility jumpMean jumpVolatility sqrtDt lambdaDt)
        (size - 1) (start.value, draws) fun state =>
          0 < jumpDiffusionMove library dt drift volatility jumpMean jumpVolatility sqrtDt lambdaDt
            state
  | .garch dt drift volatility alpha beta =>
      let var := library.round (volatility.value * volatility.value)
      let weight := library.round (library.round (1 - alpha.value) - beta.value)
      let omega := Positive.ofDecimal (library.round (var * weight))
      ∀ sqrtDt, sqrtDtDec library.toWalkLibrary "simulation::garch::sqrt_dt" dt = .ok sqrtDt →
        EveryTurn (garchTurn library dt drift alpha beta omega sqrtDt) (size - 1)
          ⟨start.value, .ofDecimal var, 0, draws⟩
          fun state => 0 < garchMove library dt drift alpha beta omega sqrtDt state
  | .heston dt drift volatility kappa theta xi rho =>
      let variance := library.round (volatility.value * volatility.value)
      let oneMinusRhoSq := library.round (1 - library.round (rho * rho))
      ∀ dtSqrt, library.sqrt dt.value = some dtSqrt →
      ∀ oneMinus, library.sqrt oneMinusRhoSq = some oneMinus →
        EveryTurn (hestonTurn library dt drift kappa theta xi rho dtSqrt oneMinus) (size - 1)
          ⟨start, variance, draws⟩ fun state =>
            ∀ varianceSqrt, library.sqrt state.variance = some varianceSqrt →
            ∀ avgVarianceSqrt,
              library.sqrt (hestonVariance library dt kappa theta xi rho dtSqrt oneMinus state
                varianceSqrt) = some avgVarianceSqrt →
              0 < hestonMove library dt drift dtSqrt state avgVarianceSqrt
  | .custom dt drift volatility vov volSpeed volMean => ∀ vols later,
      ouProcess library volatility volMean volSpeed vov dt size draws = .ok (vols, later) →
        let sqrtDt := library.sqrtPositive dt
        EveryTurn (customTurn library dt drift sqrtDt) (vols.take (size - 1)).length
          ⟨start.value, vols.take (size - 1), later⟩
          fun state => 0 < customMove library dt drift sqrtDt state
  | .telegraph dt drift volatility lambdaUp lambdaDown volMultiplierUp volMultiplierDown =>
      let sqrtDt := library.sqrtPositive dt
      let volMultUp := volMultiplierUp.getD .one
      let volMultDown := volMultiplierDown.getD .one
      EveryTurn
        (telegraphTurn library dt drift volatility lambdaUp lambdaDown volMultUp volMultDown sqrtDt)
        (size - 1) ⟨start.value, draws.head.normal < 0, draws.tail⟩ fun state =>
          0 < telegraphMove library dt drift volatility lambdaUp lambdaDown volMultUp volMultDown
            sqrtDt state
  | .historical .. => True

section Turns

variable {library} {dt : Positive} {drift sqrtDt : Decimal}

theorem brownianTurn_pos {sigmaAbs : Decimal} {state : Decimal × Draws} {value : Positive}
    {after : Decimal × Draws}
    (turned : brownianTurn library dt drift sigmaAbs sqrtDt state = .ok (value, after)) :
    0 < value.value ↔ 0 < brownianMove library dt drift sigmaAbs sqrtDt state := by
  simp only [brownianTurn, normalSample, keep_bind_eq_ok, pure_eq_ok, Prod.mk.injEq] at turned
  obtain ⟨-, -, -, -, -, rfl, -⟩ := turned
  exact Positive.ofDecimal_max_pos

theorem geometricBrownianTurn_pos {volatility sqrtDt value : Positive}
    {state after : Positive × Draws}
    (turned : geometricBrownianTurn library dt drift volatility sqrtDt state =
      .ok (value, after)) :
    0 < value.value ↔ 0 < geometricBrownianMove library dt drift volatility sqrtDt state := by
  simp only [geometricBrownianTurn, normalSample, keep_bind_eq_ok, expOf_bind_eq_ok, pure_eq_ok,
    Prod.mk.injEq] at turned
  obtain ⟨-, -, -, -, -, -, rfl, -⟩ := turned
  exact Positive.ofDecimal_pos

theorem ouTurn_pos {mu theta volatility sqrtDt value : Positive} {state after : Decimal × Draws}
    (turned : ouTurn library mu theta volatility dt sqrtDt state = .ok (value, after)) :
    0 < value.value ↔ 0 < ouMove library mu theta volatility dt sqrtDt state := by
  by_cases below : state.1 < mu.value
  · simp only [ouTurn, normalSample, below, if_true, keep_bind_eq_ok, pure_eq_ok,
      Prod.mk.injEq] at turned
    obtain ⟨-, -, -, -, -, -, -, rfl, -⟩ := turned
    simp only [ouMove, below, if_true]
    exact Positive.ofDecimal_max_pos
  · simp only [ouTurn, normalSample, below, if_false, pure_bind, keep_bind_eq_ok, pure_eq_ok,
      Prod.mk.injEq] at turned
    obtain ⟨-, -, -, -, -, -, rfl, -⟩ := turned
    simp only [ouMove, below, if_false]
    exact Positive.ofDecimal_max_pos

theorem garchTurn_pos {alpha beta omega : Positive} {state after : GarchState}
    {value : Positive × Positive}
    (turned : garchTurn library dt drift alpha beta omega sqrtDt state = .ok (value, after)) :
    0 < value.1.value ↔ 0 < garchMove library dt drift alpha beta omega sqrtDt state := by
  simp only [garchTurn, normalSample, keep_bind_eq_ok, expOf_bind_eq_ok, pure_eq_ok,
    Prod.mk.injEq] at turned
  obtain ⟨-, -, -, -, -, -, -, -, -, -, -, rfl, -⟩ := turned
  exact Positive.ofDecimal_pos

theorem hestonTurn_pos {kappa theta xi : Positive} {rho dtSqrt oneMinus : Decimal}
    {state after : HestonState} {value : Positive × Positive}
    (turned : hestonTurn library dt drift kappa theta xi rho dtSqrt oneMinus state =
      .ok (value, after)) :
    0 < value.1.value ↔ ∀ varianceSqrt, library.sqrt state.variance = some varianceSqrt →
      ∀ avgVarianceSqrt,
        library.sqrt (hestonVariance library dt kappa theta xi rho dtSqrt oneMinus state
          varianceSqrt) = some avgVarianceSqrt →
        0 < hestonMove library dt drift dtSqrt state avgVarianceSqrt := by
  simp only [hestonTurn, normalSample, keep_bind_eq_ok, expOf_bind_eq_ok, typed_bind_eq_ok,
    okOr_eq_ok, pure_eq_ok, Prod.mk.injEq] at turned
  obtain ⟨-, -, -, varianceSqrt, rooted, -, -, -, -, -, -, -, -, -, -, avgVarianceSqrt, averaged,
    -, -, -, -, -, -, volStep, -, rfl, -⟩ := turned
  rw [Positive.ofDecimal_pos]
  constructor
  · intro positive other sameRoot another sameAverage
    cases rooted.symm.trans sameRoot
    cases averaged.symm.trans sameAverage
    exact positive
  · intro positive
    exact positive varianceSqrt rooted avgVarianceSqrt averaged

theorem telegraphTurn_pos
    {volatility lambdaUp lambdaDown volMultUp volMultDown sqrtDt : Positive}
    {state after : TelegraphState} {value : Positive × Positive}
    (turned : telegraphTurn library dt drift volatility lambdaUp lambdaDown volMultUp volMultDown
      sqrtDt state = .ok (value, after)) :
    0 < value.1.value ↔ 0 < telegraphMove library dt drift volatility lambdaUp lambdaDown
      volMultUp volMultDown sqrtDt state := by
  simp only [telegraphTurn, normalSample, keep_bind_eq_ok, expOf_bind_eq_ok, pure_eq_ok,
    Prod.mk.injEq] at turned
  obtain ⟨-, -, -, -, -, -, -, -, -, -, -, -, rfl, -⟩ := turned
  exact Positive.ofDecimal_pos

theorem customTurn_pos {sqrtDt value : Positive} {state after : CustomState}
    (turned : customTurn library dt drift sqrtDt state = .ok (value, after)) :
    0 < value.value ↔ 0 < customMove library dt drift sqrtDt state := by
  simp only [customTurn, normalSample, keep_bind_eq_ok, pure_eq_ok, Prod.mk.injEq] at turned
  obtain ⟨-, -, -, -, -, -, rfl, -⟩ := turned
  exact Positive.ofDecimal_max_pos

theorem jumpDiffusionTurn_pos {volatility jumpVolatility sqrtDt value : Positive}
    {jumpMean lambdaDt : Decimal} {state after : Decimal × Draws}
    (turned : jumpDiffusionTurn library dt drift volatility jumpMean jumpVolatility sqrtDt lambdaDt
      state = .ok (value, after)) :
    0 < value.value ↔ 0 < jumpDiffusionMove library dt drift volatility jumpMean jumpVolatility
      sqrtDt lambdaDt state := by
  by_cases jumps : state.2.tail.head.uniform < lambdaDt
  · simp only [jumpDiffusionTurn, normalSample, bernoulliJump, uniformSample, jumps, decide_true,
      if_true, keep_bind_eq_ok, pure_bind, pure_eq_ok, Prod.mk.injEq] at turned
    obtain ⟨-, -, -, -, -, -, -, -, -, rfl, -⟩ := turned
    simp only [jumpDiffusionMove, jumps, if_true]
    exact Positive.ofDecimal_max_pos
  · simp only [jumpDiffusionTurn, normalSample, bernoulliJump, uniformSample, jumps, decide_false,
      if_false, Bool.false_eq_true, keep_bind_eq_ok, pure_bind, pure_eq_ok,
      Prod.mk.injEq] at turned
    obtain ⟨-, -, -, -, -, -, -, rfl, -⟩ := turned
    simp only [jumpDiffusionMove, jumps, if_false]
    exact Positive.ofDecimal_max_pos

theorem logReturnsTurn_pos {volatility value : Positive} {autocorrelation : Option Decimal}
    {state after : LogReturnsState}
    (turned : logReturnsTurn library dt drift volatility autocorrelation sqrtDt state =
      .ok (value, after)) :
    0 < value.value ↔
      0 < logReturnsMove library dt drift volatility autocorrelation sqrtDt state := by
  cases autocorrelation with
  | none =>
      simp only [logReturnsTurn, normalSample, keep_bind_eq_ok] at turned
      obtain ⟨-, -, -, -, turned⟩ := turned
      simp only [ok_bind_eq_ok, expOf_bind_eq_ok, keep_bind_eq_ok, pure_eq_ok,
        Prod.mk.injEq] at turned
      obtain ⟨-, -, rfl, -⟩ := turned
      exact Positive.ofDecimal_pos
  | some ac =>
      by_cases within : -1 ≤ ac ∧ ac ≤ 1
      · simp only [logReturnsTurn, normalSample, if_pos within, keep_bind_eq_ok, expOf_bind_eq_ok,
          pure_eq_ok, Prod.mk.injEq] at turned
        obtain ⟨-, -, -, -, -, -, -, -, rfl, -⟩ := turned
        exact Positive.ofDecimal_pos
      · simp only [logReturnsTurn, normalSample, if_neg within, keep_bind_eq_ok] at turned
        obtain ⟨-, -, -, -, impossible⟩ := turned
        cases impossible

end Turns

section Kernels

/-- A path of so many prices from a first one, all above zero exactly if the moves are. -/
structure PricedFrom (path : WalkPath) (size : Nat) (start : Positive) (moves : Prop) : Prop where
  length : path.prices.length = size
  first : path.prices[0]? = some start
  positive : (∀ price ∈ path.prices, 0 < price.value) ↔ 0 < start.value ∧ moves

theorem pricedFrom_cons {size : Nat} {start : Positive} {rest : List Positive}
    {vols : Option (List Positive)} {moves : Prop} (some_point : 1 ≤ size)
    (length : rest.length = size - 1) (same : (∀ price ∈ rest, 0 < price.value) ↔ moves) :
    PricedFrom ⟨start :: rest, vols⟩ size start moves where
  length := by
    rw [List.length_cons, length]
    omega
  first := rfl
  positive := by rw [List.forall_mem_cons, same]

variable {library} {draws : Draws} {params : WalkParams Chain} {path : WalkPath}

/-- What `PricedFrom` says of a path that a model walked. -/
def Priced (library : DecimalLibrary Chain) (draws : Draws) (params : WalkParams Chain)
    (path : WalkPath) : Prop :=
  ∃ start, ystep library.toWalkLibrary params = .ok start ∧
    PricedFrom path params.size start (KeepsAboveZero library draws params.size start
      params.walkType)

theorem brownian_priced {dt volatility : Positive} {drift : Decimal} {prices : List Positive}
    (walks : params.walkType = .brownian dt drift volatility) (some_point : 1 ≤ params.size)
    (walked : brownian library draws params = .ok prices) :
    Priced library draws params ⟨prices, none⟩ := by
  obtain ⟨start, sqrtDt, rest, final, stepped, rooted, unrolled, rfl⟩ := of_brownian walks walked
  refine ⟨start, stepped, pricedFrom_cons some_point (length_of_unroll unrolled) ?_⟩
  rw [forall_values_iff (fun _ _ _ => brownianTurn_pos) unrolled, walks]
  simp only [KeepsAboveZero, rooted, Except.ok.injEq, forall_eq']
  rfl

theorem geometricBrownian_priced {dt volatility : Positive} {drift : Decimal}
    {prices : List Positive} (walks : params.walkType = .geometricBrownian dt drift volatility)
    (some_point : 1 ≤ params.size) (walked : geometricBrownian library draws params = .ok prices) :
    Priced library draws params ⟨prices, none⟩ := by
  obtain ⟨start, rest, final, stepped, unrolled, rfl⟩ := of_geometricBrownian walks walked
  refine ⟨start, stepped, pricedFrom_cons some_point (length_of_unroll unrolled) ?_⟩
  rw [forall_values_iff (fun _ _ _ => geometricBrownianTurn_pos) unrolled, walks]
  rfl

theorem logReturns_priced {dt volatility : Positive} {expectedReturn : Decimal}
    {autocorrelation : Option Decimal} {prices : List Positive}
    (walks : params.walkType = .logReturns dt expectedReturn volatility autocorrelation)
    (some_point : 1 ≤ params.size) (walked : logReturns library draws params = .ok prices) :
    Priced library draws params ⟨prices, none⟩ := by
  obtain ⟨start, sqrtDt, rest, final, stepped, rooted, unrolled, rfl⟩ := of_logReturns walks walked
  refine ⟨start, stepped, pricedFrom_cons some_point (length_of_unroll unrolled) ?_⟩
  rw [forall_values_iff (fun _ _ _ => logReturnsTurn_pos) unrolled, walks]
  simp only [KeepsAboveZero, rooted, Except.ok.injEq, forall_eq']
  rfl

theorem meanReverting_priced {dt volatility speed mean : Positive} {prices : List Positive}
    (walks : params.walkType = .meanReverting dt volatility speed mean)
    (some_point : 1 ≤ params.size) (walked : meanReverting library draws params = .ok prices) :
    Priced library draws params ⟨prices, none⟩ := by
  obtain ⟨start, later, stepped, spread⟩ := of_meanReverting walks walked
  obtain ⟨rest, final, unrolled, rfl, -⟩ := of_ouProcess spread
  refine ⟨start, stepped, pricedFrom_cons some_point (length_of_unroll unrolled) ?_⟩
  rw [forall_values_iff (fun _ _ _ => ouTurn_pos) unrolled, walks]
  rfl

theorem jumpDiffusion_priced {dt volatility intensity jumpVolatility : Positive}
    {drift jumpMean : Decimal} {prices : List Positive}
    (walks : params.walkType =
      .jumpDiffusion dt drift volatility intensity jumpMean jumpVolatility)
    (some_point : 1 ≤ params.size) (walked : jumpDiffusion library draws params = .ok prices) :
    Priced library draws params ⟨prices, none⟩ := by
  obtain ⟨start, rest, final, stepped, -, unrolled, rfl⟩ := of_jumpDiffusion walks walked
  refine ⟨start, stepped, pricedFrom_cons some_point (length_of_unroll unrolled) ?_⟩
  rw [forall_values_iff (fun _ _ _ => jumpDiffusionTurn_pos) unrolled, walks]
  rfl

theorem garch_priced {dt volatility alpha beta : Positive} {drift : Decimal}
    (walks : params.walkType = .garch dt drift volatility alpha beta)
    (some_point : 1 ≤ params.size) (walked : garchWalkSeeded library draws params = .ok path) :
    Priced library draws params path := by
  obtain ⟨start, sqrtDt, rest, final, stepped, -, rooted, unrolled, rfl⟩ :=
    of_garchWalkSeeded walks walked
  refine ⟨start, stepped, pricedFrom_cons some_point
    ((List.length_map _).trans (length_of_unroll unrolled)) ?_⟩
  rw [List.forall_mem_map, forall_values_iff (fun _ _ _ => garchTurn_pos) unrolled, walks]
  simp only [KeepsAboveZero, rooted, Except.ok.injEq, forall_eq']
  rfl

theorem heston_priced {dt volatility kappa theta xi : Positive} {drift rho : Decimal}
    (walks : params.walkType = .heston dt drift volatility kappa theta xi rho)
    (some_point : 1 ≤ params.size) (walked : hestonWalkSeeded library draws params = .ok path) :
    Priced library draws params path := by
  obtain ⟨start, dtSqrt, oneMinus, rest, final, stepped, -, rooted, complement, unrolled, rfl⟩ :=
    of_hestonWalkSeeded walks walked
  refine ⟨start, stepped, pricedFrom_cons some_point
    ((List.length_map _).trans (length_of_unroll unrolled)) ?_⟩
  rw [List.forall_mem_map, forall_values_iff (fun _ _ _ => hestonTurn_pos) unrolled, walks]
  simp only [KeepsAboveZero, rooted, complement, Option.some.injEq, forall_eq']
  rfl

theorem custom_priced {dt volatility vov volSpeed volMean : Positive} {drift : Decimal}
    (walks : params.walkType = .custom dt drift volatility vov volSpeed volMean)
    (some_point : 1 ≤ params.size) (walked : customWalkSeeded library draws params = .ok path) :
    Priced library draws params path := by
  obtain ⟨vols, later, start, rest, final, spread, stepped, unrolled, rfl⟩ :=
    of_customWalkSeeded walks walked
  obtain ⟨others, last, spreading, rfl, -⟩ := of_ouProcess spread
  have moves := length_of_unroll unrolled
  have counted := length_of_unroll spreading
  refine ⟨start, stepped, pricedFrom_cons some_point ?_ ?_⟩
  · rw [moves, List.length_take, List.length_cons, counted]
    omega
  · rw [forall_values_iff (fun _ _ _ => customTurn_pos) unrolled, walks]
    constructor
    · intro leads found after same
      cases spread.symm.trans same
      exact leads
    · intro keeps
      exact keeps _ _ spread

theorem telegraph_priced {dt volatility lambdaUp lambdaDown : Positive} {drift : Decimal}
    {volMultiplierUp volMultiplierDown : Option Positive}
    (walks : params.walkType = .telegraph dt drift volatility lambdaUp lambdaDown
      volMultiplierUp volMultiplierDown)
    (some_point : 1 ≤ params.size)
    (walked : telegraphWalkSeeded library draws params = .ok path) :
    Priced library draws params path := by
  obtain ⟨start, rest, final, stepped, unrolled, rfl⟩ := of_telegraphWalkSeeded walks walked
  refine ⟨start, stepped, pricedFrom_cons some_point
    ((List.length_map _).trans (length_of_unroll unrolled)) ?_⟩
  rw [List.forall_mem_map, forall_values_iff (fun _ _ _ => telegraphTurn_pos) unrolled, walks]
  rfl

/-- A walk has one price a step from its first, and they are above zero as long as its moves are. -/
theorem kernel_priced {walk : WalkType}
    {run : Draws → WalkParams Chain → Except Abort WalkPath}
    (found : kernel library walk = some run) (walks : params.walkType = walk)
    (some_point : 1 ≤ params.size) (walked : run draws params = .ok path) :
    Priced library draws params path := by
  cases walk with
  | brownian dt drift volatility =>
      cases found
      obtain ⟨prices, priced, rfl⟩ := map_eq_ok.mp walked
      exact brownian_priced walks some_point priced
  | geometricBrownian dt drift volatility =>
      cases found
      obtain ⟨prices, priced, rfl⟩ := map_eq_ok.mp walked
      exact geometricBrownian_priced walks some_point priced
  | logReturns dt expectedReturn volatility autocorrelation =>
      cases found
      obtain ⟨prices, priced, rfl⟩ := map_eq_ok.mp walked
      exact logReturns_priced walks some_point priced
  | meanReverting dt volatility speed mean =>
      cases found
      obtain ⟨prices, priced, rfl⟩ := map_eq_ok.mp walked
      exact meanReverting_priced walks some_point priced
  | jumpDiffusion dt drift volatility intensity jumpMean jumpVolatility =>
      cases found
      obtain ⟨prices, priced, rfl⟩ := map_eq_ok.mp walked
      exact jumpDiffusion_priced walks some_point priced
  | garch dt drift volatility alpha beta =>
      cases found
      exact garch_priced walks some_point walked
  | heston dt drift volatility kappa theta xi rho =>
      cases found
      exact heston_priced walks some_point walked
  | custom dt drift volatility vov volSpeed volMean =>
      cases found
      exact custom_priced walks some_point walked
  | telegraph dt drift volatility lambdaUp lambdaDown volMultiplierUp volMultiplierDown =>
      cases found
      exact telegraph_priced walks some_point walked
  | historical timeframe prices symbol => cases found

end Kernels

end MachineWalker

end OptionChainSimulator.Domain
