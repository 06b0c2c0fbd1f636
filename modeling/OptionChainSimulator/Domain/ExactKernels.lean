import Mathlib.Tactic
import OptionChainSimulator.Domain.MachineWalker

namespace OptionChainSimulator.Domain

open Utils

/-! The walk kernels on decimals that keep every result exactly, against the exact kernels. -/

namespace MachineWalker

open Walker

variable {Chain : Type} {library : DecimalLibrary Chain}

section Turns

variable {dt : Positive} {drift sqrtDt : Decimal}

theorem ouTurn_exact (exact : ∀ value, library.round value = value)
    {mu theta volatility sqrtDt : Positive} {state : Decimal × Draws}
    {answer : Positive × Decimal × Draws}
    (turned : ouTurn library mu theta volatility dt sqrtDt state = .ok answer) :
    Walker.ouTurn mu theta volatility dt sqrtDt state = pure answer := by
  by_cases below : state.1 < mu.value
  · simp only [ouTurn, normalSample, below, if_true, keep_bind_eq_ok, exact, pure_eq_ok] at turned
    obtain ⟨-, -, -, -, -, -, -, rfl⟩ := turned
    simp only [Walker.ouTurn, normalSample, max_eq_left (sub_nonneg.mpr below.le)]
  · simp only [ouTurn, normalSample, below, if_false, pure_bind, keep_bind_eq_ok, exact,
      pure_eq_ok] at turned
    obtain ⟨-, -, -, -, -, -, rfl⟩ := turned
    simp only [Walker.ouTurn, normalSample, max_eq_right (sub_nonpos.mpr (not_lt.mp below))]

theorem garchTurn_exact (exact : ∀ value, library.round value = value)
    {alpha beta omega : Positive} {state : GarchState} {answer : (Positive × Positive) × GarchState}
    (turned : garchTurn library dt drift alpha beta omega sqrtDt state = .ok answer) :
    Walker.garchTurn library.toWalkLibrary dt drift alpha beta omega sqrtDt state =
      pure answer := by
  simp only [garchTurn, normalSample, keep_bind_eq_ok, expOf_bind_eq_ok, exact,
    pure_eq_ok] at turned
  obtain ⟨-, -, -, -, -, -, -, -, -, -, -, rfl⟩ := turned
  simp only [Walker.garchTurn, normalSample, sq]

theorem hestonTurn_exact (exact : ∀ value, library.round value = value)
    {kappa theta xi : Positive} {rho dtSqrt oneMinus : Decimal}
    {state : HestonState} {answer : (Positive × Positive) × HestonState}
    (turned : hestonTurn library dt drift kappa theta xi rho dtSqrt oneMinus state = .ok answer) :
    Walker.hestonTurn library.toWalkLibrary dt drift kappa theta xi rho dtSqrt oneMinus state =
      .ok answer := by
  simp only [hestonTurn, normalSample, keep_bind_eq_ok, expOf_bind_eq_ok, typed_bind_eq_ok, exact,
    okOr_eq_ok, pure_eq_ok] at turned
  obtain ⟨-, -, -, varianceSqrt, rooted, -, -, -, -, -, -, -, -, -, -, avgVarianceSqrt, averaged,
    -, -, -, -, -, -, volStep, stepped, rfl⟩ := turned
  exact bind_eq_ok.mpr ⟨varianceSqrt, okOr_eq_ok.mpr rooted, bind_eq_ok.mpr ⟨avgVarianceSqrt,
    okOr_eq_ok.mpr averaged, bind_eq_ok.mpr ⟨volStep, okOr_eq_ok.mpr stepped, rfl⟩⟩⟩

theorem telegraphTurn_exact (exact : ∀ value, library.round value = value)
    {volatility lambdaUp lambdaDown volMultUp volMultDown sqrtDt : Positive}
    {state : TelegraphState} {answer : (Positive × Positive) × TelegraphState}
    (turned : telegraphTurn library dt drift volatility lambdaUp lambdaDown volMultUp volMultDown
      sqrtDt state = .ok answer) :
    Walker.telegraphTurn library.toWalkLibrary dt drift volatility lambdaUp lambdaDown volMultUp
      volMultDown sqrtDt state = pure answer := by
  simp only [telegraphTurn, normalSample, keep_bind_eq_ok, expOf_bind_eq_ok, exact,
    pure_eq_ok] at turned
  obtain ⟨-, -, -, -, -, -, -, -, -, -, -, -, rfl⟩ := turned
  simp only [Walker.telegraphTurn, normalSample, Positive.mul_value]
  rfl

theorem brownianTurn_exact (exact : ∀ value, library.round value = value) {sigmaAbs : Decimal}
    {state : Decimal × Draws} {answer : Positive × Decimal × Draws}
    (turned : brownianTurn library dt drift sigmaAbs sqrtDt state = .ok answer) :
    Walker.brownianTurn dt drift sigmaAbs sqrtDt state = pure answer := by
  simp only [brownianTurn, normalSample, keep_bind_eq_ok, exact, pure_eq_ok] at turned
  obtain ⟨-, -, -, -, -, rfl⟩ := turned
  rfl

theorem geometricBrownianTurn_exact (exact : ∀ value, library.round value = value)
    {volatility sqrtDt : Positive} {state : Positive × Draws}
    {answer : Positive × Positive × Draws}
    (turned : geometricBrownianTurn library dt drift volatility sqrtDt state = .ok answer) :
    Walker.geometricBrownianTurn library.toWalkLibrary dt drift volatility sqrtDt state =
      pure answer := by
  simp only [geometricBrownianTurn, normalSample, keep_bind_eq_ok, expOf_bind_eq_ok, exact,
    pure_eq_ok] at turned
  obtain ⟨-, -, -, -, -, -, rfl⟩ := turned
  rfl

theorem jumpDiffusionTurn_exact (exact : ∀ value, library.round value = value)
    {volatility jumpVolatility sqrtDt : Positive} {jumpMean lambdaDt : Decimal}
    {state : Decimal × Draws} {answer : Positive × Decimal × Draws}
    (turned : jumpDiffusionTurn library dt drift volatility jumpMean jumpVolatility sqrtDt lambdaDt
      state = .ok answer) :
    Walker.jumpDiffusionTurn dt drift volatility jumpMean jumpVolatility sqrtDt lambdaDt state =
      pure answer := by
  by_cases jumps : state.2.tail.head.uniform < lambdaDt
  · simp only [jumpDiffusionTurn, normalSample, bernoulliJump, uniformSample, jumps, decide_true,
      if_true, keep_bind_eq_ok, pure_bind, exact, pure_eq_ok] at turned
    obtain ⟨-, -, -, -, -, -, -, -, -, rfl⟩ := turned
    simp only [Walker.jumpDiffusionTurn, normalSample, bernoulliJump, uniformSample, jumps,
      decide_true, if_true]
  · simp only [jumpDiffusionTurn, normalSample, bernoulliJump, uniformSample, jumps, decide_false,
      if_false, Bool.false_eq_true, keep_bind_eq_ok, pure_bind, exact, pure_eq_ok] at turned
    obtain ⟨-, -, -, -, -, -, -, rfl⟩ := turned
    simp only [Walker.jumpDiffusionTurn, normalSample, bernoulliJump, uniformSample, jumps,
      decide_false, if_false, Bool.false_eq_true]

theorem logReturnsTurn_exact (exact : ∀ value, library.round value = value)
    {volatility : Positive} {autocorrelation : Option Decimal} {state : LogReturnsState}
    {answer : Positive × LogReturnsState}
    (turned : logReturnsTurn library dt drift volatility autocorrelation sqrtDt state =
      .ok answer) :
    Walker.logReturnsTurn library.toWalkLibrary dt drift volatility autocorrelation sqrtDt state =
      .ok answer := by
  cases autocorrelation with
  | none =>
      simp only [logReturnsTurn, normalSample, keep_bind_eq_ok, exact] at turned
      obtain ⟨-, -, -, -, turned⟩ := turned
      simp only [ok_bind_eq_ok, expOf_bind_eq_ok, keep_bind_eq_ok, exact, pure_eq_ok] at turned
      obtain ⟨-, -, rfl⟩ := turned
      rfl
  | some ac =>
      by_cases within : -1 ≤ ac ∧ ac ≤ 1
      · simp only [logReturnsTurn, normalSample, if_pos within, keep_bind_eq_ok, expOf_bind_eq_ok,
          exact, pure_eq_ok] at turned
        obtain ⟨-, -, -, -, -, -, -, -, rfl⟩ := turned
        simp only [Walker.logReturnsTurn, normalSample, if_pos within]
        rfl
      · simp only [logReturnsTurn, normalSample, if_neg within, keep_bind_eq_ok] at turned
        obtain ⟨-, -, -, -, impossible⟩ := turned
        cases impossible

/-- A loop whose turns answer as the exact ones answers as the exact loop. -/
theorem unroll_exact {σ α : Type} {m : Type → Type} [Monad m] [LawfulMonad m]
    {turn : σ → Except Abort (α × σ)} {exactTurn : σ → m (α × σ)}
    (same : ∀ state answer, turn state = .ok answer → exactTurn state = pure answer)
    {turns : Nat} {state : σ} {answer : List α × σ}
    (unrolled : unroll turn turns state = .ok answer) :
    unroll exactTurn turns state = pure answer := by
  induction turns generalizing state answer with
  | zero =>
      cases unrolled
      rfl
  | succ turns ih =>
      rw [unroll] at unrolled
      obtain ⟨⟨value, next⟩, turned, unrolled⟩ := bind_eq_ok.mp unrolled
      obtain ⟨⟨rest, final⟩, remaining, kept⟩ := bind_eq_ok.mp unrolled
      cases kept
      rw [unroll, same _ _ turned, pure_bind]
      dsimp only
      rw [ih remaining, pure_bind]

theorem customPath_exact (exact : ∀ value, library.round value = value) {sqrtDt : Positive}
    {vols : List Positive} {price : Decimal} {draws : Draws} {rest : List Positive}
    {final : CustomState}
    (unrolled : unroll (customTurn library dt drift sqrtDt) vols.length ⟨price, vols, draws⟩ =
      .ok (rest, final)) :
    customPath dt drift sqrtDt vols price draws = rest := by
  induction vols generalizing price draws rest with
  | nil =>
      cases unrolled
      rfl
  | cons vol vols ih =>
      rw [List.length_cons, unroll] at unrolled
      obtain ⟨⟨value, next⟩, turned, unrolled⟩ := bind_eq_ok.mp unrolled
      obtain ⟨⟨others, last⟩, remaining, kept⟩ := bind_eq_ok.mp unrolled
      cases kept
      simp only [customTurn, normalSample, keep_bind_eq_ok, exact, pure_eq_ok] at turned
      obtain ⟨-, -, -, -, -, -, same⟩ := turned
      cases same
      rw [customPath]
      exact congrArg₂ List.cons rfl (ih remaining)

theorem ouProcess_exact (exact : ∀ value, library.round value = value)
    {x0 mu theta volatility : Positive} {steps : Nat} {draws : Draws}
    {answer : List Positive × Draws}
    (walked : ouProcess library x0 mu theta volatility dt steps draws = .ok answer) :
    Walker.ouProcess library.toWalkLibrary x0 mu theta volatility dt steps draws = answer := by
  obtain ⟨values, later⟩ := answer
  obtain ⟨rest, final, unrolled, rfl, rfl⟩ := of_ouProcess walked
  have same := unroll_exact (m := Id) (fun _ _ => ouTurn_exact exact) unrolled
  unfold Walker.ouProcess
  simp only [same]
  rfl

end Turns

section Kernels

variable {draws : Draws} {params : WalkParams Chain}

theorem garch_exact (exact : ∀ value, library.round value = value)
    {dt volatility alpha beta : Positive} {drift : Decimal} {path : WalkPath}
    (walks : params.walkType = .garch dt drift volatility alpha beta)
    (walked : garchWalkSeeded library draws params = .ok path) :
    Walker.garchWalkSeeded library.toWalkLibrary draws params = .ok path := by
  obtain ⟨start, sqrtDt, rest, final, stepped, unstable, rooted, unrolled, rfl⟩ :=
    of_garchWalkSeeded walks walked
  simp only [exact] at unstable unrolled
  have same := unroll_exact (m := Id) (fun _ _ => garchTurn_exact exact) unrolled
  have squared : volatility.mul volatility =
      Positive.ofDecimal (volatility.value * volatility.value) := rfl
  simp only [Walker.garchWalkSeeded, walks, if_neg unstable]
  refine bind_eq_ok.mpr ⟨start, stepped, bind_eq_ok.mpr ⟨sqrtDt, rooted, ?_⟩⟩
  rw [squared, sq, same]
  rfl

theorem heston_exact (exact : ∀ value, library.round value = value)
    {dt volatility kappa theta xi : Positive} {drift rho : Decimal} {path : WalkPath}
    (walks : params.walkType = .heston dt drift volatility kappa theta xi rho)
    (walked : hestonWalkSeeded library draws params = .ok path) :
    Walker.hestonWalkSeeded library.toWalkLibrary draws params = .ok path := by
  obtain ⟨start, dtSqrt, oneMinus, rest, final, stepped, outside, rooted, complement, unrolled,
    rfl⟩ := of_hestonWalkSeeded walks walked
  simp only [exact] at complement unrolled
  have same := unroll_exact (m := Except SimulationError) (fun _ _ => hestonTurn_exact exact)
    unrolled
  simp only [Walker.hestonWalkSeeded, walks, if_neg outside]
  refine bind_eq_ok.mpr ⟨start, stepped, bind_eq_ok.mpr ⟨dtSqrt, okOr_eq_ok.mpr rooted,
    bind_eq_ok.mpr ⟨oneMinus, okOr_eq_ok.mpr complement, ?_⟩⟩⟩
  rw [same]
  rfl

theorem custom_exact (exact : ∀ value, library.round value = value)
    {dt volatility vov volSpeed volMean : Positive} {drift : Decimal} {path : WalkPath}
    (walks : params.walkType = .custom dt drift volatility vov volSpeed volMean)
    (walked : customWalkSeeded library draws params = .ok path) :
    Walker.customWalkSeeded library.toWalkLibrary draws params = .ok path := by
  obtain ⟨vols, later, start, rest, final, spread, stepped, unrolled, rfl⟩ :=
    of_customWalkSeeded walks walked
  simp only [Walker.customWalkSeeded, walks, ouProcess_exact exact spread]
  refine bind_eq_ok.mpr ⟨start, stepped, ?_⟩
  rw [customPath_exact exact unrolled]
  rfl

theorem telegraph_exact (exact : ∀ value, library.round value = value)
    {dt volatility lambdaUp lambdaDown : Positive} {drift : Decimal}
    {volMultiplierUp volMultiplierDown : Option Positive} {path : WalkPath}
    (walks : params.walkType = .telegraph dt drift volatility lambdaUp lambdaDown
      volMultiplierUp volMultiplierDown)
    (walked : telegraphWalkSeeded library draws params = .ok path) :
    Walker.telegraphWalkSeeded library.toWalkLibrary draws params = .ok path := by
  obtain ⟨start, rest, final, stepped, unrolled, rfl⟩ := of_telegraphWalkSeeded walks walked
  simp only [normalSample] at unrolled
  have same := unroll_exact (m := Id) (fun _ _ => telegraphTurn_exact exact) unrolled
  simp only [Walker.telegraphWalkSeeded, walks, normalSample]
  refine bind_eq_ok.mpr ⟨start, stepped, ?_⟩
  rw [same]
  rfl

theorem brownian_exact (exact : ∀ value, library.round value = value)
    {dt volatility : Positive} {drift : Decimal} {prices : List Positive}
    (walks : params.walkType = .brownian dt drift volatility)
    (walked : brownian library draws params = .ok prices) :
    Walker.brownian library.toWalkLibrary draws params = .ok prices := by
  obtain ⟨start, sqrtDt, rest, final, stepped, rooted, unrolled, rfl⟩ := of_brownian walks walked
  simp only [exact] at unrolled
  have same := unroll_exact (m := Id) (fun _ _ => brownianTurn_exact exact) unrolled
  simp only [Walker.brownian, walks, Positive.mul_value]
  refine bind_eq_ok.mpr ⟨start, stepped, bind_eq_ok.mpr ⟨sqrtDt, rooted, ?_⟩⟩
  rw [same]
  rfl

theorem geometricBrownian_exact (exact : ∀ value, library.round value = value)
    {dt volatility : Positive} {drift : Decimal} {prices : List Positive}
    (walks : params.walkType = .geometricBrownian dt drift volatility)
    (walked : geometricBrownian library draws params = .ok prices) :
    Walker.geometricBrownian library.toWalkLibrary draws params = .ok prices := by
  obtain ⟨start, rest, final, stepped, unrolled, rfl⟩ := of_geometricBrownian walks walked
  have same := unroll_exact (m := Id) (fun _ _ => geometricBrownianTurn_exact exact) unrolled
  simp only [Walker.geometricBrownian, walks]
  refine bind_eq_ok.mpr ⟨start, stepped, ?_⟩
  rw [same]
  rfl

theorem logReturns_exact (exact : ∀ value, library.round value = value)
    {dt volatility : Positive} {expectedReturn : Decimal} {autocorrelation : Option Decimal}
    {prices : List Positive}
    (walks : params.walkType = .logReturns dt expectedReturn volatility autocorrelation)
    (walked : logReturns library draws params = .ok prices) :
    Walker.logReturns library.toWalkLibrary draws params = .ok prices := by
  obtain ⟨start, sqrtDt, rest, final, stepped, rooted, unrolled, rfl⟩ := of_logReturns walks walked
  have same := unroll_exact (m := Except SimulationError)
    (fun _ _ => logReturnsTurn_exact exact) unrolled
  simp only [Walker.logReturns, walks]
  refine bind_eq_ok.mpr ⟨start, stepped, bind_eq_ok.mpr ⟨sqrtDt, rooted, ?_⟩⟩
  rw [same]
  rfl

theorem meanReverting_exact (exact : ∀ value, library.round value = value)
    {dt volatility speed mean : Positive} {prices : List Positive}
    (walks : params.walkType = .meanReverting dt volatility speed mean)
    (walked : meanReverting library draws params = .ok prices) :
    Walker.meanReverting library.toWalkLibrary draws params = .ok prices := by
  obtain ⟨start, later, stepped, spread⟩ := of_meanReverting walks walked
  rw [exact] at spread
  have scaled : volatility.mul mean = Positive.ofDecimal (volatility.value * mean.value) := rfl
  simp only [Walker.meanReverting, walks, scaled]
  refine bind_eq_ok.mpr ⟨start, stepped, ?_⟩
  rw [ouProcess_exact exact spread]
  rfl

theorem jumpDiffusion_exact (exact : ∀ value, library.round value = value)
    {dt volatility intensity jumpVolatility : Positive} {drift jumpMean : Decimal}
    {prices : List Positive}
    (walks : params.walkType =
      .jumpDiffusion dt drift volatility intensity jumpMean jumpVolatility)
    (walked : jumpDiffusion library draws params = .ok prices) :
    Walker.jumpDiffusion library.toWalkLibrary draws params = .ok prices := by
  obtain ⟨start, rest, final, stepped, frequent, unrolled, rfl⟩ := of_jumpDiffusion walks walked
  simp only [exact] at frequent unrolled
  have same := unroll_exact (m := Id) (fun _ _ => jumpDiffusionTurn_exact exact) unrolled
  simp only [Walker.jumpDiffusion, walks, Positive.mul_value, if_neg frequent]
  refine bind_eq_ok.mpr ⟨start, stepped, ?_⟩
  rw [same]
  rfl

/-- Decimals that keep every result exactly walk the exact path, as far as it fits them. -/
theorem kernel_exact (exact : ∀ value, library.round value = value) {walk : WalkType}
    {path : WalkPath} {run : Draws → WalkParams Chain → Except Abort WalkPath}
    (found : kernel library walk = some run) (walks : params.walkType = walk)
    (walked : run draws params = .ok path) :
    ∃ exactRun, pathKernel library.toWalkLibrary walk = some exactRun ∧
      exactRun draws params = .ok path := by
  cases walk with
  | brownian dt drift volatility =>
      cases found
      obtain ⟨prices, priced, rfl⟩ := map_eq_ok.mp walked
      exact ⟨_, rfl, map_eq_ok.mpr ⟨prices, brownian_exact exact walks priced, rfl⟩⟩
  | geometricBrownian dt drift volatility =>
      cases found
      obtain ⟨prices, priced, rfl⟩ := map_eq_ok.mp walked
      exact ⟨_, rfl, map_eq_ok.mpr ⟨prices, geometricBrownian_exact exact walks priced, rfl⟩⟩
  | logReturns dt expectedReturn volatility autocorrelation =>
      cases found
      obtain ⟨prices, priced, rfl⟩ := map_eq_ok.mp walked
      exact ⟨_, rfl, map_eq_ok.mpr ⟨prices, logReturns_exact exact walks priced, rfl⟩⟩
  | meanReverting dt volatility speed mean =>
      cases found
      obtain ⟨prices, priced, rfl⟩ := map_eq_ok.mp walked
      exact ⟨_, rfl, map_eq_ok.mpr ⟨prices, meanReverting_exact exact walks priced, rfl⟩⟩
  | jumpDiffusion dt drift volatility intensity jumpMean jumpVolatility =>
      cases found
      obtain ⟨prices, priced, rfl⟩ := map_eq_ok.mp walked
      exact ⟨_, rfl, map_eq_ok.mpr ⟨prices, jumpDiffusion_exact exact walks priced, rfl⟩⟩
  | garch dt drift volatility alpha beta =>
      cases found
      exact ⟨_, rfl, garch_exact exact walks walked⟩
  | heston dt drift volatility kappa theta xi rho =>
      cases found
      exact ⟨_, rfl, heston_exact exact walks walked⟩
  | custom dt drift volatility vov volSpeed volMean =>
      cases found
      exact ⟨_, rfl, custom_exact exact walks walked⟩
  | telegraph dt drift volatility lambdaUp lambdaDown volMultiplierUp volMultiplierDown =>
      cases found
      exact ⟨_, rfl, telegraph_exact exact walks walked⟩
  | historical timeframe prices symbol => cases found

end Kernels

end MachineWalker

end OptionChainSimulator.Domain
