import Mathlib.Tactic
import OptionChainSimulator.Domain.Walker
import OptionChainSimulator.Session.Horizon

namespace OptionChainSimulator.Session

open Utils Domain Api

/-! Which of the models a creation accepts can be walked. -/

/-- No kernel finds fault with the model, whatever is drawn. -/
def Walkable (walk : WalkType) : Prop :=
  ∀ (Chain : Type) (library : WalkLibrary Chain) draws params run error,
    Walker.kernel library walk = some run → params.walkType = walk → 1 ≤ params.size →
      run draws params = .error error → ¬ error.ModelDomain

/-- A jump model whose jumps come less than once a step. -/
def RareJumps (api : ApiWalkType) : Prop :=
  ∀ dt drift volatility intensity jumpMean jumpVolatility,
    api = .jumpDiffusion (.finite dt) drift volatility (.finite intensity) jumpMean
      jumpVolatility → intensity * dt < 1

variable {numerics : Numerics} {limits : Limits} {api : ApiWalkType} {walk : WalkType}

/-- What the boundary checks of a model is its domain, the jump intensity apart. -/
theorem inDomain_of_admissible (exact : Exact numerics) (admissible : Admissible limits walk)
    (rare : RareJumps (ApiWalkType.ofWalkType numerics walk)) : Walker.InDomain walk := by
  cases walk with
  | logReturns dt expectedReturn volatility autocorrelation => exact admissible.2
  | garch dt drift volatility alpha beta => exact admissible.2
  | heston dt drift volatility kappa theta xi rho => exact admissible.2
  | jumpDiffusion dt drift volatility intensity jumpMean jumpVolatility =>
      apply rare dt.value (numerics.decimalToF64 drift) (numerics.positiveToF64 volatility)
        intensity.value (numerics.decimalToF64 jumpMean) (numerics.positiveToF64 jumpVolatility)
      simp only [ApiWalkType.ofWalkType, Numerics.positiveToF64, exact.toF64]
  | _ => trivial

/-- Where a jump comes every step or more often, the kernel stops before the first draw. -/
theorem not_walkable_of_frequent {dt volatility intensity jumpVolatility : Positive}
    {drift jumpMean : Decimal} (frequent : 1 ≤ intensity.value * dt.value) :
    ¬ Walkable (.jumpDiffusion dt drift volatility intensity jumpMean jumpVolatility) := by
  intro walkable
  have library : WalkLibrary Unit :=
    ⟨fun _ => .ok .one, fun _ => none, id, id, fun _ => .nan, fun _ => none⟩
  have draws : Draws := fun _ => ⟨0, 0⟩
  let params : WalkParams Unit :=
    ⟨1, .day, .one, (), .jumpDiffusion dt drift volatility intensity jumpMean jumpVolatility⟩
  have refused : Walker.jumpDiffusion library draws params =
      .error (.walkError jumpIntensityReason) := Walker.jumpDiffusion_refused rfl frequent
  exact walkable Unit library draws params _ _ rfl rfl (le_refl 1) refused rfl

/-- An accepted model never fails in its kernel exactly when its jumps are rare. -/
theorem accepted_walkable_iff (exact : Exact numerics)
    (accepted : api.tryIntoWalkType numerics limits = .ok walk) :
    Walkable walk ↔ RareJumps api := by
  obtain ⟨rfl, admissible⟩ := admissible_of_tryIntoWalkType exact accepted
  constructor
  · intro walkable dt drift volatility intensity jumpMean jumpVolatility spelled
    cases walk with
    | jumpDiffusion dtIs driftIs volatilityIs intensityIs jumpMeanIs jumpVolatilityIs =>
        simp only [ApiWalkType.ofWalkType, Numerics.positiveToF64, exact.toF64,
          ApiWalkType.jumpDiffusion.injEq, F64.finite.injEq] at spelled
        obtain ⟨rfl, -, -, rfl, -⟩ := spelled
        by_contra frequent
        exact not_walkable_of_frequent (not_lt.mp frequent) walkable
    | _ => cases spelled
  · intro rare Chain library draws params run error found walks _
    exact Walker.kernel_clean (inDomain_of_admissible exact admissible rare) found walks error

def dailyJumps : ApiWalkType :=
  .jumpDiffusion (.finite (1 / 252)) (.finite 0) (.finite (1 / 5)) (.finite 50) (.finite 0)
    (.finite (1 / 10))

def dailyJumpModel : WalkType :=
  .jumpDiffusion ⟨1 / 252, by norm_num⟩ 0 ⟨1 / 5, by norm_num⟩ ⟨50, by norm_num⟩ 0
    ⟨1 / 10, by norm_num⟩

theorem accepted_walkable_iff_dailyJumps : Walkable dailyJumpModel ↔ RareJumps dailyJumps := by
  have accepted : dailyJumps.tryIntoWalkType exactNumerics utcService.limits =
      .ok dailyJumpModel := by decide +kernel
  exact accepted_walkable_iff exactNumerics_exact accepted

def jumpsEveryStep : WalkType := .jumpDiffusion .one 0 .one .one 0 .one

/-- One jump a step is accepted, and its walk fails whatever the size, the first price and the
draws. -/
theorem accepted_model_is_refused_by_its_kernel :
    (ApiWalkType.jumpDiffusion (.finite 1) (.finite 0) (.finite 1) (.finite 1) (.finite 0)
        (.finite 1)).tryIntoWalkType exactNumerics utcService.limits = .ok jumpsEveryStep ∧
    (∀ (library : WalkLibrary Unit) draws size,
      Walker.jumpDiffusion library draws ⟨size, .day, .one, (), jumpsEveryStep⟩ =
        .error (.walkError jumpIntensityReason)) ∧
    ¬ Walkable jumpsEveryStep := by
  have frequent : 1 ≤ Positive.one.value * Positive.one.value := by decide +kernel
  refine ⟨by decide +kernel, ?_, not_walkable_of_frequent frequent⟩
  intro library draws size
  exact Walker.jumpDiffusion_refused rfl frequent

end OptionChainSimulator.Session
