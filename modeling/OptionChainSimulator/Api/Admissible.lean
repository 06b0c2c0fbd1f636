import Mathlib.Tactic
import OptionChainSimulator.Api.Models

namespace OptionChainSimulator.Api

open Utils Domain

/-! What the boundary asks of a walk model, with the numbers exact. -/

/-- Conversions that lose nothing. -/
structure Exact (numerics : Numerics) : Prop where
  rounded : ∀ value, numerics.rounded value = .finite value
  toF64 : ∀ value, numerics.toF64 value = .finite value
  decimal : ∀ value decimal, numerics.decimalTryFrom (.finite value) = .ok decimal ↔
    decimal = value
  positive : ∀ value positive, numerics.positiveNew (.finite value) = .ok positive ↔
    positive.value = value

def StrictlyPositive : TimeFrame → Prop
  | .custom periods => periods ≠ .zero
  | _ => True

/-- The constraints on a model, one line for each kind. -/
def Admissible (limits : Limits) : WalkType → Prop
  | .brownian dt _ _ | .geometricBrownian dt _ _ | .meanReverting dt _ _ _
  | .jumpDiffusion dt _ _ _ _ _ | .custom dt _ _ _ _ _ | .telegraph dt _ _ _ _ _ _ => dt ≠ .zero
  | .logReturns dt _ _ autocorrelation =>
      dt ≠ .zero ∧ ∀ value, autocorrelation = some value → -1 ≤ value ∧ value ≤ 1
  | .garch dt _ _ alpha beta => dt ≠ .zero ∧ alpha.value + beta.value < 1
  | .heston dt _ _ _ _ _ rho => dt ≠ .zero ∧ -1 ≤ rho ∧ rho ≤ 1
  | .historical timeframe prices symbol =>
      (prices.length ≤ limits.maxHistoricalPrices ∧ ∀ price ∈ prices, price ≠ .zero) ∧
        (∀ name, symbol = some name → validateSymbol name = .ok ()) ∧
        StrictlyPositive timeframe

section Fields

variable {numerics : Numerics} {field : String} {value : F64}

theorem finiteField_eq_ok {kept : F64} :
    finiteField numerics field value = .ok kept ↔ value.isFinite = true ∧ kept = value := by
  unfold finiteField
  split_ifs with finite
  · simp [finite, eq_comm]
  · simp [finite]

theorem positiveField_eq_ok (exact : Exact numerics) {positive : Positive} :
    positiveField numerics field value = .ok positive ↔
      value = numerics.positiveToF64 positive := by
  unfold positiveField
  simp only [bind_eq_ok, finiteField_eq_ok, mapError_eq_ok, Numerics.positiveToF64, exact.toF64]
  constructor
  · rintro ⟨kept, ⟨finite, rfl⟩, accepted⟩
    cases kept with
    | nan => cases finite
    | infinite negative => cases finite
    | finite number => rw [(exact.positive number positive).mp accepted]
  · rintro rfl
    exact ⟨_, ⟨rfl, rfl⟩, (exact.positive _ positive).mpr rfl⟩

theorem strictlyPositiveField_eq_ok (exact : Exact numerics) {positive : Positive} :
    strictlyPositiveField numerics field value = .ok positive ↔
      value = numerics.positiveToF64 positive ∧ positive ≠ .zero := by
  unfold strictlyPositiveField
  simp only [bind_eq_ok, positiveField_eq_ok exact]
  constructor
  · rintro ⟨converted, rfl, accepted⟩
    split_ifs at accepted with zero
    cases accepted
    exact ⟨rfl, zero⟩
  · rintro ⟨rfl, strict⟩
    exact ⟨positive, rfl, if_neg strict⟩

theorem decimalField_eq_ok (exact : Exact numerics) {decimal : Decimal} :
    decimalField numerics field value = .ok decimal ↔ value = numerics.decimalToF64 decimal := by
  unfold decimalField
  simp only [bind_eq_ok, finiteField_eq_ok, mapError_eq_ok, Numerics.decimalToF64, exact.toF64]
  constructor
  · rintro ⟨kept, ⟨finite, rfl⟩, accepted⟩
    cases kept with
    | nan => cases finite
    | infinite negative => cases finite
    | finite number => rw [(exact.decimal number decimal).mp accepted]
  · rintro rfl
    exact ⟨_, ⟨rfl, rfl⟩, (exact.decimal _ decimal).mpr rfl⟩

theorem boundedDecimalField_eq_ok (exact : Exact numerics) {min max decimal : Decimal} :
    boundedDecimalField numerics field value min max = .ok decimal ↔
      value = numerics.decimalToF64 decimal ∧ min ≤ decimal ∧ decimal ≤ max := by
  unfold boundedDecimalField
  simp only [bind_eq_ok, finiteField_eq_ok]
  constructor
  · rintro ⟨kept, ⟨finite, rfl⟩, accepted⟩
    split_ifs at accepted with within
    obtain rfl := (decimalField_eq_ok exact).mp accepted
    rw [Numerics.decimalToF64, exact.toF64] at within
    exact ⟨rfl, of_decide_eq_true within⟩
  · rintro ⟨rfl, within⟩
    refine ⟨_, ⟨?_, rfl⟩, ?_⟩
    · rw [Numerics.decimalToF64, exact.toF64]
      rfl
    · have inside : F64.within (numerics.decimalToF64 decimal) min max = true := by
        rw [Numerics.decimalToF64, exact.toF64]
        exact decide_eq_true within
      rw [if_pos inside]
      exact (decimalField_eq_ok exact).mpr rfl

theorem optionalField_eq_ok {α β : Type} {check : α → Except ChainError β} {convert : β → α}
    {Passes : β → Prop} {given : Option α} {converted : Option β}
    (checks : ∀ value result, check value = .ok result ↔ value = convert result ∧ Passes result) :
    optionalField check given = .ok converted ↔
      given = converted.map convert ∧ ∀ result, converted = some result → Passes result := by
  cases given with
  | none => cases converted <;> simp [optionalField]
  | some value =>
      simp only [optionalField, map_eq_ok, checks]
      cases converted with
      | none => simp
      | some result => simp

theorem optionalPositive_eq_ok (exact : Exact numerics) {given : Option F64}
    {converted : Option Positive} :
    optionalField (positiveField numerics field) given = .ok converted ↔
      given = converted.map numerics.positiveToF64 := by
  cases given with
  | none => cases converted <;> simp [optionalField]
  | some value =>
      simp only [optionalField, map_eq_ok, positiveField_eq_ok exact]
      cases converted <;> simp

theorem optionalBounded_eq_ok (exact : Exact numerics) {min max : Decimal} {given : Option F64}
    {converted : Option Decimal} :
    optionalField (fun value => boundedDecimalField numerics field value min max) given =
        .ok converted ↔
      given = converted.map numerics.decimalToF64 ∧
        ∀ value, converted = some value → min ≤ value ∧ value ≤ max :=
  optionalField_eq_ok fun _ _ => boundedDecimalField_eq_ok exact

theorem timeFrameField_eq_ok (exact : Exact numerics) {given : ApiTimeFrame}
    {timeframe : TimeFrame} :
    timeFrameField numerics field given = .ok timeframe ↔
      given = ApiTimeFrame.ofTimeFrame numerics timeframe ∧ StrictlyPositive timeframe := by
  cases given with
  | custom periods =>
      simp only [timeFrameField, map_eq_ok, strictlyPositiveField_eq_ok exact]
      constructor
      · rintro ⟨positive, ⟨rfl, strict⟩, rfl⟩
        exact ⟨rfl, strict⟩
      · rintro ⟨same, strict⟩
        cases timeframe <;> cases same
        exact ⟨_, ⟨rfl, strict⟩, rfl⟩
  | _ => cases timeframe <;> simp [timeFrameField, ApiTimeFrame.ofTimeFrame, StrictlyPositive]

theorem pricesField_eq_ok (exact : Exact numerics) {given : List F64} {prices : List Positive} :
    pricesField numerics given = .ok prices ↔
      given = prices.map numerics.positiveToF64 ∧ ∀ price ∈ prices, price ≠ .zero := by
  induction given generalizing prices with
  | nil => cases prices <;> simp [pricesField]
  | cons first rest ih =>
      simp only [pricesField, bind_eq_ok, ih, strictlyPositiveField_eq_ok exact, pure, Except.pure,
        Except.ok.injEq]
      cases prices with
      | nil => simp
      | cons price others =>
          simp only [List.cons.injEq, List.map_cons, List.forall_mem_cons]
          constructor
          · rintro ⟨_, ⟨rfl, strict⟩, _, ⟨rfl, all⟩, rfl, rfl⟩
            exact ⟨⟨rfl, rfl⟩, strict, all⟩
          · rintro ⟨⟨rfl, rfl⟩, strict, all⟩
            exact ⟨_, ⟨rfl, strict⟩, _, ⟨rfl, all⟩, rfl, rfl⟩

end Fields

section Conversions

variable {numerics : Numerics} {limits : Limits} {api : ApiWalkType} {walk : WalkType}

theorem symbolField_eq_ok {field symbol : String} :
    symbolField field symbol = .ok () ↔ validateSymbol symbol = .ok () := by
  unfold symbolField
  exact mapError_eq_ok

theorem optionalSymbol_eq_ok {field : String} {symbol : Option String} :
    (∃ kept, optionalField (symbolField field) symbol = .ok kept) ↔
      ∀ name, symbol = some name → validateSymbol name = .ok () := by
  cases symbol with
  | none => simp [optionalField]
  | some name =>
      simp only [optionalField, map_eq_ok, Option.some.injEq, forall_eq']
      constructor
      · rintro ⟨_, ⟨⟩, checked, -⟩
        exact symbolField_eq_ok.mp checked
      · intro valid
        exact ⟨_, (), symbolField_eq_ok.mpr valid, rfl⟩

theorem atLeastOne_addF64 (exact : Exact numerics) (alpha beta : Positive) :
    atLeastOne (numerics.addF64 (numerics.positiveToF64 alpha) (numerics.positiveToF64 beta)) =
      decide (1 ≤ alpha.value + beta.value) := by
  simp only [Numerics.positiveToF64, exact.toF64, Numerics.addF64, exact.rounded, atLeastOne]

/-- What the boundary accepts is the spelling of an admissible model. -/
theorem admissible_of_tryIntoWalkType (exact : Exact numerics)
    (accepted : api.tryIntoWalkType numerics limits = .ok walk) :
    api = ApiWalkType.ofWalkType numerics walk ∧ Admissible limits walk := by
  cases api with
  | brownian dt drift volatility =>
      simp only [ApiWalkType.tryIntoWalkType, bind_eq_ok, strictlyPositiveField_eq_ok exact,
        decimalField_eq_ok exact, positiveField_eq_ok exact] at accepted
      obtain ⟨_, ⟨rfl, strict⟩, _, rfl, _, rfl, kept⟩ := accepted
      cases kept
      exact ⟨rfl, strict⟩
  | geometricBrownian dt drift volatility =>
      simp only [ApiWalkType.tryIntoWalkType, bind_eq_ok, strictlyPositiveField_eq_ok exact,
        decimalField_eq_ok exact, positiveField_eq_ok exact] at accepted
      obtain ⟨_, ⟨rfl, strict⟩, _, rfl, _, rfl, kept⟩ := accepted
      cases kept
      exact ⟨rfl, strict⟩
  | logReturns dt expectedReturn volatility autocorrelation =>
      simp only [ApiWalkType.tryIntoWalkType, bind_eq_ok, strictlyPositiveField_eq_ok exact,
        decimalField_eq_ok exact, positiveField_eq_ok exact,
        optionalBounded_eq_ok exact] at accepted
      obtain ⟨_, ⟨rfl, strict⟩, _, rfl, _, rfl, _, ⟨rfl, within⟩, kept⟩ := accepted
      cases kept
      exact ⟨rfl, ⟨strict, within⟩⟩
  | meanReverting dt volatility speed mean =>
      simp only [ApiWalkType.tryIntoWalkType, bind_eq_ok, strictlyPositiveField_eq_ok exact,
        positiveField_eq_ok exact] at accepted
      obtain ⟨_, ⟨rfl, strict⟩, _, rfl, _, rfl, _, rfl, kept⟩ := accepted
      cases kept
      exact ⟨rfl, strict⟩
  | jumpDiffusion dt drift volatility intensity jumpMean jumpVolatility =>
      simp only [ApiWalkType.tryIntoWalkType, bind_eq_ok, strictlyPositiveField_eq_ok exact,
        decimalField_eq_ok exact, positiveField_eq_ok exact] at accepted
      obtain ⟨_, ⟨rfl, strict⟩, _, rfl, _, rfl, _, rfl, _, rfl, _, rfl, kept⟩ := accepted
      cases kept
      exact ⟨rfl, strict⟩
  | garch dt drift volatility alpha beta =>
      simp only [ApiWalkType.tryIntoWalkType, bind_eq_ok, positiveField_eq_ok exact] at accepted
      obtain ⟨_, rfl, _, rfl, accepted⟩ := accepted
      rw [atLeastOne_addF64 exact] at accepted
      split_ifs at accepted with unstable
      simp only [bind_eq_ok, strictlyPositiveField_eq_ok exact, decimalField_eq_ok exact,
        positiveField_eq_ok exact] at accepted
      obtain ⟨_, ⟨rfl, strict⟩, _, rfl, _, rfl, kept⟩ := accepted
      cases kept
      exact ⟨rfl, strict, by simpa using unstable⟩
  | heston dt drift volatility kappa theta xi rho =>
      simp only [ApiWalkType.tryIntoWalkType, bind_eq_ok, strictlyPositiveField_eq_ok exact,
        decimalField_eq_ok exact, positiveField_eq_ok exact,
        boundedDecimalField_eq_ok exact] at accepted
      obtain ⟨_, ⟨rfl, strict⟩, _, rfl, _, rfl, _, rfl, _, rfl, _, rfl, _, ⟨rfl, within⟩, kept⟩ :=
        accepted
      cases kept
      exact ⟨rfl, ⟨strict, within⟩⟩
  | custom dt drift volatility vov volSpeed volMean =>
      simp only [ApiWalkType.tryIntoWalkType, bind_eq_ok, strictlyPositiveField_eq_ok exact,
        decimalField_eq_ok exact, positiveField_eq_ok exact] at accepted
      obtain ⟨_, ⟨rfl, strict⟩, _, rfl, _, rfl, _, rfl, _, rfl, _, rfl, kept⟩ := accepted
      cases kept
      exact ⟨rfl, strict⟩
  | telegraph dt drift volatility lambdaUp lambdaDown volMultiplierUp volMultiplierDown =>
      simp only [ApiWalkType.tryIntoWalkType, bind_eq_ok, strictlyPositiveField_eq_ok exact,
        decimalField_eq_ok exact, positiveField_eq_ok exact,
        optionalPositive_eq_ok exact] at accepted
      obtain ⟨_, ⟨rfl, strict⟩, _, rfl, _, rfl, _, rfl, _, rfl, _, rfl, _, rfl, kept⟩ := accepted
      cases kept
      exact ⟨rfl, strict⟩
  | historical timeframe prices symbol =>
      simp only [ApiWalkType.tryIntoWalkType] at accepted
      split_ifs at accepted with many
      simp only [bind_eq_ok, pricesField_eq_ok exact, timeFrameField_eq_ok exact] at accepted
      obtain ⟨kept, named, _, ⟨rfl, priced⟩, _, ⟨rfl, strict⟩, built⟩ := accepted
      cases built
      rw [List.length_map] at many
      exact ⟨rfl, ⟨not_lt.mp many, priced⟩, optionalSymbol_eq_ok.mp ⟨kept, named⟩, strict⟩

theorem tryIntoWalkType_ofWalkType (exact : Exact numerics) (admissible : Admissible limits walk) :
    (ApiWalkType.ofWalkType numerics walk).tryIntoWalkType numerics limits = .ok walk := by
  cases walk with
  | brownian dt drift volatility =>
      simp only [ApiWalkType.ofWalkType, ApiWalkType.tryIntoWalkType, bind_eq_ok,
        strictlyPositiveField_eq_ok exact, decimalField_eq_ok exact, positiveField_eq_ok exact]
      exact ⟨_, ⟨rfl, admissible⟩, _, rfl, _, rfl, rfl⟩
  | geometricBrownian dt drift volatility =>
      simp only [ApiWalkType.ofWalkType, ApiWalkType.tryIntoWalkType, bind_eq_ok,
        strictlyPositiveField_eq_ok exact, decimalField_eq_ok exact, positiveField_eq_ok exact]
      exact ⟨_, ⟨rfl, admissible⟩, _, rfl, _, rfl, rfl⟩
  | logReturns dt expectedReturn volatility autocorrelation =>
      simp only [ApiWalkType.ofWalkType, ApiWalkType.tryIntoWalkType, bind_eq_ok,
        strictlyPositiveField_eq_ok exact, decimalField_eq_ok exact, positiveField_eq_ok exact,
        optionalBounded_eq_ok exact]
      exact ⟨_, ⟨rfl, admissible.1⟩, _, rfl, _, rfl, _, ⟨rfl, admissible.2⟩, rfl⟩
  | meanReverting dt volatility speed mean =>
      simp only [ApiWalkType.ofWalkType, ApiWalkType.tryIntoWalkType, bind_eq_ok,
        strictlyPositiveField_eq_ok exact, positiveField_eq_ok exact]
      exact ⟨_, ⟨rfl, admissible⟩, _, rfl, _, rfl, _, rfl, rfl⟩
  | jumpDiffusion dt drift volatility intensity jumpMean jumpVolatility =>
      simp only [ApiWalkType.ofWalkType, ApiWalkType.tryIntoWalkType, bind_eq_ok,
        strictlyPositiveField_eq_ok exact, decimalField_eq_ok exact, positiveField_eq_ok exact]
      exact ⟨_, ⟨rfl, admissible⟩, _, rfl, _, rfl, _, rfl, _, rfl, _, rfl, rfl⟩
  | garch dt drift volatility alpha beta =>
      obtain ⟨strict, stationary⟩ := admissible
      have stable : atLeastOne (numerics.addF64 (numerics.positiveToF64 alpha)
          (numerics.positiveToF64 beta)) = false := by
        rw [atLeastOne_addF64 exact]
        exact decide_eq_false (not_le.mpr stationary)
      simp only [ApiWalkType.ofWalkType, ApiWalkType.tryIntoWalkType, stable, bind_eq_ok,
        positiveField_eq_ok exact]
      refine ⟨_, rfl, _, rfl, ?_⟩
      rw [if_neg Bool.false_ne_true]
      simp only [bind_eq_ok, strictlyPositiveField_eq_ok exact, decimalField_eq_ok exact,
        positiveField_eq_ok exact]
      exact ⟨_, ⟨rfl, strict⟩, _, rfl, _, rfl, rfl⟩
  | heston dt drift volatility kappa theta xi rho =>
      simp only [ApiWalkType.ofWalkType, ApiWalkType.tryIntoWalkType, bind_eq_ok,
        strictlyPositiveField_eq_ok exact, decimalField_eq_ok exact, positiveField_eq_ok exact,
        boundedDecimalField_eq_ok exact]
      exact ⟨_, ⟨rfl, admissible.1⟩, _, rfl, _, rfl, _, rfl, _, rfl, _, rfl, _,
        ⟨rfl, admissible.2⟩, rfl⟩
  | custom dt drift volatility vov volSpeed volMean =>
      simp only [ApiWalkType.ofWalkType, ApiWalkType.tryIntoWalkType, bind_eq_ok,
        strictlyPositiveField_eq_ok exact, decimalField_eq_ok exact, positiveField_eq_ok exact]
      exact ⟨_, ⟨rfl, admissible⟩, _, rfl, _, rfl, _, rfl, _, rfl, _, rfl, rfl⟩
  | telegraph dt drift volatility lambdaUp lambdaDown volMultiplierUp volMultiplierDown =>
      simp only [ApiWalkType.ofWalkType, ApiWalkType.tryIntoWalkType, bind_eq_ok,
        strictlyPositiveField_eq_ok exact, decimalField_eq_ok exact, positiveField_eq_ok exact,
        optionalPositive_eq_ok exact]
      exact ⟨_, ⟨rfl, admissible⟩, _, rfl, _, rfl, _, rfl, _, rfl, _, rfl, _, rfl, rfl⟩
  | historical timeframe prices symbol =>
      obtain ⟨⟨few, priced⟩, named, strict⟩ := admissible
      obtain ⟨kept, checked⟩ : ∃ kept, optionalField (symbolField "method.symbol") symbol =
          .ok kept := optionalSymbol_eq_ok.mpr named
      simp only [ApiWalkType.ofWalkType, ApiWalkType.tryIntoWalkType]
      rw [if_neg (by rw [List.length_map]; exact not_lt.mpr few)]
      simp only [bind_eq_ok, pricesField_eq_ok exact, timeFrameField_eq_ok exact]
      exact ⟨kept, checked, _, ⟨rfl, priced⟩, _, ⟨rfl, strict⟩, rfl⟩

theorem positiveToF64_injective (exact : Exact numerics) :
    Function.Injective numerics.positiveToF64 := by
  intro left right same
  simp only [Numerics.positiveToF64, exact.toF64, F64.finite.injEq] at same
  cases left
  cases right
  cases same
  rfl

theorem decimalToF64_injective (exact : Exact numerics) :
    Function.Injective numerics.decimalToF64 := by
  intro left right same
  simpa only [Numerics.decimalToF64, exact.toF64, F64.finite.injEq] using same

theorem ofTimeFrame_injective (exact : Exact numerics) :
    Function.Injective (ApiTimeFrame.ofTimeFrame numerics) := by
  intro left right same
  have periods := positiveToF64_injective exact
  cases left <;> cases right <;>
    simp_all [ApiTimeFrame.ofTimeFrame, periods.eq_iff]

theorem ofWalkType_injective (exact : Exact numerics) :
    Function.Injective (ApiWalkType.ofWalkType numerics) := by
  intro left right same
  have positives := positiveToF64_injective exact
  have decimals := decimalToF64_injective exact
  cases left <;> cases right <;>
    simp only [ApiWalkType.ofWalkType, reduceCtorEq, ApiWalkType.brownian.injEq,
      ApiWalkType.geometricBrownian.injEq, ApiWalkType.logReturns.injEq,
      ApiWalkType.meanReverting.injEq, ApiWalkType.jumpDiffusion.injEq, ApiWalkType.garch.injEq,
      ApiWalkType.heston.injEq, ApiWalkType.custom.injEq, ApiWalkType.telegraph.injEq,
      ApiWalkType.historical.injEq, positives.eq_iff, decimals.eq_iff,
      (Option.map_injective positives).eq_iff, (Option.map_injective decimals).eq_iff,
      (List.map_injective_iff.mpr positives).eq_iff, (ofTimeFrame_injective exact).eq_iff] at same
  all_goals simp only [same]

theorem validateWalkType_eq_ok (exact : Exact numerics) :
    validateWalkType numerics limits walk = .ok () ↔ Admissible limits walk := by
  unfold validateWalkType
  constructor
  · intro accepted
    obtain ⟨kept, converted, -⟩ := bind_eq_ok.mp accepted
    obtain ⟨same, admissible⟩ := admissible_of_tryIntoWalkType exact converted
    rwa [ofWalkType_injective exact same]
  · intro admissible
    rw [tryIntoWalkType_ofWalkType exact admissible]
    rfl

end Conversions

end OptionChainSimulator.Api
