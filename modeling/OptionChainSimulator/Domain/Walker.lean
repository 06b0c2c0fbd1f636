import Mathlib.Tactic
import Mathlib.Data.Stream.Defs
import OptionChainSimulator.Domain.Factors

namespace OptionChainSimulator.Domain

open Utils

/-! The walk kernels: one price path from a model, a first price and a sequence of random
draws. -/

inductive SimulationError where
  | walkError (reason : String)
  | invalidWalkType (expected : String)
  | garchStationarity (alpha beta : Positive)
  | invalidCorrelation (rho : Decimal)
  | invalidAutocorrelation (value : Decimal)
  | nonFinite (context : String) (value : F64)
  -- what `ystep_as_positive` answers where the first step has no positive value
  | ystep (reason : String)
  deriving DecidableEq

def jumpIntensityReason : String :=
  "jump_diffusion: intensity * dt must be < 1 (Bernoulli approximation);" ++
    " use a smaller dt or intensity"

/-- The model itself is outside the domain of its kernel. -/
def SimulationError.ModelDomain : SimulationError → Prop
  | .garchStationarity _ _ | .invalidCorrelation _ | .invalidAutocorrelation _ => True
  | .walkError reason => reason = jumpIntensityReason
  | _ => False

instance : DecidablePred SimulationError.ModelDomain
  | .garchStationarity _ _ | .invalidCorrelation _ | .invalidAutocorrelation _ => .isTrue trivial
  | .walkError reason => inferInstanceAs (Decidable (reason = jumpIntensityReason))
  | .invalidWalkType _ | .nonFinite _ _ | .ystep _ => .isFalse id

/-- One call to the generator: what it would give as a normal and as a uniform sample. -/
structure Draw where
  normal : Decimal
  uniform : Decimal

abbrev Draws := Stream' Draw

/-- What the kernels take from their libraries: the value of the first step, and the roots and
exponentials of decimals and doubles. -/
structure WalkLibrary (Chain : Type) where
  ystepAsPositive : WalkParams Chain → Except String Positive
  sqrt : Decimal → Option Decimal
  exp : Decimal → Decimal
  sqrtPositive : Positive → Positive
  sqrtF64 : Positive → F64
  fromF64 : F64 → Option Decimal

section Numbers

/-- `Positive::new_decimal(value).unwrap_or(Positive::ZERO)`. -/
def Positive.ofDecimal (value : Decimal) : Positive :=
  if nonneg : 0 ≤ value then ⟨value, nonneg⟩ else .zero

def Positive.mul (left right : Positive) : Positive := .ofDecimal (left.value * right.value)

@[simp] theorem Positive.mul_value (left right : Positive) :
    (left.mul right).value = left.value * right.value := by
  unfold Positive.mul Positive.ofDecimal
  rw [dif_pos (mul_nonneg left.nonneg right.nonneg)]

end Numbers

section Loops

/-- A loop that appends one value a turn to what it returns. -/
def unroll {m : Type → Type} [Monad m] {σ α : Type} (step : σ → m (α × σ)) :
    Nat → σ → m (List α × σ)
  | 0, state => pure ([], state)
  | turns + 1, state => do
      let (value, state) ← step state
      let (rest, state) ← unroll step turns state
      return (value :: rest, state)

theorem exists_of_unroll_error {σ α ε : Type} {step : σ → Except ε (α × σ)} {turns : Nat}
    {state : σ} {error : ε} (failed : unroll step turns state = .error error) :
    ∃ state, step state = .error error := by
  induction turns generalizing state with
  | zero => cases failed
  | succ turns ih =>
      rw [unroll] at failed
      obtain failed | ⟨next, -, failed⟩ := bind_eq_error.mp failed
      · exact ⟨state, failed⟩
      · obtain failed | ⟨_, _, impossible⟩ := bind_eq_error.mp failed
        · exact ih failed
        · cases impossible

end Loops

namespace Walker

def normalSample (draws : Draws) : Decimal × Draws := (draws.head.normal, draws.tail)

def uniformSample (draws : Draws) : Decimal × Draws := (draws.head.uniform, draws.tail)

def bernoulliJump (lambdaDt : Decimal) (draws : Draws) : Bool × Draws :=
  let (sample, draws) := uniformSample draws
  (sample < lambdaDt, draws)

section Kernels

variable {Chain : Type} (library : WalkLibrary Chain)

def ystep (params : WalkParams Chain) : Except SimulationError Positive :=
  (library.ystepAsPositive params).mapError .ystep

/-- `Decimal::from_f64(dt.to_f64().sqrt())`. -/
def sqrtDtDec (context : String) (dt : Positive) : Except SimulationError Decimal :=
  let sqrtDt := library.sqrtF64 dt
  okOr (library.fromF64 sqrtDt) (.nonFinite context sqrtDt)

def ouTurn (mu theta volatility dt sqrtDt : Positive) (state : Decimal × Draws) :
    Id (Positive × Decimal × Draws) :=
  let (x, draws) := state
  let (z, draws) := normalSample draws
  let dw := z * sqrtDt.value
  let drift := theta.value * max (mu.value - x) 0 * dt.value
  let diffusion := volatility.value * dw
  let x := max (x + (drift + diffusion)) 0
  pure (.ofDecimal x, x, draws)

def ouProcess (x0 mu theta volatility dt : Positive) (steps : Nat) (draws : Draws) :
    List Positive × Draws :=
  let sqrtDt := library.sqrtPositive dt
  let (rest, state) :=
    Id.run (unroll (ouTurn mu theta volatility dt sqrtDt) (steps - 1) (x0.value, draws))
  (x0 :: rest, state.2)

structure GarchState where
  price : Decimal
  var : Positive
  prevEps2 : Decimal
  draws : Draws

def garchTurn (dt : Positive) (drift : Decimal) (alpha beta omega : Positive)
    (sqrtDt : Decimal) (state : GarchState) : Id ((Positive × Positive) × GarchState) :=
  let var := Positive.ofDecimal
    (omega.value + alpha.value * state.prevEps2 + beta.value * state.var.value)
  let (z, draws) := normalSample state.draws
  let eps := z * (library.sqrtPositive var).value * sqrtDt
  let ret := drift * dt.value + eps
  let price := state.price * library.exp ret
  pure ((.ofDecimal price, library.sqrtPositive var), ⟨price, var, eps ^ 2, draws⟩)

def garchWalkSeeded (draws : Draws) (params : WalkParams Chain) : Except SimulationError WalkPath :=
  match params.walkType with
  | .garch dt drift volatility alpha beta => do
      if 1 ≤ alpha.value + beta.value then throw (.garchStationarity alpha beta)
      let price ← ystep library params
      let var := volatility.mul volatility
      let omega := Positive.ofDecimal (volatility.value ^ 2 * (1 - alpha.value - beta.value))
      let sqrtDt ← sqrtDtDec library "simulation::garch::sqrt_dt" dt
      let (rest, _) := Id.run (unroll (garchTurn library dt drift alpha beta omega sqrtDt)
        (params.size - 1) ⟨price.value, var, 0, draws⟩)
      return ⟨price :: rest.map Prod.fst, some (volatility :: rest.map Prod.snd)⟩
  | _ => .error (.invalidWalkType "GARCH")

structure HestonState where
  price : Positive
  variance : Decimal
  draws : Draws

def hestonTurn (dt : Positive) (drift : Decimal) (kappa theta xi : Positive)
    (rho dtSqrt oneMinusRhoSqSqrt : Decimal) (state : HestonState) :
    Except SimulationError ((Positive × Positive) × HestonState) := do
  let (z1, draws) := normalSample state.draws
  let (z, draws) := normalSample draws
  let z2 := rho * z1 + oneMinusRhoSqSqrt * z
  let varianceSqrt ← okOr (library.sqrt state.variance)
    (.walkError "Heston: sqrt(variance) failed (overflow)")
  let varianceNew := max (state.variance +
    kappa.value * (theta.value - state.variance) * dt.value +
    xi.value * varianceSqrt * z2 * dtSqrt) 0
  let avgVariance := (state.variance + varianceNew) / 2
  let avgVarianceSqrt ← okOr (library.sqrt avgVariance)
    (.walkError "Heston: sqrt(avg_variance) failed (overflow)")
  let priceChange := drift * dt.value + avgVarianceSqrt * z1 * dtSqrt
  let price := Positive.ofDecimal (state.price.value * library.exp priceChange)
  let volStep ← okOr (library.sqrt varianceNew)
    (.walkError "Heston: sqrt(variance) failed (overflow)")
  return ((price, .ofDecimal volStep), ⟨price, varianceNew, draws⟩)

def hestonWalkSeeded (draws : Draws) (params : WalkParams Chain) :
    Except SimulationError WalkPath :=
  match params.walkType with
  | .heston dt drift volatility kappa theta xi rho => do
      if rho < -1 ∨ 1 < rho then throw (.invalidCorrelation rho)
      let price ← ystep library params
      let variance := volatility.value * volatility.value
      let dtSqrt ← okOr (library.sqrt dt.value) (.walkError "Heston: sqrt(dt) failed (overflow)")
      let oneMinusRhoSqSqrt ← okOr (library.sqrt (1 - rho * rho))
        (.walkError "Heston: sqrt(1 - rho^2) failed (rho out of range or overflow)")
      let (rest, _) ← unroll
        (hestonTurn library dt drift kappa theta xi rho dtSqrt oneMinusRhoSqSqrt)
        (params.size - 1) ⟨price, variance, draws⟩
      return ⟨price :: rest.map Prod.fst, some (volatility :: rest.map Prod.snd)⟩
  | _ => .error (.invalidWalkType "Heston")

/-- The price loop of the custom model, over the volatilities generated before it. -/
def customPath (dt : Positive) (drift : Decimal) (sqrtDt : Positive) :
    List Positive → Decimal → Draws → List Positive
  | [], _, _ => []
  | vol :: vols, price, draws =>
      let (z, draws) := normalSample draws
      let sigmaAbs := vol.value * price
      let randomStep := z * sigmaAbs * sqrtDt.value
      let price := price + (drift * dt.value + randomStep)
      .ofDecimal (max price 0) :: customPath dt drift sqrtDt vols price draws

def customWalkSeeded (draws : Draws) (params : WalkParams Chain) :
    Except SimulationError WalkPath :=
  match params.walkType with
  | .custom dt drift volatility vov volSpeed volMean => do
      let (vols, draws) := ouProcess library volatility volMean volSpeed vov dt params.size draws
      let sqrtDt := library.sqrtPositive dt
      let price ← ystep library params
      let vols := vols.take (params.size - 1)
      return ⟨price :: customPath dt drift sqrtDt vols price.value draws,
        some (volatility :: vols)⟩
  | _ => .error (.invalidWalkType "Custom")

/-- `up` is the state `1`, otherwise it is `-1`. -/
structure TelegraphState where
  price : Decimal
  up : Bool
  draws : Draws

def telegraphTurn (dt : Positive) (drift : Decimal)
    (volatility lambdaUp lambdaDown volMultUp volMultDown sqrtDt : Positive)
    (state : TelegraphState) : Id ((Positive × Positive) × TelegraphState) :=
  let lambda := if state.up then lambdaDown.value else lambdaUp.value
  let transitionProb := 1 - library.exp (-lambda * dt.value)
  let (sample, draws) := normalSample state.draws
  let uniformSample := (|sample| + 1) / 2
  let up := if uniformSample < transitionProb then !state.up else state.up
  let currentVol := volatility.mul (if up then volMultUp else volMultDown)
  let (z, draws) := normalSample draws
  let diffusion := currentVol.value * sqrtDt.value * z
  let driftTerm := drift * dt.value
  let price := state.price * library.exp (driftTerm + diffusion)
  pure ((.ofDecimal price, currentVol), ⟨price, up, draws⟩)

def telegraphWalkSeeded (draws : Draws) (params : WalkParams Chain) :
    Except SimulationError WalkPath :=
  match params.walkType with
  | .telegraph dt drift volatility lambdaUp lambdaDown volMultiplierUp volMultiplierDown => do
      let price ← ystep library params
      let (sample, draws) := normalSample draws
      let sqrtDt := library.sqrtPositive dt
      let volMultUp := volMultiplierUp.getD .one
      let volMultDown := volMultiplierDown.getD .one
      let (rest, _) := Id.run (unroll
        (telegraphTurn library dt drift volatility lambdaUp lambdaDown volMultUp volMultDown sqrtDt)
        (params.size - 1) ⟨price.value, sample < 0, draws⟩)
      return ⟨price :: rest.map Prod.fst, some (volatility :: rest.map Prod.snd)⟩
  | _ => .error (.invalidWalkType "Telegraph")

def brownianTurn (dt : Positive) (drift sigmaAbs sqrtDt : Decimal) (state : Decimal × Draws) :
    Id (Positive × Decimal × Draws) :=
  let (x, draws) := state
  let (z, draws) := normalSample draws
  let diffusion := sigmaAbs * sqrtDt * z
  let driftTerm := drift * dt.value
  let x := x + (driftTerm + diffusion)
  pure (.ofDecimal (max x 0), x, draws)

def brownian (draws : Draws) (params : WalkParams Chain) :
    Except SimulationError (List Positive) :=
  match params.walkType with
  | .brownian dt drift volatility => do
      let start ← ystep library params
      let sigmaAbs := (volatility.mul start).value
      let sqrtDt ← sqrtDtDec library "simulation::brownian::sqrt_dt" dt
      let (rest, _) := Id.run (unroll (brownianTurn dt drift sigmaAbs sqrtDt)
        (params.size - 1) (start.value, draws))
      return start :: rest
  | _ => .error (.invalidWalkType "Brownian")

def geometricBrownianTurn (dt : Positive) (drift : Decimal) (volatility sqrtDt : Positive)
    (state : Positive × Draws) : Id (Positive × Positive × Draws) :=
  let (currentValue, draws) := state
  let (z, draws) := normalSample draws
  let diffusion := z * volatility.value * sqrtDt.value
  let driftTerm := drift * dt.value + diffusion
  let currentValue := Positive.ofDecimal (currentValue.value * library.exp driftTerm)
  pure (currentValue, currentValue, draws)

def geometricBrownian (draws : Draws) (params : WalkParams Chain) :
    Except SimulationError (List Positive) :=
  match params.walkType with
  | .geometricBrownian dt drift volatility => do
      let start ← ystep library params
      let sqrtDt := library.sqrtPositive dt
      let (rest, _) := Id.run (unroll (geometricBrownianTurn library dt drift volatility sqrtDt)
        (params.size - 1) (start, draws))
      return start :: rest
  | _ => .error (.invalidWalkType "GeometricBrownian")

structure LogReturnsState where
  price : Positive
  prevLogRet : Decimal
  draws : Draws

def logReturnsTurn (dt : Positive) (expectedReturn : Decimal) (volatility : Positive)
    (autocorrelation : Option Decimal) (sqrtDt : Decimal) (state : LogReturnsState) :
    Except SimulationError (Positive × LogReturnsState) := do
  let (z, draws) := normalSample state.draws
  let diffusion := z * volatility.value * sqrtDt
  let logRet := expectedReturn * dt.value + diffusion
  let logRet ←
    match autocorrelation with
    | some ac =>
        if -1 ≤ ac ∧ ac ≤ 1 then pure (logRet + ac * state.prevLogRet)
        else throw (.invalidAutocorrelation ac)
    | none => pure logRet
  let price := Positive.ofDecimal (state.price.value * library.exp logRet)
  return (price, ⟨price, logRet, draws⟩)

def logReturns (draws : Draws) (params : WalkParams Chain) :
    Except SimulationError (List Positive) :=
  match params.walkType with
  | .logReturns dt expectedReturn volatility autocorrelation => do
      let price ← ystep library params
      let sqrtDt ← sqrtDtDec library "simulation::log_returns::sqrt_dt" dt
      let (rest, _) ← unroll
        (logReturnsTurn library dt expectedReturn volatility autocorrelation sqrtDt)
        (params.size - 1) ⟨price, 0, draws⟩
      return price :: rest
  | _ => .error (.invalidWalkType "LogReturns")

def meanReverting (draws : Draws) (params : WalkParams Chain) :
    Except SimulationError (List Positive) :=
  match params.walkType with
  | .meanReverting dt volatility speed mean => do
      let sigmaAbs := volatility.mul mean
      let start ← ystep library params
      return (ouProcess library start mean speed sigmaAbs dt params.size draws).1
  | _ => .error (.invalidWalkType "MeanReverting")

def jumpDiffusionTurn (dt : Positive) (drift : Decimal) (volatility : Positive)
    (jumpMean : Decimal) (jumpVolatility sqrtDt : Positive) (lambdaDt : Decimal)
    (state : Decimal × Draws) : Id (Positive × Decimal × Draws) :=
  let (x, draws) := state
  let (z, draws) := normalSample draws
  let sigmaAbs := volatility.value * x
  let diffusion := sigmaAbs * sqrtDt.value * z
  let driftTerm := drift * dt.value
  let (jumps, draws) := bernoulliJump lambdaDt draws
  let (jump, draws) :=
    if jumps then
      let (sample, draws) := normalSample draws
      (jumpMean + sample * jumpVolatility.value, draws)
    else (0, draws)
  let x := max (x + (driftTerm + diffusion + jump)) 0
  pure (.ofDecimal x, x, draws)

def jumpDiffusion (draws : Draws) (params : WalkParams Chain) :
    Except SimulationError (List Positive) :=
  match params.walkType with
  | .jumpDiffusion dt drift volatility intensity jumpMean jumpVolatility => do
      let sqrtDt := library.sqrtPositive dt
      let lambdaDt := (intensity.mul dt).value
      if 1 ≤ lambdaDt then throw (.walkError jumpIntensityReason)
      let start ← ystep library params
      let (rest, _) := Id.run (unroll
        (jumpDiffusionTurn dt drift volatility jumpMean jumpVolatility sqrtDt lambdaDt)
        (params.size - 1) (start.value, draws))
      return start :: rest
  | _ => .error (.invalidWalkType "JumpDiffusion")

end Kernels

/-- The kernel of a model; a historical series is walked upstream. -/
def kernel {Chain : Type} (library : WalkLibrary Chain) :
    WalkType → Option (Draws → WalkParams Chain → Except SimulationError (List Positive))
  | .brownian .. => some (brownian library)
  | .geometricBrownian .. => some (geometricBrownian library)
  | .logReturns .. => some (logReturns library)
  | .meanReverting .. => some (meanReverting library)
  | .jumpDiffusion .. => some (jumpDiffusion library)
  | .garch .. => some fun draws params => WalkPath.prices <$> garchWalkSeeded library draws params
  | .heston .. => some fun draws params => WalkPath.prices <$> hestonWalkSeeded library draws params
  | .custom .. => some fun draws params => WalkPath.prices <$> customWalkSeeded library draws params
  | .telegraph .. =>
      some fun draws params => WalkPath.prices <$> telegraphWalkSeeded library draws params
  | .historical .. => none

section Domains

/-- Nothing in the computation finds fault with the model. -/
def Clean {α : Type} (computed : Except SimulationError α) : Prop :=
  ∀ error, computed = .error error → ¬ error.ModelDomain

namespace Clean

variable {α β : Type} {computed : Except SimulationError α}

theorem ok (value : α) : Clean (.ok value) := by
  intro error impossible
  cases impossible

theorem error {error : SimulationError} (harmless : ¬ error.ModelDomain) :
    Clean (.error error : Except SimulationError α) := by
  intro raised same
  cases same
  exact harmless

theorem bind {next : α → Except SimulationError β} (first : Clean computed)
    (rest : ∀ value, Clean (next value)) : Clean (computed >>= next) := by
  intro error failed
  obtain failed | ⟨value, -, failed⟩ := bind_eq_error.mp failed
  · exact first error failed
  · exact rest value error failed

theorem map {convert : α → β} (clean : Clean computed) : Clean (convert <$> computed) := by
  intro error failed
  cases computed with
  | error =>
      cases failed
      exact clean error rfl
  | ok value => cases failed

theorem okOr {value : Option α} {error : SimulationError} (harmless : ¬ error.ModelDomain) :
    Clean (okOr value error) := by
  cases value with
  | none => exact Clean.error harmless
  | some found => exact Clean.ok found

theorem unroll {σ : Type} {step : σ → Except SimulationError (α × σ)} {turns : Nat}
    {state : σ} (turn : ∀ state, Clean (step state)) : Clean (unroll step turns state) := by
  intro error failed
  obtain ⟨reached, failed⟩ := exists_of_unroll_error failed
  exact turn reached error failed

end Clean

variable {Chain : Type} {library : WalkLibrary Chain} {draws : Draws} {params : WalkParams Chain}

theorem ystep_clean : Clean (ystep library params) := by
  intro error failed
  obtain ⟨cause, -, rfl⟩ := mapError_eq_error.mp failed
  exact id

theorem sqrtDtDec_clean {context : String} {dt : Positive} : Clean (sqrtDtDec library context dt) :=
  Clean.okOr id

theorem hestonTurn_clean {dt kappa theta xi : Positive} {drift rho dtSqrt oneMinus : Decimal}
    (state : HestonState) :
    Clean (hestonTurn library dt drift kappa theta xi rho dtSqrt oneMinus state) := by
  unfold hestonTurn
  refine Clean.bind (Clean.okOr (by decide)) fun varianceSqrt => ?_
  refine Clean.bind (Clean.okOr (by decide)) fun avgVarianceSqrt => ?_
  refine Clean.bind (Clean.okOr (by decide)) fun volStep => ?_
  exact Clean.ok _

theorem logReturnsTurn_clean {dt volatility : Positive} {expectedReturn sqrtDt : Decimal}
    {autocorrelation : Option Decimal}
    (within : ∀ value, autocorrelation = some value → -1 ≤ value ∧ value ≤ 1)
    (state : LogReturnsState) :
    Clean (logReturnsTurn library dt expectedReturn volatility autocorrelation sqrtDt state) := by
  unfold logReturnsTurn
  cases autocorrelation with
  | none => exact Clean.ok _
  | some value =>
      simp only [if_pos (within value rfl)]
      exact Clean.ok _

/-- The model lies where its kernel is defined. -/
def InDomain : WalkType → Prop
  | .logReturns _ _ _ autocorrelation =>
      ∀ value, autocorrelation = some value → -1 ≤ value ∧ value ≤ 1
  | .jumpDiffusion dt _ _ intensity _ _ => intensity.value * dt.value < 1
  | .garch _ _ _ alpha beta => alpha.value + beta.value < 1
  | .heston _ _ _ _ _ _ rho => -1 ≤ rho ∧ rho ≤ 1
  | _ => True

theorem garch_clean {dt volatility alpha beta : Positive} {drift : Decimal}
    (walks : params.walkType = .garch dt drift volatility alpha beta)
    (stationary : alpha.value + beta.value < 1) : Clean (garchWalkSeeded library draws params) := by
  unfold garchWalkSeeded
  simp only [walks, if_neg (not_le.mpr stationary)]
  refine Clean.bind ystep_clean fun price => ?_
  refine Clean.bind sqrtDtDec_clean fun sqrtDt => ?_
  exact Clean.ok _

theorem heston_clean {dt volatility kappa theta xi : Positive} {drift rho : Decimal}
    (walks : params.walkType = .heston dt drift volatility kappa theta xi rho)
    (within : -1 ≤ rho ∧ rho ≤ 1) : Clean (hestonWalkSeeded library draws params) := by
  have inside : ¬ (rho < -1 ∨ 1 < rho) := by
    rw [not_or, not_lt, not_lt]
    exact within
  unfold hestonWalkSeeded
  simp only [walks, if_neg inside]
  refine Clean.bind ystep_clean fun price => ?_
  refine Clean.bind (Clean.okOr (by decide)) fun dtSqrt => ?_
  refine Clean.bind (Clean.okOr (by decide)) fun oneMinusRhoSqSqrt => ?_
  refine Clean.bind (Clean.unroll hestonTurn_clean) fun rest => ?_
  exact Clean.ok _

theorem custom_clean {dt volatility vov volSpeed volMean : Positive} {drift : Decimal}
    (walks : params.walkType = .custom dt drift volatility vov volSpeed volMean) :
    Clean (customWalkSeeded library draws params) := by
  unfold customWalkSeeded
  simp only [walks]
  refine Clean.bind ystep_clean fun price => ?_
  exact Clean.ok _

theorem telegraph_clean {dt volatility lambdaUp lambdaDown : Positive} {drift : Decimal}
    {volMultiplierUp volMultiplierDown : Option Positive}
    (walks : params.walkType = .telegraph dt drift volatility lambdaUp lambdaDown
      volMultiplierUp volMultiplierDown) : Clean (telegraphWalkSeeded library draws params) := by
  unfold telegraphWalkSeeded
  simp only [walks]
  refine Clean.bind ystep_clean fun price => ?_
  exact Clean.ok _

theorem jumpDiffusion_clean {dt volatility intensity jumpVolatility : Positive}
    {drift jumpMean : Decimal}
    (walks : params.walkType =
      .jumpDiffusion dt drift volatility intensity jumpMean jumpVolatility)
    (rare : intensity.value * dt.value < 1) : Clean (jumpDiffusion library draws params) := by
  unfold jumpDiffusion
  simp only [walks, Positive.mul_value, if_neg (not_le.mpr rare)]
  refine Clean.bind ystep_clean fun start => ?_
  exact Clean.ok _

theorem jumpDiffusion_refused {dt volatility intensity jumpVolatility : Positive}
    {drift jumpMean : Decimal}
    (walks : params.walkType =
      .jumpDiffusion dt drift volatility intensity jumpMean jumpVolatility)
    (frequent : 1 ≤ intensity.value * dt.value) :
    jumpDiffusion library draws params = .error (.walkError jumpIntensityReason) := by
  unfold jumpDiffusion
  simp only [walks, Positive.mul_value, if_pos frequent]
  rfl

/-- A kernel walks every model of its domain, up to the numerics and the first price. -/
theorem kernel_clean {walk : WalkType}
    {run : Draws → WalkParams Chain → Except SimulationError (List Positive)}
    (inDomain : InDomain walk) (found : kernel library walk = some run)
    (walks : params.walkType = walk) : Clean (run draws params) := by
  cases walk with
  | brownian dt drift volatility =>
      cases found
      unfold brownian
      simp only [walks]
      refine Clean.bind ystep_clean fun start => ?_
      refine Clean.bind sqrtDtDec_clean fun sqrtDt => ?_
      exact Clean.ok _
  | geometricBrownian dt drift volatility =>
      cases found
      unfold geometricBrownian
      simp only [walks]
      refine Clean.bind ystep_clean fun start => ?_
      exact Clean.ok _
  | logReturns dt expectedReturn volatility autocorrelation =>
      cases found
      unfold logReturns
      simp only [walks]
      refine Clean.bind ystep_clean fun price => ?_
      refine Clean.bind sqrtDtDec_clean fun sqrtDt => ?_
      refine Clean.bind (Clean.unroll (logReturnsTurn_clean inDomain)) fun rest => ?_
      exact Clean.ok _
  | meanReverting dt volatility speed mean =>
      cases found
      unfold meanReverting
      simp only [walks]
      refine Clean.bind ystep_clean fun start => ?_
      exact Clean.ok _
  | jumpDiffusion dt drift volatility intensity jumpMean jumpVolatility =>
      cases found
      exact jumpDiffusion_clean walks inDomain
  | garch dt drift volatility alpha beta =>
      cases found
      exact (garch_clean walks inDomain).map
  | heston dt drift volatility kappa theta xi rho =>
      cases found
      exact (heston_clean walks inDomain).map
  | custom dt drift volatility vov volSpeed volMean =>
      cases found
      exact (custom_clean walks).map
  | telegraph dt drift volatility lambdaUp lambdaDown volMultiplierUp volMultiplierDown =>
      cases found
      exact (telegraph_clean walks).map
  | historical timeframe prices symbol => cases found

end Domains

end Walker

end OptionChainSimulator.Domain
