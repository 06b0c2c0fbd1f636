import Mathlib.Tactic
import OptionChainSimulator.Domain.WalkPaths

namespace OptionChainSimulator.Domain

open Utils

/-! The walk kernels on decimals of ninety-six bits, whose operators panic on what does not fit. -/

/-- What ends a kernel early. -/
inductive Abort where
  | panic
  | failed (error : SimulationError)
  deriving DecidableEq

/-- `round` is what a decimal keeps of an exact result; `Decimal::exp` panics unless `expFits`. -/
structure DecimalLibrary (Chain : Type) extends WalkLibrary Chain where
  round : ℚ → Decimal
  expFits : Decimal → Bool

namespace MachineWalker

open Walker

variable {Chain : Type} (library : DecimalLibrary Chain)

/-- What an operator answers whose exact result this is. -/
def keep (exact : ℚ) : Except Abort Decimal :=
  okOr (Decimal.checked (library.round exact)) .panic

def expOf (exponent : Decimal) : Except Abort Decimal :=
  if library.expFits exponent then .ok (library.exp exponent) else .error .panic

def typed {α : Type} (computed : Except SimulationError α) : Except Abort α :=
  computed.mapError .failed

section Kernels

def ouTurn (mu theta volatility dt sqrtDt : Positive) (state : Decimal × Draws) :
    Except Abort (Positive × Decimal × Draws) := do
  let (x, draws) := state
  let (z, draws) := normalSample draws
  let dw ← keep library (z * sqrtDt.value)
  let pull ← if x < mu.value then keep library (mu.value - x) else pure 0
  let speed ← keep library (theta.value * pull)
  let drift ← keep library (speed * dt.value)
  let diffusion ← keep library (volatility.value * dw)
  let change ← keep library (drift + diffusion)
  let moved ← keep library (x + change)
  let x := max moved 0
  return (.ofDecimal x, x, draws)

def ouProcess (x0 mu theta volatility dt : Positive) (steps : Nat) (draws : Draws) :
    Except Abort (List Positive × Draws) := do
  let sqrtDt := library.sqrtPositive dt
  let (rest, state) ←
    unroll (ouTurn library mu theta volatility dt sqrtDt) (steps - 1) (x0.value, draws)
  return (x0 :: rest, state.2)

def garchTurn (dt : Positive) (drift : Decimal) (alpha beta omega : Positive)
    (sqrtDt : Decimal) (state : GarchState) :
    Except Abort ((Positive × Positive) × GarchState) := do
  let arch ← keep library (alpha.value * state.prevEps2)
  let shocked ← keep library (omega.value + arch)
  let persistent ← keep library (beta.value * state.var.value)
  let varNew ← keep library (shocked + persistent)
  let var := Positive.ofDecimal varNew
  let (z, draws) := normalSample state.draws
  let scaled ← keep library (z * (library.sqrtPositive var).value)
  let eps ← keep library (scaled * sqrtDt)
  let driftTerm ← keep library (drift * dt.value)
  let ret ← keep library (driftTerm + eps)
  let factor ← expOf library ret
  let price ← keep library (state.price * factor)
  let eps2 ← keep library (eps * eps)
  return ((.ofDecimal price, library.sqrtPositive var), ⟨price, var, eps2, draws⟩)

def garchWalkSeeded (draws : Draws) (params : WalkParams Chain) : Except Abort WalkPath :=
  match params.walkType with
  | .garch dt drift volatility alpha beta => do
      let persistence ← keep library (alpha.value + beta.value)
      if 1 ≤ persistence then .error (.failed (.garchStationarity alpha beta))
      else do
        let price ← typed (ystep library.toWalkLibrary params)
        let var ← keep library (volatility.value * volatility.value)
        let variance ← keep library (volatility.value * volatility.value)
        let less ← keep library (1 - alpha.value)
        let weight ← keep library (less - beta.value)
        let omega ← keep library (variance * weight)
        let sqrtDt ← typed (sqrtDtDec library.toWalkLibrary "simulation::garch::sqrt_dt" dt)
        let (rest, _) ← unroll (garchTurn library dt drift alpha beta (.ofDecimal omega) sqrtDt)
          (params.size - 1) ⟨price.value, .ofDecimal var, 0, draws⟩
        return ⟨price :: rest.map Prod.fst, some (volatility :: rest.map Prod.snd)⟩
  | _ => .error (.failed (.invalidWalkType "GARCH"))

def hestonTurn (dt : Positive) (drift : Decimal) (kappa theta xi : Positive)
    (rho dtSqrt oneMinusRhoSqSqrt : Decimal) (state : HestonState) :
    Except Abort ((Positive × Positive) × HestonState) := do
  let (z1, draws) := normalSample state.draws
  let (z, draws) := normalSample draws
  let shared ← keep library (rho * z1)
  let own ← keep library (oneMinusRhoSqSqrt * z)
  let z2 ← keep library (shared + own)
  let varianceSqrt ← typed <| okOr (library.sqrt state.variance)
    (.walkError "Heston: sqrt(variance) failed (overflow)")
  let gap ← keep library (theta.value - state.variance)
  let pull ← keep library (kappa.value * gap)
  let reversion ← keep library (pull * dt.value)
  let reverted ← keep library (state.variance + reversion)
  let volOfVol ← keep library (xi.value * varianceSqrt)
  let scaled ← keep library (volOfVol * z2)
  let shock ← keep library (scaled * dtSqrt)
  let moved ← keep library (reverted + shock)
  let varianceNew := max moved 0
  let twice ← keep library (state.variance + varianceNew)
  let avgVariance ← keep library (twice / 2)
  let avgVarianceSqrt ← typed <| okOr (library.sqrt avgVariance)
    (.walkError "Heston: sqrt(avg_variance) failed (overflow)")
  let driftTerm ← keep library (drift * dt.value)
  let noise ← keep library (avgVarianceSqrt * z1)
  let diffusion ← keep library (noise * dtSqrt)
  let priceChange ← keep library (driftTerm + diffusion)
  let factor ← expOf library priceChange
  let product ← keep library (state.price.value * factor)
  let price := Positive.ofDecimal product
  let volStep ← typed <| okOr (library.sqrt varianceNew)
    (.walkError "Heston: sqrt(variance) failed (overflow)")
  return ((price, .ofDecimal volStep), ⟨price, varianceNew, draws⟩)

def hestonWalkSeeded (draws : Draws) (params : WalkParams Chain) : Except Abort WalkPath :=
  match params.walkType with
  | .heston dt drift volatility kappa theta xi rho => do
      if rho < -1 ∨ 1 < rho then .error (.failed (.invalidCorrelation rho))
      else do
        let price ← typed (ystep library.toWalkLibrary params)
        let variance ← keep library (volatility.value * volatility.value)
        let dtSqrt ← typed <|
          okOr (library.sqrt dt.value) (.walkError "Heston: sqrt(dt) failed (overflow)")
        let rhoSq ← keep library (rho * rho)
        let oneMinusRhoSq ← keep library (1 - rhoSq)
        let oneMinusRhoSqSqrt ← typed <| okOr (library.sqrt oneMinusRhoSq)
          (.walkError "Heston: sqrt(1 - rho^2) failed (rho out of range or overflow)")
        let (rest, _) ← unroll
          (hestonTurn library dt drift kappa theta xi rho dtSqrt oneMinusRhoSqSqrt)
          (params.size - 1) ⟨price, variance, draws⟩
        return ⟨price :: rest.map Prod.fst, some (volatility :: rest.map Prod.snd)⟩
  | _ => .error (.failed (.invalidWalkType "Heston"))

structure CustomState where
  price : Decimal
  vols : List Positive
  draws : Draws

/-- One turn of the price loop of the custom model, over the volatilities still to come. -/
def customTurn (dt : Positive) (drift : Decimal) (sqrtDt : Positive) (state : CustomState) :
    Except Abort (Positive × CustomState) := do
  let vol := state.vols.headD .zero
  let (z, draws) := normalSample state.draws
  let sigmaAbs ← keep library (vol.value * state.price)
  let noise ← keep library (z * sigmaAbs)
  let randomStep ← keep library (noise * sqrtDt.value)
  let driftTerm ← keep library (drift * dt.value)
  let change ← keep library (driftTerm + randomStep)
  let price ← keep library (state.price + change)
  return (.ofDecimal (max price 0), ⟨price, state.vols.tail, draws⟩)

def customWalkSeeded (draws : Draws) (params : WalkParams Chain) : Except Abort WalkPath :=
  match params.walkType with
  | .custom dt drift volatility vov volSpeed volMean => do
      let (vols, draws) ← ouProcess library volatility volMean volSpeed vov dt params.size draws
      let sqrtDt := library.sqrtPositive dt
      let price ← typed (ystep library.toWalkLibrary params)
      let vols := vols.take (params.size - 1)
      let (rest, _) ← unroll (customTurn library dt drift sqrtDt) vols.length
        ⟨price.value, vols, draws⟩
      return ⟨price :: rest, some (volatility :: vols)⟩
  | _ => .error (.failed (.invalidWalkType "Custom"))

def telegraphTurn (dt : Positive) (drift : Decimal)
    (volatility lambdaUp lambdaDown volMultUp volMultDown sqrtDt : Positive)
    (state : TelegraphState) : Except Abort ((Positive × Positive) × TelegraphState) := do
  let lambda := if state.up then lambdaDown.value else lambdaUp.value
  let rate ← keep library (-lambda * dt.value)
  let kept ← expOf library rate
  let transitionProb ← keep library (1 - kept)
  let (sample, draws) := normalSample state.draws
  let shifted ← keep library (|sample| + 1)
  let uniformSample ← keep library (shifted / 2)
  let up := if uniformSample < transitionProb then !state.up else state.up
  let vol ← keep library (volatility.value * (if up then volMultUp else volMultDown).value)
  let (z, draws) := normalSample draws
  let scaled ← keep library (vol * sqrtDt.value)
  let diffusion ← keep library (scaled * z)
  let driftTerm ← keep library (drift * dt.value)
  let priceChange ← keep library (driftTerm + diffusion)
  let factor ← expOf library priceChange
  let price ← keep library (state.price * factor)
  return ((.ofDecimal price, .ofDecimal vol), ⟨price, up, draws⟩)

def telegraphWalkSeeded (draws : Draws) (params : WalkParams Chain) : Except Abort WalkPath :=
  match params.walkType with
  | .telegraph dt drift volatility lambdaUp lambdaDown volMultiplierUp volMultiplierDown => do
      let price ← typed (ystep library.toWalkLibrary params)
      let (sample, draws) := normalSample draws
      let sqrtDt := library.sqrtPositive dt
      let volMultUp := volMultiplierUp.getD .one
      let volMultDown := volMultiplierDown.getD .one
      let (rest, _) ← unroll
        (telegraphTurn library dt drift volatility lambdaUp lambdaDown volMultUp volMultDown sqrtDt)
        (params.size - 1) ⟨price.value, sample < 0, draws⟩
      return ⟨price :: rest.map Prod.fst, some (volatility :: rest.map Prod.snd)⟩
  | _ => .error (.failed (.invalidWalkType "Telegraph"))

def brownianTurn (dt : Positive) (drift sigmaAbs sqrtDt : Decimal) (state : Decimal × Draws) :
    Except Abort (Positive × Decimal × Draws) := do
  let (x, draws) := state
  let (z, draws) := normalSample draws
  let scaled ← keep library (sigmaAbs * sqrtDt)
  let diffusion ← keep library (scaled * z)
  let driftTerm ← keep library (drift * dt.value)
  let change ← keep library (driftTerm + diffusion)
  let x ← keep library (x + change)
  return (.ofDecimal (max x 0), x, draws)

def brownian (draws : Draws) (params : WalkParams Chain) : Except Abort (List Positive) :=
  match params.walkType with
  | .brownian dt drift volatility => do
      let start ← typed (ystep library.toWalkLibrary params)
      let sigmaAbs ← keep library (volatility.value * start.value)
      let sqrtDt ← typed (sqrtDtDec library.toWalkLibrary "simulation::brownian::sqrt_dt" dt)
      let (rest, _) ← unroll (brownianTurn library dt drift sigmaAbs sqrtDt)
        (params.size - 1) (start.value, draws)
      return start :: rest
  | _ => .error (.failed (.invalidWalkType "Brownian"))

def geometricBrownianTurn (dt : Positive) (drift : Decimal) (volatility sqrtDt : Positive)
    (state : Positive × Draws) : Except Abort (Positive × Positive × Draws) := do
  let (currentValue, draws) := state
  let (z, draws) := normalSample draws
  let noise ← keep library (z * volatility.value)
  let diffusion ← keep library (noise * sqrtDt.value)
  let driftPart ← keep library (drift * dt.value)
  let driftTerm ← keep library (driftPart + diffusion)
  let factor ← expOf library driftTerm
  let product ← keep library (currentValue.value * factor)
  let currentValue := Positive.ofDecimal product
  return (currentValue, currentValue, draws)

def geometricBrownian (draws : Draws) (params : WalkParams Chain) :
    Except Abort (List Positive) :=
  match params.walkType with
  | .geometricBrownian dt drift volatility => do
      let start ← typed (ystep library.toWalkLibrary params)
      let sqrtDt := library.sqrtPositive dt
      let (rest, _) ← unroll (geometricBrownianTurn library dt drift volatility sqrtDt)
        (params.size - 1) (start, draws)
      return start :: rest
  | _ => .error (.failed (.invalidWalkType "GeometricBrownian"))

def logReturnsTurn (dt : Positive) (expectedReturn : Decimal) (volatility : Positive)
    (autocorrelation : Option Decimal) (sqrtDt : Decimal) (state : LogReturnsState) :
    Except Abort (Positive × LogReturnsState) := do
  let (z, draws) := normalSample state.draws
  let noise ← keep library (z * volatility.value)
  let diffusion ← keep library (noise * sqrtDt)
  let expected ← keep library (expectedReturn * dt.value)
  let uncorrelated ← keep library (expected + diffusion)
  let logRet ←
    match autocorrelation with
    | some ac =>
        if -1 ≤ ac ∧ ac ≤ 1 then do
          let carried ← keep library (ac * state.prevLogRet)
          keep library (uncorrelated + carried)
        else .error (.failed (.invalidAutocorrelation ac))
    | none => .ok uncorrelated
  let factor ← expOf library logRet
  let product ← keep library (state.price.value * factor)
  let price := Positive.ofDecimal product
  return (price, ⟨price, logRet, draws⟩)

def logReturns (draws : Draws) (params : WalkParams Chain) : Except Abort (List Positive) :=
  match params.walkType with
  | .logReturns dt expectedReturn volatility autocorrelation => do
      let price ← typed (ystep library.toWalkLibrary params)
      let sqrtDt ← typed (sqrtDtDec library.toWalkLibrary "simulation::log_returns::sqrt_dt" dt)
      let (rest, _) ← unroll
        (logReturnsTurn library dt expectedReturn volatility autocorrelation sqrtDt)
        (params.size - 1) ⟨price, 0, draws⟩
      return price :: rest
  | _ => .error (.failed (.invalidWalkType "LogReturns"))

def meanReverting (draws : Draws) (params : WalkParams Chain) : Except Abort (List Positive) :=
  match params.walkType with
  | .meanReverting dt volatility speed mean => do
      let sigmaAbs ← keep library (volatility.value * mean.value)
      let start ← typed (ystep library.toWalkLibrary params)
      let (values, _) ←
        ouProcess library start mean speed (.ofDecimal sigmaAbs) dt params.size draws
      return values
  | _ => .error (.failed (.invalidWalkType "MeanReverting"))

def jumpDiffusionTurn (dt : Positive) (drift : Decimal) (volatility : Positive)
    (jumpMean : Decimal) (jumpVolatility sqrtDt : Positive) (lambdaDt : Decimal)
    (state : Decimal × Draws) : Except Abort (Positive × Decimal × Draws) := do
  let (x, draws) := state
  let (z, draws) := normalSample draws
  let sigmaAbs ← keep library (volatility.value * x)
  let scaled ← keep library (sigmaAbs * sqrtDt.value)
  let diffusion ← keep library (scaled * z)
  let driftTerm ← keep library (drift * dt.value)
  let (jumps, draws) := bernoulliJump lambdaDt draws
  let (jump, draws) ←
    if jumps then do
      let (sample, draws) := normalSample draws
      let size ← keep library (sample * jumpVolatility.value)
      let jump ← keep library (jumpMean + size)
      pure (jump, draws)
    else pure (0, draws)
  let continuous ← keep library (driftTerm + diffusion)
  let change ← keep library (continuous + jump)
  let moved ← keep library (x + change)
  let x := max moved 0
  return (.ofDecimal x, x, draws)

def jumpDiffusion (draws : Draws) (params : WalkParams Chain) : Except Abort (List Positive) :=
  match params.walkType with
  | .jumpDiffusion dt drift volatility intensity jumpMean jumpVolatility => do
      let sqrtDt := library.sqrtPositive dt
      let lambdaDt ← keep library (intensity.value * dt.value)
      if 1 ≤ lambdaDt then .error (.failed (.walkError jumpIntensityReason))
      else do
        let start ← typed (ystep library.toWalkLibrary params)
        let (rest, _) ← unroll
          (jumpDiffusionTurn library dt drift volatility jumpMean jumpVolatility sqrtDt lambdaDt)
          (params.size - 1) (start.value, draws)
        return start :: rest
  | _ => .error (.failed (.invalidWalkType "JumpDiffusion"))

end Kernels

/-- The kernel of a model with the volatilities it reports. -/
def kernel : WalkType → Option (Draws → WalkParams Chain → Except Abort WalkPath)
  | .brownian .. => some fun draws params => (⟨·, none⟩) <$> brownian library draws params
  | .geometricBrownian .. =>
      some fun draws params => (⟨·, none⟩) <$> geometricBrownian library draws params
  | .logReturns .. => some fun draws params => (⟨·, none⟩) <$> logReturns library draws params
  | .meanReverting .. =>
      some fun draws params => (⟨·, none⟩) <$> meanReverting library draws params
  | .jumpDiffusion .. =>
      some fun draws params => (⟨·, none⟩) <$> jumpDiffusion library draws params
  | .garch .. => some (garchWalkSeeded library)
  | .heston .. => some (hestonWalkSeeded library)
  | .custom .. => some (customWalkSeeded library)
  | .telegraph .. => some (telegraphWalkSeeded library)
  | .historical .. => none

section Answers

variable {library} {α β : Type}

/-- A range of ninety-six bits and a sign. -/
def InRange (value : Decimal) : Prop := -decimalMax ≤ value ∧ value ≤ decimalMax

instance : DecidablePred InRange := fun value =>
  inferInstanceAs (Decidable (-decimalMax ≤ value ∧ value ≤ decimalMax))

theorem keep_eq (exact : ℚ) :
    keep library exact =
      if InRange (library.round exact) then .ok (library.round exact) else .error .panic := by
  unfold keep Decimal.checked
  by_cases fits : InRange (library.round exact)
  · rw [if_pos fits]
    exact congrArg (okOr · Abort.panic) (if_pos fits)
  · rw [if_neg fits]
    exact congrArg (okOr · Abort.panic) (if_neg fits)

theorem keep_bind_eq_ok {exact : ℚ} {next : Decimal → Except Abort β} {answer : β} :
    (keep library exact >>= next) = .ok answer ↔
      InRange (library.round exact) ∧ next (library.round exact) = .ok answer := by
  rw [keep_eq]
  split_ifs with fits
  · rw [and_iff_right fits]
    rfl
  · rw [iff_false_right (fun both => fits both.1)]
    rintro ⟨⟩

theorem expOf_bind_eq_ok {exponent : Decimal} {next : Decimal → Except Abort β} {answer : β} :
    (expOf library exponent >>= next) = .ok answer ↔
      library.expFits exponent = true ∧ next (library.exp exponent) = .ok answer := by
  unfold expOf
  split_ifs with fits
  · rw [and_iff_right fits]
    rfl
  · rw [iff_false_right (fun both => fits both.1)]
    rintro ⟨⟩

theorem typed_bind_eq_ok {computed : Except SimulationError α} {next : α → Except Abort β}
    {answer : β} :
    (typed computed >>= next) = .ok answer ↔
      ∃ value, computed = .ok value ∧ next value = .ok answer := by
  cases computed with
  | ok value =>
      constructor
      · exact fun answered => ⟨value, rfl, answered⟩
      · rintro ⟨_, ⟨⟩, answered⟩
        exact answered
  | error failure =>
      constructor
      · rintro ⟨⟩
      · rintro ⟨_, ⟨⟩, -⟩

theorem ok_bind_eq_ok {value : α} {next : α → Except Abort β} {answer : β} :
    ((.ok value : Except Abort α) >>= next) = .ok answer ↔ next value = .ok answer := Iff.rfl

theorem pure_eq_ok {value answer : α} :
    (pure value : Except Abort α) = .ok answer ↔ value = answer := by
  constructor
  · rintro ⟨⟩
    rfl
  · rintro rfl
    rfl

end Answers

/-! What a kernel answers with. -/

section Answered

variable {library} {draws : Draws} {params : WalkParams Chain} {dt volatility : Positive}
  {drift : Decimal} {prices : List Positive} {path : WalkPath}

theorem of_brownian (walks : params.walkType = .brownian dt drift volatility)
    (walked : brownian library draws params = .ok prices) :
    ∃ start sqrtDt rest final, ystep library.toWalkLibrary params = .ok start ∧
      sqrtDtDec library.toWalkLibrary "simulation::brownian::sqrt_dt" dt = .ok sqrtDt ∧
      unroll (brownianTurn library dt drift (library.round (volatility.value * start.value)) sqrtDt)
        (params.size - 1) (start.value, draws) = .ok (rest, final) ∧
      prices = start :: rest := by
  simp only [brownian, walks, typed_bind_eq_ok, keep_bind_eq_ok] at walked
  obtain ⟨start, stepped, -, sqrtDt, rooted, walked⟩ := walked
  obtain ⟨⟨rest, final⟩, unrolled, kept⟩ := bind_eq_ok.mp walked
  cases kept
  exact ⟨start, sqrtDt, rest, final, stepped, rooted, unrolled, rfl⟩

theorem of_geometricBrownian (walks : params.walkType = .geometricBrownian dt drift volatility)
    (walked : geometricBrownian library draws params = .ok prices) :
    ∃ start rest final, ystep library.toWalkLibrary params = .ok start ∧
      unroll (geometricBrownianTurn library dt drift volatility (library.sqrtPositive dt))
        (params.size - 1) (start, draws) = .ok (rest, final) ∧
      prices = start :: rest := by
  simp only [geometricBrownian, walks, typed_bind_eq_ok] at walked
  obtain ⟨start, stepped, walked⟩ := walked
  obtain ⟨⟨rest, final⟩, unrolled, kept⟩ := bind_eq_ok.mp walked
  cases kept
  exact ⟨start, rest, final, stepped, unrolled, rfl⟩

theorem of_logReturns {autocorrelation : Option Decimal}
    (walks : params.walkType = .logReturns dt drift volatility autocorrelation)
    (walked : logReturns library draws params = .ok prices) :
    ∃ start sqrtDt rest final, ystep library.toWalkLibrary params = .ok start ∧
      sqrtDtDec library.toWalkLibrary "simulation::log_returns::sqrt_dt" dt = .ok sqrtDt ∧
      unroll (logReturnsTurn library dt drift volatility autocorrelation sqrtDt)
        (params.size - 1) ⟨start, 0, draws⟩ = .ok (rest, final) ∧
      prices = start :: rest := by
  simp only [logReturns, walks, typed_bind_eq_ok] at walked
  obtain ⟨start, stepped, sqrtDt, rooted, walked⟩ := walked
  obtain ⟨⟨rest, final⟩, unrolled, kept⟩ := bind_eq_ok.mp walked
  cases kept
  exact ⟨start, sqrtDt, rest, final, stepped, rooted, unrolled, rfl⟩

theorem of_meanReverting {speed mean : Positive}
    (walks : params.walkType = .meanReverting dt volatility speed mean)
    (walked : meanReverting library draws params = .ok prices) :
    ∃ start later, ystep library.toWalkLibrary params = .ok start ∧
      ouProcess library start mean speed
        (.ofDecimal (library.round (volatility.value * mean.value))) dt params.size draws =
          .ok (prices, later) := by
  simp only [meanReverting, walks, keep_bind_eq_ok, typed_bind_eq_ok] at walked
  obtain ⟨-, start, stepped, walked⟩ := walked
  obtain ⟨⟨values, later⟩, spread, kept⟩ := bind_eq_ok.mp walked
  cases kept
  exact ⟨start, later, stepped, spread⟩

theorem of_ouProcess {x0 mu theta : Positive} {steps : Nat} {later : Draws}
    (walked : ouProcess library x0 mu theta volatility dt steps draws = .ok (prices, later)) :
    ∃ rest final, unroll (ouTurn library mu theta volatility dt (library.sqrtPositive dt))
        (steps - 1) (x0.value, draws) = .ok (rest, final) ∧
      prices = x0 :: rest ∧ later = final.2 := by
  obtain ⟨⟨rest, final⟩, unrolled, kept⟩ := bind_eq_ok.mp walked
  cases kept
  exact ⟨rest, final, unrolled, rfl, rfl⟩

theorem of_jumpDiffusion {intensity jumpVolatility : Positive} {jumpMean : Decimal}
    (walks : params.walkType =
      .jumpDiffusion dt drift volatility intensity jumpMean jumpVolatility)
    (walked : jumpDiffusion library draws params = .ok prices) :
    ∃ start rest final, ystep library.toWalkLibrary params = .ok start ∧
      ¬ 1 ≤ library.round (intensity.value * dt.value) ∧
      unroll (jumpDiffusionTurn library dt drift volatility jumpMean jumpVolatility
          (library.sqrtPositive dt) (library.round (intensity.value * dt.value)))
        (params.size - 1) (start.value, draws) = .ok (rest, final) ∧
      prices = start :: rest := by
  simp only [jumpDiffusion, walks, keep_bind_eq_ok] at walked
  obtain ⟨-, walked⟩ := walked
  split_ifs at walked with frequent
  simp only [typed_bind_eq_ok] at walked
  obtain ⟨start, stepped, walked⟩ := walked
  obtain ⟨⟨rest, final⟩, unrolled, kept⟩ := bind_eq_ok.mp walked
  cases kept
  exact ⟨start, rest, final, stepped, frequent, unrolled, rfl⟩

theorem of_garchWalkSeeded {alpha beta : Positive}
    (walks : params.walkType = .garch dt drift volatility alpha beta)
    (walked : garchWalkSeeded library draws params = .ok path) :
    ∃ start sqrtDt rest final, ystep library.toWalkLibrary params = .ok start ∧
      ¬ 1 ≤ library.round (alpha.value + beta.value) ∧
      sqrtDtDec library.toWalkLibrary "simulation::garch::sqrt_dt" dt = .ok sqrtDt ∧
      unroll (garchTurn library dt drift alpha beta
          (.ofDecimal (library.round (library.round (volatility.value * volatility.value) *
            library.round (library.round (1 - alpha.value) - beta.value)))) sqrtDt)
        (params.size - 1)
        ⟨start.value, .ofDecimal (library.round (volatility.value * volatility.value)), 0, draws⟩ =
          .ok (rest, final) ∧
      path = ⟨start :: rest.map Prod.fst, some (volatility :: rest.map Prod.snd)⟩ := by
  simp only [garchWalkSeeded, walks, keep_bind_eq_ok] at walked
  obtain ⟨-, walked⟩ := walked
  split_ifs at walked with unstable
  simp only [typed_bind_eq_ok, keep_bind_eq_ok] at walked
  obtain ⟨start, stepped, -, -, -, -, -, sqrtDt, rooted, walked⟩ := walked
  obtain ⟨⟨rest, final⟩, unrolled, kept⟩ := bind_eq_ok.mp walked
  cases kept
  exact ⟨start, sqrtDt, rest, final, stepped, unstable, rooted, unrolled, rfl⟩

theorem of_hestonWalkSeeded {kappa theta xi : Positive} {rho : Decimal}
    (walks : params.walkType = .heston dt drift volatility kappa theta xi rho)
    (walked : hestonWalkSeeded library draws params = .ok path) :
    ∃ start dtSqrt oneMinus rest final, ystep library.toWalkLibrary params = .ok start ∧
      ¬ (rho < -1 ∨ 1 < rho) ∧ library.sqrt dt.value = some dtSqrt ∧
      library.sqrt (library.round (1 - library.round (rho * rho))) = some oneMinus ∧
      unroll (hestonTurn library dt drift kappa theta xi rho dtSqrt oneMinus) (params.size - 1)
        ⟨start, library.round (volatility.value * volatility.value), draws⟩ =
          .ok (rest, final) ∧
      path = ⟨start :: rest.map Prod.fst, some (volatility :: rest.map Prod.snd)⟩ := by
  simp only [hestonWalkSeeded, walks] at walked
  split_ifs at walked with outside
  simp only [typed_bind_eq_ok, keep_bind_eq_ok, okOr_eq_ok] at walked
  obtain ⟨start, stepped, -, dtSqrt, rooted, -, -, oneMinus, complement, walked⟩ := walked
  obtain ⟨⟨rest, final⟩, unrolled, kept⟩ := bind_eq_ok.mp walked
  cases kept
  exact ⟨start, dtSqrt, oneMinus, rest, final, stepped, outside, rooted, complement, unrolled, rfl⟩

theorem of_customWalkSeeded {vov volSpeed volMean : Positive}
    (walks : params.walkType = .custom dt drift volatility vov volSpeed volMean)
    (walked : customWalkSeeded library draws params = .ok path) :
    ∃ vols later start rest final,
      ouProcess library volatility volMean volSpeed vov dt params.size draws = .ok (vols, later) ∧
      ystep library.toWalkLibrary params = .ok start ∧
      unroll (customTurn library dt drift (library.sqrtPositive dt))
        (vols.take (params.size - 1)).length
        ⟨start.value, vols.take (params.size - 1), later⟩ = .ok (rest, final) ∧
      path = ⟨start :: rest, some (volatility :: vols.take (params.size - 1))⟩ := by
  simp only [customWalkSeeded, walks] at walked
  obtain ⟨⟨vols, later⟩, spread, walked⟩ := bind_eq_ok.mp walked
  simp only [typed_bind_eq_ok] at walked
  obtain ⟨start, stepped, walked⟩ := walked
  obtain ⟨⟨rest, final⟩, unrolled, kept⟩ := bind_eq_ok.mp walked
  cases kept
  exact ⟨vols, later, start, rest, final, spread, stepped, unrolled, rfl⟩

theorem of_telegraphWalkSeeded {lambdaUp lambdaDown : Positive}
    {volMultiplierUp volMultiplierDown : Option Positive}
    (walks : params.walkType = .telegraph dt drift volatility lambdaUp lambdaDown
      volMultiplierUp volMultiplierDown)
    (walked : telegraphWalkSeeded library draws params = .ok path) :
    ∃ start rest final, ystep library.toWalkLibrary params = .ok start ∧
      unroll (telegraphTurn library dt drift volatility lambdaUp lambdaDown
          (volMultiplierUp.getD .one) (volMultiplierDown.getD .one) (library.sqrtPositive dt))
        (params.size - 1) ⟨start.value, (normalSample draws).1 < 0, (normalSample draws).2⟩ =
          .ok (rest, final) ∧
      path = ⟨start :: rest.map Prod.fst, some (volatility :: rest.map Prod.snd)⟩ := by
  simp only [telegraphWalkSeeded, walks, typed_bind_eq_ok, normalSample] at walked
  obtain ⟨start, stepped, walked⟩ := walked
  obtain ⟨⟨rest, final⟩, unrolled, kept⟩ := bind_eq_ok.mp walked
  cases kept
  exact ⟨start, rest, final, stepped, unrolled, rfl⟩

end Answered

end MachineWalker

end OptionChainSimulator.Domain
