import Mathlib.Tactic
import OptionChainSimulator.Domain.MachineWalker

namespace OptionChainSimulator.Domain

open Utils

/-! Where the walk kernels do not panic. -/

section Loops

variable {σ α ε : Type}

/-- The state before a turn, if the turns before it succeed. -/
def reached (turn : σ → Except ε (α × σ)) (state : σ) : Nat → Except ε σ
  | 0 => .ok state
  | turns + 1 => do
      let before ← reached turn state turns
      let (_, after) ← turn before
      return after

theorem reached_succ (turn : σ → Except ε (α × σ)) (state : σ) (turns : Nat) :
    reached turn state (turns + 1) =
      (do let (_, next) ← turn state; reached turn next turns) := by
  induction turns with
  | zero =>
      change (do let (_, after) ← turn state; pure after) = _
      rfl
  | succ turns ih =>
      rw [reached, ih]
      cases turn state with
      | error failure => rfl
      | ok next => rfl

theorem reached_succ_eq_ok {turn : σ → Except ε (α × σ)} {state before : σ} {turns : Nat} :
    reached turn state (turns + 1) = .ok before ↔
      ∃ value next, turn state = .ok (value, next) ∧ reached turn next turns = .ok before := by
  rw [reached_succ]
  constructor
  · intro arrived
    obtain ⟨⟨value, next⟩, turned, arrived⟩ := bind_eq_ok.mp arrived
    exact ⟨value, next, turned, arrived⟩
  · rintro ⟨value, next, turned, arrived⟩
    exact bind_eq_ok.mpr ⟨(value, next), turned, arrived⟩

/-- What holds before every turn holds before the first and, after it, before the others. -/
theorem forall_reached_succ_iff {turn : σ → Except ε (α × σ)} {state : σ} {turns : Nat}
    {holds : σ → Prop} :
    (∀ step < turns + 1, ∀ before, reached turn state step = .ok before → holds before) ↔
      holds state ∧ ∀ value next, turn state = .ok (value, next) →
        ∀ step < turns, ∀ before, reached turn next step = .ok before → holds before := by
  constructor
  · intro throughout
    refine ⟨throughout 0 (Nat.succ_pos _) state rfl, ?_⟩
    intro value next turned step within before arrived
    apply throughout (step + 1) (Nat.succ_lt_succ within) before
    exact reached_succ_eq_ok.mpr ⟨value, next, turned, arrived⟩
  · intro both step within before arrived
    obtain ⟨first, later⟩ := both
    cases step with
    | zero =>
        cases arrived
        exact first
    | succ step =>
        obtain ⟨value, next, turned, arrived⟩ := reached_succ_eq_ok.mp arrived
        exact later value next turned step (Nat.lt_of_succ_lt_succ within) before arrived

end Loops

namespace MachineWalker

open Walker

section Finishes

variable {Chain α β : Type} {library : DecimalLibrary Chain}

end Finishes

section Turns

variable {Chain : Type} (library : DecimalLibrary Chain)

/-- The price after a Brownian move, without the clamp at zero. -/
def brownianMove (dt : Positive) (drift sigmaAbs sqrtDt : Decimal) (state : Decimal × Draws) :
    Decimal :=
  let round := library.round
  let diffusion := round (round (sigmaAbs * sqrtDt) * state.2.head.normal)
  round (state.1 + round (round (drift * dt.value) + diffusion))

def geometricBrownianMove (dt : Positive) (drift : Decimal) (volatility sqrtDt : Positive)
    (state : Positive × Draws) : Decimal :=
  let round := library.round
  let diffusion := round (round (state.2.head.normal * volatility.value) * sqrtDt.value)
  round (state.1.value * library.exp (round (round (drift * dt.value) + diffusion)))

/-- The log return of a move; an autocorrelation is a number from -1 to 1. -/
def logReturnsChange (dt : Positive) (expectedReturn : Decimal) (volatility : Positive)
    (autocorrelation : Option Decimal) (sqrtDt : Decimal) (state : LogReturnsState) : Decimal :=
  let round := library.round
  let diffusion := round (round (state.draws.head.normal * volatility.value) * sqrtDt)
  let uncorrelated := round (round (expectedReturn * dt.value) + diffusion)
  match autocorrelation with
  | none => uncorrelated
  | some ac => round (uncorrelated + round (ac * state.prevLogRet))

def logReturnsMove (dt : Positive) (expectedReturn : Decimal) (volatility : Positive)
    (autocorrelation : Option Decimal) (sqrtDt : Decimal) (state : LogReturnsState) : Decimal :=
  let logRet :=
    logReturnsChange library dt expectedReturn volatility autocorrelation sqrtDt state
  library.round (state.price.value * library.exp logRet)

def ouMove (mu theta volatility dt sqrtDt : Positive) (state : Decimal × Draws) : Decimal :=
  let round := library.round
  let pull := if state.1 < mu.value then round (mu.value - state.1) else 0
  let drift := round (round (theta.value * pull) * dt.value)
  let diffusion := round (volatility.value * round (state.2.head.normal * sqrtDt.value))
  round (state.1 + round (drift + diffusion))

def jumpDiffusionMove (dt : Positive) (drift : Decimal) (volatility : Positive)
    (jumpMean : Decimal) (jumpVolatility sqrtDt : Positive) (lambdaDt : Decimal)
    (state : Decimal × Draws) : Decimal :=
  let round := library.round
  let scaled := round (round (volatility.value * state.1) * sqrtDt.value)
  let continuous := round (round (drift * dt.value) + round (scaled * state.2.head.normal))
  let size := round (state.2.tail.tail.head.normal * jumpVolatility.value)
  let jump := if state.2.tail.head.uniform < lambdaDt then round (jumpMean + size) else 0
  round (state.1 + round (continuous + jump))

def garchMove (dt : Positive) (drift : Decimal) (alpha beta omega : Positive) (sqrtDt : Decimal)
    (state : GarchState) : Decimal :=
  let round := library.round
  let shocked := round (omega.value + round (alpha.value * state.prevEps2))
  let var := round (shocked + round (beta.value * state.var.value))
  let scaled := round (state.draws.head.normal * (library.sqrtPositive (.ofDecimal var)).value)
  let ret := round (round (drift * dt.value) + round (scaled * sqrtDt))
  round (state.price * library.exp ret)

/-- The variance that drives a move of the Heston model, from the root of the one before it. -/
def hestonVariance (dt kappa theta xi : Positive) (rho dtSqrt oneMinusRhoSqSqrt : Decimal)
    (state : HestonState) (varianceSqrt : Decimal) : Decimal :=
  let round := library.round
  let own := round (oneMinusRhoSqSqrt * state.draws.tail.head.normal)
  let z2 := round (round (rho * state.draws.head.normal) + own)
  let pull := round (kappa.value * round (theta.value - state.variance))
  let reverted := round (state.variance + round (pull * dt.value))
  let shock := round (round (round (xi.value * varianceSqrt) * z2) * dtSqrt)
  round (round (state.variance + max (round (reverted + shock)) 0) / 2)

/-- From the root of the variance that drives it. -/
def hestonMove (dt : Positive) (drift dtSqrt : Decimal) (state : HestonState)
    (avgVarianceSqrt : Decimal) : Decimal :=
  let round := library.round
  let noise := round (avgVarianceSqrt * state.draws.head.normal)
  let priceChange := round (round (drift * dt.value) + round (noise * dtSqrt))
  round (state.price.value * library.exp priceChange)

def customMove (dt : Positive) (drift : Decimal) (sqrtDt : Positive) (state : CustomState) :
    Decimal :=
  let round := library.round
  let sigmaAbs := round ((state.vols.headD .zero).value * state.price)
  let randomStep := round (round (state.draws.head.normal * sigmaAbs) * sqrtDt.value)
  round (state.price + round (round (drift * dt.value) + randomStep))

def telegraphMove (dt : Positive) (drift : Decimal)
    (volatility lambdaUp lambdaDown volMultUp volMultDown sqrtDt : Positive)
    (state : TelegraphState) : Decimal :=
  let round := library.round
  let rate := round (-(if state.up then lambdaDown.value else lambdaUp.value) * dt.value)
  let uniformSample := round (round (|state.draws.head.normal| + 1) / 2)
  let switches := uniformSample < round (1 - library.exp rate)
  let up := if switches then !state.up else state.up
  let vol := round (volatility.value * (if up then volMultUp else volMultDown).value)
  let diffusion := round (round (vol * sqrtDt.value) * state.draws.tail.head.normal)
  round (state.price * library.exp (round (round (drift * dt.value) + diffusion)))

/-- What a Brownian move forms, from the price and the draws before it, is in range. -/
def BrownianFits (dt : Positive) (drift sigmaAbs sqrtDt : Decimal) (state : Decimal × Draws) :
    Prop :=
  let round := library.round
  let diffusion := round (round (sigmaAbs * sqrtDt) * state.2.head.normal)
  let driftTerm := round (drift * dt.value)
  let change := round (driftTerm + diffusion)
  InRange (round (sigmaAbs * sqrtDt)) ∧ InRange diffusion ∧ InRange driftTerm ∧ InRange change ∧
    InRange (brownianMove library dt drift sigmaAbs sqrtDt state)

variable {library} {dt : Positive} {drift sqrtDt : Decimal}

end Turns

section Kernels

/-- Before every turn of a loop its state is such. -/
def EveryTurn {σ α : Type} (turn : σ → Except Abort (α × σ)) (turns : Nat) (state : σ)
    (fits : σ → Prop) : Prop :=
  ∀ step < turns, ∀ before, reached turn state step = .ok before → fits before

variable {Chain : Type} (library : DecimalLibrary Chain)

variable {library} {draws : Draws} {params : WalkParams Chain}

end Kernels

end MachineWalker

end OptionChainSimulator.Domain
