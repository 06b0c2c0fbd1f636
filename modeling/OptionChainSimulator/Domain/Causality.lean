import Mathlib.Tactic
import OptionChainSimulator.Domain.Factors
import OptionChainSimulator.Session.TapeCalls

namespace OptionChainSimulator.Domain

open Foundation Utils Session

/-! What a row of a historical tape has seen of its series. -/

section Windows

variable {Chain : Type} {upstream : Upstream Chain} {prices : List Positive}
  {timeframe : TimeFrame} {returns : List Decimal}

theorem logReturnsFrom_take {index count : Nat}
    (computed : logReturnsFrom upstream index prices = .ok returns) :
    logReturnsFrom upstream index (prices.take (count + 1)) = .ok (returns.take count) := by
  induction prices generalizing index count returns with
  | nil =>
      cases computed
      simp [logReturnsFrom]
  | cons previous rest ih =>
      cases rest with
      | nil =>
          cases computed
          simp [logReturnsFrom]
      | cons current rest =>
          obtain ⟨log, taken, computed⟩ := bind_eq_ok.mp computed
          obtain ⟨others, remaining, kept⟩ := bind_eq_ok.mp computed
          cases kept
          cases count with
          | zero => rfl
          | succ count =>
              have shorter := @ih others (index + 1) count remaining
              rw [List.take_succ_cons] at shorter
              rw [List.take_succ_cons, List.take_succ_cons, logReturnsFrom, taken]
              simp only [bind, Except.bind, shorter]
              rfl

theorem historicalConstantVolatility_of_window {total point : Nat} {volatility : Positive}
    (computed : Domain.logReturns upstream prices = .ok returns)
    (estimated : windowVolatility upstream returns total timeframe point = .ok volatility) :
    historicalConstantVolatility upstream (prices.take (point + 1)) timeframe =
      .ok volatility := by
  unfold windowVolatility at estimated
  split_ifs at estimated with short
  · cases estimated
  · obtain ⟨sigma, reduced, annualised⟩ := bind_eq_ok.mp estimated
    unfold historicalConstantVolatility
    refine bind_eq_ok.mpr ⟨returns.take point, logReturnsFrom_take computed, ?_⟩
    refine bind_eq_ok.mpr ⟨sigma, ?_, annualised⟩
    rw [mapError_eq_ok] at reduced ⊢
    exact reduced

/-- The estimates are aligned with the prices, each over the prices up to its own, the first two
over the first three. -/
theorem expandingWindowVolatilities_spec {found : Option (List Positive)}
    (long : 3 ≤ prices.length)
    (computed : expandingWindowVolatilities upstream prices timeframe = .ok found) :
    ∃ volatilities, found = some volatilities ∧
      ∀ index volatility, volatilities[index]? = some volatility →
        historicalConstantVolatility upstream (prices.take (max index 2 + 1)) timeframe =
          .ok volatility := by
  unfold expandingWindowVolatilities at computed
  rw [if_neg (not_lt.mpr long)] at computed
  obtain ⟨returns, reduced, computed⟩ := bind_eq_ok.mp computed
  obtain ⟨estimates, windows, computed⟩ := bind_eq_ok.mp computed
  have each := mapM_eq_ok.mp windows
  have estimate : ∀ offset volatility, estimates[offset]? = some volatility →
      historicalConstantVolatility upstream (prices.take (2 + offset + 1)) timeframe =
        .ok volatility := by
    intro offset volatility held
    obtain ⟨within, rfl⟩ := List.getElem?_eq_some_iff.mp held
    have inRange : offset < (List.range' 2 (prices.length - 2)).length := each.length_eq ▸ within
    have window := List.Forall₂.get each inRange within
    rw [List.get_eq_getElem, List.getElem_range', Nat.one_mul] at window
    exact historicalConstantVolatility_of_window reduced window
  cases estimates with
  | nil =>
      have counted := each.length_eq
      rw [List.length_range'] at counted
      simp only [List.length_nil] at counted
      omega
  | cons fill others =>
      cases computed
      refine ⟨_, rfl, ?_⟩
      intro index volatility held
      match index with
      | 0 => exact estimate 0 volatility held
      | 1 => exact estimate 0 volatility held
      | offset + 2 =>
          have seen := estimate offset volatility held
          rwa [max_eq_left (Nat.le_add_left 2 offset), Nat.add_comm offset 2]

end Windows

/-- The historical kernel replays the series it is given. -/
def ReplaysPrices {Chain : Type} (upstream : Upstream Chain) : Prop :=
  ∀ seed params timeframe prices symbol path,
    params.walkType = .historical timeframe prices symbol → params.size ≤ prices.length →
      upstream.generateWithVol seed params = .ok (.ok path) →
        path = ⟨prices.take params.size, none⟩

section Rows

variable {Chain : Type} {service : Service} {upstream : Upstream Chain}
  {parameters : SimulationParametersV2} {method : SimulationMethod} {timeframe : TimeFrame}
  {prices : List Positive} {symbol : Option String} {tape : FactorTape}

/-- What a row of a historical tape is made of: the clock, its own price, and the volatility of
the prices up to it. -/
theorem historical_row (replays : ReplaysPrices upstream) (long : 3 ≤ parameters.steps)
    (built : FactorTape.build service upstream parameters
      (.historical timeframe prices symbol) = .ok tape) :
    tape.rows.length = parameters.steps ∧ ∀ step row, tape.row step = some row →
      row.step = step ∧ parameters.simulatedAt step = .ok row.simulatedAt ∧
      prices[step]? = some row.spot ∧
      historicalConstantVolatility upstream (prices.take (max step 2 + 1)) timeframe =
        .ok row.baseVolatility := by
  obtain ⟨base, walkParams, path, volatilities, prepared, generated, -, priced, rows⟩ :=
    FactorTape.walked_of_build built
  obtain ⟨-, covering, size, walks, -⟩ := factorWalk_eq_ok prepared
  have covers := steps_le_of_covers covering
  obtain rfl := replays _ _ _ _ _ _ walks (size ▸ covers) generated
  rw [size] at priced rows
  obtain ⟨counted, assembled⟩ := forall₂_range rows
  refine ⟨counted, ?_⟩
  intro step row present
  obtain ⟨within, -⟩ := List.getElem?_eq_some_iff.mp present
  obtain ⟨named, spot, volatility, -, clocked⟩ := factorRow_eq_ok (assembled step row present)
  have window : (prices.take parameters.steps).length = parameters.steps :=
    List.length_take_of_le covers
  obtain ⟨estimates, rfl, estimate⟩ :=
    expandingWindowVolatilities_spec (window.symm ▸ long) priced
  have seen := estimate step row.baseVolatility (okOr_eq_ok.mp volatility)
  have early : max step 2 + 1 ≤ parameters.steps := by omega
  rw [List.take_take, min_eq_left early] at seen
  rw [List.getElem?_take_of_lt (counted ▸ within)] at spot
  exact ⟨named, clocked, spot, seen⟩

/-- Rows of two historical tapes agree wherever the clocks do and the series agree up to the row,
the first two rows seeing three prices; so a longer horizon or later prices change no row. -/
theorem tapes_causal {left right : SimulationParametersV2} {leftPrices rightPrices : List Positive}
    {leftSymbol rightSymbol : Option String} {leftTape rightTape : FactorTape}
    (replays : ReplaysPrices upstream)
    (start : left.effectiveStart = right.effectiveStart)
    (interval : left.stepIntervalSeconds = right.stepIntervalSeconds)
    (leftLong : 3 ≤ left.steps) (rightLong : 3 ≤ right.steps)
    (leftBuilt : FactorTape.build service upstream left
      (.historical timeframe leftPrices leftSymbol) = .ok leftTape)
    (rightBuilt : FactorTape.build service upstream right
      (.historical timeframe rightPrices rightSymbol) = .ok rightTape) :
    (∀ step, step < left.steps → step < right.steps →
      leftPrices.take (max step 2 + 1) = rightPrices.take (max step 2 + 1) →
        leftTape.row step = rightTape.row step) ∧
    (left.steps ≤ right.steps → leftPrices.take left.steps = rightPrices.take left.steps →
      rightTape.rows.take left.steps = leftTape.rows) := by
  obtain ⟨leftCount, leftRows⟩ := historical_row replays leftLong leftBuilt
  obtain ⟨rightCount, rightRows⟩ := historical_row replays rightLong rightBuilt
  have rowwise : ∀ step, step < left.steps → step < right.steps →
      leftPrices.take (max step 2 + 1) = rightPrices.take (max step 2 + 1) →
        leftTape.row step = rightTape.row step := by
    intro step onLeft onRight agree
    obtain ⟨leftRow, leftHeld⟩ : ∃ row, leftTape.row step = some row :=
      ⟨_, List.getElem?_eq_getElem (leftCount.symm ▸ onLeft)⟩
    obtain ⟨rightRow, rightHeld⟩ : ∃ row, rightTape.row step = some row :=
      ⟨_, List.getElem?_eq_getElem (rightCount.symm ▸ onRight)⟩
    obtain ⟨leftStep, leftClock, leftSpot, leftVolatility⟩ := leftRows step leftRow leftHeld
    obtain ⟨rightStep, rightClock, rightSpot, rightVolatility⟩ := rightRows step rightRow rightHeld
    have clocks : left.simulatedAt step = right.simulatedAt step := by
      simp only [SimulationParametersV2.simulatedAt,
        SimulationParametersV2.simulatedTimeOverflow, start, interval]
    have spots : leftPrices[step]? = rightPrices[step]? := by
      have seen := congrArg (fun series : List Positive => series[step]?) agree
      rwa [List.getElem?_take_of_lt (by omega), List.getElem?_take_of_lt (by omega)] at seen
    rw [clocks, rightClock, Except.ok.injEq] at leftClock
    rw [spots, rightSpot, Option.some.injEq] at leftSpot
    rw [agree, rightVolatility, Except.ok.injEq] at leftVolatility
    rw [leftHeld, rightHeld, Option.some.injEq]
    cases leftRow
    cases rightRow
    simp only [FactorRow.mk.injEq]
    exact ⟨leftStep.trans rightStep.symm, leftClock.symm, leftSpot.symm, leftVolatility.symm⟩
  refine ⟨rowwise, ?_⟩
  intro shorter agree
  apply List.ext_getElem?
  intro step
  by_cases onLeft : step < left.steps
  · rw [List.getElem?_take_of_lt onLeft]
    refine (rowwise step onLeft (lt_of_lt_of_le onLeft shorter) ?_).symm
    have early : max step 2 + 1 ≤ left.steps := by omega
    have prefixes := congrArg (List.take (max step 2 + 1)) agree
    rwa [List.take_take, List.take_take, min_eq_left early] at prefixes
  · rw [List.getElem?_eq_none (by simp; omega), List.getElem?_eq_none (by omega)]

end Rows

section Replay

/-- `flatUpstream`, with a historical kernel that replays its series. -/
def replayingUpstream : Upstream Unit :=
  { flatUpstream with
    generateWithVol := fun seed params =>
      match params.walkType with
      | .historical _ prices _ => .ok (.ok ⟨prices.take params.size, none⟩)
      | _ => flatUpstream.generateWithVol seed params }

theorem replayingUpstream_replays : ReplaysPrices replayingUpstream := by
  intro seed params timeframe prices symbol path walks _ generated
  simp only [replayingUpstream, walks, Except.ok.injEq] at generated
  exact generated.symm

def fourPrices (last : Positive) : List Positive := [.one, .one, .one, last]

def thursdayWalk (steps : Nat) : SimulationParametersV2 :=
  { dailyParameters Expiry.thursdayNoon with
    steps := steps
    method := .historical .day (fourPrices .one) none }

theorem tapes_causal_thursday :
    ∃ short long,
      FactorTape.build utcService replayingUpstream (thursdayWalk 3)
        (.historical .day (fourPrices .one) none) = .ok short ∧
      FactorTape.build utcService replayingUpstream (thursdayWalk 4)
        (.historical .day (fourPrices ⟨2, zero_le_two⟩) none) = .ok long ∧
      long.rows.take 3 = short.rows := by
  obtain ⟨short, shortBuilt⟩ := exists_of_isOk
    (show (FactorTape.build utcService replayingUpstream (thursdayWalk 3)
      (.historical .day (fourPrices .one) none)).isOk = true by decide +kernel)
  obtain ⟨long, longBuilt⟩ := exists_of_isOk
    (show (FactorTape.build utcService replayingUpstream (thursdayWalk 4)
      (.historical .day (fourPrices ⟨2, zero_le_two⟩) none)).isOk = true by decide +kernel)
  refine ⟨short, long, shortBuilt, longBuilt, ?_⟩
  refine (tapes_causal replayingUpstream_replays ?_ ?_ ?_ ?_ shortBuilt longBuilt).2 ?_ ?_
  · rfl
  · rfl
  · decide
  · decide
  · decide
  · rfl

end Replay

end OptionChainSimulator.Domain
