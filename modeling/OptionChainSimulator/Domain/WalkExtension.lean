import Mathlib.Tactic
import Mathlib.Data.Stream.Init
import OptionChainSimulator.Domain.MachineWalker

namespace OptionChainSimulator.Domain

open Utils

/-! A longer walk begins with the shorter one. -/

section Loops

variable {σ α ε : Type}

theorem unroll_take {step : σ → Except ε (α × σ)} {turns more : Nat} {state final : σ}
    {values : List α} (fewer : turns ≤ more)
    (finished : unroll step more state = .ok (values, final)) :
    ∃ between, unroll step turns state = .ok (values.take turns, between) := by
  induction turns generalizing more state values with
  | zero => exact ⟨state, rfl⟩
  | succ turns ih =>
      obtain ⟨more, rfl⟩ := Nat.exists_eq_add_of_le' (Nat.lt_of_lt_of_le turns.succ_pos fewer)
      rw [unroll] at finished
      obtain ⟨⟨value, next⟩, turned, finished⟩ := bind_eq_ok.mp finished
      obtain ⟨⟨rest, last⟩, remaining, kept⟩ := bind_eq_ok.mp finished
      cases kept
      obtain ⟨between, shorter⟩ := ih (Nat.le_of_succ_le_succ fewer) remaining
      refine ⟨between, bind_eq_ok.mpr ⟨⟨value, next⟩, turned, ?_⟩⟩
      exact bind_eq_ok.mpr ⟨⟨rest.take turns, between⟩, shorter, rfl⟩

end Loops

/-- The first points of a path. -/
def WalkPath.take (path : WalkPath) (size : Nat) : WalkPath :=
  ⟨path.prices.take size, path.vols.map (List.take size)⟩

theorem take_vols {size : Nat} {start volatility : Positive}
    {rest : List (Positive × Positive)} (positive : 1 ≤ size) :
    WalkPath.take ⟨start :: rest.map Prod.fst, some (volatility :: rest.map Prod.snd)⟩ size =
      ⟨start :: (rest.take (size - 1)).map Prod.fst,
        some (volatility :: (rest.take (size - 1)).map Prod.snd)⟩ := by
  obtain ⟨moves, rfl⟩ := Nat.exists_eq_add_of_le' positive
  simp [WalkPath.take, List.map_take]

namespace MachineWalker

open Walker

section Draws

variable {Chain : Type} {library : DecimalLibrary Chain}
  {mu theta volatility dt sqrtDt : Positive} {x y : Decimal} {values : List Positive}

theorem ouTurn_draw (library : DecimalLibrary Chain) (mu theta volatility dt sqrtDt : Positive)
    (x : Decimal) (draw : Draw) (rest other : Draws) :
    ouTurn library mu theta volatility dt sqrtDt (x, Stream'.cons draw other) =
      (fun turned => (turned.1, turned.2.1, other)) <$>
        ouTurn library mu theta volatility dt sqrtDt (x, Stream'.cons draw rest) := by
  unfold ouTurn
  by_cases below : x < mu.value
  · simp only [normalSample, Stream'.head_cons, Stream'.tail_cons, if_pos below, map_bind, map_pure]
  · simp only [normalSample, Stream'.head_cons, Stream'.tail_cons, if_neg below, map_bind, map_pure]

/-- The Ornstein-Uhlenbeck loop uses one draw a turn and leaves the others. -/
theorem ouUnroll_draws {turns : Nat} {draws left : Draws} (other : Draws)
    (unrolled : unroll (ouTurn library mu theta volatility dt sqrtDt) turns (x, draws) =
      .ok (values, y, left)) :
    left = draws.drop turns ∧
      unroll (ouTurn library mu theta volatility dt sqrtDt) turns
        (x, Stream'.appendStream' (draws.take turns) other) = .ok (values, y, other) := by
  induction turns generalizing x draws values with
  | zero =>
      cases unrolled
      exact ⟨rfl, rfl⟩
  | succ turns ih =>
      rw [← Stream'.eta draws, unroll] at unrolled
      obtain ⟨⟨value, z, after⟩, turned, unrolled⟩ := bind_eq_ok.mp unrolled
      obtain ⟨⟨rest, last⟩, remaining, kept⟩ := bind_eq_ok.mp unrolled
      cases kept
      have passed := ouTurn_draw library mu theta volatility dt sqrtDt x draws.head draws.tail
        draws.tail
      rw [turned] at passed
      cases passed
      obtain ⟨rfl, replayed⟩ := ih remaining
      refine ⟨rfl, ?_⟩
      rw [Stream'.take_succ, Stream'.cons_append_stream, unroll]
      refine bind_eq_ok.mpr
        ⟨(value, z, Stream'.appendStream' (draws.tail.take turns) other), ?_, ?_⟩
      · rw [ouTurn_draw library mu theta volatility dt sqrtDt x draws.head draws.tail, turned]
        rfl
      · exact bind_eq_ok.mpr ⟨(rest, y, other), replayed, rfl⟩

theorem customTurn_take {dt sqrtDt : Positive} {drift : Decimal} {state : CustomState}
    {turns : Nat} :
    customTurn library dt drift sqrtDt { state with vols := state.vols.take (turns + 1) } =
      (fun turned => (turned.1, { turned.2 with vols := turned.2.vols.take turns })) <$>
        customTurn library dt drift sqrtDt state := by
  have first : (state.vols.take (turns + 1)).headD .zero = state.vols.headD .zero := by
    cases state.vols <;> rfl
  have rest : (state.vols.take (turns + 1)).tail = state.vols.tail.take turns := by
    cases state.vols <;> simp
  simp only [customTurn, first, rest, map_bind, map_pure]

theorem customUnroll_take {dt sqrtDt : Positive} {drift : Decimal} {turns : Nat}
    {state final : CustomState} {values : List Positive}
    (unrolled : unroll (customTurn library dt drift sqrtDt) turns state = .ok (values, final)) :
    ∃ between, unroll (customTurn library dt drift sqrtDt) turns
      { state with vols := state.vols.take turns } = .ok (values, between) := by
  induction turns generalizing state values with
  | zero =>
      cases unrolled
      exact ⟨_, rfl⟩
  | succ turns ih =>
      obtain ⟨⟨value, next⟩, turned, unrolled⟩ := bind_eq_ok.mp unrolled
      obtain ⟨⟨rest, last⟩, remaining, kept⟩ := bind_eq_ok.mp unrolled
      cases kept
      obtain ⟨between, shorter⟩ := ih remaining
      refine ⟨between, bind_eq_ok.mpr ⟨⟨value, { next with vols := next.vols.take turns }⟩, ?_, ?_⟩⟩
      · rw [customTurn_take, turned]
        rfl
      · exact bind_eq_ok.mpr ⟨⟨rest, between⟩, shorter, rfl⟩

end Draws

section Kernels

variable {Chain : Type} {library : DecimalLibrary Chain} {draws : Draws}
  {params : WalkParams Chain} {short long : Nat}

/-- Where the longer computation succeeds, the shorter one has its cut. -/
def CutTo {β : Type} (cut : β → β) (longer shorter : Except Abort β) : Prop :=
  ∀ value, longer = .ok value → shorter = .ok (cut value)

namespace CutTo

variable {α β σ : Type} {cut : β → β}

theorem ok {value other : β} (same : cut value = other) :
    CutTo cut (.ok value) (.ok other) := by
  intro found held
  cases held
  rw [same]

theorem bind {computed : Except Abort α} {longer shorter : α → Except Abort β}
    (rest : ∀ value, CutTo cut (longer value) (shorter value)) :
    CutTo cut (computed >>= longer) (computed >>= shorter) := by
  intro value finished
  obtain ⟨first, begun, finished⟩ := bind_eq_ok.mp finished
  exact bind_eq_ok.mpr ⟨first, begun, rest first value finished⟩

theorem refusing {refused : Prop} [Decidable refused] {error : Abort}
    {longer shorter : Except Abort β} (accepted : CutTo cut longer shorter) :
    CutTo cut (if refused then .error error else longer)
      (if refused then .error error else shorter) := by
  split_ifs
  · intro value impossible
    cases impossible
  · exact accepted

theorem unroll {step : σ → Except Abort (α × σ)} {turns more : Nat} {state : σ}
    {shown : List α → β} (fewer : turns ≤ more)
    (same : ∀ values, cut (shown values) = shown (values.take turns)) :
    CutTo cut (Domain.unroll step more state >>= fun walked => pure (shown walked.1))
      (Domain.unroll step turns state >>= fun walked => pure (shown walked.1)) := by
  intro value finished
  obtain ⟨⟨values, final⟩, unrolled, kept⟩ := bind_eq_ok.mp finished
  cases kept
  obtain ⟨between, shorter⟩ := unroll_take fewer unrolled
  refine bind_eq_ok.mpr ⟨⟨values.take turns, between⟩, shorter, ?_⟩
  rw [same]
  rfl

/-- The loop of a model that reports its volatilities. -/
theorem walked {step : σ → Except Abort ((Positive × Positive) × σ)} {state : σ}
    {start volatility : Positive} (positive : 1 ≤ short) (shorter : short ≤ long) :
    CutTo (WalkPath.take · short)
      (Domain.unroll step (long - 1) state >>= fun walked =>
        pure ⟨start :: walked.1.map Prod.fst, some (volatility :: walked.1.map Prod.snd)⟩)
      (Domain.unroll step (short - 1) state >>= fun walked =>
        pure ⟨start :: walked.1.map Prod.fst, some (volatility :: walked.1.map Prod.snd)⟩) := by
  have fewer : short - 1 ≤ long - 1 := Nat.sub_le_sub_right shorter 1
  let shown : List (Positive × Positive) → WalkPath := fun values =>
    ⟨start :: values.map Prod.fst, some (volatility :: values.map Prod.snd)⟩
  have same : ∀ values, (shown values).take short = shown (values.take (short - 1)) := by
    intro values
    exact take_vols positive
  exact @CutTo.unroll _ _ _ (WalkPath.take · short) step _ _ state shown fewer same

theorem priced {longer shorter : Except Abort (List Positive)}
    (cut : CutTo (List.take short) longer shorter) :
    CutTo (WalkPath.take · short) ((⟨·, none⟩) <$> longer) ((⟨·, none⟩) <$> shorter) := by
  intro path finished
  cases longer with
  | error => cases finished
  | ok prices =>
      cases finished
      rw [cut prices rfl]
      rfl

end CutTo

theorem take_cons {start : Positive} {rest : List Positive} (positive : 1 ≤ short) :
    (start :: rest).take short = start :: rest.take (short - 1) := by
  obtain ⟨moves, rfl⟩ := Nat.exists_eq_add_of_le' positive
  rfl

section Models

variable (shows : ystep library.toWalkLibrary { params with size := short } =
    ystep library.toWalkLibrary { params with size := long })
  (positive : 1 ≤ short) (shorter : short ≤ long)

include shows positive shorter

theorem brownian_cut {dt volatility : Positive} {drift : Decimal}
    (walks : params.walkType = .brownian dt drift volatility) :
    CutTo (List.take short) (brownian library draws { params with size := long })
      (brownian library draws { params with size := short }) := by
  unfold brownian
  rw [shows]
  simp only [walks]
  refine .bind fun start => ?_
  refine .bind fun sigmaAbs => ?_
  refine .bind fun sqrtDt => ?_
  exact .unroll (Nat.sub_le_sub_right shorter 1) fun values => take_cons positive

theorem geometricBrownian_cut {dt volatility : Positive} {drift : Decimal}
    (walks : params.walkType = .geometricBrownian dt drift volatility) :
    CutTo (List.take short) (geometricBrownian library draws { params with size := long })
      (geometricBrownian library draws { params with size := short }) := by
  unfold geometricBrownian
  rw [shows]
  simp only [walks]
  refine .bind fun start => ?_
  exact .unroll (Nat.sub_le_sub_right shorter 1) fun values => take_cons positive

theorem logReturns_cut {dt volatility : Positive} {expectedReturn : Decimal}
    {autocorrelation : Option Decimal}
    (walks : params.walkType = .logReturns dt expectedReturn volatility autocorrelation) :
    CutTo (List.take short) (logReturns library draws { params with size := long })
      (logReturns library draws { params with size := short }) := by
  unfold logReturns
  rw [shows]
  simp only [walks]
  refine .bind fun price => ?_
  refine .bind fun sqrtDt => ?_
  exact .unroll (Nat.sub_le_sub_right shorter 1) fun values => take_cons positive

theorem meanReverting_cut {dt volatility speed mean : Positive}
    (walks : params.walkType = .meanReverting dt volatility speed mean) :
    CutTo (List.take short) (meanReverting library draws { params with size := long })
      (meanReverting library draws { params with size := short }) := by
  unfold meanReverting
  rw [shows]
  simp only [walks]
  refine .bind fun sigmaAbs => ?_
  refine .bind fun start => ?_
  simp only [ouProcess, bind_assoc, pure_bind]
  exact .unroll (Nat.sub_le_sub_right shorter 1) fun values => take_cons positive

theorem jumpDiffusion_cut {dt volatility intensity jumpVolatility : Positive}
    {drift jumpMean : Decimal}
    (walks : params.walkType =
      .jumpDiffusion dt drift volatility intensity jumpMean jumpVolatility) :
    CutTo (List.take short) (jumpDiffusion library draws { params with size := long })
      (jumpDiffusion library draws { params with size := short }) := by
  unfold jumpDiffusion
  rw [shows]
  simp only [walks]
  refine .bind fun lambdaDt => ?_
  refine .refusing ?_
  refine .bind fun start => ?_
  exact .unroll (Nat.sub_le_sub_right shorter 1) fun values => take_cons positive

theorem garch_cut {dt volatility alpha beta : Positive} {drift : Decimal}
    (walks : params.walkType = .garch dt drift volatility alpha beta) :
    CutTo (WalkPath.take · short) (garchWalkSeeded library draws { params with size := long })
      (garchWalkSeeded library draws { params with size := short }) := by
  unfold garchWalkSeeded
  rw [shows]
  simp only [walks]
  refine .bind fun persistence => ?_
  refine .refusing ?_
  refine .bind fun price => ?_
  refine .bind fun var => ?_
  refine .bind fun variance => ?_
  refine .bind fun less => ?_
  refine .bind fun weight => ?_
  refine .bind fun omega => ?_
  refine .bind fun sqrtDt => ?_
  exact .walked positive shorter

theorem heston_cut {dt volatility kappa theta xi : Positive} {drift rho : Decimal}
    (walks : params.walkType = .heston dt drift volatility kappa theta xi rho) :
    CutTo (WalkPath.take · short) (hestonWalkSeeded library draws { params with size := long })
      (hestonWalkSeeded library draws { params with size := short }) := by
  unfold hestonWalkSeeded
  rw [shows]
  simp only [walks]
  refine .refusing ?_
  refine .bind fun price => ?_
  refine .bind fun variance => ?_
  refine .bind fun dtSqrt => ?_
  refine .bind fun rhoSq => ?_
  refine .bind fun oneMinusRhoSq => ?_
  refine .bind fun oneMinusRhoSqSqrt => ?_
  exact .walked positive shorter

theorem telegraph_cut {dt volatility lambdaUp lambdaDown : Positive} {drift : Decimal}
    {volMultiplierUp volMultiplierDown : Option Positive}
    (walks : params.walkType = .telegraph dt drift volatility lambdaUp lambdaDown
      volMultiplierUp volMultiplierDown) :
    CutTo (WalkPath.take · short) (telegraphWalkSeeded library draws { params with size := long })
      (telegraphWalkSeeded library draws { params with size := short }) := by
  unfold telegraphWalkSeeded
  rw [shows]
  simp only [walks]
  refine .bind fun price => ?_
  exact .walked positive shorter

/-- The volatilities of the custom model take their draws before its prices do: with fewer
steps the prices see the draws that the longer walk gives them. -/
theorem custom_cut {dt volatility vov volSpeed volMean : Positive} {drift : Decimal}
    (walks : params.walkType = .custom dt drift volatility vov volSpeed volMean) :
    CutTo (WalkPath.take · short) (customWalkSeeded library draws { params with size := long })
      (customWalkSeeded library
        (Stream'.appendStream' (draws.take (short - 1)) (draws.drop (long - 1)))
        { params with size := short }) := by
  have fewer : short - 1 ≤ long - 1 := Nat.sub_le_sub_right shorter 1
  unfold customWalkSeeded
  rw [shows]
  simp only [walks]
  intro path finished
  obtain ⟨⟨vols, after⟩, generated, finished⟩ := bind_eq_ok.mp finished
  obtain ⟨price, stepped, finished⟩ := bind_eq_ok.mp finished
  obtain ⟨⟨moves, final⟩, priced, kept⟩ := bind_eq_ok.mp finished
  cases kept
  obtain ⟨⟨rest, y, left⟩, unrolled, kept⟩ := bind_eq_ok.mp generated
  cases kept
  have counted : rest.length = long - 1 := length_of_unroll unrolled
  obtain ⟨rfl, -⟩ := ouUnroll_draws draws unrolled
  obtain ⟨⟨x, between⟩, begun⟩ := unroll_take fewer unrolled
  obtain ⟨-, replayed⟩ := ouUnroll_draws (draws.drop (long - 1)) begun
  have early : ((volatility :: rest).take (long - 1)).length = long - 1 := by
    rw [List.length_take, List.length_cons, counted]
    omega
  have window : (volatility :: rest.take (short - 1)).take (short - 1) =
      ((volatility :: rest).take (long - 1)).take (short - 1) := by
    obtain ⟨size, rfl⟩ := Nat.exists_eq_add_of_le' positive
    rw [List.take_take, min_eq_left fewer, ← List.take_succ_cons, List.take_take,
      min_eq_left (by omega)]
  rw [early] at priced
  obtain ⟨last, cutPrices⟩ := unroll_take fewer priced
  obtain ⟨last, repriced⟩ := customUnroll_take cutPrices
  refine bind_eq_ok.mpr
    ⟨(volatility :: rest.take (short - 1), draws.drop (long - 1)), ?_, ?_⟩
  · exact bind_eq_ok.mpr ⟨_, replayed, rfl⟩
  refine bind_eq_ok.mpr ⟨price, stepped, ?_⟩
  refine bind_eq_ok.mpr ⟨(moves.take (short - 1), last), ?_, ?_⟩
  · rw [window, List.length_take, early, min_eq_left fewer]
    exact repriced
  · obtain ⟨size, rfl⟩ := Nat.exists_eq_add_of_le' positive
    rw [window]
    rfl

end Models

/-- The models whose prices do not depend on how many steps are walked: of the others, the
custom one spends its draws on all of its volatilities first. -/
def DrawsInOrder : WalkType → Prop
  | .custom .. => False
  | _ => True

theorem kernel_cut {walk : WalkType} {run : Draws → WalkParams Chain → Except Abort WalkPath}
    {path : WalkPath} (found : kernel library walk = some run) (ordered : DrawsInOrder walk)
    (walks : params.walkType = walk)
    (shows : ystep library.toWalkLibrary { params with size := short } =
      ystep library.toWalkLibrary { params with size := long })
    (positive : 1 ≤ short) (shorter : short ≤ long)
    (walked : run draws { params with size := long } = .ok path) :
    run draws { params with size := short } = .ok (path.take short) := by
  cases walk with
  | brownian dt drift volatility =>
      cases found
      exact (brownian_cut shows positive shorter walks).priced path walked
  | geometricBrownian dt drift volatility =>
      cases found
      exact (geometricBrownian_cut shows positive shorter walks).priced path walked
  | logReturns dt expectedReturn volatility autocorrelation =>
      cases found
      exact (logReturns_cut shows positive shorter walks).priced path walked
  | meanReverting dt volatility speed mean =>
      cases found
      exact (meanReverting_cut shows positive shorter walks).priced path walked
  | jumpDiffusion dt drift volatility intensity jumpMean jumpVolatility =>
      cases found
      exact (jumpDiffusion_cut shows positive shorter walks).priced path walked
  | garch dt drift volatility alpha beta =>
      cases found
      exact garch_cut shows positive shorter walks path walked
  | heston dt drift volatility kappa theta xi rho =>
      cases found
      exact heston_cut shows positive shorter walks path walked
  | custom => exact ordered.elim
  | telegraph dt drift volatility lambdaUp lambdaDown volMultiplierUp volMultiplierDown =>
      cases found
      exact telegraph_cut shows positive shorter walks path walked
  | historical timeframe prices symbol => cases found

/-- What a model of fewer steps draws: only the custom one passes over the draws that the longer
walk spends on its further volatilities. -/
def drawsOfCut (short long : Nat) (draws : Draws) : WalkType → Draws
  | .custom .. => Stream'.appendStream' (draws.take (short - 1)) (draws.drop (long - 1))
  | _ => draws

/-- Every point a longer walk shares with a shorter one is the same, and so is each volatility it
reports there; and where the longer one finishes, so does the shorter one. -/
theorem longer_walk_extends {walk : WalkType}
    {run : Draws → WalkParams Chain → Except Abort WalkPath} {path : WalkPath}
    (found : kernel library walk = some run) (walks : params.walkType = walk)
    (shows : ystep library.toWalkLibrary { params with size := short } =
      ystep library.toWalkLibrary { params with size := long })
    (positive : 1 ≤ short) (shorter : short ≤ long)
    (walked : run draws { params with size := long } = .ok path) :
    run (drawsOfCut short long draws walk) { params with size := short } =
      .ok (path.take short) := by
  cases walk with
  | custom dt drift volatility vov volSpeed volMean =>
      cases found
      exact custom_cut shows positive shorter walks path walked
  | _ => exact kernel_cut found trivial walks shows positive shorter walked

end Kernels

/-- Exact decimals over the plain library. -/
def wholeDecimals : DecimalLibrary Unit where
  toWalkLibrary := plainLibrary
  round value := value
  expFits _ := true

theorem longer_walk_extends_steadyCustom :
    ∃ path, customWalkSeeded wholeDecimals unitDraws { steadyCustom with size := 3 } = .ok path ∧
      customWalkSeeded wholeDecimals (drawsOfCut 2 3 unitDraws steadyCustom.walkType)
        { steadyCustom with size := 2 } = .ok (path.take 2) := by
  obtain ⟨path, walked⟩ := exists_of_isOk
    (show (customWalkSeeded wholeDecimals unitDraws { steadyCustom with size := 3 }).isOk = true by
      decide +kernel)
  refine ⟨path, walked, ?_⟩
  exact @longer_walk_extends Unit wholeDecimals unitDraws steadyCustom 2 3 _ _ path rfl rfl rfl
    (by decide) (by decide) walked

/-- The same draws give a custom walk of two points another second price than one of three. -/
example :
    (customWalkSeeded wholeDecimals (fun turn => ⟨turn, 0⟩)
        { steadyCustom with size := 2 }).map WalkPath.prices ≠
      (customWalkSeeded wholeDecimals (fun turn => ⟨turn, 0⟩)
        { steadyCustom with size := 3 }).map fun path => (path.take 2).prices := by
  decide +kernel

end MachineWalker

end OptionChainSimulator.Domain
