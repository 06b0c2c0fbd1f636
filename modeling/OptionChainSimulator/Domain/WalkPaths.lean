import Mathlib.Tactic
import Mathlib.Data.Stream.Init
import OptionChainSimulator.Domain.Walker

namespace OptionChainSimulator.Domain

open Utils

/-! The shape of a walked path: one price a step, and beside it the volatilities that moved it. -/

section Loops

variable {σ α ε : Type}

/-- The states a loop goes through. -/
def turned (step : σ → Id (α × σ)) (state : σ) : Nat → σ
  | 0 => state
  | turns + 1 => (step (turned step state turns)).2

/-- What a turn of a loop appends. -/
def appended (step : σ → Id (α × σ)) (state : σ) (turn : Nat) : α :=
  (step (turned step state turn)).1

theorem turned_succ (step : σ → Id (α × σ)) (state : σ) (turns : Nat) :
    turned step (step state).2 turns = turned step state (turns + 1) := by
  induction turns with
  | zero => rfl
  | succ turns ih =>
      rw [turned, ih]
      rfl

theorem unroll_run (step : σ → Id (α × σ)) (turns : Nat) (state : σ) :
    Id.run (unroll step turns state) =
      ((List.range turns).map (appended step state), turned step state turns) := by
  induction turns generalizing state with
  | zero => rfl
  | succ turns ih =>
      have rest := ih (step state).2
      rw [turned_succ] at rest
      rw [List.range_succ_eq_map, List.map_cons, List.map_map]
      change ((step state).1 :: (Id.run (unroll step turns (step state).2)).1,
        (Id.run (unroll step turns (step state).2)).2) = _
      rw [rest]
      refine Prod.ext (congrArg (List.cons _) (List.map_congr_left ?_)) rfl
      intro turn _
      exact congrArg (fun state => (step state).1) (turned_succ step state turn)

theorem length_of_unroll {step : σ → Except ε (α × σ)} {turns : Nat} {state final : σ}
    {values : List α} (finished : unroll step turns state = .ok (values, final)) :
    values.length = turns := by
  induction turns generalizing state values with
  | zero =>
      cases finished
      rfl
  | succ turns ih =>
      rw [unroll] at finished
      obtain ⟨⟨value, next⟩, -, finished⟩ := bind_eq_ok.mp finished
      obtain ⟨⟨rest, last⟩, remaining, kept⟩ := bind_eq_ok.mp finished
      cases kept
      rw [List.length_cons, ih remaining]

end Loops

/-- A subtraction of `usize`s, which panics below zero. -/
def usizeSub (left right : Nat) : Option Nat := if right ≤ left then some (left - right) else none

/-- What whoever indexes a path by step relies on. -/
structure WalkPath.Aligned (path : WalkPath) (size : Nat) (start : Positive)
    (volatility : Option Positive) : Prop where
  prices_length : path.prices.length = size
  prices_first : path.prices[0]? = some start
  prices_nonneg : ∀ price ∈ path.prices, 0 ≤ price.value
  moves : usizeSub size 1 = some path.prices.tail.length
  vols_length : ∀ vols, path.vols = some vols → vols.length = size
  vols_first : ∀ vols, path.vols = some vols → vols[0]? = volatility
  vols_nonneg : ∀ vols, path.vols = some vols → ∀ vol ∈ vols, 0 ≤ vol.value

/-- Each volatility from the second on scaled the noise of the move to its own price; `move`
takes the price before it and the scaled noise, `shown` is what the path shows of a price. -/
def WalkPath.ScaledBy (path : WalkPath) (start : Positive) (noise : Nat → Decimal)
    (move : (price scaledNoise : Decimal) → Decimal) (shown : Decimal → Positive) : Prop :=
  ∃ price : Nat → Decimal, price 0 = start.value ∧ ∃ vols, path.vols = some vols ∧
    ∀ step, step + 1 < path.prices.length → ∃ vol, vols[step + 1]? = some vol ∧
      price (step + 1) = move (price step) (noise step * vol.value) ∧
      path.prices[step + 1]? = some (shown (price (step + 1)))

section Shapes

variable {size : Nat} {start volatility : Positive}

theorem aligned_of_prices {rest : List Positive} (positive : 1 ≤ size)
    (moves : rest.length = size - 1) (volatility : Option Positive) :
    WalkPath.Aligned ⟨start :: rest, none⟩ size start volatility where
  prices_length := by
    rw [List.length_cons, moves]
    omega
  prices_first := rfl
  prices_nonneg price _ := price.nonneg
  moves := by
    rw [List.tail_cons, moves]
    exact if_pos positive
  vols_length _ impossible := by cases impossible
  vols_first _ impossible := by cases impossible
  vols_nonneg _ impossible := by cases impossible

theorem aligned_of_vols {prices vols : List Positive} (positive : 1 ≤ size)
    (moves : prices.length = size - 1) (same : vols.length = size - 1) :
    WalkPath.Aligned ⟨start :: prices, some (volatility :: vols)⟩ size start (some volatility) where
  prices_length := by
    rw [List.length_cons, moves]
    omega
  prices_first := rfl
  prices_nonneg price _ := price.nonneg
  moves := by
    rw [List.tail_cons, moves]
    exact if_pos positive
  vols_length vols held := by
    cases held
    rw [List.length_cons, same]
    omega
  vols_first vols held := by
    cases held
    rfl
  vols_nonneg vols _ vol _ := vol.nonneg

end Shapes

namespace Walker

variable {Chain : Type}

/-- The kernel of a model with the volatilities it reports; a historical series is walked
upstream. -/
def pathKernel (library : WalkLibrary Chain) :
    WalkType → Option (Draws → WalkParams Chain → Except SimulationError WalkPath)
  | .brownian .. => some fun draws params => (⟨·, none⟩) <$> brownian library draws params
  | .geometricBrownian .. =>
      some fun draws params => (⟨·, none⟩) <$> geometricBrownian library draws params
  | .logReturns .. => some fun draws params => (⟨·, none⟩) <$> logReturns library draws params
  | .meanReverting .. =>
      some fun draws params => (⟨·, none⟩) <$> meanReverting library draws params
  | .jumpDiffusion .. =>
      some fun draws params => (⟨·, none⟩) <$> jumpDiffusion library draws params
  | .garch .. => some (garchWalkSeeded library)
  | .heston .. => some (hestonWalkSeeded library)
  | .custom .. => some (customWalkSeeded library)
  | .telegraph .. => some (telegraphWalkSeeded library)
  | .historical .. => none

/-- Both forms of a kernel walk one path. -/
theorem kernel_eq_pathKernel (library : WalkLibrary Chain) (walk : WalkType) :
    kernel library walk = (pathKernel library walk).map fun run draws params =>
      WalkPath.prices <$> run draws params := by
  cases walk <;> simp [kernel, pathKernel]

/-- The models with a path of volatilities. -/
def ReportsVols : WalkType → Prop
  | .garch .. | .heston .. | .custom .. | .telegraph .. => True
  | _ => False

/-- What the volatilities of a path have to do with its prices. -/
def ScaledNoise (library : WalkLibrary Chain) (draws : Draws) (size : Nat) (start : Positive)
    (path : WalkPath) : WalkType → Prop
  | .garch dt drift _ _ _ =>
      ∃ sqrtDt, sqrtDtDec library "simulation::garch::sqrt_dt" dt = .ok sqrtDt ∧
        path.ScaledBy start (fun step => (draws.get step).normal)
          (fun price noise => price * library.exp (drift * dt.value + noise * sqrtDt)) .ofDecimal
  | .custom dt drift _ _ _ _ =>
      path.ScaledBy start (fun step => (draws.get (size - 1 + step)).normal)
        (fun price noise =>
          price + (drift * dt.value + noise * price * (library.sqrtPositive dt).value))
        (fun price => .ofDecimal (max price 0))
  | .telegraph dt drift _ _ _ _ _ =>
      path.ScaledBy start (fun step => (draws.get (2 * step + 2)).normal)
        (fun price noise =>
          price * library.exp (drift * dt.value + noise * (library.sqrtPositive dt).value))
        .ofDecimal
  | _ => True

section Scales

variable {σ : Type} {start volatility : Positive} {noise : Nat → Decimal}
  {move : Decimal → Decimal → Decimal} {shown : Decimal → Positive}

theorem scaledBy_of_turns {turn : σ → Id ((Positive × Positive) × σ)} {state : σ} {turns : Nat}
    (priceOf : σ → Decimal) (started : priceOf state = start.value)
    (moves : ∀ step, priceOf (turned turn state (step + 1)) =
      move (priceOf (turned turn state step)) (noise step * (appended turn state step).2.value))
    (shows : ∀ step, (appended turn state step).1 =
      shown (priceOf (turned turn state (step + 1)))) :
    WalkPath.ScaledBy
      ⟨start :: ((List.range turns).map (appended turn state)).map Prod.fst,
        some (volatility :: ((List.range turns).map (appended turn state)).map Prod.snd)⟩
      start noise move shown := by
  refine ⟨fun step => priceOf (turned turn state step), started, _, rfl, ?_⟩
  intro step within
  have inRange : step < turns := by simpa using within
  refine ⟨(appended turn state step).2, ?_, moves step, ?_⟩
  · simp [inRange]
  · simp [inRange, shows]

theorem garchTurn_draws (library : WalkLibrary Chain) (dt alpha beta omega : Positive)
    (drift sqrtDt : Decimal) (state : GarchState) (turns : Nat) :
    (turned (garchTurn library dt drift alpha beta omega sqrtDt) state turns).draws =
      state.draws.drop turns := by
  induction turns with
  | zero => rfl
  | succ turns ih =>
      rw [turned, ← Stream'.tail_drop', ← ih]
      rfl

theorem telegraphTurn_draws (library : WalkLibrary Chain)
    (dt volatility lambdaUp lambdaDown volMultUp volMultDown sqrtDt : Positive) (drift : Decimal)
    (state : TelegraphState) (turns : Nat) :
    (turned (telegraphTurn library dt drift volatility lambdaUp lambdaDown volMultUp volMultDown
      sqrtDt) state turns).draws = state.draws.drop (2 * turns) := by
  induction turns with
  | zero => rfl
  | succ turns ih =>
      rw [turned, Nat.mul_succ, ← Stream'.tail_drop', ← Stream'.tail_drop', ← ih]
      rfl

theorem ouTurn_draws (mu theta volatility dt sqrtDt : Positive) (state : Decimal × Draws)
    (turns : Nat) :
    (turned (ouTurn mu theta volatility dt sqrtDt) state turns).2 = state.2.drop turns := by
  induction turns with
  | zero => rfl
  | succ turns ih =>
      rw [turned, ← Stream'.tail_drop', ← ih]
      rfl

theorem ouProcess_eq (library : WalkLibrary Chain) (x0 mu theta volatility dt : Positive)
    (steps : Nat) (draws : Draws) :
    ouProcess library x0 mu theta volatility dt steps draws =
      (x0 :: (List.range (steps - 1)).map (appended
        (ouTurn mu theta volatility dt (library.sqrtPositive dt)) (x0.value, draws)),
        draws.drop (steps - 1)) := by
  unfold ouProcess
  simp only [unroll_run, ouTurn_draws]

theorem customPath_length (dt : Positive) (drift : Decimal) (sqrtDt : Positive)
    (vols : List Positive) (price : Decimal) (draws : Draws) :
    (customPath dt drift sqrtDt vols price draws).length = vols.length := by
  induction vols generalizing price draws with
  | nil => rfl
  | cons vol vols ih => rw [customPath, List.length_cons, List.length_cons, ih]

/-- The prices of the custom model before they are shown without their sign. -/
def customPrice (dt : Positive) (drift : Decimal) (sqrtDt : Positive) (vols : List Positive)
    (start : Decimal) (draws : Draws) : Nat → Decimal
  | 0 => start
  | step + 1 =>
      let price := customPrice dt drift sqrtDt vols start draws step
      price + (drift * dt.value +
        (draws.get step).normal * (vols.getD step .zero).value * price * sqrtDt.value)

theorem customPrice_cons (dt : Positive) (drift : Decimal) (sqrtDt vol : Positive)
    (vols : List Positive) (start : Decimal) (draws : Draws) (step : Nat) :
    customPrice dt drift sqrtDt vols (customPrice dt drift sqrtDt (vol :: vols) start draws 1)
        draws.tail step =
      customPrice dt drift sqrtDt (vol :: vols) start draws (step + 1) := by
  induction step with
  | zero => rfl
  | succ step ih =>
      rw [customPrice, ih]
      rfl

theorem customPath_getElem? (dt : Positive) (drift : Decimal) (sqrtDt : Positive)
    (vols : List Positive) (price : Decimal) (draws : Draws) (step : Nat)
    (within : step < vols.length) :
    (customPath dt drift sqrtDt vols price draws)[step]? = some
      (.ofDecimal (max (customPrice dt drift sqrtDt vols price draws (step + 1)) 0)) := by
  induction vols generalizing price draws step with
  | nil => cases within
  | cons vol vols ih =>
      have first : price + (drift * dt.value + (draws.head.normal * (vol.value * price)) *
          sqrtDt.value) = customPrice dt drift sqrtDt (vol :: vols) price draws 1 := by
        simp only [customPrice, List.getD_cons_zero, mul_assoc]
      rw [customPath]
      cases step with
      | zero =>
          simp only [List.getElem?_cons_zero, normalSample, first]
      | succ step =>
          rw [List.getElem?_cons_succ]
          simp only [normalSample, first]
          rw [ih _ _ step (Nat.lt_of_succ_lt_succ within), customPrice_cons]

theorem customPath_scaled (dt : Positive) (drift : Decimal) (sqrtDt : Positive)
    (vols : List Positive) (draws : Draws) :
    WalkPath.ScaledBy
      ⟨start :: customPath dt drift sqrtDt vols start.value draws, some (volatility :: vols)⟩ start
      (fun step => (draws.get step).normal)
      (fun price noise => price + (drift * dt.value + noise * price * sqrtDt.value))
      (fun price => .ofDecimal (max price 0)) := by
  refine ⟨customPrice dt drift sqrtDt vols start.value draws, rfl, volatility :: vols, rfl, ?_⟩
  intro step within
  have inRange := Nat.lt_of_succ_lt_succ within
  rw [customPath_length] at inRange
  refine ⟨vols[step], List.getElem?_eq_getElem inRange, ?_,
    customPath_getElem? dt drift sqrtDt vols start.value draws step inRange⟩
  rw [customPrice, List.getD_eq_getElem?_getD, List.getElem?_eq_getElem inRange,
    Option.getD_some]

end Scales

section Kernels

variable {library : WalkLibrary Chain} {draws : Draws} {params : WalkParams Chain}

theorem garch_scaled {dt volatility alpha beta : Positive} {drift : Decimal} {path : WalkPath}
    (positive : 1 ≤ params.size) (walks : params.walkType = .garch dt drift volatility alpha beta)
    (walked : garchWalkSeeded library draws params = .ok path) :
    ∃ start, ystep library params = .ok start ∧
      path.Aligned params.size start (some volatility) ∧ path.vols.isSome ∧
      ScaledNoise library draws params.size start path params.walkType := by
  unfold garchWalkSeeded at walked
  simp only [walks, unroll_run] at walked
  split_ifs at walked with unstable
  · cases walked
  · obtain ⟨start, stepped, walked⟩ := bind_eq_ok.mp walked
    obtain ⟨sqrtDt, rooted, kept⟩ := bind_eq_ok.mp walked
    cases kept
    refine ⟨start, stepped, aligned_of_vols positive (by simp) (by simp), rfl, ?_⟩
    rw [walks]
    refine ⟨sqrtDt, rooted, scaledBy_of_turns GarchState.price rfl ?_ ?_⟩
    · intro step
      rw [← Stream'.head_drop draws step, ← garchTurn_draws library dt alpha beta _ drift sqrtDt
        ⟨start.value, volatility.mul volatility, 0, draws⟩ step]
      rfl
    · intro step
      rfl

theorem telegraph_scaled {dt volatility lambdaUp lambdaDown : Positive} {drift : Decimal}
    {volMultiplierUp volMultiplierDown : Option Positive} {path : WalkPath}
    (positive : 1 ≤ params.size)
    (walks : params.walkType = .telegraph dt drift volatility lambdaUp lambdaDown
      volMultiplierUp volMultiplierDown)
    (walked : telegraphWalkSeeded library draws params = .ok path) :
    ∃ start, ystep library params = .ok start ∧
      path.Aligned params.size start (some volatility) ∧ path.vols.isSome ∧
      ScaledNoise library draws params.size start path params.walkType := by
  unfold telegraphWalkSeeded at walked
  simp only [walks, unroll_run, normalSample] at walked
  obtain ⟨start, stepped, kept⟩ := bind_eq_ok.mp walked
  cases kept
  refine ⟨start, stepped, aligned_of_vols positive (by simp) (by simp), rfl, ?_⟩
  rw [walks, ScaledNoise]
  apply scaledBy_of_turns TelegraphState.price
  · rfl
  · intro step
    have drawn := telegraphTurn_draws library dt volatility lambdaUp lambdaDown
      (volMultiplierUp.getD .one) (volMultiplierDown.getD .one) (library.sqrtPositive dt) drift
      ⟨start.value, decide (draws.head.normal < 0), draws.tail⟩ step
    have second : (draws.get (2 * step + 2)).normal =
        ((draws.tail.drop (2 * step)).tail.head).normal := by
      simp
    have ordered : ∀ noise vol root : Decimal, noise * vol * root = vol * root * noise := by
      intro noise vol root
      ring
    rw [second, ← drawn, ordered]
    rfl
  · intro step
    rfl

theorem custom_scaled {dt volatility vov volSpeed volMean : Positive} {drift : Decimal}
    {path : WalkPath} (positive : 1 ≤ params.size)
    (walks : params.walkType = .custom dt drift volatility vov volSpeed volMean)
    (walked : customWalkSeeded library draws params = .ok path) :
    ∃ start, ystep library params = .ok start ∧
      path.Aligned params.size start (some volatility) ∧ path.vols.isSome ∧
      ScaledNoise library draws params.size start path params.walkType := by
  unfold customWalkSeeded at walked
  simp only [walks, ouProcess_eq] at walked
  obtain ⟨start, stepped, kept⟩ := bind_eq_ok.mp walked
  cases kept
  refine ⟨start, stepped, aligned_of_vols positive (by simp [customPath_length])
    (by simp), rfl, ?_⟩
  rw [walks, ScaledNoise]
  have noise : (fun step => (draws.get (params.size - 1 + step)).normal) =
      fun step => ((draws.drop (params.size - 1)).get step).normal := by
    funext step
    rw [Stream'.get_drop]
  rw [noise]
  exact customPath_scaled dt drift (library.sqrtPositive dt) _ (draws.drop (params.size - 1))

theorem heston_aligned {dt volatility kappa theta xi : Positive} {drift rho : Decimal}
    {path : WalkPath} (positive : 1 ≤ params.size)
    (walks : params.walkType = .heston dt drift volatility kappa theta xi rho)
    (walked : hestonWalkSeeded library draws params = .ok path) :
    ∃ start, ystep library params = .ok start ∧
      path.Aligned params.size start (some volatility) ∧ path.vols.isSome := by
  unfold hestonWalkSeeded at walked
  simp only [walks] at walked
  split_ifs at walked with outside
  · cases walked
  · obtain ⟨start, stepped, walked⟩ := bind_eq_ok.mp walked
    obtain ⟨dtSqrt, -, walked⟩ := bind_eq_ok.mp walked
    obtain ⟨oneMinus, -, walked⟩ := bind_eq_ok.mp walked
    obtain ⟨⟨rest, final⟩, unrolled, kept⟩ := bind_eq_ok.mp walked
    have moves := length_of_unroll unrolled
    cases kept
    exact ⟨start, stepped, aligned_of_vols positive (by simp [moves]) (by simp [moves]), rfl⟩

/-- A kernel that only reports prices pushes the first one and then one a move. -/
def Pushes (library : WalkLibrary Chain) (params : WalkParams Chain)
    (prices : Except SimulationError (List Positive)) : Prop :=
  ∀ pushed, prices = .ok pushed → ∃ start rest, ystep library params = .ok start ∧
    pushed = start :: rest ∧ rest.length = params.size - 1

theorem Pushes.aligned {prices : Except SimulationError (List Positive)} {path : WalkPath}
    (pushes : Pushes library params prices) (volatility : Option Positive)
    (positive : 1 ≤ params.size) (walked : (⟨·, none⟩) <$> prices = .ok path) :
    ∃ start, ystep library params = .ok start ∧ path.Aligned params.size start volatility ∧
      path.vols = none := by
  obtain ⟨found, pushed, rfl⟩ := map_eq_ok.mp walked
  obtain ⟨start, rest, stepped, rfl, moves⟩ := pushes found pushed
  exact ⟨start, stepped, aligned_of_prices positive moves volatility, rfl⟩

theorem brownian_pushes {dt volatility : Positive} {drift : Decimal}
    (walks : params.walkType = .brownian dt drift volatility) :
    Pushes library params (brownian library draws params) := by
  intro pushed pushes
  unfold brownian at pushes
  simp only [walks, unroll_run] at pushes
  obtain ⟨start, stepped, pushes⟩ := bind_eq_ok.mp pushes
  obtain ⟨sqrtDt, -, kept⟩ := bind_eq_ok.mp pushes
  cases kept
  exact ⟨start, _, stepped, rfl, by simp⟩

theorem geometricBrownian_pushes {dt volatility : Positive} {drift : Decimal}
    (walks : params.walkType = .geometricBrownian dt drift volatility) :
    Pushes library params (geometricBrownian library draws params) := by
  intro pushed pushes
  unfold geometricBrownian at pushes
  simp only [walks, unroll_run] at pushes
  obtain ⟨start, stepped, kept⟩ := bind_eq_ok.mp pushes
  cases kept
  exact ⟨start, _, stepped, rfl, by simp⟩

theorem logReturns_pushes {dt volatility : Positive} {expectedReturn : Decimal}
    {autocorrelation : Option Decimal}
    (walks : params.walkType = .logReturns dt expectedReturn volatility autocorrelation) :
    Pushes library params (logReturns library draws params) := by
  intro pushed pushes
  unfold logReturns at pushes
  simp only [walks] at pushes
  obtain ⟨start, stepped, pushes⟩ := bind_eq_ok.mp pushes
  obtain ⟨sqrtDt, -, pushes⟩ := bind_eq_ok.mp pushes
  obtain ⟨⟨rest, final⟩, unrolled, kept⟩ := bind_eq_ok.mp pushes
  cases kept
  exact ⟨start, rest, stepped, rfl, length_of_unroll unrolled⟩

theorem meanReverting_pushes {dt volatility speed mean : Positive}
    (walks : params.walkType = .meanReverting dt volatility speed mean) :
    Pushes library params (meanReverting library draws params) := by
  intro pushed pushes
  unfold meanReverting at pushes
  simp only [walks, ouProcess_eq] at pushes
  obtain ⟨start, stepped, kept⟩ := bind_eq_ok.mp pushes
  cases kept
  exact ⟨start, _, stepped, rfl, by simp⟩

theorem jumpDiffusion_pushes {dt volatility intensity jumpVolatility : Positive}
    {drift jumpMean : Decimal}
    (walks : params.walkType =
      .jumpDiffusion dt drift volatility intensity jumpMean jumpVolatility) :
    Pushes library params (jumpDiffusion library draws params) := by
  intro pushed pushes
  unfold jumpDiffusion at pushes
  simp only [walks, unroll_run] at pushes
  split_ifs at pushes with frequent
  · cases pushes
  · obtain ⟨start, stepped, kept⟩ := bind_eq_ok.mp pushes
    cases kept
    exact ⟨start, _, stepped, rfl, by simp⟩

/-- Every kernel walks one price a step from the first price, and beside it, where it reports
volatilities, the one that scaled the noise of each move. -/
theorem kernel_path_aligned {walk : WalkType} {path : WalkPath}
    {run : Draws → WalkParams Chain → Except SimulationError WalkPath}
    (found : pathKernel library walk = some run) (walks : params.walkType = walk)
    (positive : 1 ≤ params.size) (walked : run draws params = .ok path) :
    ∃ start, ystep library params = .ok start ∧
      path.Aligned params.size start walk.volatility ∧ (path.vols.isSome ↔ ReportsVols walk) ∧
      ScaledNoise library draws params.size start path walk := by
  cases walk with
  | brownian dt drift volatility =>
      cases found
      obtain ⟨start, stepped, aligned, bare⟩ :=
        (brownian_pushes walks).aligned (some volatility) positive walked
      exact ⟨start, stepped, aligned, by simp [bare, ReportsVols], trivial⟩
  | geometricBrownian dt drift volatility =>
      cases found
      obtain ⟨start, stepped, aligned, bare⟩ :=
        (geometricBrownian_pushes walks).aligned (some volatility) positive walked
      exact ⟨start, stepped, aligned, by simp [bare, ReportsVols], trivial⟩
  | logReturns dt expectedReturn volatility autocorrelation =>
      cases found
      obtain ⟨start, stepped, aligned, bare⟩ :=
        (logReturns_pushes walks).aligned (some volatility) positive walked
      exact ⟨start, stepped, aligned, by simp [bare, ReportsVols], trivial⟩
  | meanReverting dt volatility speed mean =>
      cases found
      obtain ⟨start, stepped, aligned, bare⟩ :=
        (meanReverting_pushes walks).aligned (some volatility) positive walked
      exact ⟨start, stepped, aligned, by simp [bare, ReportsVols], trivial⟩
  | jumpDiffusion dt drift volatility intensity jumpMean jumpVolatility =>
      cases found
      obtain ⟨start, stepped, aligned, bare⟩ :=
        (jumpDiffusion_pushes walks).aligned (some volatility) positive walked
      exact ⟨start, stepped, aligned, by simp [bare, ReportsVols], trivial⟩
  | garch dt drift volatility alpha beta =>
      cases found
      obtain ⟨start, stepped, aligned, reported, scaled⟩ := garch_scaled positive walks walked
      exact ⟨start, stepped, aligned, by simp [reported, ReportsVols], walks ▸ scaled⟩
  | heston dt drift volatility kappa theta xi rho =>
      cases found
      obtain ⟨start, stepped, aligned, reported⟩ := heston_aligned positive walks walked
      exact ⟨start, stepped, aligned, by simp [reported, ReportsVols], trivial⟩
  | custom dt drift volatility vov volSpeed volMean =>
      cases found
      obtain ⟨start, stepped, aligned, reported, scaled⟩ := custom_scaled positive walks walked
      exact ⟨start, stepped, aligned, by simp [reported, ReportsVols], walks ▸ scaled⟩
  | telegraph dt drift volatility lambdaUp lambdaDown volMultiplierUp volMultiplierDown =>
      cases found
      obtain ⟨start, stepped, aligned, reported, scaled⟩ := telegraph_scaled positive walks walked
      exact ⟨start, stepped, aligned, by simp [reported, ReportsVols], walks ▸ scaled⟩
  | historical timeframe prices symbol => cases found

/-- A library that knows the first price, and the roots and exponential of nothing but zero
and one. -/
def plainLibrary : WalkLibrary Unit where
  ystepAsPositive _ := .ok (.ratio 100 1)
  sqrt := some
  exp _ := 1
  sqrtPositive := id
  sqrtF64 value := .finite value.value
  fromF64
    | .finite value => some value
    | _ => none

def steadyCustom : WalkParams Unit :=
  ⟨3, .day, .one, (), .custom .one 0 (.ratio 1 5) (.ratio 1 10) .one
    (.ratio 3 10)⟩

def unitDraws : Draws := Stream'.const ⟨1, 0⟩

theorem kernel_path_aligned_steadyCustom :
    ∃ path, customWalkSeeded plainLibrary unitDraws steadyCustom = .ok path ∧
      ∃ start, ystep plainLibrary steadyCustom = .ok start ∧
        path.Aligned 3 start steadyCustom.walkType.volatility ∧
        (path.vols.isSome ↔ ReportsVols steadyCustom.walkType) ∧
        ScaledNoise plainLibrary unitDraws 3 start path steadyCustom.walkType := by
  refine ⟨_, rfl, ?_⟩
  exact @kernel_path_aligned Unit plainLibrary unitDraws steadyCustom _ _ _ rfl rfl (by decide) rfl

end Kernels

end Walker

end OptionChainSimulator.Domain
