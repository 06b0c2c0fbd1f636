import Mathlib.Tactic
import OptionChainSimulator.Domain.Causality
import OptionChainSimulator.Domain.BoundedKernels
import OptionChainSimulator.Domain.KernelPrices
import OptionChainSimulator.Session.ModelV2

namespace OptionChainSimulator.Session

open Utils Api Domain MachineWalker

/-! Whether every step of a built tape can be priced. -/

section Tape

variable {Chain : Type} {service : Service} {upstream : Upstream Chain}
  {library : DecimalLibrary Chain} {draws : Nat → Draws} {parameters : SimulationParametersV2}
  {method : SimulationMethod} {tape : FactorTape} {base : Domain.Positive}
  {walkParams : WalkParams Chain}

/-- The walker's libraries run its kernels, replay a historical series, and show the price that a
chain was built at. -/
structure RunsKernels (upstream : Upstream Chain) (library : DecimalLibrary Chain)
    (draws : Nat → Draws) : Prop where
  walks : ∀ seed params run path, kernel library params.walkType = some run →
    upstream.generateWithVol seed params = .ok (.ok path) → run (draws seed) params = .ok path
  replays : ReplaysPrices upstream
  shows : ∀ build params, upstream.buildChain build = .ok params.initialChain →
    library.ystepAsPositive params = .ok build.underlyingPrice

/-- Every step of a tape is there, in its time and with something to price it. -/
structure PricedTape (parameters : SimulationParametersV2) (method : SimulationMethod)
    (tape : FactorTape) : Prop where
  length : tape.rows.length = parameters.steps
  clock : ∀ step row, tape.row step = some row → row.step = step ∧
    row.simulatedAt.timestamp =
      parameters.effectiveStart.timestamp + step * parameters.stepIntervalSeconds ∧
    row.simulatedAt.time.frac = 0
  first : (∀ timeframe prices symbol, method ≠ .historical timeframe prices symbol) →
    ∀ row, tape.row 0 = some row → row.spot = parameters.initialPrice
  spot : ∀ row ∈ tape.rows, 0 < row.spot.value
  volatility : ∀ row ∈ tape.rows, 0 < row.baseVolatility.value ∧ row.baseVolatility.value ≤ 1

theorem pos_of_ne_zero {value : Domain.Positive} (nonzero : value ≠ .zero) : 0 < value.value := by
  refine lt_of_le_of_ne value.nonneg ?_
  intro zero
  apply nonzero
  cases value
  cases zero
  rfl

theorem priceable_of_ok {numerics : Numerics} {volatility : Domain.Positive} {step : Option Nat}
    {source : VolatilitySource}
    (accepted : rejectUnpriceableVolatility numerics volatility step source = .ok ()) :
    0 < volatility.value ∧ volatility.value ≤ 1 := by
  unfold rejectUnpriceableVolatility at accepted
  split_ifs at accepted with zero fits
  exact ⟨pos_of_ne_zero zero, fits⟩

theorem initialPrice_pos (valid : parameters.validate service = .ok ()) :
    0 < parameters.initialPrice.value := by
  unfold SimulationParametersV2.validate at valid
  simp only [bind_unit_eq_ok] at valid
  obtain ⟨-, -, -, valid⟩ := valid
  obtain ⟨_, -, valid⟩ := bind_eq_ok.mp valid
  obtain ⟨nonzero, -⟩ := bind_unit_eq_ok.mp valid
  unfold rejectZero at nonzero
  split_ifs at nonzero with zero
  exact pos_of_ne_zero zero

theorem covered_pos {timeframe : TimeFrame} {prices : List Domain.Positive} {symbol : Option String}
    (covers : ensureHistoricalSeriesCoversTheHorizon parameters
      (.historical timeframe prices symbol) = .ok ()) :
    parameters.steps ≤ prices.length ∧
      ∀ price ∈ prices.take parameters.steps, 0 < price.value := by
  refine ⟨steps_le_of_covers covers, ?_⟩
  unfold ensureHistoricalSeriesCoversTheHorizon at covers
  dsimp only at covers
  split_ifs at covers with short
  cases found : (prices.take parameters.steps).findIdx? (· = .zero) with
  | some index =>
      rw [found] at covers
      cases covers
  | none =>
      intro price listed
      apply pos_of_ne_zero
      have nonzero := List.findIdx?_eq_none_iff.mp found price listed
      simpa using nonzero

/-- What a tape's path is to its rows, where it is a historical series and where it is walked. -/
structure TapePath (library : DecimalLibrary Chain) (draws : Draws)
    (parameters : SimulationParametersV2) (method : SimulationMethod) (path : WalkPath) : Prop where
  length : path.prices.length = parameters.steps
  first : (∀ timeframe prices symbol, method ≠ .historical timeframe prices symbol) →
    path.prices[0]? = some parameters.initialPrice
  positive : (∀ price ∈ path.prices, 0 < price.value) ↔
    KeepsAboveZero library draws parameters.steps parameters.initialPrice method

theorem tapePath_of_series {timeframe : TimeFrame} {prices : List Domain.Positive}
    {symbol : Option String} {path : WalkPath} (runs : RunsKernels upstream library draws)
    (walks : walkParams.walkType = .historical timeframe prices symbol)
    (size : walkParams.size = parameters.steps)
    (covers : ensureHistoricalSeriesCoversTheHorizon parameters
      (.historical timeframe prices symbol) = .ok ())
    (generated : upstream.generateWithVol parameters.seed walkParams = .ok (.ok path)) :
    TapePath library (draws parameters.seed) parameters (.historical timeframe prices symbol)
      path := by
  obtain ⟨long, positive⟩ := covered_pos covers
  obtain rfl := runs.replays _ _ _ _ _ _ walks (size ▸ long) generated
  rw [size]
  refine ⟨List.length_take_of_le long, ?_, iff_of_true positive trivial⟩
  intro other
  exact absurd rfl (other timeframe prices symbol)

theorem tapePath_of_kernel {path : WalkPath}
    {run : Draws → WalkParams Chain → Except Abort WalkPath}
    {build : OptionChainBuildParams} (runs : RunsKernels upstream library draws)
    (found : kernel library method = some run) (walks : walkParams.walkType = method)
    (size : walkParams.size = parameters.steps) (valid : parameters.validate service = .ok ())
    (chained : upstream.buildChain build = .ok walkParams.initialChain)
    (priced : build.underlyingPrice = parameters.initialPrice)
    (generated : upstream.generateWithVol parameters.seed walkParams = .ok (.ok path)) :
    TapePath library (draws parameters.seed) parameters method path := by
  have some_point : 1 ≤ walkParams.size := by
    rw [size]
    exact (SessionV2.steps_of_validate valid).1
  have walked := runs.walks _ _ _ _ (walks ▸ found) generated
  obtain ⟨start, stepped, shape⟩ := kernel_priced found walks some_point walked
  have shown : start = parameters.initialPrice := by
    have shows := runs.shows build walkParams chained
    unfold Walker.ystep at stepped
    rw [mapError_eq_ok] at stepped
    cases stepped.symm.trans shows
    exact priced
  rw [shown, walks, size] at shape
  exact ⟨shape.length, fun _ => shape.first,
    shape.positive.trans (and_iff_right (initialPrice_pos valid))⟩

theorem path_of_build (runs : RunsKernels upstream library draws)
    (built : FactorTape.build service upstream parameters method = .ok tape) :
    parameters.validate service = .ok () ∧ ∃ path base volatilities,
      TapePath library (draws parameters.seed) parameters method path ∧
      List.Forall₂ (fun step row =>
        factorRow service parameters method path.prices volatilities base step = .ok row)
        (List.range parameters.steps) tape.rows := by
  obtain ⟨base, walkParams, path, volatilities, prepared, generated, -, -, rows⟩ :=
    FactorTape.walked_of_build built
  obtain ⟨valid, covers, size, walks, build, chained, priced⟩ := factorWalk_eq_ok prepared
  refine ⟨valid, path, base, volatilities, ?_, rows⟩
  cases found : kernel library method with
  | some run => exact tapePath_of_kernel runs found walks size valid chained priced generated
  | none =>
      cases method with
      | historical timeframe prices symbol =>
          exact tapePath_of_series runs walks size covers generated
      | brownian | geometricBrownian | logReturns | meanReverting | jumpDiffusion | garch | heston
      | custom | telegraph => cases found

/-- A tape that is built can be priced at every step exactly where its moves end above zero. -/
theorem built_tape_priced_iff (runs : RunsKernels upstream library draws)
    (built : FactorTape.build service upstream parameters method = .ok tape) :
    PricedTape parameters method tape ↔
      KeepsAboveZero library (draws parameters.seed) parameters.steps parameters.initialPrice
        method := by
  obtain ⟨valid, path, base, volatilities, shape, rows⟩ := path_of_build runs built
  obtain ⟨counted, assembled⟩ := forall₂_range rows
  have spots : tape.rows.map FactorRow.spot = path.prices := by
    apply List.ext_getElem?
    intro step
    rw [List.getElem?_map]
    cases present : tape.rows[step]? with
    | some row => exact (factorRow_eq_ok (assembled step row present)).2.1.symm
    | none =>
        rw [List.getElem?_eq_none_iff, counted, ← shape.length] at present
        exact (List.getElem?_eq_none present).symm
  rw [← shape.positive, ← spots, List.forall_mem_map]
  constructor
  · exact PricedTape.spot
  · intro positive
    refine ⟨counted, ?_, ?_, positive, ?_⟩
    · intro step row present
      obtain ⟨named, -, -, -, clocked⟩ := factorRow_eq_ok (assembled step row present)
      exact ⟨named, (SimulationParametersV2.simulatedAt_eq_ok valid).mp clocked⟩
    · intro walked row present
      obtain ⟨-, spot, -⟩ := factorRow_eq_ok (assembled 0 row present)
      exact Option.some.inj (spot.symm.trans (shape.first walked))
    · intro row listed
      obtain ⟨step, within, held⟩ := List.getElem_of_mem listed
      have present := List.getElem?_eq_some_iff.mpr ⟨within, held⟩
      obtain ⟨-, -, -, accepted, -⟩ := factorRow_eq_ok (assembled step row present)
      exact priceable_of_ok accepted

/-- Where a Brownian tape can be priced at every step, the exact sums of its changes end above zero
or within the roundings of it. -/
theorem brownian_sums_of_priced {dt volatility : Domain.Positive} {drift sqrtDt : Decimal}
    (rounds : library.Rounds) (bounds : WalkBounds) (runs : RunsKernels upstream library draws)
    (built : FactorTape.build service upstream parameters (.brownian dt drift volatility) =
      .ok tape)
    (rooted : Walker.sqrtDtDec library.toWalkLibrary "simulation::brownian::sqrt_dt" dt =
      .ok sqrtDt)
    (normals : NormalsWithin bounds.normals (parameters.steps - 1) (draws parameters.seed))
    (bounded : WalkBounded library bounds parameters.steps parameters.initialPrice
      (.brownian dt drift volatility))
    (priced : PricedTape parameters (.brownian dt drift volatility) tape) :
    ∀ turns < parameters.steps - 1, 0 < Foundation.drifted (fun turn => drift * dt.value +
        volatility.value * parameters.initialPrice.value * sqrtDt *
          ((draws parameters.seed).get turn).normal)
      (-brownianLoss bounds |sqrtDt|) parameters.initialPrice.value (turns + 1) :=
  brownian_sums rounds rooted normals bounded ((built_tape_priced_iff runs built).mp priced)

end Tape

section Brownian

/-- Exact decimals; a chain is the price it is built at. -/
def priceLibrary : DecimalLibrary Domain.Positive where
  ystepAsPositive params := .ok params.initialChain
  sqrt := some
  exp _ := 1
  sqrtPositive := id
  sqrtF64 value := .finite value.value
  fromF64
    | .finite value => some value
    | _ => none
  round value := value
  expFits exponent := -66 ≤ exponent ∧ exponent ≤ 66

def kernelUpstream (draws : Nat → Draws) : Upstream Domain.Positive where
  buildChain build := .ok build.underlyingPrice
  optionCount _ := 1
  generateWithVol seed params :=
    match kernel priceLibrary params.walkType, params.walkType with
    | some run, _ =>
        match run (draws seed) params with
        | .ok path => .ok (.ok path)
        | .error (.failed _) => .ok (.error "the walk failed")
        | .error .panic => .error (.panic "the walk panicked")
    | none, .historical _ prices _ => .ok (.ok ⟨prices.take params.size, none⟩)
    | none, _ => .ok (.error "no kernel")
  constantVolatility := flatUpstream.constantVolatility
  adjustVolatility := flatUpstream.adjustVolatility
  checkedLn := flatUpstream.checkedLn
  positiveNewDecimal := flatUpstream.positiveNewDecimal
  displayDecimal := flatUpstream.displayDecimal
  displayTimeFrame := flatUpstream.displayTimeFrame
  debugMethod := flatUpstream.debugMethod

/-- Two daily steps of a Brownian walk from a hundred. -/
def twoDays (drift : Decimal) : SimulationParametersV2 :=
  { dailyParameters Expiry.thursdayNoon with
    steps := 2
    method := .brownian .one drift (.ratio 1 4) }

end Brownian

end OptionChainSimulator.Session
