import Mathlib.Tactic
import OptionChainSimulator.Api.Rejections
import OptionChainSimulator.Session.LockFreedom

namespace OptionChainSimulator.Session

open Foundation Utils Domain Domain.Expiry Api

/-! What a tape or a snapshot that cannot be built fails with. -/

/-- Parameters that cannot be priced, or something internal. -/
def Unpriced : ChainError → Prop
  | .validation _ _ | .internal _ => True
  | _ => False

section Kinds

variable {allowed : ChainError → Prop} {field reason message : String} {fault : Fault}

@[simp] theorem unpriced_validation : Unpriced (.validation field reason) := trivial

@[simp] theorem unpriced_internal : Unpriced (.internal message) := trivial

/-- A panic is none of the errors a call answers. -/
def Faulted (allowed : ChainError → Prop) : Fault → Prop
  | .error e => allowed e
  | .panic _ => True

@[simp] theorem faulted_error {e : ChainError} : Faulted allowed (.error e) ↔ allowed e := Iff.rfl

@[simp] theorem faulted_panic : Faulted allowed (.panic message) := trivial

@[simp] theorem failsOnly_lift {α : Type} {computed : Except ChainError α} :
    FailsOnly (Faulted allowed) (liftM computed : Except Fault α) ↔
      FailsOnly allowed computed := by
  cases computed with
  | error e =>
      constructor
      · intro fails
        exact failsOnly_error.mpr (fails (.error e) rfl)
      · intro fails fault same
        cases same
        exact fails e rfl
  | ok value => exact iff_of_true failsOnly_ok failsOnly_ok

theorem unpriced_of_named {known : String → Prop} {e : ChainError} (named : NamesField known e) :
    Unpriced e := by
  cases e with
  | validation => trivial
  | sessionError | stdError | invalidState | internal | notFound | alreadyExists | conflict |
      simulatorError | clickHouseError | notEnoughData => exact named.elim

end Kinds

section Tapes

variable {Chain : Type} {service : Service} {upstream : Upstream Chain}
  {parameters : SimulationParametersV2} {method : SimulationMethod} {timeframe : TimeFrame}
  {prices : List Domain.Positive}

theorem validate_unpriced : FailsOnly Unpriced (parameters.validate service) := by
  have named : FailsOnly (NamesField fun _ => True) (parameters.validate service) :=
    validate_fails (fun _ _ => trivial) (.inr trivial)
  exact named.mono fun _ => unpriced_of_named

theorem rejectUnpriceableVolatility_unpriced {numerics : Numerics} {volatility : Domain.Positive}
    {step : Option Nat} {source : VolatilitySource} :
    FailsOnly Unpriced (rejectUnpriceableVolatility numerics volatility step source) := by
  unfold rejectUnpriceableVolatility
  split_ifs <;> simp

theorem ensureMethodMatches_unpriced :
    FailsOnly Unpriced (ensureMethodMatches upstream parameters method) := by
  unfold ensureMethodMatches
  dsimp only
  split_ifs <;> simp

theorem ensureHistoricalSeries_unpriced :
    FailsOnly Unpriced (ensureHistoricalSeriesCoversTheHorizon parameters method) := by
  unfold ensureHistoricalSeriesCoversTheHorizon
  split
  · split_ifs
    · simp [tooFewPrices]
    · split <;> simp
  · simp

theorem logReturn_unpriced {index : Nat} {previous current : Decimal} :
    FailsOnly Unpriced (logReturn upstream index previous current) := by
  unfold logReturn
  split_ifs <;> simp

theorem logReturns_unpriced : FailsOnly Unpriced (logReturns upstream prices) := by
  unfold logReturns
  generalize 0 = index
  induction prices generalizing index with
  | nil => simp [logReturnsFrom]
  | cons previous prices ih =>
      cases prices with
      | nil => simp [logReturnsFrom]
      | cons current prices => simp [logReturnsFrom, logReturn_unpriced, ih]

theorem annualise_unpriced {volatility : Domain.Positive} :
    FailsOnly Unpriced (annualise upstream volatility timeframe) := by
  simp [annualise, failsOnly_of_forall]

theorem historicalConstantVolatility_unpriced :
    FailsOnly Unpriced (historicalConstantVolatility upstream prices timeframe) := by
  simp [historicalConstantVolatility, logReturns_unpriced, annualise_unpriced,
    failsOnly_of_forall]

theorem windowVolatility_unpriced {returns : List Decimal} {count point : Nat} :
    FailsOnly Unpriced (windowVolatility upstream returns count timeframe point) := by
  unfold windowVolatility
  split_ifs <;> simp [annualise_unpriced, failsOnly_of_forall]

theorem expandingWindowVolatilities_unpriced :
    FailsOnly Unpriced (expandingWindowVolatilities upstream prices timeframe) := by
  unfold expandingWindowVolatilities
  split_ifs
  · simp
  · apply logReturns_unpriced.bind
    intro returns _
    apply (FailsOnly.mapM fun point _ => windowVolatility_unpriced).bind
    intro volatilities _
    split <;> simp

theorem resolveBaseVolatility_unpriced :
    FailsOnly Unpriced (resolveBaseVolatility service upstream parameters method) := by
  unfold resolveBaseVolatility
  split
  · split_ifs <;> simp
  · split
    · split_ifs
      · simp [tooFewPrices]
      · exact historicalConstantVolatility_unpriced
    · simp

theorem buildChain_unpriced {spot volatility days : Domain.Positive} :
    FailsOnly Unpriced (buildChain upstream parameters spot volatility days) := by
  have spread : FailsOnly Unpriced (chainSpread upstream parameters.spread) := by
    unfold chainSpread
    split <;> simp [failsOnly_of_forall]
  simp [buildChain, spread, failsOnly_of_forall]

theorem factorWalk_unpriced :
    FailsOnly Unpriced (factorWalk service upstream parameters method) := by
  simp [factorWalk, validate_unpriced, ensureMethodMatches_unpriced,
    ensureHistoricalSeries_unpriced, resolveBaseVolatility_unpriced,
    rejectUnpriceableVolatility_unpriced, buildInitialChain, buildChain_unpriced]

theorem simulatedAt_unpriced {cursor : Nat} :
    FailsOnly Unpriced (parameters.simulatedAt cursor) := by
  simp [SimulationParametersV2.simulatedAt, SimulationParametersV2.simulatedTimeOverflow]

theorem factorRow_unpriced {volatilities : Option (List Domain.Positive)} {base : Domain.Positive}
    {step : Nat} :
    FailsOnly Unpriced (factorRow service parameters method prices volatilities base step) := by
  have priced : FailsOnly Unpriced (rowVolatility volatilities base step) := by
    unfold rowVolatility
    split <;> simp
  simp [factorRow, priced, rejectUnpriceableVolatility_unpriced, simulatedAt_unpriced]

theorem factorRows_unpriced {base : Domain.Positive} {path : WalkPath} :
    FailsOnly Unpriced (factorRows service upstream parameters method base path) := by
  have volatilities : FailsOnly Unpriced (stepVolatilities upstream method path) := by
    unfold stepVolatilities
    split
    · simp
    · split
      · exact expandingWindowVolatilities_unpriced
      · simp
  unfold factorRows
  split_ifs
  · simp
  · apply volatilities.bind
    intro found _
    apply (FailsOnly.mapM fun step _ => factorRow_unpriced).bind
    intro rows _
    exact failsOnly_pure

/-- The generator answers a path or an error of its own, or panics. -/
def GeneratesOrPanics (upstream : Upstream Chain) : Prop :=
  ∀ seed params e, upstream.generateWithVol seed params ≠ .error (.error e)

theorem tapeBuild_unpriced (generates : GeneratesOrPanics upstream) :
    FailsOnly (Faulted Unpriced) (FactorTape.build service upstream parameters method) := by
  have generated : ∀ {seed params},
      FailsOnly (Faulted Unpriced) (upstream.generateWithVol seed params) := by
    intro seed params fault failed
    cases fault with
    | error e => exact absurd failed (generates seed params e)
    | panic message => trivial
  simp [FactorTape.build, factorWalk_unpriced, generated, factorRows_unpriced,
    failsOnly_of_forall]

end Tapes

section Plans

variable {planner : RollingPlanner} {rule : ExpiryRule} {simulatedAt : UtcDateTime}
  {found : OrderedSet UtcDateTime} {wanted : Nat}

@[simp] theorem unpriced_projectionError {reason : String} :
    Unpriced (projectionError rule reason) := trivial

theorem lastWeekdayOfMonth_unpriced {year : Int} {month : Nat} {weekday : Weekday} :
    FailsOnly Unpriced (lastWeekdayOfMonth rule year month weekday) := by
  simp [lastWeekdayOfMonth, failsOnly_of_forall]

theorem collect_unpriced {date : NaiveDate} :
    FailsOnly Unpriced (planner.collect rule simulatedAt date found) := by
  have resolved : ∀ {eligible : NaiveDate},
      FailsOnly Unpriced (planner.instantFor rule eligible) := by
    intro eligible
    unfold RollingPlanner.instantFor
    dsimp only
    split <;> simp
  unfold RollingPlanner.collect
  split <;> simp [resolved]

theorem scanDaysFrom_unpriced {accepts : NaiveDate → Bool} {budget : Nat} {date : NaiveDate} :
    FailsOnly Unpriced
      (planner.scanDaysFrom rule simulatedAt wanted accepts budget date found) := by
  induction budget generalizing date found with
  | zero => exact failsOnly_ok
  | succ budget ih =>
      have visited : FailsOnly Unpriced
          (planner.visitDay rule simulatedAt accepts date found) := by
        unfold RollingPlanner.visitDay
        split_ifs
        · exact collect_unpriced
        · exact failsOnly_ok
      unfold RollingPlanner.scanDaysFrom
      apply visited.bind
      intro grown _
      split_ifs
      · exact failsOnly_ok
      · simp [ih]

theorem scanPeriodsFrom_unpriced {dateFor : Nat → Except ChainError (Option NaiveDate)}
    (dated : ∀ index, FailsOnly Unpriced (dateFor index)) {budget index : Nat} :
    FailsOnly Unpriced
      (planner.scanPeriodsFrom rule simulatedAt wanted dateFor budget index found) := by
  induction budget generalizing index found with
  | zero => exact failsOnly_ok
  | succ budget ih =>
      have visited : ∀ candidate, FailsOnly Unpriced
          (planner.visitPeriod rule simulatedAt candidate found) := by
        intro candidate
        cases candidate with
        | none => exact failsOnly_ok
        | some date => exact collect_unpriced
      unfold RollingPlanner.scanPeriodsFrom
      split_ifs
      · exact failsOnly_ok
      · simp [dated, visited, ih]

theorem scan_unpriced {start : NaiveDate} :
    FailsOnly Unpriced (planner.scan rule start simulatedAt wanted found) := by
  have days : ∀ {accepts}, FailsOnly Unpriced
      (planner.scanDays rule start simulatedAt wanted found accepts) := by
    simp [RollingPlanner.scanDays, scanDaysFrom_unpriced]
  have periods : ∀ {dateFor}, (∀ index, FailsOnly Unpriced (dateFor index)) →
      FailsOnly Unpriced (planner.scanPeriods rule simulatedAt wanted found dateFor) := by
    intro dateFor dated
    simp [RollingPlanner.scanPeriods, scanPeriodsFrom_unpriced dated]
  unfold RollingPlanner.scan
  split
  · exact days
  · exact days
  · apply periods
    intro index
    simp [monthlyDate, lastWeekdayOfMonth_unpriced, failsOnly_of_forall]
  · apply periods
    intro index
    simp [yearlyDate, lastWeekdayOfMonth_unpriced, failsOnly_of_forall]

theorem projectRule_unpriced :
    FailsOnly (Faulted Unpriced) (planner.projectRule rule simulatedAt) := by
  unfold RollingPlanner.projectRule
  dsimp only
  split
  · simp
  · apply (failsOnly_lift.mpr scan_unpriced).bind
    intro projected _
    split_ifs <;> simp

theorem activeAt_unpriced : FailsOnly (Faulted Unpriced) (planner.activeAt simulatedAt) := by
  have merged : ∀ {rules : List ExpiryRule} {merged : RollingPlanner.Merged},
      FailsOnly (Faulted Unpriced) (planner.mergeRules simulatedAt merged rules) := by
    intro rules
    induction rules with
    | nil => exact failsOnly_ok
    | cons rule rules ih => simp [RollingPlanner.mergeRules, projectRule_unpriced, ih]
  simp [RollingPlanner.activeAt, merged]

end Plans

section Snapshots

variable {Chain : Type} {runtime : Runtime Chain} {parameters : SimulationParametersV2}
  {step : Nat}

theorem buildExpiryChain_unpriced {upstream : Upstream Chain} {builder : SeriesBuilder}
    {row : FactorRow} {expiry : ActiveExpiry} :
    FailsOnly Unpriced (builder.buildExpiryChain upstream row expiry) := by
  have days : FailsOnly Unpriced (expiry.daysToExpiration row.simulatedAt) := by
    unfold ActiveExpiry.daysToExpiration
    dsimp only
    split_ifs <;> simp
  simp [SeriesBuilder.buildExpiryChain, days, buildChain_unpriced, failsOnly_of_forall]

theorem build_unpriced (generates : GeneratesOrPanics runtime.upstream) :
    FailsOnly Unpriced (runtime.build parameters) := by
  have built := @tapeBuild_unpriced Chain runtime.service runtime.upstream parameters
    parameters.method generates
  unfold Runtime.build
  generalize FactorTape.build runtime.service runtime.upstream parameters parameters.method =
    tape at built
  cases tape with
  | ok tape => exact failsOnly_ok
  | error fault =>
      cases fault with
      | error e => exact failsOnly_error.mpr (built (.error e) rfl)
      | panic message => exact failsOnly_error.mpr unpriced_internal

/-- A tape has a row for every step, so that none of its own is past its end. -/
theorem snapshotOver_unpriced {tape : FactorTape} (built : runtime.build parameters = .ok tape)
    (left : step < parameters.steps) :
    FailsOnly (Faulted Unpriced)
      (snapshotOver runtime.service runtime.upstream parameters tape step) := by
  obtain ⟨_, _, _, _, -, -, -, -, rows⟩ := FactorTape.walked_of_build (build_eq_ok.mp built)
  have within : step < tape.rows.length := by
    rw [(forall₂_range rows).1]
    exact left
  have present : tape.row step = some tape.rows[step] := List.getElem?_eq_getElem within
  have chains : ∀ {builder : SeriesBuilder} {row : FactorRow} {active : List ActiveExpiry},
      FailsOnly Unpriced (active.mapM (builder.buildExpiryChain runtime.upstream row)) :=
    FailsOnly.mapM fun _ _ => buildExpiryChain_unpriced
  have checked : FailsOnly Unpriced (SeriesBuilder.new runtime.service parameters tape) := by
    simp [SeriesBuilder.new, validate_unpriced]
  unfold snapshotOver
  apply (failsOnly_lift.mpr checked).bind
  intro builder made
  obtain ⟨-, made⟩ := bind_unit_eq_ok.mp (lift_eq_ok.mp made)
  cases made
  simp [SeriesBuilder.snapshot, present, activeAt_unpriced, chains]

end Snapshots

end OptionChainSimulator.Session
