import Mathlib.Tactic
import OptionChainSimulator.Api.Validation
import OptionChainSimulator.Domain.HistoricalWindow

namespace OptionChainSimulator.Infrastructure

open Foundation Foundation.CivilCalendar Utils Api Domain

/-! The minute data of the `ohlcv` table, and the closes its queries report. -/

/-- What the queries read of a row. -/
structure OhlcvRow where
  symbol : String
  timestamp : Int
  close : Positive

def toStartOfInterval (intervals : TimeBuckets) (timestamp : Int) : Int :=
  intervals.start (intervals.number timestamp)

def orderByTimestamp (rows : List OhlcvRow) : List OhlcvRow :=
  rows.mergeSort fun earlier later => earlier.timestamp ≤ later.timestamp

/-- `argMax(close, timestamp)`. -/
def argMaxClose (rows : List OhlcvRow) : Option Positive :=
  (orderByTimestamp rows).getLast?.map (·.close)

/-- The query of `timeframe_query_template` without its limit, on the rows its `WHERE` leaves;
`debug` is the `Debug` rendering of a timeframe. -/
def timeframeQuery (debug : TimeFrame → String) (timeframe : TimeFrame) (rows : List OhlcvRow) :
    Except ChainError (List Positive) :=
  if timeframe = .minute then .ok ((orderByTimestamp rows).map (·.close))
  else
    match queryIntervals timeframe with
    | none => .error (.clickHouseError s!"Unsupported timeframe: {debug timeframe}")
    | some intervals =>
        let starts := (rows.map fun row => toStartOfInterval intervals row.timestamp).dedup
        .ok <| (starts.mergeSort (· ≤ ·)).filterMap fun start =>
          argMaxClose (rows.filter fun row => toStartOfInterval intervals row.timestamp = start)

def fetchHistoricalPrices (debug : TimeFrame → String) (table : List OhlcvRow) (symbol : String)
    (timeframe : TimeFrame) (startDate : UtcDateTime) (limit : Nat) :
    Except ChainError (List Positive) := do
  validateSymbol symbol
  let closes ← timeframeQuery debug timeframe <|
    table.filter fun row => row.symbol = symbol ∧ startDate.timestamp ≤ row.timestamp
  return closes.take limit

theorem no_fraction_lt : 0 < 2000000000 := by decide

/-- `DateTime::from_timestamp` of what `DATE_RANGE_QUERY` selects, which is zero on no rows. -/
def dateOfStamp (what : String) (selected : Option Int) : Except ChainError UtcDateTime :=
  okOr (NaiveDateTime.ofTimestamp? (selected.getD 0) 0 no_fraction_lt)
    (.clickHouseError s!"Invalid {what} timestamp: {selected.getD 0}")

/-- `ClickHouseHistoricalRepository` over the rows of a table. -/
def clickHouseHistoricalRepository (debug : TimeFrame → String) (table : List OhlcvRow) :
    HistoricalDataRepository where
  listAvailableSymbols := .ok ((table.map (·.symbol)).dedup.mergeSort (· ≤ ·))
  getDateRangeForSymbol symbol := do
    validateSymbol symbol
    let stamps := (table.filter (·.symbol = symbol)).map (·.timestamp)
    let minDate ← dateOfStamp "min" stamps.min?
    let maxDate ← dateOfStamp "max" stamps.max?
    return (minDate, maxDate)
  getHistoricalPrices symbol timeframe startDate limit := do
    validateSymbol symbol
    fetchHistoricalPrices debug table symbol timeframe startDate limit

section Rows

variable {debug : TimeFrame → String} {table rows : List OhlcvRow} {symbol : String}
  {timeframe : TimeFrame} {intervals : TimeBuckets} {minDate maxDate start : UtcDateTime}

/-- A row of the symbol on every minute from the first to the last. -/
def GapFree (table : List OhlcvRow) (symbol : String) (minDate maxDate : UtcDateTime) : Prop :=
  (minDate.time.frac = 0 ∧ maxDate.time.frac = 0) ∧ ∃ minutes : Nat,
    maxDate.timestamp = minDate.timestamp + 60 * minutes ∧
    ((table.filter (·.symbol = symbol)).map (·.timestamp)).Perm
      ((List.range (minutes + 1)).map fun minute : Nat => minDate.timestamp + 60 * minute)

theorem queryIntervals_long (supported : queryIntervals timeframe = some intervals) (index : Int) :
    intervals.start index + 60 ≤ intervals.start (index + 1) := by
  cases timeframe with
  | minute | hour | day | week =>
      cases supported
      simp only [TimeBuckets.ofWidth]
      omega
  | month =>
      cases supported
      have later := firstOfMonth_strictMono (lt_add_one index)
      simp only [calendarMonths]
      omega
  | microsecond | millisecond | second | quarter | year | custom => cases supported

/-- Every minute of gap-free data from a day after the first is in what a query is about. -/
theorem GapFree.has_minute (complete : GapFree table symbol minDate maxDate) {minute : Nat}
    (within : minDate.timestamp + 60 * minute ≤ maxDate.timestamp)
    (after : start.timestamp ≤ minDate.timestamp + 60 * minute) :
    minDate.timestamp + 60 * (minute : Int) ∈
      (table.filter fun row => row.symbol = symbol ∧ start.timestamp ≤ row.timestamp).map
        (·.timestamp) := by
  obtain ⟨-, minutes, last, marks⟩ := complete
  have mark : minDate.timestamp + 60 * (minute : Int) ∈
      (table.filter (·.symbol = symbol)).map (·.timestamp) := by
    have early : minute < minutes + 1 := by omega
    rw [marks.mem_iff]
    exact List.mem_map.mpr ⟨minute, List.mem_range.mpr early, rfl⟩
  obtain ⟨row, held, stamp⟩ := List.mem_map.mp mark
  obtain ⟨mem, same⟩ := List.mem_filter.mp held
  refine List.mem_map.mpr ⟨row, List.mem_filter.mpr ⟨mem, ?_⟩, stamp⟩
  exact decide_eq_true ⟨of_decide_eq_true same, stamp ▸ after⟩

/-- Every interval met from the start is the interval of a row. -/
theorem GapFree.met_subset (complete : GapFree table symbol minDate maxDate)
    (supported : queryIntervals timeframe = some intervals) {days : Nat}
    (stamp : start.timestamp = minDate.timestamp + days * 86400)
    (ordered : start.timestamp ≤ maxDate.timestamp) :
    intervals.met start.timestamp maxDate.timestamp ⊆
      (((table.filter fun row => row.symbol = symbol ∧ start.timestamp ≤ row.timestamp).map
        fun row => intervals.number row.timestamp).toFinset : Set Int) := by
  intro index met
  rw [intervals.met_eq_Icc ordered] at met
  obtain ⟨lower, upper⟩ := met
  suffices found : ∃ minute : Nat, minDate.timestamp + 60 * (minute : Int) ≤ maxDate.timestamp ∧
      start.timestamp ≤ minDate.timestamp + 60 * minute ∧
      intervals.number (minDate.timestamp + 60 * minute) = index by
    obtain ⟨minute, within, after, same⟩ := found
    obtain ⟨row, held, mark⟩ := List.mem_map.mp (complete.has_minute within after)
    rw [Finset.mem_coe, List.mem_toFinset, List.mem_map]
    exact ⟨row, held, by rw [mark, same]⟩
  obtain same | later := lower.eq_or_lt
  · refine ⟨days * 1440, ?_, ?_, ?_⟩
    · push_cast
      omega
    · push_cast
      omega
    · rw [← same, stamp]
      push_cast
      congr 1
      ring
  · obtain ⟨-, minutes, last, -⟩ := complete
    have begun : intervals.start index ≤ maxDate.timestamp := (intervals.galois _ _).mpr upper
    have fresh : start.timestamp < intervals.start index := by
      rw [← not_le]
      intro early
      exact not_le.mpr later ((intervals.galois _ _).mp early)
    -- the first minute of the interval
    refine ⟨((intervals.start index - minDate.timestamp + 59) / 60).toNat, ?_, ?_, ?_⟩
    · omega
    · omega
    · have long := queryIntervals_long supported index
      apply le_antisymm
      · rw [← Int.lt_add_one_iff, ← not_le, ← intervals.galois]
        omega
      · rw [← intervals.galois]
        omega

theorem ncard_met_le {first last : Int}
    (held : intervals.met first last ⊆
      ((rows.map fun row => intervals.number row.timestamp).toFinset : Set Int)) :
    (intervals.met first last).ncard ≤
      (rows.map fun row => intervals.number row.timestamp).dedup.length := by
  rw [← List.card_toFinset, ← Set.ncard_coe_finset]
  exact Set.ncard_le_ncard held (Finset.finite_toSet _)

theorem length_dedup_toStartOfInterval :
    ((rows.map fun row => toStartOfInterval intervals row.timestamp).dedup).length =
      ((rows.map fun row => intervals.number row.timestamp).dedup).length := by
  have injective : Function.Injective intervals.start :=
    Function.LeftInverse.injective intervals.number_start
  have grouped : (rows.map fun row => toStartOfInterval intervals row.timestamp) =
      (rows.map fun row => intervals.number row.timestamp).map intervals.start :=
    (List.map_map).symm
  rw [grouped, List.dedup_map_of_injective injective, List.length_map]

/-- A supported query reports at least one close for every interval of its rows. -/
theorem timeframeQuery_length (supported : queryIntervals timeframe = some intervals) :
    ∃ closes, timeframeQuery debug timeframe rows = .ok closes ∧
      (rows.map fun row => intervals.number row.timestamp).dedup.length ≤ closes.length := by
  unfold timeframeQuery
  split_ifs with minutes
  · refine ⟨_, rfl, ?_⟩
    rw [List.length_map, orderByTimestamp, List.length_mergeSort]
    exact (List.dedup_sublist _).length_le.trans_eq (List.length_map _)
  · rw [supported]
    refine ⟨_, rfl, ?_⟩
    rw [← length_dedup_toStartOfInterval, List.filterMap_length_eq_length.mpr,
      List.length_mergeSort]
    intro start listed
    rw [List.mem_mergeSort, List.mem_dedup, List.mem_map] at listed
    obtain ⟨row, held, same⟩ := listed
    have grouped : row ∈ orderByTimestamp
        (rows.filter fun row => toStartOfInterval intervals row.timestamp = start) := by
      rw [orderByTimestamp, List.mem_mergeSort, List.mem_filter]
      exact ⟨held, decide_eq_true same⟩
    rw [argMaxClose, Option.isSome_map, List.getLast?_isSome]
    exact List.ne_nil_of_mem grouped

/-- Over gap-free data the query from whole days after the first date finds every interval. -/
theorem GapFree.fetch (complete : GapFree table symbol minDate maxDate)
    (valid : validateSymbol symbol = .ok ())
    (supported : queryIntervals timeframe = some intervals) {days : Nat}
    (stamp : start.timestamp = minDate.timestamp + days * 86400) (ordered : start ≤ maxDate)
    {steps : Nat} (met : steps ≤ (IntervalsMet intervals start maxDate).ncard) :
    ∃ closes, (clickHouseHistoricalRepository debug table).getHistoricalPrices symbol timeframe
      start steps = .ok closes ∧ closes.length = steps := by
  obtain ⟨closes, queried, many⟩ := @timeframeQuery_length debug (table.filter fun row =>
    row.symbol = symbol ∧ start.timestamp ≤ row.timestamp) timeframe intervals supported
  have held := complete.met_subset supported stamp (timestamp_mono ordered)
  rw [intervalsMet_eq ordered] at met
  refine ⟨closes.take steps, ?_,
    List.length_take_of_le (met.trans ((ncard_met_le held).trans many))⟩
  change (do validateSymbol symbol; fetchHistoricalPrices _ _ _ _ _ _) = _
  unfold fetchHistoricalPrices
  rw [valid, queried]
  rfl

theorem ofTimestamp?_timestamp (whole : start.time.frac = 0) :
    NaiveDateTime.ofTimestamp? start.timestamp 0 no_fraction_lt = some start :=
  NaiveDateTime.ofTimestamp?_eq_some.mpr ⟨rfl, whole⟩

/-- The range a repository reports of gap-free data. -/
theorem GapFree.dateRange (complete : GapFree table symbol minDate maxDate)
    (valid : validateSymbol symbol = .ok ()) :
    (clickHouseHistoricalRepository debug table).getDateRangeForSymbol symbol =
      .ok (minDate, maxDate) := by
  obtain ⟨⟨wholeMin, wholeMax⟩, minutes, last, marks⟩ := complete
  have within : ∀ stamp ∈ (table.filter (·.symbol = symbol)).map (·.timestamp),
      minDate.timestamp ≤ stamp ∧ stamp ≤ maxDate.timestamp := by
    intro stamp listed
    rw [marks.mem_iff, List.mem_map] at listed
    obtain ⟨minute, early, rfl⟩ := listed
    rw [List.mem_range] at early
    omega
  have least : ((table.filter (·.symbol = symbol)).map (·.timestamp)).min? =
      some minDate.timestamp := by
    rw [List.min?_eq_some_iff, marks.mem_iff, List.mem_map]
    exact ⟨⟨0, by simp⟩, fun stamp listed => (within stamp listed).1⟩
  have greatest : ((table.filter (·.symbol = symbol)).map (·.timestamp)).max? =
      some maxDate.timestamp := by
    rw [List.max?_eq_some_iff, marks.mem_iff, List.mem_map]
    exact ⟨⟨minutes, by simp [last]⟩, fun stamp listed => (within stamp listed).2⟩
  change (do validateSymbol symbol; _) = _
  rw [valid]
  dsimp only
  rw [least, greatest]
  unfold dateOfStamp
  rw [Option.getD_some, Option.getD_some, ofTimestamp?_timestamp wholeMin,
    ofTimestamp?_timestamp wholeMax]
  rfl

end Rows

section Starts

variable {debug : TimeFrame → String} {toI64 : Positive → Int} {timeframe : TimeFrame}
  {intervals : TimeBuckets} {steps : Nat} {required : Int} {minDate maxDate start : UtcDateTime}

/-- The data after a start date are as many intervals as there are steps. -/
structure LeavesEnough (toI64 : Positive → Int) (timeframe : TimeFrame) (intervals : TimeBuckets)
    (steps : Nat) (minDate maxDate start : UtcDateTime) : Prop where
  after : minDate ≤ start
  ends : ∃ required finish, calculateRequiredDuration toI64 timeframe steps = some required ∧
    start.checkedAddSigned required = some finish ∧ finish ≤ maxDate
  met : steps ≤ (IntervalsMet intervals start maxDate).ncard

/-- Historical data load for every step out of gap-free minute data, whatever the seed. -/
def LoadsGapFree (debug : TimeFrame → String) (rng : StdRng) (toI64 : Positive → Int)
    (state : rng.State) (timeframe : TimeFrame) (steps : Nat) (minDate maxDate : UtcDateTime) :
    Prop :=
  ∀ (Chain : Type) (buildChain : OptionChainBuildParams → Except String Chain)
    (randomWalk : String → WalkParams Chain → Walker → Except String (List Chain))
    (table : List OhlcvRow) (symbol : String), validateSymbol symbol = .ok () →
    GapFree table symbol minDate maxDate →
    ∃ prices, getHistoricalData (.ofRepository buildChain randomWalk rng toI64
      (some (clickHouseHistoricalRepository debug table))) (some symbol) timeframe steps state =
        .ok (symbol, prices) ∧ prices.length = steps

/-- The start that the largest draw selects. -/
def latestStart (minDate latest : UtcDateTime) : Int :=
  minDate.timestamp + possibleDays minDate latest * 86400

/-- Where a start is selected: a count of steps that a signed one holds, for months a latest start
that lies at least one month fewer before the month of the last date, and for a last date within a
leap second a latest start that leaves the duration before that second. -/
def RoomForSteps (toI64 : Positive → Int) (timeframe : TimeFrame) (steps : Nat)
    (minDate maxDate : UtcDateTime) : Prop :=
  ∀ required latest, calculateRequiredDuration toI64 timeframe steps = some required →
    required ≤ maxDate.nanosecondsSince minDate →
    maxDate.checkedSubSigned required = some latest →
    steps < 2 ^ 63 ∧
      (timeframe = .month → calendarMonths.number (latestStart minDate latest) + steps ≤
        calendarMonths.number maxDate.timestamp + 1) ∧
      (maxDate.time.InLeapSecond →
        latestStart minDate latest + required / 1000000000 ≤ maxDate.timestamp)

theorem asI64_of_lt (small : steps < 2 ^ 63) : asI64 steps = steps := if_pos small

theorem timeDelta?_eq_some {nanoseconds : Int} (built : timeDelta? nanoseconds = some required) :
    required = nanoseconds := by
  unfold timeDelta? at built
  split_ifs at built
  cases built
  rfl

/-- A month counts as thirty days as long as the product does not wrap. -/
theorem required_month (short : (steps : Int) * 30 < i64Limit)
    (computed : calculateRequiredDuration toI64 .month steps = some required) :
    required = steps * 30 * 86400 * 1000000000 := by
  have small : steps < 2 ^ 63 := by
    unfold i64Limit at short
    omega
  have value := timeDelta?_eq_some computed
  dsimp only at value
  rw [asI64_of_lt small, wrapI64_of_fits (by unfold i64Limit; omega) short] at value
  exact value.trans (mul_assoc _ _ _).symm

theorem required_seconds (supported : queryIntervals timeframe = some intervals)
    (some_step : 1 ≤ steps) (small : steps < 2 ^ 63)
    (short : timeframe = .month → (steps : Int) * 30 < i64Limit)
    (computed : calculateRequiredDuration toI64 timeframe steps = some required) :
    ∃ seconds : Int, 60 ≤ seconds ∧ required = seconds * 1000000000 := by
  have value := timeDelta?_eq_some computed
  cases timeframe with
  | minute =>
      rw [asI64_of_lt small] at value
      exact ⟨steps * 60, by omega, value⟩
  | hour =>
      rw [asI64_of_lt small] at value
      exact ⟨steps * 3600, by omega, value⟩
  | day =>
      rw [asI64_of_lt small] at value
      exact ⟨steps * 86400, by omega, value.trans (mul_assoc _ _ _).symm⟩
  | week =>
      rw [asI64_of_lt small] at value
      exact ⟨steps * 7 * 86400, by omega, value.trans (mul_assoc _ _ _).symm⟩
  | month => exact ⟨steps * 30 * 86400, by omega, required_month (short rfl) computed⟩
  | microsecond | millisecond | second | quarter | year | custom => cases supported

/-- A range that holds the required duration meets as many intervals of a fixed width. -/
theorem fixed_count (supported : queryIntervals timeframe = some intervals)
    (fixed : timeframe ≠ .month) (small : steps < 2 ^ 63) {seconds : Int}
    (computed : calculateRequiredDuration toI64 timeframe steps = some (seconds * 1000000000))
    (long : start.timestamp + seconds ≤ maxDate.timestamp) :
    intervals.number start.timestamp + steps ≤ intervals.number maxDate.timestamp + 1 := by
  have value := timeDelta?_eq_some computed
  cases timeframe with
  | minute | hour =>
      dsimp only at value
      rw [asI64_of_lt small] at value
      cases supported
      apply TimeBuckets.ofWidth_count
      omega
  | day | week =>
      dsimp only at value
      rw [asI64_of_lt small] at value
      cases supported
      apply TimeBuckets.ofWidth_count
      unfold nanosecondsPerDay at value
      omega
  | month => exact absurd rfl fixed
  | microsecond | millisecond | second | quarter | year | custom => cases supported

theorem latestStart_of_days {days : Nat} {latest : UtcDateTime}
    (within : days ≤ possibleDays minDate latest) :
    minDate.timestamp + days * 86400 ≤ latestStart minDate latest := by
  unfold latestStart
  omega

/-- The largest draw reaches no further than the latest possible start. -/
theorem latestStart_le {latest : UtcDateTime} (steady : ¬ latest.time.InLeapSecond) :
    latestStart minDate latest ≤ max minDate.timestamp latest.timestamp := by
  unfold latestStart
  obtain none | some_day := Nat.eq_zero_or_pos (possibleDays minDate latest)
  · rw [none]
    simp
  · have whole := (days_le_of_possible some_day (le_refl _)).2
    have reached := (@timestamp_add_le minDate latest
      (possibleDays minDate latest * 86400) (by unfold nanosecondsPerDay at whole; omega)).2 steady
    exact le_max_of_le_right reached

/-- Outside a leap second the largest draw leaves the duration that fits. -/
theorem latestStart_add_le {seconds : Int} {latest : UtcDateTime} (positive : 0 < seconds)
    (fits : seconds * 1000000000 ≤ maxDate.nanosecondsSince minDate)
    (subtracted : maxDate.checkedSubSigned (seconds * 1000000000) = some latest)
    (steady : ¬ maxDate.time.InLeapSecond) :
    latestStart minDate latest + seconds ≤ maxDate.timestamp := by
  rw [NaiveDateTime.checkedSubSigned_seconds] at subtracted
  obtain ⟨below, same, -⟩ := checkedAddSeconds_spec (by omega) subtracted
  have stamp := (same steady).1
  have reached := @latestStart_le minDate latest (not_le.mpr below)
  have first := (timestamp_add_le fits).2 steady
  omega

/-- What a selected start leaves is the duration that it was selected for. -/
theorem exists_finish {seconds : Int} {latest : UtcDateTime} {days : Nat} (positive : 0 < seconds)
    (fits : seconds * 1000000000 ≤ maxDate.nanosecondsSince minDate)
    (subtracted : maxDate.checkedSubSigned (seconds * 1000000000) = some latest)
    (within : days ≤ possibleDays minDate latest)
    (moved : minDate.checkedAddSeconds (days * 86400) = some start)
    (leap : maxDate.time.InLeapSecond →
      latestStart minDate latest + seconds ≤ maxDate.timestamp) :
    ∃ finish, start.checkedAddSeconds seconds = some finish ∧ finish ≤ maxDate ∧
      start.timestamp + seconds ≤ maxDate.timestamp := by
  obtain ⟨-, stamp, left⟩ := @addDays minDate latest start days moved
  have drawn := latestStart_of_days within
  have room : start.timestamp + seconds ≤ maxDate.timestamp := by
    by_cases steady : maxDate.time.InLeapSecond
    · have reached := leap steady
      omega
    · have reached := latestStart_add_le positive fits subtracted steady
      omega
  by_cases steady : maxDate.time.InLeapSecond
  · obtain ⟨finish, added, ends, -⟩ := exists_checkedAddSeconds positive.le room
    have below := (checkedAddSeconds_spec positive.ne' added).1
    refine ⟨finish, added, ?_, room⟩
    unfold NaiveTime.InLeapSecond at steady
    rw [← not_lt, NaiveDateTime.lt_iff]
    omega
  · obtain none | some_day := Nat.eq_zero_or_pos days
    · subst none
      unfold NaiveDateTime.checkedAddSeconds at moved
      rw [if_pos (.inr (by simp))] at moved
      obtain ⟨-, frac⟩ := NaiveDateTime.ofTimestamp?_eq_some.mp moved
      have same : start = minDate := by
        apply NaiveDateTime.key_injective
        simp only [stamp, frac]
        simp
      obtain ⟨finish, added, ends⟩ := checkedAddSeconds_le positive steady (same ▸ fits)
      exact ⟨finish, added, ends, room⟩
    · have below := (checkedAddSeconds_spec (by omega) moved).1
      rw [NaiveDateTime.checkedSubSigned_seconds] at subtracted
      obtain ⟨latestBelow, same, -⟩ := checkedAddSeconds_spec (by omega) subtracted
      obtain ⟨latestStamp, latestFrac⟩ := same steady
      have apart := (@addDays minDate latest start days moved).2.2
      have whole := (days_le_of_possible some_day within).2
      obtain ⟨finish, added, ends, frac⟩ := exists_checkedAddSeconds positive.le room
      refine ⟨finish, added, ?_, room⟩
      have startSecs := start.secs_eq
      have startDay := start.day_eq
      have latestSecs := latest.secs_eq
      have latestDay := latest.day_eq
      have nonneg : 0 ≤ latest.nanosecondsSince start := by omega
      unfold NaiveDateTime.nanosecondsSince at nonneg
      simp only at nonneg
      rw [← not_lt, NaiveDateTime.lt_iff]
      split_ifs at nonneg <;> omega

/-- Months that the dates have are few enough for their product with thirty days. -/
theorem months_few (minDate maxDate : UtcDateTime) {index : Int}
    (held : calendarMonths.number minDate.timestamp ≤ index)
    (counted : index + steps ≤ calendarMonths.number maxDate.timestamp + 1) :
    (steps : Int) * 30 < i64Limit := by
  have lower := minDate.date.monthIndexOf_bounds.1
  have upper := maxDate.date.monthIndexOf_bounds.2
  rw [minDate.day_eq] at lower
  rw [maxDate.day_eq] at upper
  unfold i64Limit
  simp only [calendarMonths] at held counted
  omega

theorem roomForSteps_of_few (supported : queryIntervals timeframe = some intervals)
    (small : steps < 2 ^ 63) (steady : ¬ maxDate.time.InLeapSecond)
    (few : timeframe = .month → steps ≤ 66) (some_step : 1 ≤ steps) :
    RoomForSteps toI64 timeframe steps minDate maxDate := by
  intro required latest computed fits subtracted
  refine ⟨small, ?_, fun leap => absurd leap steady⟩
  rintro rfl
  have bounded := few rfl
  obtain rfl := required_month (by unfold i64Limit; omega) computed
  have within := latestStart_add_le (by omega) fits subtracted steady
  obtain ⟨months, rfl⟩ : ∃ months, steps = months + 1 := ⟨steps - 1, by omega⟩
  have begun := (firstOfMonth_monthIndexOf (latestStart minDate latest / 86400)).1
  have grown := @firstOfMonth_add_le
    (monthIndexOf (latestStart minDate latest / 86400)) months (by omega)
  have reached : monthIndexOf (latestStart minDate latest / 86400) + months ≤
      monthIndexOf (maxDate.timestamp / 86400) := by
    rw [← monthIndexOf_galois]
    push_cast at within
    omega
  simp only [calendarMonths]
  push_cast
  omega

theorem met_lt (ordered : minDate ≤ maxDate) :
    (IntervalsMet intervals minDate maxDate).ncard < 2 ^ 63 := by
  have stamps := timestamp_mono ordered
  have few : (IntervalsMet intervals minDate maxDate).ncard ≤
      (Set.Icc minDate.timestamp maxDate.timestamp).ncard := by
    rw [intervalsMet_eq ordered]
    exact Set.ncard_image_le (Set.finite_Icc _ _)
  rw [← Finset.coe_Icc, Set.ncard_coe_finset, Int.card_Icc] at few
  have lower := minDate.date.lower
  have upper := maxDate.date.upper
  rw [minDate.day_eq] at lower
  rw [maxDate.day_eq] at upper
  rw [minDay_eq] at lower
  rw [maxDay_eq] at upper
  omega

variable {rng : StdRng} {state : rng.State}

theorem leavesEnough_of_room (supported : queryIntervals timeframe = some intervals)
    (some_step : 1 ≤ steps) (room : RoomForSteps toI64 timeframe steps minDate maxDate)
    (draws : rng.DrawsBelow)
    (selected : selectRandomDate rng toI64 state minDate maxDate timeframe steps = .ok start) :
    LeavesEnough toI64 timeframe intervals steps minDate maxDate start ∧ start ≤ maxDate ∧
      ∃ days : Nat, start.timestamp = minDate.timestamp + days * 86400 := by
  obtain ⟨required, latest, computed, fits, subtracted, days, drawn, moved⟩ :=
    selectRandomDate_spec draws selected
  obtain ⟨small, months, leap⟩ := room required latest computed fits subtracted
  have early := @latestStart_of_days minDate days latest drawn
  have never := @latestStart_of_days minDate 0 latest (Nat.zero_le _)
  have short : timeframe = .month → (steps : Int) * 30 < i64Limit := fun monthly =>
    months_few minDate maxDate (calendarMonths.number_mono (by omega)) (months monthly)
  obtain ⟨seconds, positive, rfl⟩ := required_seconds supported some_step small short computed
  rw [Int.mul_ediv_cancel _ (by decide)] at leap
  obtain ⟨after, stamp, -⟩ := @addDays minDate maxDate start days moved
  obtain ⟨finish, added, ends, within⟩ :=
    exists_finish (by omega) fits subtracted drawn moved leap
  have ordered : start ≤ maxDate := by
    rw [← not_lt, NaiveDateTime.lt_iff]
    omega
  refine ⟨⟨after, ⟨_, finish, computed, ?_, ends⟩, ?_⟩, ordered, days, stamp⟩
  · rw [NaiveDateTime.checkedAddSigned_seconds]
    exact added
  · have counted : intervals.number start.timestamp + steps ≤
        intervals.number maxDate.timestamp + 1 := by
      by_cases fixed : timeframe = .month
      · subst fixed
        cases supported
        have before : calendarMonths.number start.timestamp ≤
            calendarMonths.number (latestStart minDate latest) :=
          calendarMonths.number_mono (by omega)
        have reached := months rfl
        omega
      · exact fixed_count supported fixed small computed within
    have number := @ncard_intervalsMet intervals _ _ ordered
    omega

/-- What a draw of none selects leaves no more intervals than the dates have. -/
theorem few_of_leavesEnough (supported : queryIntervals timeframe = some intervals)
    (ordered : minDate ≤ maxDate) {latest : UtcDateTime}
    (computed : calculateRequiredDuration toI64 timeframe steps = some required)
    (fits : required ≤ maxDate.nanosecondsSince minDate)
    (subtracted : maxDate.checkedSubSigned required = some latest)
    (enough : ∀ (rng : StdRng), rng.DrawsBelow → ∀ (state : rng.State) start,
      selectRandomDate rng toI64 state minDate maxDate timeframe steps = .ok start →
      LeavesEnough toI64 timeframe intervals steps minDate maxDate start) :
    steps < 2 ^ 63 ∧ (timeframe = .month → (steps : Int) * 30 < i64Limit) := by
  obtain ⟨later, moved, stamp, -⟩ :=
    @exists_checkedAddSeconds minDate minDate 0 (le_refl _) (add_zero _).le
  obtain ⟨rng, state, draws, selected⟩ := @exists_selectRandomDate minDate maxDate later toI64
    timeframe steps required 0 latest computed fits subtracted (Nat.zero_le _) moved
  have met := (enough rng draws state later selected).met
  have after := (enough rng draws state later selected).after
  have fewer : IntervalsMet intervals later maxDate ⊆ IntervalsMet intervals minDate maxDate := by
    rintro index ⟨instant, ⟨lower, upper⟩, same⟩
    exact ⟨instant, ⟨after.trans lower, upper⟩, same⟩
  have finite : (IntervalsMet intervals minDate maxDate).Finite := by
    rw [intervalsMet_eq ordered]
    exact (Set.finite_Icc _ _).image _
  have counted := met.trans (Set.ncard_le_ncard fewer finite)
  refine ⟨counted.trans_lt (met_lt ordered), ?_⟩
  rintro rfl
  cases supported
  have number := @ncard_intervalsMet calendarMonths _ _ ordered
  exact months_few minDate maxDate (le_refl _) (by omega)

/-- A draw of the latest day is a draw as any other. -/
theorem room_of_leavesEnough (supported : queryIntervals timeframe = some intervals)
    (some_step : 1 ≤ steps) (ordered : minDate ≤ maxDate)
    (enough : ∀ (rng : StdRng), rng.DrawsBelow → ∀ (state : rng.State) start,
      selectRandomDate rng toI64 state minDate maxDate timeframe steps = .ok start →
      LeavesEnough toI64 timeframe intervals steps minDate maxDate start) :
    RoomForSteps toI64 timeframe steps minDate maxDate := by
  intro required latest computed fits subtracted
  obtain ⟨small, short⟩ := few_of_leavesEnough supported ordered computed fits subtracted enough
  obtain ⟨seconds, positive, rfl⟩ := required_seconds supported some_step small short computed
  have earlier := subtracted
  rw [NaiveDateTime.checkedSubSigned_seconds] at earlier
  have steady := (checkedAddSeconds_spec (by omega) earlier).1
  have reached := @latestStart_le minDate latest (not_le.mpr steady)
  obtain ⟨later, moved, stamp⟩ : ∃ later,
      minDate.checkedAddSeconds ((possibleDays minDate latest : Nat) * 86400) = some later ∧
        later.timestamp = latestStart minDate latest := by
    obtain first | last := le_max_iff.mp reached
    · obtain ⟨later, moved, stamp, -⟩ := exists_checkedAddSeconds (by omega) first
      exact ⟨later, moved, stamp⟩
    · obtain ⟨later, moved, stamp, -⟩ := exists_checkedAddSeconds (by omega) last
      exact ⟨later, moved, stamp⟩
  obtain ⟨rng, state, draws, selected⟩ :=
    exists_selectRandomDate computed fits subtracted (le_refl _) moved
  obtain ⟨-, ⟨again, finish, same, added, ends⟩, met⟩ := enough rng draws state later selected
  cases computed.symm.trans same
  rw [NaiveDateTime.checkedAddSigned_seconds] at added
  obtain ⟨-, outside, inside⟩ := checkedAddSeconds_spec (by omega) added
  have within : later.timestamp + seconds ≤ maxDate.timestamp := by
    have last := timestamp_mono ends
    by_cases leap : later.time.InLeapSecond
    · have stamped := (inside leap).1 (by omega)
      omega
    · have stamped := (outside leap).1
      omega
  have before : later ≤ maxDate := by
    rw [← not_lt, NaiveDateTime.lt_iff]
    omega
  have number := @ncard_intervalsMet intervals _ _ before
  refine ⟨small, ?_, ?_⟩
  · rintro rfl
    cases supported
    rw [← stamp]
    omega
  · intro _
    rw [Int.mul_ediv_cancel _ (by decide), ← stamp]
    exact within

theorem loadsGapFree_of_met (supported : queryIntervals timeframe = some intervals)
    (selected : selectRandomDate rng toI64 state minDate maxDate timeframe steps = .ok start)
    {days : Nat} (stamp : start.timestamp = minDate.timestamp + days * 86400)
    (ordered : start ≤ maxDate) (met : steps ≤ (IntervalsMet intervals start maxDate).ncard) :
    LoadsGapFree debug rng toI64 state timeframe steps minDate maxDate := by
  intro Chain buildChain randomWalk table symbol valid complete
  obtain ⟨closes, fetched, counted⟩ := @GapFree.fetch debug _ _ _ _ _ _ _ complete valid
    supported _ stamp ordered _ met
  refine ⟨closes, ?_, counted⟩
  have ranged := @GapFree.dateRange debug table symbol minDate maxDate complete valid
  have loaded : (WalkSource.ofRepository buildChain randomWalk rng toI64
      (some (clickHouseHistoricalRepository debug table))).historicalPrices state symbol timeframe
        steps = .ok closes := by
    refine bind_eq_ok.mpr ⟨_, rfl, bind_eq_ok.mpr ⟨(minDate, maxDate), ?_,
      bind_eq_ok.mpr ⟨start, selected, ?_⟩⟩⟩
    · rw [ranged]
      rfl
    · rw [fetched]
      rfl
  refine (if_pos rfl).trans (bind_eq_ok.mpr ⟨(symbol, state), rfl,
    bind_eq_ok.mpr ⟨closes, loaded, (if_neg (not_lt.mpr counted.ge)).trans ?_⟩⟩)
  rw [List.take_of_length_le counted.le]
  rfl

/-- Draws nothing but zero. -/
def lowestDraw : StdRng where
  State := Unit
  seedFromU64 _ := ()
  fromEntropy := ()
  randomRange _ _ := (0, ())

theorem no_seconds_lt : 0 < 86400 := by decide

def midnight (day : Int) (lower : minDay ≤ day) (upper : day ≤ maxDay) : UtcDateTime :=
  ⟨⟨day, lower, upper⟩, 0, 0, no_seconds_lt, no_fraction_lt⟩

theorem random_start_leaves_enough_iff (debug : TimeFrame → String) (toI64 : Positive → Int)
    (supported : queryIntervals timeframe = some intervals) (some_step : 1 ≤ steps)
    (ordered : minDate ≤ maxDate) :
    ((∀ (rng : StdRng), rng.DrawsBelow → ∀ (state : rng.State) start,
      selectRandomDate rng toI64 state minDate maxDate timeframe steps = .ok start →
      LeavesEnough toI64 timeframe intervals steps minDate maxDate start ∧
        LoadsGapFree debug rng toI64 state timeframe steps minDate maxDate) ↔
      RoomForSteps toI64 timeframe steps minDate maxDate) ∧
    (steps < 2 ^ 63 → ¬ maxDate.time.InLeapSecond → (timeframe = .month → steps ≤ 66) →
      RoomForSteps toI64 timeframe steps minDate maxDate) := by
  refine ⟨⟨?_, ?_⟩, fun small steady few =>
    roomForSteps_of_few supported small steady few some_step⟩
  · intro enough
    exact room_of_leavesEnough supported some_step ordered fun rng draws state start selected =>
      (enough rng draws state start selected).1
  · intro room rng draws state start selected
    obtain ⟨leaves, before, days, stamp⟩ :=
      leavesEnough_of_room supported some_step room draws selected
    exact ⟨leaves, loadsGapFree_of_met supported selected stamp before leaves.met⟩

theorem lowestDraw_drawsBelow : lowestDraw.DrawsBelow := fun _ _ positive => positive

def march2003 : UtcDateTime := midnight 12112 (by rw [minDay_eq]; omega) (by rw [maxDay_eq]; omega)

def august2008 : UtcDateTime := midnight 14122 (by rw [minDay_eq]; omega) (by rw [maxDay_eq]; omega)

theorem random_start_leaves_enough_iff_months :
    RoomForSteps (fun _ => 0) .month 66 march2003 august2008 ∧
    ∀ (rng : StdRng), rng.DrawsBelow → ∀ (state : rng.State) start,
      selectRandomDate rng (fun _ => 0) state march2003 august2008 .month 66 = .ok start →
      LeavesEnough (fun _ => 0) .month calendarMonths 66 march2003 august2008 start ∧
        LoadsGapFree (fun _ => "") rng (fun _ => 0) state .month 66 march2003 august2008 := by
  obtain ⟨exactly, always⟩ := @random_start_leaves_enough_iff .month calendarMonths 66 march2003
    august2008 (fun _ => "") (fun _ => 0) rfl (by decide) (by decide)
  have room := always (by decide) (by decide) fun _ => by decide
  exact ⟨room, exactly.mpr room⟩

/-- Sixty-seven months of thirty days each fit where sixty-six calendar months do. -/
theorem sixty_seven_months_meet_sixty_six :
    lowestDraw.DrawsBelow ∧
      selectRandomDate lowestDraw (fun _ => 0) () march2003 august2008 .month 67 =
        .ok march2003 ∧
      ¬ 67 ≤ (IntervalsMet calendarMonths march2003 august2008).ncard := by
  refine ⟨lowestDraw_drawsBelow, by decide +kernel, ?_⟩
  have number := @ncard_intervalsMet calendarMonths march2003 august2008 (by decide)
  have counted : calendarMonths.number august2008.timestamp -
      calendarMonths.number march2003.timestamp + 1 = 66 := by decide +kernel
  omega

end Starts

end OptionChainSimulator.Infrastructure
