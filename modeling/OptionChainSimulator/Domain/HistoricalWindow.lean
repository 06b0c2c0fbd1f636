import Mathlib.Tactic
import Mathlib.Data.List.MinMax
import OptionChainSimulator.Foundation.TimeBuckets
import OptionChainSimulator.Domain.HistoricalSource

namespace OptionChainSimulator.Domain

open Foundation Foundation.CivilCalendar Utils

/-! Whether the data after a randomly chosen start date are as many intervals as a walk has
steps. -/

section Intervals

theorem monthIndexOf_galois : GaloisConnection firstOfMonth monthIndexOf := by
  intro index day
  obtain ⟨started, ended⟩ := firstOfMonth_monthIndexOf day
  constructor
  · intro begun
    exact Int.lt_add_one_iff.mp (firstOfMonth_strictMono.lt_iff_lt.mp (begun.trans_lt ended))
  · intro reached
    exact (firstOfMonth_strictMono.monotone reached).trans started

/-- The calendar months on a clock of seconds. -/
def calendarMonths : TimeBuckets where
  number seconds := monthIndexOf (seconds / 86400)
  start index := firstOfMonth index * 86400
  galois index seconds := by
    rw [← monthIndexOf_galois index, Int.le_ediv_iff_mul_le (by decide)]
  number_start index := by
    rw [Int.mul_ediv_cancel _ (by decide)]
    exact monthIndexOf_eq_iff.mpr ⟨le_refl _, firstOfMonth_strictMono (lt_add_one index)⟩

/-- The intervals that `toStartOfInterval` tells apart in the query for a timeframe, where it
supports it; a week begins on its Monday. -/
def queryIntervals : TimeFrame → Option TimeBuckets
  | .minute => some (.ofWidth 60 0 (by decide))
  | .hour => some (.ofWidth 3600 0 (by decide))
  | .day => some (.ofWidth 86400 0 (by decide))
  | .week => some (.ofWidth 604800 259200 (by decide))
  | .month => some calendarMonths
  | _ => none

/-- The intervals that hold an instant from the first date to the last. -/
def IntervalsMet (intervals : TimeBuckets) (first last : UtcDateTime) : Set Int :=
  {index | ∃ instant : UtcDateTime, (first ≤ instant ∧ instant ≤ last) ∧
    intervals.number instant.timestamp = index}

theorem timestamp_mono {first last : UtcDateTime} (ordered : first ≤ last) :
    first.timestamp ≤ last.timestamp := by
  rw [← not_lt] at ordered
  by_contra below
  exact ordered (NaiveDateTime.lt_iff.mpr (.inl (not_le.mp below)))

/-- Every second between two instants is one itself. -/
theorem exists_instant {first last : UtcDateTime} {seconds : Int}
    (after : first.timestamp < seconds) (before : seconds ≤ last.timestamp) :
    ∃ instant : UtcDateTime, (first ≤ instant ∧ instant ≤ last) ∧ instant.timestamp = seconds := by
  have lower := first.date.lower
  have upper := last.date.upper
  rw [first.day_eq] at lower
  rw [last.day_eq] at upper
  obtain ⟨date, dated⟩ : ∃ date, NaiveDate.ofDay? (seconds / 86400) = some date :=
    ⟨⟨seconds / 86400, by omega, by omega⟩, NaiveDate.ofDay?_eq_some.mpr rfl⟩
  obtain ⟨instant, made⟩ : ∃ instant,
      NaiveDateTime.ofTimestamp? seconds 0 (by decide) = some instant := by
    unfold NaiveDateTime.ofTimestamp?
    rw [dated]
    exact ⟨_, rfl⟩
  obtain ⟨stamp, frac⟩ := NaiveDateTime.ofTimestamp?_eq_some.mp made
  refine ⟨instant, ⟨le_of_lt (NaiveDateTime.lt_iff.mpr (.inl (by omega))), ?_⟩, stamp⟩
  rw [← not_lt, NaiveDateTime.lt_iff]
  omega

theorem intervalsMet_eq {intervals : TimeBuckets} {first last : UtcDateTime}
    (ordered : first ≤ last) :
    IntervalsMet intervals first last = intervals.met first.timestamp last.timestamp := by
  ext index
  constructor
  · rintro ⟨instant, ⟨lower, upper⟩, same⟩
    exact ⟨instant.timestamp, ⟨timestamp_mono lower, timestamp_mono upper⟩, same⟩
  · rintro ⟨seconds, ⟨lower, upper⟩, same⟩
    obtain start | after := lower.eq_or_lt
    · exact ⟨first, ⟨le_refl first, ordered⟩, start ▸ same⟩
    · obtain ⟨instant, between, stamp⟩ := exists_instant after upper
      exact ⟨instant, between, stamp ▸ same⟩

theorem ncard_intervalsMet {intervals : TimeBuckets} {first last : UtcDateTime}
    (ordered : first ≤ last) :
    ((IntervalsMet intervals first last).ncard : Int) =
      intervals.number last.timestamp - intervals.number first.timestamp + 1 := by
  rw [intervalsMet_eq ordered, intervals.ncard_met (timestamp_mono ordered)]

end Intervals

section Dates

/-- `random_range` draws below its count. -/
def StdRng.DrawsBelow (rng : StdRng) : Prop :=
  ∀ state count, 0 < count → (rng.randomRange state count).1 < count

variable {first last later : UtcDateTime}

/-- What lies between two instants is what their seconds say, up to the one of a leap second. -/
theorem timestamp_add_le {seconds : Int}
    (apart : seconds * 1000000000 ≤ last.nanosecondsSince first) :
    first.timestamp + seconds ≤ last.timestamp + 1 ∧
      (¬ last.time.InLeapSecond → first.timestamp + seconds ≤ last.timestamp) := by
  have firstFrac := first.time.frac_lt
  have lastFrac := last.time.frac_lt
  unfold NaiveDateTime.nanosecondsSince at apart
  unfold NaiveTime.InLeapSecond NaiveDateTime.timestamp
  simp only at apart
  split_ifs at apart <;> omega

/-- Where a move of whole seconds ends, out of a leap second or beside it. -/
theorem checkedAddSeconds_spec {seconds : Int} (nonzero : seconds ≠ 0)
    (moved : first.checkedAddSeconds seconds = some later) :
    later.time.frac < 1000000000 ∧
      (¬ first.time.InLeapSecond →
        later.timestamp = first.timestamp + seconds ∧ later.time.frac = first.time.frac) ∧
      (first.time.InLeapSecond → (0 < seconds → later.timestamp = first.timestamp + seconds) ∧
        (seconds < 0 → later.timestamp = first.timestamp + 1 + seconds)) := by
  have firstFrac := first.time.frac_lt
  unfold NaiveTime.InLeapSecond
  unfold NaiveDateTime.checkedAddSeconds at moved
  split_ifs at moved with steady forward
  · obtain ⟨stamp, frac⟩ := NaiveDateTime.ofTimestamp?_eq_some.mp moved
    omega
  · obtain ⟨stamp, frac⟩ := NaiveDateTime.ofTimestamp?_eq_some.mp moved
    omega
  · obtain ⟨stamp, frac⟩ := NaiveDateTime.ofTimestamp?_eq_some.mp moved
    omega

/-- Whole days after an instant. -/
theorem addDays {days : Nat} (moved : first.checkedAddSeconds (days * 86400) = some later) :
    first ≤ later ∧ later.timestamp = first.timestamp + days * 86400 ∧
      last.nanosecondsSince first - days * nanosecondsPerDay ≤ last.nanosecondsSince later := by
  have firstFrac := first.time.frac_lt
  have firstSecs := first.secs_eq
  have firstDay := first.day_eq
  have laterSecs := later.secs_eq
  have laterDay := later.day_eq
  unfold NaiveDateTime.checkedAddSeconds at moved
  have parts : later.timestamp = first.timestamp + days * 86400 ∧
      (later.time.frac = first.time.frac ∨
        0 < days ∧ 1000000000 ≤ first.time.frac ∧
          later.time.frac = first.time.frac - 1000000000) := by
    split_ifs at moved with steady forward
    · obtain ⟨stamp, frac⟩ := NaiveDateTime.ofTimestamp?_eq_some.mp moved
      exact ⟨stamp, .inl frac⟩
    · obtain ⟨stamp, frac⟩ := NaiveDateTime.ofTimestamp?_eq_some.mp moved
      rw [not_or] at steady
      exact ⟨stamp, .inr ⟨by omega, by omega, frac⟩⟩
    · rw [not_or] at steady
      omega
  obtain ⟨stamp, frac⟩ := parts
  refine ⟨?_, stamp, ?_⟩
  · rw [← not_lt, NaiveDateTime.lt_iff]
    omega
  · unfold NaiveDateTime.nanosecondsSince nanosecondsPerDay
    simp only
    have sameSecs : later.time.secs = first.time.secs := by omega
    have movedDay : later.date.day = first.date.day + days := by omega
    rw [sameSecs, movedDay]
    split_ifs <;> omega

/-- An instant that many seconds after one is there where a later one is. -/
theorem exists_checkedAddSeconds {seconds : Int} (forward : 0 ≤ seconds)
    (within : first.timestamp + seconds ≤ last.timestamp) :
    ∃ later, first.checkedAddSeconds seconds = some later ∧
      later.timestamp = first.timestamp + seconds ∧
      ((first.time.frac < 1000000000 ∨ seconds = 0) ∧ later.time.frac = first.time.frac ∨
        1000000000 ≤ first.time.frac ∧ later.time.frac = first.time.frac - 1000000000) := by
  have lower := first.date.lower
  have upper := last.date.upper
  rw [first.day_eq] at lower
  rw [last.day_eq] at upper
  obtain ⟨date, dated⟩ : ∃ date,
      NaiveDate.ofDay? ((first.timestamp + seconds) / 86400) = some date :=
    ⟨⟨(first.timestamp + seconds) / 86400, by omega, by omega⟩, NaiveDate.ofDay?_eq_some.mpr rfl⟩
  have made (frac : Nat) (bound : frac < 2000000000) : ∃ later,
      NaiveDateTime.ofTimestamp? (first.timestamp + seconds) frac bound = some later := by
    unfold NaiveDateTime.ofTimestamp?
    rw [dated]
    exact ⟨_, rfl⟩
  have fracBound := first.time.frac_lt
  unfold NaiveDateTime.checkedAddSeconds
  by_cases steady : first.time.frac < 1000000000 ∨ seconds = 0
  · rw [if_pos steady]
    obtain ⟨later, found⟩ := made _ fracBound
    obtain ⟨stamp, frac⟩ := NaiveDateTime.ofTimestamp?_eq_some.mp found
    exact ⟨later, found, stamp, .inl ⟨steady, frac⟩⟩
  · rw [not_or] at steady
    rw [if_neg (not_or.mpr steady), if_pos (by omega)]
    obtain ⟨later, found⟩ := made (first.time.frac - 1000000000) (by omega)
    obtain ⟨stamp, frac⟩ := NaiveDateTime.ofTimestamp?_eq_some.mp found
    exact ⟨later, found, stamp, .inr ⟨by omega, frac⟩⟩

/-- Outside a leap second, what lies between two instants can be added to the first. -/
theorem checkedAddSeconds_le {seconds : Int} (forward : 0 < seconds)
    (steady : ¬ last.time.InLeapSecond)
    (apart : seconds * 1000000000 ≤ last.nanosecondsSince first) :
    ∃ later, first.checkedAddSeconds seconds = some later ∧ later ≤ last := by
  have within := (timestamp_add_le apart).2 steady
  obtain ⟨later, added, stamp, frac⟩ := exists_checkedAddSeconds forward.le within
  refine ⟨later, added, ?_⟩
  have firstFrac := first.time.frac_lt
  have firstSecs := first.secs_eq
  have firstDay := first.day_eq
  have lastSecs := last.secs_eq
  have lastDay := last.day_eq
  unfold NaiveTime.InLeapSecond at steady
  unfold NaiveDateTime.nanosecondsSince at apart
  simp only at apart
  rw [← not_lt, NaiveDateTime.lt_iff]
  split_ifs at apart <;> omega

theorem numDays_nonneg {nanoseconds : Int} (nonneg : 0 ≤ nanoseconds) : 0 ≤ numDays nanoseconds :=
  Int.tdiv_nonneg (Int.tdiv_nonneg nonneg (by decide)) (by decide)

theorem numDays_nonpos {nanoseconds : Int} (nonpos : nanoseconds ≤ 0) : numDays nanoseconds ≤ 0 := by
  have counted := numDays_nonneg (neg_nonneg.mpr nonpos)
  unfold numDays NaiveDateTime.numSeconds at counted ⊢
  rw [Int.neg_tdiv, Int.neg_tdiv] at counted
  omega

theorem days_le_of_numDays {days : Nat} {nanoseconds : Int} (nonneg : 0 ≤ nanoseconds)
    (within : (days : Int) ≤ numDays nanoseconds) : days * nanosecondsPerDay ≤ nanoseconds := by
  unfold numDays NaiveDateTime.numSeconds at within
  rw [Int.tdiv_eq_ediv_of_nonneg nonneg, Int.tdiv_eq_ediv_of_nonneg (by omega)] at within
  unfold nanosecondsPerDay
  omega

variable {rng : StdRng} {toI64 : Positive → Int} {state : rng.State} {timeframe : TimeFrame}
  {steps : Nat} {required : Int}

/-- The whole days after the first date that are drawn from, up to a latest start. -/
def possibleDays (minDate latest : UtcDateTime) : Nat :=
  if latest ≤ minDate then 0 else (numDays (latest.nanosecondsSince minDate)).toNat

theorem days_le_of_possible {days : Nat} (some_day : 0 < days)
    (within : days ≤ possibleDays first later) :
    first < later ∧ days * nanosecondsPerDay ≤ later.nanosecondsSince first := by
  unfold possibleDays at within
  split_ifs at within with tight
  · omega
  · have counted : (days : Int) ≤ numDays (later.nanosecondsSince first) := by omega
    refine ⟨not_le.mp tight, days_le_of_numDays ?_ counted⟩
    by_contra negative
    have none := numDays_nonpos (not_le.mp negative).le
    omega

/-- What a selection that succeeds returns, whatever is drawn. -/
theorem selectRandomDate_spec (draws : rng.DrawsBelow)
    (selected : selectRandomDate rng toI64 state first last timeframe steps = .ok later) :
    ∃ required latest, calculateRequiredDuration toI64 timeframe steps = some required ∧
      required ≤ last.nanosecondsSince first ∧ last.checkedSubSigned required = some latest ∧
      ∃ days : Nat, days ≤ possibleDays first latest ∧
        first.checkedAddSeconds (days * 86400) = some later := by
  unfold selectRandomDate at selected
  obtain ⟨required, computed, selected⟩ := bind_eq_ok.mp selected
  simp only at selected
  split_ifs at selected with short
  obtain ⟨latest, moved, selected⟩ := bind_eq_ok.mp selected
  refine ⟨required, latest, okOr_eq_ok.mp computed, not_lt.mp short, okOr_eq_ok.mp moved, ?_⟩
  unfold possibleDays
  split_ifs at selected ⊢ with tight
  · cases selected
    refine ⟨0, le_refl 0, ?_⟩
    unfold NaiveDateTime.checkedAddSeconds
    rw [if_pos (.inr (by simp))]
    exact NaiveDateTime.ofTimestamp?_eq_some.mpr ⟨by simp, rfl⟩
  · have below := draws state _ (Nat.succ_pos (numDays (latest.nanosecondsSince first)).toNat)
    exact ⟨_, Nat.lt_succ_iff.mp below, okOr_eq_ok.mp selected⟩

/-- Every number of days the range allows is drawn by some generator. -/
theorem exists_selectRandomDate {days : Nat} {latest : UtcDateTime}
    (computed : calculateRequiredDuration toI64 timeframe steps = some required)
    (fits : required ≤ last.nanosecondsSince first)
    (subtracted : last.checkedSubSigned required = some latest)
    (within : days ≤ possibleDays first latest)
    (moved : first.checkedAddSeconds (days * 86400) = some later) :
    ∃ (rng : StdRng) (state : rng.State), rng.DrawsBelow ∧
      selectRandomDate rng toI64 state first last timeframe steps = .ok later := by
  refine ⟨⟨Unit, fun _ => (), (), fun _ count => (min days (count - 1), ())⟩, (), ?_, ?_⟩
  · intro state count positive
    dsimp only
    omega
  · unfold selectRandomDate
    rw [computed]
    change (if last.nanosecondsSince first < required then _ else _) = _
    rw [if_neg (not_lt.mpr fits), subtracted]
    change (if latest ≤ first then _ else _) = _
    unfold possibleDays at within
    split_ifs at within ⊢ with tight
    · obtain rfl := Nat.le_zero.mp within
      unfold NaiveDateTime.checkedAddSeconds at moved
      rw [if_pos (.inr (by simp))] at moved
      obtain ⟨stamp, frac⟩ := NaiveDateTime.ofTimestamp?_eq_some.mp moved
      refine congrArg Except.ok (NaiveDateTime.key_injective ?_)
      simp only [stamp, frac]
      simp
    · have drawn : min days ((numDays (latest.nanosecondsSince first)).toNat + 1 - 1) = days := by
        omega
      dsimp only
      rw [drawn, moved]
      rfl

end Dates

end OptionChainSimulator.Domain
