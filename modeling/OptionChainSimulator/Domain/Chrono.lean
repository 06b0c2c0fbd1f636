import Mathlib.Tactic
import Mathlib.Data.Prod.Lex
import OptionChainSimulator.Foundation.CivilCalendar
import OptionChainSimulator.Foundation.MachineInt

namespace OptionChainSimulator.Domain

open Foundation Foundation.CivilCalendar

/-- `{:0width}` of a natural number. -/
def padded (width value : Nat) : String :=
  let digits := toString value
  String.ofList (List.replicate (width - digits.length) '0') ++ digits

/-! The dates, times and zones the service takes from `chrono` and `chrono-tz`.
A date is a bounded day number, a time of day keeps chrono's leap-second form
(`frac` from one to two billion nanoseconds), and the zone database is a value
that the functions reading it receive. -/

def minDay : Int := firstOfYear (-262143)
def maxDay : Int := firstOfYear 262143 - 1

theorem minDay_eq : minDay = -96465292 := by decide
theorem maxDay_eq : maxDay = 95026236 := by decide

theorem minDay_eq_firstOfMonth : minDay = firstOfMonth (12 * (-262143)) := by
  rw [firstOfMonth_january]
  rfl

theorem maxDay_succ_eq_firstOfMonth : maxDay + 1 = firstOfMonth (12 * 262143) := by
  rw [firstOfMonth_january]
  rfl

structure NaiveDate where
  day : Int
  lower : minDay ≤ day
  upper : day ≤ maxDay
  deriving DecidableEq

namespace NaiveDate

theorem day_injective : Function.Injective NaiveDate.day := by
  intro left right equal
  cases left
  cases right
  cases equal
  rfl

instance : LinearOrder NaiveDate := LinearOrder.lift' NaiveDate.day day_injective

theorem lt_iff {left right : NaiveDate} : left < right ↔ left.day < right.day := Iff.rfl

def ofDay? (day : Int) : Option NaiveDate :=
  if h : minDay ≤ day ∧ day ≤ maxDay then some ⟨day, h.1, h.2⟩ else none

theorem ofDay?_eq_some {day : Int} {date : NaiveDate} :
    ofDay? day = some date ↔ date.day = day := by
  unfold ofDay?
  split_ifs with h
  · constructor
    · intro equal
      cases equal
      rfl
    · intro equal
      cases equal
      rfl
  · constructor
    · intro impossible
      cases impossible
    · intro equal
      exact absurd ⟨equal ▸ date.lower, equal ▸ date.upper⟩ h

def weekday (date : NaiveDate) : Weekday := weekdayOf date.day

def year (date : NaiveDate) : Int := yearOf date.day

/-- The month, `1..=12`. -/
def month (date : NaiveDate) : Nat := (monthIndexOf date.day % 12).toNat + 1

def checkedAddDays (date : NaiveDate) (days : Nat) : Option NaiveDate :=
  ofDay? (date.day + days)

def checkedSubDays (date : NaiveDate) (days : Nat) : Option NaiveDate :=
  ofDay? (date.day - days)

def fromYmdOpt (year : Int) (month day : Nat) : Option NaiveDate :=
  let index := 12 * year + month - 1
  if 1 ≤ month ∧ month ≤ 12 ∧ 1 ≤ day ∧ firstOfMonth index + day ≤ firstOfMonth (index + 1) then
    ofDay? (firstOfMonth index + day - 1)
  else none

def dayOfMonth (date : NaiveDate) : Nat :=
  (date.day - firstOfMonth (monthIndexOf date.day)).toNat + 1

/-- `Display for NaiveDate`; a year outside four digits carries its sign. -/
def toString (date : NaiveDate) : String :=
  let year :=
    if 0 ≤ date.year ∧ date.year ≤ 9999 then padded 4 date.year.toNat
    else (if date.year < 0 then "-" else "+") ++ padded 4 date.year.natAbs
  s!"{year}-{padded 2 date.month}-{padded 2 date.dayOfMonth}"

theorem month_bounds (date : NaiveDate) : 1 ≤ date.month ∧ date.month ≤ 12 := by
  unfold month
  omega

theorem monthIndexOf_day (date : NaiveDate) :
    monthIndexOf date.day = 12 * date.year + date.month - 1 := by
  have quotient := monthIndexOf_div date.day
  unfold year month
  omega

theorem monthIndexOf_bounds (date : NaiveDate) :
    12 * (-262143) ≤ monthIndexOf date.day ∧ monthIndexOf date.day < 12 * 262143 := by
  obtain ⟨started, ended⟩ := firstOfMonth_monthIndexOf date.day
  have lower := date.lower
  have upper := date.upper
  rw [minDay_eq_firstOfMonth] at lower
  have top := maxDay_succ_eq_firstOfMonth
  constructor
  · have := firstOfMonth_strictMono.lt_iff_lt.mp (lower.trans_lt ended)
    omega
  · exact firstOfMonth_strictMono.lt_iff_lt.mp (by omega)

theorem fromYmdOpt_first {year : Int} {month : Nat} (lower : 1 ≤ month) (upper : month ≤ 12) :
    fromYmdOpt year month 1 = ofDay? (firstOfMonth (12 * year + month - 1)) := by
  have long := (firstOfMonth_succ (12 * year + month - 1)).1
  unfold fromYmdOpt
  simp only
  rw [if_pos ⟨lower, upper, le_refl 1, by omega⟩]
  congr 1
  omega

end NaiveDate

structure NaiveTime where
  secs : Nat
  frac : Nat
  secs_lt : secs < 86400
  frac_lt : frac < 2000000000
  deriving DecidableEq

/-- `Display for NaiveTime`; a leap second shows as second 60. -/
def NaiveTime.toString (time : NaiveTime) : String :=
  let leap := 1000000000 ≤ time.frac
  let second := time.secs % 60 + if leap then 1 else 0
  let nano := if leap then time.frac - 1000000000 else time.frac
  let fraction :=
    if nano = 0 then ""
    else if nano % 1000000 = 0 then "." ++ padded 3 (nano / 1000000)
    else if nano % 1000 = 0 then "." ++ padded 6 (nano / 1000)
    else "." ++ padded 9 nano
  s!"{padded 2 (time.secs / 3600)}:{padded 2 (time.secs / 60 % 60)}:{padded 2 second}" ++ fraction

/-- No fraction of a second, in or out of a leap second. -/
def NaiveTime.WholeSecond (time : NaiveTime) : Prop := time.frac % 1000000000 = 0

instance (time : NaiveTime) : Decidable time.WholeSecond :=
  inferInstanceAs (Decidable (_ = _))

/-- chrono's form of second 60: the fraction runs past a second. -/
def NaiveTime.InLeapSecond (time : NaiveTime) : Prop := 1000000000 ≤ time.frac

instance (time : NaiveTime) : Decidable time.InLeapSecond :=
  inferInstanceAs (Decidable (_ ≤ _))

structure NaiveDateTime where
  date : NaiveDate
  time : NaiveTime
  deriving DecidableEq

/-- `DateTime<Utc>` holds its UTC date and time. -/
abbrev UtcDateTime := NaiveDateTime

namespace NaiveDateTime

def toString (instant : NaiveDateTime) : String :=
  s!"{instant.date.toString} {instant.time.toString}"

/-- `Display for DateTime<Utc>`. -/
def utcToString (instant : UtcDateTime) : String := instant.toString ++ " UTC"

/-- `to_rfc3339` of a UTC instant. -/
def toRfc3339 (instant : UtcDateTime) : String :=
  s!"{instant.date.toString}T{instant.time.toString}+00:00"

/-- Seconds since the epoch, a leap second counting as the second before it. -/
def timestamp (instant : NaiveDateTime) : Int :=
  instant.date.day * 86400 + instant.time.secs

theorem day_eq (instant : NaiveDateTime) : instant.date.day = instant.timestamp / 86400 := by
  have := instant.time.secs_lt
  unfold timestamp
  omega

theorem secs_eq (instant : NaiveDateTime) :
    (instant.time.secs : Int) = instant.timestamp % 86400 := by
  have := instant.time.secs_lt
  unfold timestamp
  omega

theorem key_injective :
    Function.Injective fun instant : NaiveDateTime =>
      toLex (instant.timestamp, instant.time.frac) := by
  intro left right equal
  have parts := Prod.ext_iff.mp (toLex.injective equal)
  have stamps : left.timestamp = right.timestamp := parts.1
  have fracs : left.time.frac = right.time.frac := parts.2
  have days : left.date.day = right.date.day := by
    rw [left.day_eq, right.day_eq, stamps]
  have secs : (left.time.secs : Int) = right.time.secs := by
    rw [left.secs_eq, right.secs_eq, stamps]
  obtain ⟨⟨leftDay, _, _⟩, ⟨leftSecs, leftFrac, _, _⟩⟩ := left
  obtain ⟨⟨rightDay, _, _⟩, ⟨rightSecs, rightFrac, _, _⟩⟩ := right
  simp only [NaiveDateTime.mk.injEq, NaiveDate.mk.injEq, NaiveTime.mk.injEq]
  exact ⟨days, Int.ofNat.inj secs, fracs⟩

instance : LinearOrder NaiveDateTime :=
  LinearOrder.lift' (fun instant => toLex (instant.timestamp, instant.time.frac)) key_injective

theorem lt_iff {left right : NaiveDateTime} :
    left < right ↔ left.timestamp < right.timestamp ∨
      left.timestamp = right.timestamp ∧ left.time.frac < right.time.frac :=
  Prod.Lex.lt_iff

def ofTimestamp? (timestamp : Int) (frac : Nat) (frac_lt : frac < 2000000000) :
    Option NaiveDateTime :=
  match NaiveDate.ofDay? (timestamp / 86400) with
  | some date => some ⟨date, (timestamp % 86400).toNat, frac, by omega, frac_lt⟩
  | none => none

theorem ofTimestamp?_eq_some {timestamp : Int} {frac : Nat} {frac_lt : frac < 2000000000}
    {instant : NaiveDateTime} :
    ofTimestamp? timestamp frac frac_lt = some instant ↔
      instant.timestamp = timestamp ∧ instant.time.frac = frac := by
  unfold ofTimestamp?
  cases found : NaiveDate.ofDay? (timestamp / 86400) with
  | some date =>
      have day := NaiveDate.ofDay?_eq_some.mp found
      constructor
      · intro equal
        cases equal
        refine ⟨?_, rfl⟩
        unfold NaiveDateTime.timestamp
        simp only [day]
        omega
      · rintro ⟨stamp, rfl⟩
        have secs := instant.secs_eq
        have days := instant.day_eq
        have same : date = instant.date := NaiveDate.day_injective (by omega)
        obtain ⟨instantDate, ⟨instantSecs, instantFrac, _, _⟩⟩ := instant
        simp only [Option.some.injEq, NaiveDateTime.mk.injEq, NaiveTime.mk.injEq, and_true]
        refine ⟨same, ?_⟩
        simp only [stamp] at secs
        omega
  | none =>
      constructor
      · intro impossible
        cases impossible
      · rintro ⟨rfl, -⟩
        rw [NaiveDate.ofDay?_eq_some.mpr instant.day_eq] at found
        cases found

/-- `with_nanosecond(0)`. -/
def withoutNanoseconds (instant : NaiveDateTime) : NaiveDateTime :=
  { instant with time := { instant.time with frac := 0, frac_lt := by omega } }

theorem withoutNanoseconds_of_whole {instant : NaiveDateTime} (whole : instant.time.frac = 0) :
    instant.withoutNanoseconds = instant := by
  obtain ⟨date, secs, frac, _, _⟩ := instant
  cases whole
  rfl

/-- `checked_add_signed` of a whole number of seconds.  Moving forward out of a
leap second drops it, moving backward out of one counts it. -/
def checkedAddSeconds (instant : NaiveDateTime) (seconds : Int) : Option NaiveDateTime :=
  have frac_lt := instant.time.frac_lt
  if instant.time.frac < 1000000000 ∨ seconds = 0 then
    ofTimestamp? (instant.timestamp + seconds) instant.time.frac frac_lt
  else if 0 < seconds then
    ofTimestamp? (instant.timestamp + seconds) (instant.time.frac - 1000000000) (by omega)
  else
    ofTimestamp? (instant.timestamp + 1 + seconds) (instant.time.frac - 1000000000) (by omega)

/-- `signed_duration_since`, in nanoseconds: the days apart, the seconds of the
day apart, one more second for a leap second passed on the way, and the
difference of the fractions. -/
def nanosecondsSince (later earlier : NaiveDateTime) : Int :=
  let days := later.date.day - earlier.date.day
  let secs : Int := later.time.secs - earlier.time.secs
  let leap : Int :=
    if earlier.time.secs < later.time.secs ∧ 1000000000 ≤ earlier.time.frac then 1
    else if later.time.secs < earlier.time.secs ∧ 1000000000 ≤ later.time.frac then -1
    else 0
  (days * 86400 + secs + leap) * 1000000000 + (later.time.frac - earlier.time.frac)

/-- `TimeDelta::num_seconds`, which rounds toward zero. -/
def numSeconds (nanoseconds : Int) : Int := Int.tdiv nanoseconds 1000000000

/-- A fraction outside a second moves into the seconds. -/
def carried (timestamp frac : Int) : Option NaiveDateTime :=
  ofTimestamp? (timestamp + frac / 1000000000) (frac % 1000000000).toNat (by omega)

/-- `checked_add_signed`: an instant that leaves its leap second drops it going forward and counts
it going back. -/
def checkedAddSigned (instant : NaiveDateTime) (nanoseconds : Int) : Option NaiveDateTime :=
  let secs := numSeconds nanoseconds
  let frac := instant.time.frac + Int.tmod nanoseconds 1000000000
  if instant.time.frac < 1000000000 then carried (instant.timestamp + secs) frac
  else if leaves : 0 < secs ∨ 2000000000 ≤ frac then
    carried (instant.timestamp + secs) (frac - 1000000000)
  else if secs < 0 then carried (instant.timestamp + 1 + secs) (frac - 1000000000)
  else ofTimestamp? instant.timestamp frac.toNat (by omega)

def checkedSubSigned (instant : NaiveDateTime) (nanoseconds : Int) : Option NaiveDateTime :=
  instant.checkedAddSigned (-nanoseconds)

theorem carried_of_lt {timestamp : Int} {frac : Nat} (below : frac < 1000000000) :
    carried timestamp frac = ofTimestamp? timestamp frac (by omega) := by
  unfold carried
  congr 1
  · omega
  · omega

theorem checkedAddSigned_seconds (instant : NaiveDateTime) (seconds : Int) :
    instant.checkedAddSigned (seconds * 1000000000) = instant.checkedAddSeconds seconds := by
  have frac_lt := instant.time.frac_lt
  have whole : Int.tmod (seconds * 1000000000) 1000000000 = 0 := Int.mul_tmod_left _ _
  have count : numSeconds (seconds * 1000000000) = seconds :=
    Int.mul_tdiv_cancel _ (by decide)
  unfold checkedAddSigned checkedAddSeconds
  simp only [whole, count, add_zero]
  have dropped : 1000000000 ≤ instant.time.frac →
      ((instant.time.frac : Int) - 1000000000) = (instant.time.frac - 1000000000 : Nat) := by
    omega
  by_cases steady : instant.time.frac < 1000000000
  · rw [if_pos steady, if_pos (.inl steady), carried_of_lt steady]
  · rw [if_neg steady, dropped (not_lt.mp steady)]
    by_cases still : seconds = 0
    · subst still
      rw [if_pos (.inr rfl), dif_neg (by omega), if_neg (by decide)]
      simp
    · rw [if_neg (not_or.mpr ⟨steady, still⟩)]
      by_cases forward : 0 < seconds
      · rw [if_pos forward, dif_pos (.inl forward), carried_of_lt (by omega)]
      · rw [if_neg forward, dif_neg (by omega), if_pos (by omega), carried_of_lt (by omega)]

theorem checkedSubSigned_seconds (instant : NaiveDateTime) (seconds : Int) :
    instant.checkedSubSigned (seconds * 1000000000) = instant.checkedAddSeconds (-seconds) := by
  rw [← checkedAddSigned_seconds, checkedSubSigned, neg_mul]

section Interval

variable (later earlier : NaiveDateTime)

theorem nanosecondsSince_pos {later earlier : NaiveDateTime} (whole : earlier.time.frac = 0)
    (below : earlier < later) :
    0 < later.nanosecondsSince earlier := by
  have order := lt_iff.mp below
  have earlierSecs := earlier.time.secs_lt
  have laterSecs := later.time.secs_lt
  unfold timestamp at order
  unfold nanosecondsSince
  simp only
  split_ifs <;> omega

theorem nanosecondsSince_emod (whole : earlier.time.frac = 0) :
    later.nanosecondsSince earlier % 1000000000 = (later.time.frac % 1000000000 : Nat) := by
  unfold nanosecondsSince
  simp only
  omega

theorem nanosecondsSince_le (whole : earlier.time.frac = 0) :
    later.nanosecondsSince earlier ≤ 10 ^ 15 * 10 ^ 9 := by
  have lower := earlier.date.lower
  have upper := later.date.upper
  have frac := later.time.frac_lt
  have laterSecs := later.time.secs_lt
  rw [minDay_eq] at lower
  rw [maxDay_eq] at upper
  unfold nanosecondsSince
  simp only
  split_ifs <;> omega

end Interval

/-- `timestamp_nanos_opt`, with the fraction of a negative timestamp counted down from the
next second. -/
def timestampNanosOpt (instant : NaiveDateTime) : Option I64 :=
  if instant.timestamp < 0 then do
    let scaled ← signed? i64Limit ((instant.timestamp + 1) * 1000000000)
    SignedInt.ofInt? i64Limit (scaled + (instant.time.frac - 1000000000))
  else do
    let scaled ← signed? i64Limit (instant.timestamp * 1000000000)
    SignedInt.ofInt? i64Limit (scaled + instant.time.frac)

theorem value_timestampNanosOpt {instant : NaiveDateTime} {nanos : I64}
    (counted : instant.timestampNanosOpt = some nanos) :
    nanos.value = instant.timestamp * 1000000000 + instant.time.frac := by
  unfold timestampNanosOpt at counted
  split_ifs at counted
  · obtain ⟨scaled, fits, held⟩ := Option.bind_eq_some_iff.mp counted
    rw [SignedInt.ofInt?_eq_some.mp held, (signed?_eq_some.mp fits).2]
    ring
  · obtain ⟨scaled, fits, held⟩ := Option.bind_eq_some_iff.mp counted
    rw [SignedInt.ofInt?_eq_some.mp held, (signed?_eq_some.mp fits).2]

theorem day_bounds_of_nanos (nanos : I64) :
    minDay ≤ nanos.value / 1000000000 / 86400 ∧ nanos.value / 1000000000 / 86400 ≤ maxDay := by
  have lower := nanos.lower
  have upper := nanos.upper
  unfold i64Limit at lower upper
  rw [minDay_eq, maxDay_eq]
  omega

/-- `DateTime::from_timestamp_nanos`; every count is some instant's. -/
def fromTimestampNanos (nanos : I64) : NaiveDateTime where
  date := ⟨nanos.value / 1000000000 / 86400, (day_bounds_of_nanos nanos).1,
    (day_bounds_of_nanos nanos).2⟩
  time := ⟨(nanos.value / 1000000000 % 86400).toNat, (nanos.value % 1000000000).toNat,
    by omega, by omega⟩

theorem timestamp_fromTimestampNanos (nanos : I64) :
    (fromTimestampNanos nanos).timestamp = nanos.value / 1000000000 := by
  unfold fromTimestampNanos timestamp
  simp only
  omega

theorem frac_fromTimestampNanos (nanos : I64) :
    ((fromTimestampNanos nanos).time.frac : Int) = nanos.value % 1000000000 := by
  unfold fromTimestampNanos
  simp only
  omega

theorem timestampNanosOpt_fromTimestampNanos (nanos : I64) :
    (fromTimestampNanos nanos).timestampNanosOpt = some nanos := by
  have lower := nanos.lower
  have upper := nanos.upper
  have stamp := timestamp_fromTimestampNanos nanos
  have frac := frac_fromTimestampNanos nanos
  unfold i64Limit at lower upper
  unfold timestampNanosOpt
  split_ifs with negative
  · refine Option.bind_eq_some_iff.mpr ⟨_, signed?_eq_some.mpr ⟨?_, rfl⟩, ?_⟩
    · unfold i64Limit
      omega
    · apply SignedInt.ofInt?_eq_some.mpr
      omega
  · refine Option.bind_eq_some_iff.mpr ⟨_, signed?_eq_some.mpr ⟨?_, rfl⟩, ?_⟩
    · unfold i64Limit
      omega
    · apply SignedInt.ofInt?_eq_some.mpr
      omega

theorem fromTimestampNanos_lt_iff {left right : I64} :
    fromTimestampNanos left < fromTimestampNanos right ↔ left < right := by
  have leftFrac := frac_fromTimestampNanos left
  have rightFrac := frac_fromTimestampNanos right
  rw [lt_iff, timestamp_fromTimestampNanos, timestamp_fromTimestampNanos, SignedInt.lt_iff]
  omega

theorem fromTimestampNanos_injective : Function.Injective fromTimestampNanos := by
  intro left right equal
  obtain below | same | above := lt_trichotomy left right
  · exact absurd equal (fromTimestampNanos_lt_iff.mpr below).ne
  · exact same
  · exact absurd equal.symm (fromTimestampNanos_lt_iff.mpr above).ne

/-- An instant comes back from its count of nanoseconds unless it is in a leap second. -/
theorem fromTimestampNanos_eq_iff {instant : NaiveDateTime} {nanos : I64}
    (counted : instant.timestampNanosOpt = some nanos) :
    fromTimestampNanos nanos = instant ↔ ¬ instant.time.InLeapSecond := by
  have value := value_timestampNanosOpt counted
  have stamp := timestamp_fromTimestampNanos nanos
  have frac := frac_fromTimestampNanos nanos
  unfold NaiveTime.InLeapSecond
  constructor
  · intro same
    rw [same] at frac
    omega
  · intro outside
    apply key_injective
    simp only
    rw [show (fromTimestampNanos nanos).timestamp = instant.timestamp by omega,
      show (fromTimestampNanos nanos).time.frac = instant.time.frac by omega]

end NaiveDateTime

/-- Seconds a `TimeDelta` can hold: `TimeDelta::try_seconds`. -/
def trySeconds (seconds : Int) : Option Int :=
  if -9223372036854775 ≤ seconds ∧ seconds ≤ 9223372036854775 then some seconds else none

/-- An IANA zone, by name. -/
structure Tz where
  name : String
  deriving DecidableEq, Repr

inductive MappedLocalTime where
  | single (instant : UtcDateTime)
  | ambiguous (earliest latest : UtcDateTime)
  | none
  deriving DecidableEq

def MappedLocalTime.earliest : MappedLocalTime → Option UtcDateTime
  | .single instant => some instant
  | .ambiguous earliest _ => some earliest
  | .none => Option.none

/-- The zone database compiled into the binary. `localDate` is
`with_timezone(&tz).date_naive()`, which panics where it is `none`; `gapEnd` is
`GapInfo::new(local, tz)` followed by `gap.end`. -/
structure TzDatabase where
  version : String
  parse : String → Option Tz
  localDate : Tz → UtcDateTime → Option NaiveDate
  fromLocalDatetime : Tz → NaiveDateTime → MappedLocalTime
  gapEnd : NaiveDateTime → Tz → Option UtcDateTime

/-- The database cut down to the zone whose local time is UTC. -/
def TzDatabase.utc : TzDatabase where
  version := "2025b"
  parse raw := if raw = "UTC" then some ⟨"UTC"⟩ else none
  localDate _ instant := some instant.date
  fromLocalDatetime _ localTime := .single localTime
  gapEnd _ _ := none

end OptionChainSimulator.Domain
