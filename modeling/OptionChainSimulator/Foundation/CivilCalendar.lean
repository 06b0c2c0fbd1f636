import Mathlib.Tactic

namespace OptionChainSimulator.Foundation

/-! The proleptic Gregorian calendar on day numbers.  Day `0` is 1970-01-01, a
month is numbered by `12 * year + (month - 1)`, and division rounds down, so
years and days before the epoch need no separate treatment. -/

inductive Weekday where
  | mon | tue | wed | thu | fri | sat | sun
  deriving DecidableEq, Repr

namespace Weekday

def numDaysFromMonday : Weekday → Nat
  | .mon => 0
  | .tue => 1
  | .wed => 2
  | .thu => 3
  | .fri => 4
  | .sat => 5
  | .sun => 6

def ofIndex : Nat → Weekday
  | 0 => .mon
  | 1 => .tue
  | 2 => .wed
  | 3 => .thu
  | 4 => .fri
  | 5 => .sat
  | _ => .sun

theorem numDaysFromMonday_lt (weekday : Weekday) :
    weekday.numDaysFromMonday < 7 := by
  cases weekday <;> decide

@[simp] theorem ofIndex_numDaysFromMonday (weekday : Weekday) :
    ofIndex weekday.numDaysFromMonday = weekday := by
  cases weekday <;> rfl

theorem numDaysFromMonday_ofIndex {index : Nat} (bound : index < 7) :
    (ofIndex index).numDaysFromMonday = index := by
  interval_cases index <;> rfl

theorem numDaysFromMonday_injective {left right : Weekday}
    (equal : left.numDaysFromMonday = right.numDaysFromMonday) : left = right := by
  rw [← ofIndex_numDaysFromMonday left, equal, ofIndex_numDaysFromMonday]

end Weekday

namespace CivilCalendar

def IsLeap (year : Int) : Prop :=
  year % 4 = 0 ∧ (year % 100 ≠ 0 ∨ year % 400 = 0)

instance (year : Int) : Decidable (IsLeap year) :=
  inferInstanceAs (Decidable (_ ∧ (_ ∨ _)))

/-- The day number of the first of January. -/
def firstOfYear (year : Int) : Int :=
  365 * (year - 1) + (year - 1) / 4 - (year - 1) / 100 + (year - 1) / 400 - 719162

/-- Days of a common year that precede the month with this zero-based number. -/
def daysBeforeMonth : Nat → Int
  | 0 => 0
  | 1 => 31
  | 2 => 59
  | 3 => 90
  | 4 => 120
  | 5 => 151
  | 6 => 181
  | 7 => 212
  | 8 => 243
  | 9 => 273
  | 10 => 304
  | 11 => 334
  | _ => 365

def leapDay (year : Int) (month : Nat) : Int :=
  if IsLeap year ∧ 2 ≤ month then 1 else 0

/-- The day number of the first day of the numbered month. -/
def firstOfMonth (index : Int) : Int :=
  firstOfYear (index / 12) + daysBeforeMonth (index % 12).toNat +
    leapDay (index / 12) (index % 12).toNat

def yearOf (day : Int) : Int :=
  let estimate := (day + 719162) * 400 / 146097 + 1
  if day < firstOfYear estimate then estimate - 1
  else if firstOfYear (estimate + 1) ≤ day then estimate + 1
  else estimate

/-- The last month of `day`'s year that starts on or before `day`, searched
downwards from `month`. -/
def monthFrom (day : Int) : Nat → Nat
  | 0 => 0
  | month + 1 =>
      if firstOfMonth (12 * yearOf day + (month + 1)) ≤ day then month + 1
      else monthFrom day month

def monthIndexOf (day : Int) : Int :=
  12 * yearOf day + monthFrom day 11

def weekdayOf (day : Int) : Weekday :=
  Weekday.ofIndex ((day + 3) % 7).toNat

theorem firstOfYear_succ (year : Int) :
    firstOfYear (year + 1) = firstOfYear year + 365 + (if IsLeap year then 1 else 0) := by
  unfold firstOfYear IsLeap
  split_ifs with leap <;> omega

theorem firstOfYear_yearOf (day : Int) :
    firstOfYear (yearOf day) ≤ day ∧ day < firstOfYear (yearOf day + 1) := by
  have previous := firstOfYear_succ ((day + 719162) * 400 / 146097)
  have following := firstOfYear_succ ((day + 719162) * 400 / 146097 + 1 + 1)
  have lower : firstOfYear ((day + 719162) * 400 / 146097) ≤ day := by
    unfold firstOfYear
    omega
  have upper : day < firstOfYear ((day + 719162) * 400 / 146097 + 1 + 1 + 1) := by
    unfold firstOfYear
    omega
  unfold yearOf
  simp only
  split_ifs with before after
  · exact ⟨by simpa using lower, by simpa using before⟩
  · exact ⟨after, upper⟩
  · exact ⟨not_lt.mp before, not_le.mp after⟩

theorem firstOfMonth_january (year : Int) :
    firstOfMonth (12 * year) = firstOfYear year := by
  have quotient : 12 * year / 12 = year := by omega
  have remainder : 12 * year % 12 = 0 := by omega
  simp [firstOfMonth, quotient, remainder, daysBeforeMonth, leapDay]

theorem firstOfMonth_succ (index : Int) :
    firstOfMonth index + 28 ≤ firstOfMonth (index + 1) ∧
      firstOfMonth (index + 1) ≤ firstOfMonth index + 31 := by
  obtain ⟨year, month, bound, rfl⟩ :
      ∃ (year : Int) (month : Nat), month < 12 ∧ index = 12 * year + month :=
    ⟨index / 12, (index % 12).toNat, by omega, by omega⟩
  by_cases december : month = 11
  · subst december
    have next : (12 * year + ((11 : Nat) : Int)) + 1 = 12 * (year + 1) := by omega
    have quotient : (12 * year + ((11 : Nat) : Int)) / 12 = year := by omega
    have remainder : (12 * year + ((11 : Nat) : Int)) % 12 = 11 := by omega
    rw [next, firstOfMonth_january, firstOfYear_succ, firstOfMonth, quotient, remainder]
    by_cases leap : IsLeap year <;> simp [daysBeforeMonth, leapDay, leap] <;> omega
  · have quotient : (12 * year + (month : Int)) / 12 = year := by omega
    have remainder : (12 * year + (month : Int)) % 12 = month := by omega
    have nextQuotient : (12 * year + (month : Int) + 1) / 12 = year := by omega
    have nextRemainder : (12 * year + (month : Int) + 1) % 12 = (month + 1 : Nat) := by omega
    rw [firstOfMonth, firstOfMonth, quotient, remainder, nextQuotient, nextRemainder,
      Int.toNat_natCast, Int.toNat_natCast]
    have within : month < 11 := by omega
    by_cases leap : IsLeap year <;> interval_cases month <;>
      simp [daysBeforeMonth, leapDay, leap] <;> omega

theorem firstOfMonth_strictMono : StrictMono firstOfMonth :=
  strictMono_int_of_lt_succ fun index => by
    have := (firstOfMonth_succ index).1
    omega

theorem monthFrom_spec (day : Int) (month : Nat)
    (beforeNext : day < firstOfMonth (12 * yearOf day + (month + 1))) :
    firstOfMonth (12 * yearOf day + monthFrom day month) ≤ day ∧
      day < firstOfMonth (12 * yearOf day + monthFrom day month + 1) := by
  induction month with
  | zero =>
      have started := (firstOfYear_yearOf day).1
      rw [← firstOfMonth_january] at started
      exact ⟨by simpa [monthFrom] using started, by simpa [monthFrom] using beforeNext⟩
  | succ month ih =>
      rw [monthFrom]
      split_ifs with started
      · exact ⟨by simpa using started, by simpa [add_assoc] using beforeNext⟩
      · exact ih (not_le.mp started)

theorem firstOfMonth_monthIndexOf (day : Int) :
    firstOfMonth (monthIndexOf day) ≤ day ∧
      day < firstOfMonth (monthIndexOf day + 1) := by
  have ended := (firstOfYear_yearOf day).2
  rw [← firstOfMonth_january] at ended
  apply monthFrom_spec
  have : 12 * (yearOf day + 1) = 12 * yearOf day + (((11 : Nat) : Int) + 1) := by omega
  rwa [this] at ended

theorem monthIndexOf_eq_iff {day index : Int} :
    monthIndexOf day = index ↔ firstOfMonth index ≤ day ∧ day < firstOfMonth (index + 1) := by
  constructor
  · rintro rfl
    exact firstOfMonth_monthIndexOf day
  · rintro ⟨lower, upper⟩
    obtain ⟨started, ended⟩ := firstOfMonth_monthIndexOf day
    have notAfter := firstOfMonth_strictMono.lt_iff_lt.mp (lower.trans_lt ended)
    have notBefore := firstOfMonth_strictMono.lt_iff_lt.mp (started.trans_lt upper)
    omega

theorem monthFrom_le (day : Int) (month : Nat) : monthFrom day month ≤ month := by
  induction month with
  | zero => rfl
  | succ month ih =>
      rw [monthFrom]
      split_ifs
      · rfl
      · omega

theorem monthIndexOf_div (day : Int) : monthIndexOf day / 12 = yearOf day := by
  have bound := monthFrom_le day 11
  unfold monthIndexOf
  omega

theorem numDaysFromMonday_weekdayOf (day : Int) :
    ((weekdayOf day).numDaysFromMonday : Int) = (day + 3) % 7 := by
  have bound : ((day + 3) % 7).toNat < 7 := by omega
  rw [weekdayOf, Weekday.numDaysFromMonday_ofIndex bound]
  omega

theorem weekdayOf_eq_iff {left right : Int} :
    weekdayOf left = weekdayOf right ↔ left % 7 = right % 7 := by
  have leftIndex := numDaysFromMonday_weekdayOf left
  have rightIndex := numDaysFromMonday_weekdayOf right
  constructor
  · intro equal
    rw [equal] at leftIndex
    omega
  · intro equal
    apply Weekday.numDaysFromMonday_injective
    omega

/-- Any seven consecutive days contain every weekday. -/
theorem exists_weekdayOf (start : Int) (weekday : Weekday) :
    ∃ offset : Nat, offset < 7 ∧ weekdayOf (start + offset) = weekday := by
  have bound := weekday.numDaysFromMonday_lt
  refine ⟨((weekday.numDaysFromMonday - (start + 3)) % 7).toNat, by omega, ?_⟩
  apply Weekday.numDaysFromMonday_injective
  have index := numDaysFromMonday_weekdayOf
    (start + (((weekday.numDaysFromMonday - (start + 3)) % 7).toNat : Nat))
  omega

end CivilCalendar

end OptionChainSimulator.Foundation
