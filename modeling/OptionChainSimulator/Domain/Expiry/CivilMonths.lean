import Mathlib.Tactic
import OptionChainSimulator.Domain.Expiry.Inventory

namespace OptionChainSimulator.Domain.Expiry

open Foundation Foundation.CivilCalendar Utils Domain

/-! The month arithmetic under every monthly and yearly expiration, against the calendar. -/

/-- The month so many months later, as a year and a month of it. -/
def IsMonthAfter (year : Int) (month offset : Nat) (target : Int × Nat) : Prop :=
  1 ≤ target.2 ∧ target.2 ≤ 12 ∧
    12 * target.1 + ((target.2 : Int) - 1) = 12 * year + ((month : Int) - 1) + offset

/-- The month that follows begins on a day that `NaiveDate` has. -/
def SuccessorRepresentable (year : Int) (month : Nat) : Prop :=
  ∃ nextYear nextMonth first, IsMonthAfter year month 1 (nextYear, nextMonth) ∧
    NaiveDate.fromYmdOpt nextYear nextMonth 1 = some first

variable {year : Int} {month offset : Nat}

theorem isMonthAfter_iff (lower : 1 ≤ month) {target : Int × Nat} :
    IsMonthAfter year month offset target ↔
      target = (year + ((month - 1 + offset) / 12 : Nat), (month - 1 + offset) % 12 + 1) := by
  unfold IsMonthAfter
  rw [Prod.ext_iff]
  constructor
  · rintro ⟨first, last, counted⟩
    dsimp only
    omega
  · rintro ⟨sameYear, sameMonth⟩
    dsimp only at sameYear sameMonth
    omega

theorem addMonths_isOk_iff (lower : 1 ≤ month) {target : Int × Nat}
    (after : IsMonthAfter year month offset target) :
    addMonths year month offset = .ok target ↔
      (-2 ^ 31 ≤ target.1 ∧ target.1 < 2 ^ 31) ∧ month - 1 + offset < 2 ^ 32 := by
  rw [addMonths_eq_ok]
  have same := (isMonthAfter_iff lower).mp after
  unfold i32Limit u32Limit
  constructor
  · rintro ⟨-, sum, inRange, -⟩
    exact ⟨inRange, by omega⟩
  · rintro ⟨inRange, sum⟩
    exact ⟨lower, by omega, inRange, same⟩

theorem addMonths_of_isMonthAfter (lower : 1 ≤ month) {target : Int × Nat}
    (after : IsMonthAfter year month offset target) :
    addMonths year month offset = .ok target ∨
      ∃ reason, addMonths year month offset = .error reason := by
  cases added : addMonths year month offset with
  | error reason => exact .inr ⟨reason, rfl⟩
  | ok other =>
      obtain ⟨-, -, -, parts⟩ := addMonths_eq_ok.mp added
      rw [(isMonthAfter_iff lower).mp after, parts]
      exact .inl rfl

/-- The days on which the following month can begin. -/
theorem successorRepresentable_iff (lower : 1 ≤ month) (upper : month ≤ 12) :
    SuccessorRepresentable year month ↔
      minDay ≤ firstOfMonth (12 * year + month) ∧ firstOfMonth (12 * year + month) ≤ maxDay := by
  constructor
  · rintro ⟨nextYear, nextMonth, first, ⟨positive, within, counted⟩, named⟩
    rw [NaiveDate.fromYmdOpt_first positive within, NaiveDate.ofDay?_eq_some] at named
    have index : 12 * nextYear + (nextMonth : Int) - 1 = 12 * year + month := by
      dsimp only at counted
      omega
    rw [← index, ← named]
    exact ⟨first.lower, first.upper⟩
  · rintro ⟨above, below⟩
    refine ⟨year + ((month - 1 + 1) / 12 : Nat), (month - 1 + 1) % 12 + 1,
      ⟨firstOfMonth (12 * year + month), above, below⟩, (isMonthAfter_iff lower).mpr rfl, ?_⟩
    rw [NaiveDate.fromYmdOpt_first (by omega) (by omega), NaiveDate.ofDay?_eq_some]
    exact congrArg firstOfMonth (by omega)

theorem year_bounds_of_representable (lower : 1 ≤ month) (upper : month ≤ 12)
    (representable : SuccessorRepresentable year month) :
    12 * (-262143) ≤ 12 * year + (month : Int) ∧ 12 * year + (month : Int) < 12 * 262143 := by
  obtain ⟨above, below⟩ := (successorRepresentable_iff lower upper).mp representable
  rw [minDay_eq_firstOfMonth] at above
  have top := maxDay_succ_eq_firstOfMonth
  exact ⟨firstOfMonth_strictMono.le_iff_le.mp above,
    firstOfMonth_strictMono.lt_iff_lt.mp (by omega)⟩

/-- The last such weekday, where the month's own days are dates as well. -/
theorem lastWeekdayOfMonth_isOk (lower : 1 ≤ month) (upper : month ≤ 12)
    (representable : SuccessorRepresentable year month)
    (begun : (year, month) ≠ (-262144, 12)) (rule : ExpiryRule) (weekday : Weekday) :
    ∃ date, lastWeekdayOfMonth rule year month weekday = .ok date ∧
      (date.year = year ∧ date.month = month) ∧ date.weekday = weekday ∧
      monthIndexOf date.day < monthIndexOf (date.day + 7) := by
  have bounds := year_bounds_of_representable lower upper representable
  have notFirst : 12 * (-262143) < 12 * year + (month : Int) := by
    apply lt_of_le_of_ne bounds.1
    intro same
    apply begun
    rw [Prod.ext_iff]
    dsimp only
    omega
  have started := firstOfMonth_strictMono.monotone
    (show 12 * (-262143) ≤ 12 * year + (month : Int) - 1 by omega)
  rw [← minDay_eq_firstOfMonth] at started
  have long := (firstOfMonth_succ (12 * year + month - 1)).1
  rw [sub_add_cancel] at long
  obtain ⟨above, below⟩ := (successorRepresentable_iff lower upper).mp representable
  obtain ⟨offset, within, falls⟩ := exists_weekdayOf (firstOfMonth (12 * year + month) - 7) weekday
  let date : NaiveDate :=
    ⟨firstOfMonth (12 * year + month) - 7 + offset, by omega, by omega⟩
  have inMonth : monthIndexOf date.day = 12 * year + month - 1 := by
    apply monthIndexOf_eq_iff.mpr
    rw [sub_add_cancel]
    exact ⟨by dsimp only [date]; omega, by dsimp only [date]; omega⟩
  have later : 12 * year + (month : Int) ≤ monthIndexOf (date.day + 7) := by
    have ended := (firstOfMonth_monthIndexOf (date.day + 7)).2
    have reached : firstOfMonth (12 * year + month) ≤ date.day + 7 := by
      dsimp only [date]
      omega
    exact Int.le_of_lt_add_one (firstOfMonth_strictMono.lt_iff_lt.mp (reached.trans_lt ended))
  have isLast : IsLastOfMonth weekday date := by
    apply isLastOfMonth_iff.mpr
    rw [inMonth, sub_add_cancel]
    exact ⟨falls, by dsimp only [date]; omega⟩
  have parts := date.monthIndexOf_day
  have monthBounds := date.month_bounds
  refine ⟨date, ?_, ⟨by omega, by omega⟩, falls, by omega⟩
  apply (lastWeekdayOfMonth_eq_ok lower upper).mpr
  exact ⟨⟨_, by unfold i32Limit; omega, by unfold i32Limit; omega, rfl⟩, ⟨above, below⟩, inMonth,
    isLast⟩

/-- The December before the first date has no day of its own to fall on. -/
theorem lastWeekdayOfMonth_before_first (rule : ExpiryRule) (weekday : Weekday) :
    lastWeekdayOfMonth rule (-262144) 12 weekday =
      .error (projectionError rule "date arithmetic underflows") := by
  have shifted : addMonths (-262144) 12 1 = .ok (-262143, 1) := by decide
  have named : NaiveDate.fromYmdOpt (-262143) 1 1 = some ⟨minDay, le_refl _, by decide⟩ := by
    decide +kernel
  have before : NaiveDate.checkedSubDays ⟨minDay, le_refl _, by decide⟩ 1 = none := by
    decide +kernel
  unfold lastWeekdayOfMonth
  rw [shifted]
  simp only [Except.mapError, bind, Except.bind, named, okOr, before]

/-- The month arithmetic follows the calendar wherever the month has a day to name. -/
theorem months_follow_the_calendar (lower : 1 ≤ month) (upper : month ≤ 12) :
    (SuccessorRepresentable year month → ∀ rule weekday,
      ((year, month) ≠ (-262144, 12) →
        ∃ date, lastWeekdayOfMonth rule year month weekday = .ok date ∧
          (date.year = year ∧ date.month = month) ∧ date.weekday = weekday ∧
          monthIndexOf date.day < monthIndexOf (date.day + 7)) ∧
      ((year, month) = (-262144, 12) → lastWeekdayOfMonth rule year month weekday =
        .error (projectionError rule "date arithmetic underflows"))) ∧
    ∀ offset, ∃! target, IsMonthAfter year month offset target ∧
      (addMonths year month offset = .ok target ∨
        ∃ reason, addMonths year month offset = .error reason) ∧
      ((∃ reason, addMonths year month offset = .error reason) ↔
        ¬ (-2 ^ 31 ≤ target.1 ∧ target.1 < 2 ^ 31) ∨ 2 ^ 32 ≤ month - 1 + offset) := by
  constructor
  · intro representable rule weekday
    constructor
    · intro begun
      exact lastWeekdayOfMonth_isOk lower upper representable begun rule weekday
    · intro first
      cases first
      exact lastWeekdayOfMonth_before_first rule weekday
  · intro offset
    have after : IsMonthAfter year month offset _ := (isMonthAfter_iff lower).mpr rfl
    refine ⟨_, ⟨after, addMonths_of_isMonthAfter lower after, ?_⟩, ?_⟩
    · rw [← @not_lt Nat, ← not_and_or, ← addMonths_isOk_iff lower after]
      constructor
      · rintro ⟨reason, failed⟩ added
        rw [failed] at added
        cases added
      · exact (addMonths_of_isMonthAfter lower after).resolve_left
    · rintro other ⟨same, -⟩
      exact (isMonthAfter_iff lower).mp same

theorem months_follow_the_calendar_leapFebruary :
    (∃ date, lastWeekdayOfMonth monthlies 2028 2 .fri = .ok date ∧
      (date.year = 2028 ∧ date.month = 2) ∧ date.weekday = .fri ∧
      monthIndexOf date.day < monthIndexOf (date.day + 7)) ∧
    ∃! target, IsMonthAfter 2028 2 11 target ∧
      (addMonths 2028 2 11 = .ok target ∨ ∃ reason, addMonths 2028 2 11 = .error reason) ∧
      ((∃ reason, addMonths 2028 2 11 = .error reason) ↔
        ¬ (-2 ^ 31 ≤ target.1 ∧ target.1 < 2 ^ 31) ∨ 2 ^ 32 ≤ 2 - 1 + 11) := by
  obtain ⟨named, added⟩ := @months_follow_the_calendar 2028 2 (by decide) (by decide)
  have representable : SuccessorRepresentable 2028 2 :=
    (successorRepresentable_iff (by decide) (by decide)).mpr
      ⟨by decide +kernel, by decide +kernel⟩
  exact ⟨(named representable monthlies .fri).1 (by decide), added 11⟩

/-- The month before the first date has a representable successor and no last weekday. -/
theorem december_before_the_first_date :
    SuccessorRepresentable (-262144) 12 ∧
      ∀ rule weekday date, lastWeekdayOfMonth rule (-262144) 12 weekday ≠ .ok date := by
  constructor
  · apply (successorRepresentable_iff (by decide) (by decide)).mpr
    exact ⟨by decide +kernel, by decide +kernel⟩
  · intro rule weekday date named
    rw [lastWeekdayOfMonth_before_first] at named
    cases named

end OptionChainSimulator.Domain.Expiry
