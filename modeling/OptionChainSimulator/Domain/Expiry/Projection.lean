import Mathlib.Tactic
import OptionChainSimulator.Domain.Expiry.Reference

namespace OptionChainSimulator.Domain.Expiry

open Foundation Foundation.CivilCalendar Utils Domain

/-! The planner keeps the meaning of every rule, and merging the rules loses no
expiration and no label. -/

/-! ### Months and years -/

theorem addMonths_eq_ok {year : Int} {month offset : Nat} {shifted : Int × Nat} :
    addMonths year month offset = .ok shifted ↔
      1 ≤ month ∧ month + offset ≤ u32Limit ∧
        (-i32Limit ≤ shifted.1 ∧ shifted.1 < i32Limit) ∧
        shifted = (year + ((month - 1 + offset) / 12 : Nat), (month - 1 + offset) % 12 + 1) := by
  unfold addMonths
  simp only [bind_eq_ok, okOr_eq_ok, unsigned?_eq_some, signed?_eq_some, pure, Except.pure,
    Except.ok.injEq, Option.ite_none_left_eq_some, Option.some.injEq]
  constructor
  · rintro ⟨zeroBased, ⟨positive, rfl⟩, total, ⟨fits, rfl⟩, years, ⟨-, rfl⟩, later,
      ⟨inRange, rfl⟩, last, ⟨-, rfl⟩, rfl⟩
    exact ⟨by omega, by omega, inRange, rfl⟩
  · rintro ⟨positive, fits, inRange, rfl⟩
    unfold u32Limit at fits ⊢
    refine ⟨month - 1, ⟨by omega, rfl⟩, _, ⟨by omega, rfl⟩, _, ⟨?_, rfl⟩, _, ⟨inRange, rfl⟩, _,
      ⟨by omega, rfl⟩, rfl⟩
    unfold i32Limit
    omega

theorem addYears_eq_ok {year shifted : Int} {offset : Nat} :
    addYears year offset = .ok shifted ↔
      (offset : Int) < i32Limit ∧ (-i32Limit ≤ shifted ∧ shifted < i32Limit) ∧
        shifted = year + offset := by
  unfold addYears
  simp only [bind_eq_ok, okOr_eq_ok, signed?_eq_some]
  constructor
  · rintro ⟨years, ⟨⟨-, fits⟩, rfl⟩, inRange, rfl⟩
    exact ⟨fits, inRange, rfl⟩
  · rintro ⟨fits, inRange, rfl⟩
    refine ⟨offset, ⟨⟨?_, fits⟩, rfl⟩, inRange, rfl⟩
    unfold i32Limit
    omega

theorem lastWeekdayOfMonth_eq_ok {rule : ExpiryRule} {year : Int} {month : Nat}
    {weekday : Weekday} {date : NaiveDate} (lower : 1 ≤ month) (upper : month ≤ 12) :
    lastWeekdayOfMonth rule year month weekday = .ok date ↔
      (∃ nextYear, -i32Limit ≤ nextYear ∧ nextYear < i32Limit ∧
          nextYear = year + ((month / 12 : Nat) : Int)) ∧
        (minDay ≤ firstOfMonth (12 * year + month) ∧
          firstOfMonth (12 * year + month) ≤ maxDay) ∧
        monthIndexOf date.day = 12 * year + month - 1 ∧ IsLastOfMonth weekday date := by
  have monthEq : month - 1 + 1 = month := by omega
  have nextIndex :
      12 * (year + ((month / 12 : Nat) : Int)) + ((month % 12 + 1 : Nat) : Int) - 1 =
        12 * year + month := by omega
  have short := firstOfMonth_succ (12 * year + month - 1)
  rw [sub_add_cancel] at short
  unfold lastWeekdayOfMonth
  simp only [bind_eq_ok, mapError_eq_ok, okOr_eq_ok, addMonths_eq_ok, Prod.exists, Prod.mk.injEq,
    monthEq]
  constructor
  · rintro ⟨nextYear, nextMonth, ⟨-, -, inRange, rfl, rfl⟩, firstOfNext, named, last,
      lastNamed, stepped⟩
    rw [NaiveDate.fromYmdOpt_first (by omega) (by omega), nextIndex,
      NaiveDate.ofDay?_eq_some] at named
    rw [NaiveDate.checkedSubDays, NaiveDate.ofDay?_eq_some] at lastNamed stepped
    have lastWeekday := numDaysFromMonday_weekdayOf last.day
    have dateWeekday := numDaysFromMonday_weekdayOf date.day
    have wanted := weekday.numDaysFromMonday_lt
    unfold NaiveDate.weekday at stepped
    have inMonth : monthIndexOf date.day = 12 * year + month - 1 := by
      refine monthIndexOf_eq_iff.mpr ?_
      rw [sub_add_cancel]
      omega
    refine ⟨⟨_, inRange.1, inRange.2, rfl⟩, ?_, inMonth, isLastOfMonth_iff.mpr ⟨?_, ?_⟩⟩
    · rw [← named]
      exact ⟨firstOfNext.lower, firstOfNext.upper⟩
    · apply Weekday.numDaysFromMonday_injective
      unfold NaiveDate.weekday
      omega
    · rw [inMonth, sub_add_cancel]
      omega
  · rintro ⟨⟨nextYear, above, below, rfl⟩, ⟨nextLower, nextUpper⟩, inMonth, isLast⟩
    obtain ⟨onWeekday, close⟩ := isLastOfMonth_iff.mp isLast
    rw [inMonth, sub_add_cancel] at close
    obtain ⟨-, ended⟩ := monthIndexOf_eq_iff.mp inMonth
    rw [sub_add_cancel] at ended
    have dateLower := date.lower
    have lastWeekday := numDaysFromMonday_weekdayOf (firstOfMonth (12 * year + month) - 1)
    have dateWeekday := numDaysFromMonday_weekdayOf date.day
    have index : date.weekday.numDaysFromMonday = weekday.numDaysFromMonday :=
      congrArg Weekday.numDaysFromMonday onWeekday
    unfold NaiveDate.weekday at index
    have wanted := weekday.numDaysFromMonday_lt
    refine ⟨_, _, ⟨lower, ?_, ⟨above, below⟩, rfl, rfl⟩,
      ⟨firstOfMonth (12 * year + month), nextLower, nextUpper⟩, ?_,
      ⟨firstOfMonth (12 * year + month) - 1, by omega, by omega⟩, ?_, ?_⟩
    · unfold u32Limit
      omega
    · rw [NaiveDate.fromYmdOpt_first (by omega) (by omega), nextIndex]
      exact NaiveDate.ofDay?_eq_some.mpr rfl
    · exact NaiveDate.ofDay?_eq_some.mpr rfl
    · refine NaiveDate.ofDay?_eq_some.mpr ?_
      unfold NaiveDate.weekday
      dsimp only
      omega

theorem monthlyDate_eq_ok {rule : ExpiryRule} {start : NaiveDate} {weekday : Weekday}
    {index : Nat} {result : Option NaiveDate}
    (named : monthlyDate rule start weekday index = .ok result) :
    ∃ date, result = some date ∧ monthIndexOf date.day = monthIndexOf start.day + index ∧
      IsLastOfMonth weekday date ∧ firstOfMonth (monthIndexOf date.day + 1) ≤ maxDay := by
  unfold monthlyDate at named
  obtain ⟨⟨year, month⟩, shifted, found⟩ := bind_eq_ok.mp named
  obtain ⟨-, -, -, parts⟩ := addMonths_eq_ok.mp (mapError_eq_ok.mp shifted)
  obtain ⟨rfl, rfl⟩ := Prod.mk.inj parts
  obtain ⟨date, last, rfl⟩ := map_eq_ok.mp found
  obtain ⟨-, ⟨-, closes⟩, inMonth, isLast⟩ :=
    (lastWeekdayOfMonth_eq_ok (Nat.le_add_left 1 _) (by omega)).mp last
  have started := start.monthIndexOf_day
  have positive := start.month_bounds.1
  refine ⟨date, rfl, by omega, isLast, ?_⟩
  rwa [inMonth, sub_add_cancel]

theorem yearlyDate_eq_ok {rule : ExpiryRule} {start : NaiveDate} {weekday : Weekday}
    {month index : Nat} {result : Option NaiveDate} (lower : 1 ≤ month) (upper : month ≤ 12)
    (named : yearlyDate rule start weekday month index = .ok result) :
    ∃ date, result = some date ∧
      monthIndexOf date.day = 12 * (start.year + index) + month - 1 ∧
      IsLastOfMonth weekday date ∧ firstOfMonth (monthIndexOf date.day + 1) ≤ maxDay := by
  unfold yearlyDate at named
  obtain ⟨year, shifted, found⟩ := bind_eq_ok.mp named
  obtain ⟨-, -, rfl⟩ := addYears_eq_ok.mp (mapError_eq_ok.mp shifted)
  obtain ⟨date, last, rfl⟩ := map_eq_ok.mp found
  obtain ⟨-, ⟨-, closes⟩, inMonth, isLast⟩ := (lastWeekdayOfMonth_eq_ok lower upper).mp last
  refine ⟨date, rfl, inMonth, isLast, ?_⟩
  rwa [inMonth, sub_add_cancel]

namespace RollingPlanner

variable {planner : RollingPlanner} {rule : ExpiryRule} {simulatedAt : UtcDateTime}

/-! ### One rule -/

theorem periodic_monthly {weekday : Weekday} (kind : rule.kind = .monthly weekday)
    (start : NaiveDate) :
    Periodic rule firstOfMonth (monthlyDate rule start weekday) (monthIndexOf start.day) where
  expires := by
    intro index result named
    obtain ⟨date, present, inMonth, isLast, closes⟩ := monthlyDate_eq_ok named
    obtain ⟨lower, upper⟩ := monthIndexOf_eq_iff.mp inMonth
    rw [kind]
    exact ⟨date, present, isLast, closes, lower, upper⟩
  alone := by
    intro index left right leftExpires rightExpires leftLower leftUpper rightLower rightUpper
    rw [kind] at leftExpires rightExpires
    apply IsLastOfMonth.unique leftExpires rightExpires
    rw [monthIndexOf_eq_iff.mpr ⟨leftLower, leftUpper⟩,
      monthIndexOf_eq_iff.mpr ⟨rightLower, rightUpper⟩]

theorem year_eq_iff {date : NaiveDate} {year : Int} :
    date.year = year ↔
      firstOfMonth (12 * year) ≤ date.day ∧ date.day < firstOfMonth (12 * (year + 1)) := by
  obtain ⟨started, ended⟩ := firstOfMonth_monthIndexOf date.day
  have month := date.monthIndexOf_day
  have bounds := date.month_bounds
  constructor
  · rintro rfl
    have lower := firstOfMonth_strictMono.monotone
      (show 12 * date.year ≤ monthIndexOf date.day by omega)
    have upper := firstOfMonth_strictMono.monotone
      (show monthIndexOf date.day + 1 ≤ 12 * (date.year + 1) by omega)
    exact ⟨lower.trans started, ended.trans_le upper⟩
  · rintro ⟨lower, upper⟩
    have notBefore := firstOfMonth_strictMono.lt_iff_lt.mp (lower.trans_lt ended)
    have notAfter := firstOfMonth_strictMono.lt_iff_lt.mp (started.trans_lt upper)
    omega

theorem periodic_yearly {weekday : Weekday} {month : Nat}
    (kind : rule.kind = .yearly weekday month) (start : NaiveDate) :
    Periodic rule (fun year => firstOfMonth (12 * year)) (yearlyDate rule start weekday month)
      start.year where
  expires := by
    have wellFormed := rule.kind_wellFormed
    rw [kind] at wellFormed
    intro index result named
    obtain ⟨date, present, inMonth, isLast, closes⟩ :=
      yearlyDate_eq_ok wellFormed.2.1 wellFormed.2.2 named
    have parts := date.monthIndexOf_day
    have bounds := date.month_bounds
    have inYear := wellFormed.2
    rw [kind]
    exact ⟨date, present, ⟨by omega, isLast⟩, closes, year_eq_iff.mp (by omega)⟩
  alone := by
    intro year left right leftExpires rightExpires leftLower leftUpper rightLower rightUpper
    rw [kind] at leftExpires rightExpires
    apply IsLastOfMonth.unique leftExpires.2 rightExpires.2
    rw [left.monthIndexOf_day, right.monthIndexOf_day, leftExpires.1, rightExpires.1,
      year_eq_iff.mpr ⟨leftLower, leftUpper⟩, year_eq_iff.mpr ⟨rightLower, rightUpper⟩]

theorem accepting_daily (kind : rule.kind = .daily) (calendar : CalendarVersion) :
    Accepting rule calendar fun _ => true where
  expires_iff := by
    intro date
    rw [kind, CalendarVersion.eligibleDate_eq_some]
    simp [ExpiryRuleKind.ExpiresOn]
  closes := by
    intro date
    rw [kind]
    trivial

theorem accepting_weekly {weekdays : List Weekday} (kind : rule.kind = .weekly weekdays)
    (calendar : CalendarVersion) :
    Accepting rule calendar fun date => weekdays.contains date.weekday where
  expires_iff := by
    intro date
    constructor
    · intro expires
      have eligible := expires.eligible rule.kind_wellFormed calendar
      rw [kind] at expires
      exact ⟨List.contains_iff_mem.mpr expires, eligible⟩
    · rintro ⟨accepted, -⟩
      rw [kind]
      exact List.contains_iff_mem.mp accepted
  closes := by
    intro date
    rw [kind]
    trivial

end RollingPlanner

/-- The first day a scan from `start` looks at: the day itself, or the first of its
month or year. -/
def ExpiryRuleKind.scanOrigin (kind : ExpiryRuleKind) (start : NaiveDate) : Int :=
  match kind with
  | .daily | .weekly _ => start.day
  | .monthly _ => firstOfMonth (monthIndexOf start.day)
  | .yearly _ _ => firstOfMonth (12 * start.year)

theorem ExpiryRuleKind.scanOrigin_le (kind : ExpiryRuleKind) (start : NaiveDate) :
    kind.scanOrigin start ≤ start.day := by
  cases kind with
  | daily => exact le_refl _
  | weekly weekdays => exact le_refl _
  | monthly weekday => exact (firstOfMonth_monthIndexOf start.day).1
  | yearly weekday month => exact (RollingPlanner.year_eq_iff.mp rfl).1

namespace RollingPlanner

variable {planner : RollingPlanner} {rule : ExpiryRule} {simulatedAt : UtcDateTime}

theorem reached_start (ordered : planner.ResolvesInOrder simulatedAt) {start : NaiveDate}
    (today : planner.zones.localDate planner.schedule.timezone simulatedAt = some start)
    (rule : ExpiryRule) {origin : Int} (upTo : origin ≤ start.day) :
    planner.Reached rule simulatedAt origin origin OrderedSet.empty where
  collected := Collected.start fun index below => ordered.quiet today (below.trans_le upTo)
  passed := by
    intro date lower upper
    omega

theorem scan_scanned (ordered : planner.ResolvesInOrder simulatedAt) {start : NaiveDate}
    (today : planner.zones.localDate planner.schedule.timezone simulatedAt = some start)
    {wanted : Nat} (positive : 0 < wanted) {result : OrderedSet UtcDateTime}
    (succeeded : planner.scan rule start simulatedAt wanted OrderedSet.empty = .ok result) :
    planner.Scanned rule simulatedAt wanted (rule.kind.scanOrigin start) result := by
  have started := reached_start ordered today rule (rule.kind.scanOrigin_le start)
  unfold scan at succeeded
  cases kind : rule.kind with
  | daily =>
      rw [kind] at succeeded started
      obtain ⟨budget, -, scanned⟩ := bind_eq_ok.mp succeeded
      exact scanDaysFrom_scanned ordered (accepting_daily kind _) started positive scanned
  | weekly weekdays =>
      rw [kind] at succeeded started
      obtain ⟨budget, -, scanned⟩ := bind_eq_ok.mp succeeded
      exact scanDaysFrom_scanned ordered (accepting_weekly kind _) started positive scanned
  | monthly weekday =>
      rw [kind] at succeeded started
      obtain ⟨slots, -, counted⟩ := bind_eq_ok.mp succeeded
      obtain ⟨budget, -, scanned⟩ := bind_eq_ok.mp counted
      refine scanPeriodsFrom_scanned ordered (periodic_monthly kind start) ?_ (Nat.zero_le _)
        scanned
      simpa [ExpiryRuleKind.scanOrigin] using started
  | yearly weekday month =>
      rw [kind] at succeeded started
      obtain ⟨slots, -, counted⟩ := bind_eq_ok.mp succeeded
      obtain ⟨budget, -, scanned⟩ := bind_eq_ok.mp counted
      refine scanPeriodsFrom_scanned ordered (periodic_yearly kind start) ?_ (Nat.zero_le _)
        scanned
      simpa [ExpiryRuleKind.scanOrigin] using started

/-- A projection that succeeds came far enough to collect what the rule asks for. -/
theorem projectRule_reached (ordered : planner.ResolvesInOrder simulatedAt)
    {found : OrderedSet UtcDateTime}
    (succeeded : planner.projectRule rule simulatedAt = .ok found) :
    found.card = rule.targetCount.get ∧ ∃ start bound,
      planner.zones.localDate planner.schedule.timezone simulatedAt = some start ∧
        planner.Reached rule simulatedAt (rule.kind.scanOrigin start) bound found := by
  unfold projectRule at succeeded
  simp only at succeeded
  split at succeeded
  next => cases succeeded
  next start today =>
    obtain ⟨result, lifted, complete⟩ := bind_eq_ok.mp succeeded
    split_ifs at complete with short
    cases complete
    obtain ⟨⟨bound, reached⟩, within⟩ :=
      scan_scanned ordered today rule.targetCount.pos (lift_eq_ok.mp lifted)
    exact ⟨le_antisymm within (not_lt.mp short), start, bound, today, reached⟩

/-- A projection that succeeds yields the rule's first expirations after the
simulated instant, as many as the rule asks for. -/
theorem projectRule_firstAfter (ordered : planner.ResolvesInOrder simulatedAt)
    {found : OrderedSet UtcDateTime}
    (succeeded : planner.projectRule rule simulatedAt = .ok found) :
    FirstAfter (planner.expirationsOf rule) simulatedAt rule.targetCount.get found.toList := by
  obtain ⟨count, start, bound, -, reached⟩ := projectRule_reached ordered succeeded
  rw [← count]
  exact reached.collected.firstAfter (ordered.sequence_increasing rule)

end RollingPlanner

end OptionChainSimulator.Domain.Expiry
