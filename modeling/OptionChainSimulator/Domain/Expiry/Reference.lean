import Mathlib.Tactic
import OptionChainSimulator.Foundation.FirstAfter
import OptionChainSimulator.Domain.Expiry.Planner

namespace OptionChainSimulator.Domain.Expiry

open Foundation Foundation.CivilCalendar Utils Domain

/-! What a rule means, apart from how it is scanned: the dates it expires on, the
instants they resolve to, and the first ones after a simulated instant. -/

/-- The last date of its month that falls on `weekday`. -/
def IsLastOfMonth (weekday : Weekday) (date : NaiveDate) : Prop :=
  date.weekday = weekday ∧
    ∀ day, date.day < day → monthIndexOf day = monthIndexOf date.day → weekdayOf day ≠ weekday

theorem isLastOfMonth_iff {weekday : Weekday} {date : NaiveDate} :
    IsLastOfMonth weekday date ↔
      date.weekday = weekday ∧ firstOfMonth (monthIndexOf date.day + 1) ≤ date.day + 7 := by
  obtain ⟨started, -⟩ := firstOfMonth_monthIndexOf date.day
  constructor
  · rintro ⟨onWeekday, last⟩
    refine ⟨onWeekday, ?_⟩
    by_contra sameMonth
    refine last (date.day + 7) (by omega) (monthIndexOf_eq_iff.mpr ⟨by omega, by omega⟩) ?_
    rw [← onWeekday]
    exact weekdayOf_eq_iff.mpr (by omega)
  · rintro ⟨onWeekday, close⟩
    refine ⟨onWeekday, ?_⟩
    intro day after sameMonth sameWeekday
    have ended := (monthIndexOf_eq_iff.mp sameMonth).2
    rw [← onWeekday] at sameWeekday
    have apart := weekdayOf_eq_iff.mp sameWeekday
    omega

/-- The last weekday of a later month is three weeks away. -/
theorem far_of_isLastOfMonth {weekday : Weekday} {start date : NaiveDate}
    (isLast : IsLastOfMonth weekday date)
    (later : monthIndexOf start.day < monthIndexOf date.day) : start.day + 21 < date.day := by
  have close := (isLastOfMonth_iff.mp isLast).2
  have long := (firstOfMonth_succ (monthIndexOf date.day)).1
  have ended := (firstOfMonth_monthIndexOf start.day).2
  have after := firstOfMonth_strictMono.monotone (Int.add_one_le_iff.mpr later)
  omega

instance (weekday : Weekday) (date : NaiveDate) : Decidable (IsLastOfMonth weekday date) :=
  decidable_of_iff _ isLastOfMonth_iff.symm

theorem IsLastOfMonth.unique {weekday : Weekday} {first second : NaiveDate}
    (firstLast : IsLastOfMonth weekday first) (secondLast : IsLastOfMonth weekday second)
    (sameMonth : monthIndexOf first.day = monthIndexOf second.day) : first = second := by
  apply NaiveDate.day_injective
  rcases lt_trichotomy first.day second.day with below | equal | above
  · exact absurd secondLast.1 (firstLast.2 second.day below sameMonth.symm)
  · exact equal
  · exact absurd firstLast.1 (secondLast.2 first.day above sameMonth)

def ExpiryRuleKind.ExpiresOn (kind : ExpiryRuleKind) (date : NaiveDate) : Prop :=
  match kind with
  | .daily => date.weekday ≠ .sat ∧ date.weekday ≠ .sun
  | .weekly weekdays => date.weekday ∈ weekdays
  | .monthly weekday => IsLastOfMonth weekday date
  | .yearly weekday month => date.month = month ∧ IsLastOfMonth weekday date

instance (kind : ExpiryRuleKind) (date : NaiveDate) : Decidable (kind.ExpiresOn date) :=
  match kind with
  | .daily => inferInstanceAs (Decidable (_ ∧ _))
  | .weekly _ => inferInstanceAs (Decidable (_ ∈ _))
  | .monthly _ => inferInstanceAs (Decidable (IsLastOfMonth _ date))
  | .yearly _ _ => inferInstanceAs (Decidable (_ ∧ IsLastOfMonth _ date))

/-- No rule expires on a weekend, so the calendar adjusts none of its dates. -/
theorem ExpiryRuleKind.ExpiresOn.eligible {kind : ExpiryRuleKind} {date : NaiveDate}
    (expires : kind.ExpiresOn date) (wellFormed : kind.WellFormed) (calendar : CalendarVersion) :
    calendar.eligibleDate date = some date := by
  refine CalendarVersion.eligibleDate_eq_some.mpr ⟨rfl, ?_⟩
  cases kind with
  | daily => exact expires
  | weekly weekdays => exact wellFormed.2 date.weekday expires
  | monthly weekday =>
      rw [expires.1]
      exact wellFormed
  | yearly weekday month =>
      rw [expires.2.1]
      exact wellFormed.1

/-- The scan of a monthly or yearly rule reads the first day of the month after the
one it looks at. -/
def ExpiryRuleKind.Closes (kind : ExpiryRuleKind) (date : NaiveDate) : Prop :=
  match kind with
  | .daily | .weekly _ => True
  | .monthly _ | .yearly _ _ => firstOfMonth (monthIndexOf date.day + 1) ≤ maxDay

namespace RollingPlanner

variable {planner : RollingPlanner} {rule : ExpiryRule} {simulatedAt : UtcDateTime}

/-- The instant the expiration time resolves to on a date: the earlier one in a
fold, the end of the gap in a gap. -/
def resolution (planner : RollingPlanner) (date : NaiveDate) : Option UtcDateTime :=
  let localTime : NaiveDateTime := ⟨date, planner.schedule.expirationTime⟩
  match (planner.zones.fromLocalDatetime planner.schedule.timezone localTime).earliest with
  | some resolved => some resolved
  | none => planner.zones.gapEnd localTime planner.schedule.timezone

@[simp] theorem instantFor_eq_ok {date : NaiveDate} {instant : UtcDateTime} :
    planner.instantFor rule date = .ok instant ↔ planner.resolution date = some instant := by
  unfold instantFor resolution
  simp only
  cases (planner.zones.fromLocalDatetime planner.schedule.timezone
    ⟨date, planner.schedule.expirationTime⟩).earliest with
  | some resolved => simp
  | none => simp

/-- The infinite expiration sequence of a rule, by day number. -/
def expirationOn (planner : RollingPlanner) (rule : ExpiryRule) (day : Int) :
    Option UtcDateTime :=
  match NaiveDate.ofDay? day with
  | some date => if rule.kind.ExpiresOn date then planner.resolution date else none
  | none => none

def expirationsOf (planner : RollingPlanner) (rule : ExpiryRule) : Set UtcDateTime :=
  valuesOf (planner.expirationOn rule)

theorem expirationOn_eq_some {day : Int} {instant : UtcDateTime} :
    planner.expirationOn rule day = some instant ↔
      ∃ date : NaiveDate, date.day = day ∧ rule.kind.ExpiresOn date ∧
        planner.resolution date = some instant := by
  unfold expirationOn
  cases found : NaiveDate.ofDay? day with
  | none =>
      simp only [reduceCtorEq, false_iff, not_exists, not_and]
      intro date same
      rw [NaiveDate.ofDay?_eq_some.mpr same] at found
      cases found
  | some date =>
      have dayOf := NaiveDate.ofDay?_eq_some.mp found
      constructor
      · intro present
        simp only [Option.ite_none_right_eq_some] at present
        exact ⟨date, dayOf, present⟩
      · rintro ⟨other, otherDay, present⟩
        have same : other = date := NaiveDate.day_injective (otherDay.trans dayOf.symm)
        simp only [Option.ite_none_right_eq_some]
        rwa [same] at present

theorem mem_expirationsOf {instant : UtcDateTime} :
    instant ∈ planner.expirationsOf rule ↔
      ∃ date : NaiveDate, rule.kind.ExpiresOn date ∧ planner.resolution date = some instant := by
  constructor
  · rintro ⟨day, present⟩
    obtain ⟨date, -, held⟩ := expirationOn_eq_some.mp present
    exact ⟨date, held⟩
  · rintro ⟨date, held⟩
    exact ⟨date.day, expirationOn_eq_some.mpr ⟨date, rfl, held⟩⟩

/-- What the planner relies on the zone database for, at one simulated instant. -/
structure ResolvesInOrder (planner : RollingPlanner) (simulatedAt : UtcDateTime) : Prop where
  increasing : ∀ {earlier later : NaiveDate} {first second : UtcDateTime}, earlier < later →
    planner.schedule.calendar.eligibleDate earlier = some earlier →
    planner.schedule.calendar.eligibleDate later = some later →
    planner.resolution earlier = some first → planner.resolution later = some second →
    first < second
  before : ∀ {start date : NaiveDate} {instant : UtcDateTime},
    planner.zones.localDate planner.schedule.timezone simulatedAt = some start →
    date < start → planner.resolution date = some instant → instant ≤ simulatedAt

theorem ResolvesInOrder.sequence_increasing (ordered : planner.ResolvesInOrder simulatedAt)
    (rule : ExpiryRule) : Increasing (planner.expirationOn rule) := by
  intro first second left right below firstPresent secondPresent
  obtain ⟨earlier, rfl, earlierExpires, earlierResolves⟩ := expirationOn_eq_some.mp firstPresent
  obtain ⟨later, rfl, laterExpires, laterResolves⟩ := expirationOn_eq_some.mp secondPresent
  exact ordered.increasing (NaiveDate.lt_iff.mpr below)
    (earlierExpires.eligible rule.kind_wellFormed _)
    (laterExpires.eligible rule.kind_wellFormed _) earlierResolves laterResolves

/-- Nothing a rule expires on before the local date is still alive. -/
theorem ResolvesInOrder.quiet (ordered : planner.ResolvesInOrder simulatedAt)
    {start : NaiveDate}
    (today : planner.zones.localDate planner.schedule.timezone simulatedAt = some start)
    {day : Int} (earlier : day < start.day) :
    ¬ LiveAt (planner.expirationOn rule) simulatedAt day := by
  rintro ⟨instant, present, live⟩
  obtain ⟨date, rfl, -, resolves⟩ := expirationOn_eq_some.mp present
  exact absurd live (not_lt.mpr (ordered.before today (NaiveDate.lt_iff.mpr earlier) resolves))

/-! ### One date of a scan -/

theorem collect_ineligible {date : NaiveDate} {found : OrderedSet UtcDateTime}
    (weekend : planner.schedule.calendar.eligibleDate date = none) :
    planner.collect rule simulatedAt date found = .ok found := by
  unfold collect
  rw [weekend]

theorem collect_eligible {date : NaiveDate} {found result : OrderedSet UtcDateTime}
    (eligible : planner.schedule.calendar.eligibleDate date = some date) :
    planner.collect rule simulatedAt date found = .ok result ↔
      ∃ instant, planner.resolution date = some instant ∧
        result = if simulatedAt < instant then found.insert instant else found := by
  unfold collect
  rw [eligible]
  simp only [bind_eq_ok, instantFor_eq_ok]
  constructor
  · rintro ⟨instant, resolves, kept⟩
    cases kept
    exact ⟨instant, resolves, rfl⟩
  · rintro ⟨instant, resolves, rfl⟩
    exact ⟨instant, resolves, rfl⟩

theorem collected_collect (ordered : planner.ResolvesInOrder simulatedAt)
    {bound next : Int} {date : NaiveDate} {found result : OrderedSet UtcDateTime}
    (collected : Collected (planner.expirationOn rule) simulatedAt bound found)
    (expires : rule.kind.ExpiresOn date) (later : bound ≤ date.day) (below : date.day < next)
    (alone : ∀ other : NaiveDate, bound ≤ other.day → other.day < next →
      rule.kind.ExpiresOn other → other = date)
    {instant : UtcDateTime} (resolves : planner.resolution date = some instant)
    (kept : result = if simulatedAt < instant then found.insert instant else found) :
    Collected (planner.expirationOn rule) simulatedAt next result ∧
      result.card = found.card + if simulatedAt < instant then 1 else 0 := by
  have present : planner.expirationOn rule date.day = some instant :=
    expirationOn_eq_some.mpr ⟨date, rfl, expires, resolves⟩
  have others : ∀ day, bound ≤ day → day < next → day ≠ date.day →
      ¬ LiveAt (planner.expirationOn rule) simulatedAt day := by
    rintro day lower upper different ⟨value, held, -⟩
    obtain ⟨other, rfl, otherExpires, -⟩ := expirationOn_eq_some.mp held
    exact different (congrArg NaiveDate.day (alone other lower upper otherExpires))
  subst kept
  split_ifs with live
  · refine ⟨collected.add later below present live others, ?_⟩
    have fresh := collected.fresh (ordered.sequence_increasing rule) later present
    exact OrderedSet.card_insert_of_notMem fresh
  · refine ⟨collected.skip (later.trans below.le) ?_, rfl⟩
    intro day lower upper
    by_cases same : day = date.day
    · rintro ⟨value, held, valueLive⟩
      rw [same, present] at held
      cases held
      exact live valueLive
    · exact others day lower upper same

/-! ### The two scans -/

/-- A scan can pass a date the rule expires on. -/
def Passable (planner : RollingPlanner) (rule : ExpiryRule) (date : NaiveDate) : Prop :=
  (∃ instant, planner.resolution date = some instant) ∧ rule.kind.Closes date

/-- How far a scan that started at `origin` has come: everything alive before `bound`
is collected, and every date it met on the way could be passed. -/
structure Reached (planner : RollingPlanner) (rule : ExpiryRule) (simulatedAt : UtcDateTime)
    (origin bound : Int) (found : OrderedSet UtcDateTime) : Prop where
  collected : Collected (planner.expirationOn rule) simulatedAt bound found
  passed : ∀ date : NaiveDate, origin ≤ date.day → date.day < bound →
    rule.kind.ExpiresOn date → planner.Passable rule date

/-- What a scan leaves behind: it came some way, and collected no more than it was
asked for. -/
def Scanned (planner : RollingPlanner) (rule : ExpiryRule) (simulatedAt : UtcDateTime)
    (wanted : Nat) (origin : Int) (found : OrderedSet UtcDateTime) : Prop :=
  (∃ bound, planner.Reached rule simulatedAt origin bound found) ∧ found.card ≤ wanted

/-- The day predicate of a scan agrees with the meaning of the rule on the days the
calendar keeps, and the rule needs nothing of the month after a date. -/
structure Accepting (rule : ExpiryRule) (calendar : CalendarVersion)
    (accepts : NaiveDate → Bool) : Prop where
  expires_iff : ∀ date, rule.kind.ExpiresOn date ↔
    accepts date = true ∧ calendar.eligibleDate date = some date
  closes : ∀ date, rule.kind.Closes date

theorem visitDay_idle {accepts : NaiveDate → Bool}
    (accepting : Accepting rule planner.schedule.calendar accepts) {date : NaiveDate}
    (idle : ¬ rule.kind.ExpiresOn date) (found : OrderedSet UtcDateTime) :
    planner.visitDay rule simulatedAt accepts date found = .ok found := by
  unfold visitDay
  split_ifs with accepted
  · cases eligible : planner.schedule.calendar.eligibleDate date with
    | none => exact collect_ineligible eligible
    | some other =>
        obtain ⟨rfl, -⟩ := CalendarVersion.eligibleDate_eq_some.mp eligible
        exact absurd ((accepting.expires_iff other).mpr ⟨accepted, eligible⟩) idle
  · rfl

theorem visitDay_expires {accepts : NaiveDate → Bool}
    (accepting : Accepting rule planner.schedule.calendar accepts) {date : NaiveDate}
    (expires : rule.kind.ExpiresOn date) {found result : OrderedSet UtcDateTime} :
    planner.visitDay rule simulatedAt accepts date found = .ok result ↔
      ∃ instant, planner.resolution date = some instant ∧
        result = if simulatedAt < instant then found.insert instant else found := by
  unfold visitDay
  rw [if_pos ((accepting.expires_iff date).mp expires).1]
  exact collect_eligible (expires.eligible rule.kind_wellFormed _)

section Days

variable {accepts : NaiveDate → Bool} {origin : Int} {date : NaiveDate}
  {found result : OrderedSet UtcDateTime}

theorem reached_idle (reached : planner.Reached rule simulatedAt origin date.day found)
    (idle : ¬ rule.kind.ExpiresOn date) :
    planner.Reached rule simulatedAt origin (date.day + 1) found where
  collected := by
    refine reached.collected.skip (by omega) ?_
    rintro day lower upper ⟨value, held, -⟩
    obtain ⟨other, rfl, otherExpires, -⟩ := expirationOn_eq_some.mp held
    have same : other = date := NaiveDate.day_injective (by omega)
    exact idle (same ▸ otherExpires)
  passed := by
    intro other lower upper otherExpires
    rcases (Int.lt_add_one_iff.mp upper).lt_or_eq with earlier | same
    · exact reached.passed other lower earlier otherExpires
    · rw [NaiveDate.day_injective same] at otherExpires
      exact absurd otherExpires idle

theorem reached_expires (ordered : planner.ResolvesInOrder simulatedAt)
    (accepting : Accepting rule planner.schedule.calendar accepts)
    (reached : planner.Reached rule simulatedAt origin date.day found)
    (expires : rule.kind.ExpiresOn date) {instant : UtcDateTime}
    (resolves : planner.resolution date = some instant)
    (kept : result = if simulatedAt < instant then found.insert instant else found) :
    planner.Reached rule simulatedAt origin (date.day + 1) result ∧
      result.card = found.card + if simulatedAt < instant then 1 else 0 := by
  obtain ⟨collected, grown⟩ := collected_collect ordered reached.collected expires (le_refl _)
    (Int.lt_succ date.day)
    (fun other lower upper _ => NaiveDate.day_injective (by omega)) resolves kept
  refine ⟨⟨collected, ?_⟩, grown⟩
  intro other lower upper otherExpires
  rcases (Int.lt_add_one_iff.mp upper).lt_or_eq with earlier | same
  · exact reached.passed other lower earlier otherExpires
  · rw [NaiveDate.day_injective same]
    exact ⟨⟨instant, resolves⟩, accepting.closes date⟩

theorem visitDay_reached (ordered : planner.ResolvesInOrder simulatedAt)
    (accepting : Accepting rule planner.schedule.calendar accepts)
    (reached : planner.Reached rule simulatedAt origin date.day found)
    (succeeded : planner.visitDay rule simulatedAt accepts date found = .ok result) :
    planner.Reached rule simulatedAt origin (date.day + 1) result ∧
      result.card ≤ found.card + 1 := by
  by_cases expires : rule.kind.ExpiresOn date
  · obtain ⟨instant, resolves, kept⟩ := (visitDay_expires accepting expires).mp succeeded
    obtain ⟨further, grown⟩ := reached_expires ordered accepting reached expires resolves kept
    refine ⟨further, ?_⟩
    split_ifs at grown <;> omega
  · rw [visitDay_idle accepting expires] at succeeded
    cases succeeded
    exact ⟨reached_idle reached expires, Nat.le_succ _⟩

theorem scanDaysFrom_scanned (ordered : planner.ResolvesInOrder simulatedAt) {wanted : Nat}
    (accepting : Accepting rule planner.schedule.calendar accepts) {budget : Nat}
    (reached : planner.Reached rule simulatedAt origin date.day found)
    (short : found.card < wanted)
    (succeeded : planner.scanDaysFrom rule simulatedAt wanted accepts budget date found =
      .ok result) :
    planner.Scanned rule simulatedAt wanted origin result := by
  induction budget generalizing date found with
  | zero =>
      cases succeeded
      exact ⟨⟨_, reached⟩, short.le⟩
  | succ budget ih =>
      rw [scanDaysFrom] at succeeded
      obtain ⟨grown, visited, rest⟩ := bind_eq_ok.mp succeeded
      obtain ⟨further, bound⟩ := visitDay_reached ordered accepting reached visited
      split_ifs at rest with enough
      · cases rest
        exact ⟨⟨_, further⟩, by omega⟩
      · obtain ⟨next, added, scanned⟩ := bind_eq_ok.mp rest
        have dayAfter : next.day = date.day + 1 :=
          NaiveDate.ofDay?_eq_some.mp (okOr_eq_ok.mp added)
        rw [← dayAfter] at further
        exact ih further (not_le.mp enough) scanned

end Days

/-- The dates a period scan visits: one for each period, the only one of its period
that the rule expires on. -/
structure Periodic (rule : ExpiryRule) (first : Int → Int)
    (dateFor : Nat → Except ChainError (Option NaiveDate)) (origin : Int) : Prop where
  expires : ∀ {index : Nat} {result : Option NaiveDate}, dateFor index = .ok result →
    ∃ date, result = some date ∧ rule.kind.ExpiresOn date ∧ rule.kind.Closes date ∧
      first (origin + index) ≤ date.day ∧ date.day < first (origin + index + 1)
  alone : ∀ {index : Int} {left right : NaiveDate}, rule.kind.ExpiresOn left →
    rule.kind.ExpiresOn right → first index ≤ left.day → left.day < first (index + 1) →
    first index ≤ right.day → right.day < first (index + 1) → left = right

section Periods

variable {first : Int → Int} {origin : Int}
  {dateFor : Nat → Except ChainError (Option NaiveDate)} {index : Nat}
  {found result : OrderedSet UtcDateTime}

theorem reached_period (ordered : planner.ResolvesInOrder simulatedAt)
    (periodic : Periodic rule first dateFor origin)
    (reached : planner.Reached rule simulatedAt (first origin) (first (origin + index)) found)
    {date : NaiveDate} (expires : rule.kind.ExpiresOn date) (closes : rule.kind.Closes date)
    (lower : first (origin + index) ≤ date.day) (upper : date.day < first (origin + index + 1))
    {instant : UtcDateTime} (resolves : planner.resolution date = some instant)
    (kept : result = if simulatedAt < instant then found.insert instant else found) :
    planner.Reached rule simulatedAt (first origin) (first (origin + (index + 1 : Nat))) result ∧
      result.card = found.card + if simulatedAt < instant then 1 else 0 := by
  have next : origin + ((index + 1 : Nat) : Int) = origin + index + 1 := by
    push_cast
    ring
  have alone : ∀ other : NaiveDate, first (origin + index) ≤ other.day →
      other.day < first (origin + index + 1) → rule.kind.ExpiresOn other → other = date :=
    fun other otherLower otherUpper otherExpires =>
      periodic.alone otherExpires expires otherLower otherUpper lower upper
  obtain ⟨collected, grown⟩ :=
    collected_collect ordered reached.collected expires lower upper alone resolves kept
  rw [next]
  refine ⟨⟨collected, ?_⟩, grown⟩
  intro other otherLower otherUpper otherExpires
  rcases lt_or_ge other.day (first (origin + index)) with earlier | later
  · exact reached.passed other otherLower earlier otherExpires
  · rw [alone other later otherUpper otherExpires]
    exact ⟨⟨instant, resolves⟩, closes⟩

theorem scanPeriodsFrom_scanned (ordered : planner.ResolvesInOrder simulatedAt) {wanted : Nat}
    (periodic : Periodic rule first dateFor origin) {budget : Nat}
    (reached : planner.Reached rule simulatedAt (first origin) (first (origin + index)) found)
    (within : found.card ≤ wanted)
    (succeeded : planner.scanPeriodsFrom rule simulatedAt wanted dateFor budget index found =
      .ok result) :
    planner.Scanned rule simulatedAt wanted (first origin) result := by
  induction budget generalizing index found with
  | zero =>
      cases succeeded
      exact ⟨⟨_, reached⟩, within⟩
  | succ budget ih =>
      rw [scanPeriodsFrom] at succeeded
      split_ifs at succeeded with enough
      · cases succeeded
        exact ⟨⟨_, reached⟩, within⟩
      · obtain ⟨candidate, named, visiting⟩ := bind_eq_ok.mp succeeded
        obtain ⟨grown, visited, rest⟩ := bind_eq_ok.mp visiting
        obtain ⟨date, rfl, expires, closes, lower, upper⟩ := periodic.expires named
        obtain ⟨instant, resolves, kept⟩ :=
          (collect_eligible (expires.eligible rule.kind_wellFormed _)).mp visited
        obtain ⟨further, count⟩ :=
          reached_period ordered periodic reached expires closes lower upper resolves kept
        refine ih further ?_ rest
        split_ifs at count <;> omega

end Periods

end RollingPlanner

end OptionChainSimulator.Domain.Expiry
