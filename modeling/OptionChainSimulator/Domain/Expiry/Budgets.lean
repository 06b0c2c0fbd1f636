import Mathlib.Tactic
import OptionChainSimulator.Domain.Expiry.Reach

namespace OptionChainSimulator.Domain.Expiry

open Foundation Foundation.CivilCalendar Utils Domain

/-! A calendar that goes on for as long as a scan may look is enough for it. -/

/-- How far a scan for so many expirations may look, with a period to spare. -/
def ExpiryRuleKind.scanEnd (kind : ExpiryRuleKind) (start : NaiveDate) (wanted : Nat) : Int :=
  match kind with
  | .daily | .weekly _ => start.day + (8 * wanted + 32)
  | .monthly _ => firstOfMonth (monthIndexOf start.day + (wanted + 3))
  | .yearly _ _ => firstOfMonth (12 * (start.year + (wanted + 3)))

namespace RollingPlanner

variable {planner : RollingPlanner} {rule : ExpiryRule} {simulatedAt : UtcDateTime}
  {start : NaiveDate}

/-- Every date the rule expires on, as far as a scan may look, resolves. -/
def ResolvesWithin (planner : RollingPlanner) (rule : ExpiryRule) (start : NaiveDate) : Prop :=
  ∀ date : NaiveDate, rule.kind.scanOrigin start ≤ date.day →
    date.day < rule.kind.scanEnd start rule.targetCount.get → rule.kind.ExpiresOn date →
      ∃ instant, planner.resolution date = some instant

theorem liveAt_of_expires (offsets : OffsetsWithinADay planner.zones)
    (today : planner.zones.localDate planner.schedule.timezone simulatedAt = some start)
    (resolves : planner.ResolvesWithin rule start) {date : NaiveDate}
    (expires : rule.kind.ExpiresOn date) (far : start.day + 3 ≤ date.day)
    (within : date.day < rule.kind.scanEnd start rule.targetCount.get) :
    LiveAt (planner.expirationOn rule) simulatedAt date.day := by
  have origin := rule.kind.scanOrigin_le start
  obtain ⟨instant, resolved⟩ := resolves date (by omega) within expires
  exact ⟨instant, expirationOn_eq_some.mpr ⟨date, rfl, expires, resolved⟩,
    alive_of_far offsets today far resolved⟩

theorem inReach_of_stretches (ordered : planner.ResolvesInOrder simulatedAt)
    (offsets : OffsetsWithinADay planner.zones)
    (today : planner.zones.localDate planner.schedule.timezone simulatedAt = some start)
    (resolves : planner.ResolvesWithin rule start) (ends : Nat → Nat) (growing : Monotone ends)
    (stretches : ∀ stretch < rule.targetCount.get, ∃ date : NaiveDate,
      rule.kind.ExpiresOn date ∧ start.day + 3 ≤ date.day ∧
        start.day + ends stretch ≤ date.day ∧ date.day < start.day + ends (stretch + 1))
    (within : start.day + ends rule.targetCount.get ≤
      rule.kind.scanEnd start rule.targetCount.get)
    (closes : ∀ date : NaiveDate, rule.kind.ExpiresOn date →
      date.day < start.day + ends rule.targetCount.get → rule.kind.Closes date) :
    planner.InReach rule simulatedAt := by
  have increasing : Increasing (planner.expirationOn rule) := ordered.sequence_increasing rule
  have quiet : ∀ index < start.day,
      ¬ LiveAt (planner.expirationOn rule) simulatedAt index := fun index below =>
    ordered.quiet today below
  have enough : rule.targetCount.get ≤ (collectUpTo (planner.expirationOn rule) simulatedAt
      start.day (ends rule.targetCount.get)).card := by
    apply le_card_of_stretches increasing quiet
    intro stretch below
    obtain ⟨date, expires, far, lower, upper⟩ := stretches stretch below
    have last := growing (show stretch + 1 ≤ rule.targetCount.get from below)
    refine ⟨(date.day - start.day).toNat, by omega, by omega, ?_⟩
    have day : start.day + ((date.day - start.day).toNat : Int) = date.day := by omega
    rw [day]
    exact liveAt_of_expires offsets today resolves expires far (by omega)
  obtain ⟨values, first, inside⟩ := exists_firstAfter increasing quiet enough
  refine ⟨start, values, today, first, ?_⟩
  intro date last instant member lower upTo expires lastExpires lastResolves
  obtain ⟨index, below, held⟩ := inside instant member
  obtain ⟨other, rfl, otherExpires, otherResolves⟩ := expirationOn_eq_some.mp held
  have lastWithin : last.day ≤ other.day := by
    by_contra beyond
    exact lt_irrefl instant (ordered.increasing (NaiveDate.lt_iff.mpr (not_le.mp beyond))
      (otherExpires.eligible rule.kind_wellFormed _)
      (lastExpires.eligible rule.kind_wellFormed _) otherResolves lastResolves)
  have dateWithin : date.day ≤ last.day := upTo
  exact ⟨resolves date lower (by omega) expires, closes date expires (by omega)⟩

theorem inReach_of_everyWeek (ordered : planner.ResolvesInOrder simulatedAt)
    (offsets : OffsetsWithinADay planner.zones)
    (today : planner.zones.localDate planner.schedule.timezone simulatedAt = some start)
    (resolves : planner.ResolvesWithin rule start) (weekly : EveryWeek rule)
    (far : rule.kind.scanEnd start rule.targetCount.get =
      start.day + (8 * rule.targetCount.get + 32))
    (representable : rule.kind.scanEnd start rule.targetCount.get ≤ maxDay)
    (closes : ∀ date : NaiveDate, rule.kind.Closes date) :
    planner.InReach rule simulatedAt := by
  have lowest := start.lower
  apply inReach_of_stretches ordered offsets today resolves fun stretch => 3 + 7 * stretch
  · intro earlier later upTo
    dsimp only
    omega
  · intro stretch below
    obtain ⟨date, lower, upper, expires⟩ :=
      weekly (start.day + 3 + 7 * stretch) (by omega) (by omega)
    exact ⟨date, expires, by omega, by push_cast; omega, by push_cast; omega⟩
  · rw [far]
    push_cast
    omega
  · intro date _ _
    exact closes date

theorem inReach_of_periods (ordered : planner.ResolvesInOrder simulatedAt)
    (offsets : OffsetsWithinADay planner.zones)
    (today : planner.zones.localDate planner.schedule.timezone simulatedAt = some start)
    (resolves : planner.ResolvesWithin rule start) {first : Int → Int} {origin : Int}
    (rising : Monotone first) (started : start.day < first (origin + 1))
    (far : rule.kind.scanEnd start rule.targetCount.get =
      first (origin + (rule.targetCount.get + 3)))
    (expiring : ∀ stretch < rule.targetCount.get, ∃ date : NaiveDate,
      rule.kind.ExpiresOn date ∧ start.day + 3 ≤ date.day ∧
        first (origin + stretch + 1) ≤ date.day ∧ date.day < first (origin + stretch + 1 + 1))
    (closes : ∀ date : NaiveDate, rule.kind.ExpiresOn date →
      date.day < first (origin + rule.targetCount.get + 1) → rule.kind.Closes date) :
    planner.InReach rule simulatedAt := by
  have after : ∀ stretch : Nat, start.day < first (origin + stretch + 1) := by
    intro stretch
    exact started.trans_le (rising (by omega))
  have ends : ∀ stretch : Nat, start.day +
      (((first (origin + stretch + 1) - start.day).toNat : Nat) : Int) =
        first (origin + stretch + 1) := by
    intro stretch
    have := after stretch
    omega
  apply inReach_of_stretches ordered offsets today resolves
    fun stretch => (first (origin + stretch + 1) - start.day).toNat
  · intro earlier later upTo
    have := rising (show origin + (earlier : Int) + 1 ≤ origin + later + 1 by omega)
    dsimp only
    omega
  · intro stretch below
    obtain ⟨date, expires, ahead, lower, upper⟩ := expiring stretch below
    refine ⟨date, expires, ahead, ?_, ?_⟩
    · rw [ends]
      exact lower
    · rw [ends, Nat.cast_succ, ← add_assoc]
      exact upper
  · rw [ends, far]
    exact rising (by omega)
  · intro date expires below
    rw [ends] at below
    exact closes date expires below

theorem inReach_monthly {weekday : Weekday} (kind : rule.kind = .monthly weekday)
    (ordered : planner.ResolvesInOrder simulatedAt)
    (offsets : OffsetsWithinADay planner.zones)
    (today : planner.zones.localDate planner.schedule.timezone simulatedAt = some start)
    (resolves : planner.ResolvesWithin rule start)
    (representable : rule.kind.scanEnd start rule.targetCount.get ≤ maxDay) :
    planner.InReach rule simulatedAt := by
  have far : rule.kind.scanEnd start rule.targetCount.get =
      firstOfMonth (monthIndexOf start.day + (rule.targetCount.get + 3)) := by
    rw [kind]
    rfl
  have lowest := start.monthIndexOf_bounds
  have started := (firstOfMonth_monthIndexOf start.day).2
  have within : ∀ {index : Int}, index ≤ monthIndexOf start.day + (rule.targetCount.get + 3) →
      firstOfMonth index ≤ maxDay := by
    intro index upTo
    exact (firstOfMonth_strictMono.monotone upTo).trans (far ▸ representable)
  apply inReach_of_periods ordered offsets today resolves firstOfMonth_strictMono.monotone started
    far
  · intro stretch below
    obtain ⟨date, inMonth, isLast⟩ := @exists_lastOfMonth
      (monthIndexOf start.day + stretch + 1) weekday (by omega) (within (by omega))
    obtain ⟨lower, upper⟩ := monthIndexOf_eq_iff.mp inMonth
    have away := @far_of_isLastOfMonth _ start date isLast (by omega)
    refine ⟨date, ?_, by omega, lower, upper⟩
    rw [kind]
    exact isLast
  · intro date _ below
    have started := (firstOfMonth_monthIndexOf date.day).1
    have month := firstOfMonth_strictMono.lt_iff_lt.mp (started.trans_lt below)
    rw [kind]
    exact within (by omega)

theorem inReach_yearly {weekday : Weekday} {month : Nat}
    (kind : rule.kind = .yearly weekday month) (ordered : planner.ResolvesInOrder simulatedAt)
    (offsets : OffsetsWithinADay planner.zones)
    (today : planner.zones.localDate planner.schedule.timezone simulatedAt = some start)
    (resolves : planner.ResolvesWithin rule start)
    (representable : rule.kind.scanEnd start rule.targetCount.get ≤ maxDay) :
    planner.InReach rule simulatedAt := by
  have wellFormed := rule.kind_wellFormed
  rw [kind] at wellFormed
  obtain ⟨-, monthLower, monthUpper⟩ := wellFormed
  have far : rule.kind.scanEnd start rule.targetCount.get =
      firstOfMonth (12 * (start.year + (rule.targetCount.get + 3))) := by
    rw [kind]
    rfl
  have lowest := start.monthIndexOf_bounds
  have started := start.monthIndexOf_day
  have months := start.month_bounds
  have within : ∀ {index : Int}, index ≤ 12 * (start.year + (rule.targetCount.get + 3)) →
      firstOfMonth index ≤ maxDay := by
    intro index upTo
    exact (firstOfMonth_strictMono.monotone upTo).trans (far ▸ representable)
  have rising : Monotone fun year : Int => firstOfMonth (12 * year) := by
    intro earlier later upTo
    exact firstOfMonth_strictMono.monotone (by omega)
  apply inReach_of_periods ordered offsets today resolves rising (year_eq_iff.mp rfl).2 far
  · intro stretch below
    obtain ⟨date, inMonth, isLast⟩ := @exists_lastOfMonth
      (12 * (start.year + stretch + 1) + month - 1) weekday (by omega) (within (by omega))
    have parts := date.monthIndexOf_day
    have bounds := date.month_bounds
    obtain ⟨lower, upper⟩ := year_eq_iff.mp (show date.year = start.year + stretch + 1 by omega)
    have away := @far_of_isLastOfMonth _ start date isLast (by omega)
    refine ⟨date, ?_, by omega, lower, upper⟩
    rw [kind]
    exact ⟨by omega, isLast⟩
  · intro date _ below
    have begun := (firstOfMonth_monthIndexOf date.day).1
    have index := firstOfMonth_strictMono.lt_iff_lt.mp (begun.trans_lt below)
    rw [kind]
    exact within (by omega)

theorem inReach_of_scanEnd (ordered : planner.ResolvesInOrder simulatedAt)
    (offsets : OffsetsWithinADay planner.zones)
    (today : planner.zones.localDate planner.schedule.timezone simulatedAt = some start)
    (resolves : planner.ResolvesWithin rule start)
    (representable : rule.kind.scanEnd start rule.targetCount.get ≤ maxDay) :
    planner.InReach rule simulatedAt := by
  cases kind : rule.kind with
  | daily =>
      apply inReach_of_everyWeek ordered offsets today resolves (everyWeek_daily kind) _
        representable (accepting_daily kind .weekdaysV1).closes
      rw [kind]
      rfl
  | weekly weekdays =>
      apply inReach_of_everyWeek ordered offsets today resolves (everyWeek_weekly kind) _
        representable (accepting_weekly kind .weekdaysV1).closes
      rw [kind]
      rfl
  | monthly weekday => exact inReach_monthly kind ordered offsets today resolves representable
  | yearly weekday month => exact inReach_yearly kind ordered offsets today resolves representable

/-- A scan ends short of what a rule asks for only at the end of the calendar, or at a local
time that does not resolve. -/
theorem activeAt_succeeds (ordered : planner.ResolvesInOrder simulatedAt)
    (offsets : OffsetsWithinADay planner.zones)
    (today : planner.zones.localDate planner.schedule.timezone simulatedAt = some start)
    (representable : ∀ rule ∈ planner.schedule.rules,
      rule.kind.scanEnd start rule.targetCount.get ≤ maxDay)
    (resolves : ∀ rule ∈ planner.schedule.rules, planner.ResolvesWithin rule start) :
    ∃ active, planner.activeAt simulatedAt = .ok active := by
  apply (activeAt_ok_iff ordered offsets).mpr
  intro rule member
  exact inReach_of_scanEnd ordered offsets today (resolves rule member)
    (representable rule member)

end RollingPlanner

theorem activeAt_succeeds_thursday :
    ∃ active, RollingPlanner.activeAt ⟨TzDatabase.utc, dailiesAndMonthlies fivePm⟩ thursdayNoon =
      .ok active := by
  have representable : ∀ rule ∈ (dailiesAndMonthlies fivePm).rules,
      rule.kind.scanEnd thursday rule.targetCount.get ≤ maxDay := by decide +kernel
  apply RollingPlanner.activeAt_succeeds (utc_resolvesInOrder _ _) utc_offsetsWithinADay rfl
    representable
  intro rule _ date _ _ _
  exact ⟨_, rfl⟩

end OptionChainSimulator.Domain.Expiry
