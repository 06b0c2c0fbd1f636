import Mathlib.Tactic
import OptionChainSimulator.Domain.Expiry.Inventory

namespace OptionChainSimulator.Domain.Expiry

open Foundation Foundation.CivilCalendar Utils Domain

/-! When a projection succeeds: the scans stop early enough for their budgets, so
only the end of the representable calendar can stop them. -/

theorem exists_lastOfMonth {index : Int} (weekday : Weekday)
    (lower : 12 * (-262143) ≤ index) (upper : firstOfMonth (index + 1) ≤ maxDay) :
    ∃ date : NaiveDate, monthIndexOf date.day = index ∧ IsLastOfMonth weekday date := by
  obtain ⟨offset, within, onWeekday⟩ := exists_weekdayOf (firstOfMonth (index + 1) - 7) weekday
  have long := (firstOfMonth_succ index).1
  have started := firstOfMonth_strictMono.monotone lower
  rw [← minDay_eq_firstOfMonth] at started
  have inMonth : monthIndexOf (firstOfMonth (index + 1) - 7 + offset) = index :=
    monthIndexOf_eq_iff.mpr ⟨by omega, by omega⟩
  refine ⟨⟨firstOfMonth (index + 1) - 7 + offset, by omega, by omega⟩, inMonth,
    isLastOfMonth_iff.mpr ⟨onWeekday, ?_⟩⟩
  simp only [inMonth]
  omega

/-- UTC offsets are shorter than a day. -/
structure OffsetsWithinADay (zones : TzDatabase) : Prop where
  localDate : ∀ {zone : Tz} {instant : UtcDateTime} {date : NaiveDate},
    zones.localDate zone instant = some date → instant.timestamp < (date.day + 2) * 86400
  fromLocal : ∀ {zone : Tz} {localTime : NaiveDateTime} {instant : UtcDateTime},
    (zones.fromLocalDatetime zone localTime).earliest = some instant →
      localTime.timestamp < instant.timestamp + 86400
  gapEnd : ∀ {zone : Tz} {localTime : NaiveDateTime} {instant : UtcDateTime},
    zones.gapEnd localTime zone = some instant →
      localTime.timestamp < instant.timestamp + 86400

theorem utc_offsetsWithinADay : OffsetsWithinADay TzDatabase.utc where
  localDate := by
    intro zone instant date today
    cases today
    have within := instant.time.secs_lt
    unfold NaiveDateTime.timestamp
    omega
  fromLocal := by
    intro zone localTime instant resolved
    cases resolved
    omega
  gapEnd := by
    intro zone localTime instant impossible
    cases impossible

namespace RollingPlanner

variable {planner : RollingPlanner} {rule : ExpiryRule} {simulatedAt : UtcDateTime}

theorem alive_of_far (offsets : OffsetsWithinADay planner.zones) {start date : NaiveDate}
    {instant : UtcDateTime}
    (today : planner.zones.localDate planner.schedule.timezone simulatedAt = some start)
    (far : start.day + 3 ≤ date.day) (resolves : planner.resolution date = some instant) :
    simulatedAt < instant := by
  have now := offsets.localDate today
  have later : date.day * 86400 < instant.timestamp + 86400 := by
    have local_le : date.day * 86400 ≤
        NaiveDateTime.timestamp ⟨date, planner.schedule.expirationTime⟩ := by
      unfold NaiveDateTime.timestamp
      dsimp only
      omega
    unfold resolution at resolves
    simp only at resolves
    split at resolves
    next resolved found =>
      cases resolves
      exact local_le.trans_lt (offsets.fromLocal found)
    next => exact local_le.trans_lt (offsets.gapEnd resolves)
  exact NaiveDateTime.lt_iff.mpr (.inl (by omega))

/-- Every date the rule expires on, from `origin` to the last of `values`, can be
passed. -/
def PassableTo (planner : RollingPlanner) (rule : ExpiryRule) (origin : Int)
    (values : List UtcDateTime) : Prop :=
  ∀ {date last : NaiveDate} {instant : UtcDateTime}, instant ∈ values → origin ≤ date.day →
    date ≤ last → rule.kind.ExpiresOn date → rule.kind.ExpiresOn last →
    planner.resolution last = some instant → planner.Passable rule date

/-- A rule asks for expirations that exist, over dates its scan can pass. -/
def InReach (planner : RollingPlanner) (rule : ExpiryRule) (simulatedAt : UtcDateTime) : Prop :=
  ∃ start values,
    planner.zones.localDate planner.schedule.timezone simulatedAt = some start ∧
    FirstAfter (planner.expirationsOf rule) simulatedAt rule.targetCount.get values ∧
    planner.PassableTo rule (rule.kind.scanOrigin start) values

theorem inReach_of_projectRule (ordered : planner.ResolvesInOrder simulatedAt)
    {found : OrderedSet UtcDateTime}
    (succeeded : planner.projectRule rule simulatedAt = .ok found) :
    planner.InReach rule simulatedAt := by
  obtain ⟨-, start, bound, today, reached⟩ := projectRule_reached ordered succeeded
  refine ⟨start, found.toList, today, projectRule_firstAfter ordered succeeded, ?_⟩
  intro date last instant member lower upTo expires lastExpires lastResolves
  obtain ⟨index, below, present, -⟩ := (reached.collected instant).mp member
  obtain ⟨other, rfl, otherExpires, otherResolves⟩ := expirationOn_eq_some.mp present
  have within : last.day < bound := by
    by_contra beyond
    have after : other < last := NaiveDate.lt_iff.mpr (by omega)
    exact lt_irrefl instant (ordered.increasing after
      (otherExpires.eligible rule.kind_wellFormed _)
      (lastExpires.eligible rule.kind_wellFormed _) otherResolves lastResolves)
  exact reached.passed date lower (lt_of_le_of_lt upTo within) expires

theorem exists_ahead {bound : Int} {found : OrderedSet UtcDateTime} {values : List UtcDateTime}
    (collected : Collected (planner.expirationOn rule) simulatedAt bound found)
    (first : FirstAfter (planner.expirationsOf rule) simulatedAt rule.targetCount.get values)
    (short : found.card < rule.targetCount.get) :
    ∃ last : NaiveDate, ∃ instant ∈ values, rule.kind.ExpiresOn last ∧
      planner.resolution last = some instant ∧ bound ≤ last.day := by
  have missing : ∃ instant ∈ values, instant ∉ found := by
    by_contra none
    have subset : values ⊆ found.toList := by
      intro instant member
      by_contra outside
      exact none ⟨instant, member, outside⟩
    have nodup : values.Nodup := first.sorted.imp ne_of_lt
    have lengths := (List.subperm_of_subset nodup subset).length_le
    rw [first.length_eq] at lengths
    exact absurd short (not_lt.mpr lengths)
  obtain ⟨instant, member, outside⟩ := missing
  obtain ⟨last, expires, resolves⟩ := mem_expirationsOf.mp (first.mem_source instant member)
  refine ⟨last, instant, member, expires, resolves, ?_⟩
  by_contra earlier
  exact outside ((collected instant).mpr ⟨last.day, not_le.mp earlier,
    expirationOn_eq_some.mpr ⟨last, rfl, expires, resolves⟩, first.after instant member⟩)

/-! ### Day scans -/

/-- The rule expires on some day of every week. -/
def EveryWeek (rule : ExpiryRule) : Prop :=
  ∀ day, minDay ≤ day → day + 6 ≤ maxDay →
    ∃ date : NaiveDate, day ≤ date.day ∧ date.day < day + 7 ∧ rule.kind.ExpiresOn date

/-- The pace a day scan keeps: after the first three days, no more than seven for each
expiration found and a last stretch of fewer than seven idle ones. -/
def Paced (rule : ExpiryRule) (start : NaiveDate) (day : Int) (count : Nat) : Prop :=
  ∃ quiet : Nat, quiet < 7 ∧ start.day ≤ day - quiet ∧ day ≤ start.day + 3 + 7 * count + quiet ∧
    ∀ other : NaiveDate, day - quiet ≤ other.day → other.day < day → ¬ rule.kind.ExpiresOn other

theorem Paced.start (rule : ExpiryRule) (start : NaiveDate) : Paced rule start start.day 0 :=
  ⟨0, by omega, by simp, by simp, fun other lower upper => by omega⟩

theorem Paced.idle (weekly : EveryWeek rule) {start date : NaiveDate} {count : Nat}
    (paced : Paced rule start date.day count) (idle : ¬ rule.kind.ExpiresOn date) :
    Paced rule start (date.day + 1) count := by
  obtain ⟨quiet, bound, started, pace, nothing⟩ := paced
  have stillNothing : ∀ other : NaiveDate, date.day - quiet ≤ other.day →
      other.day < date.day + 1 → ¬ rule.kind.ExpiresOn other := by
    intro other lower upper
    rcases (Int.lt_add_one_iff.mp upper).lt_or_eq with earlier | same
    · exact nothing other lower earlier
    · rwa [NaiveDate.day_injective same]
  have short : quiet ≠ 6 := by
    rintro rfl
    have lowest := start.lower
    have highest := date.upper
    obtain ⟨other, lower, upper, expires⟩ :=
      weekly (date.day - 6) (by omega) (by omega)
    exact stillNothing other (by omega) (by omega) expires
  refine ⟨quiet + 1, by omega, by omega, by omega, ?_⟩
  intro other lower upper
  exact stillNothing other (by omega) upper

theorem Paced.hit {start date : NaiveDate} {count grown : Nat}
    (paced : Paced rule start date.day count)
    (counted : start.day + 3 ≤ date.day → grown = count + 1) :
    Paced rule start (date.day + 1) grown := by
  obtain ⟨quiet, bound, started, pace, -⟩ := paced
  refine ⟨0, by omega, by omega, ?_, fun other lower upper => by omega⟩
  by_cases far : start.day + 3 ≤ date.day
  · have := counted far
    omega
  · omega

theorem scanDaysFrom_completes (ordered : planner.ResolvesInOrder simulatedAt)
    (offsets : OffsetsWithinADay planner.zones) {accepts : NaiveDate → Bool}
    (accepting : Accepting rule planner.schedule.calendar accepts) (weekly : EveryWeek rule)
    {start : NaiveDate} {values : List UtcDateTime}
    (today : planner.zones.localDate planner.schedule.timezone simulatedAt = some start)
    (first : FirstAfter (planner.expirationsOf rule) simulatedAt rule.targetCount.get values)
    (passable : planner.PassableTo rule start.day values)
    {budget : Nat} {date : NaiveDate} {found : OrderedSet UtcDateTime}
    (reached : planner.Reached rule simulatedAt start.day date.day found)
    (later : start.day ≤ date.day) (short : found.card < rule.targetCount.get)
    (paced : Paced rule start date.day found.card)
    (slack : start.day + 8 * rule.targetCount.get + 32 ≤ date.day + budget) :
    ∃ result, planner.scanDaysFrom rule simulatedAt rule.targetCount.get accepts budget date
      found = .ok result ∧ rule.targetCount.get ≤ result.card := by
  induction budget generalizing date found with
  | zero =>
      obtain ⟨quiet, bound, -, pace, -⟩ := paced
      omega
  | succ budget ih =>
      obtain ⟨last, instant, member, lastExpires, lastResolves, ahead⟩ :=
        exists_ahead reached.collected first short
      have visited : ∃ grown,
          planner.visitDay rule simulatedAt accepts date found = .ok grown ∧
            planner.Reached rule simulatedAt start.day (date.day + 1) grown ∧
            Paced rule start (date.day + 1) grown.card := by
        by_cases expires : rule.kind.ExpiresOn date
        · obtain ⟨⟨dateInstant, resolves⟩, -⟩ := passable member later ahead
            expires lastExpires lastResolves
          obtain ⟨further, grown⟩ := reached_expires ordered accepting reached expires resolves rfl
          refine ⟨_, (visitDay_expires accepting expires).mpr ⟨dateInstant, resolves, rfl⟩,
            further, paced.hit ?_⟩
          intro far
          rw [grown, if_pos (alive_of_far offsets today far resolves)]
        · exact ⟨found, visitDay_idle accepting expires found, reached_idle reached expires,
            paced.idle weekly expires⟩
      obtain ⟨grown, visiting, further, pacedNext⟩ := visited
      by_cases enough : rule.targetCount.get ≤ grown.card
      · refine ⟨grown, ?_, enough⟩
        rw [scanDaysFrom]
        exact bind_eq_ok.mpr ⟨grown, visiting, if_pos enough⟩
      · obtain ⟨beyond, -, -, -, -, notYet⟩ :=
          exists_ahead further.collected first (not_le.mp enough)
        have lowest := date.lower
        have highest := beyond.upper
        obtain ⟨result, scanned, complete⟩ := @ih ⟨date.day + 1, by omega, by omega⟩ grown
          further (by simp only; omega) (not_le.mp enough) pacedNext (by simp only; omega)
        refine ⟨result, ?_, complete⟩
        rw [scanDaysFrom]
        refine bind_eq_ok.mpr ⟨grown, visiting, ?_⟩
        rw [if_neg enough]
        exact bind_eq_ok.mpr ⟨_, okOr_eq_ok.mpr (NaiveDate.ofDay?_eq_some.mpr rfl), scanned⟩

theorem everyWeek_daily (kind : rule.kind = .daily) : EveryWeek rule := by
  intro day lower upper
  obtain ⟨offset, within, monday⟩ := exists_weekdayOf day .mon
  refine ⟨⟨day + offset, by omega, by omega⟩, by simp, by simp only; omega, ?_⟩
  rw [kind]
  simp only [ExpiryRuleKind.ExpiresOn, NaiveDate.weekday, monday]
  decide

theorem everyWeek_weekly {weekdays : List Weekday} (kind : rule.kind = .weekly weekdays) :
    EveryWeek rule := by
  have wellFormed := rule.kind_wellFormed
  rw [kind] at wellFormed
  obtain ⟨weekday, member⟩ := List.exists_mem_of_ne_nil _ wellFormed.1
  intro day lower upper
  obtain ⟨offset, within, onWeekday⟩ := exists_weekdayOf day weekday
  refine ⟨⟨day + offset, by omega, by omega⟩, by simp, by simp only; omega, ?_⟩
  rw [kind]
  simpa only [ExpiryRuleKind.ExpiresOn, NaiveDate.weekday, onWeekday] using member

/-! ### Period scans -/

/-- A period scan can name its date as long as the rule still has one it can pass, and
every period after the first lies well after the local date. -/
structure Naming (rule : ExpiryRule) (first : Int → Int)
    (dateFor : Nat → Except ChainError (Option NaiveDate)) (origin : Int)
    (start : NaiveDate) : Prop where
  names : ∀ {index : Nat} {last : NaiveDate}, index ≤ maxTargetCount →
    rule.kind.ExpiresOn last → rule.kind.Closes last → first (origin + index) ≤ last.day →
    ∃ date, dateFor index = .ok (some date)
  far : ∀ {index : Nat} {date : NaiveDate}, 1 ≤ index → dateFor index = .ok (some date) →
    start.day + 3 ≤ date.day

theorem scanPeriodsFrom_completes (ordered : planner.ResolvesInOrder simulatedAt)
    (offsets : OffsetsWithinADay planner.zones) {start : NaiveDate} {values : List UtcDateTime}
    {first : Int → Int} {origin : Int} {dateFor : Nat → Except ChainError (Option NaiveDate)}
    (periodic : Periodic rule first dateFor origin)
    (naming : Naming rule first dateFor origin start)
    (today : planner.zones.localDate planner.schedule.timezone simulatedAt = some start)
    (firstAfter : FirstAfter (planner.expirationsOf rule) simulatedAt rule.targetCount.get values)
    (passable : planner.PassableTo rule (first origin) values)
    {budget index : Nat} {found : OrderedSet UtcDateTime}
    (reached : planner.Reached rule simulatedAt (first origin) (first (origin + index)) found)
    (later : first origin ≤ first (origin + index))
    (paced : index ≤ found.card + 1) (slack : rule.targetCount.get + 2 ≤ index + budget) :
    ∃ result, planner.scanPeriodsFrom rule simulatedAt rule.targetCount.get dateFor budget index
      found = .ok result ∧ rule.targetCount.get ≤ result.card := by
  induction budget generalizing index found with
  | zero => exact ⟨found, rfl, by omega⟩
  | succ budget ih =>
      rw [scanPeriodsFrom]
      by_cases enough : rule.targetCount.get ≤ found.card
      · exact ⟨found, if_pos enough, enough⟩
      · rw [if_neg enough]
        obtain ⟨last, instant, member, lastExpires, lastResolves, ahead⟩ :=
          exists_ahead reached.collected firstAfter (not_le.mp enough)
        obtain ⟨-, lastCloses⟩ := passable member (later.trans ahead) le_rfl
          lastExpires lastExpires lastResolves
        have few := rule.targetCount_le
        obtain ⟨date, named⟩ := naming.names (by omega) lastExpires lastCloses ahead
        obtain ⟨same, present, expires, closes, lower, upper⟩ := periodic.expires named
        cases present
        have upTo : date ≤ last := by
          rcases lt_or_ge last.day (first (origin + index + 1)) with inPeriod | after
          · exact le_of_eq (periodic.alone expires lastExpires lower upper ahead inPeriod)
          · exact le_of_lt (NaiveDate.lt_iff.mpr (upper.trans_le after))
        obtain ⟨⟨dateInstant, resolves⟩, -⟩ := passable member
          (later.trans lower) upTo expires lastExpires lastResolves
        obtain ⟨further, grown⟩ :=
          reached_period ordered periodic reached expires closes lower upper resolves rfl
        have next : origin + ((index + 1 : Nat) : Int) = origin + index + 1 := by
          push_cast
          ring
        have laterNext : first origin ≤ first (origin + ((index + 1 : Nat) : Int)) := by
          rw [next]
          exact later.trans (lower.trans upper.le)
        -- only the first period may lie behind the simulated instant
        have pacedNext : index + 1 ≤
            (if simulatedAt < dateInstant then found.insert dateInstant else found).card + 1 := by
          rw [grown]
          rcases Nat.eq_zero_or_pos index with rfl | positive
          · exact Nat.le_add_left _ _
          · rw [if_pos (alive_of_far offsets today (naming.far positive named) resolves)]
            omega
        obtain ⟨result, scanned, complete⟩ := ih further laterNext pacedNext (by omega)
        refine ⟨result, bind_eq_ok.mpr ⟨some date, named, ?_⟩, complete⟩
        refine bind_eq_ok.mpr ⟨_, ?_, scanned⟩
        exact (collect_eligible (expires.eligible rule.kind_wellFormed _)).mpr
          ⟨dateInstant, resolves, rfl⟩

theorem naming_monthly {weekday : Weekday} (kind : rule.kind = .monthly weekday)
    (start : NaiveDate) :
    Naming rule firstOfMonth (monthlyDate rule start weekday) (monthIndexOf start.day) start where
  names := by
    intro index last few lastExpires lastCloses ahead
    rw [kind] at lastCloses
    have lowest := start.monthIndexOf_bounds
    have highest := last.monthIndexOf_bounds
    have ended := (firstOfMonth_monthIndexOf last.day).2
    have notAfter := firstOfMonth_strictMono.lt_iff_lt.mp (ahead.trans_lt ended)
    have top : firstOfMonth (monthIndexOf start.day + index + 1) ≤ maxDay :=
      (firstOfMonth_strictMono.monotone (by omega)).trans lastCloses
    obtain ⟨date, inMonth, isLast⟩ := exists_lastOfMonth weekday (by omega) top
    have started := start.monthIndexOf_day
    have months := start.month_bounds
    have bottom := firstOfMonth_strictMono.monotone
      (show 12 * (-262143) ≤ monthIndexOf start.day + index + 1 by omega)
    rw [← minDay_eq_firstOfMonth] at bottom
    refine ⟨date, ?_⟩
    unfold monthlyDate
    unfold maxTargetCount at few
    refine bind_eq_ok.mpr ⟨(start.year + ((start.month - 1 + index) / 12 : Nat),
      (start.month - 1 + index) % 12 + 1), ?_, ?_⟩
    · refine mapError_eq_ok.mpr (addMonths_eq_ok.mpr ⟨months.1, ?_, ?_, rfl⟩)
      · unfold u32Limit
        omega
      · unfold i32Limit
        omega
    · refine map_eq_ok.mpr ⟨date, ?_, rfl⟩
      have sameMonth : 12 * (start.year + (((start.month - 1 + index) / 12 : Nat) : Int)) +
          (((start.month - 1 + index) % 12 + 1 : Nat) : Int) =
            monthIndexOf start.day + index + 1 := by omega
      refine (lastWeekdayOfMonth_eq_ok (by omega) (by omega)).mpr ⟨⟨_, ?_, ?_, rfl⟩, ?_, ?_, isLast⟩
      · unfold i32Limit
        omega
      · unfold i32Limit
        omega
      · rw [sameMonth]
        exact ⟨bottom, top⟩
      · omega
  far := by
    intro index date positive named
    obtain ⟨other, present, inMonth, isLast, -⟩ := monthlyDate_eq_ok named
    cases present
    have far := @far_of_isLastOfMonth _ start date isLast (by omega)
    omega

theorem naming_yearly {weekday : Weekday} {month : Nat}
    (kind : rule.kind = .yearly weekday month) (start : NaiveDate) :
    Naming rule (fun year => firstOfMonth (12 * year)) (yearlyDate rule start weekday month)
      start.year start where
  names := by
    have wellFormed := rule.kind_wellFormed
    rw [kind] at wellFormed
    obtain ⟨-, monthLower, monthUpper⟩ := wellFormed
    intro index last few lastExpires lastCloses ahead
    rw [kind] at lastExpires lastCloses
    have started := start.monthIndexOf_day
    have months := start.month_bounds
    have lowest := start.monthIndexOf_bounds
    have highest := last.monthIndexOf_bounds
    have ended := (firstOfMonth_monthIndexOf last.day).2
    have notAfter := firstOfMonth_strictMono.lt_iff_lt.mp (ahead.trans_lt ended)
    have lastParts := last.monthIndexOf_day
    rw [lastExpires.1] at lastParts
    have top : firstOfMonth (12 * (start.year + index) + month - 1 + 1) ≤ maxDay :=
      (firstOfMonth_strictMono.monotone (by omega)).trans lastCloses
    obtain ⟨date, inMonth, isLast⟩ := exists_lastOfMonth weekday (by omega) top
    have bottom := firstOfMonth_strictMono.monotone
      (show 12 * (-262143) ≤ 12 * (start.year + index) + month - 1 + 1 by omega)
    rw [← minDay_eq_firstOfMonth] at bottom
    rw [sub_add_cancel] at top bottom
    refine ⟨date, ?_⟩
    unfold yearlyDate
    unfold maxTargetCount at few
    refine bind_eq_ok.mpr ⟨start.year + index, ?_, ?_⟩
    · refine mapError_eq_ok.mpr (addYears_eq_ok.mpr ⟨?_, ?_, rfl⟩)
      · unfold i32Limit
        omega
      · unfold i32Limit
        omega
    · refine map_eq_ok.mpr ⟨date, ?_, rfl⟩
      refine (lastWeekdayOfMonth_eq_ok monthLower monthUpper).mpr
        ⟨⟨_, ?_, ?_, rfl⟩, ⟨bottom, top⟩, inMonth, isLast⟩
      · unfold i32Limit
        omega
      · unfold i32Limit
        omega
  far := by
    have wellFormed := rule.kind_wellFormed
    rw [kind] at wellFormed
    obtain ⟨-, monthLower, monthUpper⟩ := wellFormed
    intro index date positive named
    obtain ⟨other, present, inMonth, isLast, -⟩ := yearlyDate_eq_ok monthLower monthUpper named
    cases present
    have started := start.monthIndexOf_day
    have months := start.month_bounds
    have far := @far_of_isLastOfMonth _ start date isLast (by omega)
    omega

/-! ### The whole inventory -/

section Scans

variable {start : NaiveDate} {values : List UtcDateTime}

theorem scanDays_completes (ordered : planner.ResolvesInOrder simulatedAt)
    (offsets : OffsetsWithinADay planner.zones) {accepts : NaiveDate → Bool}
    (accepting : Accepting rule planner.schedule.calendar accepts) (weekly : EveryWeek rule)
    (today : planner.zones.localDate planner.schedule.timezone simulatedAt = some start)
    (first : FirstAfter (planner.expirationsOf rule) simulatedAt rule.targetCount.get values)
    (passable : planner.PassableTo rule start.day values) :
    ∃ result, planner.scanDays rule start simulatedAt rule.targetCount.get OrderedSet.empty
      accepts = .ok result ∧ rule.targetCount.get ≤ result.card := by
  have few := rule.targetCount_le
  unfold maxTargetCount at few
  have budget : (unsigned? u64Limit (rule.targetCount.get * 8)).bind
      (fun days => unsigned? u64Limit (days + dayScanSlack)) =
        some (rule.targetCount.get * 8 + 32) := by
    unfold u64Limit dayScanSlack
    refine Option.bind_eq_some_iff.mpr ⟨rule.targetCount.get * 8, ?_, ?_⟩
    · exact unsigned?_eq_some.mpr ⟨by omega, rfl⟩
    · exact unsigned?_eq_some.mpr ⟨by omega, rfl⟩
  obtain ⟨result, scanned, complete⟩ := scanDaysFrom_completes ordered offsets accepting weekly
    today first passable (reached_start ordered today rule le_rfl) le_rfl rule.targetCount.pos
    (Paced.start rule start)
    (by push_cast; omega : _ ≤ start.day + ((rule.targetCount.get * 8 + 32 : Nat) : Int))
  exact ⟨result, bind_eq_ok.mpr ⟨_, okOr_eq_ok.mpr budget, scanned⟩, complete⟩

theorem scanPeriods_completes (ordered : planner.ResolvesInOrder simulatedAt)
    (offsets : OffsetsWithinADay planner.zones) {first : Int → Int} {origin : Int}
    {dateFor : Nat → Except ChainError (Option NaiveDate)}
    (periodic : Periodic rule first dateFor origin)
    (naming : Naming rule first dateFor origin start)
    (today : planner.zones.localDate planner.schedule.timezone simulatedAt = some start)
    (firstAfter : FirstAfter (planner.expirationsOf rule) simulatedAt rule.targetCount.get values)
    (started : first origin ≤ start.day)
    (passable : planner.PassableTo rule (first origin) values) :
    ∃ result, planner.scanPeriods rule simulatedAt rule.targetCount.get OrderedSet.empty
      dateFor = .ok result ∧ rule.targetCount.get ≤ result.card := by
  have few := rule.targetCount_le
  unfold maxTargetCount at few
  have budget : unsigned? u64Limit (rule.targetCount.get + periodScanSlack) =
      some (rule.targetCount.get + 2) := by
    unfold u64Limit periodScanSlack
    exact unsigned?_eq_some.mpr ⟨by omega, rfl⟩
  have slots : unsigned? u32Limit (rule.targetCount.get + 2) = some (rule.targetCount.get + 2) := by
    unfold u32Limit
    exact unsigned?_eq_some.mpr ⟨by omega, rfl⟩
  have beginning : origin + ((0 : Nat) : Int) = origin := by simp
  have reached : planner.Reached rule simulatedAt (first origin) (first (origin + (0 : Nat)))
      OrderedSet.empty := by
    rw [beginning]
    exact reached_start ordered today rule started
  obtain ⟨result, scanned, complete⟩ := scanPeriodsFrom_completes ordered offsets periodic naming
    today firstAfter passable reached (by rw [beginning]) (by omega)
    (by omega : _ ≤ 0 + (rule.targetCount.get + 2))
  exact ⟨result, bind_eq_ok.mpr ⟨_, okOr_eq_ok.mpr budget,
    bind_eq_ok.mpr ⟨_, okOr_eq_ok.mpr slots, scanned⟩⟩, complete⟩

theorem scan_completes (ordered : planner.ResolvesInOrder simulatedAt)
    (offsets : OffsetsWithinADay planner.zones)
    (today : planner.zones.localDate planner.schedule.timezone simulatedAt = some start)
    (first : FirstAfter (planner.expirationsOf rule) simulatedAt rule.targetCount.get values)
    (passable : planner.PassableTo rule (rule.kind.scanOrigin start) values) :
    ∃ result, planner.scan rule start simulatedAt rule.targetCount.get OrderedSet.empty =
      .ok result ∧ rule.targetCount.get ≤ result.card := by
  have started := rule.kind.scanOrigin_le start
  unfold scan
  cases kind : rule.kind with
  | daily =>
      have origin : rule.kind.scanOrigin start = start.day := by
        rw [kind]
        rfl
      rw [origin] at passable
      exact scanDays_completes ordered offsets (accepting_daily kind _) (everyWeek_daily kind)
        today first passable
  | weekly weekdays =>
      have origin : rule.kind.scanOrigin start = start.day := by
        rw [kind]
        rfl
      rw [origin] at passable
      exact scanDays_completes ordered offsets (accepting_weekly kind _) (everyWeek_weekly kind)
        today first passable
  | monthly weekday =>
      have origin : rule.kind.scanOrigin start = firstOfMonth (monthIndexOf start.day) := by
        rw [kind]
        rfl
      rw [origin] at passable started
      exact scanPeriods_completes ordered offsets (periodic_monthly kind start)
        (naming_monthly kind start) today first started passable
  | yearly weekday month =>
      have origin : rule.kind.scanOrigin start = firstOfMonth (12 * start.year) := by
        rw [kind]
        rfl
      rw [origin] at passable started
      exact scanPeriods_completes ordered offsets (periodic_yearly kind start)
        (naming_yearly kind start) today first started passable

end Scans

/-- The budgets of the scans never decide: a projection succeeds exactly when what the
rule asks for is in reach. -/
theorem projectRule_ok_iff (ordered : planner.ResolvesInOrder simulatedAt)
    (offsets : OffsetsWithinADay planner.zones) :
    (∃ found, planner.projectRule rule simulatedAt = .ok found) ↔
      planner.InReach rule simulatedAt := by
  constructor
  · rintro ⟨found, succeeded⟩
    exact inReach_of_projectRule ordered succeeded
  · rintro ⟨start, values, today, first, passable⟩
    obtain ⟨result, scanned, complete⟩ := scan_completes ordered offsets today first passable
    refine ⟨result, ?_⟩
    unfold projectRule
    simp only [today]
    refine bind_eq_ok.mpr ⟨result, lift_eq_ok.mpr scanned, ?_⟩
    rw [if_neg (not_lt.mpr complete)]

theorem mergeRules_ok_iff {rules : List ExpiryRule} {merged : Merged} :
    (∃ result, planner.mergeRules simulatedAt merged rules = .ok result) ↔
      ∀ rule ∈ rules, ∃ found, planner.projectRule rule simulatedAt = .ok found := by
  induction rules generalizing merged with
  | nil => simp [mergeRules]
  | cons rule rest ih =>
      simp only [mergeRules, bind_eq_ok, List.mem_cons, forall_eq_or_imp]
      constructor
      · rintro ⟨result, projected, projection, merging⟩
        exact ⟨⟨projected, projection⟩, ih.mp ⟨result, merging⟩⟩
      · rintro ⟨⟨projected, projection⟩, others⟩
        obtain ⟨result, merging⟩ := ih.mpr others
        exact ⟨result, projected, projection, merging⟩

theorem activeAt_ok_iff (ordered : planner.ResolvesInOrder simulatedAt)
    (offsets : OffsetsWithinADay planner.zones) :
    (∃ active, planner.activeAt simulatedAt = .ok active) ↔
      ∀ rule ∈ planner.schedule.rules, planner.InReach rule simulatedAt := by
  have merges : (∃ merged, planner.mergeRules simulatedAt OrderedMap.empty
      planner.schedule.rules = .ok merged) ↔
        ∀ rule ∈ planner.schedule.rules,
          ∃ found, planner.projectRule rule simulatedAt = .ok found :=
    mergeRules_ok_iff
  simp only [← projectRule_ok_iff ordered offsets, ← merges]
  unfold activeAt
  constructor
  · rintro ⟨active, succeeded⟩
    obtain ⟨merged, merging, -⟩ := bind_eq_ok.mp succeeded
    exact ⟨merged, merging⟩
  · rintro ⟨merged, merging⟩
    exact ⟨_, bind_eq_ok.mpr ⟨merged, merging, rfl⟩⟩

end RollingPlanner

end OptionChainSimulator.Domain.Expiry
