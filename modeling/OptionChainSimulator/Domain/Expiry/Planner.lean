import Mathlib.Tactic
import OptionChainSimulator.Domain.Expiry.Schedule

namespace OptionChainSimulator.Domain.Expiry

open Foundation Foundation.CivilCalendar Utils Domain

/-! The planner: a schedule read at one simulated instant. -/

def dayScanSlack : Nat := 32
def periodScanSlack : Nat := 2

structure ActiveExpiry where
  expiresAt : UtcDateTime
  labels : List String
  deriving DecidableEq

def projectionError (rule : ExpiryRule) (reason : String) : ChainError :=
  .validation s!"schedules.{rule.ruleId}" reason

def addMonths (year : Int) (month offset : Nat) : Except String (Int × Nat) := do
  let zeroBased ← okOr (if month = 0 then none else some (month - 1)) "month underflows"
  let total ← okOr (unsigned? u32Limit (zeroBased + offset)) "month arithmetic overflows"
  let years ← okOr (signed? i32Limit (total / 12 : Nat)) "year arithmetic overflows"
  let year ← okOr (signed? i32Limit (year + years)) "year arithmetic overflows"
  let month ← okOr (unsigned? u32Limit (total % 12 + 1)) "month arithmetic overflows"
  return (year, month)

def addYears (year : Int) (offset : Nat) : Except String Int := do
  let offset ← okOr (signed? i32Limit offset) "year arithmetic overflows"
  okOr (signed? i32Limit (year + offset)) "year arithmetic overflows"

def lastWeekdayOfMonth (rule : ExpiryRule) (year : Int) (month : Nat) (weekday : Weekday) :
    Except ChainError NaiveDate := do
  let (nextYear, nextMonth) ← (addMonths year month 1).mapError (projectionError rule)
  let firstOfNext ← okOr (NaiveDate.fromYmdOpt nextYear nextMonth 1)
    (projectionError rule
      s!"{nextYear}-{padded 2 nextMonth} is outside the representable date range")
  let lastOfMonth ← okOr (firstOfNext.checkedSubDays 1)
    (projectionError rule "date arithmetic underflows")
  let back := (lastOfMonth.weekday.numDaysFromMonday + 7 - weekday.numDaysFromMonday) % 7
  okOr (lastOfMonth.checkedSubDays back) (projectionError rule "date arithmetic underflows")

def monthlyDate (rule : ExpiryRule) (start : NaiveDate) (weekday : Weekday) (index : Nat) :
    Except ChainError (Option NaiveDate) := do
  let (year, month) ← (addMonths start.year start.month index).mapError (projectionError rule)
  some <$> lastWeekdayOfMonth rule year month weekday

def yearlyDate (rule : ExpiryRule) (start : NaiveDate) (weekday : Weekday) (month : Nat)
    (index : Nat) : Except ChainError (Option NaiveDate) := do
  let year ← (addYears start.year index).mapError (projectionError rule)
  some <$> lastWeekdayOfMonth rule year month weekday

/-- The planner and the zone database it resolves local times against. -/
structure RollingPlanner where
  zones : TzDatabase
  schedule : ExpirationSchedule

namespace RollingPlanner

def instantFor (planner : RollingPlanner) (rule : ExpiryRule) (date : NaiveDate) :
    Except ChainError UtcDateTime :=
  let localTime : NaiveDateTime := ⟨date, planner.schedule.expirationTime⟩
  match (planner.zones.fromLocalDatetime planner.schedule.timezone localTime).earliest with
  | some resolved => .ok resolved
  | none =>
      okOr (planner.zones.gapEnd localTime planner.schedule.timezone)
        (projectionError rule <|
          s!"local time {localTime.toString} does not exist in {planner.schedule.timezone.name}" ++
            " and no end of the transition gap is known")

/-- The part both scans share: an eligible date is resolved, and its instant kept
when it is after the simulated one. -/
def collect (planner : RollingPlanner) (rule : ExpiryRule) (simulatedAt : UtcDateTime)
    (date : NaiveDate) (found : OrderedSet UtcDateTime) :
    Except ChainError (OrderedSet UtcDateTime) :=
  match planner.schedule.calendar.eligibleDate date with
  | none => .ok found
  | some eligible => do
      let expiresAt ← planner.instantFor rule eligible
      return if simulatedAt < expiresAt then found.insert expiresAt else found

def visitDay (planner : RollingPlanner) (rule : ExpiryRule) (simulatedAt : UtcDateTime)
    (accepts : NaiveDate → Bool) (date : NaiveDate) (found : OrderedSet UtcDateTime) :
    Except ChainError (OrderedSet UtcDateTime) :=
  if accepts date then planner.collect rule simulatedAt date found else .ok found

def scanDaysFrom (planner : RollingPlanner) (rule : ExpiryRule) (simulatedAt : UtcDateTime)
    (wanted : Nat) (accepts : NaiveDate → Bool) :
    Nat → NaiveDate → OrderedSet UtcDateTime → Except ChainError (OrderedSet UtcDateTime)
  | 0, _, found => .ok found
  | budget + 1, date, found => do
      let found ← planner.visitDay rule simulatedAt accepts date found
      -- complete before advancing, so the last representable date can be the last expiration
      if wanted ≤ found.card then .ok found
      else do
        let next ← okOr (date.checkedAddDays 1)
          (projectionError rule "date arithmetic overflows")
        planner.scanDaysFrom rule simulatedAt wanted accepts budget next found

def scanDays (planner : RollingPlanner) (rule : ExpiryRule) (start : NaiveDate)
    (simulatedAt : UtcDateTime) (wanted : Nat) (found : OrderedSet UtcDateTime)
    (accepts : NaiveDate → Bool) : Except ChainError (OrderedSet UtcDateTime) := do
  let budget ← okOr
    ((unsigned? u64Limit (wanted * 8)).bind fun days => unsigned? u64Limit (days + dayScanSlack))
    (projectionError rule "day scan budget overflows")
  planner.scanDaysFrom rule simulatedAt wanted accepts budget start found

def visitPeriod (planner : RollingPlanner) (rule : ExpiryRule) (simulatedAt : UtcDateTime)
    (candidate : Option NaiveDate) (found : OrderedSet UtcDateTime) :
    Except ChainError (OrderedSet UtcDateTime) :=
  match candidate with
  | none => .ok found
  | some date => planner.collect rule simulatedAt date found

/-- `budget` counts the periods left, `index` the periods passed. -/
def scanPeriodsFrom (planner : RollingPlanner) (rule : ExpiryRule) (simulatedAt : UtcDateTime)
    (wanted : Nat) (dateFor : Nat → Except ChainError (Option NaiveDate)) :
    Nat → Nat → OrderedSet UtcDateTime → Except ChainError (OrderedSet UtcDateTime)
  | 0, _, found => .ok found
  | budget + 1, index, found =>
      if wanted ≤ found.card then .ok found
      else do
        let candidate ← dateFor index
        let found ← planner.visitPeriod rule simulatedAt candidate found
        planner.scanPeriodsFrom rule simulatedAt wanted dateFor budget (index + 1) found

def scanPeriods (planner : RollingPlanner) (rule : ExpiryRule) (simulatedAt : UtcDateTime)
    (wanted : Nat) (found : OrderedSet UtcDateTime)
    (dateFor : Nat → Except ChainError (Option NaiveDate)) :
    Except ChainError (OrderedSet UtcDateTime) := do
  let budget ← okOr (unsigned? u64Limit (wanted + periodScanSlack))
    (projectionError rule "period scan budget overflows")
  let budget ← okOr (unsigned? u32Limit budget)
    (projectionError rule "period scan budget overflows")
  planner.scanPeriodsFrom rule simulatedAt wanted dateFor budget 0 found

/-- The scan `project_rule` starts for the rule's kind. -/
def scan (planner : RollingPlanner) (rule : ExpiryRule) (start : NaiveDate)
    (simulatedAt : UtcDateTime) (wanted : Nat) (found : OrderedSet UtcDateTime) :
    Except ChainError (OrderedSet UtcDateTime) :=
  match rule.kind with
  | .daily => planner.scanDays rule start simulatedAt wanted found fun _ => true
  | .weekly weekdays =>
      planner.scanDays rule start simulatedAt wanted found fun date =>
        weekdays.contains date.weekday
  | .monthly weekday =>
      planner.scanPeriods rule simulatedAt wanted found (monthlyDate rule start weekday)
  | .yearly weekday month =>
      planner.scanPeriods rule simulatedAt wanted found (yearlyDate rule start weekday month)

def projectRule (planner : RollingPlanner) (rule : ExpiryRule) (simulatedAt : UtcDateTime) :
    Except Fault (OrderedSet UtcDateTime) :=
  let wanted := rule.targetCount.get
  match planner.zones.localDate planner.schedule.timezone simulatedAt with
  | none => .error (.panic "Local time out of range for `NaiveDateTime`")
  | some start => do
      let found ← planner.scan rule start simulatedAt wanted OrderedSet.empty
      if found.card < wanted then
        .error (.error (projectionError rule
          s!"could only project {found.card} of {wanted} expirations"))
      else .ok found

abbrev Merged := OrderedMap UtcDateTime (OrderedSet String)

def mergeLabel (ruleId : String) (merged : Merged) (expiresAt : UtcDateTime) : Merged :=
  merged.upsert expiresAt OrderedSet.empty fun labels => labels.insert ruleId

def mergeRules (planner : RollingPlanner) (simulatedAt : UtcDateTime) :
    Merged → List ExpiryRule → Except Fault Merged
  | merged, [] => .ok merged
  | merged, rule :: rest => do
      let projected ← planner.projectRule rule simulatedAt
      planner.mergeRules simulatedAt (projected.toList.foldl (mergeLabel rule.ruleId) merged) rest

def activeAt (planner : RollingPlanner) (simulatedAt : UtcDateTime) :
    Except Fault (List ActiveExpiry) := do
  let merged ← planner.mergeRules simulatedAt OrderedMap.empty planner.schedule.rules
  return merged.entries.map fun (expiresAt, labels) => ⟨expiresAt, labels.toList⟩

end RollingPlanner

end OptionChainSimulator.Domain.Expiry
