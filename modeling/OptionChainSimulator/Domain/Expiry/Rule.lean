import Mathlib.Tactic
import Mathlib.Data.String.Basic
import OptionChainSimulator.Utils.Error
import OptionChainSimulator.Domain.Chrono
import OptionChainSimulator.Foundation.OrderedCollections

namespace OptionChainSimulator.Domain.Expiry

open Foundation Utils Domain

/-! One expiration rule.  What `ExpiryRule::from_parts` checks is kept as fields of
the rule, so the planner below never meets a rule that was not checked. -/

def maxTargetCount : Nat := 256
def maxRuleIdLen : Nat := 64
def defaultYearlyMonth : Nat := 12

inductive CalendarVersion where
  | weekdaysV1
  deriving DecidableEq, Repr

namespace CalendarVersion

def eligibleDate (calendar : CalendarVersion) (date : NaiveDate) : Option NaiveDate :=
  match calendar with
  | .weekdaysV1 =>
      match date.weekday with
      | .sat | .sun => none
      | _ => some date

def asStr : CalendarVersion → String
  | .weekdaysV1 => "weekdays_v1"

theorem eligibleDate_eq_some {calendar : CalendarVersion} {date eligible : NaiveDate} :
    calendar.eligibleDate date = some eligible ↔
      eligible = date ∧ date.weekday ≠ .sat ∧ date.weekday ≠ .sun := by
  cases calendar
  unfold eligibleDate
  cases date.weekday <;> simp [eq_comm]

end CalendarVersion

inductive ExpiryRuleKind where
  | daily
  | weekly (weekdays : List Weekday)
  | monthly (weekday : Weekday)
  | yearly (weekday : Weekday) (month : Nat)
  deriving DecidableEq, Repr

namespace ExpiryRuleKind

def weekdayTryFrom (index : Nat) : Option Weekday :=
  if index < 7 then some (Weekday.ofIndex index) else none

def weekdayIndices (weekdays : List Weekday) : OrderedSet Nat :=
  weekdays.foldl (fun ordered day => ordered.insert day.numDaysFromMonday) OrderedSet.empty

/-- The weekday list `ExpiryRuleKind::weekly` keeps: no duplicates, Monday first. -/
def orderedWeekdays (weekdays : List Weekday) : List Weekday :=
  (weekdayIndices weekdays).toList.filterMap weekdayTryFrom

/-- Rebuilds a weekly kind through `ExpiryRuleKind::weekly`. -/
def normalised : ExpiryRuleKind → ExpiryRuleKind
  | .weekly weekdays => .weekly (orderedWeekdays weekdays)
  | other => other

def kindName : ExpiryRuleKind → String
  | .daily => "daily"
  | .weekly _ => "weekly"
  | .monthly _ => "monthly"
  | .yearly _ _ => "yearly"

theorem mem_weekdayIndices_foldl (weekdays : List Weekday) (start : OrderedSet Nat)
    (index : Nat) :
    index ∈ weekdays.foldl (fun ordered day => ordered.insert day.numDaysFromMonday) start ↔
      index ∈ start ∨ ∃ day ∈ weekdays, day.numDaysFromMonday = index := by
  induction weekdays generalizing start with
  | nil => simp
  | cons head tail ih =>
      rw [List.foldl_cons, ih, OrderedSet.mem_insert]
      simp only [List.mem_cons, exists_eq_or_imp]
      tauto

theorem mem_weekdayIndices {weekdays : List Weekday} {index : Nat} :
    index ∈ weekdayIndices weekdays ↔ ∃ day ∈ weekdays, day.numDaysFromMonday = index := by
  rw [weekdayIndices, mem_weekdayIndices_foldl]
  simp

@[simp] theorem mem_orderedWeekdays {weekdays : List Weekday} {weekday : Weekday} :
    weekday ∈ orderedWeekdays weekdays ↔ weekday ∈ weekdays := by
  rw [orderedWeekdays, List.mem_filterMap]
  constructor
  · rintro ⟨index, member, converted⟩
    obtain ⟨day, inList, rfl⟩ := mem_weekdayIndices.mp (OrderedSet.mem_toList.mp member)
    rw [weekdayTryFrom, if_pos day.numDaysFromMonday_lt, Weekday.ofIndex_numDaysFromMonday]
      at converted
    cases converted
    exact inList
  · intro inList
    refine ⟨weekday.numDaysFromMonday, mem_weekdayIndices.mpr ⟨weekday, inList, rfl⟩, ?_⟩
    rw [weekdayTryFrom, if_pos weekday.numDaysFromMonday_lt, Weekday.ofIndex_numDaysFromMonday]

theorem orderedWeekdays_congr {left right : List Weekday}
    (same : ∀ weekday, weekday ∈ left ↔ weekday ∈ right) :
    orderedWeekdays left = orderedWeekdays right := by
  have indices : weekdayIndices left = weekdayIndices right := by
    apply OrderedSet.ext
    intro index
    simp only [mem_weekdayIndices, same]
  rw [orderedWeekdays, orderedWeekdays, indices]

@[simp] theorem normalised_normalised (kind : ExpiryRuleKind) :
    kind.normalised.normalised = kind.normalised := by
  cases kind with
  | weekly weekdays =>
      simp only [normalised]
      rw [orderedWeekdays_congr fun weekday => mem_orderedWeekdays]
  | daily => rfl
  | monthly weekday => rfl
  | yearly weekday month => rfl

end ExpiryRuleKind

/-- `NonZeroUsize`. -/
structure NonZeroUsize where
  get : Nat
  pos : 0 < get
  fits : get < u64Limit
  deriving DecidableEq

def NonZeroUsize.new (value : Nat) : Option NonZeroUsize :=
  if h : 0 < value ∧ value < u64Limit then some ⟨value, h.1, h.2⟩ else none

@[simp] theorem NonZeroUsize.new_get (count : NonZeroUsize) :
    NonZeroUsize.new count.get = some count := by
  unfold NonZeroUsize.new
  rw [dif_pos ⟨count.pos, count.fits⟩]

/-- The `Debug` form of a character, without the table of unprintable ones. -/
def charDebug (c : Char) : String :=
  match c with
  | '\'' => "'\\''"
  | '\\' => "'\\\\'"
  | '\n' => "'\\n'"
  | '\r' => "'\\r'"
  | '\t' => "'\\t'"
  | other => "'" ++ other.toString ++ "'"

def validateRuleId (ruleId : String) : Except ChainError Unit :=
  if ruleId.isEmpty then
    .error (.validation "schedules.rule_id" "must not be empty")
  else if ruleId.utf8ByteSize > maxRuleIdLen then
    .error (.validation "schedules.rule_id"
      s!"must not exceed {maxRuleIdLen} characters, got {ruleId.utf8ByteSize}")
  else
    match ruleId.toList.find? fun c => !c.isAlphanum && c != '_' && c != '-' with
    | some bad =>
        .error (.validation "schedules.rule_id"
          s!"must contain only [A-Za-z0-9_-], found {charDebug bad}")
    | none => .ok ()

def weekdayName : Weekday → String
  | .mon => "Mon"
  | .tue => "Tue"
  | .wed => "Wed"
  | .thu => "Thu"
  | .fri => "Fri"
  | .sat => "Sat"
  | .sun => "Sun"

def rejectWeekend (field : String) (weekday : Weekday) : Except ChainError Unit :=
  match weekday with
  | .sat | .sun =>
      .error (.validation field
        s!"{weekdayName weekday} is never an eligible expiration day under weekdays_v1")
  | _ => .ok ()

def rejectWeekends (field : String) : List Weekday → Except ChainError Unit
  | [] => .ok ()
  | weekday :: rest => do
      rejectWeekend field weekday
      rejectWeekends field rest

def validateRuleKind (ruleId : String) (kind : ExpiryRuleKind) : Except ChainError Unit :=
  let field := s!"schedules.{ruleId}.{kind.kindName}"
  match kind with
  | .daily => .ok ()
  | .weekly weekdays =>
      if weekdays.isEmpty then
        .error (.validation s!"{field}.weekdays" "must name at least one weekday")
      else rejectWeekends s!"{field}.weekdays" weekdays
  | .monthly weekday => rejectWeekend s!"{field}.weekday" weekday
  | .yearly weekday month => do
      rejectWeekend s!"{field}.weekday" weekday
      if 1 ≤ month ∧ month ≤ 12 then .ok ()
      else .error (.validation s!"{field}.month" s!"must be between 1 and 12, got {month}")

theorem rejectWeekend_eq_ok {field : String} {weekday : Weekday} :
    rejectWeekend field weekday = .ok () ↔ weekday ≠ .sat ∧ weekday ≠ .sun := by
  cases weekday <;> simp [rejectWeekend]

theorem rejectWeekends_eq_ok {field : String} {weekdays : List Weekday} :
    rejectWeekends field weekdays = .ok () ↔
      ∀ weekday ∈ weekdays, weekday ≠ .sat ∧ weekday ≠ .sun := by
  induction weekdays with
  | nil => simp [rejectWeekends]
  | cons weekday rest ih =>
      simp only [rejectWeekends, bind_unit_eq_ok, List.mem_cons, forall_eq_or_imp, ih,
        rejectWeekend_eq_ok]

/-- What a rule kind must satisfy to be projected. -/
def ExpiryRuleKind.WellFormed : ExpiryRuleKind → Prop
  | .daily => True
  | .weekly weekdays => weekdays ≠ [] ∧ ∀ weekday ∈ weekdays, weekday ≠ .sat ∧ weekday ≠ .sun
  | .monthly weekday => weekday ≠ .sat ∧ weekday ≠ .sun
  | .yearly weekday month => (weekday ≠ .sat ∧ weekday ≠ .sun) ∧ 1 ≤ month ∧ month ≤ 12

theorem validateRuleKind_eq_ok {ruleId : String} {kind : ExpiryRuleKind} :
    validateRuleKind ruleId kind = .ok () ↔ kind.WellFormed := by
  cases kind with
  | daily => simp [validateRuleKind, ExpiryRuleKind.WellFormed]
  | weekly weekdays =>
      simp only [validateRuleKind, ExpiryRuleKind.WellFormed, List.isEmpty_iff]
      split_ifs with nothing
      · simp [nothing]
      · rw [rejectWeekends_eq_ok]
        exact ⟨fun checked => ⟨nothing, checked⟩, fun checked => checked.2⟩
  | monthly weekday => exact rejectWeekend_eq_ok
  | yearly weekday month =>
      simp only [validateRuleKind, ExpiryRuleKind.WellFormed, bind_unit_eq_ok, rejectWeekend_eq_ok]
      split_ifs with inYear
      · simp [inYear]
      · simp [inYear]

/-- A rule that passed `ExpiryRule::from_parts`. -/
structure ExpiryRule where
  ruleId : String
  kind : ExpiryRuleKind
  targetCount : NonZeroUsize
  ruleId_valid : validateRuleId ruleId = .ok ()
  targetCount_le : targetCount.get ≤ maxTargetCount
  kind_wellFormed : kind.WellFormed
  kind_normalised : kind.normalised = kind
  deriving DecidableEq

namespace ExpiryRule

@[ext] theorem ext {left right : ExpiryRule} (ids : left.ruleId = right.ruleId)
    (kinds : left.kind = right.kind) (counts : left.targetCount = right.targetCount) :
    left = right := by
  cases left
  cases right
  cases ids
  cases kinds
  cases counts
  rfl

def fromParts (ruleId : String) (kind : ExpiryRuleKind) (targetCount : NonZeroUsize) :
    Except ChainError ExpiryRule :=
  match idChecked : validateRuleId ruleId with
  | .error error => .error error
  | .ok () =>
      if tooMany : targetCount.get > maxTargetCount then
        .error (.validation s!"schedules.{ruleId}.target_count"
          s!"must not exceed {maxTargetCount}, got {targetCount.get}")
      else
        match kindChecked : validateRuleKind ruleId kind.normalised with
        | .error error => .error error
        | .ok () =>
            -- the source normalises once more here, for the same value
            .ok
              { ruleId := ruleId
                kind := kind.normalised.normalised
                targetCount := targetCount
                ruleId_valid := idChecked
                targetCount_le := not_lt.mp tooMany
                kind_wellFormed := by
                  rw [ExpiryRuleKind.normalised_normalised]
                  exact validateRuleKind_eq_ok.mp kindChecked
                kind_normalised := by
                  simp only [ExpiryRuleKind.normalised_normalised] }

def new (ruleId : String) (kind : ExpiryRuleKind) (targetCount : Nat) :
    Except ChainError ExpiryRule :=
  match NonZeroUsize.new targetCount with
  | none =>
      .error (.validation s!"schedules.{ruleId}.target_count" "must be at least 1")
  | some targetCount => fromParts ruleId kind targetCount

theorem fromParts_eq_ok {ruleId : String} {kind : ExpiryRuleKind}
    {targetCount : NonZeroUsize} {rule : ExpiryRule} :
    fromParts ruleId kind targetCount = .ok rule ↔
      validateRuleId ruleId = .ok () ∧ targetCount.get ≤ maxTargetCount ∧
        kind.normalised.WellFormed ∧ rule.ruleId = ruleId ∧ rule.kind = kind.normalised ∧
        rule.targetCount = targetCount := by
  constructor
  · intro accepted
    unfold fromParts at accepted
    split at accepted
    next => cases accepted
    next idChecked =>
      split_ifs at accepted with tooMany
      split at accepted
      next => cases accepted
      next kindChecked =>
        cases accepted
        exact ⟨idChecked, not_lt.mp tooMany, validateRuleKind_eq_ok.mp kindChecked, rfl,
          ExpiryRuleKind.normalised_normalised kind, rfl⟩
  · intro checks
    obtain ⟨idChecked, within, wellFormed, rfl, same, rfl⟩ := checks
    have kindChecked : validateRuleKind rule.ruleId kind.normalised = .ok () :=
      validateRuleKind_eq_ok.mpr wellFormed
    unfold fromParts
    split
    next error rejected =>
      rw [idChecked] at rejected
      cases rejected
    next accepted =>
      rw [dif_neg (not_lt.mpr within)]
      split
      next error rejected =>
        rw [kindChecked] at rejected
        cases rejected
      next accepted =>
        congr 1
        apply ExpiryRule.ext
        · rfl
        · rw [same]
          exact ExpiryRuleKind.normalised_normalised kind
        · rfl

theorem fromParts_self (rule : ExpiryRule) :
    fromParts rule.ruleId rule.kind rule.targetCount = .ok rule := by
  have wellFormed : rule.kind.normalised.WellFormed := by
    rw [rule.kind_normalised]
    exact rule.kind_wellFormed
  exact fromParts_eq_ok.mpr ⟨rule.ruleId_valid, rule.targetCount_le, wellFormed, rfl,
    rule.kind_normalised.symm, rfl⟩

end ExpiryRule

/-- The flat wire shape of a rule, tagged by `kind`. -/
structure ExpiryRuleWire where
  ruleId : String
  kind : String
  targetCount : NonZeroUsize
  weekdays : Option (List Weekday)
  weekday : Option Weekday
  month : Option Nat
  deriving DecidableEq

namespace ExpiryRuleWire

def ofRule (rule : ExpiryRule) : ExpiryRuleWire :=
  let (weekdays, weekday, month) :=
    match rule.kind with
    | .daily => (none, none, none)
    | .weekly weekdays => (some weekdays, none, none)
    | .monthly weekday => (none, some weekday, none)
    | .yearly weekday month => (none, some weekday, some month)
  { ruleId := rule.ruleId
    kind := rule.kind.kindName
    targetCount := rule.targetCount
    weekdays := weekdays
    weekday := weekday
    month := month }

def field (wire : ExpiryRuleWire) (name : String) : String :=
  s!"schedules.{wire.ruleId}.{name}"

/-- Rejects a field that does not belong to the rule's kind. -/
def reject (wire : ExpiryRuleWire) (present : Bool) (name : String) : Except ChainError Unit :=
  if present then
    .error (.validation (wire.field name) s!"is not valid for a {wire.kind} rule")
  else .ok ()

/-- The value of a field the rule's kind cannot do without. -/
def required {α : Type} (wire : ExpiryRuleWire) (value : Option α) (name : String) :
    Except ChainError α :=
  match value with
  | some value => .ok value
  | none => .error (.validation (wire.field name) s!"is required for a {wire.kind} rule")

def ruleKind (wire : ExpiryRuleWire) : Except ChainError ExpiryRuleKind :=
  match wire.kind with
  | "daily" => do
      wire.reject wire.weekdays.isSome "weekdays"
      wire.reject wire.weekday.isSome "weekday"
      wire.reject wire.month.isSome "month"
      return .daily
  | "weekly" => do
      wire.reject wire.weekday.isSome "weekday"
      wire.reject wire.month.isSome "month"
      let weekdays ← wire.required wire.weekdays "weekdays"
      return .weekly (ExpiryRuleKind.orderedWeekdays weekdays)
  | "monthly" => do
      wire.reject wire.weekdays.isSome "weekdays"
      wire.reject wire.month.isSome "month"
      let weekday ← wire.required wire.weekday "weekday"
      return .monthly weekday
  | "yearly" => do
      wire.reject wire.weekdays.isSome "weekdays"
      let weekday ← wire.required wire.weekday "weekday"
      return .yearly weekday (wire.month.getD defaultYearlyMonth)
  | other =>
      .error (.validation (wire.field "kind")
        s!"must be one of daily, weekly, monthly, yearly; got {other.quote}")

/-- `TryFrom<ExpiryRuleWire> for ExpiryRule`. -/
def tryIntoRule (wire : ExpiryRuleWire) : Except ChainError ExpiryRule := do
  validateRuleId wire.ruleId
  let kind ← wire.ruleKind
  ExpiryRule.fromParts wire.ruleId kind wire.targetCount

theorem ruleKind_ofRule (rule : ExpiryRule) : (ofRule rule).ruleKind = .ok rule.kind := by
  have normal := rule.kind_normalised
  unfold ofRule
  cases kinds : rule.kind with
  | daily => rfl
  | weekly weekdays =>
      rw [kinds] at normal
      simp only [ExpiryRuleKind.normalised, ExpiryRuleKind.weekly.injEq] at normal
      have kept : (ofRule rule).ruleKind =
          .ok (.weekly (ExpiryRuleKind.orderedWeekdays weekdays)) := by
        unfold ofRule
        rw [kinds]
        rfl
      rw [← normal]
      simpa only [ofRule, kinds, normal] using kept
  | monthly weekday => rfl
  | yearly weekday month => rfl

theorem tryIntoRule_ofRule (rule : ExpiryRule) : (ofRule rule).tryIntoRule = .ok rule := by
  unfold tryIntoRule
  rw [ruleKind_ofRule]
  refine bind_eq_ok.mpr ⟨(), rule.ruleId_valid, ?_⟩
  exact rule.fromParts_self

end ExpiryRuleWire

end OptionChainSimulator.Domain.Expiry
