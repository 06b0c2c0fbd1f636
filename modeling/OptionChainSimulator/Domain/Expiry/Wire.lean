import Mathlib.Tactic
import Mathlib.Data.List.Perm.Basic
import OptionChainSimulator.Domain.Expiry.Inventory

namespace OptionChainSimulator.Domain.Expiry

open Foundation Utils Domain

/-! The wire form of rules and schedules: which documents are accepted, and that decoding
and encoding again only normalises. -/

section Statement

/-- One of `A-Z`, `a-z`, `0-9`, `_` and `-`. -/
def idCharacter (c : Char) : Prop := c.isAlphanum ∨ c = '_' ∨ c = '-'

def eligibleDay (weekday : Weekday) : Prop := weekday ≠ .sat ∧ weekday ≠ .sun

namespace ExpiryRuleWire

/-- The fields of a rule's kind, and no others. -/
inductive FieldsOfKind (wire : ExpiryRuleWire) : Prop where
  | daily (kind : wire.kind = "daily") (weekdays : wire.weekdays = none)
      (weekday : wire.weekday = none) (month : wire.month = none)
  | weekly (kind : wire.kind = "weekly") (days : List Weekday)
    (weekdays : wire.weekdays = some days)
      (weekday : wire.weekday = none) (month : wire.month = none)
  | monthly (kind : wire.kind = "monthly") (day : Weekday) (weekdays : wire.weekdays = none)
      (weekday : wire.weekday = some day) (month : wire.month = none)
  | yearly (kind : wire.kind = "yearly") (day : Weekday) (weekdays : wire.weekdays = none)
      (weekday : wire.weekday = some day)

/-- What a rule document has to be. -/
structure Acceptable (wire : ExpiryRuleWire) : Prop where
  fields : wire.FieldsOfKind
  nonempty : 1 ≤ wire.ruleId.length
  short : wire.ruleId.length ≤ 64
  characters : ∀ c ∈ wire.ruleId.toList, idCharacter c
  weekdays : ∀ days, wire.weekdays = some days → days ≠ [] ∧ ∀ day ∈ days, eligibleDay day
  weekday : ∀ day, wire.weekday = some day → eligibleDay day
  month : ∀ month, wire.month = some month → 1 ≤ month ∧ month ≤ 12
  targetCount : 1 ≤ wire.targetCount.get ∧ wire.targetCount.get ≤ 256

/-- Rules that differ in the order and the repetitions of their weekdays, and in whether a
yearly rule says December, at most. -/
structure Similar (left right : ExpiryRuleWire) : Prop where
  ruleId : left.ruleId = right.ruleId
  kind : left.kind = right.kind
  targetCount : left.targetCount = right.targetCount
  weekdays : Option.Rel (fun left right => ∀ day, day ∈ left ↔ day ∈ right)
    left.weekdays right.weekdays
  weekday : left.weekday = right.weekday
  month : left.month = right.month ∨
    left.kind = "yearly" ∧ left.month.getD defaultYearlyMonth = right.month.getD defaultYearlyMonth

/-- Weekdays without repetitions from Monday on, and the month of a yearly rule. -/
structure Normal (wire : ExpiryRuleWire) : Prop where
  weekdays : ∀ days, wire.weekdays = some days →
    days.Pairwise fun left right => left.numDaysFromMonday < right.numDaysFromMonday
  month : wire.kind = "yearly" → wire.month.isSome

end ExpiryRuleWire

namespace ExpirationScheduleWire

/-- Schedules that differ in the order of their rules, and in their rules as far as `Similar`
says. -/
structure Similar (left right : ExpirationScheduleWire) : Prop where
  calendar : left.calendar = right.calendar
  timezone : left.timezone = right.timezone
  expirationTime : left.expirationTime = right.expirationTime
  rules : ∃ reordered, left.rules.Perm reordered ∧
    List.Forall₂ ExpiryRuleWire.Similar reordered right.rules

structure Normal (wire : ExpirationScheduleWire) : Prop where
  sorted : wire.rules.Pairwise fun left right => left.ruleId ≤ right.ruleId
  rules : ∀ rule ∈ wire.rules, rule.Normal

end ExpirationScheduleWire

end Statement

section Facts

theorem utf8ByteSize_eq_length {text : String} (ascii : ∀ c ∈ text.toList, c.utf8Size = 1) :
    text.utf8ByteSize = text.length := by
  rw [← String.length_toList, ← @String.ofList_toList text]
  generalize text.toList = characters at ascii ⊢
  rw [String.toList_ofList]
  induction characters with
  | nil => rfl
  | cons c rest ih =>
      rw [String.ofList_cons, String.utf8ByteSize_append, String.utf8ByteSize_singleton,
        ascii c List.mem_cons_self, ih fun other member =>
          ascii other (List.mem_cons_of_mem _ member),
        List.length_cons, Nat.add_comm]

theorem utf8Size_of_idCharacter {c : Char} (allowed : idCharacter c) : c.utf8Size = 1 := by
  rw [Char.utf8Size_eq_one_iff]
  obtain alphanum | rfl | rfl := allowed
  · have small : c.val ≤ 122 := by
      change ((decide (c.val ≥ 65 ∧ c.val ≤ 90) ||
        (decide (c.val ≥ 97) && decide (c.val ≤ 122))) ||
          (decide (c.val ≥ 48) && decide (c.val ≤ 57))) = true at alphanum
      simp only [Bool.or_eq_true, Bool.and_eq_true, decide_eq_true_eq, ge_iff_le] at alphanum
      obtain (⟨-, upper⟩ | ⟨-, lower⟩) | ⟨-, digit⟩ := alphanum
      · exact UInt32.le_trans upper (by decide)
      · exact lower
      · exact UInt32.le_trans digit (by decide)
    exact UInt32.le_trans small (by decide)
  · decide
  · decide

theorem validateRuleId_eq_ok {ruleId : String} :
    validateRuleId ruleId = .ok () ↔
      1 ≤ ruleId.length ∧ ruleId.length ≤ 64 ∧ ∀ c ∈ ruleId.toList, idCharacter c := by
  have characters : (ruleId.toList.find? fun c => !c.isAlphanum && c != '_' && c != '-') = none ↔
      ∀ c ∈ ruleId.toList, idCharacter c := by
    simp only [List.find?_eq_none, idCharacter, Bool.and_eq_true, Bool.not_eq_true',
      bne_iff_ne, ne_eq]
    constructor
    · intro clean c member
      by_contra bad
      simp only [not_or, Bool.not_eq_true] at bad
      exact clean c member ⟨⟨bad.1, bad.2.1⟩, bad.2.2⟩
    · intro allowed c member bad
      obtain alphanum | equal | equal := allowed c member
      · rw [bad.1.1] at alphanum
        cases alphanum
      · exact bad.1.2 equal
      · exact bad.2 equal
  have filled : 1 ≤ ruleId.length ↔ ruleId ≠ "" := by
    rw [Nat.one_le_iff_ne_zero, ne_eq, String.length_eq_zero_iff]
  unfold validateRuleId maxRuleIdLen
  rw [filled]
  split_ifs with empty long
  · simp [String.isEmpty_iff.mp empty]
  · simp only [false_iff, not_and]
    intro _ short allowed
    rw [utf8ByteSize_eq_length fun c member => utf8Size_of_idCharacter (allowed c member)] at long
    omega
  · have nonempty : ruleId ≠ "" := fun same => empty (String.isEmpty_iff.mpr same)
    cases found : ruleId.toList.find? fun c => !c.isAlphanum && c != '_' && c != '-' with
    | none =>
        have allowed := characters.mp found
        rw [utf8ByteSize_eq_length fun c member => utf8Size_of_idCharacter (allowed c member)]
          at long
        exact iff_of_true rfl ⟨nonempty, not_lt.mp long, allowed⟩
    | some bad =>
        refine iff_of_false (fun accepted => by cases accepted) fun allowed => ?_
        rw [characters.mpr allowed.2.2] at found
        cases found

namespace ExpiryRuleWire

variable {wire left right : ExpiryRuleWire} {kind : ExpiryRuleKind} {rule : ExpiryRule}

theorem reject_eq_ok {present : Bool} {name : String} :
    wire.reject present name = .ok () ↔ present = false := by
  cases present <;> simp [reject]

theorem required_eq_ok {α : Type} {value : Option α} {name : String} {found : α} :
    wire.required value name = .ok found ↔ value = some found := by
  cases value <;> simp [required]

theorem ruleKind_eq_ok :
    wire.ruleKind = .ok kind ↔
      wire.kind = "daily" ∧ wire.weekdays = none ∧ wire.weekday = none ∧ wire.month = none ∧
          kind = .daily ∨
        (wire.kind = "weekly" ∧ wire.weekday = none ∧ wire.month = none ∧
          ∃ days, wire.weekdays = some days ∧
            kind = .weekly (ExpiryRuleKind.orderedWeekdays days)) ∨
        (wire.kind = "monthly" ∧ wire.weekdays = none ∧ wire.month = none ∧
          ∃ day, wire.weekday = some day ∧ kind = .monthly day) ∨
        (wire.kind = "yearly" ∧ wire.weekdays = none ∧
          ∃ day, wire.weekday = some day ∧
            kind = .yearly day (wire.month.getD defaultYearlyMonth)) := by
  unfold ruleKind
  split
  next named =>
    simp only [named, bind_unit_eq_ok, reject_eq_ok, Option.isSome_eq_false_iff,
      Option.isNone_iff_eq_none, pure, Except.pure, Except.ok.injEq]
    simp [eq_comm]
  next named =>
    simp only [named, bind_unit_eq_ok, reject_eq_ok, Option.isSome_eq_false_iff,
      Option.isNone_iff_eq_none]
    simp only [bind_eq_ok, required_eq_ok, pure, Except.pure, Except.ok.injEq]
    simp [eq_comm]
  next named =>
    simp only [named, bind_unit_eq_ok, reject_eq_ok, Option.isSome_eq_false_iff,
      Option.isNone_iff_eq_none]
    simp only [bind_eq_ok, required_eq_ok, pure, Except.pure, Except.ok.injEq]
    simp [eq_comm]
  next named =>
    simp only [named, bind_unit_eq_ok, reject_eq_ok, Option.isSome_eq_false_iff,
      Option.isNone_iff_eq_none]
    simp only [bind_eq_ok, required_eq_ok, pure, Except.pure, Except.ok.injEq]
    simp [eq_comm]
  next daily weekly monthly yearly =>
    refine iff_of_false (fun accepted => by cases accepted) fun said => ?_
    obtain said | said | said | said := said
    · exact daily said.1
    · exact weekly said.1
    · exact monthly said.1
    · exact yearly said.1

theorem tryIntoRule_eq_ok :
    wire.tryIntoRule = .ok rule ↔
      ∃ kind, validateRuleId wire.ruleId = .ok () ∧ wire.ruleKind = .ok kind ∧
        wire.targetCount.get ≤ maxTargetCount ∧ kind.normalised.WellFormed ∧
        rule.ruleId = wire.ruleId ∧ rule.kind = kind.normalised ∧
        rule.targetCount = wire.targetCount := by
  simp only [tryIntoRule, bind_unit_eq_ok]
  simp only [bind_eq_ok, ExpiryRule.fromParts_eq_ok]
  constructor
  · intro accepted
    obtain ⟨idChecked, kind, named, -, rest⟩ := accepted
    exact ⟨kind, idChecked, named, rest⟩
  · intro accepted
    obtain ⟨kind, idChecked, named, rest⟩ := accepted
    exact ⟨idChecked, kind, named, idChecked, rest⟩

theorem orderedWeekdays_ne_nil {days : List Weekday} :
    ExpiryRuleKind.orderedWeekdays days ≠ [] ↔ days ≠ [] := by
  rw [ne_eq, ne_eq, List.eq_nil_iff_forall_not_mem, List.eq_nil_iff_forall_not_mem]
  simp only [ExpiryRuleKind.mem_orderedWeekdays]

theorem accepted_iff_acceptable : (∃ rule, wire.tryIntoRule = .ok rule) ↔ wire.Acceptable := by
  constructor
  · intro accepted
    obtain ⟨rule, accepted⟩ := accepted
    obtain ⟨kind, idChecked, said, within, wellFormed, -⟩ := tryIntoRule_eq_ok.mp accepted
    obtain ⟨nonempty, short, characters⟩ := validateRuleId_eq_ok.mp idChecked
    have counted := And.intro (Nat.one_le_iff_ne_zero.mpr wire.targetCount.pos.ne') within
    obtain ⟨named, weekdays, weekday, month, rfl⟩ |
      ⟨named, weekday, month, days, weekdays, rfl⟩ | ⟨named, weekdays, month, day, weekday, rfl⟩ |
        ⟨named, weekdays, day, weekday, rfl⟩ := ruleKind_eq_ok.mp said
    · refine ⟨.daily named weekdays weekday month, nonempty, short, characters, ?_, ?_, ?_, counted⟩
      · simp [weekdays]
      · simp [weekday]
      · simp [month]
    · refine ⟨.weekly named days weekdays weekday month, nonempty, short, characters,
        fun given same => ?_, ?_, ?_, counted⟩
      · rw [weekdays] at same
        cases same
        obtain ⟨filled, eligible⟩ := wellFormed
        refine ⟨orderedWeekdays_ne_nil.mp (orderedWeekdays_ne_nil.mp filled), fun day member => ?_⟩
        exact eligible day (by simpa using member)
      · simp [weekday]
      · simp [month]
    · refine ⟨.monthly named day weekdays weekday month, nonempty, short, characters, ?_,
        fun given same => ?_, ?_, counted⟩
      · simp [weekdays]
      · rw [weekday] at same
        cases same
        exact wellFormed
      · simp [month]
    · refine ⟨.yearly named day weekdays weekday, nonempty, short, characters, ?_,
        fun given same => ?_, fun given same => ?_, counted⟩
      · simp [weekdays]
      · rw [weekday] at same
        cases same
        exact wellFormed.1
      · have inYear := wellFormed.2
        rw [same] at inYear
        exact inYear
  · intro acceptable
    have idChecked : validateRuleId wire.ruleId = .ok () :=
      validateRuleId_eq_ok.mpr
        ⟨acceptable.nonempty, acceptable.short, acceptable.characters⟩
    have built : ∀ {kind}, wire.ruleKind = .ok kind → kind.normalised.WellFormed →
        ∃ rule, wire.tryIntoRule = .ok rule := by
      intro kind said wellFormed
      exact ⟨⟨wire.ruleId, kind.normalised, wire.targetCount, idChecked,
        acceptable.targetCount.2, wellFormed, ExpiryRuleKind.normalised_normalised kind⟩,
        tryIntoRule_eq_ok.mpr ⟨kind, idChecked, said, acceptable.targetCount.2, wellFormed, rfl,
          rfl, rfl⟩⟩
    cases acceptable.fields with
    | daily named weekdays weekday month =>
        exact built (ruleKind_eq_ok.mpr (.inl ⟨named, weekdays, weekday, month, rfl⟩)) trivial
    | weekly named days weekdays weekday month =>
        obtain ⟨filled, eligible⟩ := acceptable.weekdays days weekdays
        refine built (ruleKind_eq_ok.mpr (.inr (.inl ⟨named, weekday, month, days, weekdays, rfl⟩)))
          ⟨orderedWeekdays_ne_nil.mpr (orderedWeekdays_ne_nil.mpr filled), fun day member => ?_⟩
        exact eligible day (by simpa using member)
    | monthly named day weekdays weekday month =>
        exact built (ruleKind_eq_ok.mpr
          (.inr (.inr (.inl ⟨named, weekdays, month, day, weekday, rfl⟩))))
          (acceptable.weekday day weekday)
    | yearly named day weekdays weekday =>
        refine built (ruleKind_eq_ok.mpr (.inr (.inr (.inr ⟨named, weekdays, day, weekday, rfl⟩))))
          ⟨acceptable.weekday day weekday, ?_⟩
        cases given : wire.month with
        | none => decide
        | some month => exact acceptable.month month given

theorem Similar.weekdays_none (similar : left.Similar right) (absent : left.weekdays = none) :
    right.weekdays = none := by
  have related := similar.weekdays
  rw [absent] at related
  cases given : right.weekdays with
  | none => rfl
  | some days =>
      rw [given] at related
      cases related

theorem Similar.weekdays_some {days : List Weekday} (similar : left.Similar right)
    (given : left.weekdays = some days) :
    ∃ others, right.weekdays = some others ∧ ∀ day, day ∈ days ↔ day ∈ others := by
  have related := similar.weekdays
  rw [given] at related
  cases found : right.weekdays with
  | none =>
      rw [found] at related
      cases related
  | some others =>
      rw [found] at related
      cases related with
      | some same => exact ⟨others, rfl, same⟩

theorem Similar.month_none (similar : left.Similar right) (other : left.kind ≠ "yearly")
    (absent : left.month = none) : right.month = none := by
  cases similar.month with
  | inl same => exact same ▸ absent
  | inr december => exact absurd december.1 other

/-- A document that differs as little as `Similar` says becomes the same rule. -/
theorem Similar.tryIntoRule (similar : left.Similar right)
    (accepted : left.tryIntoRule = .ok rule) :
    right.tryIntoRule = .ok rule := by
  obtain ⟨kind, idChecked, said, within, wellFormed, id, same, count⟩ :=
    tryIntoRule_eq_ok.mp accepted
  refine tryIntoRule_eq_ok.mpr ⟨kind, similar.ruleId ▸ idChecked, ?_, similar.targetCount ▸ within,
    wellFormed, id.trans similar.ruleId, same, count.trans similar.targetCount⟩
  apply ruleKind_eq_ok.mpr
  rw [← similar.kind, ← similar.weekday]
  obtain ⟨named, weekdays, weekday, month, rfl⟩ |
    ⟨named, weekday, month, days, weekdays, rfl⟩ | ⟨named, weekdays, month, day, weekday, rfl⟩ |
      ⟨named, weekdays, day, weekday, rfl⟩ := ruleKind_eq_ok.mp said
  · exact .inl ⟨named, similar.weekdays_none weekdays, weekday,
      similar.month_none (by simp [named]) month, rfl⟩
  · obtain ⟨others, given, sameDays⟩ := similar.weekdays_some weekdays
    refine .inr (.inl
      ⟨named, weekday, similar.month_none (by simp [named]) month, others, given, ?_⟩)
    rw [ExpiryRuleKind.orderedWeekdays_congr sameDays]
  · exact .inr (.inr (.inl ⟨named, similar.weekdays_none weekdays,
      similar.month_none (by simp [named]) month, day, weekday, rfl⟩))
  · refine .inr (.inr (.inr ⟨named, similar.weekdays_none weekdays, day, weekday, ?_⟩))
    cases similar.month with
    | inl equal => rw [equal]
    | inr december => rw [december.2]

theorem numDays_of_weekdayTryFrom {index : Nat} {day : Weekday}
    (converted : ExpiryRuleKind.weekdayTryFrom index = some day) :
    day.numDaysFromMonday = index := by
  unfold ExpiryRuleKind.weekdayTryFrom at converted
  split_ifs at converted with bound
  cases converted
  exact Weekday.numDaysFromMonday_ofIndex bound

theorem pairwise_orderedWeekdays (days : List Weekday) :
    (ExpiryRuleKind.orderedWeekdays days).Pairwise fun left right =>
      left.numDaysFromMonday < right.numDaysFromMonday := by
  unfold ExpiryRuleKind.orderedWeekdays
  rw [List.pairwise_filterMap]
  refine (ExpiryRuleKind.weekdayIndices days).sorted.imp fun {first second} below => ?_
  intro left converted right convertedRight
  rw [numDays_of_weekdayTryFrom converted, numDays_of_weekdayTryFrom convertedRight]
  exact below

theorem normal_ofRule (rule : ExpiryRule) : (ofRule rule).Normal := by
  have normal := rule.kind_normalised
  constructor
  · intro days given
    cases kinds : rule.kind with
    | weekly weekdays =>
        rw [kinds] at normal
        simp only [ExpiryRuleKind.normalised, ExpiryRuleKind.weekly.injEq] at normal
        simp only [ofRule, kinds, Option.some.injEq] at given
        rw [← given, ← normal]
        exact pairwise_orderedWeekdays weekdays
    | daily | monthly | yearly =>
        simp only [ofRule, kinds] at given
        cases given
  · intro named
    cases kinds : rule.kind with
    | yearly => simp [ofRule, kinds]
    | daily | weekly | monthly => simp [ofRule, kinds, ExpiryRuleKind.kindName] at named

end ExpiryRuleWire

namespace ExpirationScheduleWire

variable {left right wire : ExpirationScheduleWire} {schedule : ExpirationSchedule}

theorem tryIntoSchedule_eq_ok :
    wire.tryIntoSchedule = .ok schedule ↔
      ∃ rules, List.Forall₂ (fun wire rule => ExpiryRuleWire.tryIntoRule wire = .ok rule)
          wire.rules rules ∧
        ExpirationSchedule.new wire.calendar wire.timezone wire.expirationTime rules =
          .ok schedule := by
  simp only [tryIntoSchedule, bind_eq_ok, mapM_eq_ok]

theorem sortRules_of_perm {rules others : List ExpiryRule} (perm : others.Perm rules)
    (distinct : (rules.map ExpiryRule.ruleId).Nodup) : sortRules others = sortRules rules := by
  have same : (sortRules others).Perm (sortRules rules) :=
    ((sortRules_perm others).trans perm).trans (sortRules_perm rules).symm
  refine List.Perm.eq_of_pairwise ?_ (sortRules_sorted others) (sortRules_sorted rules) same
  intro first second memFirst memSecond below above
  have inFirst : first ∈ rules := perm.subset ((sortRules_perm others).subset memFirst)
  have inSecond : second ∈ rules := (sortRules_perm rules).subset memSecond
  exact List.inj_on_of_nodup_map distinct inFirst inSecond (le_antisymm below above)

theorem new_of_perm {calendar : CalendarVersion} {timezone : Tz} {expirationTime : NaiveTime}
    {rules others : List ExpiryRule} (perm : others.Perm rules)
    (accepted : ExpirationSchedule.new calendar timezone expirationTime rules = .ok schedule) :
    ExpirationSchedule.new calendar timezone expirationTime others = .ok schedule := by
  obtain ⟨checked, rfl, rfl, rfl, sorted⟩ := ExpirationSchedule.new_eq_ok accepted
  have distinct := (validateRules_eq_ok.mp checked).2.2.1
  have checkedOthers := (validateRules_perm perm).mpr checked
  unfold ExpirationSchedule.new
  split
  next error rejected =>
    rw [checkedOthers] at rejected
    cases rejected
  next =>
    congr 1
    cases schedule
    simp only [ExpirationSchedule.mk.injEq, true_and]
    rw [sortRules_of_perm perm distinct]
    exact sorted.symm

theorem rulesOfSimilar {wires others : List ExpiryRuleWire} {rules : List ExpiryRule}
    (similar : List.Forall₂ ExpiryRuleWire.Similar wires others)
    (decoded : List.Forall₂ (fun wire rule => ExpiryRuleWire.tryIntoRule wire = .ok rule) wires
      rules) :
    List.Forall₂ (fun wire rule => ExpiryRuleWire.tryIntoRule wire = .ok rule) others rules := by
  induction similar generalizing rules with
  | nil =>
      cases decoded
      exact .nil
  | cons first _ ih =>
      cases decoded with
      | cons decodedFirst decodedRest =>
          exact .cons (first.tryIntoRule decodedFirst) (ih decodedRest)

theorem Similar.tryIntoSchedule (similar : left.Similar right)
    (accepted : left.tryIntoSchedule = .ok schedule) : right.tryIntoSchedule = .ok schedule := by
  obtain ⟨rules, decoded, built⟩ := tryIntoSchedule_eq_ok.mp accepted
  obtain ⟨reordered, perm, rulesSimilar⟩ := similar.rules
  obtain ⟨others, decodedOthers, permOthers⟩ := List.perm_comp_forall₂ perm.symm decoded
  refine tryIntoSchedule_eq_ok.mpr ⟨others, rulesOfSimilar rulesSimilar decodedOthers, ?_⟩
  rw [← similar.calendar, ← similar.timezone, ← similar.expirationTime]
  exact new_of_perm permOthers built

theorem normal_ofSchedule (schedule : ExpirationSchedule) : (ofSchedule schedule).Normal where
  sorted := by
    simp only [ofSchedule, List.pairwise_map]
    exact schedule.rules_sorted
  rules := by
    intro wire member
    obtain ⟨rule, -, rfl⟩ := List.mem_map.mp member
    exact ExpiryRuleWire.normal_ofRule rule

end ExpirationScheduleWire

end Facts

/-- Encoding loses nothing, decoding normalises once and for all, similar documents are one
schedule, and a rule document is accepted exactly where it is acceptable. -/
theorem wireForm_canonical :
    (∀ calendar timezone expirationTime rules schedule,
      ExpirationSchedule.new calendar timezone expirationTime rules = .ok schedule →
        (ExpirationScheduleWire.ofSchedule schedule).tryIntoSchedule = .ok schedule) ∧
    (∀ wire schedule, ExpirationScheduleWire.tryIntoSchedule wire = .ok schedule →
      (ExpirationScheduleWire.ofSchedule schedule).tryIntoSchedule = .ok schedule ∧
        (ExpirationScheduleWire.ofSchedule schedule).Normal) ∧
    (∀ left right, ExpirationScheduleWire.Similar left right →
      ∀ schedule, left.tryIntoSchedule = .ok schedule →
        ∃ other, right.tryIntoSchedule = .ok other ∧ schedule = other ∧
          ∀ zones simulatedAt, RollingPlanner.activeAt ⟨zones, schedule⟩ simulatedAt =
            RollingPlanner.activeAt ⟨zones, other⟩ simulatedAt) ∧
    (∀ wire, (∃ rule, ExpiryRuleWire.tryIntoRule wire = .ok rule) ↔ wire.Acceptable) := by
  refine ⟨fun _ _ _ _ schedule _ => ExpirationScheduleWire.tryIntoSchedule_ofSchedule schedule,
    fun _ schedule _ => ⟨ExpirationScheduleWire.tryIntoSchedule_ofSchedule schedule,
      ExpirationScheduleWire.normal_ofSchedule schedule⟩,
    fun _ _ similar schedule accepted =>
      ⟨schedule, similar.tryIntoSchedule accepted, rfl, fun _ _ => rfl⟩,
    fun _ => ExpiryRuleWire.accepted_iff_acceptable⟩

end OptionChainSimulator.Domain.Expiry
