import Mathlib.Tactic
import Mathlib.Data.List.Sort
import OptionChainSimulator.Domain.Expiry.Rule

namespace OptionChainSimulator.Domain.Expiry

open Foundation Utils Domain

/-! A complete schedule.  `ExpirationSchedule::new` checks the rule list and sorts
it by id; both facts are fields of the schedule. -/

def maxScheduleRules : Nat := 16
def maxExpirationsPerSnapshot : Nat := 512

/-- The loop of `ExpirationSchedule::validate`, over the ids seen and the count
projected so far. -/
def validateEach (seen : OrderedSet String) (projected : Nat) :
    List ExpiryRule → Except ChainError Nat
  | [] => .ok projected
  | rule :: rest =>
      if rule.ruleId ∈ seen then
        .error (.validation s!"schedules.{rule.ruleId}.rule_id"
          "must be unique within the schedule")
      else
        match unsigned? u64Limit (projected + rule.targetCount.get) with
        | none => .error (.validation "schedules" "total expiration count overflows")
        | some projected => validateEach (seen.insert rule.ruleId) projected rest

def validateRules (rules : List ExpiryRule) : Except ChainError Unit :=
  if rules.isEmpty then
    .error (.validation "schedules" "must declare at least one expiration rule")
  else if rules.length > maxScheduleRules then
    .error (.validation "schedules"
      s!"must not exceed {maxScheduleRules} rules, got {rules.length}")
  else do
    let projected ← validateEach OrderedSet.empty 0 rules
    if projected > maxExpirationsPerSnapshot then
      .error (.validation "schedules"
        s!"total expiration count must not exceed {maxExpirationsPerSnapshot}, got {projected}")
    else .ok ()

def totalCount (rules : List ExpiryRule) : Nat :=
  (rules.map fun rule => rule.targetCount.get).sum

theorem totalCount_le (rules : List ExpiryRule) :
    totalCount rules ≤ rules.length * maxTargetCount := by
  unfold totalCount
  induction rules with
  | nil => simp
  | cons rule rest ih =>
      have bound := rule.targetCount_le
      simp only [List.map_cons, List.sum_cons, List.length_cons]
      rw [Nat.succ_mul]
      omega

theorem validateEach_eq_ok {seen : OrderedSet String} {projected total : Nat}
    {rules : List ExpiryRule} (fits : projected + totalCount rules < u64Limit) :
    validateEach seen projected rules = .ok total ↔
      ((rules.map ExpiryRule.ruleId).Nodup ∧ ∀ rule ∈ rules, rule.ruleId ∉ seen) ∧
        total = projected + totalCount rules := by
  induction rules generalizing seen projected with
  | nil => simp [validateEach, totalCount, eq_comm]
  | cons rule rest ih =>
      have split : totalCount (rule :: rest) = rule.targetCount.get + totalCount rest := rfl
      rw [split] at fits ⊢
      have added : unsigned? u64Limit (projected + rule.targetCount.get) =
          some (projected + rule.targetCount.get) :=
        unsigned?_eq_some.mpr ⟨by omega, rfl⟩
      rw [validateEach]
      split_ifs with duplicate
      · simp [duplicate]
      · rw [added]
        simp only
        rw [ih (by omega)]
        simp only [List.map_cons, List.nodup_cons, List.mem_map, not_exists, not_and,
          List.mem_cons, forall_eq_or_imp, OrderedSet.mem_insert, not_or]
        constructor
        · rintro ⟨⟨distinct, fresh⟩, rfl⟩
          exact ⟨⟨⟨fun other member => (fresh other member).1, distinct⟩, duplicate,
            fun other member => (fresh other member).2⟩, by omega⟩
        · rintro ⟨⟨⟨different, distinct⟩, -, fresh⟩, rfl⟩
          exact ⟨⟨distinct, fun other member =>
            ⟨different other member, fresh other member⟩⟩, by omega⟩

theorem validateRules_eq_ok {rules : List ExpiryRule} :
    validateRules rules = .ok () ↔
      rules ≠ [] ∧ rules.length ≤ maxScheduleRules ∧
        (rules.map ExpiryRule.ruleId).Nodup ∧
        totalCount rules ≤ maxExpirationsPerSnapshot := by
  simp only [validateRules, List.isEmpty_iff]
  split_ifs with nothing tooMany
  · simp [nothing]
  · simp [not_le.mpr tooMany]
  · have fits : 0 + totalCount rules < u64Limit := by
      have bound := totalCount_le rules
      unfold maxTargetCount at bound
      unfold maxScheduleRules at tooMany
      unfold u64Limit
      omega
    simp only [bind_eq_ok, validateEach_eq_ok fits, zero_add]
    constructor
    · rintro ⟨total, ⟨⟨distinct, -⟩, rfl⟩, within⟩
      refine ⟨nothing, not_lt.mp tooMany, distinct, ?_⟩
      by_contra above
      rw [if_pos (not_le.mp above)] at within
      cases within
    · rintro ⟨-, -, distinct, within⟩
      refine ⟨totalCount rules, ⟨⟨distinct, ?_⟩, rfl⟩, ?_⟩
      · intro rule member
        exact OrderedSet.notMem_empty rule.ruleId
      · rw [if_neg (not_lt.mpr within)]

theorem validateRules_perm {left right : List ExpiryRule} (perm : left.Perm right) :
    validateRules left = .ok () ↔ validateRules right = .ok () := by
  have ids := (perm.map ExpiryRule.ruleId).nodup_iff
  have counts : totalCount left = totalCount right := by
    unfold totalCount
    exact (perm.map _).sum_eq
  have empty : left = [] ↔ right = [] := by
    constructor
    · rintro rfl
      exact perm.nil_eq.symm
    · rintro rfl
      exact perm.eq_nil
  simp only [validateRules_eq_ok, ne_eq, empty, perm.length_eq, ids, counts]

/-- Sorted ids, as `sort_by` leaves them. -/
def sortRules (rules : List ExpiryRule) : List ExpiryRule :=
  rules.insertionSort fun left right => left.ruleId ≤ right.ruleId

theorem sortRules_perm (rules : List ExpiryRule) : (sortRules rules).Perm rules :=
  List.perm_insertionSort _ rules

theorem sortRules_sorted (rules : List ExpiryRule) :
    (sortRules rules).Pairwise fun left right => left.ruleId ≤ right.ruleId := by
  have total : Std.Total fun left right : ExpiryRule => left.ruleId ≤ right.ruleId :=
    ⟨fun left right => le_total left.ruleId right.ruleId⟩
  have transitive : IsTrans ExpiryRule fun left right => left.ruleId ≤ right.ruleId :=
    ⟨fun _ _ _ => le_trans⟩
  exact List.pairwise_insertionSort _ rules

structure ExpirationSchedule where
  calendar : CalendarVersion
  timezone : Tz
  expirationTime : NaiveTime
  rules : List ExpiryRule
  rules_valid : validateRules rules = .ok ()
  rules_sorted : rules.Pairwise fun left right => left.ruleId ≤ right.ruleId
  deriving DecidableEq

namespace ExpirationSchedule

def new (calendar : CalendarVersion) (timezone : Tz) (expirationTime : NaiveTime)
    (rules : List ExpiryRule) : Except ChainError ExpirationSchedule :=
  match checked : validateRules rules with
  | .error error => .error error
  | .ok () =>
      .ok
        { calendar := calendar
          timezone := timezone
          expirationTime := expirationTime
          rules := sortRules rules
          rules_valid := (validateRules_perm (sortRules_perm rules)).mpr checked
          rules_sorted := sortRules_sorted rules }

theorem ruleIds_nodup (schedule : ExpirationSchedule) :
    (schedule.rules.map ExpiryRule.ruleId).Nodup :=
  (validateRules_eq_ok.mp schedule.rules_valid).2.2.1

theorem eq_of_ruleId_eq (schedule : ExpirationSchedule) {left right : ExpiryRule}
    (leftMem : left ∈ schedule.rules) (rightMem : right ∈ schedule.rules)
    (ids : left.ruleId = right.ruleId) : left = right :=
  List.inj_on_of_nodup_map schedule.ruleIds_nodup leftMem rightMem ids

/-- Sorting what is already sorted changes nothing, so a schedule is rebuilt from its
own parts; this is what decoding a stored schedule does. -/
theorem new_self (schedule : ExpirationSchedule) :
    new schedule.calendar schedule.timezone schedule.expirationTime schedule.rules =
      .ok schedule := by
  have kept : sortRules schedule.rules = schedule.rules :=
    List.Pairwise.insertionSort_eq schedule.rules_sorted
  unfold new
  split
  next error rejected =>
    rw [schedule.rules_valid] at rejected
    cases rejected
  next accepted =>
    congr 1
    cases schedule
    simp only [ExpirationSchedule.mk.injEq, true_and]
    exact kept

theorem new_eq_ok {calendar : CalendarVersion} {timezone : Tz} {expirationTime : NaiveTime}
    {rules : List ExpiryRule} {schedule : ExpirationSchedule}
    (accepted : new calendar timezone expirationTime rules = .ok schedule) :
    validateRules rules = .ok () ∧ schedule.calendar = calendar ∧
      schedule.timezone = timezone ∧ schedule.expirationTime = expirationTime ∧
      schedule.rules = sortRules rules := by
  unfold new at accepted
  split at accepted
  next error rejected => cases accepted
  next checked =>
    cases accepted
    exact ⟨checked, rfl, rfl, rfl, rfl⟩

end ExpirationSchedule

/-- The stored shape of a schedule, and `TryFrom` over it. -/
structure ExpirationScheduleWire where
  calendar : CalendarVersion
  timezone : Tz
  expirationTime : NaiveTime
  rules : List ExpiryRuleWire

namespace ExpirationScheduleWire

def ofSchedule (schedule : ExpirationSchedule) : ExpirationScheduleWire where
  calendar := schedule.calendar
  timezone := schedule.timezone
  expirationTime := schedule.expirationTime
  rules := schedule.rules.map ExpiryRuleWire.ofRule

def tryIntoSchedule (wire : ExpirationScheduleWire) : Except ChainError ExpirationSchedule := do
  let rules ← wire.rules.mapM ExpiryRuleWire.tryIntoRule
  ExpirationSchedule.new wire.calendar wire.timezone wire.expirationTime rules

theorem mapM_tryIntoRule (rules : List ExpiryRule) :
    (rules.map ExpiryRuleWire.ofRule).mapM ExpiryRuleWire.tryIntoRule = .ok rules := by
  induction rules with
  | nil => rfl
  | cons rule rest ih =>
      rw [List.map_cons, List.mapM_cons, ih, ExpiryRuleWire.tryIntoRule_ofRule]
      rfl

theorem tryIntoSchedule_ofSchedule (schedule : ExpirationSchedule) :
    (ofSchedule schedule).tryIntoSchedule = .ok schedule := by
  unfold tryIntoSchedule ofSchedule
  refine bind_eq_ok.mpr ⟨schedule.rules, mapM_tryIntoRule schedule.rules, ?_⟩
  exact schedule.new_self

end ExpirationScheduleWire

end OptionChainSimulator.Domain.Expiry
