import Mathlib.Tactic
import OptionChainSimulator.Domain.Expiry.Planner

namespace OptionChainSimulator.Domain.Expiry

open Foundation Utils Domain

/-! How many expirations the planner keeps, whatever its zone does to the order of days. -/

namespace RollingPlanner

variable {planner : RollingPlanner} {rule : ExpiryRule} {simulatedAt : UtcDateTime}
  {wanted : Nat} {found result : OrderedSet UtcDateTime}

theorem card_collect_le {date : NaiveDate}
    (collected : planner.collect rule simulatedAt date found = .ok result) :
    result.card ≤ found.card + 1 := by
  unfold collect at collected
  split at collected
  · cases collected
    exact Nat.le_succ _
  · obtain ⟨expiresAt, -, kept⟩ := bind_eq_ok.mp collected
    cases kept
    split_ifs with after
    · exact OrderedSet.card_insert_le expiresAt found
    · exact Nat.le_succ _

theorem card_visitDay_le {accepts : NaiveDate → Bool} {date : NaiveDate}
    (visited : planner.visitDay rule simulatedAt accepts date found = .ok result) :
    result.card ≤ found.card + 1 := by
  unfold visitDay at visited
  split_ifs at visited with accepted
  · exact card_collect_le visited
  · cases visited
    exact Nat.le_succ _

theorem card_visitPeriod_le {candidate : Option NaiveDate}
    (visited : planner.visitPeriod rule simulatedAt candidate found = .ok result) :
    result.card ≤ found.card + 1 := by
  cases candidate with
  | none =>
      cases visited
      exact Nat.le_succ _
  | some date => exact card_collect_le visited

theorem card_scanDaysFrom_le {accepts : NaiveDate → Bool} {budget : Nat} {date : NaiveDate}
    (few : found.card < wanted)
    (scanned : planner.scanDaysFrom rule simulatedAt wanted accepts budget date found =
      .ok result) : result.card ≤ wanted := by
  induction budget generalizing date found with
  | zero =>
      cases scanned
      exact few.le
  | succ budget ih =>
      obtain ⟨visited, visiting, scanned⟩ := bind_eq_ok.mp scanned
      have oneMore := card_visitDay_le visiting
      split_ifs at scanned with enough
      · cases scanned
        omega
      · obtain ⟨next, -, scanned⟩ := bind_eq_ok.mp scanned
        exact ih (not_le.mp enough) scanned

theorem card_scanPeriodsFrom_le {dateFor : Nat → Except ChainError (Option NaiveDate)}
    {budget index : Nat} (few : found.card ≤ wanted)
    (scanned : planner.scanPeriodsFrom rule simulatedAt wanted dateFor budget index found =
      .ok result) : result.card ≤ wanted := by
  induction budget generalizing index found with
  | zero =>
      cases scanned
      exact few
  | succ budget ih =>
      unfold scanPeriodsFrom at scanned
      split_ifs at scanned with enough
      · cases scanned
        exact few
      · obtain ⟨candidate, -, scanned⟩ := bind_eq_ok.mp scanned
        obtain ⟨visited, visiting, scanned⟩ := bind_eq_ok.mp scanned
        have oneMore := card_visitPeriod_le visiting
        exact ih (by omega) scanned

theorem card_scan_le {start : NaiveDate} (positive : 0 < wanted)
    (scanned : planner.scan rule start simulatedAt wanted OrderedSet.empty = .ok result) :
    result.card ≤ wanted := by
  have none : (OrderedSet.empty : OrderedSet UtcDateTime).card = 0 := rfl
  unfold scan at scanned
  split at scanned
  · obtain ⟨budget, -, scanned⟩ := bind_eq_ok.mp scanned
    exact card_scanDaysFrom_le (none ▸ positive) scanned
  · obtain ⟨budget, -, scanned⟩ := bind_eq_ok.mp scanned
    exact card_scanDaysFrom_le (none ▸ positive) scanned
  · obtain ⟨_, -, scanned⟩ := bind_eq_ok.mp scanned
    obtain ⟨budget, -, scanned⟩ := bind_eq_ok.mp scanned
    exact card_scanPeriodsFrom_le (none ▸ Nat.zero_le wanted) scanned
  · obtain ⟨_, -, scanned⟩ := bind_eq_ok.mp scanned
    obtain ⟨budget, -, scanned⟩ := bind_eq_ok.mp scanned
    exact card_scanPeriodsFrom_le (none ▸ Nat.zero_le wanted) scanned

theorem card_projectRule_le (projected : planner.projectRule rule simulatedAt = .ok result) :
    result.card ≤ rule.targetCount.get := by
  unfold projectRule at projected
  dsimp only at projected
  split at projected
  · cases projected
  · obtain ⟨found, scanned, kept⟩ := bind_eq_ok.mp projected
    split_ifs at kept with few
    cases kept
    exact card_scan_le rule.targetCount.pos (lift_eq_ok.mp scanned)

theorem length_mergeLabels_le {ruleId : String} {values : List UtcDateTime} {merged : Merged} :
    (values.foldl (mergeLabel ruleId) merged).entries.length ≤
      merged.entries.length + values.length := by
  induction values generalizing merged with
  | nil => exact le_refl _
  | cons head tail ih =>
      have rest := @ih (mergeLabel ruleId merged head)
      have one : (mergeLabel ruleId merged head).entries.length ≤ merged.entries.length + 1 :=
        OrderedMap.length_upsert_le _ _ _ merged
      rw [List.foldl_cons, List.length_cons]
      omega

theorem length_mergeRules_le {rules : List ExpiryRule} {merged last : Merged}
    (merging : planner.mergeRules simulatedAt merged rules = .ok last) :
    last.entries.length ≤ merged.entries.length + totalCount rules := by
  induction rules generalizing merged with
  | nil =>
      cases merging
      exact Nat.le_add_right _ _
  | cons rule rest ih =>
      obtain ⟨projected, projection, merging⟩ := bind_eq_ok.mp merging
      have others := ih merging
      have labels := @length_mergeLabels_le rule.ruleId projected.toList merged
      have first : projected.toList.length ≤ rule.targetCount.get := card_projectRule_le projection
      have sums : totalCount (rule :: rest) = rule.targetCount.get + totalCount rest := rfl
      omega

/-- Rules that claim the same instant are kept once. -/
theorem length_activeAt_le {active : List ActiveExpiry}
    (succeeded : planner.activeAt simulatedAt = .ok active) :
    active.length ≤ totalCount planner.schedule.rules := by
  obtain ⟨merged, merging, listed⟩ := bind_eq_ok.mp succeeded
  cases listed
  have bounded := length_mergeRules_le merging
  rw [List.length_map]
  exact bounded.trans_eq (Nat.zero_add _)

end RollingPlanner

end OptionChainSimulator.Domain.Expiry
