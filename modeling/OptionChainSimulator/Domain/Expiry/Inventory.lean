import Mathlib.Tactic
import OptionChainSimulator.Domain.Expiry.Projection

namespace OptionChainSimulator.Domain.Expiry

open Foundation Utils Domain

/-! The merged inventory: coincident expirations of several rules become one entry
with all their labels. -/

namespace RollingPlanner

variable {planner : RollingPlanner} {rule : ExpiryRule} {simulatedAt : UtcDateTime}

def labelsAt (merged : Merged) (instant : UtcDateTime) : OrderedSet String :=
  (merged.get? instant).getD OrderedSet.empty

/-- No instant is kept without a rule that asked for it. -/
def Labelled (merged : Merged) : Prop :=
  ∀ {instant : UtcDateTime} {labels : OrderedSet String},
    merged.get? instant = some labels → ∃ label, label ∈ labels

theorem mem_labelsAt_mergeLabel {ruleId label : String} {merged : Merged}
    {expiresAt instant : UtcDateTime} :
    label ∈ labelsAt (mergeLabel ruleId merged expiresAt) instant ↔
      label ∈ labelsAt merged instant ∨ label = ruleId ∧ instant = expiresAt := by
  unfold labelsAt mergeLabel
  by_cases same : instant = expiresAt
  · subst same
    rw [OrderedMap.get?_upsert_self, Option.getD_some, OrderedSet.mem_insert]
    simp only [and_true]
    exact or_comm
  · rw [OrderedMap.get?_upsert_of_ne _ _ _ same]
    simp [same]

theorem labelled_mergeLabel {ruleId : String} {merged : Merged} {expiresAt : UtcDateTime}
    (labelled : Labelled merged) : Labelled (mergeLabel ruleId merged expiresAt) := by
  intro instant labels present
  unfold mergeLabel at present
  by_cases same : instant = expiresAt
  · subst same
    rw [OrderedMap.get?_upsert_self] at present
    cases present
    exact ⟨ruleId, OrderedSet.mem_insert.mpr (.inl rfl)⟩
  · rw [OrderedMap.get?_upsert_of_ne _ _ _ same] at present
    exact labelled present

theorem mem_labelsAt_foldl {ruleId label : String} {values : List UtcDateTime}
    {merged : Merged} {instant : UtcDateTime} :
    label ∈ labelsAt (values.foldl (mergeLabel ruleId) merged) instant ↔
      label ∈ labelsAt merged instant ∨ label = ruleId ∧ instant ∈ values := by
  induction values generalizing merged with
  | nil => simp
  | cons head tail ih =>
      rw [List.foldl_cons, ih, mem_labelsAt_mergeLabel, List.mem_cons]
      tauto

theorem labelled_foldl {ruleId : String} (values : List UtcDateTime) {merged : Merged}
    (labelled : Labelled merged) : Labelled (values.foldl (mergeLabel ruleId) merged) := by
  induction values generalizing merged with
  | nil => exact labelled
  | cons head tail ih => exact ih (labelled_mergeLabel labelled)

/-- The rule's projection succeeds and holds `instant`. -/
def Projects (planner : RollingPlanner) (simulatedAt : UtcDateTime) (rule : ExpiryRule)
    (instant : UtcDateTime) : Prop :=
  ∃ found, planner.projectRule rule simulatedAt = .ok found ∧ instant ∈ found

theorem mergeRules_eq_ok {rules : List ExpiryRule} {merged result : Merged}
    (succeeded : planner.mergeRules simulatedAt merged rules = .ok result)
    (labelled : Labelled merged) :
    Labelled result ∧
      (∀ rule ∈ rules, ∃ found, planner.projectRule rule simulatedAt = .ok found) ∧
      ∀ instant label, label ∈ labelsAt result instant ↔
        label ∈ labelsAt merged instant ∨
          ∃ rule ∈ rules, rule.ruleId = label ∧ planner.Projects simulatedAt rule instant := by
  induction rules generalizing merged with
  | nil =>
      cases succeeded
      exact ⟨labelled, by simp, by simp⟩
  | cons rule rest ih =>
      obtain ⟨projected, projection, merging⟩ := bind_eq_ok.mp succeeded
      obtain ⟨resultLabelled, projections, members⟩ :=
        ih merging (labelled_foldl projected.toList labelled)
      have ofRule : ∀ instant, planner.Projects simulatedAt rule instant ↔ instant ∈ projected := by
        intro instant
        constructor
        · rintro ⟨found, again, member⟩
          rw [projection] at again
          cases again
          exact member
        · intro member
          exact ⟨projected, projection, member⟩
      refine ⟨resultLabelled, ?_, ?_⟩
      · intro other member
        rcases List.mem_cons.mp member with rfl | member
        · exact ⟨projected, projection⟩
        · exact projections other member
      · intro instant label
        rw [members, mem_labelsAt_foldl]
        simp only [List.mem_cons, exists_eq_or_imp, ofRule, OrderedSet.mem_toList]
        rw [eq_comm (a := rule.ruleId), or_assoc]

theorem exists_entry_iff {merged : Merged} {instant : UtcDateTime} {label : String} :
    (∃ labels, (instant, labels) ∈ merged.entries ∧ label ∈ labels) ↔
      label ∈ labelsAt merged instant := by
  unfold labelsAt
  simp only [OrderedMap.mem_entries_iff]
  cases merged.get? instant with
  | none => simp
  | some labels => simp

theorem activeAt_eq_ok {active : List ActiveExpiry}
    (succeeded : planner.activeAt simulatedAt = .ok active) :
    (active.map ActiveExpiry.expiresAt).Pairwise (· < ·) ∧
      (∀ entry ∈ active, entry.labels ≠ [] ∧ entry.labels.Pairwise (· < ·)) ∧
      (∀ rule ∈ planner.schedule.rules,
        ∃ found, planner.projectRule rule simulatedAt = .ok found) ∧
      ∀ instant label,
        (∃ entry ∈ active, entry.expiresAt = instant ∧ label ∈ entry.labels) ↔
          ∃ rule ∈ planner.schedule.rules, rule.ruleId = label ∧
            planner.Projects simulatedAt rule instant := by
  unfold activeAt at succeeded
  obtain ⟨merged, merging, listed⟩ := bind_eq_ok.mp succeeded
  cases listed
  have nothing : Labelled OrderedMap.empty := by
    intro instant labels present
    cases present
  obtain ⟨labelled, projections, members⟩ := mergeRules_eq_ok merging nothing
  refine ⟨?_, ?_, projections, ?_⟩
  · rw [List.map_map, List.pairwise_map]
    exact merged.sorted
  · intro entry member
    obtain ⟨⟨instant, labels⟩, inMerged, rfl⟩ := List.mem_map.mp member
    obtain ⟨label, inLabels⟩ := labelled (OrderedMap.mem_entries_iff.mp inMerged)
    exact ⟨List.ne_nil_of_mem inLabels, labels.sorted⟩
  · intro instant label
    have empty : label ∉ labelsAt OrderedMap.empty instant := OrderedSet.notMem_empty label
    have merges := members instant label
    rw [or_iff_right empty] at merges
    rw [← merges, ← exists_entry_iff]
    constructor
    · rintro ⟨entry, member, rfl, inLabels⟩
      obtain ⟨⟨expiresAt, labels⟩, inMerged, rfl⟩ := List.mem_map.mp member
      exact ⟨labels, inMerged, inLabels⟩
    · rintro ⟨labels, inMerged, inLabels⟩
      exact ⟨⟨instant, labels.toList⟩, List.mem_map.mpr ⟨(instant, labels), inMerged, rfl⟩,
        rfl, inLabels⟩

/-- An instant a rule keeps available: one of its first expirations after the
simulated instant. -/
def Claims (planner : RollingPlanner) (simulatedAt : UtcDateTime) (rule : ExpiryRule)
    (instant : UtcDateTime) : Prop :=
  ∃ values, FirstAfter (planner.expirationsOf rule) simulatedAt rule.targetCount.get values ∧
    instant ∈ values

theorem projects_iff_claims (ordered : planner.ResolvesInOrder simulatedAt)
    {found : OrderedSet UtcDateTime}
    (succeeded : planner.projectRule rule simulatedAt = .ok found) (instant : UtcDateTime) :
    planner.Projects simulatedAt rule instant ↔ planner.Claims simulatedAt rule instant := by
  have first := projectRule_firstAfter ordered succeeded
  constructor
  · rintro ⟨other, again, member⟩
    rw [succeeded] at again
    cases again
    exact ⟨_, first, member⟩
  · rintro ⟨values, alsoFirst, member⟩
    rw [alsoFirst.unique first] at member
    exact ⟨found, succeeded, member⟩

theorem Claims.after {instant : UtcDateTime} (claims : planner.Claims simulatedAt rule instant) :
    simulatedAt < instant := by
  obtain ⟨values, first, member⟩ := claims
  exact first.after instant member

section Inventory

variable {active : List ActiveExpiry}

/-- What the inventory holds under a label is what the rule of that name claims. -/
theorem exists_labelled_iff (ordered : planner.ResolvesInOrder simulatedAt)
    (succeeded : planner.activeAt simulatedAt = .ok active) (instant : UtcDateTime)
    (label : String) :
    (∃ entry ∈ active, entry.expiresAt = instant ∧ label ∈ entry.labels) ↔
      ∃ rule ∈ planner.schedule.rules, rule.ruleId = label ∧
        planner.Claims simulatedAt rule instant := by
  obtain ⟨-, -, projections, members⟩ := activeAt_eq_ok succeeded
  rw [members]
  refine exists_congr fun rule => and_congr_right fun ruleMember => and_congr_right fun _ => ?_
  obtain ⟨found, projection⟩ := projections rule ruleMember
  exact projects_iff_claims ordered projection instant

theorem mem_labels_iff (ordered : planner.ResolvesInOrder simulatedAt)
    (succeeded : planner.activeAt simulatedAt = .ok active) {entry : ActiveExpiry}
    (member : entry ∈ active) (label : String) :
    label ∈ entry.labels ↔
      ∃ rule ∈ planner.schedule.rules, rule.ruleId = label ∧
        planner.Claims simulatedAt rule entry.expiresAt := by
  obtain ⟨sorted, -⟩ := activeAt_eq_ok succeeded
  rw [← exists_labelled_iff ordered succeeded]
  constructor
  · intro inLabels
    exact ⟨entry, member, rfl, inLabels⟩
  · rintro ⟨other, otherMember, same, inLabels⟩
    rwa [List.inj_on_of_nodup_map (sorted.imp ne_of_lt) otherMember member same] at inLabels

theorem exists_claim (ordered : planner.ResolvesInOrder simulatedAt)
    (succeeded : planner.activeAt simulatedAt = .ok active) {entry : ActiveExpiry}
    (member : entry ∈ active) :
    ∃ rule ∈ planner.schedule.rules, planner.Claims simulatedAt rule entry.expiresAt := by
  obtain ⟨-, labels, -⟩ := activeAt_eq_ok succeeded
  obtain ⟨label, inLabels⟩ := List.exists_mem_of_ne_nil _ (labels entry member).1
  obtain ⟨rule, ruleMember, -, claims⟩ :=
    (mem_labels_iff ordered succeeded member label).mp inLabels
  exact ⟨rule, ruleMember, claims⟩

theorem labelled_entries_eq (ordered : planner.ResolvesInOrder simulatedAt)
    (succeeded : planner.activeAt simulatedAt = .ok active)
    (ruleMember : rule ∈ planner.schedule.rules) {values : List UtcDateTime}
    (first : FirstAfter (planner.expirationsOf rule) simulatedAt rule.targetCount.get values) :
    (active.filter fun entry => rule.ruleId ∈ entry.labels).map ActiveExpiry.expiresAt =
      values := by
  obtain ⟨sorted, -⟩ := activeAt_eq_ok succeeded
  refine List.Pairwise.eq_of_mem_iff (sorted.sublist (List.filter_sublist.map _)) first.sorted ?_
  intro instant
  simp only [List.mem_map, List.mem_filter, decide_eq_true_eq]
  constructor
  · rintro ⟨entry, ⟨member, inLabels⟩, rfl⟩
    obtain ⟨other, otherMember, ids, claims⟩ :=
      (mem_labels_iff ordered succeeded member rule.ruleId).mp inLabels
    rw [planner.schedule.eq_of_ruleId_eq otherMember ruleMember ids] at claims
    obtain ⟨again, alsoFirst, claimed⟩ := claims
    rwa [alsoFirst.unique first] at claimed
  · intro claimed
    obtain ⟨entry, member, instantOf, inLabels⟩ :=
      (exists_labelled_iff ordered succeeded instant rule.ruleId).mpr
        ⟨rule, ruleMember, rfl, values, first, claimed⟩
    exact ⟨entry, ⟨member, inLabels⟩, instantOf⟩

/-- The inventory at an instant is what the rules mean there: strictly increasing and
alive, every rule with exactly its first expirations, every entry labelled with
exactly the rules that claim it. -/
theorem activeAt_meets_reference (ordered : planner.ResolvesInOrder simulatedAt)
    (succeeded : planner.activeAt simulatedAt = .ok active) :
    (active.map ActiveExpiry.expiresAt).Pairwise (· < ·) ∧
      (∀ entry ∈ active, simulatedAt < entry.expiresAt) ∧
      (∀ rule ∈ planner.schedule.rules,
        FirstAfter (planner.expirationsOf rule) simulatedAt rule.targetCount.get
          ((active.filter fun entry => rule.ruleId ∈ entry.labels).map
            ActiveExpiry.expiresAt)) ∧
      ∀ entry ∈ active, entry.labels ≠ [] ∧ entry.labels.Pairwise (· < ·) ∧
        ∀ label, label ∈ entry.labels ↔
          ∃ rule ∈ planner.schedule.rules, rule.ruleId = label ∧
            planner.Claims simulatedAt rule entry.expiresAt := by
  obtain ⟨sorted, labels, projections, -⟩ := activeAt_eq_ok succeeded
  refine ⟨sorted, ?_, ?_, ?_⟩
  · intro entry member
    obtain ⟨rule, -, claims⟩ := exists_claim ordered succeeded member
    exact claims.after
  · intro rule ruleMember
    obtain ⟨found, projection⟩ := projections rule ruleMember
    have first := projectRule_firstAfter ordered projection
    rwa [labelled_entries_eq ordered succeeded ruleMember first]
  · intro entry member
    obtain ⟨named, labelsSorted⟩ := labels entry member
    exact ⟨named, labelsSorted, mem_labels_iff ordered succeeded member⟩

end Inventory

end RollingPlanner

/-! ### Two rules over the last Friday of a month -/

def dailies : ExpiryRule where
  ruleId := "dailies"
  kind := .daily
  targetCount := ⟨2, by decide, by decide⟩
  ruleId_valid := by decide
  targetCount_le := by decide
  kind_wellFormed := trivial
  kind_normalised := rfl

def monthlies : ExpiryRule where
  ruleId := "monthlies"
  kind := .monthly .fri
  targetCount := ⟨1, by decide, by decide⟩
  ruleId_valid := by decide
  targetCount_le := by decide
  kind_wellFormed := ⟨by decide, by decide⟩
  kind_normalised := rfl

def dailiesAndMonthlies (expirationTime : NaiveTime) : ExpirationSchedule where
  calendar := .weekdaysV1
  timezone := ⟨"UTC"⟩
  expirationTime := expirationTime
  rules := [dailies, monthlies]
  rules_valid := by decide
  rules_sorted := by decide

theorem utc_resolvesInOrder (schedule : ExpirationSchedule) (simulatedAt : UtcDateTime) :
    RollingPlanner.ResolvesInOrder ⟨TzDatabase.utc, schedule⟩ simulatedAt where
  increasing := by
    intro earlier later first second below _ _ firstResolves secondResolves
    cases firstResolves
    cases secondResolves
    have days := NaiveDate.lt_iff.mp below
    refine NaiveDateTime.lt_iff.mpr (.inl ?_)
    simp only [NaiveDateTime.timestamp]
    omega
  before := by
    intro start date instant today below resolves
    cases today
    cases resolves
    have days := NaiveDate.lt_iff.mp below
    have time := schedule.expirationTime.secs_lt
    refine le_of_lt (NaiveDateTime.lt_iff.mpr (.inl ?_))
    simp only [NaiveDateTime.timestamp]
    omega

def fivePm : NaiveTime := ⟨61200, 0, Nat.le_of_ble_eq_true rfl, Nat.le_of_ble_eq_true rfl⟩

def thursday : NaiveDate := ⟨20538, by rw [minDay_eq]; omega, by rw [maxDay_eq]; omega⟩

def lastFriday : NaiveDate := ⟨20539, by rw [minDay_eq]; omega, by rw [maxDay_eq]; omega⟩

def thursdayNoon : UtcDateTime :=
  ⟨thursday, ⟨43200, 0, Nat.le_of_ble_eq_true rfl, Nat.le_of_ble_eq_true rfl⟩⟩

def thursdayExpiry : ActiveExpiry :=
  ⟨⟨thursday, fivePm⟩, ["dailies"]⟩

def lastFridayExpiry : ActiveExpiry :=
  ⟨⟨lastFriday, fivePm⟩, ["dailies", "monthlies"]⟩

theorem activeAt_meets_reference_last_friday :
    FirstAfter
        (RollingPlanner.expirationsOf ⟨TzDatabase.utc, dailiesAndMonthlies fivePm⟩ monthlies)
        thursdayNoon 1 [lastFridayExpiry.expiresAt] ∧
      ∀ label, label ∈ ["dailies", "monthlies"] ↔
        ∃ rule ∈ [dailies, monthlies], rule.ruleId = label ∧
          RollingPlanner.Claims ⟨TzDatabase.utc, dailiesAndMonthlies fivePm⟩ thursdayNoon rule
            lastFridayExpiry.expiresAt := by
  have succeeded : RollingPlanner.activeAt ⟨TzDatabase.utc, dailiesAndMonthlies fivePm⟩
      thursdayNoon = .ok [thursdayExpiry, lastFridayExpiry] := by rfl
  obtain ⟨-, -, counted, labelled⟩ :=
    RollingPlanner.activeAt_meets_reference (utc_resolvesInOrder _ _) succeeded
  refine ⟨counted monthlies ?_, (labelled lastFridayExpiry ?_).2.2⟩
  · exact List.mem_cons_of_mem _ List.mem_cons_self
  · exact List.mem_cons_of_mem _ List.mem_cons_self

end OptionChainSimulator.Domain.Expiry
