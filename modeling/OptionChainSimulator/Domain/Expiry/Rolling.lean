import Mathlib.Tactic
import OptionChainSimulator.Domain.Expiry.Inventory

namespace OptionChainSimulator.Domain.Expiry

open Foundation Utils Domain

/-! The inventory at two instants: an expiration stays until it passes, and each rule fills the
place of the ones that have passed with its next ones. -/

/-- The expirations an inventory holds for a rule. -/
def ruleWindow (ruleId : String) (active : List ActiveExpiry) : List UtcDateTime :=
  (active.filter fun entry => ruleId ∈ entry.labels).map ActiveExpiry.expiresAt

namespace RollingPlanner

variable {planner : RollingPlanner} {rule : ExpiryRule} {simulatedAt later : UtcDateTime}
  {active laterActive : List ActiveExpiry}

theorem Claims.stays {instant : UtcDateTime} {found : OrderedSet UtcDateTime}
    (claims : planner.Claims simulatedAt rule instant) (ordered : planner.ResolvesInOrder later)
    (projected : planner.projectRule rule later = .ok found) (onward : simulatedAt ≤ later)
    (alive : later < instant) : planner.Claims later rule instant := by
  obtain ⟨values, first, member⟩ := claims
  have next := projectRule_firstAfter ordered projected
  exact ⟨found.toList, next, first.survives next onward member alive⟩

/-- An entry that has not expired is still there, under all of its labels. -/
theorem entry_stays (ordered : planner.ResolvesInOrder simulatedAt)
    (laterOrdered : planner.ResolvesInOrder later) (onward : simulatedAt ≤ later)
    (succeeded : planner.activeAt simulatedAt = .ok active)
    (laterSucceeded : planner.activeAt later = .ok laterActive) {entry : ActiveExpiry}
    (member : entry ∈ active) (alive : later < entry.expiresAt) :
    ∃ again ∈ laterActive, again.expiresAt = entry.expiresAt ∧ entry.labels ⊆ again.labels := by
  obtain ⟨-, -, projections, -⟩ := activeAt_eq_ok laterSucceeded
  have stays : ∀ rule ∈ planner.schedule.rules,
      planner.Claims simulatedAt rule entry.expiresAt →
        planner.Claims later rule entry.expiresAt := by
    intro rule ruleMember claims
    obtain ⟨found, projected⟩ := projections rule ruleMember
    exact claims.stays laterOrdered projected onward alive
  obtain ⟨rule, ruleMember, claims⟩ := exists_claim ordered succeeded member
  obtain ⟨again, againMember, same, -⟩ :=
    (exists_labelled_iff laterOrdered laterSucceeded entry.expiresAt rule.ruleId).mpr
      ⟨rule, ruleMember, rfl, stays rule ruleMember claims⟩
  refine ⟨again, againMember, same, ?_⟩
  intro label labelled
  obtain ⟨other, otherMember, named, claimed⟩ :=
    (mem_labels_iff ordered succeeded member label).mp labelled
  rw [mem_labels_iff laterOrdered laterSucceeded againMember, same]
  exact ⟨other, otherMember, named, stays other otherMember claimed⟩

theorem ruleWindow_rolls (ordered : planner.ResolvesInOrder simulatedAt)
    (laterOrdered : planner.ResolvesInOrder later) (onward : simulatedAt ≤ later)
    (succeeded : planner.activeAt simulatedAt = .ok active)
    (laterSucceeded : planner.activeAt later = .ok laterActive)
    (ruleMember : rule ∈ planner.schedule.rules) :
    ∃ fresh, ruleWindow rule.ruleId laterActive =
        (ruleWindow rule.ruleId active).filter (later < ·) ++ fresh ∧
      fresh.length = ((ruleWindow rule.ruleId active).filter (· ≤ later)).length ∧
      ∀ value ∈ ruleWindow rule.ruleId active, ∀ other ∈ fresh, value < other := by
  obtain ⟨-, -, projections, -⟩ := activeAt_eq_ok succeeded
  obtain ⟨-, -, laterProjections, -⟩ := activeAt_eq_ok laterSucceeded
  obtain ⟨found, projected⟩ := projections rule ruleMember
  obtain ⟨laterFound, laterProjected⟩ := laterProjections rule ruleMember
  have first := projectRule_firstAfter ordered projected
  have next := projectRule_firstAfter laterOrdered laterProjected
  unfold ruleWindow
  rw [labelled_entries_eq ordered succeeded ruleMember first,
    labelled_entries_eq laterOrdered laterSucceeded ruleMember next]
  exact first.rolls next onward

end RollingPlanner

end OptionChainSimulator.Domain.Expiry
