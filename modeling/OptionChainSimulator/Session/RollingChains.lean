import Mathlib.Tactic
import OptionChainSimulator.Domain.Expiry.Rolling
import OptionChainSimulator.Session.LongerHorizon

namespace OptionChainSimulator.Session

open Foundation Foundation.Protocol Utils Domain Domain.Expiry

/-! What two snapshots of one simulation list: the expirations of the earlier one stay until they
pass, and every rule replaces those that did. -/

variable {Chain : Type} {runtime : Runtime Chain} {parameters : SimulationParametersV2}
  {step laterStep : Nat} {snapshot later : SeriesSnapshot Chain}

def inventory (snapshot : SeriesSnapshot Chain) : List ActiveExpiry :=
  snapshot.chains.map fun expiry => ⟨expiry.expiresAt, expiry.labels⟩

theorem listed_of_buildExpiryChain {upstream : Upstream Chain} {builder : SeriesBuilder}
    {row : FactorRow} {expiry : ActiveExpiry} {chain : ExpiryChain Chain}
    (built : builder.buildExpiryChain upstream row expiry = .ok chain) :
    expiry = ⟨chain.expiresAt, chain.labels⟩ := by
  obtain ⟨days, -, rest⟩ := bind_eq_ok.mp built
  obtain ⟨daysToExpiration, -, rest⟩ := bind_eq_ok.mp rest
  obtain ⟨priced, -, kept⟩ := bind_eq_ok.mp rest
  cases kept
  rfl

/-- A snapshot lists what the planner does at the instant of its step. -/
theorem listed_of_freshSnapshot
    (priced : runtime.freshSnapshot parameters step = .ok snapshot) :
    parameters.validate runtime.service = .ok () ∧
      parameters.simulatedAt step = .ok snapshot.simulatedAt ∧
      (parameters.planner runtime.service).activeAt snapshot.simulatedAt =
        .ok (inventory snapshot) := by
  obtain ⟨tape, built, shown⟩ := freshSnapshot_eq_ok.mp priced
  rw [build_eq_ok] at built
  obtain ⟨base, walkParams, path, volatilities, prepared, -, -, -, each⟩ :=
    FactorTape.walked_of_build built
  obtain ⟨valid, -⟩ := factorWalk_eq_ok prepared
  obtain ⟨-, assembled⟩ := forall₂_range each
  unfold snapshotOver SeriesBuilder.snapshot at shown
  obtain ⟨builder, made, rest⟩ := bind_eq_ok.mp shown
  obtain ⟨row, present, rest⟩ := bind_eq_ok.mp rest
  obtain ⟨active, listed, rest⟩ := bind_eq_ok.mp rest
  obtain ⟨chains, chained, kept⟩ := bind_eq_ok.mp rest
  obtain ⟨-, created⟩ := bind_unit_eq_ok.mp (lift_eq_ok.mp made)
  cases created
  cases kept
  have clocked := (factorRow_eq_ok (assembled step row (okOr_eq_ok.mp (lift_eq_ok.mp present)))).2
  refine ⟨valid, clocked.2.2.2, ?_⟩
  have same : active = chains.map fun expiry => ⟨expiry.expiresAt, expiry.labels⟩ := by
    apply List.forall₂_eq_eq_eq ▸ List.forall₂_map_right_iff.mpr _
    apply (mapM_eq_ok.mp (lift_eq_ok.mp chained)).imp
    intro expiry chain converted
    exact listed_of_buildExpiryChain converted
  change _ = Except.ok (chains.map _)
  rw [← same]
  exact listed

theorem simulatedAt_mono {service : Service} {instant laterInstant : UtcDateTime}
    (valid : parameters.validate service = .ok ()) (onward : step ≤ laterStep)
    (clocked : parameters.simulatedAt step = .ok instant)
    (laterClocked : parameters.simulatedAt laterStep = .ok laterInstant) :
    instant ≤ laterInstant := by
  obtain ⟨stamp, frac⟩ := (SimulationParametersV2.simulatedAt_eq_ok valid).mp clocked
  obtain ⟨laterStamp, laterFrac⟩ := (SimulationParametersV2.simulatedAt_eq_ok valid).mp laterClocked
  have passed : (step : Int) * parameters.stepIntervalSeconds ≤
      laterStep * parameters.stepIntervalSeconds := by
    exact_mod_cast Nat.mul_le_mul_right _ onward
  rw [← not_lt, NaiveDateTime.lt_iff]
  omega

/-- Of two snapshots served of a simulation, in any two runs over any stores, the later one lists
every expiration of the earlier that has not passed by then, under all of its labels; and under
each rule exactly the passed ones have left, as many later ones having joined at the end. -/
theorem chains_roll {backend laterBackend : Backend} {actions laterActions : List SimulationAction}
    {last : SimulationConfig Chain (backend.store runtime.service)}
    {laterLast : SimulationConfig Chain (laterBackend.store runtime.service)}
    (ordered : ∀ instant, (parameters.planner runtime.service).ResolvesInOrder instant)
    (onward : step ≤ laterStep)
    (ran : (managerCalls runtime _).run ((managerCalls runtime _).start (.new runtime _)) actions =
      some last)
    (laterRan : (managerCalls runtime _).run ((managerCalls runtime _).start (.new runtime _))
      laterActions = some laterLast)
    (answered : Answered last parameters step snapshot)
    (laterAnswered : Answered laterLast parameters laterStep later) :
    (∀ entry ∈ inventory snapshot, later.simulatedAt < entry.expiresAt →
      ∃ again ∈ inventory later, again.expiresAt = entry.expiresAt ∧ entry.labels ⊆ again.labels) ∧
    ∀ rule ∈ parameters.schedule.rules, ∃ fresh,
      ruleWindow rule.ruleId (inventory later) =
        (ruleWindow rule.ruleId (inventory snapshot)).filter (later.simulatedAt < ·) ++ fresh ∧
      fresh.length = ((ruleWindow rule.ruleId (inventory snapshot)).filter
        (· ≤ later.simulatedAt)).length ∧
      ∀ value ∈ ruleWindow rule.ruleId (inventory snapshot), ∀ other ∈ fresh, value < other := by
  have priced := freshSnapshot_of_answered
    (backed_of_run (backend.atomic runtime.service) ran) answered
  have laterPriced := freshSnapshot_of_answered
    (backed_of_run (laterBackend.atomic runtime.service) laterRan) laterAnswered
  obtain ⟨valid, clocked, listed⟩ := listed_of_freshSnapshot priced
  obtain ⟨-, laterClocked, laterListed⟩ := listed_of_freshSnapshot laterPriced
  have passed := simulatedAt_mono valid onward clocked laterClocked
  constructor
  · intro entry member alive
    exact RollingPlanner.entry_stays (ordered _) (ordered _) passed listed laterListed member alive
  · intro rule ruleMember
    exact RollingPlanner.ruleWindow_rolls (ordered _) (ordered _) passed listed laterListed
      ruleMember

/-- The creation, an advance past Thursday, and a peek at Friday. -/
def advancingAndPeeking : List SimulationAction :=
  .call 0 (.request (.create (brownianDays 2))) :: sections 0 1 ++
    .call 1 (.request (.advance someId none)) :: sections 1 4 ++
    .background (.runTask 1 0) :: sections 1 5 ++
    .call 2 (.request (.peek someId)) :: sections 2 4

theorem chains_roll_past_thursday :
    ∃ last laterLast snapshot later,
      kernelCalls.run kernelStart (creatingAndPeeking 2) = some last ∧
      kernelCalls.run kernelStart advancingAndPeeking = some laterLast ∧
      Answered last (brownianDays 2) 0 snapshot ∧ Answered laterLast (brownianDays 2) 1 later ∧
      ∃ fresh, ruleWindow "dailies" (inventory later) =
        (ruleWindow "dailies" (inventory snapshot)).filter (later.simulatedAt < ·) ++ fresh := by
  obtain ⟨last, snapshot, ran, answered⟩ :=
    @answered_of_peeked (creatingAndPeeking 2) 1 0 (brownianDays 2) (by decide +kernel)
  obtain ⟨laterLast, later, laterRan, laterAnswered⟩ :=
    @answered_of_peeked advancingAndPeeking 2 1 (brownianDays 2) (by decide +kernel)
  refine ⟨last, laterLast, snapshot, later, ran, laterRan, answered, laterAnswered, ?_⟩
  obtain ⟨-, rolls⟩ := @chains_roll Domain.Positive kernelRuntime (brownianDays 2) 0 1 snapshot
    later memoryBackend memoryBackend _ _ last laterLast
    (fun instant => utc_resolvesInOrder _ instant) (by decide) ran laterRan answered laterAnswered
  obtain ⟨fresh, rolled, -⟩ := rolls dailies List.mem_cons_self
  exact ⟨fresh, rolled⟩

end OptionChainSimulator.Session
