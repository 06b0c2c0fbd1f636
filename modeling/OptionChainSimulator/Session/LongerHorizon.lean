import Mathlib.Tactic
import OptionChainSimulator.Domain.WalkExtension
import OptionChainSimulator.Session.CacheFree
import OptionChainSimulator.Session.PricedTape
import OptionChainSimulator.Session.TapeCalls

namespace OptionChainSimulator.Session

open Foundation Foundation.Protocol Utils Domain MachineWalker

/-! A simulation of more steps serves what the same simulation of fewer steps serves. -/

section Tapes

variable {Chain : Type} {service : Service} {upstream : Upstream Chain}
  {library : DecimalLibrary Chain} {draws : Nat → Draws} {parameters : SimulationParametersV2}
  {method : SimulationMethod} {short long : Nat} {shorterTape longerTape : FactorTape}

end Tapes

section Snapshots

variable {Chain : Type} {runtime : Runtime Chain} {library : DecimalLibrary Chain}
  {draws : Nat → Draws} {parameters : SimulationParametersV2} {short long step : Nat}
  {snapshot longSnapshot : SeriesSnapshot Chain}

end Snapshots

section Runs

variable {Chain : Type} {runtime : Runtime Chain}

/-- A peek or an advance answered the snapshot of a step, for a simulation of these parameters. -/
def Answered {store : SimulationStore} (config : SimulationConfig Chain store)
    (parameters : SimulationParametersV2) (step : Nat) (snapshot : SeriesSnapshot Chain) : Prop :=
  ∃ call simulation, simulation.parameters = parameters ∧
    (config.calls call = .active (.done (.ok (.peeked simulation snapshot))) ∧
        simulation.currentStep = step ∨
      config.calls call = .active (.done (.ok (.advanced simulation snapshot))) ∧
        simulation.currentStep = step + 1)

theorem freshSnapshot_of_answered {store : SimulationStore} {atomic : store.Atomic runtime.service}
    {config : SimulationConfig Chain store} {parameters : SimulationParametersV2} {step : Nat}
    {snapshot : SeriesSnapshot Chain} (backed : Backed atomic config)
    (answered : Answered config parameters step snapshot) :
    runtime.freshSnapshot parameters step = .ok snapshot := by
  obtain ⟨call, simulation, rfl, ⟨done, rfl⟩ | ⟨done, moved⟩⟩ := answered
  · exact ((backed.own call).active done).2
  · obtain ⟨-, served, cursor, built, -⟩ := (backed.own call).active done
    have same : served = step := by omega
    rwa [← same]

end Runs

/-! A Brownian simulation of one step and of two, peeked at the first. -/

def kernelRuntime : Runtime Domain.Positive where
  service := utcService
  upstream := kernelUpstream fun _ => Walker.unitDraws
  config := flatRuntime.config

abbrev kernelCalls := managerCalls kernelRuntime (memoryBackend.store utcService)

abbrev kernelStart := kernelCalls.start (.new kernelRuntime (memoryBackend.store utcService))

def brownianDays (steps : Nat) : SimulationParametersV2 := { twoDays 0 with steps := steps }

/-- The creation, and a peek that builds the tape. -/
def creatingAndPeeking (steps : Nat) : List SimulationAction :=
  .call 0 (.request (.create (brownianDays steps))) :: sections 0 1 ++
    .call 1 (.request (.peek someId)) :: sections 1 4 ++
    .background (.runTask 1 0) :: sections 1 4

def SimulationCall.peeked? {Chain : Type} :
    SimulationCall Chain → Option (SessionV2 × SeriesSnapshot Chain)
  | .active (.done (.ok (.peeked simulation snapshot))) => some (simulation, snapshot)
  | _ => none

theorem peeked?_eq_some {Chain : Type} {phase : SimulationCall Chain} {simulation : SessionV2}
    {snapshot : SeriesSnapshot Chain} (peeked : phase.peeked? = some (simulation, snapshot)) :
    phase = .active (.done (.ok (.peeked simulation snapshot))) := by
  unfold SimulationCall.peeked? at peeked
  split at peeked
  · cases peeked
    rfl
  · cases peeked

theorem answered_of_peeked {actions : List SimulationAction} {call step : Nat}
    {parameters : SimulationParametersV2}
    (computed : ((kernelCalls.run kernelStart actions).any fun last =>
      (last.calls call).peeked?.any fun answer =>
        answer.1.parameters = parameters ∧ answer.1.currentStep = step) = true) :
    ∃ last snapshot, kernelCalls.run kernelStart actions = some last ∧
      Answered last parameters step snapshot := by
  obtain ⟨last, ran, checked⟩ := (Option.any_eq_true _ _).mp computed
  obtain ⟨⟨simulation, snapshot⟩, peeked, matching⟩ := (Option.any_eq_true _ _).mp checked
  obtain ⟨same, cursor⟩ := of_decide_eq_true matching
  exact ⟨last, snapshot, ran, call, simulation, same, .inl ⟨peeked?_eq_some peeked, cursor⟩⟩

end OptionChainSimulator.Session
