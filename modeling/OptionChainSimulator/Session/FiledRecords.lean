import Mathlib.Tactic
import OptionChainSimulator.Infrastructure.Snapshots.Warehouse
import OptionChainSimulator.Session.ExactlyOnce
import OptionChainSimulator.Session.SnapshotQueue

namespace OptionChainSimulator.Session

open Foundation Foundation.Protocol Utils Domain Infrastructure

/-! The snapshots that advances serve, on their way through the queue to the writer. -/

section Served

variable {Chain : Type} {runtime : Runtime Chain} {store : SimulationStore}
  {atomic : store.Atomic runtime.service} {config last : SimulationConfig Chain store}
  {actions : List SimulationAction} {id : Uuid} {parameters : SimulationParametersV2}
  {options : Chain → List OptionData} {served : ServedSnapshot Chain}

/-- An advance has committed its step and serves the snapshot. -/
def AdvanceServed (config : SimulationConfig Chain store) (served : ServedSnapshot Chain) : Prop :=
  ∃ call stage simulation snapshot, config.calls call = .active stage ∧
    stage.answer? = some (.advanced simulation snapshot) ∧
    served = ⟨simulation.id, simulation.parameters.symbol, snapshot⟩

/-- The record of a step that the replay of its simulation gives. -/
def Replayed (runtime : Runtime Chain) (options : Chain → List OptionData)
    (created : Uuid → Option SimulationParametersV2) (record : SnapshotRecord) : Prop :=
  ∃ parameters snapshot, created record.simulation = some parameters ∧
    runtime.freshSnapshot parameters record.step = .ok snapshot ∧
    record = snapshotRecord options record.simulation parameters.symbol snapshot

theorem Replayed.unique {created : Uuid → Option SimulationParametersV2}
    {record other : SnapshotRecord} (replayed : Replayed runtime options created record)
    (otherReplayed : Replayed runtime options created other)
    (same : record.coordinate = other.coordinate) : record = other := by
  obtain ⟨parameters, snapshot, owned, priced, equal⟩ := replayed
  obtain ⟨otherParameters, otherSnapshot, otherOwned, otherPriced, otherEqual⟩ := otherReplayed
  have simulation : record.simulation = other.simulation := congrArg Coordinate.simulation same
  have step : record.step = other.step := congrArg Coordinate.step same
  rw [simulation, otherOwned] at owned
  cases owned
  rw [step, otherPriced] at priced
  cases priced
  rw [equal, otherEqual, simulation]

theorem created_of_run (backed : Backed atomic config)
    (owned : config.shared.ledger.created id = some parameters)
    (ran : (managerCalls runtime store).run config actions = some last) :
    last.shared.ledger.created id = some parameters := by
  have ends : Backed atomic last ∧ last.shared.ledger.created id = some parameters := by
    apply holds_of_run (fun reached : SimulationConfig Chain store => Backed atomic reached ∧
      reached.shared.ledger.created id = some parameters) _ ⟨backed, owned⟩ ran
    intro reached action next held stepped
    exact ⟨backed_free.preserved held.1 atCall_unguarded stepped,
      (grows_of_step held.1 stepped).created held.2⟩
  exact ends.2

/-- What an advance of the run serves is the replay of its step. -/
theorem replayed_of_served (atomic : store.Atomic runtime.service)
    (ran : (managerCalls runtime store).run
      ((managerCalls runtime store).start (.new runtime store)) actions = some last)
    (visited : (managerCalls runtime store).Visits
      ((managerCalls runtime store).start (.new runtime store)) actions config)
    (serving : AdvanceServed config served) :
    Replayed runtime options last.shared.ledger.created (served.record options) := by
  obtain ⟨before, after, rfl, reached⟩ := visited
  obtain ⟨between, passed, rest⟩ := run_append.mp ran
  rw [reached] at passed
  cases passed
  have backed := backed_of_run atomic reached
  obtain ⟨call, stage, simulation, snapshot, standing, answered, rfl⟩ := serving
  obtain ⟨known, step, -, priced, -⟩ :=
    backed_of_answer ((backed.own call).active standing) answered
  refine ⟨simulation.parameters, snapshot, created_of_run backed known.owned rest, ?_, rfl⟩
  rwa [show (ServedSnapshot.record options
    ⟨simulation.id, simulation.parameters.symbol, snapshot⟩).step = step from
      step_of_freshSnapshot priced]

end Served

section Queue

variable {Chain : Type} {upstream : Upstream Chain} {options : Chain → List OptionData}
  {allowed : SnapshotRecord → Prop} {before after : SnapshotQueue}

/-- What the writer has taken, what it writes and what waits for it are the records that were
sent, in the order they were sent. -/
structure DeliversInOrder (allowed : SnapshotRecord → Prop) (queue : SnapshotQueue) : Prop where
  allowed : ∀ record ∈ queue.sent.map Prod.snd, allowed record
  inOrder : ∃ taken, (queue.sent.map Prod.snd).reverse =
    taken ++ queue.writing.toList ++ queue.records

theorem DeliversInOrder.writing {record : SnapshotRecord}
    (delivers : DeliversInOrder allowed before) (held : before.writing = some record) :
    allowed record := by
  obtain ⟨taken, order⟩ := delivers.inOrder
  apply delivers.allowed
  rw [← List.mem_reverse, order, held]
  exact List.mem_append_left _ (List.mem_append_right _ (List.mem_singleton_self _))

/-- The record a call has in hand, or will have. -/
def FilingStage.record? (options : Chain → List OptionData) :
    FilingStage Chain → Option SnapshotRecord
  | .filing served | .loaded served _ | .admitted served => some (served.record options)
  | .reserved record _ => some record
  | .undoing _ | .finished => none

/-- Every record a call has in hand is allowed. -/
def Holding (options : Chain → List OptionData) (allowed : SnapshotRecord → Prop) :
    FilingCall Chain → Prop
  | .active stage => ∀ record, stage.record? options = some record → allowed record
  | .idle | .dropped => True

/-- Calls are asked to file what is allowed. -/
def AskedAllowed (options : Chain → List OptionData) (allowed : SnapshotRecord → Prop)
    (_ : Nat) : FilingInput Chain → SnapshotQueue → FilingCall Chain → Prop
  | .request served, _, _ => allowed (served.record options)
  | .proceed _, _, _ | .drop, _, _ => True

theorem delivers_of_fileSnapshot {call : Nat} {stage next : FilingStage Chain}
    (delivers : DeliversInOrder allowed before)
    (holding : Holding options allowed (.active stage))
    (moved : fileSnapshot upstream options call () before stage = some (after, next)) :
    DeliversInOrder allowed after ∧ Holding options allowed (.active next) := by
  have nothing : ∀ record, (none : Option SnapshotRecord) = some record → allowed record := by
    intro record impossible
    cases impossible
  cases stage with
  | filing served =>
      cases moved
      exact ⟨delivers, holding⟩
  | loaded served queued =>
      simp only [fileSnapshot] at moved
      split_ifs at moved
      · cases moved
        exact ⟨delivers, nothing⟩
      · cases moved
        exact ⟨delivers, holding⟩
  | admitted served =>
      cases moved
      exact ⟨⟨delivers.allowed, delivers.inOrder⟩, holding⟩
  | reserved record incoming =>
      simp only [fileSnapshot] at moved
      split_ifs at moved
      · cases moved
        refine ⟨⟨?_, ?_⟩, nothing⟩
        · intro sent member
          obtain rfl | earlier := List.mem_cons.mp member
          · exact holding sent rfl
          · exact delivers.allowed sent earlier
        · obtain ⟨taken, order⟩ := delivers.inOrder
          refine ⟨taken, ?_⟩
          rw [List.map_cons, List.reverse_cons, order, List.append_assoc]
      · cases moved
        exact ⟨delivers, nothing⟩
  | undoing incoming =>
      cases moved
      exact ⟨⟨delivers.allowed, delivers.inOrder⟩, nothing⟩
  | finished => cases moved

theorem delivers_of_write {moment : WriterMoment} (delivers : DeliversInOrder allowed before)
    (wrote : write moment before = some after) : DeliversInOrder allowed after := by
  refine ⟨sent_of_write wrote ▸ delivers.allowed, ?_⟩
  obtain ⟨taken, order⟩ := delivers.inOrder
  rw [sent_of_write wrote, order]
  cases moment with
  | received =>
      simp only [write] at wrote
      split at wrote
      · next record rest idle waiting =>
          cases wrote
          refine ⟨taken, ?_⟩
          rw [idle, waiting]
          simp
      · cases wrote
  | written =>
      obtain ⟨record, held, rfl⟩ := Option.map_eq_some_iff.mp wrote
      exact ⟨taken ++ [record], by rw [held]; simp⟩

theorem delivers_free : (filings upstream options).FreeOfInterference
    (AskedAllowed options allowed) (DeliversInOrder allowed)
    fun _ _ phase => Holding options allowed phase where
  move := by
    intro call input before phase after next delivers holding asked moved
    obtain ⟨served, rfl, rfl, rfl, rfl⟩ | ⟨moment, stage, nextStage, rfl, rfl, rfl, proceeded⟩ |
      ⟨stage, -, -, awaiting, -⟩ := staged_cases moved
    · refine ⟨delivers, ?_⟩
      intro record held
      cases held
      exact asked
    · exact delivers_of_fileSnapshot delivers holding proceeded
    · cases awaiting
  others := by
    intro _ _ _ _ _ _ _ _ _ _ _ _ _ held
    exact held
  tick := by
    intro moment before after delivers wrote
    exact ⟨delivers_of_write delivers wrote, fun _ _ held => held⟩

theorem start_delivers : Holds (DeliversInOrder allowed)
    (fun _ _ phase => Holding options allowed phase)
    ((filings upstream options).start .empty) where
  shared := by
    refine ⟨?_, [], rfl⟩
    intro record member
    cases member
  own := fun _ => trivial

/-- Where only allowed records are filed, the writer receives only these, as they were sent. -/
theorem delivers_of_visit {actions : List (FilingAction Chain)} {config : FilingConfig Chain}
    (filed : ∀ call served, .call call (.request served) ∈ actions →
      allowed (served.record options))
    (visited : (filings upstream options).Visits ((filings upstream options).start .empty) actions
      config) : DeliversInOrder allowed config.shared := by
  obtain ⟨before, after, rfl, ran⟩ := visited
  have met : (filings upstream options).Meets (atCall (AskedAllowed options allowed))
      ((filings upstream options).start .empty) before := by
    apply meets_of_members
    intro action early _
    have member : action ∈ before ++ after := List.mem_append_left after early
    cases action with
    | background moment => trivial
    | call index input =>
        cases input with
        | request served => exact filed index served member
        | proceed moment => trivial
        | drop => trivial
  exact (delivers_free.holds_of_run start_delivers met ran).shared

end Queue

end OptionChainSimulator.Session
