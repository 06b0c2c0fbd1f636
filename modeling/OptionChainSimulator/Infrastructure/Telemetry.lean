import Mathlib.Tactic
import OptionChainSimulator.Foundation.Interleaving

namespace OptionChainSimulator.Infrastructure

open Foundation

/-! The session metrics of `MetricsCollector`, one atomic access at a time. -/

structure SessionMetrics where
  ownedActiveSessions : Nat
  activeSessions : Int
  creations : Nat
  deletions : Nat
  deriving DecidableEq

def SessionMetrics.empty : SessionMetrics := ⟨0, 0, 0, 0⟩

inductive SessionRecord where
  | created
  | deleted
  deriving DecidableEq

inductive RecordStage where
  | owning
  | raising
  | countingCreation
  | countingDeletion
  | disowning
  | lowering
  | recorded
  deriving DecidableEq

def SessionRecord.stage : SessionRecord → RecordStage
  | .created => .owning
  | .deleted => .countingDeletion

/-- `record_session_created` and `record_session_deleted`.  The atomics hold sixty-four bits and are
numbers here: no process makes 2^63 records. -/
def recordSession (_ : Nat) (_ : Unit) (metrics : SessionMetrics) :
    RecordStage → Option (SessionMetrics × RecordStage)
  | .owning => some
      ({ metrics with ownedActiveSessions := metrics.ownedActiveSessions + 1 }, .raising)
  | .raising => some
      ({ metrics with activeSessions := metrics.activeSessions + 1 }, .countingCreation)
  | .countingCreation => some ({ metrics with creations := metrics.creations + 1 }, .recorded)
  | .countingDeletion => some ({ metrics with deletions := metrics.deletions + 1 }, .disowning)
  | .disowning =>
      -- `fetch_update` with `checked_sub`
      match metrics.ownedActiveSessions with
      | 0 => some (metrics, .recorded)
      | owned + 1 => some ({ metrics with ownedActiveSessions := owned }, .lowering)
  | .lowering => some ({ metrics with activeSessions := metrics.activeSessions - 1 }, .recorded)
  | .recorded => none

abbrev RecordCall := StagedCall RecordStage
abbrev RecordAction := Action (StagedInput SessionRecord Unit) Empty
abbrev MetricsConfig := Config SessionMetrics RecordCall

def recordings : Protocol SessionMetrics RecordCall (StagedInput SessionRecord Unit) Empty :=
  staged SessionRecord.stage (fun _ => false) recordSession fun impossible _ => nomatch impossible

def RecordCall.at (stage : RecordStage) (call : RecordCall) : Nat :=
  if call = .active stage then 1 else 0

/-- How many of the calls below `bound` stand at the stage. -/
def standing (bound : Nat) (config : MetricsConfig) (stage : RecordStage) : Nat :=
  ∑ call ∈ Finset.range bound, RecordCall.at stage (config.calls call)

/-- The gauge is what is owned, but for the calls between their two accesses; and what is owned
is bounded by the two counters, but for the calls on their way to one. -/
structure Gauged (bound : Nat) (config : MetricsConfig) : Prop where
  gauge : config.shared.activeSessions + standing bound config .raising =
    config.shared.ownedActiveSessions + standing bound config .lowering
  created : config.shared.ownedActiveSessions ≤ config.shared.creations +
    standing bound config .raising + standing bound config .countingCreation
  deleted : config.shared.creations + standing bound config .raising +
      standing bound config .countingCreation + standing bound config .disowning ≤
    config.shared.ownedActiveSessions + config.shared.deletions

/-- The calls of the run are numbered below a bound. -/
def NumberedBelow (bound : Nat) : RecordAction → Prop
  | .call call _ => call < bound
  | .background _ => True

variable {bound : Nat} {config next last : MetricsConfig} {action : RecordAction}
  {actions : List RecordAction}

theorem standing_update {call : Nat} {after : SessionMetrics} {phase : RecordCall}
    (below : call < bound) (stage : RecordStage) :
    standing bound ⟨after, Function.update config.calls call phase⟩ stage +
        RecordCall.at stage (config.calls call) =
      standing bound config stage + RecordCall.at stage phase :=
  @Protocol.sum_calls_update RecordCall (RecordCall.at stage) config.calls call bound phase below

theorem gauged_of_step (gauged : Gauged bound config) (below : NumberedBelow bound action)
    (stepped : recordings.step config action = some next) : Gauged bound next := by
  cases action with
  | background impossible => cases impossible
  | call call input =>
      obtain ⟨after, phase, moved, rfl⟩ := Protocol.step_call_eq_some.mp stepped
      have update := @standing_update bound config call after phase below
      have raising := update .raising
      have counting := update .countingCreation
      have disowning := update .disowning
      have lowering := update .lowering
      obtain ⟨gauge, created, deleted⟩ := gauged
      obtain ⟨request, -, idle, rfl, rfl⟩ | ⟨moment, stage, nextStage, -, running, rfl, recorded⟩ |
        ⟨stage, -, -, impossible, -⟩ := staged_cases moved
      · rw [idle] at raising counting disowning lowering
        cases request with
        | created | deleted =>
            simp only [RecordCall.at, SessionRecord.stage, reduceCtorEq, StagedCall.active.injEq,
              if_false] at raising counting disowning lowering
            constructor
            all_goals
              dsimp only [SessionRecord.stage]
              omega
      · rw [running] at raising counting disowning lowering
        cases stage with
        | disowning =>
            simp only [recordSession] at recorded
            cases owned : config.shared.ownedActiveSessions with
            | zero =>
                rw [owned] at recorded gauge created deleted
                cases recorded
                simp only [RecordCall.at, reduceCtorEq, StagedCall.active.injEq, if_false,
                  if_true] at raising counting disowning lowering
                constructor
                all_goals
                  dsimp only
                  omega
            | succ others =>
                rw [owned] at recorded gauge created deleted
                cases recorded
                simp only [RecordCall.at, reduceCtorEq, StagedCall.active.injEq, if_false,
                  if_true] at raising counting disowning lowering
                constructor
                all_goals
                  dsimp only
                  omega
        | recorded => cases recorded
        | _ =>
            cases recorded
            simp only [RecordCall.at, reduceCtorEq, StagedCall.active.injEq, if_false, if_true]
              at raising counting disowning lowering
            constructor
            all_goals
              dsimp only
              omega
      · cases impossible

theorem exists_bound (actions : List RecordAction) :
    ∃ bound, ∀ action ∈ actions, NumberedBelow bound action := by
  induction actions with
  | nil =>
      refine ⟨0, ?_⟩
      intro action member
      cases member
  | cons action actions ih =>
      obtain ⟨bound, rest⟩ := ih
      cases action with
      | background impossible => cases impossible
      | call call input =>
          refine ⟨max bound (call + 1), ?_⟩
          intro other member
          cases other with
          | background impossible => cases impossible
          | call otherCall otherInput =>
              cases List.mem_cons.mp member with
              | inl same =>
                  cases same
                  exact lt_max_of_lt_right (Nat.lt_succ_self _)
              | inr later => exact lt_max_of_lt_left (rest _ later)

theorem gauged_of_run (below : ∀ action ∈ actions, NumberedBelow bound action)
    (ran : recordings.run (recordings.start .empty) actions = some last) : Gauged bound last := by
  have met : recordings.Meets (fun _ action => NumberedBelow bound action)
      (recordings.start .empty) actions :=
    Protocol.meets_of_members fun action member _ => below action member
  apply Protocol.holds_of_guarded_run gauged_of_step _ met ran
  have nowhere : ∀ stage, standing bound (recordings.start .empty) stage = 0 := by
    intro stage
    exact Finset.sum_eq_zero fun call _ => rfl
  constructor
  all_goals
    simp only [nowhere]
    decide

theorem exists_standing {stage : RecordStage} (occupied : standing bound config stage ≠ 0) :
    ∃ call, config.calls call = .active stage := by
  obtain ⟨call, -, stands⟩ := Finset.exists_ne_zero_of_sum_ne_zero occupied
  refine ⟨call, ?_⟩
  unfold RecordCall.at at stands
  split_ifs at stands with here
  · exact here
  · exact absurd rfl stands

/-- No call is between two of its accesses. -/
def AtRest (config : MetricsConfig) : Prop :=
  ∀ call stage, config.calls call = .active stage → stage = .recorded

/-- Whatever calls interleave, the gauge is negative only while a creation is between its two
increments; and at rest it is what this process owns, within what the two counters say. -/
theorem gauge_counts_sessions
    (ran : recordings.run (recordings.start .empty) actions = some last) :
    (last.shared.activeSessions < 0 → ∃ call, last.calls call = .active .raising) ∧
      (AtRest last → last.shared.activeSessions = last.shared.ownedActiveSessions ∧
        last.shared.ownedActiveSessions ≤ last.shared.creations ∧
        last.shared.creations ≤ last.shared.ownedActiveSessions + last.shared.deletions) := by
  obtain ⟨bound, below⟩ := exists_bound actions
  obtain ⟨gauge, created, deleted⟩ := gauged_of_run below ran
  constructor
  · intro negative
    apply @exists_standing bound last
    omega
  · intro rest
    have nowhere : ∀ stage ≠ .recorded, standing bound last stage = 0 := by
      intro stage busy
      by_contra occupied
      obtain ⟨call, stands⟩ := exists_standing occupied
      exact busy (rest call stage stands)
    rw [nowhere .raising (by decide), nowhere .lowering (by decide)] at gauge
    rw [nowhere .raising (by decide), nowhere .countingCreation (by decide)] at created
    rw [nowhere .raising (by decide), nowhere .countingCreation (by decide),
      nowhere .disowning (by decide)] at deleted
    refine ⟨?_, ?_, ?_⟩
    · omega
    · omega
    · omega

/-- A creation owns its session, and the deletion of a session of an earlier process lowers the
gauge before the creation has raised it. -/
def deletingAcross : List RecordAction :=
  [.call 0 (.request .created), .call 0 (.proceed ()), .call 1 (.request .deleted),
    .call 1 (.proceed ()), .call 1 (.proceed ()), .call 1 (.proceed ())]

theorem gauge_counts_sessions_acrossDeletion : ∃ last call,
    recordings.run (recordings.start .empty) deletingAcross = some last ∧
      last.shared.activeSessions = -1 ∧ last.calls call = .active .raising := by
  have computed : ((recordings.run (recordings.start .empty) deletingAcross).any
      fun last => last.shared.activeSessions = -1) = true := by decide
  obtain ⟨last, ran, negative⟩ := (Option.any_eq_true _ _).mp computed
  have negative := of_decide_eq_true negative
  obtain ⟨call, stands⟩ := (gauge_counts_sessions ran).1 (by omega)
  exact ⟨last, call, ran, negative, stands⟩

end OptionChainSimulator.Infrastructure
