import Mathlib.Tactic
import OptionChainSimulator.Session.SharedBuild

namespace OptionChainSimulator.Session

open Foundation Foundation.Protocol Utils Domain

/-! Whether the calls of `tape_for` get their results, whatever the schedule. -/

/-- The sections that bring the calls begun nearer to their results. -/
def Drives : TapeAction → Prop
  | .call _ (.proceed _) | .background (.runTask _ _) => True
  | _ => False

/-- How many sections the call has left at most, a task it may spawn included. -/
def TapeStage.remaining : TapeStage → Nat
  | .cached => 6
  | .claiming => 5
  | .waiting _ => 3
  | .rescuing => 1
  | .building => 3
  | .releasing _ => 2
  | .publishing _ _ => 1
  | .returned _ => 0

def TapeCall.remaining : TapeCall → Nat
  | .active _ stage => stage.remaining
  | _ => 0

def Tapes.pending (tapes : Tapes) (call : Nat) : Nat :=
  match tapes.tasks call with
  | some ⟨_, _, none⟩ => 1
  | _ => 0

def TapeConfig.left (config : TapeConfig) (call : Nat) : Nat :=
  (config.calls call).remaining + config.shared.pending call

/-- What the calls below `bound` have left together. -/
def TapeConfig.work (bound : Nat) (config : TapeConfig) : Nat :=
  ∑ call ∈ Finset.range bound, config.left call

variable {Chain : Type} {runtime : Runtime Chain} {parameters : Uuid → SimulationParametersV2}
  {call now bound : Nat} {id : Uuid} {before after : Tapes} {stage next : TapeStage}
  {config nextConfig last : TapeConfig} {actions : List TapeAction}

theorem Tapes.pending_le (tapes : Tapes) (call : Nat) : tapes.pending call ≤ 1 := by
  unfold Tapes.pending
  split <;> omega

theorem Tapes.pending_of_same (same : after.tasks call = before.tasks call) :
    after.pending call = before.pending call := by
  rw [Tapes.pending, Tapes.pending, same]

theorem pending_of_tapeStep {other : Nat} (different : other ≠ call)
    (stepped : TapeStep call id (parameters id) now before stage after next) :
    after.pending other = before.pending other := by
  apply Tapes.pending_of_same
  obtain same | ⟨more, -⟩ := tasks_of_tapeStep stepped
  · rw [same]
  · rw [more, Function.update_of_ne different]

theorem remaining_of_tapeStep
    (stepped : TapeStep call id (parameters id) now before stage after next) :
    next.remaining + after.pending call < stage.remaining + before.pending call := by
  have spawned := after.pending_le call
  cases stepped with
  | own | rescue =>
      simp only [TapeStage.remaining]
      omega
  | hit | miss | join | hear | rescued | built | release | gone | publish =>
      apply Nat.add_lt_add_of_lt_of_le _ (Tapes.pending_of_same rfl).le
      simp only [TapeStage.remaining]
      omega

theorem pending_of_runTask (ran : Tapes.runTask runtime call now before = some after) :
    before.pending call = 1 ∧ after.pending call = 0 ∧
      ∀ other ≠ call, after.pending other = before.pending other := by
  obtain ⟨id, own, held, outcome⟩ := Tapes.runTask_cases ran
  have finished : ∃ result, after.tasks =
      Function.update before.tasks call (some ⟨id, own, some result⟩) := by
    obtain ⟨tape, -, rfl⟩ | ⟨e, -, rfl⟩ := outcome
    · exact ⟨_, rfl⟩
    · exact ⟨_, rfl⟩
  obtain ⟨result, tasks⟩ := finished
  refine ⟨?_, ?_, fun other different => ?_⟩
  · rw [Tapes.pending, held]
  · rw [Tapes.pending, tasks, Function.update_self]
  · apply Tapes.pending_of_same
    rw [tasks, Function.update_of_ne different]

/-- What is known of a configuration whose calls from `bound` on have not begun. -/
structure Begun (runtime : Runtime Chain) (parameters : Uuid → SimulationParametersV2)
    (bound : Nat) (config : TapeConfig) : Prop where
  facts : Holds (TapeFacts runtime parameters) (CallFacts runtime parameters) config
  idle : ∀ call, bound ≤ call → config.calls call = .idle

theorem work_lt (below : call < bound)
    (lower : nextConfig.left call < config.left call)
    (others : ∀ other ≠ call, nextConfig.left other = config.left other) :
    nextConfig.work bound < config.work bound := by
  apply Finset.sum_lt_sum
  · intro other _
    by_cases same : other = call
    · subst same
      exact lower.le
    · exact (others other same).le
  · exact ⟨call, Finset.mem_range.mpr below, lower⟩

theorem work_of_step {action : TapeAction} (begun : Begun runtime parameters bound config)
    (drives : Drives action)
    (stepped : (tapeCalls runtime parameters).step config action = some nextConfig) :
    Begun runtime parameters bound nextConfig ∧ nextConfig.work bound < config.work bound := by
  have facts := facts_free.preserved begun.facts atCall_unguarded stepped
  cases action with
  | call call input =>
      cases input with
      | tapeFor id => cases drives
      | drop => cases drives
      | proceed now =>
          obtain ⟨after, phase, moved, rfl⟩ := step_call_eq_some.mp stepped
          obtain ⟨_, idle, -, -⟩ | ⟨id, stage, _, next, active, rfl, taken⟩ |
            ⟨_, _, impossible, -⟩ := tapeCalls_cases moved
          · rw [idle] at moved
            cases moved
          · have below : call < bound := by
              by_contra beyond
              rw [begun.idle call (by omega)] at active
              cases active
            refine ⟨⟨facts, fun other beyond => ?_⟩, work_lt below ?_ ?_⟩
            · have different : other ≠ call := by omega
              simp only [Function.update_of_ne different]
              exact begun.idle other beyond
            · simp only [TapeConfig.left, Function.update_self, active, TapeCall.remaining]
              exact remaining_of_tapeStep taken
            · intro other different
              simp only [TapeConfig.left, Function.update_of_ne different]
              rw [pending_of_tapeStep different taken]
          · cases impossible
  | background tick =>
      cases tick with
      | evict id => cases drives
      | runTask call now =>
          obtain ⟨after, ticked, rfl⟩ := step_background_eq_some.mp stepped
          obtain ⟨pending, ran, others⟩ := pending_of_runTask ticked
          have below : call < bound := by
            by_contra beyond
            have fresh := begun.facts.own call
            rw [begun.idle call (by omega)] at fresh
            rw [Tapes.pending, fresh.2] at pending
            cases pending
          refine ⟨⟨facts, begun.idle⟩, work_lt below ?_ ?_⟩
          · simp only [TapeConfig.left, pending, ran]
            omega
          · intro other different
            simp only [TapeConfig.left, others other different]

namespace TapeCall

/-- The call is going to publish on its own channel. -/
def Publishes (call : Nat) : TapeCall → Prop
  | .active _ stage => stage.owns ∨ ∃ result, stage = .publishing call result
  | _ => False

/-- A channel is silent until the call that opened it returns, or for good once it is dropped. -/
structure Keeps (call : Nat) (tapes : Tapes) (phase : TapeCall) : Prop where
  registered : Registered call tapes phase
  ownChannel : ∀ {id channel result}, phase = .active id (.publishing channel result) →
    channel = call
  silent : tapes.heard call = some .silent → phase.Publishes call ∨ phase = .dropped
  sent : ∀ {result}, tapes.heard call = some (.sent result) →
    ∃ id result, phase = .active id (.returned result)

end TapeCall

theorem heard_of_others {phase : TapeCall} {input : TapeInput} {nextPhase : TapeCall} {other : Nat}
    (keeps : phase.Keeps call before) (different : other ≠ call)
    (moved : (tapeCalls runtime parameters).move call input before phase =
      some (after, nextPhase)) : after.heard other = before.heard other := by
  obtain ⟨_, -, rfl, -⟩ | ⟨id, stage, now, next, rfl, -, taken⟩ | ⟨_, _, -, -, -, rfl, -⟩ :=
    tapeCalls_cases moved
  · rfl
  · cases taken with
    | own vacant =>
        rw [Tapes.heard, Tapes.channels_claim, Function.update_of_ne different, Tapes.heard]
    | publish =>
        rw [keeps.ownChannel rfl, Tapes.heard, Tapes.channels_send,
          Function.update_of_ne different, Tapes.heard]
    | hit | miss | join | hear | rescue | rescued | built | release | gone => rfl
  · rfl

theorem TapeCall.Keeps.tapeStep (keeps : (TapeCall.active id stage).Keeps call before)
    (registered : TapeCall.Registered call after (.active id next))
    (stepped : TapeStep call id (parameters id) now before stage after next) :
    (TapeCall.active id next).Keeps call after := by
  have owned : stage.owns → before.builds id = some call := fun owns =>
    keeps.registered id (TapeCall.owns_active.mpr ⟨rfl, owns⟩)
  have published : ∀ {channel result}, stage = .publishing channel result → channel = call := by
    intro channel result publishing
    exact keeps.ownChannel (congrArg (TapeCall.active id) publishing)
  have quiet : ¬ stage.owns → (∀ result, stage ≠ .publishing call result) →
      before.heard call ≠ some .silent := by
    intro owns publishing silent
    obtain (owning | ⟨result, same⟩) | impossible := keeps.silent silent
    · exact owns owning
    · exact publishing result same
    · cases impossible
  have unsent : (∀ result, stage ≠ .returned result) → ∀ result,
      before.heard call ≠ some (.sent result) := by
    intro unreturned result sent
    obtain ⟨_, result, same⟩ := keeps.sent sent
    cases same
    exact unreturned result rfl
  refine ⟨registered, ?_, ?_, ?_⟩
  · intro _ channel result publishing
    cases publishing
    cases stepped with
    | release running =>
        rw [owned rfl] at running
        cases running
        rfl
  · intro silent
    apply Or.inl
    cases stepped with
    | own | built => exact .inl rfl
    | release running =>
        rw [owned rfl] at running
        cases running
        exact .inr ⟨_, rfl⟩
    | gone missing =>
        rw [owned rfl] at missing
        cases missing
    | publish =>
        rw [published rfl, Tapes.heard, Tapes.channels_send, Function.update_self,
          Option.map_map] at silent
        obtain ⟨opened, -, impossible⟩ := Option.map_eq_some_iff.mp silent
        cases impossible
    | hit | miss | join | hear | rescue | rescued =>
        exact absurd silent (quiet (by simp [TapeStage.owns]) (by simp))
  · intro result sent
    cases stepped with
    | publish => exact ⟨id, _, rfl⟩
    | own vacant =>
        rw [Tapes.heard, Tapes.channels_claim, Function.update_self] at sent
        cases sent
    | hit | miss | join | hear | rescue | rescued | built | release | gone =>
        exact absurd sent (unsent (by simp) result)

theorem TapeCall.Keeps.of_same {phase : TapeCall} (keeps : phase.Keeps call before)
    (registered : TapeCall.Registered call after phase)
    (heard : after.heard call = before.heard call) : phase.Keeps call after := by
  refine ⟨registered, keeps.ownChannel, ?_, ?_⟩
  · rw [heard]
    exact keeps.silent
  · rw [heard]
    exact keeps.sent

theorem heard_of_tick {tick : TapeTick}
    (ticked : (tapeCalls runtime parameters).tick tick before = some after) :
    after.heard = before.heard := by
  cases tick with
  | evict id =>
      cases ticked
      rfl
  | runTask call now =>
      obtain ⟨_, _, _, ⟨_, _, rfl⟩ | ⟨_, _, rfl⟩⟩ := Tapes.runTask_cases ticked
      · rfl
      · rfl

theorem keeps_free : (tapeCalls runtime parameters).FreeOfInterference (fun _ _ _ _ => True)
    (fun _ => True) TapeCall.Keeps where
  move {call input before phase after next} _ keeps _ moved := by
    have registered := (TapeCall.registered_free.move trivial keeps.registered trivial moved).2
    refine ⟨trivial, ?_⟩
    obtain ⟨id, rfl, rfl, rfl⟩ | ⟨id, stage, now, nextStage, rfl, rfl, taken⟩ |
      ⟨id, stage, rfl, rfl, awaiting, rfl, rfl⟩ := tapeCalls_cases moved
    · refine ⟨registered, ?_, ?_, ?_⟩
      · intro _ _ _ impossible
        cases impossible
      · intro silent
        obtain impossible | impossible := keeps.silent silent
        · cases impossible
        · cases impossible
      · intro _ sent
        obtain ⟨_, _, impossible⟩ := keeps.sent sent
        cases impossible
    · exact keeps.tapeStep registered taken
    · refine ⟨registered, ?_, fun _ => .inr rfl, ?_⟩
      · intro _ _ _ impossible
        cases impossible
      · intro _ sent
        obtain ⟨_, _, same⟩ := keeps.sent sent
        cases same
        cases awaiting
  others {call input before phase after next} _ keeps _ moved other different phase' keeps' := by
    have registered := TapeCall.registered_free.others trivial keeps.registered trivial moved other
      different phase' keeps'.registered
    exact keeps'.of_same registered (heard_of_others keeps different moved)
  tick {input before after} _ ticked := by
    refine ⟨trivial, fun call phase keeps => ?_⟩
    have registered := (TapeCall.registered_free.tick trivial ticked).2 call phase keeps.registered
    exact keeps.of_same registered (congrFun (heard_of_tick ticked) call)

theorem start_keeps : Holds (fun _ => True) TapeCall.Keeps
    ((tapeCalls runtime parameters).start .empty) where
  shared := trivial
  own call := by
    refine ⟨start_registered.own call, ?_, ?_, ?_⟩
    · intro _ _ _ impossible
      cases impossible
    · intro impossible
      cases impossible
    · intro _ impossible
      cases impossible

/-- The call waits for a build whose owner was dropped. -/
def Abandoned (config : TapeConfig) (call : Nat) : Prop :=
  ∃ id owner, config.calls call = .active id (.waiting owner) ∧ config.calls owner = .dropped

/-- No section is left that would bring a call nearer to its result. -/
def Still (runtime : Runtime Chain) (parameters : Uuid → SimulationParametersV2)
    (config : TapeConfig) : Prop :=
  ∀ action, Drives action → (tapeCalls runtime parameters).step config action = none

theorem Still.stuck (still : Still runtime parameters config)
    (active : config.calls call = .active id stage) :
    config.shared.tapeFor call id (parameters id) 0 stage = none := by
  have none := still (.call call (.proceed 0)) trivial
  simp only [Protocol.step, tapeCalls, active, Option.map_eq_none_iff] at none
  exact none

theorem Still.outcome {own : SimulationParametersV2} (still : Still runtime parameters config)
    (spawned : config.shared.Spawned call id own) :
    ∃ result, config.shared.outcome call = some result := by
  obtain ⟨outcome, held⟩ := spawned
  cases outcome with
  | some result => exact ⟨result, by simp [Tapes.outcome, held]⟩
  | none =>
      have none := still (.background (.runTask call 0)) trivial
      simp only [Protocol.step, tapeCalls, Option.map_eq_none_iff, Tapes.runTask, held] at none
      split at none
      · cases none
      · cases none

/-- Only a call that waits, or that has its result, is ever stuck. -/
theorem Still.waits (still : Still runtime parameters config)
    (own : CallFacts runtime parameters call config.shared (.active id stage))
    (active : config.calls call = .active id stage) :
    (∃ result, stage = .returned result) ∨ ∃ channel, stage = .waiting channel := by
  have stuck := still.stuck active
  cases stage with
  | waiting channel => exact .inr ⟨channel, rfl⟩
  | returned result => exact .inl ⟨result, rfl⟩
  | cached =>
      simp only [Tapes.tapeFor] at stuck
      split at stuck
      · cases stuck
      · cases stuck
  | claiming =>
      simp only [Tapes.tapeFor] at stuck
      split at stuck
      · cases stuck
      · cases stuck
  | releasing | publishing => cases stuck
  | rescuing | building =>
      obtain ⟨result, finished⟩ := still.outcome own.1
      simp [Tapes.tapeFor, finished] at stuck

theorem Still.abandoned {channel : Nat} (still : Still runtime parameters config)
    (facts : Holds (TapeFacts runtime parameters) (CallFacts runtime parameters) config)
    (keeps : Holds (fun _ => True) TapeCall.Keeps config)
    (waiting : config.calls call = .active id (.waiting channel)) :
    config.calls channel = .dropped := by
  have own := facts.own call
  rw [waiting] at own
  obtain ⟨opened, held, -⟩ := own.1
  have heard : config.shared.heard channel = some opened.broadcast := by rw [Tapes.heard, held]; rfl
  have stuck := still.stuck waiting
  simp only [Tapes.tapeFor, heard] at stuck
  cases broadcast : opened.broadcast with
  | sent result =>
      rw [broadcast] at stuck
      cases stuck
  | closed =>
      rw [broadcast] at stuck
      cases stuck
  | silent =>
      rw [broadcast] at heard
      obtain publishes | dropped := (keeps.own channel).silent heard
      · cases owner : config.calls channel with
        | idle => simp [owner, TapeCall.Publishes] at publishes
        | dropped => rfl
        | active named stage =>
            have ownerFacts := facts.own channel
            rw [owner] at publishes ownerFacts
            obtain ⟨result, rfl⟩ | ⟨other, rfl⟩ := still.waits ownerFacts owner
            · simp [TapeCall.Publishes, TapeStage.owns] at publishes
            · simp [TapeCall.Publishes, TapeStage.owns] at publishes
      · exact dropped

/-- Nothing is ever sent on the channel of a dropped owner. -/
theorem hung_of_step {owner : Nat} {action : TapeAction}
    (facts : Holds (TapeFacts runtime parameters) (CallFacts runtime parameters) config)
    (keeps : Holds (fun _ => True) TapeCall.Keeps config)
    (dropped : config.calls owner = .dropped)
    (waits : config.calls call = .active id (.waiting owner) ∨ config.calls call = .dropped)
    (stepped : (tapeCalls runtime parameters).step config action = some nextConfig) :
    nextConfig.calls owner = .dropped ∧
      (nextConfig.calls call = .active id (.waiting owner) ∨ nextConfig.calls call = .dropped) := by
  cases action with
  | background tick =>
      obtain ⟨after, -, rfl⟩ := step_background_eq_some.mp stepped
      exact ⟨dropped, waits⟩
  | call other input =>
      obtain ⟨after, phase, moved, rfl⟩ := step_call_eq_some.mp stepped
      have undropped : config.calls other ≠ .dropped := by
        intro gone
        rw [gone] at moved
        cases input <;> cases moved
      have notOwner : owner ≠ other := by
        intro same
        exact undropped (same ▸ dropped)
      refine ⟨by simp only [Function.update_of_ne notOwner, dropped], ?_⟩
      by_cases same : call = other
      · subst same
        simp only [Function.update_self]
        obtain waiting | gone := waits
        · obtain ⟨_, impossible, -⟩ | ⟨_, stage, now, next, active, rfl, taken⟩ |
            ⟨_, _, -, -, -, -, rfl⟩ := tapeCalls_cases moved
          · rw [waiting] at impossible
            cases impossible
          · rw [waiting] at active
            cases active
            cases taken with
            | hear sent =>
                obtain ⟨_, _, returned⟩ := (keeps.own owner).sent sent
                rw [dropped] at returned
                cases returned
            | rescue closed => exact absurd closed (facts.shared.unclosed owner)
          · exact .inr rfl
        · exact absurd gone undropped
      · simp only [Function.update_of_ne same]
        exact waits

theorem hung_of_run {owner : Nat} {rest : List TapeAction}
    (facts : Holds (TapeFacts runtime parameters) (CallFacts runtime parameters) config)
    (keeps : Holds (fun _ => True) TapeCall.Keeps config)
    (dropped : config.calls owner = .dropped)
    (waits : config.calls call = .active id (.waiting owner))
    (ran : (tapeCalls runtime parameters).run config rest = some last) :
    last.calls call = .active id (.waiting owner) ∨ last.calls call = .dropped := by
  have hung := holds_of_run (fun config =>
    Holds (TapeFacts runtime parameters) (CallFacts runtime parameters) config ∧
      Holds (fun _ => True) TapeCall.Keeps config ∧ config.calls owner = .dropped ∧
      (config.calls call = .active id (.waiting owner) ∨ config.calls call = .dropped)) ?_
    ⟨facts, keeps, dropped, .inl waits⟩ ran
  · exact hung.2.2.2
  · intro config action next known stepped
    obtain ⟨facts, keeps, dropped, waits⟩ := known
    exact ⟨facts_free.preserved facts atCall_unguarded stepped,
      keeps_free.preserved keeps atCall_unguarded stepped,
      hung_of_step facts keeps dropped waits stepped⟩

/-- From any state, whatever the schedule, the calls begun soon have their results, all but
those that wait for a build whose owner was dropped; and these never have one. -/
theorem tape_for_stalls_only_behind_dropped_owner
    (ran : (tapeCalls runtime parameters).run ((tapeCalls runtime parameters).start .empty)
      actions = some config) :
    (∃ bound, ∀ rest last, (∀ action ∈ rest, Drives action) →
      (tapeCalls runtime parameters).run config rest = some last →
        rest.length ≤ bound ∧
          (Still runtime parameters last → ∀ call id stage, last.calls call = .active id stage →
            (∃ result, stage = .returned result) ∨ Abandoned last call)) ∧
      ∀ call, Abandoned config call → ∀ rest last,
        (tapeCalls runtime parameters).run config rest = some last →
          ∀ id result, last.calls call ≠ .active id (.returned result) := by
  have facts := facts_free.holds_of_any_run start_facts ran
  have keeps := keeps_free.holds_of_any_run start_keeps ran
  constructor
  · obtain ⟨bound, idle⟩ := idle_beyond_of_run ran
    refine ⟨config.work bound, fun rest last drives continued => ?_⟩
    obtain ⟨begun, bounded⟩ := length_add_work_le work_of_step ⟨facts, idle⟩ drives continued
    refine ⟨by omega, fun still call id stage active => ?_⟩
    have own := begun.facts.own call
    rw [active] at own
    obtain returned | ⟨owner, rfl⟩ := still.waits own active
    · exact .inl returned
    · have keepsLast := keeps_free.holds_of_any_run keeps continued
      exact .inr ⟨id, owner, active, still.abandoned begun.facts keepsLast active⟩
  · intro call abandoned rest last continued id result returned
    obtain ⟨named, owner, waiting, dropped⟩ := abandoned
    obtain hung | hung := hung_of_run facts keeps dropped waiting continued
    · rw [returned] at hung
      cases hung
    · rw [returned] at hung
      cases hung

/-- One call owns the build, another one waits for it, and the owner is dropped. -/
def abandoning : List TapeAction :=
  claimingBy 0 someId ++ claimingBy 1 someId ++ [.call 0 .drop]

theorem tape_for_stalls_only_behind_dropped_owner_abandoning :
    ∃ config, (tapeCalls flatRuntime thursdays).run
        ((tapeCalls flatRuntime thursdays).start .empty) abandoning = some config ∧
      ∀ rest last, (tapeCalls flatRuntime thursdays).run config rest = some last →
        ∀ id result, last.calls 1 ≠ .active id (.returned result) := by
  have runs : ∃ config, (tapeCalls flatRuntime thursdays).run
      ((tapeCalls flatRuntime thursdays).start .empty) abandoning = some config ∧
        config.calls 1 = .active someId (.waiting 0) ∧ config.calls 0 = .dropped :=
    ⟨_, rfl, rfl, rfl⟩
  obtain ⟨config, ran, waiting, dropped⟩ := runs
  exact ⟨config, ran,
    (tape_for_stalls_only_behind_dropped_owner ran).2 1 ⟨someId, 0, waiting, dropped⟩⟩

end OptionChainSimulator.Session
