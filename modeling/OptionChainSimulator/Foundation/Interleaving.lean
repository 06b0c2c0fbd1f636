import Mathlib.Tactic
import Mathlib.Logic.Function.Basic

namespace OptionChainSimulator.Foundation

/-! Concurrent calls over a shared state. A call proceeds in atomic sections, and
the sections of different calls interleave in any order. -/

/-- One atomic section: of a numbered call, or of the background. -/
inductive Action (ι κ : Type) where
  | call (index : Nat) (input : ι)
  | background (input : κ)
  deriving DecidableEq

structure Config (σ φ : Type) where
  shared : σ
  calls : Nat → φ

/-- The sections of a call in a phase, and those of the background. A section that
cannot run yet, or a phase that has nothing left to run, gives `none`. -/
structure Protocol (σ φ ι κ : Type) where
  idle : φ
  move : Nat → ι → σ → φ → Option (σ × φ)
  tick : κ → σ → Option σ

namespace Protocol

variable {σ φ ι κ : Type} (protocol : Protocol σ φ ι κ)

def start (shared : σ) : Config σ φ := ⟨shared, fun _ => protocol.idle⟩

def step (config : Config σ φ) : Action ι κ → Option (Config σ φ)
  | .call index input =>
      (protocol.move index input config.shared (config.calls index)).map
        fun (shared, phase) => ⟨shared, Function.update config.calls index phase⟩
  | .background input =>
      (protocol.tick input config.shared).map fun shared => { config with shared }

def run (config : Config σ φ) : List (Action ι κ) → Option (Config σ φ)
  | [] => some config
  | action :: rest => (protocol.step config action).bind fun next => run next rest

/-- Every section of the run meets the guard where it is taken. -/
def Meets (guard : Config σ φ → Action ι κ → Prop) :
    Config σ φ → List (Action ι κ) → Prop
  | _, [] => True
  | config, action :: rest =>
      guard config action ∧
        ∀ next, protocol.step config action = some next → Meets guard next rest

variable {protocol} {config next last : Config σ φ} {action : Action ι κ}
  {actions : List (Action ι κ)}

theorem step_call_eq_some {index : Nat} {input : ι} :
    protocol.step config (.call index input) = some next ↔
      ∃ shared phase,
        protocol.move index input config.shared (config.calls index) = some (shared, phase) ∧
          next = ⟨shared, Function.update config.calls index phase⟩ := by
  simp [step, eq_comm]

theorem step_background_eq_some {input : κ} :
    protocol.step config (.background input) = some next ↔
      ∃ shared, protocol.tick input config.shared = some shared ∧
        next = { config with shared } := by
  simp [step, eq_comm]

@[simp] theorem run_nil : protocol.run config [] = some last ↔ config = last := by
  simp [run]

theorem run_cons : protocol.run config (action :: actions) = some last ↔
    ∃ next, protocol.step config action = some next ∧
      protocol.run next actions = some last := by
  simp [run, Option.bind_eq_some_iff]

theorem run_append {before after : List (Action ι κ)} :
    protocol.run config (before ++ after) = some last ↔
      ∃ between, protocol.run config before = some between ∧
        protocol.run between after = some last := by
  induction before generalizing config with
  | nil => simp
  | cons action before ih =>
      simp only [List.cons_append, run_cons, ih]
      constructor
      · rintro ⟨next, stepped, between, ran, rest⟩
        exact ⟨between, ⟨next, stepped, ran⟩, rest⟩
      · rintro ⟨between, ⟨next, stepped, ran⟩, rest⟩
        exact ⟨next, stepped, between, ran, rest⟩

variable (protocol) in
/-- The run of these actions passes through the state. -/
def Visits (start : Config σ φ) (actions : List (Action ι κ)) (config : Config σ φ) : Prop :=
  ∃ before after, actions = before ++ after ∧ protocol.run start before = some config

theorem sum_calls_update {weigh : φ → Nat} {calls : Nat → φ} {index bound : Nat} {phase : φ}
    (below : index < bound) :
    ∑ call ∈ Finset.range bound, weigh (Function.update calls index phase call) +
        weigh (calls index) =
      ∑ call ∈ Finset.range bound, weigh (calls call) + weigh phase := by
  have member := Finset.mem_range.mpr below
  have others : ∑ call ∈ (Finset.range bound).erase index,
      weigh (Function.update calls index phase call) =
        ∑ call ∈ (Finset.range bound).erase index, weigh (calls call) := by
    apply Finset.sum_congr rfl
    intro call kept
    rw [Function.update_of_ne (Finset.ne_of_mem_erase kept)]
  rw [← Finset.add_sum_erase _ _ member, ← Finset.add_sum_erase _ _ member, others,
    Function.update_self]
  omega

theorem calls_of_run {index : Nat} (untouched : ∀ input, .call index input ∉ actions)
    (ran : protocol.run config actions = some last) : last.calls index = config.calls index := by
  induction actions generalizing config with
  | nil =>
      rw [run_nil] at ran
      rw [ran]
  | cons action actions ih =>
      obtain ⟨next, stepped, ran⟩ := run_cons.mp ran
      rw [ih (fun input member => untouched input (List.mem_cons_of_mem _ member)) ran]
      cases action with
      | call other input =>
          obtain ⟨shared, phase, -, rfl⟩ := step_call_eq_some.mp stepped
          have different : index ≠ other := by
            intro same
            subst same
            exact untouched input List.mem_cons_self
          exact Function.update_of_ne different ..
      | background input =>
          obtain ⟨shared, -, rfl⟩ := step_background_eq_some.mp stepped
          rfl

theorem Meets.mono {guard other : Config σ φ → Action ι κ → Prop}
    (implied : ∀ config action, guard config action → other config action)
    (met : protocol.Meets guard config actions) : protocol.Meets other config actions := by
  induction actions generalizing config with
  | nil => trivial
  | cons action actions ih =>
      obtain ⟨first, rest⟩ := met
      exact ⟨implied config action first, fun next stepped => ih (rest next stepped)⟩

theorem Meets.before {guard : Config σ φ → Action ι κ → Prop} {before after : List (Action ι κ)}
    (met : protocol.Meets guard config (before ++ after)) :
    protocol.Meets guard config before := by
  induction before generalizing config with
  | nil => trivial
  | cons action before ih =>
      obtain ⟨first, rest⟩ := met
      exact ⟨first, fun next stepped => ih (rest next stepped)⟩

theorem Meets.among {guard : Config σ φ → Action ι κ → Prop} {allowed : Action ι κ → Prop}
    (met : protocol.Meets guard config actions) (only : ∀ action ∈ actions, allowed action) :
    protocol.Meets (fun config action => allowed action ∧ guard config action) config actions := by
  induction actions generalizing config with
  | nil => trivial
  | cons action actions ih =>
      obtain ⟨first, rest⟩ := met
      exact ⟨⟨only action List.mem_cons_self, first⟩, fun next stepped =>
        ih (rest next stepped) fun other member => only other (List.mem_cons_of_mem _ member)⟩

theorem meets_of_always {guard : Config σ φ → Action ι κ → Prop}
    (always : ∀ config action, guard config action) : protocol.Meets guard config actions := by
  induction actions generalizing config with
  | nil => trivial
  | cons action actions ih => exact ⟨always config action, fun next _ => ih⟩

theorem meets_of_members {guard : Config σ φ → Action ι κ → Prop}
    (each : ∀ action ∈ actions, ∀ config, guard config action) :
    protocol.Meets guard config actions := by
  induction actions generalizing config with
  | nil => trivial
  | cons action actions ih =>
      rw [List.forall_mem_cons] at each
      exact ⟨each.1 config, fun next _ => ih each.2⟩

theorem meets_of_reached {guard : Config σ φ → Action ι κ → Prop}
    (ran : protocol.run config actions = some last)
    (follows : ∀ done rest reached next action, actions = done ++ action :: rest →
      protocol.run config done = some reached → protocol.step reached action = some next →
      protocol.run next rest = some last → guard reached action) :
    protocol.Meets guard config actions := by
  induction actions generalizing config with
  | nil => trivial
  | cons action actions ih =>
      obtain ⟨next, stepped, continued⟩ := run_cons.mp ran
      refine ⟨follows [] actions config next action rfl (run_nil.mpr rfl) stepped continued, ?_⟩
      intro other otherStepped
      rw [stepped] at otherStepped
      cases otherStepped
      apply ih continued
      intro done rest reached after later split ranDone
      apply follows (action :: done) rest reached after later
      · rw [split, List.cons_append]
      · exact run_cons.mpr ⟨next, stepped, ranDone⟩

variable (protocol) in
/-- A computed guard, along the run. -/
def checks (allowed : Config σ φ → Action ι κ → Bool) : Config σ φ → List (Action ι κ) → Bool
  | _, [] => true
  | config, action :: rest =>
      allowed config action &&
        (protocol.step config action).all fun next => checks allowed next rest

theorem meets_of_checks {guard : Config σ φ → Action ι κ → Prop}
    {allowed : Config σ φ → Action ι κ → Bool}
    (implied : ∀ config action, allowed config action → guard config action)
    (checked : protocol.checks allowed config actions) : protocol.Meets guard config actions := by
  induction actions generalizing config with
  | nil => trivial
  | cons action actions ih =>
      obtain ⟨first, rest⟩ := Bool.and_eq_true_iff.mp checked
      refine ⟨implied config action first, fun next stepped => ih ?_⟩
      rw [stepped] at rest
      exact rest

theorem holds_of_guarded_run {guard : Config σ φ → Action ι κ → Prop}
    {holds : Config σ φ → Prop}
    (preserved : ∀ {config action next}, holds config → guard config action →
      protocol.step config action = some next → holds next)
    (starts : holds config) (met : protocol.Meets guard config actions)
    (ran : protocol.run config actions = some last) : holds last := by
  induction actions generalizing config with
  | nil =>
      rw [run_nil] at ran
      rw [← ran]
      exact starts
  | cons action actions ih =>
      obtain ⟨next, stepped, ran⟩ := run_cons.mp ran
      obtain ⟨first, rest⟩ := met
      exact ih (preserved starts first stepped) (rest next stepped) ran

theorem holds_of_run (holds : Config σ φ → Prop)
    (preserved : ∀ {config action next}, holds config →
      protocol.step config action = some next → holds next)
    (starts : holds config) (ran : protocol.run config actions = some last) : holds last := by
  have met : protocol.Meets (fun _ _ => True) config actions :=
    meets_of_always fun _ _ => trivial
  apply holds_of_guarded_run _ starts met ran
  intro config action next held _ stepped
  exact preserved held stepped

/-- Only finitely many calls have begun. -/
theorem idle_beyond_of_run {shared : σ}
    (ran : protocol.run (protocol.start shared) actions = some last) :
    ∃ bound, ∀ call, bound ≤ call → last.calls call = protocol.idle := by
  apply holds_of_run (fun config => ∃ bound, ∀ call, bound ≤ call →
    config.calls call = protocol.idle) _ ⟨0, fun _ _ => rfl⟩ ran
  intro config action next idle stepped
  obtain ⟨bound, idle⟩ := idle
  cases action with
  | call index input =>
      obtain ⟨after, phase, -, rfl⟩ := step_call_eq_some.mp stepped
      refine ⟨max bound (index + 1), fun call beyond => ?_⟩
      have different : call ≠ index := by omega
      simp only [Function.update_of_ne different]
      exact idle call (by omega)
  | background input =>
      obtain ⟨after, -, rfl⟩ := step_background_eq_some.mp stepped
      exact ⟨bound, idle⟩

/-- Sections that each lower a measure are soon all taken. -/
theorem length_add_work_le {facts : Config σ φ → Prop} {allowed : Action ι κ → Prop}
    {work : Config σ φ → Nat}
    (lowers : ∀ {config action next}, facts config → allowed action →
      protocol.step config action = some next → facts next ∧ work next < work config)
    (starts : facts config) (only : ∀ action ∈ actions, allowed action)
    (ran : protocol.run config actions = some last) :
    facts last ∧ actions.length + work last ≤ work config := by
  induction actions generalizing config with
  | nil =>
      rw [run_nil] at ran
      subst ran
      exact ⟨starts, by simp⟩
  | cons action actions ih =>
      obtain ⟨next, stepped, ran⟩ := run_cons.mp ran
      obtain ⟨factsNext, lower⟩ := lowers starts (only action List.mem_cons_self) stepped
      obtain ⟨factsLast, bounded⟩ := ih factsNext
        (fun other member => only other (List.mem_cons_of_mem _ member)) ran
      refine ⟨factsLast, ?_⟩
      rw [List.length_cons]
      omega

/-- What a guarded section keeps may be used in its guard. -/
theorem Meets.along {guard : Config σ φ → Action ι κ → Prop} {holds : Config σ φ → Prop}
    (met : protocol.Meets guard config actions)
    (preserved : ∀ {config action next}, holds config → guard config action →
      protocol.step config action = some next → holds next)
    (starts : holds config) :
    protocol.Meets (fun config action => holds config ∧ guard config action) config actions := by
  induction actions generalizing config with
  | nil => trivial
  | cons action actions ih =>
      obtain ⟨first, rest⟩ := met
      refine ⟨⟨starts, first⟩, ?_⟩
      intro next stepped
      exact ih (rest next stepped) (preserved starts first stepped)

/-- A property that a section keeps exactly where it meets the guard holds throughout a
run exactly where every section meets it. -/
theorem holds_throughout_iff {guard : Config σ φ → Action ι κ → Prop}
    {facts holds : Config σ φ → Prop} {allowed : Action ι κ → Prop}
    (kept : ∀ {config action next}, facts config → allowed action → holds config →
      protocol.step config action = some next →
      facts next ∧ (holds next ↔ guard config action))
    (starts : facts config) (holding : holds config)
    (only : ∀ action ∈ actions, allowed action)
    (ran : protocol.run config actions = some last) :
    (∀ done rest reached, actions = done ++ rest → protocol.run config done = some reached →
      holds reached) ↔ protocol.Meets guard config actions := by
  induction actions generalizing config with
  | nil =>
      refine ⟨fun _ => trivial, fun _ done rest reached split ranDone => ?_⟩
      obtain ⟨rfl, -⟩ := List.append_eq_nil_iff.mp split.symm
      rw [run_nil] at ranDone
      rwa [← ranDone]
  | cons action actions ih =>
      obtain ⟨next, stepped, continued⟩ := run_cons.mp ran
      obtain ⟨factsNext, keeps⟩ := kept starts (only action List.mem_cons_self) holding stepped
      have onward := fun holdingNext => ih factsNext holdingNext
        (fun other member => only other (List.mem_cons_of_mem _ member)) continued
      constructor
      · intro throughout
        have holdingNext : holds next := by
          apply throughout [action] actions next rfl
          exact run_cons.mpr ⟨next, stepped, run_nil.mpr rfl⟩
        refine ⟨keeps.mp holdingNext, fun other otherStepped => ?_⟩
        rw [stepped] at otherStepped
        cases otherStepped
        apply (onward holdingNext).mp
        intro done rest reached split ranDone
        apply throughout (action :: done) rest reached
        · rw [split, List.cons_append]
        · exact run_cons.mpr ⟨next, stepped, ranDone⟩
      · intro met done rest reached split ranDone
        cases done with
        | nil =>
            rw [run_nil] at ranDone
            rwa [← ranDone]
        | cons first done =>
            obtain ⟨rfl, splitRest⟩ := List.cons_eq_cons.mp split
            obtain ⟨between, firstStepped, ranDone⟩ := run_cons.mp ranDone
            rw [stepped] at firstStepped
            cases firstStepped
            exact (onward (keeps.mpr met.1)).mpr (met.2 next stepped) done rest reached splitRest
              ranDone

section OwickiGries

/-! An assertion about the shared state, and one about each call's phase that the
sections of other calls do not disturb. -/

variable {guard : Nat → ι → σ → φ → Prop} {shared : σ → Prop} {own : Nat → σ → φ → Prop}

/-- A guard that looks at the shared state and the moving call only. -/
def atCall (guard : Nat → ι → σ → φ → Prop) : Config σ φ → Action ι κ → Prop
  | config, .call index input => guard index input config.shared (config.calls index)
  | _, .background _ => True

/-- The assertions hold of the shared state and of every call. -/
structure Holds (shared : σ → Prop) (own : Nat → σ → φ → Prop) (config : Config σ φ) :
    Prop where
  shared : shared config.shared
  own : ∀ index, own index config.shared (config.calls index)

variable (protocol) in
structure FreeOfInterference (guard : Nat → ι → σ → φ → Prop) (shared : σ → Prop)
    (own : Nat → σ → φ → Prop) : Prop where
  move : ∀ {index input before phase after next}, shared before → own index before phase →
    guard index input before phase →
    protocol.move index input before phase = some (after, next) →
    shared after ∧ own index after next
  others : ∀ {index input before phase after next}, shared before → own index before phase →
    guard index input before phase →
    protocol.move index input before phase = some (after, next) →
    ∀ other, other ≠ index → ∀ phase, own other before phase → own other after phase
  tick : ∀ {input before after}, shared before → protocol.tick input before = some after →
    shared after ∧ ∀ index phase, own index before phase → own index after phase

theorem FreeOfInterference.preserved (free : protocol.FreeOfInterference guard shared own)
    (held : Holds shared own config) (allowed : atCall guard config action)
    (stepped : protocol.step config action = some next) : Holds shared own next := by
  cases action with
  | call index input =>
      obtain ⟨after, phase, moved, rfl⟩ := step_call_eq_some.mp stepped
      obtain ⟨sharedAfter, ownAfter⟩ :=
        free.move held.shared (held.own index) allowed moved
      refine ⟨sharedAfter, fun other => ?_⟩
      by_cases same : other = index
      · subst same
        simpa using ownAfter
      · simp only [Function.update_of_ne same]
        exact free.others held.shared (held.own index) allowed moved other same _
          (held.own other)
  | background input =>
      obtain ⟨after, ticked, rfl⟩ := step_background_eq_some.mp stepped
      obtain ⟨sharedAfter, ownAfter⟩ := free.tick held.shared ticked
      exact ⟨sharedAfter, fun index => ownAfter index _ (held.own index)⟩

theorem FreeOfInterference.holds_of_run (free : protocol.FreeOfInterference guard shared own)
    (starts : Holds shared own config)
    (met : protocol.Meets (atCall guard) config actions)
    (ran : protocol.run config actions = some last) : Holds shared own last :=
  holds_of_guarded_run free.preserved starts met ran

theorem atCall_unguarded :
    atCall (fun (_ : Nat) (_ : ι) (_ : σ) (_ : φ) => True) config action := by
  cases action with
  | call index input => trivial
  | background input => trivial

theorem FreeOfInterference.holds_of_any_run
    (free : protocol.FreeOfInterference (fun _ _ _ _ => True) shared own)
    (starts : Holds shared own config) (ran : protocol.run config actions = some last) :
    Holds shared own last :=
  free.holds_of_run starts (meets_of_always fun _ _ => atCall_unguarded) ran

end OwickiGries

section Simulation

/-! A protocol that takes some sections of another one and leaves the rest out. -/

variable {τ ψ : Type} {reference : Protocol τ ψ ι κ} {model : Config τ ψ}

theorem simulated_guarded_run {guard : Config σ φ → Action ι κ → Prop}
    {related : Config σ φ → Config τ ψ → Prop}
    (matched : ∀ {config action next model}, related config model → guard config action →
      protocol.step config action = some next →
      related next model ∨
        ∃ nextModel, reference.step model action = some nextModel ∧ related next nextModel)
    (starts : related config model) (met : protocol.Meets guard config actions)
    (ran : protocol.run config actions = some last) :
    ∃ kept lastModel, List.Sublist kept actions ∧
      reference.run model kept = some lastModel ∧ related last lastModel := by
  induction actions generalizing config model with
  | nil =>
      rw [run_nil] at ran
      subst ran
      exact ⟨[], model, List.Sublist.refl [], run_nil.mpr rfl, starts⟩
  | cons action actions ih =>
      obtain ⟨next, stepped, ran⟩ := run_cons.mp ran
      obtain ⟨first, rest⟩ := met
      cases matched starts first stepped with
      | inl silent =>
          obtain ⟨kept, lastModel, within, modelRan, ends⟩ := ih silent (rest next stepped) ran
          exact ⟨kept, lastModel, within.cons action, modelRan, ends⟩
      | inr moved =>
          obtain ⟨nextModel, modelStepped, relatedNext⟩ := moved
          obtain ⟨kept, lastModel, within, modelRan, ends⟩ :=
            ih relatedNext (rest next stepped) ran
          exact ⟨action :: kept, lastModel, within.cons_cons action,
            run_cons.mpr ⟨nextModel, modelStepped, modelRan⟩, ends⟩

theorem simulated_run {related : Config σ φ → Config τ ψ → Prop}
    (matched : ∀ {config action next model}, related config model →
      protocol.step config action = some next →
      related next model ∨
        ∃ nextModel, reference.step model action = some nextModel ∧ related next nextModel)
    (starts : related config model) (ran : protocol.run config actions = some last) :
    ∃ kept lastModel, List.Sublist kept actions ∧
      reference.run model kept = some lastModel ∧ related last lastModel := by
  have met : protocol.Meets (fun _ _ => True) config actions :=
    meets_of_always fun _ _ => trivial
  apply simulated_guarded_run _ starts met ran
  intro config action next model held _ stepped
  exact matched held stepped

/-! What relates the phases of two protocols, call by call. -/

variable {calls : Nat → φ} {models : Nat → ψ} {related : Nat → φ → ψ → Prop} {index : Nat}
  {phase : φ} {modelPhase : ψ}

theorem forall_update {holds : Nat → φ → Prop} (own : holds index phase)
    (others : ∀ call, holds call (calls call)) (call : Nat) :
    holds call (Function.update calls index phase call) := by
  by_cases same : call = index
  · subst same
    rwa [Function.update_self]
  · rw [Function.update_of_ne same]
    exact others call

theorem related_update (each : ∀ call, related call (calls call) (models call))
    (moved : related index phase modelPhase) (call : Nat) :
    related call (Function.update calls index phase call)
      (Function.update models index modelPhase call) := by
  by_cases same : call = index
  · subst same
    rwa [Function.update_self, Function.update_self]
  · rw [Function.update_of_ne same, Function.update_of_ne same]
    exact each call

theorem related_update_left (each : ∀ call, related call (calls call) (models call))
    (moved : related index phase (models index)) (call : Nat) :
    related call (Function.update calls index phase call) (models call) := by
  have unchanged := related_update each moved call
  rwa [Function.update_eq_self] at unchanged

end Simulation

end Protocol

section Staged

/-! Calls that begin with a request and go from stage to stage. One can be dropped where
it awaits. -/

inductive StagedCall (Stage : Type) where
  | idle
  | active (stage : Stage)
  | dropped
  deriving DecidableEq

inductive StagedInput (Request Moment : Type) where
  | request (request : Request)
  | proceed (moment : Moment)
  | drop

variable {σ κ Request Moment Stage : Type}

def staged (begins : Request → Stage) (awaits : Stage → Bool)
    (proceed : Nat → Moment → σ → Stage → Option (σ × Stage)) (tick : κ → σ → Option σ) :
    Protocol σ (StagedCall Stage) (StagedInput Request Moment) κ where
  idle := .idle
  move call input shared phase :=
    match input, phase with
    | .request request, .idle => some (shared, .active (begins request))
    | .proceed moment, .active stage =>
        (proceed call moment shared stage).map fun (after, next) => (after, .active next)
    | .drop, .active stage => if awaits stage then some (shared, .dropped) else none
    | _, _ => none
  tick := tick

variable {begins : Request → Stage} {awaits : Stage → Bool}
  {proceed : Nat → Moment → σ → Stage → Option (σ × Stage)} {tick : κ → σ → Option σ}
  {call : Nat} {input : StagedInput Request Moment} {before after : σ}
  {phase next : StagedCall Stage}

/-- What a section of a staged call can be. -/
theorem staged_cases
    (moved : (staged begins awaits proceed tick).move call input before phase =
      some (after, next)) :
    (∃ request, input = .request request ∧ phase = .idle ∧ after = before ∧
        next = .active (begins request)) ∨
      (∃ moment stage nextStage, input = .proceed moment ∧ phase = .active stage ∧
        next = .active nextStage ∧
        proceed call moment before stage = some (after, nextStage)) ∨
      (∃ stage, input = .drop ∧ phase = .active stage ∧ awaits stage ∧ after = before ∧
        next = .dropped) := by
  cases phase with
  | idle =>
      cases input with
      | request request =>
          cases moved
          exact .inl ⟨request, rfl, rfl, rfl, rfl⟩
      | proceed moment => cases moved
      | drop => cases moved
  | active stage =>
      cases input with
      | request request => cases moved
      | proceed moment =>
          obtain ⟨⟨shared, nextStage⟩, stepped, equal⟩ := Option.map_eq_some_iff.mp moved
          cases equal
          exact .inr (.inl ⟨moment, stage, nextStage, rfl, rfl, rfl, stepped⟩)
      | drop =>
          simp only [staged] at moved
          split_ifs at moved with awaiting
          cases moved
          exact .inr (.inr ⟨stage, rfl, rfl, awaiting, rfl, rfl⟩)
  | dropped => cases input <;> cases moved

/-- What the call that moved meets at its stage, and the others at theirs, every call meets. -/
theorem active_of_update {calls : Nat → StagedCall Stage} {meets : Stage → Prop} {other : Nat}
    {stage : Stage} (own : ∀ stage, phase = .active stage → meets stage)
    (rest : calls other = .active stage → meets stage)
    (running : Function.update calls call phase other = .active stage) : meets stage := by
  by_cases same : other = call
  · subst same
    rw [Function.update_self] at running
    exact own stage running
  · rw [Function.update_of_ne same] at running
    exact rest running

/-- The calls begun since then are at stages of one kind, and the others have not moved. -/
structure Since (waits : Stage → Prop) (start config : Config σ (StagedCall Stage)) : Prop where
  begun : ∀ {call stage}, start.calls call = .idle → config.calls call = .active stage →
    waits stage
  others : ∀ {call}, start.calls call ≠ .idle → config.calls call = start.calls call

variable {waits : Stage → Prop} {start config : Config σ (StagedCall Stage)}

theorem since_start : Since waits start start := by
  refine ⟨fun idle running => ?_, fun _ => rfl⟩
  rw [idle] at running
  cases running

theorem Since.update {shared : σ} (since : Since waits start config)
    (idle : start.calls call = .idle) (own : ∀ stage, phase = .active stage → waits stage) :
    Since waits start ⟨shared, Function.update config.calls call phase⟩ := by
  refine ⟨fun {other stage} began running => ?_, fun {other} rests => ?_⟩
  · exact active_of_update own (since.begun began) running
  · have different : other ≠ call := by
      intro same
      exact rests (same ▸ idle)
    simp only [Function.update_of_ne different]
    exact since.others rests

theorem Since.idle_of_move {finished : Stage → Prop} (since : Since waits start config)
    (rest : ∀ call stage, start.calls call = .active stage → finished stage)
    (stuck : ∀ {stage}, finished stage → awaits stage = false ∧
      ∀ call moment shared, proceed call moment shared stage = none)
    (moved : (staged begins awaits proceed tick).move call input before (config.calls call) =
      some (after, next)) : start.calls call = .idle := by
  by_contra rests
  rw [since.others rests] at moved
  obtain ⟨_, -, idle, -⟩ | ⟨moment, stage, _, -, active, -, proceeded⟩ |
    ⟨stage, -, active, awaiting, -⟩ := staged_cases moved
  · exact rests idle
  · rw [(stuck (rest call stage active)).2] at proceeded
    cases proceeded
  · rw [(stuck (rest call stage active)).1] at awaiting
    cases awaiting

end Staged

end OptionChainSimulator.Foundation
