import Mathlib.Tactic
import OptionChainSimulator.Session.Horizon
import OptionChainSimulator.Session.Tapes

namespace OptionChainSimulator.Session

open Foundation Foundation.Protocol Utils Domain

/-! The calls of `tape_for` on one manager, the blocking tasks they leave behind, and
the tapes that are evicted meanwhile. -/

inductive TapeCall where
  | idle
  | active (id : Uuid) (stage : TapeStage)
  | dropped

inductive TapeInput where
  | tapeFor (id : Uuid)
  | proceed (now : Nat)
  | drop

inductive TapeTick where
  | runTask (call now : Nat)
  | evict (id : Uuid)

abbrev TapeConfig := Config Tapes TapeCall
abbrev TapeAction := Action TapeInput TapeTick

section Protocol

variable {Chain : Type} (runtime : Runtime Chain) (parameters : Uuid → SimulationParametersV2)

/-- A simulation's parameters never change, so a call names them by its id. -/
def tapeCalls : Protocol Tapes TapeCall TapeInput TapeTick where
  idle := .idle
  move call input tapes phase :=
    match input, phase with
    | .tapeFor id, .idle => some (tapes, .active id .cached)
    | .proceed now, .active id stage =>
        (tapes.tapeFor call id (parameters id) now stage).map fun (after, next) =>
          (after, .active id next)
    | .drop, .active _ stage => if stage.awaits then some (tapes, .dropped) else none
    | _, _ => none
  tick input tapes :=
    match input with
    | .runTask call now => tapes.runTask runtime call now
    | .evict id => some (tapes.evict id)

end Protocol

variable {Chain : Type} {runtime : Runtime Chain} {parameters : Uuid → SimulationParametersV2}
  {call : Nat} {input : TapeInput} {before after : Tapes} {phase next : TapeCall}

theorem tapeCalls_cases
    (moved : (tapeCalls runtime parameters).move call input before phase = some (after, next)) :
    (∃ id, phase = .idle ∧ after = before ∧ next = .active id .cached) ∨
      (∃ id stage now nextStage, phase = .active id stage ∧ next = .active id nextStage ∧
        TapeStep call id (parameters id) now before stage after nextStage) ∨
      (∃ id stage, input = .drop ∧ phase = .active id stage ∧ stage.awaits ∧ after = before ∧
        next = .dropped) := by
  cases phase with
  | idle =>
      cases input with
      | tapeFor id =>
          cases moved
          exact .inl ⟨id, rfl, rfl, rfl⟩
      | proceed now => cases moved
      | drop => cases moved
  | active id stage =>
      cases input with
      | tapeFor id => cases moved
      | proceed now =>
          obtain ⟨⟨tapes, nextStage⟩, stepped, equal⟩ := Option.map_eq_some_iff.mp moved
          cases equal
          exact .inr (.inl ⟨id, stage, now, nextStage, rfl, rfl, tapeStep_of_tapeFor stepped⟩)
      | drop =>
          simp only [tapeCalls] at moved
          split_ifs at moved with awaiting
          cases moved
          exact .inr (.inr ⟨id, stage, rfl, rfl, awaiting, rfl, rfl⟩)
  | dropped => cases input <;> cases moved

/-- The sections of a call that write `builds`: an owner's entry comes with its claim
and goes with its release. -/
theorem builds_of_tapeStep {id : Uuid} {now : Nat} {stage nextStage : TapeStage}
    (stepped : TapeStep call id (parameters id) now before stage after nextStage) :
    (after.builds = before.builds ∧ nextStage.owns = stage.owns) ∨
      (stage.owns = false ∧ nextStage.owns = true ∧ before.builds id = none ∧
        after.builds = Function.update before.builds id (some call) ∧
        after.started = before.started ++ [id]) ∨
      (stage.owns = true ∧ nextStage.owns = false ∧
        after.builds = Function.update before.builds id none) := by
  cases stepped with
  | own vacant => exact .inr (.inl ⟨rfl, rfl, vacant, rfl, rfl⟩)
  | release registered => exact .inr (.inr ⟨rfl, rfl, rfl⟩)
  | gone missing => exact .inr (.inr ⟨rfl, rfl, rfl⟩)
  | hit | miss | join | hear | rescue | rescued | built | publish => exact .inl ⟨rfl, rfl⟩

/-- Neither an eviction nor a task begins a build or ends one. -/
theorem builds_of_tick {tick : TapeTick}
    (ticked : (tapeCalls runtime parameters).tick tick before = some after) :
    after.builds = before.builds ∧ after.started = before.started := by
  cases tick with
  | evict id =>
      cases ticked
      exact ⟨rfl, rfl⟩
  | runTask call now =>
      obtain ⟨_, _, _, ⟨_, _, rfl⟩ | ⟨_, _, rfl⟩⟩ := Tapes.runTask_cases ticked
      · exact ⟨rfl, rfl⟩
      · exact ⟨rfl, rfl⟩

namespace TapeCall

/-- A live owner of a build of the simulation. -/
def Owns (id : Uuid) (phase : TapeCall) : Prop := ∃ stage, phase = .active id stage ∧ stage.owns

/-- The call is behind every entry registered in its name. -/
def Accounts (call : Nat) (tapes : Tapes) (phase : TapeCall) : Prop :=
  ∀ id, tapes.builds id = some call → phase.Owns id

/-- An owner's entry is registered in its name. -/
def Registered (call : Nat) (tapes : Tapes) (phase : TapeCall) : Prop :=
  ∀ id, phase.Owns id → tapes.builds id = some call

/-- No live owner is dropped. -/
def keepsOwners (_ : Nat) (input : TapeInput) (_ : Tapes) (phase : TapeCall) : Prop :=
  input = .drop → ∀ id, ¬ phase.Owns id

theorem owns_active {id other : Uuid} {stage : TapeStage} :
    (TapeCall.active other stage).Owns id ↔ id = other ∧ stage.owns := by
  constructor
  · intro owning
    obtain ⟨_, equal, owned⟩ := owning
    cases equal
    exact ⟨rfl, owned⟩
  · intro owning
    obtain ⟨rfl, owned⟩ := owning
    exact ⟨stage, rfl, owned⟩

theorem accounts_free : (tapeCalls runtime parameters).FreeOfInterference keepsOwners
    (fun _ => True) Accounts where
  move {call input before phase after next} _ accounts allowed moved := by
    refine ⟨trivial, ?_⟩
    intro id registered
    obtain ⟨_, rfl, rfl, rfl⟩ | ⟨other, stage, now, nextStage, rfl, rfl, stepped⟩ |
      ⟨_, _, rfl, rfl, _, rfl, rfl⟩ := tapeCalls_cases moved
    · obtain ⟨_, impossible, -⟩ := accounts id registered
      cases impossible
    · rw [owns_active]
      obtain ⟨same, owning⟩ | ⟨-, owning, -, claimed, -⟩ | ⟨owning, released, removed⟩ :=
        builds_of_tapeStep stepped
      · rw [same] at registered
        rw [owning]
        exact owns_active.mp (accounts id registered)
      · rw [claimed] at registered
        by_cases same : id = other
        · exact ⟨same, owning⟩
        · rw [Function.update_of_ne same] at registered
          exact absurd (owns_active.mp (accounts id registered)).1 same
      · rw [removed] at registered
        by_cases same : id = other
        · rw [same, Function.update_self] at registered
          cases registered
        · rw [Function.update_of_ne same] at registered
          exact absurd (owns_active.mp (accounts id registered)).1 same
    · exact absurd (accounts id registered) (allowed rfl id)
  others {call input before phase after next} _ _ _ moved other different phase' accounts := by
    intro id registered
    apply accounts
    obtain ⟨_, rfl, rfl, rfl⟩ | ⟨named, stage, now, nextStage, rfl, rfl, stepped⟩ |
      ⟨_, _, rfl, rfl, _, rfl, rfl⟩ := tapeCalls_cases moved
    · exact registered
    · obtain ⟨same, -⟩ | ⟨-, -, -, claimed, -⟩ | ⟨-, -, removed⟩ := builds_of_tapeStep stepped
      · rwa [same] at registered
      · rw [claimed] at registered
        by_cases same : id = named
        · rw [same, Function.update_self] at registered
          cases registered
          exact absurd rfl different
        · rwa [Function.update_of_ne same] at registered
      · rw [removed] at registered
        by_cases same : id = named
        · rw [same, Function.update_self] at registered
          cases registered
        · rwa [Function.update_of_ne same] at registered
    · exact registered
  tick _ ticked := by
    refine ⟨trivial, fun call phase accounts id registered => accounts id ?_⟩
    rwa [(builds_of_tick ticked).1] at registered

theorem registered_free : (tapeCalls runtime parameters).FreeOfInterference
    (fun _ _ _ _ => True) (fun _ => True) Registered where
  move {call input before phase after next} _ registered _ moved := by
    refine ⟨trivial, ?_⟩
    intro id owning
    obtain ⟨_, rfl, rfl, rfl⟩ | ⟨other, stage, now, nextStage, rfl, rfl, stepped⟩ |
      ⟨_, _, rfl, rfl, _, rfl, rfl⟩ := tapeCalls_cases moved
    · cases (owns_active.mp owning).2
    · obtain ⟨rfl, owned⟩ := owns_active.mp owning
      obtain ⟨same, kept⟩ | ⟨-, -, -, claimed, -⟩ | ⟨-, released, -⟩ := builds_of_tapeStep stepped
      · rw [same]
        rw [kept] at owned
        exact registered id (owns_active.mpr ⟨rfl, owned⟩)
      · rw [claimed, Function.update_self]
      · rw [released] at owned
        cases owned
    · obtain ⟨_, impossible, -⟩ := owning
      cases impossible
  others {call input before phase after next} _ mine _ moved other different phase'
      registered := by
    intro id owning
    have held := registered id owning
    obtain ⟨_, rfl, rfl, rfl⟩ | ⟨named, stage, now, nextStage, rfl, rfl, stepped⟩ |
      ⟨_, _, rfl, rfl, _, rfl, rfl⟩ := tapeCalls_cases moved
    · exact held
    · obtain ⟨same, -⟩ | ⟨-, -, vacant, claimed, -⟩ | ⟨owned, -, removed⟩ :=
        builds_of_tapeStep stepped
      · rwa [same]
      · -- an entry stands only where no other one does
        have apart : id ≠ named := by
          intro same
          rw [same, vacant] at held
          cases held
        rwa [claimed, Function.update_of_ne apart]
      · have apart : id ≠ named := by
          intro same
          rw [same, mine named (owns_active.mpr ⟨rfl, owned⟩)] at held
          cases held
          exact different rfl
        rwa [removed, Function.update_of_ne apart]
    · exact held
  tick _ ticked := by
    refine ⟨trivial, fun call phase registered id owning => ?_⟩
    rw [(builds_of_tick ticked).1]
    exact registered id owning

end TapeCall

/-- Every entry in `builds` has a live call behind it that will remove it and publish. -/
def Attended (config : TapeConfig) : Prop :=
  ∀ id channel, config.shared.builds id = some channel → ∃ call, (config.calls call).Owns id

theorem attended_of_accounts {config : TapeConfig}
    (holds : Holds (fun _ => True) TapeCall.Accounts config) : Attended config := by
  intro id channel registered
  exact ⟨channel, holds.own channel id registered⟩

theorem start_accounts :
    Holds (fun _ => True) TapeCall.Accounts ((tapeCalls runtime parameters).start .empty) where
  shared := trivial
  own _ _ registered := by cases registered

theorem start_registered :
    Holds (fun _ => True) TapeCall.Registered ((tapeCalls runtime parameters).start .empty) where
  shared := trivial
  own _ _ owning := by
    obtain ⟨_, impossible, -⟩ := owning
    cases impossible

theorem not_attended_of_drop {config nextConfig : TapeConfig} {id : Uuid}
    (registered : Holds (fun _ => True) TapeCall.Registered config)
    (owning : (config.calls call).Owns id)
    (stepped : (tapeCalls runtime parameters).step config (.call call .drop) = some nextConfig) :
    ¬ Attended nextConfig := by
  intro attended
  have registeredNext := TapeCall.registered_free.preserved registered atCall_unguarded stepped
  have entry := registered.own call id owning
  obtain ⟨after, phase, moved, rfl⟩ := step_call_eq_some.mp stepped
  obtain ⟨stage, active, -⟩ := owning
  rw [active] at moved
  simp only [tapeCalls] at moved
  split_ifs at moved with awaiting
  cases moved
  obtain ⟨owner, ownerOwns⟩ := attended id call entry
  have ownerEntry := registeredNext.own owner id ownerOwns
  rw [entry] at ownerEntry
  cases ownerEntry
  simp only [Function.update_self] at ownerOwns
  obtain ⟨_, impossible, -⟩ := ownerOwns
  cases impossible

/-- The entries stay attended all through a run exactly when no call is dropped while it
owns the build it awaits. -/
theorem attended_throughout_iff {actions : List TapeAction} {last : TapeConfig}
    (ran : (tapeCalls runtime parameters).run ((tapeCalls runtime parameters).start .empty)
      actions = some last) :
    (∀ done rest config, actions = done ++ rest →
        (tapeCalls runtime parameters).run ((tapeCalls runtime parameters).start .empty) done =
          some config → Attended config) ↔
      (tapeCalls runtime parameters).Meets (atCall TapeCall.keepsOwners)
        ((tapeCalls runtime parameters).start .empty) actions := by
  constructor
  · intro attended
    apply meets_of_reached ran
    intro done rest config next action split reached stepped _
    cases action with
    | background tick => trivial
    | call index input =>
        intro dropped id owning
        subst dropped
        have registered := TapeCall.registered_free.holds_of_any_run start_registered reached
        apply not_attended_of_drop registered owning stepped
        apply attended (done ++ [.call index .drop]) rest next
        · rw [split, List.append_assoc, List.singleton_append]
        · exact run_append.mpr ⟨config, reached, run_cons.mpr ⟨next, stepped, run_nil.mpr rfl⟩⟩
  · intro met done rest config split reached
    rw [split] at met
    exact attended_of_accounts
      (TapeCall.accounts_free.holds_of_run start_accounts met.before reached)

/-- Libraries that price nothing and walk nowhere. -/
def flatUpstream : Upstream Unit where
  buildChain _ := .ok ()
  optionCount _ := 1
  generateWithVol _ params := .ok (.ok ⟨List.replicate params.size .one, none⟩)
  constantVolatility _ := .ok .one
  adjustVolatility volatility _ _ := .ok volatility
  checkedLn _ := some 0
  positiveNewDecimal value := if nonneg : 0 ≤ value then .ok ⟨value, nonneg⟩ else .error "negative"
  displayDecimal _ := ""
  displayTimeFrame _ := ""
  debugMethod _ := ""

def flatRuntime : Runtime Unit where
  service := utcService
  upstream := flatUpstream
  config := ⟨1, 1, 8, Nat.le_refl 1⟩

/-- The sections of one call up to its await of the build it owns. -/
def claimingBy (call : Nat) (id : Uuid) : List TapeAction :=
  [.call call (.tapeFor id), .call call (.proceed 0), .call call (.proceed 0)]

def thursdays (_ : Uuid) : SimulationParametersV2 := dailyParameters Domain.Expiry.thursdayNoon

/-- While the first call awaits the build it owns, a second one comes to wait for it and is
dropped, and the build ends. -/
def joiningAndLeaving : List TapeAction :=
  claimingBy 0 someId ++ claimingBy 1 someId ++
    [.call 1 .drop, .background (.runTask 0 0), .call 0 (.proceed 0), .call 0 (.proceed 0)]

theorem attended_throughout_iff_joining :
    (∀ done rest config, joiningAndLeaving = done ++ rest →
        (tapeCalls flatRuntime thursdays).run
          ((tapeCalls flatRuntime thursdays).start .empty) done = some config →
        Attended config) ↔
      (tapeCalls flatRuntime thursdays).Meets (atCall TapeCall.keepsOwners)
        ((tapeCalls flatRuntime thursdays).start .empty) joiningAndLeaving := by
  obtain ⟨last, ran⟩ := Option.isSome_iff_exists.mp
    (by decide +kernel : ((tapeCalls flatRuntime thursdays).run
      ((tapeCalls flatRuntime thursdays).start .empty) joiningAndLeaving).isSome)
  exact attended_throughout_iff ran

/-- A client that disconnects during the build it owns leaves an entry that no call will
remove. -/
theorem dropped_owner_leaves_entry :
    ∃ config, (tapeCalls flatRuntime thursdays).run
        ((tapeCalls flatRuntime thursdays).start .empty)
        (claimingBy 0 someId ++ [.call 0 .drop]) = some config ∧ ¬ Attended config := by
  refine ⟨_, rfl, ?_⟩
  intro attended
  obtain ⟨call, stage, active, -⟩ := attended someId 0 rfl
  cases call with
  | zero => cases active
  | succ call => cases active

end OptionChainSimulator.Session
