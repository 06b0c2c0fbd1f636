import Mathlib.Tactic
import OptionChainSimulator.Session.TapeCalls

namespace OptionChainSimulator.Session

open Foundation Foundation.Protocol Utils Domain

/-! What a caller of `tape_for` gets from a shared build, compared with building
alone. -/

/-- The same tape, or errors of the same variant and field. -/
def SameAnswer (left right : Except ChainError FactorTape) : Prop :=
  left.mapError ChainError.kind = right.mapError ChainError.kind

theorem SameAnswer.of_eq {left right : Except ChainError FactorTape} (same : left = right) :
    SameAnswer left right := by rw [same, SameAnswer]

/-- A result that waiting calls are told faithfully: a tape, or an internal error. -/
def Shareable (result : Except ChainError FactorTape) : Prop :=
  ∀ e, result = .error e → ∃ text, e = .internal text

theorem sameAnswer_received_iff {result : Except ChainError FactorTape} :
    SameAnswer (received (published result)) result ↔ Shareable result := by
  cases result with
  | ok tape => simp [SameAnswer, Shareable, received, published, Except.mapError]
  | error e => cases e <;> simp [SameAnswer, Shareable, received, published, Except.mapError,
      ChainError.kind]

/-- A call that never began, or that has its result. -/
def TapeCall.Completed : TapeCall → Prop
  | .idle => True
  | .active _ (.returned _) => True
  | _ => False

section Facts

/-! What holds in every run: the tapes are right, and what is cached, building or built
was started. -/

variable {Chain : Type} (runtime : Runtime Chain) (parameters : Uuid → SimulationParametersV2)

structure TapeFacts (tapes : Tapes) : Prop where
  sound : tapes.Sound runtime fun id own => own = parameters id
  unclosed : ∀ channel, tapes.heard channel ≠ some .closed
  cached : ∀ {id}, tapes.tapes.Holds id → id ∈ tapes.started
  building : ∀ {id channel}, tapes.builds id = some channel → id ∈ tapes.started
  spawned : ∀ {call id own result}, tapes.tasks call = some ⟨id, own, result⟩ →
    id ∈ tapes.started

/-- Whether the call has looked for a tape and for a build of it. -/
def TapeStage.claimed : TapeStage → Prop
  | .cached | .claiming => False
  | _ => True

def CallFacts (call : Nat) (tapes : Tapes) : TapeCall → Prop
  | .idle => tapes.Fresh call
  | .active id stage =>
      stage.Sound runtime tapes call id (parameters id) ∧ (stage.claimed → id ∈ tapes.started)
  | .dropped => True

variable {runtime parameters} {call now : Nat} {id : Uuid} {before after : Tapes}
  {stage next : TapeStage}

theorem started_of_tapeStep
    (stepped : TapeStep call id (parameters id) now before stage after next) :
    after.started = before.started ∨ after.started = before.started ++ [id] := by
  cases stepped with
  | own vacant => exact .inr rfl
  | rescue closed => exact .inr rfl
  | hit | miss | join | hear | rescued | built | release | gone | publish => exact .inl rfl

theorem mem_started_of_tapeStep {other : Uuid} (started : other ∈ before.started)
    (stepped : TapeStep call id (parameters id) now before stage after next) :
    other ∈ after.started := by
  obtain same | more := started_of_tapeStep stepped
  · rwa [same]
  · rw [more]
    exact List.mem_append_left _ started

theorem holds_of_tapeStep (other : Uuid)
    (stepped : TapeStep call id (parameters id) now before stage after next) :
    (after.tapes.Holds other ↔ before.tapes.Holds other) ∧ after.evicted = before.evicted := by
  cases stepped with
  | hit found => exact ⟨RecencyCache.holds_touch, rfl⟩
  | miss | join | own | hear | rescue | rescued | built | release | gone | publish =>
      exact ⟨Iff.rfl, rfl⟩

theorem tasks_of_tapeStep
    (stepped : TapeStep call id (parameters id) now before stage after next) :
    after.tasks = before.tasks ∨
      (after.tasks = Function.update before.tasks call (some ⟨id, parameters id, none⟩) ∧
        id ∈ after.started) := by
  cases stepped with
  | own vacant => exact .inr ⟨rfl, List.mem_append_right _ List.mem_cons_self⟩
  | rescue closed => exact .inr ⟨rfl, List.mem_append_right _ List.mem_cons_self⟩
  | hit | miss | join | hear | rescued | built | release | gone | publish => exact .inl rfl

theorem heard_of_tapeStep {channel : Nat}
    (stepped : TapeStep call id (parameters id) now before stage after next)
    (closed : after.heard channel = some .closed) : before.heard channel = some .closed := by
  cases stepped with
  | own vacant =>
      rw [Tapes.heard, Tapes.channels_claim] at closed
      by_cases same : channel = call
      · rw [same, Function.update_self] at closed
        cases closed
      · rwa [Function.update_of_ne same] at closed
  | @publish named result =>
      rw [Tapes.heard, Tapes.channels_send] at closed
      by_cases same : channel = named
      · rw [same, Function.update_self, Option.map_map] at closed
        obtain ⟨opened, -, impossible⟩ := Option.map_eq_some_iff.mp closed
        cases impossible
      · rwa [Function.update_of_ne same] at closed
  | hit | miss | join | hear | rescue | rescued | built | release | gone => exact closed

theorem claimed_of_tapeStep (facts : TapeFacts runtime parameters before)
    (own : stage.claimed → id ∈ before.started)
    (stepped : TapeStep call id (parameters id) now before stage after next)
    (claimed : next.claimed) : id ∈ after.started := by
  cases stepped with
  | hit found =>
      apply facts.cached
      by_contra absent
      rw [RecencyCache.find?_eq_none.mpr absent] at found
      cases found
  | miss absent => cases claimed
  | join running => exact facts.building running
  | own vacant => exact List.mem_append_right _ List.mem_cons_self
  | rescue closed => exact List.mem_append_right _ List.mem_cons_self
  | hear | rescued | built | release | gone | publish => exact own trivial

theorem TapeFacts.tapeStep (facts : TapeFacts runtime parameters before)
    (own : CallFacts runtime parameters call before (.active id stage))
    (stepped : TapeStep call id (parameters id) now before stage after next) :
    TapeFacts runtime parameters after ∧
      CallFacts runtime parameters call after (.active id next) ∧
      before.Extends (· ≠ call) after := by
  obtain ⟨sound, staged, extend⟩ := Tapes.tapeStep_sound
    (fun left right => left.trans right.symm) facts.sound rfl own.1 stepped
  have spawned : ∀ {call id own result}, after.tasks call = some ⟨id, own, result⟩ →
      id ∈ after.started := by
    intro other named owned result held
    obtain same | ⟨more, started⟩ := tasks_of_tapeStep stepped
    · rw [same] at held
      exact mem_started_of_tapeStep (facts.spawned held) stepped
    · rw [more] at held
      by_cases same : other = call
      · rw [same, Function.update_self] at held
        cases held
        exact started
      · rw [Function.update_of_ne same] at held
        exact mem_started_of_tapeStep (facts.spawned held) stepped
  have building : ∀ {id channel}, after.builds id = some channel → id ∈ after.started := by
    intro named channel registered
    obtain ⟨same, -⟩ | ⟨-, -, -, claimed, more⟩ | ⟨-, -, released⟩ := builds_of_tapeStep stepped
    · rw [same] at registered
      exact mem_started_of_tapeStep (facts.building registered) stepped
    · by_cases same : named = id
      · rw [more, same]
        exact List.mem_append_right _ List.mem_cons_self
      · rw [claimed, Function.update_of_ne same] at registered
        exact mem_started_of_tapeStep (facts.building registered) stepped
    · by_cases same : named = id
      · rw [released, same, Function.update_self] at registered
        cases registered
      · rw [released, Function.update_of_ne same] at registered
        exact mem_started_of_tapeStep (facts.building registered) stepped
  have cached : ∀ {id}, after.tapes.Holds id → id ∈ after.started := fun held =>
    mem_started_of_tapeStep (facts.cached ((holds_of_tapeStep _ stepped).1.mp held)) stepped
  have unclosed : ∀ channel, after.heard channel ≠ some .closed := fun channel closed =>
    facts.unclosed channel (heard_of_tapeStep stepped closed)
  exact ⟨⟨sound, unclosed, cached, building, spawned⟩,
    ⟨staged, claimed_of_tapeStep facts own.2 stepped⟩, extend⟩

theorem TapeFacts.evict (facts : TapeFacts runtime parameters before) :
    TapeFacts runtime parameters (before.evict id) where
  sound := facts.sound.evict
  unclosed := facts.unclosed
  cached held := facts.cached (RecencyCache.holds_remove.mp held).1
  building := facts.building
  spawned := facts.spawned

theorem TapeFacts.runTask (facts : TapeFacts runtime parameters before)
    (ran : Tapes.runTask runtime call now before = some after) :
    TapeFacts runtime parameters after := by
  have sound := Tapes.runTask_sound facts.sound ran
  obtain ⟨id, own, held, outcome⟩ := Tapes.runTask_cases ran
  have spawned : ∀ {result other named owned outcome},
      (before.finish call id own result).tasks other = some ⟨named, owned, outcome⟩ →
        named ∈ before.started := by
    intro result other named owned outcome finished
    rw [Tapes.tasks_finish] at finished
    by_cases same : other = call
    · rw [same, Function.update_self] at finished
      cases finished
      exact facts.spawned held
    · rw [Function.update_of_ne same] at finished
      exact facts.spawned finished
  obtain ⟨tape, built, rfl⟩ | ⟨e, built, rfl⟩ := outcome
  · refine ⟨sound, facts.unclosed, ?_, facts.building, spawned⟩
    intro named cached
    cases of_holds_cacheTape cached with
    | inl same =>
        rw [same]
        exact facts.spawned held
    | inr before => exact facts.cached before
  · exact ⟨sound, facts.unclosed, facts.cached, facts.building, spawned⟩

theorem facts_free : (tapeCalls runtime parameters).FreeOfInterference (fun _ _ _ _ => True)
    (TapeFacts runtime parameters) (CallFacts runtime parameters) where
  move {call input before phase after next} facts own _ moved := by
    obtain ⟨_, rfl, rfl, rfl⟩ | ⟨id, stage, now, nextStage, rfl, rfl, stepped⟩ |
      ⟨_, _, rfl, rfl, _, rfl, rfl⟩ := tapeCalls_cases moved
    · exact ⟨facts, own, fun claimed => claimed.elim⟩
    · obtain ⟨after, next, -⟩ := facts.tapeStep own stepped
      exact ⟨after, next⟩
    · exact ⟨facts, trivial⟩
  others {call input before phase after next} facts own _ moved other different phase' facts' := by
    obtain ⟨_, rfl, rfl, rfl⟩ | ⟨id, stage, now, nextStage, rfl, rfl, stepped⟩ |
      ⟨_, _, rfl, rfl, _, rfl, rfl⟩ := tapeCalls_cases moved
    · exact facts'
    · obtain ⟨-, -, extend⟩ := facts.tapeStep own stepped
      cases phase' with
      | idle => exact extend.fresh different facts'
      | active named stage' =>
          exact ⟨facts'.1.extends extend different, fun claimed =>
            mem_started_of_tapeStep (facts'.2 claimed) stepped⟩
      | dropped => trivial
    · exact facts'
  tick {input before after} facts ticked := by
    have started := (builds_of_tick ticked).2
    have changed : TapeFacts runtime parameters after ∧ ∀ others, before.Extends others after := by
      cases input with
      | evict id =>
          cases ticked
          exact ⟨facts.evict, fun others => Tapes.extends_evict⟩
      | runTask call now =>
          exact ⟨facts.runTask ticked, fun _ => Tapes.runTask_extends ticked⟩
    refine ⟨changed.1, fun call phase own => ?_⟩
    cases phase with
    | idle => exact (changed.2 fun _ => True).fresh trivial own
    | active id stage =>
        refine ⟨own.1.extends (changed.2 fun _ => True) trivial, ?_⟩
        rw [started]
        exact own.2
    | dropped => trivial

theorem start_facts : Holds (TapeFacts runtime parameters) (CallFacts runtime parameters)
    ((tapeCalls runtime parameters).start .empty) where
  shared :=
    { sound := Tapes.sound_empty
      unclosed := fun _ impossible => by cases impossible
      cached := fun held => by
        obtain ⟨_, impossible, -⟩ := held
        cases impossible
      building := fun impossible => by cases impossible
      spawned := fun impossible => by cases impossible }
  own _ := ⟨rfl, rfl⟩

end Facts

section Clean

/-! Runs in which a call joins only builds it is told the result of faithfully, and
starts one only while the tape is not cached. -/

variable {Chain : Type} (runtime : Runtime Chain) (parameters : Uuid → SimulationParametersV2)
  (watched : Uuid → Prop)

/-- A watched simulation that can be built and whose tape was never evicted. -/
def Kept (tapes : Tapes) (id : Uuid) : Prop :=
  watched id ∧ id ∉ tapes.evicted ∧ ∃ tape, runtime.build (parameters id) = .ok tape

/-- What a call that takes the lock on `builds` has to find there. -/
def claimsCleanly (_ : Nat) (_ : TapeInput) (tapes : Tapes) (phase : TapeCall) : Prop :=
  ∀ id, phase = .active id .claiming →
    (∀ channel, tapes.builds id = some channel → Shareable (runtime.build (parameters id))) ∧
      (watched id → tapes.builds id = none → ¬ tapes.tapes.Holds id)

structure CleanFacts (tapes : Tapes) : Prop where
  facts : TapeFacts runtime parameters tapes
  once : ∀ {id}, Kept runtime parameters watched tapes id → tapes.started.count id ≤ 1
  resident : ∀ {id}, Kept runtime parameters watched tapes id → id ∈ tapes.started →
    tapes.builds id = none → tapes.tapes.Holds id
  finished : ∀ {call id own result}, Kept runtime parameters watched tapes id →
    tapes.tasks call = some ⟨id, own, some result⟩ → tapes.tapes.Holds id

def CleanStage (tapes : Tapes) (id : Uuid) : TapeStage → Prop
  | .waiting _ => Shareable (runtime.build (parameters id))
  | .releasing _ => Kept runtime parameters watched tapes id → tapes.tapes.Holds id
  | .returned result => SameAnswer result (runtime.build (parameters id))
  | _ => True

def CleanCall (call : Nat) (tapes : Tapes) (phase : TapeCall) : Prop :=
  CallFacts runtime parameters call tapes phase ∧
    ∀ id stage, phase = .active id stage → CleanStage runtime parameters watched tapes id stage

variable {runtime parameters watched} {call now : Nat} {id : Uuid} {before after : Tapes}
  {stage next : TapeStage}

theorem sameAnswer_of_delivered {own : SimulationParametersV2}
    {result : Except ChainError FactorTape} (delivered : Delivered runtime own result)
    (shareable : Shareable (runtime.build own)) : SameAnswer result (runtime.build own) := by
  cases delivered with
  | inl alone => rw [alone, SameAnswer]
  | inr shared =>
      obtain ⟨e, failed, rfl⟩ := shared
      obtain ⟨text, rfl⟩ := shareable e failed
      rw [failed, SameAnswer]
      rfl

theorem Tapes.holds_recache {tapes : Tapes} {cache : TapeCache}
    (held : tapes.tapes.Holds id) (unrecorded : id ∉ (tapes.recache cache).evicted) :
    cache.Holds id := by
  by_contra gone
  apply unrecorded
  obtain ⟨entry, member, rfl⟩ := held
  apply List.mem_append_right
  exact List.mem_filter.mpr ⟨List.mem_map_of_mem member, by simpa using gone⟩

theorem kept_of_tapeStep {other : Uuid}
    (stepped : TapeStep call id (parameters id) now before stage after next) :
    Kept runtime parameters watched after other ↔ Kept runtime parameters watched before other := by
  rw [Kept, Kept, (holds_of_tapeStep other stepped).2]

theorem CleanFacts.started (clean : CleanFacts runtime parameters watched before)
    (guarded : watched id → before.builds id = none → ¬ before.tapes.Holds id)
    (vacant : before.builds id = none) (kept : Kept runtime parameters watched before id) :
    before.started.count id = 0 := by
  rw [List.count_eq_zero]
  intro started
  exact guarded kept.1 vacant (clean.resident kept started vacant)

theorem CleanFacts.claim (clean : CleanFacts runtime parameters watched before)
    (facts : TapeFacts runtime parameters (before.claim call id (parameters id)))
    (guarded : watched id → before.builds id = none → ¬ before.tapes.Holds id)
    (vacant : before.builds id = none) :
    CleanFacts runtime parameters watched (before.claim call id (parameters id)) where
  facts := facts
  once {other} kept := by
    change (before.started ++ [id]).count other ≤ 1
    rw [List.count_append]
    by_cases same : other = id
    · subst same
      rw [clean.started guarded vacant kept]
      simp
    · have earlier := @clean.once other kept
      simpa [List.count_singleton, Ne.symm same] using earlier
  resident {other} kept started unregistered := by
    rw [Tapes.builds_claim] at unregistered
    by_cases same : other = id
    · rw [same, Function.update_self] at unregistered
      cases unregistered
    · rw [Function.update_of_ne same] at unregistered
      have earlier : other ∈ before.started := by
        cases List.mem_append.mp started with
        | inl earlier => exact earlier
        | inr new => exact absurd (List.mem_singleton.mp new) same
      exact clean.resident kept earlier unregistered
  finished {other _ _ _} kept held := by
    rw [Tapes.tasks_claim] at held
    by_cases same : other = call
    · rw [same, Function.update_self] at held
      cases held
    · rw [Function.update_of_ne same] at held
      exact clean.finished kept held

theorem CleanFacts.release (clean : CleanFacts runtime parameters watched before)
    (facts : TapeFacts runtime parameters (before.release id))
    (cached : Kept runtime parameters watched before id → before.tapes.Holds id) :
    CleanFacts runtime parameters watched (before.release id) where
  facts := facts
  once := clean.once
  resident {other} kept started unregistered := by
    by_cases same : other = id
    · subst same
      exact cached kept
    · rw [Tapes.builds_release, Function.update_of_ne same] at unregistered
      exact clean.resident kept started unregistered
  finished := clean.finished

theorem CleanFacts.send {channel : Nat} {result : Except ChainError FactorTape}
    (clean : CleanFacts runtime parameters watched before)
    (facts : TapeFacts runtime parameters (before.send channel result)) :
    CleanFacts runtime parameters watched (before.send channel result) :=
  ⟨facts, clean.once, clean.resident, clean.finished⟩

theorem CleanFacts.touch (clean : CleanFacts runtime parameters watched before)
    (facts : TapeFacts runtime parameters { before with tapes := before.tapes.touch id now }) :
    CleanFacts runtime parameters watched { before with tapes := before.tapes.touch id now } where
  facts := facts
  once := clean.once
  resident kept started vacant :=
    RecencyCache.holds_touch.mpr (clean.resident kept started vacant)
  finished kept held := RecencyCache.holds_touch.mpr (clean.finished kept held)

theorem CleanFacts.tapeStep (clean : CleanFacts runtime parameters watched before)
    (own : CleanCall runtime parameters watched call before (.active id stage))
    (guarded : claimsCleanly runtime parameters watched call (.proceed now) before
      (.active id stage))
    (stepped : TapeStep call id (parameters id) now before stage after next) :
    CleanFacts runtime parameters watched after ∧
      CleanStage runtime parameters watched after id next := by
  obtain ⟨facts, ⟨delivered, -⟩, -⟩ := clean.facts.tapeStep own.1 stepped
  have mine := own.2 id stage rfl
  have staged := own.1.1
  cases stepped with
  | @hit entry found =>
      refine ⟨clean.touch facts, ?_⟩
      obtain alone | ⟨e, -, impossible⟩ := delivered
      · exact .of_eq alone
      · cases impossible
  | miss absent => exact ⟨clean, trivial⟩
  | @join channel running => exact ⟨clean, (guarded id rfl).1 channel running⟩
  | own vacant => exact ⟨clean.claim facts (guarded id rfl).2 vacant, trivial⟩
  | hear sent => exact ⟨clean, sameAnswer_of_delivered delivered mine⟩
  | rescue closed => exact absurd closed (clean.facts.unclosed _)
  | rescued finished =>
      exact ⟨clean, SameAnswer.of_eq (clean.facts.sound.outcome staged finished)⟩
  | built finished =>
      refine ⟨clean, fun kept => ?_⟩
      obtain ⟨result, held⟩ := staged
      rw [Tapes.outcome, held, Option.bind_some] at finished
      dsimp only at finished
      rw [finished] at held
      exact clean.finished kept held
  | release registered => exact ⟨clean.release facts mine, trivial⟩
  | gone missing =>
      exact ⟨clean.release facts mine, SameAnswer.of_eq staged⟩
  | publish => exact ⟨clean.send facts, SameAnswer.of_eq staged.2⟩

theorem CleanFacts.evict (clean : CleanFacts runtime parameters watched before) :
    CleanFacts runtime parameters watched (before.evict id) := by
  have kept : ∀ {other}, Kept runtime parameters watched (before.evict id) other →
      Kept runtime parameters watched before other := fun kept =>
    ⟨kept.1, fun gone => kept.2.1 (List.mem_append_left _ gone), kept.2.2⟩
  refine ⟨clean.facts.evict, fun still => clean.once (kept still), ?_, ?_⟩
  · intro other still started vacant
    exact Tapes.holds_recache (clean.resident (kept still) started vacant) still.2.1
  · intro call other own result still held
    exact Tapes.holds_recache (clean.finished (kept still) held) still.2.1

theorem CleanFacts.runTask (clean : CleanFacts runtime parameters watched before)
    (ran : Tapes.runTask runtime call now before = some after) :
    CleanFacts runtime parameters watched after ∧
      ∀ {id}, Kept runtime parameters watched after id →
        Kept runtime parameters watched before id ∧
          (before.tapes.Holds id → after.tapes.Holds id) := by
  have facts := clean.facts.runTask ran
  obtain ⟨named, own, held, outcome⟩ := Tapes.runTask_cases ran
  obtain ⟨owned, -⟩ := clean.facts.sound.task held
  obtain ⟨tape, built, rfl⟩ | ⟨e, failed, rfl⟩ := outcome
  · have shift : ∀ {id}, Kept runtime parameters watched
        ((before.finish call named own (.ok tape)).recache
          (cacheTape runtime.config.maxCachedTapes named tape now before.tapes)) id →
        Kept runtime parameters watched before id ∧
          (before.tapes.Holds id →
            (cacheTape runtime.config.maxCachedTapes named tape now before.tapes).Holds id) :=
      fun kept => ⟨⟨kept.1, fun gone => kept.2.1 (List.mem_append_left _ gone), kept.2.2⟩,
        fun cached => Tapes.holds_recache cached kept.2.1⟩
    refine ⟨⟨facts, fun kept => clean.once (shift kept).1, ?_, ?_⟩, shift⟩
    · intro id kept started vacant
      exact (shift kept).2 (clean.resident (shift kept).1 started vacant)
    · intro other id _ _ kept finished
      change (before.finish call named own (.ok tape)).tasks other = _ at finished
      rw [Tapes.tasks_finish] at finished
      by_cases same : other = call
      · rw [same, Function.update_self] at finished
        cases finished
        exact holds_cacheTape_self
      · rw [Function.update_of_ne same] at finished
        exact (shift kept).2 (clean.finished (shift kept).1 finished)
  · refine ⟨⟨facts, clean.once, clean.resident, ?_⟩, fun kept => ⟨kept, fun cached => cached⟩⟩
    intro other id _ _ kept finished
    rw [Tapes.tasks_finish] at finished
    by_cases same : other = call
    · rw [same, Function.update_self] at finished
      cases finished
      obtain ⟨tape, built⟩ := kept.2.2
      rw [← owned, failed] at built
      cases built
    · rw [Function.update_of_ne same] at finished
      exact clean.finished kept finished

theorem clean_free : (tapeCalls runtime parameters).FreeOfInterference
    (claimsCleanly runtime parameters watched) (CleanFacts runtime parameters watched)
    (CleanCall runtime parameters watched) where
  move {call input before phase after next} clean own guarded moved := by
    have facts := facts_free.move clean.facts own.1 trivial moved
    obtain ⟨_, rfl, rfl, rfl⟩ | ⟨id, stage, now, nextStage, rfl, rfl, stepped⟩ |
      ⟨_, _, rfl, rfl, _, rfl, rfl⟩ := tapeCalls_cases moved
    · refine ⟨clean, facts.2, ?_⟩
      intro id stage active
      cases active
      trivial
    · obtain ⟨cleanAfter, cleanNext⟩ := clean.tapeStep own guarded stepped
      refine ⟨cleanAfter, facts.2, ?_⟩
      intro named stage' active
      cases active
      exact cleanNext
    · refine ⟨clean, facts.2, ?_⟩
      intro id stage active
      cases active
  others {call input before phase after next} clean own guarded moved other different phase'
      other_clean := by
    refine ⟨facts_free.others clean.facts own.1 trivial moved other different phase'
      other_clean.1, ?_⟩
    intro named stage' active
    have mine := other_clean.2 named stage' active
    obtain ⟨_, rfl, rfl, rfl⟩ | ⟨id, stage, now, nextStage, rfl, rfl, stepped⟩ |
      ⟨_, _, rfl, rfl, _, rfl, rfl⟩ := tapeCalls_cases moved
    · exact mine
    · cases stage' with
      | releasing result =>
          intro kept
          exact (holds_of_tapeStep _ stepped).1.mpr (mine ((kept_of_tapeStep stepped).mp kept))
      | cached | claiming | waiting | rescuing | building | publishing | returned => exact mine
    · exact mine
  tick {input before after} clean ticked := by
    obtain ⟨-, frames⟩ := facts_free.tick clean.facts ticked
    have changed : CleanFacts runtime parameters watched after ∧
        ∀ {id}, Kept runtime parameters watched after id →
          Kept runtime parameters watched before id ∧
            (before.tapes.Holds id → after.tapes.Holds id) := by
      cases input with
      | evict id =>
          cases ticked
          exact ⟨clean.evict, fun kept =>
            ⟨⟨kept.1, fun gone => kept.2.1 (List.mem_append_left _ gone), kept.2.2⟩,
              fun cached => Tapes.holds_recache cached kept.2.1⟩⟩
      | runTask call now => exact clean.runTask ticked
    refine ⟨changed.1, fun call phase own => ⟨frames call phase own.1, ?_⟩⟩
    intro named stage active
    have mine := own.2 named stage active
    cases stage with
    | releasing result =>
        intro kept
        exact (changed.2 kept).2 (mine (changed.2 kept).1)
    | cached | claiming | waiting | rescuing | building | publishing | returned => exact mine

theorem start_clean : Holds (CleanFacts runtime parameters watched)
    (CleanCall runtime parameters watched) ((tapeCalls runtime parameters).start .empty) where
  shared :=
    { facts := start_facts.shared
      once := fun _ => Nat.zero_le 1
      resident := fun _ impossible => by cases impossible
      finished := fun _ impossible => by cases impossible }
  own index := ⟨start_facts.own index, fun id stage impossible => by cases impossible⟩

/-- Every call got the answer of building alone, and every tape that stayed cached was
built once. -/
structure AsIfAlone (runtime : Runtime Chain) (parameters : Uuid → SimulationParametersV2)
    (config : TapeConfig) : Prop where
  answers : ∀ {call id result}, config.calls call = .active id (.returned result) →
    SameAnswer result (runtime.build (parameters id))
  once : ∀ {call id stage}, config.calls call = .active id stage →
    id ∉ config.shared.evicted → (∃ tape, runtime.build (parameters id) = .ok tape) →
    config.shared.started.count id = 1

variable {config last : TapeConfig} {actions : List TapeAction}

theorem asIfAlone_of_clean
    (clean : Holds (CleanFacts runtime parameters (· ∉ last.shared.evicted))
      (CleanCall runtime parameters (· ∉ last.shared.evicted)) last)
    (complete : ∀ call, (last.calls call).Completed) : AsIfAlone runtime parameters last where
  answers {call id result} active := (clean.own call).2 id _ active
  once {call id stage} active unevicted buildable := by
    have most := clean.shared.once ⟨unevicted, unevicted, buildable⟩
    have facts := (clean.own call).1
    have completed := complete call
    rw [active] at facts completed
    cases stage with
    | returned result =>
        have least := List.count_pos_iff.mpr (facts.2 trivial)
        omega
    | cached | claiming | waiting | rescuing | building | releasing | publishing =>
        cases completed

theorem started_mono (ran : (tapeCalls runtime parameters).run config actions = some last) :
    config.shared.started <+: last.shared.started := by
  apply holds_of_run (fun reached => config.shared.started <+: reached.shared.started)
    _ (List.prefix_refl _) ran
  intro reached action next earlier stepped
  apply earlier.trans
  cases action with
  | call index input =>
      obtain ⟨after, phase, moved, rfl⟩ := step_call_eq_some.mp stepped
      obtain ⟨_, _, rfl, rfl⟩ | ⟨id, stage, now, nextStage, _, rfl, section_⟩ |
        ⟨_, _, rfl, _, _, rfl, rfl⟩ := tapeCalls_cases moved
      · exact List.prefix_refl _
      · obtain same | more := started_of_tapeStep section_
        · exact same ▸ List.prefix_refl _
        · exact more ▸ List.prefix_append _ _
      · exact List.prefix_refl _
  | background input =>
      obtain ⟨after, ticked, rfl⟩ := step_background_eq_some.mp stepped
      exact (builds_of_tick ticked).2 ▸ List.prefix_refl _

/-- A call that waits gets what was published, if it gets anything. -/
def WaitsOrHeard (runtime : Runtime Chain) (parameters : Uuid → SimulationParametersV2)
    (call : Nat) (id : Uuid) (config : TapeConfig) : Prop :=
  Holds (TapeFacts runtime parameters) (CallFacts runtime parameters) config ∧
    ((∃ channel, config.calls call = .active id (.waiting channel)) ∨
      config.calls call =
        .active id (.returned (received (published (runtime.build (parameters id))))) ∨
      config.calls call = .dropped)

theorem waitsOrHeard_preserved {action : TapeAction} {nextConfig : TapeConfig}
    (held : WaitsOrHeard runtime parameters call id config)
    (stepped : (tapeCalls runtime parameters).step config action = some nextConfig) :
    WaitsOrHeard runtime parameters call id nextConfig := by
  obtain ⟨facts, phase⟩ := held
  refine ⟨facts_free.preserved facts atCall_unguarded stepped, ?_⟩
  cases action with
  | background input =>
      obtain ⟨after, -, rfl⟩ := step_background_eq_some.mp stepped
      exact phase
  | call index input =>
      obtain ⟨after, nextPhase, moved, rfl⟩ := step_call_eq_some.mp stepped
      by_cases same : call = index
      · subst same
        simp only [Function.update_self]
        obtain ⟨channel, waiting⟩ | heard | dropped := phase
        · have own := facts.own call
          rw [waiting] at moved own
          obtain ⟨_, impossible, -⟩ | ⟨named, stage, now, nextStage, active, rfl, stepped⟩ |
            ⟨_, _, -, -, -, -, rfl⟩ := tapeCalls_cases moved
          · cases impossible
          · cases active
            cases stepped with
            | hear sent =>
                obtain ⟨⟨named, broadcast⟩, opened, rfl⟩ := own.1
                simp only [Tapes.heard, opened, Option.map_some, Option.some.injEq] at sent
                subst sent
                obtain ⟨_, rfl, rfl⟩ := facts.shared.sound.channel opened
                exact .inr (.inl rfl)
            | rescue closed => exact absurd closed (facts.shared.unclosed channel)
          · exact .inr (.inr rfl)
        · rw [heard] at moved
          obtain ⟨_, impossible, -⟩ | ⟨named, stage, now, nextStage, active, -, stepped⟩ |
            ⟨_, stage, -, active, awaits, -, -⟩ := tapeCalls_cases moved
          · cases impossible
          · cases active
            cases stepped
          · cases active
            cases awaits
        · rw [dropped] at moved
          cases input <;> cases moved
      · simp only [Function.update_of_ne same]
        exact phase

theorem active_of_run (ran : (tapeCalls runtime parameters).run config actions = some last)
    (active : ∃ stage, config.calls call = .active id stage) :
    (∃ stage, last.calls call = .active id stage) ∨ last.calls call = .dropped := by
  apply holds_of_run (fun reached : TapeConfig =>
    (∃ stage, reached.calls call = .active id stage) ∨ reached.calls call = .dropped)
    _ (.inl active) ran
  intro reached action next earlier stepped
  cases action with
  | background input =>
      obtain ⟨after, -, rfl⟩ := step_background_eq_some.mp stepped
      exact earlier
  | call index input =>
      obtain ⟨after, nextPhase, moved, rfl⟩ := step_call_eq_some.mp stepped
      by_cases same : call = index
      · subst same
        simp only [Function.update_self]
        obtain ⟨stage, active⟩ | dropped := earlier
        · rw [active] at moved
          obtain ⟨_, impossible, -⟩ | ⟨named, _, now, nextStage, equal, rfl, -⟩ |
            ⟨_, _, -, -, -, -, rfl⟩ := tapeCalls_cases moved
          · cases impossible
          · cases equal
            exact .inl ⟨nextStage, rfl⟩
          · exact .inr rfl
        · rw [dropped] at moved
          cases input <;> cases moved
      · simp only [Function.update_of_ne same]
        exact earlier

/-- A call that joins a build whose error is not told faithfully is answered wrongly. -/
theorem shareable_of_joined {channel : Nat}
    (facts : Holds (TapeFacts runtime parameters) (CallFacts runtime parameters) config)
    (waiting : config.calls call = .active id (.waiting channel))
    (ran : (tapeCalls runtime parameters).run config actions = some last)
    (complete : ∀ call, (last.calls call).Completed)
    (alone : AsIfAlone runtime parameters last) : Shareable (runtime.build (parameters id)) := by
  have ends : WaitsOrHeard runtime parameters call id last :=
    holds_of_run _ waitsOrHeard_preserved ⟨facts, .inl ⟨channel, waiting⟩⟩ ran
  have completed := complete call
  obtain ⟨-, ⟨channel, active⟩ | active | active⟩ := ends
  · rw [active] at completed
    cases completed
  · exact sameAnswer_received_iff.mp (alone.answers active)
  · rw [active] at completed
    cases completed

/-- A build claimed while the tape is cached is a second one. -/
theorem uncached_of_claimed
    (facts : Holds (TapeFacts runtime parameters) (CallFacts runtime parameters) config)
    (active : ∃ stage, last.calls call = .active id stage)
    (claimed : config.shared.started ++ [id] <+: last.shared.started)
    (unevicted : id ∉ last.shared.evicted) (alone : AsIfAlone runtime parameters last) :
    ¬ config.shared.tapes.Holds id := by
  intro cached
  obtain ⟨stage, active⟩ := active
  obtain ⟨entry, member, rfl⟩ := cached
  obtain ⟨_, rfl, built⟩ := facts.shared.sound.cached entry member
  have once := alone.once active unevicted ⟨entry.value, built⟩
  have first := List.count_pos_iff.mpr (facts.shared.cached ⟨entry, member, rfl⟩)
  have more := claimed.count_le entry.key
  rw [List.count_append, List.count_singleton_self] at more
  omega

/-- In a run to completion every call gets what building alone gives, and builds that
succeed run once, exactly when every call that takes the lock on `builds` finds either
no entry and no cached tape, or the entry of a build whose error is internal if it
fails. -/
theorem asIfAlone_iff
    (ran : (tapeCalls runtime parameters).run ((tapeCalls runtime parameters).start .empty)
      actions = some last)
    (complete : ∀ call, (last.calls call).Completed) :
    AsIfAlone runtime parameters last ↔
      (tapeCalls runtime parameters).Meets
        (atCall (claimsCleanly runtime parameters (· ∉ last.shared.evicted)))
        ((tapeCalls runtime parameters).start .empty) actions := by
  constructor
  · intro alone
    apply meets_of_reached ran
    intro done rest config next action _ reached stepped continued
    have facts := facts_free.holds_of_any_run start_facts reached
    cases action with
    | background input => trivial
    | call index input =>
        intro id claiming
        obtain ⟨after, phase, moved, rfl⟩ := step_call_eq_some.mp stepped
        rw [claiming] at moved
        obtain ⟨_, impossible, -⟩ | ⟨named, stage, now, nextStage, active, rfl, claimed⟩ |
          ⟨_, stage, -, active, awaits, -, -⟩ := tapeCalls_cases moved
        · cases impossible
        · cases active
          cases claimed with
          | join running =>
              have factsNext := facts_free.preserved facts atCall_unguarded stepped
              have shareable := shareable_of_joined factsNext (Function.update_self ..)
                continued complete alone
              refine ⟨fun _ _ => shareable, fun _ vacant => ?_⟩
              rw [running] at vacant
              cases vacant
          | own vacant =>
              refine ⟨fun channel running => ?_, fun unevicted _ => ?_⟩
              · rw [vacant] at running
                cases running
              · have ends := active_of_run continued ⟨_, Function.update_self ..⟩
                have stays : ∃ stage, last.calls index = .active id stage := by
                  apply ends.resolve_right
                  intro dropped
                  have completed := complete index
                  rw [dropped] at completed
                  cases completed
                exact uncached_of_claimed facts stays (started_mono continued) unevicted alone
        · cases active
          cases awaits
  · intro met
    exact asIfAlone_of_clean (clean_free.holds_of_run start_clean met ran) complete

end Clean

/-! Two callers of a simulation whose recorded history is too short. -/

def shortHistory : SimulationParametersV2 :=
  { dailyParameters Domain.Expiry.thursdayNoon with method := .historical .day [] none }

def shortHistories (_ : Uuid) : SimulationParametersV2 := shortHistory

/-- The first call claims the build, the second joins it, and both return. -/
def sharing : List TapeAction :=
  (claimingBy 0 someId ++ claimingBy 1 someId) ++
    .background (.runTask 0 0) ::
      [.call 0 (.proceed 0), .call 0 (.proceed 0), .call 0 (.proceed 0), .call 1 (.proceed 0)]

theorem build_shortHistory : flatRuntime.build shortHistory = .error (tooFewPrices 0 1) := by
  decide +kernel

theorem run_sharing {Chain : Type} {runtime : Runtime Chain}
    {parameters : Uuid → SimulationParametersV2} {e : ChainError}
    (failed : runtime.build (parameters someId) = .error e) :
    ∃ last, (tapeCalls runtime parameters).run ((tapeCalls runtime parameters).start .empty)
        sharing = some last ∧
      last.calls =
        Function.update (Function.update (fun _ => .idle) 0 (.active someId (.returned (.error e))))
          1 (.active someId (.returned (.error (.internal e.toString)))) := by
  have ran : Tapes.runTask runtime 0 0 (Tapes.empty.claim 0 someId (parameters someId)) =
      some ((Tapes.empty.claim 0 someId (parameters someId)).finish 0 someId (parameters someId)
        (.error e)) := by
    simp [Tapes.runTask, Tapes.tasks_claim, failed]
  refine ⟨_, run_append.mpr ⟨_, rfl, run_cons.mpr
    ⟨_, step_background_eq_some.mpr ⟨_, ran, rfl⟩, rfl⟩⟩, ?_⟩
  funext call
  match call with
  | 0 | 1 => rfl
  | call + 2 => rfl

theorem completed_sharing {e other : ChainError} :
    ∀ call, TapeCall.Completed (Function.update
      (Function.update (fun _ : Nat => TapeCall.idle) 0 (.active someId (.returned (.error e))))
      1 (.active someId (.returned (.error other))) call) := by
  intro call
  match call with
  | 0 | 1 => trivial
  | call + 2 => trivial

theorem asIfAlone_iff_sharing :
    ∃ last, (tapeCalls flatRuntime shortHistories).run
        ((tapeCalls flatRuntime shortHistories).start .empty) sharing = some last ∧
      (AsIfAlone flatRuntime shortHistories last ↔
        (tapeCalls flatRuntime shortHistories).Meets
          (atCall (claimsCleanly flatRuntime shortHistories (· ∉ last.shared.evicted)))
          ((tapeCalls flatRuntime shortHistories).start .empty) sharing) := by
  obtain ⟨last, ran, calls⟩ := @run_sharing _ flatRuntime shortHistories _ build_shortHistory
  exact ⟨last, ran, asIfAlone_iff ran (calls ▸ completed_sharing)⟩

/-- The caller that waited gets an internal error, without the field. -/
theorem waiter_gets_internal_error :
    ∃ last, (tapeCalls flatRuntime shortHistories).run
        ((tapeCalls flatRuntime shortHistories).start .empty) sharing = some last ∧
      (∀ call, (last.calls call).Completed) ∧ ¬ AsIfAlone flatRuntime shortHistories last := by
  obtain ⟨last, ran, calls⟩ := @run_sharing _ flatRuntime shortHistories _ build_shortHistory
  refine ⟨last, ran, calls ▸ completed_sharing, ?_⟩
  intro alone
  have answered : last.calls 1 =
      .active someId (.returned (.error (.internal (tooFewPrices 0 1).toString))) := by
    rw [calls, Function.update_self]
  have same := alone.answers answered
  rw [shortHistories, build_shortHistory] at same
  cases same

end OptionChainSimulator.Session
