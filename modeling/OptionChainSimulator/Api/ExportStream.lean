import Mathlib.Tactic
import OptionChainSimulator.Api.ExportTable
import OptionChainSimulator.Session.Retries

namespace OptionChainSimulator.Api

open Foundation Utils Domain Session Infrastructure

/-! An export streams the requested steps, each from the warehouse where a read returned it
and from replay where none did. -/

section Statement

/-- What `read_range` promises: the records it returns lie in the range, in step order. -/
structure SnapshotReads.Contract (repository : SnapshotReads) : Prop where
  within : ∀ {earlier simulation generation fromStep toStep records},
    repository.readRange earlier simulation generation fromStep toStep = .ok records →
      ∀ record ∈ records, fromStep ≤ record.step ∧ record.step ≤ toStep
  ascending : ∀ {earlier simulation generation fromStep toStep records},
    repository.readRange earlier simulation generation fromStep toStep = .ok records →
      records.Pairwise fun left right => left.step ≤ right.step

/-- The record of exactly that step among those the reads returned. -/
def servedRecord (reads : List RangeRead) (step : Nat) : Option SnapshotRecord :=
  reads.findSome? fun read => read.records.find? fun record => record.step = step

/-- The answer is one of the repository's. -/
def RangeRead.Answered (repository : SnapshotReads) (simulation : Uuid) (read : RangeRead) :
    Prop :=
  ∃ earlier, read.answer = repository.readRange earlier simulation currentSnapshotGeneration
    read.fromStep read.toStep

/-- The read was answered, over a range with the step in it. -/
def RangeRead.Covers (read : RangeRead) (step : Nat) : Prop :=
  read.fromStep ≤ step ∧ step ≤ read.toStep ∧ ∃ records, read.answer = .ok records

/-- The read failed, at the step or before it. -/
def RangeRead.FailedBy (read : RangeRead) (step : Nat) : Prop :=
  read.fromStep ≤ step ∧ ∃ error, read.answer = .error error

/-- A step was asked for, unless the last read of all had failed by then. -/
def Asked (reads : List RangeRead) (step : Nat) : Prop :=
  (∃ read ∈ reads, read.Covers step) ∨ ∃ read, reads.getLast? = some read ∧ read.FailedBy step

section Runs

variable {Chain : Type} (service : Service) (upstream : Upstream Chain)
  (options : Chain → List OptionData) (encoders : Encoders)
  (parameters : SimulationParametersV2) (dataset : Dataset) (format : Format)
  (range : StepRange) (receiver : Nat → Bool) (simulation : Uuid)

/-- A group's chains are the record a read returned for exactly its step, or replayed. -/
structure StepGroup.Sourced (tape : FactorTape) (reads : List RangeRead)
    (group : StepGroup Chain) : Prop where
  row : tape.row group.step = some group.row
  stored : ∀ record, servedRecord reads group.step = some record →
    group.chains = some (.stored record)
  replayed : servedRecord reads group.step = none → dataset.needsChains = true →
    ∃ snapshot, snapshotOver service upstream parameters tape group.step = .ok snapshot ∧
      group.chains = some (.replayed snapshot)
  bare : servedRecord reads group.step = none → dataset.needsChains = false →
    group.chains = none

/-- An export over a warehouse, or over none. -/
def exportOver (warehouse : Option SnapshotReads) : ExportRun Chain :=
  produce service upstream options encoders parameters dataset format range receiver
    (warehouse.map fun repository => .new repository simulation)

/-- The groups are those of the range from its start, each with its chains from where they
should be; what was sent is the document of these groups, all of it where the client stayed
and nothing failed. -/
structure StreamsTape (warehouse : Option SnapshotReads) (run : ExportRun Chain) : Prop where
  steps : run.groups.map StepGroup.step <+: range.steps
  sourced : ∀ group ∈ run.groups, ∃ tape,
    FactorTape.build service upstream parameters parameters.method = .ok tape ∧
      group.Sourced service upstream parameters dataset tape run.reads
  asked : warehouse.isSome = true → ∀ group ∈ run.groups, Asked run.reads group.step
  answered : ∀ read ∈ run.reads, ∃ repository, warehouse = some repository ∧
    read.Answered repository simulation
  sent : ∃ pieces, documentPieces service options encoders parameters dataset format run.groups =
      .ok pieces ∧ run.sent <+: pieces ∧
    ((∀ count, receiver count = true) → run.result = .ok () →
      run.groups.map StepGroup.step = range.steps ∧ run.sent = pieces)

/-- Every record a read returns is the one the replayed snapshot of its step becomes. -/
def SnapshotReads.Replays (repository : SnapshotReads) : Prop :=
  ∀ earlier fromStep toStep records,
    repository.readRange earlier simulation currentSnapshotGeneration fromStep toStep =
      .ok records →
    ∀ record ∈ records, ∃ tape snapshot,
      FactorTape.build service upstream parameters parameters.method = .ok tape ∧
        snapshotOver service upstream parameters tape record.step = .ok snapshot ∧
        record = snapshotRecord options simulation parameters.symbol snapshot

end Runs

end Statement

section Reading

variable {stored : StoredSteps} {step : Nat}

theorem servedRecord_append (reads others : List RangeRead) (step : Nat) :
    servedRecord (reads ++ others) step =
      (servedRecord reads step).or (servedRecord others step) := by
  simp [servedRecord, List.findSome?_append]

theorem servedRecord_eq_none {reads : List RangeRead}
    (absent : ∀ read ∈ reads, ∀ record ∈ read.records, record.step ≠ step) :
    servedRecord reads step = none := by
  rw [servedRecord, List.findSome?_eq_none_iff]
  intro read member
  rw [List.find?_eq_none]
  intro record listed
  simpa using absent read member record listed

theorem servedRecord_append_later {reads others : List RangeRead}
    (later : ∀ read ∈ others, ∀ record ∈ read.records, step < record.step) :
    servedRecord (reads ++ others) step = servedRecord reads step := by
  have absent : servedRecord others step = none := by
    apply servedRecord_eq_none
    intro read member record listed
    exact (later read member record listed).ne'
  rw [servedRecord_append, absent, Option.or_none]

/-- Before `step` is asked for: of the steps from there on, what the reads returned is what
is loaded, and the window covers what is loaded. -/
structure StoredSteps.Aligned (stored : StoredSteps) (step : Nat) : Prop where
  contract : stored.repository.Contract
  answers : ∀ read ∈ stored.reads, read.Answered stored.repository stored.simulation
  served : ∀ later, step ≤ later → servedRecord stored.reads later =
    stored.loaded.find? fun record => record.step = later
  ascending : stored.loaded.Pairwise fun left right => left.step ≤ right.step
  covered : ∀ record ∈ stored.loaded, stored.exhausted record.step = false
  idle : stored.degraded = true → stored.loaded = []
  failed : stored.degraded = true → ∃ read, stored.reads.getLast? = some read ∧ read.FailedBy step
  window : ∀ stop, stored.windowEnd = some stop → stored.degraded = false →
    ∀ asked, step ≤ asked → asked ≤ stop → ∃ read ∈ stored.reads, read.Covers asked

/-- What one call did: it made reads of this step and later ones only. -/
structure StoredSteps.Advanced (before after : StoredSteps) (step : Nat) : Prop where
  repository : after.repository = before.repository
  simulation : after.simulation = before.simulation
  reads : ∃ new, after.reads = before.reads ++ new ∧
    ∀ read ∈ new, ∀ record ∈ read.records, step ≤ record.step

theorem exhausted_mono {stop : Nat} (below : step ≤ stop)
    (spent : stored.exhausted step = true) : stored.exhausted stop = true := by
  unfold StoredSteps.exhausted at spent ⊢
  cases held : stored.windowEnd with
  | none => rfl
  | some last =>
      rw [held] at spent
      simp only [decide_eq_true_eq] at spent ⊢
      omega

theorem StoredSteps.Aligned.served_none (aligned : stored.Aligned step)
    (spent : stored.exhausted step = true) {later : Nat} (after : step ≤ later) :
    servedRecord stored.reads later = none := by
  rw [aligned.served later after, List.find?_eq_none]
  intro record listed equal
  have covered := aligned.covered record listed
  rw [of_decide_eq_true equal, exhausted_mono after spent] at covered
  cases covered

/-- Nothing is loaded, and no read returned a step from `step` on. -/
structure StoredSteps.Unread (stored : StoredSteps) (step : Nat) : Prop where
  contract : stored.repository.Contract
  answers : ∀ read ∈ stored.reads, read.Answered stored.repository stored.simulation
  unserved : ∀ later, step ≤ later → servedRecord stored.reads later = none
  unloaded : stored.loaded = []

theorem answered_logged {fromStep toStep : Nat}
    (answers : ∀ read ∈ stored.reads, read.Answered stored.repository stored.simulation) :
    ∀ read ∈ (stored.logged fromStep toStep).reads,
      read.Answered stored.repository stored.simulation := by
  intro read member
  obtain earlier | own := List.mem_append.mp member
  · exact answers read earlier
  · obtain rfl := List.mem_singleton.mp own
    exact ⟨stored.reads.length, rfl⟩

theorem servedRecord_logged {fromStep toStep later : Nat}
    (unserved : servedRecord stored.reads later = none) {records : List SnapshotRecord}
    (answered : (⟨fromStep, toStep, stored.read fromStep toStep⟩ : RangeRead).records = records) :
    servedRecord (stored.logged fromStep toStep).reads later =
      records.find? fun record => record.step = later := by
  have own : servedRecord [⟨fromStep, toStep, stored.read fromStep toStep⟩] later =
      records.find? fun record => record.step = later := by
    rw [← answered]
    simp only [servedRecord, List.findSome?_cons, List.findSome?_nil]
    cases RangeRead.records _ |>.find? fun record => decide (record.step = later) with
    | none => rfl
    | some record => rfl
  change servedRecord (stored.reads ++ _) later = _
  rw [servedRecord_append, unserved, Option.none_or, own]

theorem StoredSteps.Unread.logged {fromStep toStep : Nat} (unread : stored.Unread step)
    {error : ChainError} (failed : stored.read fromStep toStep = .error error) :
    (stored.logged fromStep toStep).Unread step where
  contract := unread.contract
  answers := answered_logged unread.answers
  unserved later after := by
    have nothing : (⟨fromStep, toStep, stored.read fromStep toStep⟩ : RangeRead).records = [] := by
      rw [failed]
      rfl
    rw [servedRecord_logged (unread.unserved later after) nothing]
    rfl
  unloaded := unread.unloaded

theorem StoredSteps.Advanced.logged {fromStep toStep : Nat} {records : List SnapshotRecord}
    (answered : (⟨fromStep, toStep, stored.read fromStep toStep⟩ : RangeRead).records = records)
    (late : ∀ record ∈ records, step ≤ record.step) :
    stored.Advanced (stored.logged fromStep toStep) step where
  repository := rfl
  simulation := rfl
  reads := by
    refine ⟨_, rfl, ?_⟩
    intro read member
    obtain rfl := List.mem_singleton.mp member
    rw [answered]
    exact late

theorem StoredSteps.Advanced.trans {before middle after : StoredSteps}
    (first : before.Advanced middle step) (second : middle.Advanced after step) :
    before.Advanced after step where
  repository := second.repository.trans first.repository
  simulation := second.simulation.trans first.simulation
  reads := by
    obtain ⟨one, oneRead, oneLate⟩ := first.reads
    obtain ⟨other, otherRead, otherLate⟩ := second.reads
    refine ⟨one ++ other, by rw [otherRead, oneRead, List.append_assoc], ?_⟩
    intro read member
    obtain early | late := List.mem_append.mp member
    · exact oneLate read early
    · exact otherLate read late

theorem advanced_of_failed (step : Nat) {fromStep toStep : Nat} {error : ChainError}
    (failed : stored.read fromStep toStep = .error error) :
    stored.Advanced (stored.logged fromStep toStep) step := by
  have nothing : (⟨fromStep, toStep, stored.read fromStep toStep⟩ : RangeRead).records = [] := by
    rw [failed]
    rfl
  exact .logged nothing fun record listed => by cases listed

theorem StoredSteps.Unread.aligned_degraded (unread : stored.Unread step)
    (failed : ∃ read, stored.reads.getLast? = some read ∧ read.FailedBy step) :
    { stored with degraded := true }.Aligned step where
  contract := unread.contract
  answers := unread.answers
  served later after := by
    change servedRecord stored.reads later = stored.loaded.find? _
    rw [unread.unserved later after, unread.unloaded]
    rfl
  ascending := by
    change stored.loaded.Pairwise _
    rw [unread.unloaded]
    exact .nil
  covered record listed := by
    change record ∈ stored.loaded at listed
    rw [unread.unloaded] at listed
    cases listed
  idle _ := unread.unloaded
  failed _ := failed
  window stop held active := by cases active

theorem windowEnd_ge {fromStep window last : Nat} (within : fromStep ≤ last) :
    fromStep ≤ windowEnd fromStep window last := by
  cases window with
  | zero => exact within
  | succ span =>
      rw [windowEnd]
      cases fits : unsigned? u64Limit (fromStep + span) with
      | none => exact within
      | some stop =>
          have reached := (unsigned?_eq_some.mp fits).2
          exact le_min (by omega) within

theorem failed_logged {fromStep toStep : Nat} {error : ChainError}
    (failed : stored.read fromStep toStep = .error error) :
    ∃ read, (stored.logged fromStep toStep).reads.getLast? = some read ∧
      read.FailedBy fromStep :=
  ⟨_, List.getLast?_concat, le_refl fromStep, error, failed⟩

/-- The window is read whole, or, where no window could be, nothing is read any more. -/
theorem loadWindow_spec {fromStep last : Nat} (unread : stored.Unread fromStep)
    (active : stored.degraded = false) (within : fromStep ≤ last) :
    (stored.loadWindow fromStep last).Aligned fromStep ∧
      stored.Advanced (stored.loadWindow fromStep last) fromStep ∧
      ((stored.loadWindow fromStep last).degraded = false →
        (stored.loadWindow fromStep last).exhausted fromStep = false) := by
  fun_induction StoredSteps.loadWindow stored fromStep last with
  | case1 stored toStep asked records answered =>
      have contracted := unread.contract.within answered
      have returned : (⟨fromStep, toStep, stored.read fromStep toStep⟩ : RangeRead).records =
          records := by
        rw [answered]
        rfl
      have late := StoredSteps.Advanced.logged returned fun record listed =>
        (contracted record listed).1
      refine ⟨⟨unread.contract, answered_logged unread.answers, ?_,
        unread.contract.ascending answered, ?_, ?_, ?_, ?_⟩,
        ⟨late.repository, late.simulation, late.reads⟩, ?_⟩
      · intro later after
        exact servedRecord_logged (unread.unserved later after) returned
      · intro record listed
        exact decide_eq_false (not_lt.mpr (contracted record listed).2)
      · intro degraded
        change stored.degraded = true at degraded
        rw [active] at degraded
        cases degraded
      · intro degraded
        change stored.degraded = true at degraded
        rw [active] at degraded
        cases degraded
      · intro stop held _ asked after before
        cases held
        exact ⟨_, List.mem_append_right _ List.mem_cons_self, after, before, records, answered⟩
      · intro _
        exact decide_eq_false (not_lt.mpr (windowEnd_ge within))
  | case2 stored toStep asked field reason refused wide ih =>
      have logged := unread.logged refused
      obtain ⟨aligned, advanced, read⟩ := ih
        ⟨logged.contract, logged.answers, logged.unserved, logged.unloaded⟩ active
      have first := advanced_of_failed fromStep refused
      exact ⟨aligned, first.trans ⟨advanced.repository, advanced.simulation, advanced.reads⟩, read⟩
  | case3 stored toStep asked field reason refused narrow =>
      have first := advanced_of_failed fromStep refused
      exact ⟨(unread.logged refused).aligned_degraded (failed_logged refused),
        ⟨first.repository, first.simulation, first.reads⟩, fun active => by cases active⟩
  | case4 stored toStep asked error different failed =>
      have first := advanced_of_failed fromStep failed
      exact ⟨(unread.logged failed).aligned_degraded (failed_logged failed),
        ⟨first.repository, first.simulation, first.reads⟩, fun active => by cases active⟩

theorem find?_dropWhile {α : Type} {skip wanted : α → Bool} {values : List α}
    (apart : ∀ value ∈ values, skip value = true → wanted value = false) :
    (values.dropWhile skip).find? wanted = values.find? wanted := by
  induction values with
  | nil => rfl
  | cons value rest ih =>
      rw [List.forall_mem_cons] at apart
      rw [List.dropWhile_cons]
      split_ifs with skipped
      · rw [ih apart.2, List.find?_cons, apart.1 skipped]
      · rfl

theorem StoredSteps.Aligned.keep (aligned : stored.Aligned step) {rest : List SnapshotRecord}
    (part : rest.Sublist stored.loaded)
    (served : ∀ later, step < later → servedRecord stored.reads later =
      rest.find? fun record => record.step = later) :
    { stored with loaded := rest }.Aligned (step + 1) where
  contract := aligned.contract
  answers := aligned.answers
  served := served
  ascending := aligned.ascending.sublist part
  covered record listed := aligned.covered record (part.subset listed)
  idle degraded := by
    have nothing := aligned.idle degraded
    rw [nothing] at part
    exact List.sublist_nil.mp part
  failed degraded := by
    obtain ⟨read, last, before, failed⟩ := aligned.failed degraded
    exact ⟨read, last, before.trans (Nat.le_succ step), failed⟩
  window stop held active asked after := aligned.window stop held active asked
    ((Nat.le_succ step).trans after)

theorem StoredSteps.Advanced.refl (stored : StoredSteps) (step : Nat) :
    stored.Advanced stored step where
  repository := rfl
  simulation := rfl
  reads := ⟨[], (List.append_nil _).symm, fun read impossible => by cases impossible⟩

theorem takeFront_spec (aligned : stored.Aligned step) :
    (stored.takeFront step).1 = servedRecord stored.reads step ∧
      (stored.takeFront step).2.Aligned (step + 1) ∧
      ∃ rest, (stored.takeFront step).2 = { stored with loaded := rest } := by
  have kept : ∀ later, step ≤ later → servedRecord stored.reads later =
      (stored.loaded.dropWhile fun record => record.step < step).find?
        fun record => record.step = later := by
    intro later after
    rw [aligned.served later after, find?_dropWhile]
    intro record listed below
    have below := of_decide_eq_true below
    exact decide_eq_false (by omega)
  have part : (stored.loaded.dropWhile fun record => record.step < step).Sublist stored.loaded :=
    List.dropWhile_sublist _
  have sorted := aligned.ascending.sublist part
  have front := List.head?_dropWhile_not (fun record => decide (record.step < step)) stored.loaded
  unfold StoredSteps.takeFront
  cases held : stored.loaded.dropWhile fun record => record.step < step with
  | nil =>
      rw [held] at kept
      refine ⟨(kept step (le_refl step)).symm, aligned.keep (List.nil_sublist _) ?_, [], rfl⟩
      exact fun later after => kept later after.le
  | cons record rest =>
      rw [held] at kept part sorted front
      have atLeast : step ≤ record.step := by simpa using front
      dsimp only
      split_ifs with here
      · refine ⟨?_, aligned.keep ((List.sublist_cons_self record rest).trans part) ?_, rest, rfl⟩
        · rw [kept step (le_refl step), List.find?_cons, decide_eq_true here]
        · intro later after
          have different : record.step ≠ later := by omega
          rw [kept later after.le, List.find?_cons, decide_eq_false different]
      · refine ⟨?_, aligned.keep part ?_, record :: rest, rfl⟩
        · rw [kept step (le_refl step), eq_comm, List.find?_eq_none]
          intro other listed equal
          have above : record.step ≤ other.step := by
            cases listed with
            | head => exact le_refl _
            | tail _ later => exact (List.pairwise_cons.mp sorted).1 other later
          have equal := of_decide_eq_true equal
          omega
        · exact fun later after => kept later after.le

/-- A step was asked for, or the reads had ended by then. -/
def StoredSteps.HasAsked (stored : StoredSteps) (step : Nat) : Prop :=
  (∃ read ∈ stored.reads, read.Covers step) ∨
    stored.degraded = true ∧ ∃ read, stored.reads.getLast? = some read ∧ read.FailedBy step

/-- One call takes the record the reads returned for its step, if any did. -/
theorem take_spec {last : Nat} (aligned : stored.Aligned step) (within : step ≤ last) :
    (stored.take step last).1 = servedRecord (stored.take step last).2.reads step ∧
      (stored.take step last).2.Aligned (step + 1) ∧
      stored.Advanced (stored.take step last).2 step ∧
      (stored.degraded = true → (stored.take step last).2 = stored) ∧
      (stored.take step last).2.HasAsked step := by
  have taking : ∀ loaded : StoredSteps, loaded.Aligned step → stored.Advanced loaded step →
      (loaded.degraded = false → loaded.exhausted step = false) →
      (loaded.takeFront step).1 = servedRecord (loaded.takeFront step).2.reads step ∧
        (loaded.takeFront step).2.Aligned (step + 1) ∧
        stored.Advanced (loaded.takeFront step).2 step ∧
        (loaded.takeFront step).2.HasAsked step := by
    intro loaded alignedLoaded advanced unspent
    obtain ⟨taken, after, rest, equal⟩ := takeFront_spec alignedLoaded
    rw [equal] at after ⊢
    refine ⟨taken, after, ⟨advanced.repository, advanced.simulation, advanced.reads⟩, ?_⟩
    cases active : loaded.degraded with
    | true => exact .inr ⟨rfl, alignedLoaded.failed active⟩
    | false =>
        have waiting := unspent active
        unfold StoredSteps.exhausted at waiting
        cases held : loaded.windowEnd with
        | none =>
            rw [held] at waiting
            cases waiting
        | some stop =>
            rw [held] at waiting
            exact .inl (alignedLoaded.window stop held active step (le_refl step)
              (not_lt.mp (of_decide_eq_false waiting)))
  unfold StoredSteps.take
  cases degraded : stored.degraded with
  | true =>
      have nothing := aligned.idle degraded
      have unserved : servedRecord stored.reads step = none := by
        rw [aligned.served step (le_refl step), nothing]
        rfl
      have kept := aligned.keep (List.Sublist.refl stored.loaded) fun later after =>
        aligned.served later after.le
      exact ⟨unserved.symm, kept, .refl stored step, fun _ => rfl,
        .inr ⟨degraded, aligned.failed degraded⟩⟩
  | false =>
      simp only [Bool.false_eq_true, if_false, false_implies, true_and]
      cases spent : stored.exhausted step with
      | true =>
          have unread : { stored with loaded := [] }.Unread step := by
            refine ⟨aligned.contract, aligned.answers, ?_, rfl⟩
            intro later after
            exact aligned.served_none spent after
          obtain ⟨loaded, advanced, unspent⟩ := @loadWindow_spec { stored with loaded := [] } step
            last unread degraded within
          exact taking _ loaded ⟨advanced.repository, advanced.simulation, advanced.reads⟩ unspent
      | false => exact taking stored aligned (.refl stored step) fun _ => spent

theorem HasAsked.take {last asked : Nat} (aligned : stored.Aligned step) (within : step ≤ last)
    (known : stored.HasAsked asked) : (stored.take step last).2.HasAsked asked := by
  obtain ⟨-, -, advanced, ended, -⟩ := take_spec aligned within
  cases degraded : stored.degraded with
  | true =>
      rw [ended degraded]
      exact known
  | false =>
      obtain ⟨read, member, covers⟩ | ⟨impossible, -⟩ := known
      · obtain ⟨new, reads, -⟩ := advanced.reads
        exact .inl ⟨read, reads ▸ List.mem_append_left new member, covers⟩
      · rw [degraded] at impossible
        cases impossible

theorem aligned_new {repository : SnapshotReads} (contract : repository.Contract)
    (simulation : Uuid) (step : Nat) :
    (StoredSteps.new repository simulation).Aligned step where
  contract := contract
  answers read member := by cases member
  served later after := rfl
  ascending := .nil
  covered record listed := by cases listed
  idle _ := rfl
  failed degraded := by cases degraded
  window stop held := by cases held

end Reading

section Rows

variable {Chain : Type} {service : Service} {options : Chain → List OptionData}
  {encoders : Encoders} {parameters : SimulationParametersV2}

/-- The dataset a writer is for. -/
def Writer.dataset : Writer → Dataset
  | .json dataset _ => dataset
  | .csv dataset => dataset

theorem dataset_of_rows {writer : Writer} {step : Nat} {row : FactorRow}
    {chains : Option (StepChains Chain)} {written : Bytes × Writer}
    (rows : writer.rows options service.numerics encoders parameters step row chains =
      .ok written) : written.2.dataset = writer.dataset := by
  cases writer with
  | json dataset first =>
      obtain ⟨values, -, kept⟩ := bind_eq_ok.mp rows
      cases kept
      rfl
  | csv dataset =>
      obtain ⟨records, -, kept⟩ := bind_eq_ok.mp rows
      cases kept
      rfl

theorem rows_succeed (encodes : ∀ value, ∃ bytes, encoders.toVec value = .ok bytes)
    (writer : Writer) (group : StepGroup Chain) :
    ∃ written, writer.rows options service.numerics encoders parameters group.step group.row
      group.chains = .ok written := by
  cases writer with
  | json dataset first =>
      exact ⟨_, @rows_json _ _ service options parameters dataset (fun _ => none) group first
        fun row _ => encodes _⟩
  | csv dataset => exact ⟨_, rows_csv⟩

theorem rows_snapshotRecord (writer : Writer) (step : Nat) (row : FactorRow)
    (simulation : Uuid) (symbol : String) (snapshot : SeriesSnapshot Chain) :
    writer.rows options service.numerics encoders parameters step row
        (some (.stored (snapshotRecord options simulation symbol snapshot))) =
      writer.rows options service.numerics encoders parameters step row
        (some (.replayed snapshot)) := by
  have json : ∀ dataset simulatedAt symbol', jsonRows options service.numerics dataset step
      simulatedAt symbol' row (some (.stored (snapshotRecord options simulation symbol snapshot))) =
      jsonRows options service.numerics dataset step simulatedAt symbol' row
        (some (.replayed snapshot)) := by
    intro dataset simulatedAt symbol'
    cases dataset with
    | underlying => rfl
    | volatility => rfl
    | optionChains =>
        simp only [jsonRows, StepChains.expirations, snapshotRecord, List.map_map,
          List.flatMap_map, Function.comp_def, QuoteSource.quotes]
        rfl
  have csv : ∀ dataset simulatedAt symbol', csvRows options service.numerics dataset step
      simulatedAt symbol' row (some (.stored (snapshotRecord options simulation symbol snapshot))) =
      csvRows options service.numerics dataset step simulatedAt symbol' row
        (some (.replayed snapshot)) := by
    intro dataset simulatedAt symbol'
    cases dataset with
    | underlying => rfl
    | volatility => rfl
    | optionChains =>
        simp only [csvRows, StepChains.expirations, snapshotRecord, List.map_map,
          List.flatMap_map, Function.comp_def, QuoteSource.quotes]
        rfl
  cases writer with
  | json dataset first => simp only [Writer.rows, json]
  | csv dataset => simp only [Writer.rows, csv]

theorem rows_without_chains {writer : Writer} (bare : writer.dataset.needsChains = false)
    (step : Nat) (row : FactorRow) (left right : Option (StepChains Chain)) :
    writer.rows options service.numerics encoders parameters step row left =
      writer.rows options service.numerics encoders parameters step row right := by
  cases writer with
  | json dataset first =>
      cases dataset with
      | underlying => rfl
      | volatility => rfl
      | optionChains => cases bare
  | csv dataset =>
      cases dataset with
      | underlying => rfl
      | volatility => rfl
      | optionChains => cases bare

theorem writeGroups_append {writer middle last : Writer} {groups : List (StepGroup Chain)}
    {group : StepGroup Chain} {chunks : List Bytes} {chunk : Bytes}
    (before : writeGroups service options encoders parameters writer groups = .ok (chunks, middle))
    (own : middle.rows options service.numerics encoders parameters group.step group.row
      group.chains = .ok (chunk, last)) :
    writeGroups service options encoders parameters writer (groups ++ [group]) =
      .ok (chunks ++ [chunk], last) := by
  induction groups generalizing writer chunks with
  | nil =>
      cases before
      rw [List.nil_append, writeGroups, own]
      rfl
  | cons first rest ih =>
      rw [writeGroups] at before
      obtain ⟨written, rows, more⟩ := bind_eq_ok.mp before
      obtain ⟨others, following, kept⟩ := bind_eq_ok.mp more
      cases kept
      rw [List.cons_append, writeGroups, rows]
      change (do
        let others ← writeGroups service options encoders parameters written.2 (rest ++ [group])
        return (written.1 :: others.1, others.2) : Except ChainError (List Bytes × Writer)) = _
      rw [ih following]
      rfl

end Rows

section Walk

/-- The reads made so far. -/
def readsOf (stored : Option StoredSteps) : List RangeRead :=
  (stored.map StoredSteps.reads).getD []

/-- The repository read, and the simulation it is read for. -/
def sourceOf (stored : Option StoredSteps) : Option (SnapshotReads × Uuid) :=
  stored.map fun held => (held.repository, held.simulation)

theorem takeRecord_spec {stored : Option StoredSteps} {step last : Nat}
    (aligned : ∀ held, stored = some held → held.Aligned step) (within : step ≤ last) :
    (takeRecord stored step last).1 = servedRecord (readsOf (takeRecord stored step last).2) step ∧
      (∀ held, (takeRecord stored step last).2 = some held → held.Aligned (step + 1)) ∧
      sourceOf (takeRecord stored step last).2 = sourceOf stored ∧
      ∀ earlier, earlier < step → servedRecord (readsOf (takeRecord stored step last).2) earlier =
        servedRecord (readsOf stored) earlier := by
  cases stored with
  | none =>
      refine ⟨rfl, ?_, rfl, fun _ _ => rfl⟩
      intro held impossible
      cases impossible
  | some held =>
      obtain ⟨taken, after, advanced, -⟩ := take_spec (aligned held rfl) within
      refine ⟨taken, ?_, ?_, ?_⟩
      · intro next equal
        cases equal
        exact after
      · change some ((held.take step last).2.repository, (held.take step last).2.simulation) = _
        rw [advanced.repository, advanced.simulation]
        rfl
      · intro earlier before
        obtain ⟨new, reads, late⟩ := advanced.reads
        change servedRecord (held.take step last).2.reads earlier = servedRecord held.reads earlier
        rw [reads]
        apply servedRecord_append_later
        intro read member record listed
        exact before.trans_le (late read member record listed)

variable {Chain : Type} {service : Service} {upstream : Upstream Chain}
  {options : Chain → List OptionData} {encoders : Encoders}
  {parameters : SimulationParametersV2} {dataset : Dataset} {format : Format}
  {range : StepRange} {receiver : Nat → Bool} {tape : FactorTape}
  {builder : Option SeriesBuilder} {opening : Option Bytes} {step : Nat}
  {state next : Producing Chain} {warehouse : Option SnapshotReads} {simulation : Uuid}

/-- What one completed step did. -/
structure Stepped (service : Service) (upstream : Upstream Chain)
    (options : Chain → List OptionData) (encoders : Encoders)
    (parameters : SimulationParametersV2) (range : StepRange) (receiver : Nat → Bool)
    (tape : FactorTape) (builder : Option SeriesBuilder) (step : Nat)
    (state next : Producing Chain) (row : FactorRow)
    (replayed : Option (SeriesSnapshot Chain)) (chunk : Bytes) : Prop where
  held : tape.row step = some row
  missing : replayMissing service upstream builder (takeRecord state.stored step range.toStep).1
    step = .ok replayed
  stored : next.stored = (takeRecord state.stored step range.toStep).2
  counted : countServed (takeRecord state.stored step range.toStep).1 state.servedFromStorage =
    .ok next.servedFromStorage
  groups : next.groups = state.groups ++ [⟨row.step, row,
    stepChains (takeRecord state.stored step range.toStep).1 replayed⟩]
  written : state.writer.rows options service.numerics encoders parameters row.step row
    (stepChains (takeRecord state.stored step range.toStep).1 replayed) =
      .ok (chunk, next.writer)
  sent : sendSome receiver state.sent (if chunk.isEmpty then none else some chunk) =
    .ok next.sent

theorem stepped_of_ok (completed : produceStep service upstream options encoders parameters range
      receiver tape builder step state = .ok next) :
    ∃ row replayed chunk, Stepped service upstream options encoders parameters range receiver tape
      builder step state next row replayed chunk := by
  obtain ⟨row, rowHeld, rest⟩ := bind_eq_ok.mp completed
  obtain ⟨replayed, replayedOk, rest⟩ := bind_eq_ok.mp rest
  obtain ⟨served, servedOk, rest⟩ := bind_eq_ok.mp rest
  obtain ⟨written, writtenOk, rest⟩ := bind_eq_ok.mp rest
  obtain ⟨sent, sentOk, kept⟩ := bind_eq_ok.mp rest
  cases kept
  exact ⟨row, replayed, written.1, okOr_eq_ok.mp (mapError_eq_ok.mp rowHeld),
    mapError_eq_ok.mp replayedOk, rfl, mapError_eq_ok.mp servedOk, rfl,
    mapError_eq_ok.mp writtenOk, sentOk⟩

theorem sendSome_eq_ok {sent after : List Bytes} {chunk : Option Bytes}
    (delivered : sendSome receiver sent chunk = .ok after) : after = sent ++ chunk.toList := by
  cases chunk with
  | none =>
      cases delivered
      exact (List.append_nil sent).symm
  | some chunk =>
      unfold sendSome blockingSend at delivered
      split_ifs at delivered
      cases delivered
      rfl

theorem sendSome_open (stays : ∀ count, receiver count = true) {sent : List Bytes}
    {chunk : Option Bytes} : sendSome receiver sent chunk = .ok (sent ++ chunk.toList) := by
  cases chunk with
  | none => exact congrArg Except.ok (List.append_nil sent).symm
  | some chunk => exact if_pos (stays sent.length)

theorem countServed_le {record : Option SnapshotRecord} {served after : Nat}
    (counted : countServed record served = .ok after) : after ≤ served + 1 := by
  cases record with
  | none =>
      cases counted
      exact Nat.le_succ served
  | some record =>
      exact ((unsigned?_eq_some.mp (okOr_eq_ok.mp counted)).2).le

/-- What holds of a producer about to take a step of the range. -/
structure Walking (service : Service) (upstream : Upstream Chain)
    (options : Chain → List OptionData) (encoders : Encoders)
    (parameters : SimulationParametersV2) (dataset : Dataset) (format : Format)
    (range : StepRange) (warehouse : Option SnapshotReads) (simulation : Uuid)
    (tape : FactorTape) (opening : Option Bytes) (step : Nat) (state : Producing Chain) :
    Prop where
  started : range.fromStep ≤ step
  groups : state.groups.map StepGroup.step =
    List.range' range.fromStep (step - range.fromStep)
  stored : ∀ held, state.stored = some held → held.Aligned step
  source : sourceOf state.stored = warehouse.map fun repository => (repository, simulation)
  sourced : ∀ group ∈ state.groups,
    group.Sourced service upstream parameters dataset tape (readsOf state.stored)
  asked : ∀ held, state.stored = some held → ∀ group ∈ state.groups, held.HasAsked group.step
  written : ∃ chunks, writeGroups service options encoders parameters (.new format dataset)
      state.groups = .ok (chunks, state.writer) ∧
    state.sent = opening.toList ++ chunks.filter fun chunk => !chunk.isEmpty
  dataset : state.writer.dataset = dataset
  served : state.servedFromStorage ≤ step - range.fromStep

/-- The builder is there exactly where the dataset needs it. -/
def Prepared (service : Service) (parameters : SimulationParametersV2) (dataset : Dataset)
    (tape : FactorTape) : Option SeriesBuilder → Prop
  | some builder => dataset.needsChains = true ∧
      SeriesBuilder.new service parameters tape = .ok builder
  | none => dataset.needsChains = false

theorem prepare_eq_ok
    (prepared : prepare service upstream parameters dataset = .ok (tape, builder)) :
    FactorTape.build service upstream parameters parameters.method = .ok tape ∧
      Prepared service parameters dataset tape builder := by
  obtain ⟨built, tapeBuilt, rest⟩ := bind_eq_ok.mp prepared
  split_ifs at rest with needs
  · obtain ⟨made, builderMade, kept⟩ := bind_eq_ok.mp rest
    cases kept
    exact ⟨tapeBuilt, needs, lift_eq_ok.mp builderMade⟩
  · cases rest
    exact ⟨tapeBuilt, Bool.eq_false_iff.mpr needs⟩

theorem snapshotOver_eq {made : SeriesBuilder}
    (built : SeriesBuilder.new service parameters tape = .ok made) (step : Nat) :
    snapshotOver service upstream parameters tape step =
      made.snapshot service upstream step := by
  unfold snapshotOver
  rw [built]
  rfl

theorem sourced_of_step (prepared : Prepared service parameters dataset tape builder)
    {reads : List RangeRead} {record : Option SnapshotRecord} {row : FactorRow}
    {replayed : Option (SeriesSnapshot Chain)} (held : tape.row row.step = some row)
    (served : record = servedRecord reads row.step)
    (missing : replayMissing service upstream builder record row.step = .ok replayed) :
    StepGroup.Sourced service upstream parameters dataset tape reads
      ⟨row.step, row, stepChains record replayed⟩ := by
  refine ⟨held, ?_, ?_, ?_⟩
  · intro found present
    rw [served, present]
    rfl
  · intro absent needs
    rw [served, absent] at missing
    cases builder with
    | none =>
        rw [prepared] at needs
        cases needs
    | some made =>
        obtain ⟨snapshot, built, kept⟩ := map_eq_ok.mp missing
        subst kept
        refine ⟨snapshot, ?_, ?_⟩
        · rw [snapshotOver_eq prepared.2]
          exact built
        · rw [served, absent]
          rfl
  · intro absent bare
    rw [served, absent] at missing
    cases builder with
    | none =>
        cases missing
        rw [served, absent]
        rfl
    | some made =>
        rw [prepared.1] at bare
        cases bare

theorem sourced_of_reads {reads later : List RangeRead} {group : StepGroup Chain}
    (same : servedRecord later group.step = servedRecord reads group.step)
    (sourced : group.Sourced service upstream parameters dataset tape reads) :
    group.Sourced service upstream parameters dataset tape later where
  row := sourced.row
  stored record found := sourced.stored record (same ▸ found)
  replayed absent := sourced.replayed (same ▸ absent)
  bare absent := sourced.bare (same ▸ absent)

theorem walking_of_step
    (built : FactorTape.build service upstream parameters parameters.method = .ok tape)
    (prepared : Prepared service parameters dataset tape builder) (within : step ≤ range.toStep)
    (walking : Walking service upstream options encoders parameters dataset format range
      warehouse simulation tape opening step state)
    (completed : produceStep service upstream options encoders parameters range receiver tape
      builder step state = .ok next) :
    Walking service upstream options encoders parameters dataset format range warehouse
      simulation tape opening
      (step + 1) next := by
  obtain ⟨row, replayed, chunk, stepped⟩ := stepped_of_ok completed
  obtain ⟨taken, aligned, source, before⟩ := takeRecord_spec walking.stored within
  have named : row.step = step := FactorTape.step_of_row built stepped.held
  subst named
  have fromRange := walking.started
  have members : ∀ group ∈ state.groups, group.step < row.step := by
    intro group member
    have listed : group.step ∈ state.groups.map StepGroup.step := List.mem_map_of_mem member
    rw [walking.groups, List.mem_range'_1] at listed
    omega
  refine ⟨walking.started.trans (Nat.le_succ _), ?_, ?_, ?_, ?_, ?_, ?_, ?_, ?_⟩
  · rw [stepped.groups, List.map_append, walking.groups, Nat.succ_sub walking.started,
      List.range'_concat]
    simp only [List.map_cons, List.map_nil]
    congr 2
    omega
  · rw [stepped.stored]
    exact aligned
  · rw [stepped.stored, source]
    exact walking.source
  · rw [stepped.groups, stepped.stored]
    intro group member
    obtain earlier | own := List.mem_append.mp member
    · exact sourced_of_reads (before group.step (members group earlier))
        (walking.sourced group earlier)
    · obtain rfl := List.mem_singleton.mp own
      exact sourced_of_step prepared stepped.held taken stepped.missing
  · rw [stepped.groups, stepped.stored]
    intro held equal group member
    cases asking : state.stored with
    | none =>
        rw [asking] at equal
        cases equal
    | some stored =>
        rw [asking] at equal
        cases equal
        have alignedBefore := walking.stored stored asking
        obtain earlier | own := List.mem_append.mp member
        · exact HasAsked.take alignedBefore within (walking.asked stored asking group earlier)
        · obtain rfl := List.mem_singleton.mp own
          obtain ⟨-, -, -, -, asked⟩ := take_spec alignedBefore within
          exact asked
  · obtain ⟨chunks, written, sent⟩ := walking.written
    refine ⟨chunks ++ [chunk], ?_, ?_⟩
    · rw [stepped.groups]
      exact writeGroups_append written stepped.written
    · rw [sendSome_eq_ok stepped.sent, sent, List.append_assoc, List.filter_append]
      congr 2
      cases empty : chunk.isEmpty with
      | true => simp [empty]
      | false => simp [empty]
  · rw [dataset_of_rows stepped.written]
    exact walking.dataset
  · have counted := countServed_le stepped.counted
    have served := walking.served
    omega

/-- The steps taken before a producer stops, or all of the range where nothing stops it. -/
theorem walking_of_run
    (built : FactorTape.build service upstream parameters parameters.method = .ok tape)
    (prepared : Prepared service parameters dataset tape builder) {count : Nat}
    (within : step + count = range.toStep + 1)
    (walking : Walking service upstream options encoders parameters dataset format range
      warehouse simulation tape opening step state)
    {result : Except Halt Unit} {last : Producing Chain}
    (ran : produceSteps service upstream options encoders parameters range receiver tape builder
      (List.range' step count) state = (last, result)) :
    ∃ stop ≤ range.toStep + 1, Walking service upstream options encoders parameters dataset format
        range warehouse simulation tape opening stop last ∧
          (result = .ok () → stop = range.toStep + 1) := by
  induction count generalizing step state with
  | zero =>
      cases ran
      exact ⟨step, within.le, walking, fun _ => within⟩
  | succ count ih =>
      rw [List.range'_succ, produceSteps] at ran
      cases completed : produceStep service upstream options encoders parameters range receiver
          tape builder step state with
      | ok next =>
          rw [completed] at ran
          exact ih (by omega) (walking_of_step built prepared (by omega) walking completed) ran
      | error halt =>
          rw [completed] at ran
          cases ran
          refine ⟨step, by omega, walking, ?_⟩
          intro impossible
          cases impossible

theorem disconnected_of_step (stays : ∀ count, receiver count = true) {halt : Halt}
    (halted : produceStep service upstream options encoders parameters range receiver tape builder
      step state = .error halt) : ∃ fault, halt = .failed fault := by
  obtain missing | ⟨row, -, rest⟩ := bind_eq_error.mp halted
  · obtain ⟨cause, -, rfl⟩ := mapError_eq_error.mp missing
    exact ⟨_, rfl⟩
  obtain missing | ⟨replayed, -, rest⟩ := bind_eq_error.mp rest
  · obtain ⟨cause, -, rfl⟩ := mapError_eq_error.mp missing
    exact ⟨_, rfl⟩
  obtain missing | ⟨served, -, rest⟩ := bind_eq_error.mp rest
  · obtain ⟨cause, -, rfl⟩ := mapError_eq_error.mp missing
    exact ⟨_, rfl⟩
  obtain missing | ⟨written, -, rest⟩ := bind_eq_error.mp rest
  · obtain ⟨cause, -, rfl⟩ := mapError_eq_error.mp missing
    exact ⟨_, rfl⟩
  obtain refused | ⟨sent, -, impossible⟩ := bind_eq_error.mp rest
  · rw [sendSome_open stays] at refused
    cases refused
  · cases impossible

theorem disconnected_of_run (stays : ∀ count, receiver count = true) {steps : List Nat}
    {halt : Halt} {last : Producing Chain}
    (ran : produceSteps service upstream options encoders parameters range receiver tape builder
      steps state = (last, .error halt)) : ∃ fault, halt = .failed fault := by
  induction steps generalizing state with
  | nil => cases ran
  | cons step rest ih =>
      rw [produceSteps] at ran
      cases completed : produceStep service upstream options encoders parameters range receiver
          tape builder step state with
      | ok next =>
          rw [completed] at ran
          exact ih ran
      | error other =>
          rw [completed] at ran
          cases ran
          exact disconnected_of_step stays completed

theorem Walking.answered
    (walking : Walking service upstream options encoders parameters dataset format range
      warehouse simulation tape opening step state) :
    ∀ read ∈ readsOf state.stored, ∃ repository, warehouse = some repository ∧
      read.Answered repository simulation := by
  intro read member
  have source := walking.source
  cases held : state.stored with
  | none =>
      rw [held] at member
      cases member
  | some stored =>
      rw [held] at member source
      obtain ⟨repository, supplied, same⟩ := Option.map_eq_some_iff.mp source.symm
      cases same
      exact ⟨_, supplied, (walking.stored stored held).answers read member⟩

/-- How a walk ends: what the run reports, and the document it is a part of. -/
theorem streams_of_walking {stop : Nat}
    (built : FactorTape.build service upstream parameters parameters.method = .ok tape)
    (prologue : (Writer.new format dataset).prologue encoders = .ok opening)
    (within : stop ≤ range.toStep + 1)
    (walking : Walking service upstream options encoders parameters dataset format range
      warehouse simulation tape opening stop state)
    {run : ExportRun Chain} (groups : run.groups = state.groups)
    (reads : run.reads = readsOf state.stored)
    (sent : run.sent = state.sent ∨ ∃ closing, state.writer.epilogue = .ok closing ∧
      run.sent = state.sent ++ closing.toList)
    (finished : (∀ count, receiver count = true) → run.result = .ok () →
      stop = range.toStep + 1 ∧ ∃ closing, state.writer.epilogue = .ok closing ∧
        run.sent = state.sent ++ closing.toList) :
    StreamsTape service upstream options encoders parameters dataset format range receiver
      simulation warehouse run := by
  have started := walking.started
  obtain ⟨chunks, written, sentBefore⟩ := walking.written
  obtain ⟨closing, epilogue⟩ : ∃ closing, state.writer.epilogue = .ok closing := by
    cases state.writer with
    | json dataset first => exact ⟨_, rfl⟩
    | csv dataset => exact ⟨_, rfl⟩
  have pieces : documentPieces service options encoders parameters dataset format run.groups =
      .ok (state.sent ++ closing.toList) := by
    rw [groups, documentPieces, prologue, sentBefore]
    change (do
      let written ← writeGroups service options encoders parameters _ state.groups
      let closing ← written.2.epilogue
      return opening.toList ++ written.1.filter (fun chunk => !chunk.isEmpty) ++ closing.toList :
        Except ChainError (List Bytes)) = _
    rw [written]
    change (do
      let closing ← state.writer.epilogue
      return opening.toList ++ chunks.filter (fun chunk => !chunk.isEmpty) ++ closing.toList :
        Except ChainError (List Bytes)) = _
    rw [epilogue]
    rfl
  refine ⟨?_, ?_, ?_, ?_, _, pieces, ?_, ?_⟩
  · rw [groups, walking.groups]
    refine ⟨List.range' (range.fromStep + (stop - range.fromStep)) (range.toStep + 1 - stop), ?_⟩
    rw [List.range'_append_1, StepRange.steps]
    congr 1
    omega
  · rw [groups, reads]
    exact fun group member => ⟨tape, built, walking.sourced group member⟩
  · rw [groups, reads]
    intro present group member
    have source := walking.source
    cases held : state.stored with
    | none =>
        rw [held] at source
        rw [Option.map_eq_none_iff.mp source.symm] at present
        cases present
    | some stored =>
        obtain covered | ⟨-, failed⟩ := walking.asked stored held group member
        · exact .inl covered
        · exact .inr failed
  · rw [reads]
    exact walking.answered
  · obtain same | ⟨other, otherEpilogue, same⟩ := sent
    · exact ⟨closing.toList, by rw [same]⟩
    · rw [epilogue] at otherEpilogue
      cases otherEpilogue
      exact ⟨[], by rw [same, List.append_nil]⟩
  · intro stays succeeded
    obtain ⟨rfl, other, otherEpilogue, same⟩ := finished stays succeeded
    rw [epilogue] at otherEpilogue
    cases otherEpilogue
    exact ⟨by rw [groups, walking.groups]; rfl, same⟩

theorem prologue_eq_ok (encoders : Encoders) (format : Format) (dataset : Dataset) :
    ∃ opening, (Writer.new format dataset).prologue encoders = .ok opening := by
  cases format with
  | json => exact ⟨_, rfl⟩
  | csv =>
      have header := @encodeCsv_eq encoders [dataset.header] dataset.header.length (by simp)
      refine ⟨some ([dataset.header].flatMap encoders.csvRecord), ?_⟩
      change (encodeCsv encoders [dataset.header] >>= fun header => .ok (some header)) = _
      rw [header]
      rfl

theorem streams_nothing {run : ExportRun Chain} (groups : run.groups = [])
    (reads : run.reads = []) (sent : run.sent = [])
    (unfinished : (∀ count, receiver count = true) → run.result ≠ .ok ()) :
    StreamsTape service upstream options encoders parameters dataset format range receiver
      simulation warehouse run := by
  obtain ⟨opening, prologue⟩ := prologue_eq_ok encoders format dataset
  obtain ⟨closing, epilogue⟩ : ∃ closing, (Writer.new format dataset).epilogue = .ok closing := by
    cases format with
    | json => exact ⟨_, rfl⟩
    | csv => exact ⟨_, rfl⟩
  refine ⟨?_, ?_, ?_, ?_, opening.toList ++ closing.toList, ?_, ?_, ?_⟩
  · rw [groups]
    exact List.nil_prefix
  · rw [groups]
    intro group member
    cases member
  · rw [groups]
    intro _ group member
    cases member
  · rw [reads]
    intro read member
    cases member
  · rw [groups, documentPieces, prologue]
    change (do
      let closing ← (Writer.new format dataset).epilogue
      return opening.toList ++ [] ++ closing.toList : Except ChainError (List Bytes)) = _
    rw [epilogue]
    simp [pure, Except.pure, bind, Except.bind]
  · rw [sent]
    exact List.nil_prefix
  · intro stays succeeded
    exact absurd succeeded (unfinished stays)

theorem resolve_eq_ok {query : ExportQuery} {steps maxRows : Nat}
    (accepted : StepRange.resolve query steps maxRows = .ok range) :
    range.fromStep ≤ range.toStep ∧ range.toStep < steps ∧
      range.toStep - range.fromStep + 1 < u64Limit ∧
      range.toStep - range.fromStep + 1 ≤ maxRows := by
  unfold StepRange.resolve at accepted
  cases steps with
  | zero => cases accepted
  | succ last =>
      simp only at accepted
      split_ifs at accepted with early late reversed
      split at accepted
      next => cases accepted
      next span fits =>
        split_ifs at accepted with wide
        cases accepted
        obtain ⟨small, rfl⟩ := unsigned?_eq_some.mp fits
        exact ⟨not_lt.mp reversed, Nat.lt_succ_of_le (not_lt.mp late), small, not_lt.mp wide⟩

/-- The producer's state before the first step. -/
def openedOver (format : Format) (dataset : Dataset) (stored : Option StoredSteps)
    (opening : Option Bytes) : Producing Chain where
  writer := .new format dataset
  stored := stored
  servedFromStorage := 0
  groups := []
  sent := opening.toList

theorem readsOf_new (warehouse : Option SnapshotReads) (simulation : Uuid) :
    readsOf (warehouse.map fun repository => .new repository simulation) = [] := by
  cases warehouse with
  | none => rfl
  | some repository => rfl

theorem walking_opened
    (contract : ∀ repository, warehouse = some repository → repository.Contract) :
    Walking service upstream options encoders parameters dataset format range warehouse
      simulation tape opening
      range.fromStep (openedOver format dataset
        (warehouse.map fun repository => .new repository simulation) opening) := by
  refine ⟨le_refl _, ?_, ?_, ?_, ?_, ?_, ⟨[], rfl, ?_⟩, ?_, Nat.zero_le _⟩
  · rw [Nat.sub_self]
    rfl
  · intro held equal
    obtain ⟨repository, supplied, rfl⟩ := Option.map_eq_some_iff.mp equal
    exact aligned_new (contract repository supplied) simulation range.fromStep
  · exact Option.map_map _ _ _
  · intro group member
    cases member
  · intro held equal group member
    cases member
  · exact (List.append_nil _).symm
  · cases format with
    | json => rfl
    | csv => rfl

theorem sendSome_cases (receiver : Nat → Bool) (sent : List Bytes) (chunk : Option Bytes) :
    sendSome receiver sent chunk = .ok (sent ++ chunk.toList) ∨
      sendSome receiver sent chunk = .error .disconnected := by
  cases chunk with
  | none => exact .inl (congrArg Except.ok (List.append_nil sent).symm)
  | some chunk =>
      unfold sendSome blockingSend
      split_ifs
      · exact .inl rfl
      · exact .inr rfl

theorem produce_opened {stored : Option StoredSteps}
    (prepared : prepare service upstream parameters dataset = .ok (tape, builder))
    (prologue : (Writer.new format dataset).prologue encoders = .ok opening)
    (delivered : sendSome receiver [] opening = .ok opening.toList) :
    produce service upstream options encoders parameters dataset format range receiver stored =
      closeDocument receiver (produceSteps service upstream options encoders parameters range
        receiver tape builder range.steps (openedOver format dataset stored opening)) := by
  unfold produce sendPrologue
  simp only [prepared, prologue, delivered, Except.mapError, bind, Except.bind, pure, Except.pure]
  rfl

theorem produce_refused {stored : Option StoredSteps}
    (prepared : prepare service upstream parameters dataset = .ok (tape, builder))
    (prologue : (Writer.new format dataset).prologue encoders = .ok opening)
    (refused : sendSome receiver [] opening = .error .disconnected) :
    produce service upstream options encoders parameters dataset format range receiver stored =
      { groups := [], reads := readsOf stored, sent := [], result := .ok () } := by
  unfold produce sendPrologue
  simp only [prepared, prologue, refused, Except.mapError, bind, Except.bind]
  rfl

theorem produce_unprepared {stored : Option StoredSteps} {fault : Fault}
    (unprepared : prepare service upstream parameters dataset = .error fault) :
    produce service upstream options encoders parameters dataset format range receiver stored =
      { groups := [], reads := readsOf stored, sent := [], result := .error fault } := by
  unfold produce
  simp only [unprepared]
  rfl

theorem epilogue_eq_ok (writer : Writer) : ∃ closing, writer.epilogue = .ok closing := by
  cases writer with
  | json dataset first => exact ⟨_, rfl⟩
  | csv dataset => exact ⟨_, rfl⟩

theorem closeDocument_eq (last : Producing Chain) (result : Except Halt Unit) :
    (closeDocument receiver (last, result)).groups = last.groups ∧
      (closeDocument receiver (last, result)).reads = readsOf last.stored ∧
      ∃ closing, last.writer.epilogue = .ok closing ∧
        ((result = .ok () ∧ sendSome receiver last.sent closing =
            .ok (closeDocument receiver (last, result)).sent ∧
          (closeDocument receiver (last, result)).result = .ok ()) ∨
        (result = .ok () ∧ sendSome receiver last.sent closing = .error .disconnected ∧
          (closeDocument receiver (last, result)).sent = last.sent ∧
          (closeDocument receiver (last, result)).result = .ok ()) ∨
        ∃ halt, result = .error halt ∧ (closeDocument receiver (last, result)).sent = last.sent ∧
          (closeDocument receiver (last, result)).result = outcome (.error halt)) := by
  obtain ⟨closing, epilogue⟩ := epilogue_eq_ok last.writer
  cases result with
  | error halt => exact ⟨rfl, rfl, closing, epilogue, .inr (.inr ⟨halt, rfl, rfl, rfl⟩)⟩
  | ok done =>
      unfold closeDocument sendEpilogue
      simp only [epilogue, Except.mapError, bind, Except.bind]
      obtain delivered | refused := sendSome_cases receiver last.sent closing
      · rw [delivered]
        exact ⟨rfl, rfl, closing, rfl, .inl ⟨trivial, delivered, rfl⟩⟩
      · rw [refused]
        exact ⟨rfl, rfl, closing, rfl, .inr (.inl ⟨trivial, refused, rfl, rfl⟩)⟩

/-- An export over any warehouse that keeps its promise streams the range. -/
theorem streams_produce (ordered : range.fromStep ≤ range.toStep)
    (contract : ∀ repository, warehouse = some repository → repository.Contract) :
    StreamsTape service upstream options encoders parameters dataset format range receiver
      simulation warehouse
        (exportOver service upstream options encoders parameters dataset format range
        receiver simulation warehouse) := by
  obtain ⟨opening, prologue⟩ := prologue_eq_ok encoders format dataset
  unfold exportOver
  cases prepared : prepare service upstream parameters dataset with
  | error fault =>
      rw [produce_unprepared prepared]
      apply streams_nothing rfl (readsOf_new warehouse simulation) rfl
      intro _ impossible
      cases impossible
  | ok pair =>
      obtain ⟨tape, builder⟩ := pair
      obtain ⟨built, made⟩ := prepare_eq_ok prepared
      obtain delivered | refused := sendSome_cases receiver [] opening
      · rw [produce_opened prepared prologue delivered]
        cases ran : produceSteps service upstream options encoders parameters range receiver tape
            builder range.steps (openedOver format dataset
              (warehouse.map fun repository => .new repository simulation) opening) with
        | mk last result =>
            obtain ⟨stop, within, walking, whole⟩ := walking_of_run built made (by omega)
              (walking_opened contract) ran
            obtain ⟨groups, reads, closing, epilogue, ending⟩ :=
              @closeDocument_eq _ receiver last result
            apply streams_of_walking built prologue within walking groups reads
            · obtain ⟨-, delivered, -⟩ | ⟨-, -, sent, -⟩ | ⟨halt, -, sent, -⟩ := ending
              · exact .inr ⟨closing, epilogue, sendSome_eq_ok delivered⟩
              · exact .inl sent
              · exact .inl sent
            · intro stays succeeded
              obtain ⟨done, delivered, -⟩ | ⟨-, refused, -, -⟩ | ⟨halt, stopped, -, failed⟩ :=
                ending
              · exact ⟨whole done, closing, epilogue, sendSome_eq_ok delivered⟩
              · rw [sendSome_open stays] at refused
                cases refused
              · rw [stopped] at ran
                obtain ⟨fault, rfl⟩ := disconnected_of_run stays ran
                rw [succeeded] at failed
                cases failed
      · rw [produce_refused prepared prologue refused]
        apply streams_nothing rfl (readsOf_new warehouse simulation) rfl
        intro stays
        rw [sendSome_open stays] at refused
        cases refused

/-- What a step needs to complete: its row, and a replay if it finds no record. -/
def Replayable (service : Service) (upstream : Upstream Chain) (tape : FactorTape)
    (builder : Option SeriesBuilder) (step : Nat) : Prop :=
  ∃ row, tape.row step = some row ∧
    ∃ replayed, replayMissing service upstream builder none step = .ok replayed

theorem replayable_of_run (bare : state.stored = none) {steps : List Nat}
    {last : Producing Chain}
    (ran : produceSteps service upstream options encoders parameters range receiver tape builder
      steps state = (last, .ok ())) :
    ∀ step ∈ steps, Replayable service upstream tape builder step := by
  induction steps generalizing state with
  | nil =>
      intro step member
      cases member
  | cons step rest ih =>
      rw [produceSteps] at ran
      cases completed : produceStep service upstream options encoders parameters range receiver
          tape builder step state with
      | error halt =>
          rw [completed] at ran
          cases ran
      | ok next =>
          rw [completed] at ran
          obtain ⟨row, replayed, chunk, stepped⟩ := stepped_of_ok completed
          have missing := stepped.missing
          have stored := stepped.stored
          rw [bare] at missing stored
          rw [List.forall_mem_cons]
          exact ⟨⟨row, stepped.held, replayed, missing⟩, ih stored ran⟩

theorem step_succeeds (encodes : ∀ value, ∃ bytes, encoders.toVec value = .ok bytes)
    (stays : ∀ count, receiver count = true)
    (replayable : Replayable service upstream tape builder step)
    (counting : state.servedFromStorage + 1 < u64Limit) :
    ∃ next, produceStep service upstream options encoders parameters range receiver tape builder
      step state = .ok next := by
  obtain ⟨row, held, replayed, missing⟩ := replayable
  obtain ⟨instead, found⟩ : ∃ instead, replayMissing service upstream builder
      (takeRecord state.stored step range.toStep).1 step = .ok instead := by
    cases (takeRecord state.stored step range.toStep).1 with
    | none => exact ⟨replayed, missing⟩
    | some record => exact ⟨none, by cases builder <;> rfl⟩
  obtain ⟨served, counted⟩ : ∃ served, countServed
      (takeRecord state.stored step range.toStep).1 state.servedFromStorage = .ok served := by
    cases (takeRecord state.stored step range.toStep).1 with
    | none => exact ⟨_, rfl⟩
    | some record =>
        refine ⟨state.servedFromStorage + 1, okOr_eq_ok.mpr ?_⟩
        exact if_pos counting
  obtain ⟨written, rows⟩ := @rows_succeed _ service options encoders parameters encodes
    state.writer ⟨row.step, row, stepChains (takeRecord state.stored step range.toStep).1 instead⟩
  refine ⟨{
    writer := written.2
    stored := (takeRecord state.stored step range.toStep).2
    servedFromStorage := served
    groups := state.groups ++ [⟨row.step, row,
      stepChains (takeRecord state.stored step range.toStep).1 instead⟩]
    sent := state.sent ++ (if written.1.isEmpty then none else some written.1).toList }, ?_⟩
  apply bind_eq_ok.mpr
  refine ⟨row, mapError_eq_ok.mpr (okOr_eq_ok.mpr held), bind_eq_ok.mpr ⟨instead,
    mapError_eq_ok.mpr found, bind_eq_ok.mpr ⟨served, mapError_eq_ok.mpr counted, ?_⟩⟩⟩
  exact bind_eq_ok.mpr ⟨written, mapError_eq_ok.mpr rows,
    bind_eq_ok.mpr ⟨_, sendSome_open stays, rfl⟩⟩

theorem run_succeeds
    (built : FactorTape.build service upstream parameters parameters.method = .ok tape)
    (prepared : Prepared service parameters dataset tape builder)
    (encodes : ∀ value, ∃ bytes, encoders.toVec value = .ok bytes)
    (stays : ∀ count, receiver count = true)
    (small : range.toStep - range.fromStep + 1 < u64Limit) {count : Nat}
    (within : step + count = range.toStep + 1)
    (replayable : ∀ other ∈ List.range' step count,
      Replayable service upstream tape builder other)
    (walking : Walking service upstream options encoders parameters dataset format range
      warehouse simulation tape opening step state) :
    ∃ last, produceSteps service upstream options encoders parameters range receiver tape builder
      (List.range' step count) state = (last, .ok ()) := by
  induction count generalizing step state with
  | zero => exact ⟨state, rfl⟩
  | succ count ih =>
      rw [List.range'_succ, List.forall_mem_cons] at replayable
      have started := walking.started
      have served := walking.served
      obtain ⟨next, completed⟩ := @step_succeeds _ service upstream options encoders parameters
        range receiver tape builder step state encodes stays replayable.1 (by omega)
      rw [List.range'_succ, produceSteps, completed]
      exact ih (by omega) replayable.2 (walking_of_step built prepared (by omega) walking completed)

/-- A warehouse makes no export fail that replay alone completes. -/
theorem produce_succeeds (ordered : range.fromStep ≤ range.toStep)
    (small : range.toStep - range.fromStep + 1 < u64Limit)
    (encodes : ∀ value, ∃ bytes, encoders.toVec value = .ok bytes)
    (stays : ∀ count, receiver count = true)
    (contract : ∀ repository, warehouse = some repository → repository.Contract)
    (replays : (exportOver service upstream options encoders parameters dataset format range
      receiver simulation none).result = .ok ()) :
    (exportOver service upstream options encoders parameters dataset format range receiver
      simulation warehouse).result = .ok () := by
  obtain ⟨opening, prologue⟩ := prologue_eq_ok encoders format dataset
  unfold exportOver at replays ⊢
  cases prepared : prepare service upstream parameters dataset with
  | error fault =>
      rw [produce_unprepared prepared] at replays
      cases replays
  | ok pair =>
      obtain ⟨tape, builder⟩ := pair
      obtain ⟨built, made⟩ := prepare_eq_ok prepared
      have delivered : sendSome receiver [] opening = .ok opening.toList := sendSome_open stays
      rw [produce_opened prepared prologue delivered] at replays ⊢
      cases ran : produceSteps service upstream options encoders parameters range receiver tape
          builder range.steps (openedOver format dataset none opening) with
      | mk last result =>
          rw [Option.map_none, ran] at replays
          cases result with
          | error halt =>
              obtain ⟨fault, rfl⟩ := disconnected_of_run stays ran
              cases replays
          | ok done =>
              obtain ⟨walked, succeeded⟩ := @run_succeeds _ service upstream options encoders
                parameters dataset format range receiver tape builder opening range.fromStep
                (openedOver format dataset
                  (warehouse.map fun repository => .new repository simulation) opening)
                warehouse simulation built made encodes stays small
                  (range.toStep + 1 - range.fromStep) (by omega)
                (replayable_of_run rfl ran) (walking_opened contract)
              rw [StepRange.steps, succeeded]
              obtain ⟨-, -, closing, -, ending⟩ := @closeDocument_eq _ receiver walked (.ok ())
              obtain ⟨-, -, ok⟩ | ⟨-, -, -, ok⟩ | ⟨halt, impossible, -⟩ := ending
              · exact ok
              · exact ok
              · cases impossible

/-- The last part of a step: its rows, encoded and sent. -/
def emission (service : Service) (options : Chain → List OptionData) (encoders : Encoders)
    (parameters : SimulationParametersV2) (receiver : Nat → Bool) (writer : Writer)
    (sent : List Bytes) (row : FactorRow) (chains : Option (StepChains Chain)) :
    Except Halt (Writer × List Bytes) := do
  let written ← (writer.rows options service.numerics encoders parameters row.step row
    chains).mapError fun error => Halt.failed (.error error)
  let sent ← sendSome receiver sent (if written.1.isEmpty then none else some written.1)
  return (written.2, sent)

theorem step_emits {row : FactorRow} {replayed : Option (SeriesSnapshot Chain)} {served : Nat}
    (held : tape.row step = some row)
    (missing : replayMissing service upstream builder
      (takeRecord state.stored step range.toStep).1 step = .ok replayed)
    (counted : countServed (takeRecord state.stored step range.toStep).1
      state.servedFromStorage = .ok served) :
    produceStep service upstream options encoders parameters range receiver tape builder step
        state =
      (fun emitted => {
        writer := emitted.1
        stored := (takeRecord state.stored step range.toStep).2
        servedFromStorage := served
        groups := state.groups ++ [⟨row.step, row,
          stepChains (takeRecord state.stored step range.toStep).1 replayed⟩]
        sent := emitted.2 }) <$>
        emission service options encoders parameters receiver state.writer state.sent row
          (stepChains (takeRecord state.stored step range.toStep).1 replayed) := by
  unfold produceStep emission
  simp only [held, missing, counted, okOr, Except.mapError, bind, Except.bind, pure, Except.pure]
  cases state.writer.rows options service.numerics encoders parameters row.step row
      (stepChains (takeRecord state.stored step range.toStep).1 replayed) with
  | error error => rfl
  | ok written =>
      simp only
      cases sendSome receiver state.sent (if written.1.isEmpty then none else some written.1) with
      | error halt => rfl
      | ok sent => rfl

theorem step_unrowed (absent : tape.row step = none) (state : Producing Chain) :
    produceStep service upstream options encoders parameters range receiver tape builder step
        state =
      .error (.failed (.error (.internal s!"the tape has no row at step {step}"))) := by
  unfold produceStep
  rw [absent]
  rfl

theorem step_unreplayed {row : FactorRow} {fault : Fault} (held : tape.row step = some row)
    (failed : replayMissing service upstream builder
      (takeRecord state.stored step range.toStep).1 step = .error fault) :
    produceStep service upstream options encoders parameters range receiver tape builder step
        state = .error (.failed fault) := by
  unfold produceStep
  simp only [held, failed, okOr, Except.mapError, bind, Except.bind]

/-- Two producers that have sent the same and will write alike. -/
structure SameOutput (left right : Producing Chain) : Prop where
  writer : left.writer = right.writer
  sent : left.sent = right.sent

/-- What two producers do that do the same: both go on alike, or both stop alike. -/
inductive SameStep : Except Halt (Producing Chain) → Except Halt (Producing Chain) → Prop where
  | completed {next other : Producing Chain} : SameOutput next other → other.stored = none →
      SameStep (.ok next) (.ok other)
  | halted (halt : Halt) : SameStep (.error halt) (.error halt)

theorem sameStep_map {emitted : Except Halt (Writer × List Bytes)}
    {next other : Writer × List Bytes → Producing Chain}
    (same : ∀ result, SameOutput (next result) (other result))
    (bare : ∀ result, (other result).stored = none) :
    SameStep (next <$> emitted) (other <$> emitted) := by
  cases emitted with
  | error halt => exact .halted halt
  | ok result => exact .completed (same result) (bare result)

theorem step_same (prepared : Prepared service parameters dataset tape builder)
    {left right : Producing Chain} (same : SameOutput left right) (bare : right.stored = none)
    (wrote : left.writer.dataset = dataset)
    (counting : left.servedFromStorage + 1 < u64Limit)
    (replays : ∀ record, (takeRecord left.stored step range.toStep).1 = some record →
      ∃ simulation snapshot, snapshotOver service upstream parameters tape step = .ok snapshot ∧
        record = snapshotRecord options simulation parameters.symbol snapshot) :
    SameStep
      (produceStep service upstream options encoders parameters range receiver tape builder step
        left)
      (produceStep service upstream options encoders parameters range receiver tape builder step
        right) := by
  have taken : takeRecord right.stored step range.toStep = (none, none) := by
    rw [bare]
    rfl
  cases held : tape.row step with
  | none =>
      rw [step_unrowed held, step_unrowed held]
      exact .halted _
  | some row =>
      -- Every way to complete ends in the same emission, given rows that agree.
      have alike : ∀ (mine yours : Option (SeriesSnapshot Chain)) {served : Nat},
          replayMissing service upstream builder (takeRecord left.stored step range.toStep).1 step =
            .ok mine →
          replayMissing service upstream builder none step = .ok yours →
          countServed (takeRecord left.stored step range.toStep).1 left.servedFromStorage =
            .ok served →
          left.writer.rows options service.numerics encoders parameters row.step row
              (stepChains (takeRecord left.stored step range.toStep).1 mine) =
            left.writer.rows options service.numerics encoders parameters row.step row
              (stepChains none yours) →
          SameStep
            (produceStep service upstream options encoders parameters range receiver tape builder
              step left)
            (produceStep service upstream options encoders parameters range receiver tape builder
              step right) := by
        intro mine yours served missing replayed counted rows
        have replayedRight : replayMissing service upstream builder
            (takeRecord right.stored step range.toStep).1 step = .ok yours := by
          rw [taken]
          exact replayed
        have countedRight : countServed (takeRecord right.stored step range.toStep).1
            right.servedFromStorage = .ok right.servedFromStorage := by
          rw [taken]
          rfl
        have emitted : emission service options encoders parameters receiver right.writer right.sent
            row (stepChains (takeRecord right.stored step range.toStep).1 yours) =
            emission service options encoders parameters receiver left.writer left.sent row
              (stepChains (takeRecord left.stored step range.toStep).1 mine) := by
          unfold emission
          rw [taken, ← same.writer, ← same.sent, rows]
        rw [step_emits held missing counted, step_emits held replayedRight countedRight, emitted]
        apply sameStep_map
        · intro result
          exact ⟨rfl, rfl⟩
        · intro result
          exact congrArg Prod.snd taken
      cases found : (takeRecord left.stored step range.toStep).1 with
      | none =>
          rw [found] at alike
          cases missing : replayMissing service upstream builder none step with
          | error fault =>
              have failed : replayMissing service upstream builder
                  (takeRecord right.stored step range.toStep).1 step = .error fault := by
                rw [taken]
                exact missing
              rw [step_unreplayed held (found.symm ▸ missing), step_unreplayed held failed]
              exact .halted _
          | ok replayed => exact alike replayed replayed missing missing rfl rfl
      | some record =>
          obtain ⟨simulation, snapshot, snapshotBuilt, rfl⟩ := replays record found
          rw [found] at alike
          have counted : countServed
              (some (snapshotRecord options simulation parameters.symbol snapshot))
              left.servedFromStorage = .ok (left.servedFromStorage + 1) :=
            okOr_eq_ok.mpr (if_pos counting)
          cases builder with
          | none =>
              apply alike none none rfl rfl counted
              exact rows_without_chains (wrote.symm ▸ prepared) _ _ _ _
          | some made =>
              rw [snapshotOver_eq prepared.2] at snapshotBuilt
              have replayed : replayMissing service upstream (some made) none step =
                  .ok (some snapshot) := map_eq_ok.mpr ⟨snapshot, snapshotBuilt, rfl⟩
              apply alike none (some snapshot) rfl replayed counted
              exact rows_snapshotRecord left.writer row.step row simulation parameters.symbol
                snapshot

theorem servedRecord_eq_some {reads : List RangeRead} {record : SnapshotRecord}
    (served : servedRecord reads step = some record) :
    record.step = step ∧ ∃ read ∈ reads, ∃ records, read.answer = .ok records ∧
      record ∈ records := by
  obtain ⟨read, member, found⟩ := List.exists_of_findSome?_eq_some served
  have here := List.find?_some found
  have listed := List.mem_of_find?_eq_some found
  refine ⟨of_decide_eq_true here, read, member, ?_⟩
  unfold RangeRead.records at listed
  cases answered : read.answer with
  | error error =>
      rw [answered] at listed
      cases listed
  | ok records =>
      rw [answered] at listed
      exact ⟨records, rfl, listed⟩

/-- The warehouse a producer reads holds nothing but replays. -/
def ReadsReplays (service : Service) (upstream : Upstream Chain)
    (options : Chain → List OptionData) (parameters : SimulationParametersV2)
    (stored : Option StoredSteps) : Prop :=
  ∀ held, stored = some held →
    held.repository.Replays service upstream options parameters held.simulation

theorem replayed_of_take
    (built : FactorTape.build service upstream parameters parameters.method = .ok tape)
    {stored : Option StoredSteps} {last : Nat}
    (aligned : ∀ held, stored = some held → held.Aligned step) (within : step ≤ last)
    (faithful : ReadsReplays service upstream options parameters stored) :
    ReadsReplays service upstream options parameters (takeRecord stored step last).2 ∧
      ∀ record, (takeRecord stored step last).1 = some record →
        ∃ simulation snapshot, snapshotOver service upstream parameters tape step = .ok snapshot ∧
          record = snapshotRecord options simulation parameters.symbol snapshot := by
  cases stored with
  | none =>
      refine ⟨?_, ?_⟩
      · intro held impossible
        cases impossible
      · intro record impossible
        cases impossible
  | some held =>
      obtain ⟨taken, after, advanced, -⟩ := take_spec (aligned held rfl) within
      have replays : (held.take step last).2.repository.Replays service upstream options parameters
          (held.take step last).2.simulation := by
        rw [advanced.repository, advanced.simulation]
        exact faithful held rfl
      refine ⟨?_, ?_⟩
      · intro next equal
        cases equal
        exact replays
      · intro record found
        rw [show (takeRecord (some held) step last).1 = (held.take step last).1 from rfl,
          taken] at found
        obtain ⟨rfl, read, member, records, answered, listed⟩ := servedRecord_eq_some found
        obtain ⟨earlier, asked⟩ := after.answers read member
        obtain ⟨otherTape, snapshot, otherBuilt, snapshotBuilt, equal⟩ :=
          replays earlier read.fromStep read.toStep records
            (asked.symm.trans answered) record listed
        rw [built] at otherBuilt
        cases otherBuilt
        exact ⟨_, snapshot, snapshotBuilt, equal⟩

theorem run_same
    (built : FactorTape.build service upstream parameters parameters.method = .ok tape)
    (prepared : Prepared service parameters dataset tape builder)
    (small : range.toStep - range.fromStep + 1 < u64Limit) {count : Nat}
    (within : step + count = range.toStep + 1) {left right : Producing Chain}
    (walking : Walking service upstream options encoders parameters dataset format range
      warehouse simulation tape opening step left)
    (faithful : ReadsReplays service upstream options parameters left.stored)
    (same : SameOutput left right) (bare : right.stored = none) :
    SameOutput
        (produceSteps service upstream options encoders parameters range receiver tape builder
          (List.range' step count) left).1
        (produceSteps service upstream options encoders parameters range receiver tape builder
          (List.range' step count) right).1 ∧
      (produceSteps service upstream options encoders parameters range receiver tape builder
          (List.range' step count) left).2 =
        (produceSteps service upstream options encoders parameters range receiver tape builder
          (List.range' step count) right).2 := by
  induction count generalizing step left right with
  | zero => exact ⟨same, rfl⟩
  | succ count ih =>
      have started := walking.started
      have served := walking.served
      obtain ⟨stillFaithful, replays⟩ := replayed_of_take built walking.stored
        (show step ≤ range.toStep by omega) faithful
      have alike := @step_same _ service upstream options encoders parameters dataset range receiver
        tape builder step prepared left right same bare walking.dataset (by omega) replays
      rw [List.range'_succ, produceSteps, produceSteps]
      cases completed : produceStep service upstream options encoders parameters range receiver
          tape builder step left with
      | error halt =>
          rw [completed] at alike
          cases other : produceStep service upstream options encoders parameters range receiver
              tape builder step right with
          | ok next =>
              rw [other] at alike
              cases alike
          | error otherHalt =>
              rw [other] at alike
              cases alike
              exact ⟨same, rfl⟩
      | ok next =>
          rw [completed] at alike
          cases other : produceStep service upstream options encoders parameters range receiver
              tape builder step right with
          | error halt =>
              rw [other] at alike
              cases alike
          | ok otherNext =>
              rw [other] at alike
              cases alike with
              | completed after bareAfter =>
                  obtain ⟨row, replayed, chunk, stepped⟩ := stepped_of_ok completed
                  rw [← stepped.stored] at stillFaithful
                  exact ih (by omega)
                    (walking_of_step built prepared (by omega) walking completed) stillFaithful
                    after bareAfter

theorem closeDocument_congr {left right : Producing Chain} (same : SameOutput left right)
    (result : Except Halt Unit) :
    (closeDocument receiver (left, result)).sent = (closeDocument receiver (right, result)).sent ∧
      (closeDocument receiver (left, result)).result =
        (closeDocument receiver (right, result)).result := by
  cases result with
  | error halt => exact ⟨same.sent, rfl⟩
  | ok done =>
      unfold closeDocument sendEpilogue
      obtain ⟨closing, epilogue⟩ := epilogue_eq_ok right.writer
      simp only [same.writer, same.sent, epilogue, Except.mapError, bind, Except.bind]
      cases sendSome receiver right.sent closing with
      | error halt => exact ⟨same.sent, rfl⟩
      | ok sent => exact ⟨rfl, rfl⟩

/-- A warehouse that holds nothing but replays changes no byte. -/
theorem produce_same (ordered : range.fromStep ≤ range.toStep)
    (small : range.toStep - range.fromStep + 1 < u64Limit)
    (contract : ∀ repository, warehouse = some repository → repository.Contract)
    (replays : ∀ repository, warehouse = some repository →
      repository.Replays service upstream options parameters simulation) :
    (exportOver service upstream options encoders parameters dataset format range receiver
        simulation warehouse).sent =
      (exportOver service upstream options encoders parameters dataset format range receiver
        simulation none).sent ∧
    (exportOver service upstream options encoders parameters dataset format range receiver
        simulation warehouse).result =
      (exportOver service upstream options encoders parameters dataset format range receiver
        simulation none).result := by
  obtain ⟨opening, prologue⟩ := prologue_eq_ok encoders format dataset
  unfold exportOver
  cases prepared : prepare service upstream parameters dataset with
  | error fault =>
      rw [produce_unprepared prepared, produce_unprepared prepared]
      exact ⟨rfl, rfl⟩
  | ok pair =>
      obtain ⟨tape, builder⟩ := pair
      obtain ⟨built, made⟩ := prepare_eq_ok prepared
      obtain delivered | refused := sendSome_cases receiver [] opening
      · rw [produce_opened prepared prologue delivered, produce_opened prepared prologue delivered]
        have faithful : ReadsReplays service upstream options parameters
            (warehouse.map fun repository => StoredSteps.new repository simulation) := by
          intro held equal
          obtain ⟨repository, supplied, rfl⟩ := Option.map_eq_some_iff.mp equal
          exact replays repository supplied
        obtain ⟨same, ended⟩ := @run_same _ service upstream options encoders parameters dataset
          format range receiver tape builder opening range.fromStep warehouse simulation built
          made small
          (range.toStep + 1 - range.fromStep) (by omega) _
          (openedOver format dataset none opening) (walking_opened contract) faithful
          ⟨rfl, rfl⟩ rfl
        unfold StepRange.steps
        cases ran : produceSteps service upstream options encoders parameters range receiver tape
            builder (List.range' range.fromStep (range.toStep + 1 - range.fromStep))
            (openedOver format dataset (warehouse.map fun repository => .new repository simulation)
              opening) with
        | mk last result =>
            cases bareRan : produceSteps service upstream options encoders parameters range
                receiver tape builder
                (List.range' range.fromStep (range.toStep + 1 - range.fromStep))
                (openedOver format dataset none opening) with
            | mk bareLast bareResult =>
                rw [ran, bareRan] at same ended
                change result = bareResult at ended
                rw [Option.map_none, bareRan, ended]
                exact closeDocument_congr same bareResult
      · rw [produce_refused prepared prologue refused, produce_refused prepared prologue refused]
        exact ⟨rfl, rfl⟩

end Walk

section Promises

variable {Chain : Type} {service : Service} {upstream : Upstream Chain}
  {options : Chain → List OptionData} {encoders : Encoders}
  {parameters : SimulationParametersV2} {dataset : Dataset} {format : Format}
  {range : StepRange} {receiver : Nat → Bool} {simulation : Uuid}
  {warehouse : Option SnapshotReads} {run : ExportRun Chain}

theorem expiresAt_of_buildExpiryChain {builder : SeriesBuilder} {row : FactorRow}
    {expiry : Expiry.ActiveExpiry} {chain : ExpiryChain Chain}
    (built : builder.buildExpiryChain upstream row expiry = .ok chain) :
    chain.expiresAt = expiry.expiresAt := by
  obtain ⟨days, -, rest⟩ := bind_eq_ok.mp built
  obtain ⟨daysToExpiration, -, rest⟩ := bind_eq_ok.mp rest
  obtain ⟨priced, -, kept⟩ := bind_eq_ok.mp rest
  cases kept
  rfl

theorem expirations_ascending_of_snapshot {tape : FactorTape} {step : Nat}
    {snapshot : SeriesSnapshot Chain}
    (built : snapshotOver service upstream parameters tape step = .ok snapshot) :
    snapshot.chains.Pairwise fun left right => left.expiresAt < right.expiresAt := by
  unfold snapshotOver SeriesBuilder.snapshot at built
  obtain ⟨builder, -, rest⟩ := bind_eq_ok.mp built
  obtain ⟨row, -, rest⟩ := bind_eq_ok.mp rest
  obtain ⟨active, listed, rest⟩ := bind_eq_ok.mp rest
  obtain ⟨chains, chained, kept⟩ := bind_eq_ok.mp rest
  cases kept
  obtain ⟨sorted, -⟩ := Expiry.RollingPlanner.activeAt_eq_ok listed
  have instants : active.map Expiry.ActiveExpiry.expiresAt = chains.map ExpiryChain.expiresAt := by
    apply List.forall₂_eq_eq_eq ▸ List.forall₂_map_left_iff.mpr (List.forall₂_map_right_iff.mpr _)
    apply (mapM_eq_ok.mp (lift_eq_ok.mp chained)).imp
    intro expiry chain converted
    exact (expiresAt_of_buildExpiryChain converted).symm
  rw [instants] at sorted
  exact List.pairwise_map.mp sorted

/-- The groups of an export are in order, where chains list their options by strike and the
records of the warehouse pass their check. -/
theorem StreamsTape.groupsAscending
    (streams : StreamsTape service upstream options encoders parameters dataset format range
      receiver simulation warehouse run)
    (byStrike : ∀ chain, (options chain).Pairwise fun left right =>
      left.strikePrice.value < right.strikePrice.value)
    (checked : ∀ repository, warehouse = some repository →
      ∀ {earlier simulation generation fromStep toStep records},
        repository.readRange earlier simulation generation fromStep toStep = .ok records →
          ∀ record ∈ records, record.Ascending) :
    GroupsAscending options run.groups := by
  refine ⟨?_, ?_⟩
  · have sorted : range.steps.Pairwise (· < ·) := List.pairwise_lt_range'
    exact List.pairwise_map.mp (sorted.sublist streams.steps.sublist)
  · intro group member chains held
    obtain ⟨tape, built, sourced⟩ := streams.sourced group member
    cases served : servedRecord run.reads group.step with
    | some record =>
        rw [sourced.stored record served] at held
        cases held
        obtain ⟨-, read, listed, records, answer, inside⟩ := servedRecord_eq_some served
        obtain ⟨repository, supplied, earlier, asked⟩ := streams.answered read listed
        exact checked repository supplied (asked.symm.trans answer) record inside
    | none =>
        cases needs : dataset.needsChains with
        | false =>
            rw [sourced.bare served needs] at held
            cases held
        | true =>
            obtain ⟨snapshot, snapshotBuilt, same⟩ := sourced.replayed served needs
            rw [same] at held
            cases held
            exact ⟨expirations_ascending_of_snapshot snapshotBuilt,
              fun chain _ => byStrike chain.chain⟩

/-- An accepted range is streamed whole whatever the warehouse does: nothing it answers makes
an export fail, and where it holds nothing but replays it changes no byte. -/
theorem export_streams_tape {query : ExportQuery} {maxRows : Nat}
    (accepted : StepRange.resolve query parameters.steps maxRows = .ok range)
    (contract : ∀ repository, warehouse = some repository → repository.Contract) :
    StreamsTape service upstream options encoders parameters dataset format range receiver
        simulation warehouse (exportOver service upstream options encoders parameters dataset
          format range receiver simulation warehouse) ∧
      ((∀ value, ∃ bytes, encoders.toVec value = .ok bytes) →
        (∀ count, receiver count = true) →
        (exportOver service upstream options encoders parameters dataset format range receiver
          simulation none).result = .ok () →
        (exportOver service upstream options encoders parameters dataset format range receiver
          simulation warehouse).result = .ok ()) ∧
      ((∀ repository, warehouse = some repository →
          repository.Replays service upstream options parameters simulation) →
        (exportOver service upstream options encoders parameters dataset format range receiver
            simulation warehouse).sent =
          (exportOver service upstream options encoders parameters dataset format range receiver
            simulation none).sent ∧
        (exportOver service upstream options encoders parameters dataset format range receiver
            simulation warehouse).result =
          (exportOver service upstream options encoders parameters dataset format range receiver
            simulation none).result) := by
  obtain ⟨ordered, -, small, -⟩ := resolve_eq_ok accepted
  refine ⟨streams_produce ordered contract, ?_, produce_same ordered small contract⟩
  intro encodes stays replays
  exact produce_succeeds ordered small encodes stays contract replays

end Promises

/-! ### Two steps, of which the warehouse holds the second -/

def secondStep : SnapshotRecord where
  simulation := someId
  generation := currentSnapshotGeneration
  step := 1
  simulatedAt := Domain.Expiry.thursdayNoon
  symbol := "SPX"
  spot := .one
  baseVolatility := .one
  expirations := []

/-- A warehouse that refuses a window of more than one step. -/
def oneStepReads : SnapshotReads where
  readRange _ _ _ fromStep toStep :=
    if fromStep < toStep then .error (.validation "range" "too wide")
    else if fromStep = 1 ∧ toStep = 1 then .ok [secondStep] else .ok []

theorem oneStepReads_contract : oneStepReads.Contract where
  within answered := by
    simp only [oneStepReads] at answered
    split_ifs at answered with wide second
    · cases answered
      intro record listed
      obtain rfl := List.mem_singleton.mp listed
      exact ⟨second.1.le, second.2.ge⟩
    · cases answered
      intro record listed
      cases listed
  ascending answered := by
    simp only [oneStepReads] at answered
    split_ifs at answered
    · cases answered
      exact List.pairwise_singleton _ _
    · cases answered
      exact .nil

theorem export_streams_tape_two_steps :
    StreamsTape exportService flatUpstream (fun _ : Unit => []) thursdayEncoders twoSteps
        .optionChains .csv ⟨0, 1⟩ (fun _ => true) someId (some oneStepReads)
        (exportOver exportService flatUpstream (fun _ => []) thursdayEncoders twoSteps
          .optionChains .csv ⟨0, 1⟩ (fun _ => true) someId (some oneStepReads)) ∧
      (exportOver exportService flatUpstream (fun _ : Unit => []) thursdayEncoders twoSteps
        .optionChains .csv ⟨0, 1⟩ (fun _ => true) someId (some oneStepReads)).result = .ok () := by
  have contract : ∀ repository, some oneStepReads = some repository → repository.Contract := by
    intro repository supplied
    cases supplied
    exact oneStepReads_contract
  have accepted : StepRange.resolve ⟨.optionChains, .csv, none, none⟩ twoSteps.steps 10 =
      .ok ⟨0, 1⟩ := by
    decide +kernel
  obtain ⟨streams, completes, -⟩ := @export_streams_tape Unit exportService flatUpstream
    (fun _ => []) thursdayEncoders twoSteps .optionChains .csv ⟨0, 1⟩ (fun _ => true) someId
    (some oneStepReads) _ 10 accepted contract
  exact ⟨streams, completes (fun _ => ⟨_, rfl⟩) (fun _ => rfl) (by decide +kernel)⟩

end OptionChainSimulator.Api
