import Mathlib.Tactic
import OptionChainSimulator.Api.ExportStream
import OptionChainSimulator.Infrastructure.Snapshots.ExactReads
import OptionChainSimulator.Session.FiledRecords
import OptionChainSimulator.Session.LongerHorizon

namespace OptionChainSimulator.Api

open Foundation Foundation.Protocol Utils Domain Session Infrastructure

/-! From an advance through the queue and the tables into an export. -/

section Statement

variable {Chain : Type} (runtime : Runtime Chain) (store : SimulationStore)
  (options : Chain → List OptionData) (config : SnapshotPersistenceConfig) (crates : ColumnCrates)
  (numerics : Numerics) (actions : List SimulationAction) (filing : List (FilingAction Chain))
  (writing : List WarehouseAction)

/-- Only what the advances of a run served is filed, and only what the writer received is
persisted. Each run may interleave with the others in any way. -/
structure FedByAdvances : Prop where
  filed : ∀ call served, .call call (.request served) ∈ filing → ∃ reached,
    (managerCalls runtime store).Visits ((managerCalls runtime store).start (.new runtime store))
      actions reached ∧ AdvanceServed reached served
  persisted : ∀ call record, .call call (.request (.persist record)) ∈ writing → ∃ reached,
    (filings runtime.upstream options).Visits ((filings runtime.upstream options).start .empty)
      filing reached ∧ reached.shared.writing = some record

/-- The instants are not of leap seconds, and every expiration has a quote. -/
structure Storable (record : SnapshotRecord) : Prop where
  outside : ¬ record.simulatedAt.time.InLeapSecond
  rebuilt : ∀ expiration ∈ record.expirations, expiration.Rebuilt

instance (record : SnapshotRecord) : Decidable (Storable record) :=
  decidable_of_iff (¬ record.simulatedAt.time.InLeapSecond ∧
      ∀ expiration ∈ record.expirations,
        expiration.quotes ≠ [] ∧ ¬ expiration.expiresAt.time.InLeapSecond)
    ⟨fun both => ⟨both.1, fun expiration member =>
        ⟨(both.2 expiration member).1, (both.2 expiration member).2⟩⟩,
      fun storable => ⟨storable.outside, fun expiration member =>
        ⟨(storable.rebuilt expiration member).quoted,
          (storable.rebuilt expiration member).outside⟩⟩⟩

/-- Every answer of the repository is the one of a range read at some moment of the run. -/
def SnapshotReads.ReadsFrom (repository : SnapshotReads) : Prop :=
  ∀ {earlier simulation generation fromStep toStep records},
    repository.readRange earlier simulation generation fromStep toStep = .ok records →
    ∃ reached call before,
      (ClickHouseSnapshotRepository.calls config crates numerics).Visits
        ((ClickHouseSnapshotRepository.calls config crates numerics).start .empty) writing reached ∧
      reached.calls call =
        .active (.ranged simulation generation fromStep toStep before (.ok records))

end Statement

section Fed

variable {Chain : Type} {runtime : Runtime Chain} {store : SimulationStore}
  {options : Chain → List OptionData} {config : SnapshotPersistenceConfig} {crates : ColumnCrates}
  {numerics : Numerics} {actions : List SimulationAction} {filing : List (FilingAction Chain)}
  {writing : List WarehouseAction} {last : SimulationConfig Chain store}
  {repository : SnapshotReads} {simulation : Uuid} {parameters : SimulationParametersV2}

theorem replayed_of_fed (atomic : store.Atomic runtime.service)
    (ran : (managerCalls runtime store).run
      ((managerCalls runtime store).start (.new runtime store)) actions = some last)
    (fed : FedByAdvances runtime store options actions filing writing) :
    ∀ call record, .call call (.request (.persist record)) ∈ writing →
      Replayed runtime options last.shared.ledger.created record := by
  intro call record member
  obtain ⟨reached, visited, received⟩ := fed.persisted call record member
  apply DeliversInOrder.writing (delivers_of_visit _ visited) received
  intro index served asked
  obtain ⟨moment, passed, serving⟩ := fed.filed index served asked
  exact replayed_of_served atomic ran passed serving

theorem catalogued_of_replayed {created : Uuid → Option SimulationParametersV2} :
    ClickHouseSnapshotRepository.Catalogued fun record =>
      Replayed runtime options created record ∧ Storable record where
  unique left right same := left.1.unique right.1 same
  outside held := held.2.outside
  rebuilt held := held.2.rebuilt

/-- What the repository reads are replays, in the range and in order. -/
theorem replays_of_fed (atomic : store.Atomic runtime.service) (accepts : crates.Accepts)
    (ran : (managerCalls runtime store).run
      ((managerCalls runtime store).start (.new runtime store)) actions = some last)
    (owned : last.shared.ledger.created simulation = some parameters)
    (fed : FedByAdvances runtime store options actions filing writing)
    (storable : ∀ call record, .call call (.request (.persist record)) ∈ writing → Storable record)
    (reads : repository.ReadsFrom config crates numerics writing) :
    repository.Contract ∧
      repository.Replays runtime.service runtime.upstream options parameters simulation := by
  have persisted : ∀ call record, .call call (.request (.persist record)) ∈ writing →
      Replayed runtime options last.shared.ledger.created record ∧ Storable record :=
    fun call record member =>
      ⟨replayed_of_fed atomic ran fed call record member, storable call record member⟩
  refine ⟨⟨?_, ?_⟩, ?_⟩
  · intro earlier simulation generation fromStep toStep records answered
    obtain ⟨reached, call, before, visited, read⟩ := reads answered
    exact (ClickHouseSnapshotRepository.reads_held accepts catalogued_of_replayed persisted visited
      read).2.1
  · intro earlier simulation generation fromStep toStep records answered
    obtain ⟨reached, call, before, visited, read⟩ := reads answered
    apply List.Pairwise.imp Nat.le_of_lt
    exact (ClickHouseSnapshotRepository.reads_held accepts catalogued_of_replayed persisted visited
      read).2.2
  · intro earlier fromStep toStep records answered record member
    obtain ⟨reached, call, before, visited, read⟩ := reads answered
    obtain ⟨held, -⟩ := ClickHouseSnapshotRepository.reads_held accepts catalogued_of_replayed
      persisted visited read
    obtain ⟨⟨⟨own, snapshot, created, priced, equal⟩, -⟩, named⟩ := held record member
    rw [named, owned] at created
    cases created
    obtain ⟨tape, built, shown⟩ := freshSnapshot_eq_ok.mp priced
    rw [named] at equal
    exact ⟨tape, snapshot, build_eq_ok.mp built, shown, equal⟩

variable {encoders : Encoders} {dataset : Dataset} {format : Format} {range : StepRange}
  {receiver : Nat → Bool} {query : ExportQuery} {maxRows step : Nat}
  {snapshot : SeriesSnapshot Chain} {warehouse : Option SnapshotReads}

/-- The group is the row and the chains of the snapshot, whichever way its chains came. -/
structure StepGroup.Shows (options : Chain → List OptionData) (simulation : Uuid)
    (symbol : String) (dataset : Dataset) (snapshot : SeriesSnapshot Chain)
    (group : StepGroup Chain) : Prop where
  simulatedAt : group.row.simulatedAt = snapshot.simulatedAt
  spot : group.row.spot = snapshot.spot
  baseVolatility : group.row.baseVolatility = snapshot.baseVolatility
  chains : ∀ chains, group.chains = some chains →
    chains = .replayed snapshot ∨
      chains = .stored (snapshotRecord options simulation symbol snapshot)
  present : dataset.needsChains = true → group.chains ≠ none

theorem row_of_shown {tape : FactorTape} {row : FactorRow} (present : tape.row step = some row)
    (shown : snapshotOver runtime.service runtime.upstream parameters tape step = .ok snapshot) :
    row.simulatedAt = snapshot.simulatedAt ∧ row.spot = snapshot.spot ∧
      row.baseVolatility = snapshot.baseVolatility := by
  unfold snapshotOver SeriesBuilder.snapshot at shown
  simp only [bind_eq_ok, lift_eq_ok, okOr_eq_ok, SeriesBuilder.new, pure, Except.pure] at shown
  obtain ⟨builder, ⟨_, -, made⟩, found, located, active, -, chains, -, kept⟩ := shown
  cases made
  cases kept
  cases present.symm.trans located
  exact ⟨rfl, rfl, rfl⟩

theorem shows_of_sourced {tape : FactorTape} {reads : List RangeRead} {group : StepGroup Chain}
    (priced : runtime.freshSnapshot parameters group.step = .ok snapshot)
    (built : FactorTape.build runtime.service runtime.upstream parameters parameters.method =
      .ok tape)
    (sourced : group.Sourced runtime.service runtime.upstream parameters dataset tape reads)
    (stored : ∀ record, servedRecord reads group.step = some record →
      record = snapshotRecord options simulation parameters.symbol snapshot) :
    group.Shows options simulation parameters.symbol dataset snapshot := by
  obtain ⟨own, ownBuilt, shown⟩ := freshSnapshot_eq_ok.mp priced
  rw [build_eq_ok, built] at ownBuilt
  cases ownBuilt
  obtain ⟨simulatedAt, spot, baseVolatility⟩ := row_of_shown sourced.row shown
  cases served : servedRecord reads group.step with
  | some record =>
      have chains := sourced.stored record served
      refine ⟨simulatedAt, spot, baseVolatility, ?_, ?_⟩
      · intro other held
        rw [chains] at held
        cases held
        exact .inr (congrArg _ (stored record served))
      · intro _
        rw [chains]
        exact Option.some_ne_none _
  | none =>
      cases needs : dataset.needsChains with
      | false =>
          have chains := sourced.bare served needs
          refine ⟨simulatedAt, spot, baseVolatility, ?_, ?_⟩
          · intro other held
            rw [chains] at held
            cases held
          · intro impossible
            cases needs.symm.trans impossible
      | true =>
          obtain ⟨replayed, again, chains⟩ := sourced.replayed served needs
          cases shown.symm.trans again
          refine ⟨simulatedAt, spot, baseVolatility, ?_, ?_⟩
          · intro other held
            rw [chains] at held
            cases held
            exact .inl rfl
          · intro _
            rw [chains]
            exact Option.some_ne_none _

/-- An export that reads what the advances of a run have filed sends what replay alone sends,
byte for byte, whatever was filed, persisted or lost on the way. -/
theorem warehouse_export_is_replay (backend : Backend)
    {last : SimulationConfig Chain (backend.store runtime.service)} (accepts : crates.Accepts)
    (ran : (managerCalls runtime _).run ((managerCalls runtime _).start (.new runtime _)) actions =
      some last)
    (owned : last.shared.ledger.created simulation = some parameters)
    (fed : FedByAdvances runtime (backend.store runtime.service) options actions filing writing)
    (storable : ∀ call record, .call call (.request (.persist record)) ∈ writing → Storable record)
    (reads : repository.ReadsFrom config crates numerics writing)
    (accepted : StepRange.resolve query parameters.steps maxRows = .ok range) :
    (exportOver runtime.service runtime.upstream options encoders parameters dataset format range
        receiver simulation (some repository)).sent =
      (exportOver runtime.service runtime.upstream options encoders parameters dataset format range
        receiver simulation none).sent ∧
    (exportOver runtime.service runtime.upstream options encoders parameters dataset format range
        receiver simulation (some repository)).result =
      (exportOver runtime.service runtime.upstream options encoders parameters dataset format range
        receiver simulation none).result := by
  obtain ⟨ordered, -, small, -⟩ := resolve_eq_ok accepted
  obtain ⟨contract, replays⟩ :=
    replays_of_fed (backend.atomic runtime.service) accepts ran owned fed storable reads
  apply produce_same ordered small
  · intro other same
    cases same
    exact contract
  · intro other same
    cases same
    exact replays

/-- An export shows, at every step that a peek or an advance has answered, the very snapshot of
that answer. -/
theorem export_shows_what_was_served (backend : Backend)
    {last : SimulationConfig Chain (backend.store runtime.service)} (accepts : crates.Accepts)
    (ran : (managerCalls runtime _).run ((managerCalls runtime _).start (.new runtime _)) actions =
      some last)
    (owned : last.shared.ledger.created simulation = some parameters)
    (answered : Answered last parameters step snapshot)
    (fed : FedByAdvances runtime (backend.store runtime.service) options actions filing writing)
    (storable : ∀ call record, .call call (.request (.persist record)) ∈ writing → Storable record)
    (reads : ∀ repository, warehouse = some repository →
      repository.ReadsFrom config crates numerics writing)
    (accepted : StepRange.resolve query parameters.steps maxRows = .ok range) :
    ∀ group ∈ (exportOver runtime.service runtime.upstream options encoders parameters dataset
        format range receiver simulation warehouse).groups,
      group.step = step → group.Shows options simulation parameters.symbol dataset snapshot := by
  obtain ⟨ordered, -⟩ := resolve_eq_ok accepted
  have faithful : ∀ repository, warehouse = some repository → repository.Contract ∧
      repository.Replays runtime.service runtime.upstream options parameters simulation :=
    fun repository supplied => replays_of_fed (backend.atomic runtime.service) accepts ran owned
      fed storable (reads repository supplied)
  have streams := @streams_produce _ runtime.service runtime.upstream options encoders parameters
    dataset format range receiver warehouse simulation ordered
    fun repository supplied => (faithful repository supplied).1
  have priced := freshSnapshot_of_answered
    (backed_of_run (backend.atomic runtime.service) ran) answered
  intro group member at_
  subst at_
  obtain ⟨tape, built, sourced⟩ := streams.sourced group member
  apply shows_of_sourced priced built sourced
  intro record served
  obtain ⟨located, read, listed, records, answer, inside⟩ := servedRecord_eq_some served
  obtain ⟨repository, supplied, earlier, asked⟩ := streams.answered read listed
  obtain ⟨other, replayed, otherBuilt, shown, equal⟩ := (faithful repository supplied).2 earlier
    read.fromStep read.toStep records (asked.symm.trans answer) record inside
  have again : runtime.freshSnapshot parameters group.step = .ok replayed :=
    freshSnapshot_eq_ok.mpr ⟨other, build_eq_ok.mpr otherBuilt, located ▸ shown⟩
  cases priced.symm.trans again
  exact equal

end Fed

/-! ### One advance, filed, persisted and read back -/

section Runs

open ClickHouseSnapshotRepository

def thursdayEleven : UtcDateTime :=
  ⟨Domain.Expiry.thursday,
    { Domain.Expiry.fivePm with secs := 39600, secs_lt := Nat.le_of_ble_eq_true rfl }⟩

/-- Six hours before the first expiration: a quarter of a day is stored as it is. -/
def quarterDays : SimulationParametersV2 :=
  { brownianDays 2 with effectiveStart := thursdayEleven }

def creatingAndAdvancing : List SimulationAction :=
  .call 0 (.request (.create quarterDays)) :: sections 0 1 ++
    .call 1 (.request (.advance someId none)) :: sections 1 4 ++
    .background (.runTask 1 0) :: sections 1 5

def oneOption (_ : Domain.Positive) : List OptionData := [someOption]

abbrev quarterCalls := filings kernelRuntime.upstream oneOption

def filingOne (served : ServedSnapshot Domain.Positive) : List (FilingAction Domain.Positive) :=
  .call 0 (.request served) :: List.replicate 4 (.call 0 (.proceed ())) ++ [.background .received]

def persistAndRead (record : SnapshotRecord) : List WarehouseAction :=
  [.call 0 (.request (.persist record)), .call 0 (.proceed (.ready 0)),
    .call 0 (.proceed (.ready 0)), .call 0 (.proceed (.ready 0)),
    .call 1 (.request (.readRange someId currentSnapshotGeneration 0 1)),
    .call 1 (.proceed (.ready 0)), .call 1 (.proceed (.ready 0))]

def SimulationCall.advanced? {Chain : Type} :
    SimulationCall Chain → Option (SessionV2 × SeriesSnapshot Chain)
  | .active (.done (.ok (.advanced simulation snapshot))) => some (simulation, snapshot)
  | _ => none

theorem advanced?_eq_some {Chain : Type} {phase : SimulationCall Chain} {simulation : SessionV2}
    {snapshot : SeriesSnapshot Chain}
    (advanced : SimulationCall.advanced? phase = some (simulation, snapshot)) :
    phase = .active (.done (.ok (.advanced simulation snapshot))) := by
  unfold SimulationCall.advanced? at advanced
  split at advanced
  · cases advanced
    rfl
  · cases advanced

/-- The repository whose one answer is that of a finished range read. -/
def answeredBy (reached : WarehouseConfig) (call : Nat) : SnapshotReads where
  readRange _ simulation generation fromStep toStep :=
    match reached.calls call with
    | .active (.ranged own ownGeneration lower upper _ (.ok records)) =>
        if own = simulation ∧ ownGeneration = generation ∧ lower = fromStep ∧ upper = toStep then
          .ok records
        else .error (.clickHouseError "refused")
    | _ => .error (.clickHouseError "refused")

theorem answeredBy_readsFrom {writing : List WarehouseAction} {reached : WarehouseConfig}
    {call : Nat} (ran : oneStrikeCalls.run (oneStrikeCalls.start .empty) writing = some reached) :
    (answeredBy reached call).ReadsFrom tenRows exactCrates noNumerics writing := by
  intro earlier simulation generation fromStep toStep records answered
  simp only [answeredBy] at answered
  split at answered
  · next own ownGeneration lower upper before found standing =>
      split_ifs at answered with same
      obtain ⟨rfl, rfl, rfl, rfl⟩ := same
      cases answered
      exact ⟨reached, call, before, ⟨writing, [], (List.append_nil _).symm, ran⟩, standing⟩
  · cases answered

/-- How an advance's snapshot comes to be read back. -/
structure OneStepFiled (last : SimulationConfig Domain.Positive (memoryBackend.store utcService))
    (simulation : SessionV2) (snapshot : SeriesSnapshot Domain.Positive)
    (queue : FilingConfig Domain.Positive) (record : SnapshotRecord) (tables : WarehouseConfig) :
    Prop where
  ran : kernelCalls.run kernelStart creatingAndAdvancing = some last
  advanced : SimulationCall.advanced? (last.calls 1) = some (simulation, snapshot)
  filed : quarterCalls.run (quarterCalls.start .empty)
    (filingOne ⟨simulation.id, simulation.parameters.symbol, snapshot⟩) = some queue
  received : queue.shared.writing = some record
  persisted : oneStrikeCalls.run (oneStrikeCalls.start .empty) (persistAndRead record) = some tables
  owned : last.shared.ledger.created someId = some quarterDays
  moved : simulation.parameters = quarterDays ∧ simulation.currentStep = 1
  storable : Storable record
  read : (answeredBy tables 1).readRange 0 someId currentSnapshotGeneration 0 1 = .ok [record]

theorem exists_oneStepFiled : ∃ last simulation snapshot queue record tables,
    OneStepFiled last simulation snapshot queue record tables := by
  have computed : ((kernelCalls.run kernelStart creatingAndAdvancing).any fun last =>
      (SimulationCall.advanced? (last.calls 1)).any fun answer =>
        (quarterCalls.run (quarterCalls.start .empty)
          (filingOne ⟨answer.1.id, answer.1.parameters.symbol, answer.2⟩)).any fun queue =>
            queue.shared.writing.any fun record =>
              (oneStrikeCalls.run (oneStrikeCalls.start .empty) (persistAndRead record)).any
                fun tables => last.shared.ledger.created someId = some quarterDays ∧
                  (answer.1.parameters = quarterDays ∧ answer.1.currentStep = 1) ∧
                  Storable record ∧
                  (answeredBy tables 1).readRange 0 someId currentSnapshotGeneration 0 1 =
                    .ok [record]) = true := by
    decide +kernel
  obtain ⟨last, ran, computed⟩ := (Option.any_eq_true _ _).mp computed
  obtain ⟨⟨simulation, snapshot⟩, advanced, computed⟩ := (Option.any_eq_true _ _).mp computed
  obtain ⟨queue, filed, computed⟩ := (Option.any_eq_true _ _).mp computed
  obtain ⟨record, received, computed⟩ := (Option.any_eq_true _ _).mp computed
  obtain ⟨tables, persisted, computed⟩ := (Option.any_eq_true _ _).mp computed
  obtain ⟨owned, moved, storable, read⟩ := of_decide_eq_true computed
  exact ⟨last, simulation, snapshot, queue, record, tables, ran, advanced, filed, received,
    persisted, owned, moved, storable, read⟩

section Filed

variable {last : SimulationConfig Domain.Positive (memoryBackend.store utcService)}
  {simulation : SessionV2} {snapshot : SeriesSnapshot Domain.Positive}
  {queue : FilingConfig Domain.Positive} {record : SnapshotRecord} {tables : WarehouseConfig}

theorem persisted_of_persistAndRead {call : Nat} {other : SnapshotRecord}
    (member : .call call (.request (.persist other)) ∈ persistAndRead record) : other = record := by
  have both : call = 0 ∧ other = record := by simpa [persistAndRead] using member
  exact both.2

theorem OneStepFiled.fed (filed : OneStepFiled last simulation snapshot queue record tables) :
    FedByAdvances kernelRuntime (memoryBackend.store utcService) oneOption creatingAndAdvancing
      (filingOne ⟨simulation.id, simulation.parameters.symbol, snapshot⟩)
      (persistAndRead record) where
  filed := by
    intro call served member
    obtain ⟨-, rfl⟩ : call = 0 ∧ served =
        ⟨simulation.id, simulation.parameters.symbol, snapshot⟩ := by
      simpa [filingOne] using member
    exact ⟨last, ⟨creatingAndAdvancing, [], (List.append_nil _).symm, filed.ran⟩, 1, _, simulation,
      snapshot, advanced?_eq_some filed.advanced, rfl, rfl⟩
  persisted := by
    intro call other member
    cases persisted_of_persistAndRead member
    exact ⟨queue, ⟨_, [], (List.append_nil _).symm, filed.filed⟩, filed.received⟩

theorem OneStepFiled.storable_of_persist
    (filed : OneStepFiled last simulation snapshot queue record tables) (call : Nat)
    (other : SnapshotRecord)
    (member : .call call (.request (.persist other)) ∈ persistAndRead record) :
    Storable other := by
  cases persisted_of_persistAndRead member
  exact filed.storable

end Filed

theorem warehouse_export_is_replay_oneStep : ∃ tables : WarehouseConfig,
    (∃ record, (answeredBy tables 1).readRange 0 someId currentSnapshotGeneration 0 1 =
      .ok [record]) ∧
    (exportOver utcService kernelRuntime.upstream oneOption thursdayEncoders quarterDays
        .optionChains .csv ⟨0, 1⟩ (fun _ => true) someId (some (answeredBy tables 1))).sent =
      (exportOver utcService kernelRuntime.upstream oneOption thursdayEncoders quarterDays
        .optionChains .csv ⟨0, 1⟩ (fun _ => true) someId none).sent := by
  obtain ⟨last, simulation, snapshot, queue, record, tables, filed⟩ := exists_oneStepFiled
  refine ⟨tables, ⟨record, filed.read⟩, ?_⟩
  have same := @warehouse_export_is_replay Domain.Positive kernelRuntime oneOption tenRows
    exactCrates noNumerics creatingAndAdvancing _ _ (answeredBy tables 1) someId quarterDays
    thursdayEncoders .optionChains .csv ⟨0, 1⟩ (fun _ => true)
    ⟨.optionChains, .csv, none, none⟩ 10 memoryBackend last exactCrates_accepts filed.ran
    filed.owned filed.fed filed.storable_of_persist (answeredBy_readsFrom filed.persisted)
    (by decide)
  exact same.1

theorem export_shows_what_was_served_oneStep : ∃ tables snapshot,
    ∀ group ∈ (exportOver utcService kernelRuntime.upstream oneOption thursdayEncoders quarterDays
        .optionChains .csv ⟨0, 1⟩ (fun _ => true) someId (some (answeredBy tables 1))).groups,
      group.step = 0 →
        group.Shows oneOption someId quarterDays.symbol .optionChains snapshot := by
  obtain ⟨last, simulation, snapshot, queue, record, tables, filed⟩ := exists_oneStepFiled
  have answered : Answered last quarterDays 0 snapshot :=
    ⟨1, simulation, filed.moved.1, .inr ⟨advanced?_eq_some filed.advanced, filed.moved.2⟩⟩
  refine ⟨tables, snapshot, ?_⟩
  apply @export_shows_what_was_served Domain.Positive kernelRuntime oneOption tenRows
    exactCrates noNumerics creatingAndAdvancing _ _ someId quarterDays thursdayEncoders
    .optionChains .csv ⟨0, 1⟩ (fun _ => true) ⟨.optionChains, .csv, none, none⟩ 10 0 snapshot
    (some (answeredBy tables 1)) memoryBackend last exactCrates_accepts filed.ran filed.owned
    answered filed.fed filed.storable_of_persist _ (by decide)
  intro repository supplied
  cases supplied
  exact answeredBy_readsFrom filed.persisted

end Runs

end OptionChainSimulator.Api
