import Mathlib.Tactic
import OptionChainSimulator.Infrastructure.Snapshots.Assembly

namespace OptionChainSimulator.Infrastructure.ClickHouseSnapshotRepository

open Foundation Utils Domain

/-! A read serves whole snapshots, and every one that was complete before it began. -/

section Statement

/-- What one attempt at the record of a coordinate writes. -/
structure Attempt (crates : ColumnCrates) (recordOf : Coordinate → SnapshotRecord)
    (coordinate : Coordinate) (rows : List OptionQuoteRow) (marker : SnapshotMetaRow) : Prop where
  located : (recordOf coordinate).coordinate = coordinate
  ascending : (recordOf coordinate).Ascending
  rebuilt : ∀ expiration ∈ (recordOf coordinate).expirations, expiration.Rebuilt
  written : ∃ insertedAtMs, quoteRows crates (recordOf coordinate) insertedAtMs = .ok rows ∧
    metaRow crates (recordOf coordinate) insertedAtMs = .ok marker

/-- The records of an answer are whole, in step order and in the range, and none is missing
that was complete before. -/
structure ServesComplete (recordOf : Coordinate → SnapshotRecord) (simulation : Uuid)
    (generation fromStep toStep : Nat) (before : List Coordinate)
    (records : List SnapshotRecord) : Prop where
  whole : ∀ record ∈ records, record.simulation = simulation ∧ record.generation = generation ∧
    record.expirations = (recordOf record.coordinate).expirations
  within : ∀ record ∈ records, fromStep ≤ record.step ∧ record.step ≤ toStep
  ascending : records.Pairwise fun left right => left.step < right.step
  present : ∀ coordinate ∈ before, coordinate.simulation = simulation →
    coordinate.generation = generation → fromStep ≤ coordinate.step →
    coordinate.step ≤ toStep → ∃ record ∈ records, record.coordinate = coordinate

end Statement

section Attempts

variable {crates : ColumnCrates} {recordOf : Coordinate → SnapshotRecord}
  {coordinate other : Coordinate} {rows others : List OptionQuoteRow}
  {marker : SnapshotMetaRow} {row : OptionQuoteRow}

theorem Attempt.named (attempt : Attempt crates recordOf coordinate rows marker) :
    (recordOf coordinate).simulation = coordinate.simulation ∧
      (recordOf coordinate).generation = coordinate.generation ∧
      (recordOf coordinate).step = coordinate.step :=
  ⟨congrArg Coordinate.simulation attempt.located, congrArg Coordinate.generation attempt.located,
    congrArg Coordinate.step attempt.located⟩

theorem Attempt.markerStored (accepts : crates.Accepts)
    (attempt : Attempt crates recordOf coordinate rows marker) :
    ∃ insertedAtMs, MarkerStored crates (recordOf coordinate) insertedAtMs marker := by
  obtain ⟨insertedAtMs, -, marked⟩ := attempt.written
  exact ⟨insertedAtMs, markerStored_of_metaRow accepts marked⟩

theorem Attempt.marker_key (accepts : crates.Accepts)
    (attempt : Attempt crates recordOf coordinate rows marker) :
    marker.key = (coordinate.simulation.hyphenated, coordinate.generation, coordinate.step) := by
  obtain ⟨insertedAtMs, stored⟩ := attempt.markerStored accepts
  obtain ⟨simulation, generation, step⟩ := attempt.named
  unfold SnapshotMetaRow.key
  rw [stored.simulationId, stored.simulationGeneration, stored.step, simulation, generation, step]

theorem Attempt.row_key (accepts : crates.Accepts)
    (attempt : Attempt crates recordOf coordinate rows marker) (member : row ∈ rows) :
    row.simulationId = coordinate.simulation.hyphenated ∧
      row.simulationGeneration = coordinate.generation ∧ row.step = coordinate.step := by
  obtain ⟨insertedAtMs, quoted, -⟩ := attempt.written
  obtain ⟨rowLists, rfl, stored⟩ := stored_of_quoteRows accepts quoted
  obtain ⟨part, partMember, inside⟩ := List.mem_flatten.mp member
  obtain ⟨expiration, -, expiresAt, days, -, -, held⟩ := exists_of_mem_forall₂ stored partMember
  obtain ⟨quote, -, own⟩ := exists_of_mem_forall₂ held inside
  obtain ⟨simulation, generation, step⟩ := attempt.named
  exact ⟨own.simulationId.trans (congrArg Uuid.hyphenated simulation),
    own.simulationGeneration.trans generation, own.step.trans step⟩

theorem Attempt.reads_ascending (accepts : crates.Accepts)
    (attempt : Attempt crates recordOf coordinate rows marker) :
    (rows.map OptionQuoteRow.read).Pairwise fun left right => left.key < right.key := by
  obtain ⟨insertedAtMs, quoted, -⟩ := attempt.written
  apply Infrastructure.reads_ascending accepts attempt.ascending _ quoted
  intro expiration member
  exact (attempt.rebuilt expiration member).outside

theorem Attempt.reads_unique (attempt : Attempt crates recordOf coordinate rows marker)
    {again : SnapshotMetaRow} (retry : Attempt crates recordOf coordinate others again) :
    others.map OptionQuoteRow.read = rows.map OptionQuoteRow.read := by
  obtain ⟨first, quoted, -⟩ := attempt.written
  obtain ⟨second, requoted, -⟩ := retry.written
  exact Infrastructure.reads_unique quoted requoted

theorem Attempt.length (accepts : crates.Accepts)
    (attempt : Attempt crates recordOf coordinate rows marker) :
    rows.length = marker.quoteCount := by
  obtain ⟨insertedAtMs, quoted, marked⟩ := attempt.written
  rw [length_quoteRows accepts quoted, (markerStored_of_metaRow accepts marked).quoteCount]

theorem Attempt.record (accepts : crates.Accepts)
    (attempt : Attempt crates recordOf coordinate rows marker) :
    recordFromRows crates coordinate.simulation coordinate.generation marker.read
        (rows.map OptionQuoteRow.read) =
      .ok { recordOf coordinate with simulatedAt := fromStorageInstant marker.simulatedAt } := by
  obtain ⟨insertedAtMs, quoted, marked⟩ := attempt.written
  have folded := foldlM_reads accepts attempt.ascending attempt.rebuilt quoted
  obtain ⟨simulation, generation, -⟩ := attempt.named
  rw [← simulation, ← generation, recordFromRows_of_stored (markerStored_of_metaRow accepts marked),
    folded]
  rfl

end Attempts

section Visible

variable {crates : ColumnCrates} {recordOf : Coordinate → SnapshotRecord}
  {coordinate : Coordinate} {rows : List OptionQuoteRow} {marker : SnapshotMetaRow}

/-- Every stored row and every sent one is of an attempt, and what is complete has landed. -/
structure Intact (crates : ColumnCrates) (recordOf : Coordinate → SnapshotRecord)
    (warehouse : Warehouse) : Prop where
  quotes : ∀ row ∈ warehouse.quotes ++ warehouse.sentQuotes, ∃ coordinate rows marker,
    Attempt crates recordOf coordinate rows marker ∧ row ∈ rows
  snapshots : ∀ marker ∈ warehouse.snapshots ++ warehouse.sentSnapshots, ∃ coordinate rows,
    Attempt crates recordOf coordinate rows marker
  completed : ∀ coordinate ∈ warehouse.completed, ∃ rows marker,
    Attempt crates recordOf coordinate rows marker ∧ marker ∈ warehouse.snapshots ∧
      rows ⊆ warehouse.quotes

variable {warehouse : Warehouse} {simulation : Uuid} {generation fromStep toStep : Nat}

theorem coordinate_eq {left right : Coordinate}
    (same : (left.simulation.hyphenated, left.generation, left.step) =
      (right.simulation.hyphenated, right.generation, right.step)) : left = right := by
  obtain ⟨simulation, rest⟩ := Prod.ext_iff.mp same
  obtain ⟨generation, step⟩ := Prod.ext_iff.mp rest
  have simulation := Uuid.hyphenated_injective simulation
  cases left
  cases right
  simp_all

theorem Intact.reads_subset (accepts : crates.Accepts) (intact : Intact crates recordOf warehouse)
    (attempt : Attempt crates recordOf coordinate rows marker)
    (simulationIs : coordinate.simulation = simulation)
    (generationIs : coordinate.generation = generation) :
    ((warehouse.quotesRange simulation.hyphenated generation fromStep toStep).filter
      fun row => row.step = coordinate.step) ⊆ rows.map OptionQuoteRow.read := by
  subst simulationIs generationIs
  intro row member
  obtain ⟨ranged, here⟩ := List.mem_filter.mp member
  obtain ⟨stored, kept, ⟨storedSimulation, storedGeneration, -, -⟩, rfl⟩ :=
    mem_quotesRange.mp ranged
  obtain ⟨owner, others, again, retry, inside⟩ :=
    intact.quotes stored (List.mem_append_left _ (mem_of_mem_newest kept))
  obtain ⟨ownSimulation, ownGeneration, ownStep⟩ := retry.row_key accepts inside
  have same : owner = coordinate := by
    apply coordinate_eq
    rw [← ownSimulation, ← ownGeneration, ← ownStep, storedSimulation, storedGeneration]
    exact congrArg (fun step => (coordinate.simulation.hyphenated, coordinate.generation, step))
      (of_decide_eq_true here)
  subst same
  rw [← attempt.reads_unique retry]
  exact List.mem_map_of_mem inside

theorem Intact.reads_eq (accepts : crates.Accepts) (intact : Intact crates recordOf warehouse)
    (attempt : Attempt crates recordOf coordinate rows marker)
    (simulationIs : coordinate.simulation = simulation)
    (generationIs : coordinate.generation = generation)
    (whole : rows.length ≤ ((warehouse.quotesRange simulation.hyphenated generation fromStep
      toStep).filter fun row => row.step = coordinate.step).length) :
    ((warehouse.quotesRange simulation.hyphenated generation fromStep toStep).filter
      fun row => row.step = coordinate.step) = rows.map OptionQuoteRow.read := by
  have subset := @Intact.reads_subset crates recordOf coordinate rows marker warehouse simulation
    generation fromStep toStep accepts intact attempt simulationIs generationIs
  have ascending : ((warehouse.quotesRange simulation.hyphenated generation fromStep toStep).filter
      fun row => row.step = coordinate.step).Pairwise fun left right => left.key < right.key :=
    quotesRange_ascending.filter _
  have distinct := ascending.imp fun below => ne_of_apply_ne QuoteReadRow.key below.ne
  have subperm := List.Nodup.subperm distinct subset
  have permuted := subperm.perm_of_length_le (by rw [List.length_map]; exact whole)
  apply List.Perm.eq_of_pairwise _ ascending (attempt.reads_ascending accepts) permuted
  intro left right _ _ below above
  exact absurd above below.asymm

theorem Intact.length_le (accepts : crates.Accepts) (intact : Intact crates recordOf warehouse)
    (attempt : Attempt crates recordOf coordinate rows marker)
    (simulationIs : coordinate.simulation = simulation)
    (generationIs : coordinate.generation = generation) (landed : rows ⊆ warehouse.quotes)
    (lower : fromStep ≤ coordinate.step) (upper : coordinate.step ≤ toStep) :
    rows.length ≤ ((warehouse.quotesRange simulation.hyphenated generation fromStep toStep).filter
      fun row => row.step = coordinate.step).length := by
  have subset := @Intact.reads_subset crates recordOf coordinate rows marker warehouse simulation
    generation fromStep toStep accepts intact attempt simulationIs generationIs
  have ascending := attempt.reads_ascending accepts
  have distinct : (rows.map OptionQuoteRow.read).Nodup :=
    ascending.imp fun below => ne_of_apply_ne QuoteReadRow.key below.ne
  have keys : ((rows.map OptionQuoteRow.read).map QuoteReadRow.key).Nodup :=
    List.pairwise_map.mpr (ascending.imp ne_of_lt)
  subst simulationIs generationIs
  have found : rows.map OptionQuoteRow.read ⊆ (warehouse.quotesRange
      coordinate.simulation.hyphenated coordinate.generation fromStep toStep).filter
        fun row => row.step = coordinate.step := by
    intro read member
    obtain ⟨row, inside, rfl⟩ := List.mem_map.mp member
    obtain ⟨ownSimulation, ownGeneration, ownStep⟩ := attempt.row_key accepts inside
    obtain ⟨kept, final, same, -⟩ := @exists_newest _ _ _ OptionQuoteRow.key
      OptionQuoteRow.insertedAtMs _ _ (landed inside)
    obtain ⟨keptSimulation, rest⟩ := Prod.ext_iff.mp same
    obtain ⟨keptGeneration, rest⟩ := Prod.ext_iff.mp rest
    obtain ⟨keptStep, rest⟩ := Prod.ext_iff.mp rest
    obtain ⟨keptExpiry, keptStrike⟩ := Prod.ext_iff.mp rest
    have keptStep : kept.step = coordinate.step := keptStep.trans ownStep
    have listed : kept.read ∈ (warehouse.quotesRange coordinate.simulation.hyphenated
        coordinate.generation fromStep toStep).filter fun row => row.step = coordinate.step := by
      apply List.mem_filter.mpr
      refine ⟨mem_quotesRange.mpr ⟨kept, final, ⟨keptSimulation.trans ownSimulation,
        keptGeneration.trans ownGeneration, ?_, ?_⟩, rfl⟩, decide_eq_true keptStep⟩
      · rw [keptStep]
        exact lower
      · rw [keptStep]
        exact upper
    have sameKey : kept.read.key = row.read.key := by
      unfold QuoteReadRow.key
      rw [show kept.read.step = row.read.step from keptStep.trans ownStep.symm,
        show kept.read.expiresAt = row.read.expiresAt from keptExpiry,
        show kept.read.strike = row.read.strike from keptStrike]
    rw [← List.inj_on_of_nodup_map keys (subset listed) member sameKey]
    exact listed
  have bound := (List.Nodup.subperm distinct found).length_le
  rwa [List.length_map] at bound

/-- The markers a first query found, with what was complete when it ran. -/
structure Found (crates : ColumnCrates) (recordOf : Coordinate → SnapshotRecord)
    (warehouse : Warehouse) (simulation : Uuid) (generation fromStep toStep : Nat)
    (before : List Coordinate) (metas : List SnapshotMetaReadRow) : Prop where
  known : ∀ marker ∈ metas, ∃ coordinate rows row, Attempt crates recordOf coordinate rows row ∧
    row.read = marker ∧ coordinate.simulation = simulation ∧
    coordinate.generation = generation ∧ fromStep ≤ coordinate.step ∧ coordinate.step ≤ toStep
  ascending : metas.Pairwise fun left right => left.step < right.step
  present : ∀ coordinate ∈ before, coordinate.simulation = simulation →
    coordinate.generation = generation → fromStep ≤ coordinate.step →
    coordinate.step ≤ toStep → ∃ marker ∈ metas, marker.step = coordinate.step
  before : before ⊆ warehouse.completed

theorem Attempt.step (accepts : crates.Accepts)
    (attempt : Attempt crates recordOf coordinate rows marker) :
    marker.step = coordinate.step := by
  have key := attempt.marker_key accepts
  exact congrArg (fun key => key.2.2) key

theorem found_of_metaRange (accepts : crates.Accepts) (intact : Intact crates recordOf warehouse)
    (simulation : Uuid) (generation fromStep toStep : Nat) :
    Found crates recordOf warehouse simulation generation fromStep toStep warehouse.completed
      (warehouse.metaRange simulation.hyphenated generation fromStep toStep) where
  known := by
    intro marker member
    obtain ⟨row, kept, ⟨rowSimulation, rowGeneration, lower, upper, -⟩, rfl⟩ :=
      mem_metaRange.mp member
    obtain ⟨coordinate, rows, attempt⟩ :=
      intact.snapshots row (List.mem_append_left _ (mem_of_mem_newest kept))
    have key := attempt.marker_key accepts
    obtain ⟨keySimulation, rest⟩ := Prod.ext_iff.mp key
    obtain ⟨keyGeneration, keyStep⟩ := Prod.ext_iff.mp rest
    change row.step = coordinate.step at keyStep
    refine ⟨coordinate, rows, row, attempt, rfl, ?_, keyGeneration.symm.trans rowGeneration,
      keyStep ▸ lower, keyStep ▸ upper⟩
    exact Uuid.hyphenated_injective (keySimulation.symm.trans rowSimulation)
  ascending := metaRange_ascending
  present := by
    intro coordinate complete simulationIs generationIs lower upper
    obtain ⟨rows, marker, attempt, stored, -⟩ := intact.completed coordinate complete
    obtain ⟨kept, final, same, -⟩ := @exists_newest _ _ _ SnapshotMetaRow.key
      SnapshotMetaRow.insertedAtMs _ _ stored
    obtain ⟨owner, others, retry⟩ :=
      intact.snapshots kept (List.mem_append_left _ (mem_of_mem_newest final))
    have key : kept.key = _ := same.trans (attempt.marker_key accepts)
    obtain rfl : owner = coordinate :=
      coordinate_eq ((retry.marker_key accepts).symm.trans key)
    obtain ⟨keySimulation, rest⟩ := Prod.ext_iff.mp key
    obtain ⟨keyGeneration, keyStep⟩ := Prod.ext_iff.mp rest
    change kept.step = owner.step at keyStep
    obtain ⟨_, markerStored⟩ := retry.markerStored accepts
    refine ⟨kept.read, mem_metaRange.mpr ⟨kept, final, ⟨?_, keyGeneration.trans generationIs,
      keyStep.symm ▸ lower, keyStep.symm ▸ upper, markerStored.complete⟩, rfl⟩, keyStep⟩
    exact keySimulation.trans (congrArg Uuid.hyphenated simulationIs)
  before := List.Subset.refl _

/-- What the second query makes of the markers of the first, however late it runs. -/
theorem serves_of_gatherRange {config : SnapshotPersistenceConfig} {before : List Coordinate}
    {metas : List SnapshotMetaReadRow} {records : List SnapshotRecord} (accepts : crates.Accepts)
    (intact : Intact crates recordOf warehouse)
    (found : Found crates recordOf warehouse simulation generation fromStep toStep before metas)
    (gathered : gatherRange config crates warehouse.toSnapshotTables simulation generation fromStep
      toStep metas = .ok records) :
    ServesComplete recordOf simulation generation fromStep toStep before records := by
  obtain ⟨-, -, assembled⟩ := gatherRange_eq_ok.mp gathered
  have assembles := assembles_of_assemble found.ascending assembled
  have sound : ∀ record ∈ records, ∃ coordinate rows row,
      Attempt crates recordOf coordinate rows row ∧ coordinate.simulation = simulation ∧
        coordinate.generation = generation ∧ fromStep ≤ coordinate.step ∧
        coordinate.step ≤ toStep ∧ record =
          { recordOf coordinate with simulatedAt := fromStorageInstant row.simulatedAt } := by
    intro record member
    obtain ⟨marker, listed, counted, read⟩ := assembles.sound record member
    obtain ⟨coordinate, rows, row, attempt, rfl, simulationIs, generationIs, lower, upper⟩ :=
      found.known marker listed
    refine ⟨coordinate, rows, row, attempt, simulationIs, generationIs, lower, upper, ?_⟩
    have step : row.read.step = coordinate.step := attempt.step accepts
    rw [step] at counted read
    rw [intact.reads_eq accepts attempt simulationIs generationIs
      ((attempt.length accepts).trans counted.symm).le] at read
    rw [← simulationIs, ← generationIs, attempt.record accepts] at read
    exact (Except.ok.inj read).symm
  refine ⟨?_, ?_, ?_, ?_⟩
  · intro record member
    obtain ⟨coordinate, rows, row, attempt, simulationIs, generationIs, -, -, rfl⟩ :=
      sound record member
    obtain ⟨ownSimulation, ownGeneration, -⟩ := attempt.named
    refine ⟨ownSimulation.trans simulationIs, ownGeneration.trans generationIs, ?_⟩
    change (recordOf coordinate).expirations =
      (recordOf (recordOf coordinate).coordinate).expirations
    rw [attempt.located]
  · intro record member
    obtain ⟨coordinate, rows, row, attempt, -, -, lower, upper, rfl⟩ := sound record member
    change fromStep ≤ (recordOf coordinate).step ∧ (recordOf coordinate).step ≤ toStep
    rw [attempt.named.2.2]
    exact ⟨lower, upper⟩
  · apply List.pairwise_map.mp
    exact (List.pairwise_map.mpr found.ascending).sublist assembles.steps
  · intro coordinate wasComplete simulationIs generationIs lower upper
    obtain ⟨rows, row, attempt, -, landed⟩ :=
      intact.completed coordinate (found.before wasComplete)
    obtain ⟨marker, listed, step⟩ :=
      found.present coordinate wasComplete simulationIs generationIs lower upper
    obtain ⟨owner, others, stored, retry, rfl, ownSimulation, ownGeneration, -, -⟩ :=
      found.known marker listed
    have ownStep : stored.read.step = owner.step := retry.step accepts
    obtain rfl : owner = coordinate := by
      apply coordinate_eq
      rw [ownSimulation, ownGeneration, ← ownStep, step, simulationIs, generationIs]
    have whole : ((warehouse.quotesRange simulation.hyphenated generation fromStep toStep).filter
        fun row => row.step = stored.read.step).length = stored.read.quoteCount := by
      rw [step, intact.reads_eq accepts attempt simulationIs generationIs
        (intact.length_le accepts attempt simulationIs generationIs landed lower upper),
        ← attempt.reads_unique retry, List.length_map]
      exact retry.length accepts
    obtain ⟨record, inside, read⟩ := assembles.complete listed whole
    obtain ⟨recordSimulation, recordGeneration, recordStep⟩ := named_of_recordFromRows read
    refine ⟨record, inside, ?_⟩
    unfold SnapshotRecord.coordinate
    rw [recordSimulation, recordGeneration, recordStep, step, ← simulationIs, ← generationIs]

theorem Found.serves_nothing {before : List Coordinate}
    (found : Found crates recordOf warehouse simulation generation fromStep toStep before []) :
    ServesComplete recordOf simulation generation fromStep toStep before [] where
  whole := by
    intro record member
    cases member
  within := by
    intro record member
    cases member
  ascending := List.Pairwise.nil
  present := by
    intro coordinate complete simulationIs generationIs lower upper
    obtain ⟨marker, listed, -⟩ :=
      found.present coordinate complete simulationIs generationIs lower upper
    cases listed

theorem ServesComplete.single {step : Nat} {before : List Coordinate}
    {records : List SnapshotRecord}
    (serves : ServesComplete recordOf simulation generation step step before records) :
    records.getLast?.toList = records := by
  cases listed : records with
  | nil => rfl
  | cons first rest =>
      cases rest with
      | nil => rfl
      | cons second rest =>
          rw [listed] at serves
          obtain ⟨firstLower, -⟩ := serves.within first List.mem_cons_self
          obtain ⟨-, secondUpper⟩ := serves.within second (by simp)
          have below := (List.pairwise_cons.mp serves.ascending).1 second List.mem_cons_self
          omega

theorem serves_of_gatherOne {config : SnapshotPersistenceConfig} {before : List Coordinate}
    {step : Nat} {marker : SnapshotMetaReadRow} {answer : Option SnapshotRecord}
    (accepts : crates.Accepts) (intact : Intact crates recordOf warehouse)
    (found : Found crates recordOf warehouse simulation generation step step before [marker])
    (gathered : gatherOne config crates warehouse.toSnapshotTables simulation generation step
      marker = .ok answer) :
    ServesComplete recordOf simulation generation step step before answer.toList := by
  rw [gatherOne_eq] at gathered
  obtain ⟨records, ranged, rfl⟩ := map_eq_ok.mp gathered
  have serves := serves_of_gatherRange accepts intact found ranged
  rw [serves.single]
  exact serves

end Visible

/-! ### Calls that interleave -/

section Calls

variable {config : SnapshotPersistenceConfig} {crates : ColumnCrates} {numerics : Numerics}
  {recordOf : Coordinate → SnapshotRecord} {warehouse before after : Warehouse}

/-- What is known of a call by where it stands. -/
def StageIntact (crates : ColumnCrates) (recordOf : Coordinate → SnapshotRecord)
    (warehouse : Warehouse) : SnapshotStage → Prop
  | .persisting record =>
      record = recordOf record.coordinate ∧
        ∀ expiration ∈ record.expirations, expiration.Rebuilt
  | .writingQuotes coordinate rows marker => Attempt crates recordOf coordinate rows marker
  | .writingMarker coordinate marker =>
      ∃ rows, Attempt crates recordOf coordinate rows marker ∧ rows ⊆ warehouse.quotes
  | .gatheringOne coordinate before marker =>
      Found crates recordOf warehouse coordinate.simulation coordinate.generation coordinate.step
        coordinate.step before [marker]
  | .got coordinate before result => ∀ answer, result = .ok answer →
      ServesComplete recordOf coordinate.simulation coordinate.generation coordinate.step
        coordinate.step before answer.toList
  | .gatheringRange simulation generation fromStep toStep before metas =>
      Found crates recordOf warehouse simulation generation fromStep toStep before metas
  | .ranged simulation generation fromStep toStep before result => ∀ records,
      result = .ok records →
        ServesComplete recordOf simulation generation fromStep toStep before records
  | .persisted _ | .seekingOne _ | .seekingRange .. => True

def CallIntact (crates : ColumnCrates) (recordOf : Coordinate → SnapshotRecord) (_ : Nat)
    (warehouse : Warehouse) : SnapshotCall → Prop
  | .active stage => StageIntact crates recordOf warehouse stage
  | .idle | .dropped => True

/-- Rows and completions only come. -/
structure Grows (before after : Warehouse) : Prop where
  quotes : before.quotes ⊆ after.quotes
  completed : before.completed ⊆ after.completed

theorem Grows.refl (warehouse : Warehouse) : Grows warehouse warehouse :=
  ⟨List.Subset.refl _, List.Subset.refl _⟩

theorem CallIntact.grows {call : Nat} {phase : SnapshotCall} (grows : Grows before after)
    (known : CallIntact crates recordOf call before phase) :
    CallIntact crates recordOf call after phase := by
  cases phase with
  | idle => trivial
  | dropped => trivial
  | active stage =>
      cases stage with
      | writingMarker coordinate marker =>
          obtain ⟨rows, attempt, landed⟩ := known
          exact ⟨rows, attempt, List.Subset.trans landed grows.quotes⟩
      | gatheringOne coordinate earlier marker =>
          exact { known with before := List.Subset.trans known.before grows.completed }
      | gatheringRange simulation generation fromStep toStep earlier metas =>
          exact { known with before := List.Subset.trans known.before grows.completed }
      | _ => exact known

theorem attempt_of_preparePersist {record : SnapshotRecord} {nowMs : Int}
    {rows : List OptionQuoteRow} {marker : SnapshotMetaRow}
    (known : StageIntact crates recordOf warehouse (.persisting record))
    (prepared : preparePersist config crates numerics record nowMs = .ok (rows, marker)) :
    Attempt crates recordOf record.coordinate rows marker := by
  obtain ⟨fixed, rebuilt⟩ := known
  obtain ⟨validated, rest⟩ := bind_unit_eq_ok.mp prepared
  split_ifs at rest with oversized
  · cases rest
  · obtain ⟨insertedAtMs, -, rest⟩ := bind_eq_ok.mp rest
    obtain ⟨quotes, quoted, rest⟩ := bind_eq_ok.mp rest
    obtain ⟨written, marked, kept⟩ := bind_eq_ok.mp rest
    cases kept
    rw [fixed] at validated rebuilt quoted marked
    exact ⟨congrArg SnapshotRecord.coordinate fixed.symm,
      (SnapshotRecord.validate_eq_ok.mp validated).2, rebuilt, insertedAtMs, quoted, marked⟩

theorem Intact.sendMarker {coordinate : Coordinate} {rows : List OptionQuoteRow}
    {marker : SnapshotMetaRow} (intact : Intact crates recordOf warehouse)
    (attempt : Attempt crates recordOf coordinate rows marker) :
    Intact crates recordOf (warehouse.sendMarker marker) where
  quotes := intact.quotes
  snapshots := by
    intro sent member
    obtain stored | rfl | earlier : sent ∈ warehouse.snapshots ∨ sent = marker ∨
        sent ∈ warehouse.sentSnapshots := by
      simpa [Warehouse.sendMarker] using member
    · exact intact.snapshots sent (List.mem_append_left _ stored)
    · exact ⟨coordinate, rows, attempt⟩
    · exact intact.snapshots sent (List.mem_append_right _ earlier)
  completed := intact.completed

theorem Intact.sendQuotes {coordinate : Coordinate} {rows : List OptionQuoteRow}
    {marker : SnapshotMetaRow} (intact : Intact crates recordOf warehouse)
    (attempt : Attempt crates recordOf coordinate rows marker) :
    Intact crates recordOf { warehouse with sentQuotes := rows ++ warehouse.sentQuotes } where
  quotes := by
    intro row member
    obtain stored | own | sent : row ∈ warehouse.quotes ∨ row ∈ rows ∨
        row ∈ warehouse.sentQuotes := by
      simpa using member
    · exact intact.quotes row (List.mem_append_left _ stored)
    · exact ⟨coordinate, rows, marker, attempt, own⟩
    · exact intact.quotes row (List.mem_append_right _ sent)
  snapshots := intact.snapshots
  completed := intact.completed

theorem Intact.landQuotes {rows : List OptionQuoteRow} (intact : Intact crates recordOf warehouse)
    (owned : ∀ row ∈ rows, ∃ coordinate rows marker,
      Attempt crates recordOf coordinate rows marker ∧ row ∈ rows) :
    Intact crates recordOf { warehouse with quotes := rows ++ warehouse.quotes } where
  quotes := by
    intro row member
    obtain landed | stored | sent : row ∈ rows ∨ row ∈ warehouse.quotes ∨
        row ∈ warehouse.sentQuotes := by
      simpa using member
    · exact owned row landed
    · exact intact.quotes row (List.mem_append_left _ stored)
    · exact intact.quotes row (List.mem_append_right _ sent)
  snapshots := intact.snapshots
  completed := by
    intro complete member
    obtain ⟨others, stored, attempt, markerLanded, rowsLanded⟩ := intact.completed complete member
    exact ⟨others, stored, attempt, markerLanded,
      List.Subset.trans rowsLanded (List.subset_append_right _ _)⟩

theorem Intact.landMarker {marker : SnapshotMetaRow} (intact : Intact crates recordOf warehouse)
    (owned : ∃ coordinate rows, Attempt crates recordOf coordinate rows marker) :
    Intact crates recordOf { warehouse with snapshots := marker :: warehouse.snapshots } where
  quotes := intact.quotes
  snapshots := by
    intro stored member
    obtain rfl | earlier | sent : stored = marker ∨ stored ∈ warehouse.snapshots ∨
        stored ∈ warehouse.sentSnapshots := by
      simpa using member
    · exact owned
    · exact intact.snapshots stored (List.mem_append_left _ earlier)
    · exact intact.snapshots stored (List.mem_append_right _ sent)
  completed := by
    intro complete member
    obtain ⟨rows, stored, attempt, markerLanded, rowsLanded⟩ := intact.completed complete member
    exact ⟨rows, stored, attempt, List.mem_cons_of_mem _ markerLanded, rowsLanded⟩

theorem stageIntact_got_error {coordinate : Coordinate} {earlier : List Coordinate}
    {error : ChainError} :
    StageIntact crates recordOf warehouse (.got coordinate earlier (.error error)) := by
  intro answer impossible
  cases impossible

theorem stageIntact_ranged_error {simulation : Uuid} {generation fromStep toStep : Nat}
    {earlier : List Coordinate} {error : ChainError} :
    StageIntact crates recordOf warehouse
      (.ranged simulation generation fromStep toStep earlier (.error error)) := by
  intro records impossible
  cases impossible

theorem intact_of_proceed {call : Nat} {moment : DriverMoment} {stage next : SnapshotStage}
    (accepts : crates.Accepts) (intact : Intact crates recordOf before)
    (known : StageIntact crates recordOf before stage)
    (proceeded : proceed config crates numerics call moment before stage = some (after, next)) :
    Intact crates recordOf after ∧ StageIntact crates recordOf after next ∧
      Grows before after := by
  cases stage with
  | persisting record =>
      cases moment with
      | failed message => cases proceeded
      | ready nowMs =>
          unfold proceed at proceeded
          dsimp only at proceeded
          split at proceeded
          · cases proceeded
            exact ⟨intact, trivial, .refl _⟩
          · next rows marker prepared =>
              have attempt := attempt_of_preparePersist known prepared
              unfold beginProtocol at proceeded
              split_ifs at proceeded with unquoted
              · cases proceeded
                rw [List.isEmpty_iff] at unquoted
                subst unquoted
                exact ⟨intact.sendMarker attempt, ⟨[], attempt, List.nil_subset _⟩,
                  List.Subset.refl _, List.Subset.refl _⟩
              · cases proceeded
                exact ⟨intact.sendQuotes attempt, attempt, List.Subset.refl _,
                  List.Subset.refl _⟩
  | writingQuotes coordinate rows marker =>
      cases moment with
      | failed message =>
          cases proceeded
          exact ⟨intact, trivial, .refl _⟩
      | ready nowMs =>
          cases proceeded
          have landed := intact.landQuotes fun row member =>
            ⟨coordinate, rows, marker, known, member⟩
          exact ⟨landed.sendMarker known, ⟨rows, known, List.subset_append_left _ _⟩,
            List.subset_append_right _ _, List.Subset.refl _⟩
  | writingMarker coordinate marker =>
      obtain ⟨rows, attempt, rowsLanded⟩ := known
      cases moment with
      | failed message =>
          cases proceeded
          exact ⟨intact, trivial, .refl _⟩
      | ready nowMs =>
          cases proceeded
          have landed := intact.landMarker ⟨coordinate, rows, attempt⟩
          refine ⟨{ landed with completed := ?_ }, trivial, List.Subset.refl _,
            List.subset_cons_self _ _⟩
          intro complete member
          obtain rfl | earlier := List.mem_cons.mp member
          · exact ⟨rows, marker, attempt, List.mem_cons_self, rowsLanded⟩
          · exact landed.completed complete earlier
  | persisted result => cases proceeded
  | seekingOne coordinate =>
      cases moment with
      | failed message =>
          cases proceeded
          exact ⟨intact, stageIntact_got_error, .refl _⟩
      | ready nowMs =>
          have found := found_of_metaRange accepts intact coordinate.simulation
            coordinate.generation coordinate.step coordinate.step
          rw [metaRange_single] at found
          unfold proceed at proceeded
          dsimp only at proceeded
          split at proceeded
          · cases proceeded
            exact ⟨intact, stageIntact_got_error, .refl _⟩
          · next sought =>
              cases proceeded
              obtain ⟨-, -, -, first, -⟩ := seekOne_eq_ok.mp sought
              rw [← first] at found
              refine ⟨intact, ?_, .refl _⟩
              intro answer same
              cases same
              exact found.serves_nothing
          · next marker sought =>
              cases proceeded
              obtain ⟨-, -, -, first, -⟩ := seekOne_eq_ok.mp sought
              rw [← first] at found
              exact ⟨intact, found, .refl _⟩
  | gatheringOne coordinate earlier marker =>
      cases moment with
      | failed message =>
          cases proceeded
          exact ⟨intact, stageIntact_got_error, .refl _⟩
      | ready nowMs =>
          cases proceeded
          exact ⟨intact, fun answer gathered => serves_of_gatherOne accepts intact known gathered,
            .refl _⟩
  | got coordinate earlier result => cases proceeded
  | seekingRange simulation generation fromStep toStep =>
      cases moment with
      | failed message =>
          cases proceeded
          exact ⟨intact, stageIntact_ranged_error, .refl _⟩
      | ready nowMs =>
          unfold proceed at proceeded
          dsimp only at proceeded
          split at proceeded
          · cases proceeded
            exact ⟨intact, stageIntact_ranged_error, .refl _⟩
          · next metas sought =>
              cases proceeded
              obtain ⟨-, -, -, rfl⟩ := seekRange_eq_ok.mp sought
              exact ⟨intact, found_of_metaRange accepts intact simulation generation fromStep
                toStep, .refl _⟩
  | gatheringRange simulation generation fromStep toStep earlier metas =>
      cases moment with
      | failed message =>
          cases proceeded
          exact ⟨intact, stageIntact_ranged_error, .refl _⟩
      | ready nowMs =>
          cases proceeded
          exact ⟨intact, fun records gathered =>
            serves_of_gatherRange accepts intact known gathered, .refl _⟩
  | ranged simulation generation fromStep toStep earlier result => cases proceeded

/-- What holds of the records that are persisted. -/
def Persists (allowed : SnapshotRecord → Prop) : WarehouseAction → Prop
  | .call _ (.request (.persist record)) => allowed record
  | _ => True

/-- The record of its coordinate, with no empty expiration and none in a leap second. -/
def RequestIntact (recordOf : Coordinate → SnapshotRecord) (_ : Nat) :
    SnapshotInput → Warehouse → SnapshotCall → Prop
  | .request (.persist record), _, _ =>
      record = recordOf record.coordinate ∧
        ∀ expiration ∈ record.expirations, expiration.Rebuilt
  | _, _, _ => True

theorem calls_free (accepts : crates.Accepts) :
    (calls config crates numerics).FreeOfInterference (RequestIntact recordOf)
      (Intact crates recordOf) (CallIntact crates recordOf) where
  move := by
    intro call input before phase after next intact known allowed moved
    obtain ⟨request, rfl, rfl, rfl, rfl⟩ | ⟨moment, stage, nextStage, rfl, rfl, rfl, proceeded⟩ |
      ⟨stage, rfl, rfl, -, rfl, rfl⟩ := staged_cases moved
    · cases request with
      | persist record => exact ⟨intact, allowed⟩
      | get coordinate => exact ⟨intact, trivial⟩
      | readRange simulation generation fromStep toStep => exact ⟨intact, trivial⟩
    · obtain ⟨kept, stays, -⟩ := intact_of_proceed accepts intact known proceeded
      exact ⟨kept, stays⟩
    · exact ⟨intact, trivial⟩
  others := by
    intro call input before phase after next intact known allowed moved other _ otherPhase held
    obtain ⟨request, rfl, rfl, rfl, rfl⟩ | ⟨moment, stage, nextStage, rfl, rfl, rfl, proceeded⟩ |
      ⟨stage, rfl, rfl, -, rfl, rfl⟩ := staged_cases moved
    · exact held
    · exact held.grows (intact_of_proceed accepts intact known proceeded).2.2
    · exact held
  tick := by
    intro landing before after intact landed
    cases landing with
    | snapshot row =>
        obtain ⟨sent, rfl⟩ : row ∈ before.sentSnapshots ∧
            { before with snapshots := row :: before.snapshots } = after := by
          simpa [calls, staged, land] using landed
        refine ⟨intact.landMarker (intact.snapshots row (List.mem_append_right _ sent)), ?_⟩
        intro index phase known
        have grows : Grows before { before with snapshots := row :: before.snapshots } :=
          ⟨List.Subset.refl _, List.Subset.refl _⟩
        exact known.grows grows
    | quote row =>
        obtain ⟨sent, rfl⟩ : row ∈ before.sentQuotes ∧
            { before with quotes := row :: before.quotes } = after := by
          simpa [calls, staged, land] using landed
        refine ⟨?_, ?_⟩
        · have owned := intact.quotes row (List.mem_append_right _ sent)
          exact intact.landQuotes (List.forall_mem_singleton.mpr owned)
        · intro index phase known
          exact known.grows ⟨List.subset_cons_self _ _, List.Subset.refl _⟩

theorem start_intact : Protocol.Holds (Intact crates recordOf) (CallIntact crates recordOf)
    ((calls config crates numerics).start .empty) where
  shared := by
    refine ⟨?_, ?_, ?_⟩
    · intro row member
      cases member
    · intro marker member
      cases member
    · intro coordinate member
      cases member
  own := fun _ => trivial

/-- Reads of any run serve whole snapshots, and all that were complete before, where no
expiration falls into a leap second. -/
theorem reads_serve_complete (accepts : crates.Accepts) {actions : List WarehouseAction}
    {last : WarehouseConfig}
    (fixed : ∀ action ∈ actions, Persists (fun record => record = recordOf record.coordinate ∧
      ∀ expiration ∈ record.expirations, expiration.quotes ≠ []) action)
    (outside : ∀ action ∈ actions, Persists (fun record =>
      ∀ expiration ∈ record.expirations, ¬ expiration.expiresAt.time.InLeapSecond) action)
    (ran : (calls config crates numerics).run ((calls config crates numerics).start .empty)
      actions = some last) :
    (∀ call coordinate before answer,
      last.calls call = .active (.got coordinate before (.ok answer)) →
        ServesComplete recordOf coordinate.simulation coordinate.generation coordinate.step
          coordinate.step before answer.toList) ∧
    ∀ call simulation generation fromStep toStep before records,
      last.calls call = .active (.ranged simulation generation fromStep toStep before
          (.ok records)) →
        ServesComplete recordOf simulation generation fromStep toStep before records := by
  have met : (calls config crates numerics).Meets (Protocol.atCall (RequestIntact recordOf))
      ((calls config crates numerics).start .empty) actions := by
    apply Protocol.meets_of_members
    intro action member _
    have isFixed := fixed action member
    have isOutside := outside action member
    cases action with
    | background landing => trivial
    | call index input =>
        cases input with
        | proceed moment => trivial
        | drop => trivial
        | request request =>
            cases request with
            | get coordinate => trivial
            | readRange simulation generation fromStep toStep => trivial
            | persist record =>
                refine ⟨isFixed.1, fun expiration inside => ?_⟩
                exact ⟨isFixed.2 expiration inside, isOutside expiration inside⟩
  have held := (calls_free accepts).holds_of_run start_intact met ran
  constructor
  · intro call coordinate before answer at_
    have known := held.own call
    rw [at_] at known
    exact known answer rfl
  · intro call simulation generation fromStep toStep before records at_
    have known := held.own call
    rw [at_] at known
    exact known records rfl

end Calls

/-! ### A record written again after a failure, and two expirations of one instant -/

section Runs

def noNumerics : Numerics :=
  ⟨fun _ => .nan, fun _ => .nan, fun _ => .ok 0, fun _ => .ok .one, fun _ => "", fun _ => ""⟩

def tenRows : SnapshotPersistenceConfig := ⟨10, 10⟩

def oneStrikeCalls : Protocol Warehouse SnapshotCall SnapshotInput Landing :=
  calls tenRows exactCrates noNumerics

/-- A call persists the record, and another one reads it. -/
def persistThenGet (record : SnapshotRecord) : List WarehouseAction :=
  [.call 0 (.request (.persist record)), .call 0 (.proceed (.ready 0)),
    .call 0 (.proceed (.ready 0)), .call 0 (.proceed (.ready 0)),
    .call 1 (.request (.get record.coordinate)), .call 1 (.proceed (.ready 0)),
    .call 1 (.proceed (.ready 0))]

/-- Where the two calls stand at the end. -/
def endsAt (record : SnapshotRecord) : Option (SnapshotCall × SnapshotCall) :=
  (oneStrikeCalls.run (oneStrikeCalls.start .empty) (persistThenGet record)).map fun last =>
    (last.calls 0, last.calls 1)

/-- The rows of the four strikes, as the first call sends them. -/
def fourStrikeRows : List OptionQuoteRow :=
  (quoteRows exactCrates fourStrikeRecord 0).toOption.getD []

/-- A call fails over its quotes and a second one writes them again, while one of the first lands
late and a third call reads in between; a fourth reads at the end. -/
def retriedAndRead : List WarehouseAction :=
  [.call 0 (.request (.persist fourStrikeRecord)), .call 0 (.proceed (.ready 0)),
    .call 2 (.request (.readRange someId currentSnapshotGeneration 0 3)),
    .call 2 (.proceed (.ready 0)), .call 0 (.proceed (.failed "timed out")),
    .call 1 (.request (.persist fourStrikeRecord)), .call 1 (.proceed (.ready 1))] ++
    (fourStrikeRows.take 1).map (fun row => .background (.quote row)) ++
  [.call 1 (.proceed (.ready 1)), .call 2 (.proceed (.ready 1)), .call 1 (.proceed (.ready 1)),
    .call 3 (.request (.readRange someId currentSnapshotGeneration 0 3)),
    .call 3 (.proceed (.ready 2)), .call 3 (.proceed (.ready 2))]

theorem reads_serve_complete_retried :
    ServesComplete (fun _ => fourStrikeRecord) someId currentSnapshotGeneration 0 3 [] [] ∧
      ServesComplete (fun _ => fourStrikeRecord) someId currentSnapshotGeneration 0 3
        [fourStrikeRecord.coordinate] [fourStrikeRecord] := by
  have ended : (oneStrikeCalls.run (oneStrikeCalls.start .empty) retriedAndRead).map
      (fun last => (last.calls 0, last.calls 2, last.calls 3)) =
        some (.active (.persisted (.error (.clickHouseError "timed out"))),
          .active (.ranged someId currentSnapshotGeneration 0 3 [] (.ok [])),
          .active (.ranged someId currentSnapshotGeneration 0 3 [fourStrikeRecord.coordinate]
            (.ok [fourStrikeRecord]))) := by decide +kernel
  obtain ⟨last, ran, stands⟩ := Option.map_eq_some_iff.mp ended
  obtain ⟨-, stands⟩ := Prod.ext_iff.mp stands
  obtain ⟨early, late⟩ := Prod.ext_iff.mp stands
  have requests : ∀ {allowed : SnapshotRecord → Prop}, allowed fourStrikeRecord →
      ∀ action ∈ retriedAndRead, Persists allowed action := by
    intro allowed own
    rw [retriedAndRead, List.forall_mem_append, List.forall_mem_append]
    refine ⟨⟨by simp [Persists, own], ?_⟩, by simp [Persists]⟩
    intro action member
    obtain ⟨row, -, rfl⟩ := List.mem_map.mp member
    trivial
  have fixed : ∀ action ∈ retriedAndRead, Persists (fun record =>
      record = (fun _ => fourStrikeRecord) record.coordinate ∧
        ∀ expiration ∈ record.expirations, expiration.quotes ≠ []) action :=
    requests ⟨rfl, by decide⟩
  have served := (@reads_serve_complete _ _ _ (fun _ => fourStrikeRecord) exactCrates_accepts _ _
    fixed (requests (by decide)) ran).2
  exact ⟨served 2 _ _ _ _ _ _ early, served 3 _ _ _ _ _ _ late⟩

/-- A leap second, and the midnight after it. -/
def collapsingRecord : SnapshotRecord :=
  { oneStrikeRecord with
    expirations := [
      { oneStrike with expiresAt := ⟨Domain.Expiry.thursday,
          ⟨86399, 1000000000, Nat.le_of_ble_eq_true rfl, Nat.le_of_ble_eq_true rfl⟩⟩ },
      { oneStrike with expiresAt := ⟨Domain.Expiry.lastFriday,
          { Domain.Expiry.fivePm with secs := 0, secs_lt := Nat.le_of_ble_eq_true rfl }⟩ }] }

/-- Its two rows are one row to the table, and its marker says two. -/
theorem completed_record_is_lost :
    (collapsingRecord.validate noNumerics = .ok () ∧
      ∀ expiration ∈ collapsingRecord.expirations, expiration.quotes ≠ []) ∧
    endsAt collapsingRecord = some (.active (.persisted (.ok ())),
      .active (.got collapsingRecord.coordinate [collapsingRecord.coordinate] (.ok none))) ∧
    ¬ ServesComplete (fun _ => collapsingRecord) someId currentSnapshotGeneration 0 0
      [collapsingRecord.coordinate] (none : Option SnapshotRecord).toList := by
  refine ⟨by decide +kernel, by decide +kernel, ?_⟩
  intro serves
  obtain ⟨record, served, -⟩ := serves.present collapsingRecord.coordinate List.mem_cons_self
    rfl rfl (le_refl 0) (le_refl 0)
  cases served

end Runs

end OptionChainSimulator.Infrastructure.ClickHouseSnapshotRepository
