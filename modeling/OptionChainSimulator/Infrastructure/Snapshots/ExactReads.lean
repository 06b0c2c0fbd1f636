import Mathlib.Tactic
import OptionChainSimulator.Infrastructure.Snapshots.Visibility

namespace OptionChainSimulator.Infrastructure.ClickHouseSnapshotRepository

open Foundation Utils Domain

/-! What a range read returns is what was persisted, to the last field. -/

section Exact

variable {config : SnapshotPersistenceConfig} {crates : ColumnCrates} {numerics : Numerics}
  {recordOf : Coordinate → SnapshotRecord} {warehouse before after : Warehouse}
  {simulation : Uuid} {generation fromStep toStep : Nat}

/-- No record that bears its coordinate is of a leap second. -/
def Steady (recordOf : Coordinate → SnapshotRecord) : Prop :=
  ∀ coordinate, (recordOf coordinate).coordinate = coordinate →
    ¬ (recordOf coordinate).simulatedAt.time.InLeapSecond

/-- The records are those of their coordinates. -/
def Exactly (recordOf : Coordinate → SnapshotRecord) (records : List SnapshotRecord) : Prop :=
  ∀ record ∈ records, recordOf record.coordinate = record

theorem Attempt.restored {coordinate : Coordinate} {rows : List OptionQuoteRow}
    {marker : SnapshotMetaRow} (accepts : crates.Accepts) (steady : Steady recordOf)
    (attempt : Attempt crates recordOf coordinate rows marker) :
    recordFromRows crates coordinate.simulation coordinate.generation marker.read
        (rows.map OptionQuoteRow.read) = .ok (recordOf coordinate) := by
  obtain ⟨insertedAtMs, stored⟩ := attempt.markerStored accepts
  rw [attempt.record accepts,
    (fromStorageInstant_eq_iff stored.simulatedAt).mpr (steady coordinate attempt.located)]

theorem exactly_of_gatherRange {earlier : List Coordinate} {metas : List SnapshotMetaReadRow}
    {records : List SnapshotRecord} (accepts : crates.Accepts) (steady : Steady recordOf)
    (intact : Intact crates recordOf warehouse)
    (found : Found crates recordOf warehouse simulation generation fromStep toStep earlier metas)
    (gathered : gatherRange config crates warehouse.toSnapshotTables simulation generation fromStep
      toStep metas = .ok records) : Exactly recordOf records := by
  obtain ⟨-, -, assembled⟩ := gatherRange_eq_ok.mp gathered
  have assembles := assembles_of_assemble found.ascending assembled
  intro record member
  obtain ⟨marker, listed, counted, read⟩ := assembles.sound record member
  obtain ⟨coordinate, rows, row, attempt, rfl, rfl, rfl, -, -⟩ := found.known marker listed
  have step : row.read.step = coordinate.step := attempt.step accepts
  rw [step] at counted read
  rw [intact.reads_eq accepts attempt rfl rfl
    ((attempt.length accepts).trans counted.symm).le, attempt.restored accepts steady] at read
  cases read
  exact congrArg recordOf attempt.located

/-- What is known of a range read by where it stands. -/
def RangedExactly (recordOf : Coordinate → SnapshotRecord) : SnapshotCall → Prop
  | .active (.ranged _ _ _ _ _ (.ok records)) => Exactly recordOf records
  | _ => True

theorem rangedExactly_of_proceed {call : Nat} {moment : DriverMoment}
    {stage next : SnapshotStage} (accepts : crates.Accepts) (steady : Steady recordOf)
    (intact : Intact crates recordOf before) (known : StageIntact crates recordOf before stage)
    (proceeded : proceed config crates numerics call moment before stage = some (after, next)) :
    RangedExactly recordOf (.active next) := by
  cases stage with
  | gatheringRange simulation generation fromStep toStep earlier metas =>
      cases moment with
      | failed message =>
          cases proceeded
          trivial
      | ready nowMs =>
          cases proceeded
          cases gathered : gatherRange config crates before.toSnapshotTables simulation generation
            fromStep toStep metas with
          | error e => trivial
          | ok records => exact exactly_of_gatherRange accepts steady intact known gathered
  | persisting record =>
      cases moment with
      | failed message => cases proceeded
      | ready nowMs =>
          simp only [proceed, beginProtocol] at proceeded
          split at proceeded
          · cases proceeded
            trivial
          · split_ifs at proceeded
            all_goals
              cases proceeded
              trivial
  | seekingOne coordinate =>
      cases moment with
      | failed message =>
          cases proceeded
          trivial
      | ready nowMs =>
          simp only [proceed] at proceeded
          split at proceeded
          all_goals
            cases proceeded
            trivial
  | seekingRange simulation generation fromStep toStep =>
      cases moment with
      | failed message =>
          cases proceeded
          trivial
      | ready nowMs =>
          simp only [proceed] at proceeded
          split at proceeded
          all_goals
            cases proceeded
            trivial
  | _ =>
      cases moment
      all_goals
        cases proceeded
        try trivial

theorem rangedExactly_free (accepts : crates.Accepts) (steady : Steady recordOf) :
    (calls config crates numerics).FreeOfInterference (RequestIntact recordOf)
      (Intact crates recordOf) fun call warehouse phase =>
        CallIntact crates recordOf call warehouse phase ∧ RangedExactly recordOf phase where
  move := by
    intro call input before phase after next intact known allowed moved
    obtain ⟨kept, own⟩ := (calls_free accepts).move intact known.1 allowed moved
    refine ⟨kept, own, ?_⟩
    obtain ⟨request, rfl, rfl, rfl, rfl⟩ | ⟨moment, stage, nextStage, rfl, rfl, rfl, proceeded⟩ |
      ⟨stage, rfl, rfl, -, rfl, rfl⟩ := staged_cases moved
    · cases request <;> trivial
    · exact rangedExactly_of_proceed accepts steady intact known.1 proceeded
    · trivial
  others := by
    intro call input before phase after next intact known allowed moved other different otherPhase
      held
    exact ⟨(calls_free accepts).others intact known.1 allowed moved other different otherPhase
      held.1, held.2⟩
  tick := by
    intro landing before after intact landed
    obtain ⟨kept, own⟩ := (calls_free accepts).tick intact landed
    exact ⟨kept, fun call phase held => ⟨own call phase held.1, held.2⟩⟩

theorem start_rangedExactly :
    Protocol.Holds (Intact crates recordOf) (fun call warehouse phase =>
      CallIntact crates recordOf call warehouse phase ∧ RangedExactly recordOf phase)
      ((calls config crates numerics).start .empty) where
  shared := (@start_intact config crates numerics recordOf).shared
  own := fun _ => ⟨trivial, trivial⟩

end Exact

section Catalogue

variable {config : SnapshotPersistenceConfig} {crates : ColumnCrates} {numerics : Numerics}
  {held : SnapshotRecord → Prop}

/-- A record that does not bear the coordinate. -/
def stray (coordinate : Coordinate) : SnapshotRecord :=
  { oneStrikeRecord with step := coordinate.step + 1 }

/-- The held record of a coordinate, and a stray one where none is held. -/
noncomputable def catalogue (held : SnapshotRecord → Prop) : Coordinate → SnapshotRecord :=
  Function.extend (fun record : { record // held record } => record.1.coordinate) Subtype.val stray

/-- No two held records bear one coordinate, and each can be rebuilt from its rows. -/
structure Catalogued (held : SnapshotRecord → Prop) : Prop where
  unique : ∀ {record other}, held record → held other → record.coordinate = other.coordinate →
    record = other
  outside : ∀ {record}, held record → ¬ record.simulatedAt.time.InLeapSecond
  rebuilt : ∀ {record}, held record → ∀ expiration ∈ record.expirations, expiration.Rebuilt

theorem catalogue_coordinate {record : SnapshotRecord} (catalogued : Catalogued held)
    (member : held record) : catalogue held record.coordinate = record := by
  have injective : Function.Injective
      fun record : { record // held record } => record.1.coordinate := by
    intro left right same
    exact Subtype.ext (catalogued.unique left.2 right.2 same)
  exact injective.extend_apply Subtype.val stray ⟨record, member⟩

theorem held_of_located {coordinate : Coordinate}
    (located : (catalogue held coordinate).coordinate = coordinate) :
    held (catalogue held coordinate) := by
  by_cases found : ∃ record : { record // held record }, record.1.coordinate = coordinate
  · obtain ⟨record, rfl⟩ := found
    have catalogued : catalogue held record.1.coordinate = _ := dif_pos ⟨record, rfl⟩
    rw [catalogued]
    exact Subtype.prop _
  · have missing : catalogue held coordinate = stray coordinate :=
      Function.extend_apply' _ _ _ found
    rw [missing] at located
    exact absurd (congrArg Coordinate.step located) (Nat.succ_ne_self _)

/-- Where only held records are persisted, a range read gives held ones, of its simulation, in
its range and in order. -/
theorem reads_held {actions : List WarehouseAction} {reached : WarehouseConfig} {call : Nat}
    {simulation : Uuid} {generation fromStep toStep : Nat} {before : List Coordinate}
    {records : List SnapshotRecord} (accepts : crates.Accepts) (catalogued : Catalogued held)
    (persisted : ∀ call record, .call call (.request (.persist record)) ∈ actions → held record)
    (visited : (calls config crates numerics).Visits ((calls config crates numerics).start .empty)
      actions reached)
    (read : reached.calls call =
      .active (.ranged simulation generation fromStep toStep before (.ok records))) :
    (∀ record ∈ records, held record ∧ record.simulation = simulation) ∧
      (∀ record ∈ records, fromStep ≤ record.step ∧ record.step ≤ toStep) ∧
      records.Pairwise fun left right => left.step < right.step := by
  obtain ⟨done, rest, rfl, ran⟩ := visited
  have met : (calls config crates numerics).Meets
      (Protocol.atCall (RequestIntact (catalogue held)))
      ((calls config crates numerics).start .empty) done := by
    apply Protocol.meets_of_members
    intro action early _
    have member : action ∈ done ++ rest := List.mem_append_left rest early
    cases action with
    | background landing => trivial
    | call index input =>
        cases input with
        | proceed moment => trivial
        | drop => trivial
        | request request =>
            cases request with
            | get coordinate => trivial
            | readRange simulation generation fromStep toStep => trivial
            | persist record =>
                have own := persisted index record member
                exact ⟨(catalogue_coordinate catalogued own).symm, catalogued.rebuilt own⟩
  have steady : Steady (catalogue held) := fun coordinate located =>
    catalogued.outside (held_of_located located)
  have known := ((rangedExactly_free accepts steady).holds_of_run start_rangedExactly met ran).own
    call
  rw [read] at known
  obtain ⟨intact, exactly⟩ := known
  have serves := intact records rfl
  refine ⟨?_, serves.within, serves.ascending⟩
  intro record member
  have same := exactly record member
  refine ⟨?_, (serves.whole record member).1⟩
  have located : held (catalogue held record.coordinate) :=
    held_of_located (congrArg SnapshotRecord.coordinate same)
  rwa [same] at located

end Catalogue

end OptionChainSimulator.Infrastructure.ClickHouseSnapshotRepository
