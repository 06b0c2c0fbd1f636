import Mathlib.Tactic
import OptionChainSimulator.Foundation.Interleaving
import OptionChainSimulator.Foundation.NewestRows
import OptionChainSimulator.Foundation.OrderedCollections
import OptionChainSimulator.Infrastructure.Snapshots.Rows

namespace OptionChainSimulator.Infrastructure

open Foundation Utils Domain

/-! The two snapshot tables, and the repository that writes and reads them. -/

structure SnapshotPersistenceConfig where
  batchRows : Nat
  maxReadRows : Nat

/-- `ORDER BY` of `simulation_snapshots`. -/
def SnapshotMetaRow.key (row : SnapshotMetaRow) : String × Nat × Nat :=
  (row.simulationId, row.simulationGeneration, row.step)

/-- `ORDER BY` of `simulation_option_quotes`. -/
def OptionQuoteRow.key (row : OptionQuoteRow) : String × Nat × Nat × I64 × I128 :=
  (row.simulationId, row.simulationGeneration, row.step, row.expiresAt, row.strike)

/-- The rows of both tables, the latest first. -/
structure SnapshotTables where
  snapshots : List SnapshotMetaRow
  quotes : List OptionQuoteRow

namespace SnapshotTables

variable (tables : SnapshotTables)

/-- `simulation_snapshots FINAL`. -/
def finalSnapshots : List SnapshotMetaRow :=
  newest SnapshotMetaRow.key SnapshotMetaRow.insertedAtMs tables.snapshots

/-- `simulation_option_quotes FINAL`. -/
def finalQuotes : List OptionQuoteRow :=
  newest OptionQuoteRow.key OptionQuoteRow.insertedAtMs tables.quotes

/-- `META_RANGE_QUERY`. -/
def metaRange (simulation : String) (generation fromStep toStep : Nat) :
    List SnapshotMetaReadRow :=
  ((tables.finalSnapshots.filter fun row =>
      row.simulationId = simulation ∧ row.simulationGeneration = generation ∧
        fromStep ≤ row.step ∧ row.step ≤ toStep ∧ row.complete = true).map
    SnapshotMetaRow.read).insertionSort fun left right => left.step ≤ right.step

/-- `QUOTES_RANGE_QUERY`. -/
def quotesRange (simulation : String) (generation fromStep toStep : Nat) : List QuoteReadRow :=
  orderQuotes <| (tables.finalQuotes.filter fun row =>
      row.simulationId = simulation ∧ row.simulationGeneration = generation ∧
        fromStep ≤ row.step ∧ row.step ≤ toStep).map OptionQuoteRow.read

end SnapshotTables

namespace ClickHouseSnapshotRepository

section Reads

variable (config : SnapshotPersistenceConfig) (crates : ColumnCrates) (tables : SnapshotTables)

def probeLimit : Except ChainError Nat :=
  okOr (unsigned? u64Limit (config.maxReadRows + 1))
    (.validation "OCS_SNAPSHOT_MAX_READ_ROWS" "is too large to probe for truncation")

def rejectIfOverBudget (returned : Nat) (what : String) : Except ChainError Unit :=
  if config.maxReadRows < returned then
    .error (.validation "OCS_SNAPSHOT_MAX_READ_ROWS" <|
      s!"the requested range holds more {what} than the configured bound of" ++
        s!" {config.maxReadRows}; request a smaller step range")
  else .ok ()

def fetchMetaRows (simulation : Uuid) (generation fromStep toStep : Nat) :
    Except ChainError (List SnapshotMetaReadRow) := do
  let limit ← probeLimit config
  let rows := (tables.metaRange simulation.hyphenated generation fromStep toStep).take limit
  rejectIfOverBudget config rows.length "snapshots"
  return rows

def fetchQuoteRows (simulation : Uuid) (generation fromStep toStep : Nat) :
    Except ChainError (List QuoteReadRow) := do
  let limit ← probeLimit config
  let rows := (tables.quotesRange simulation.hyphenated generation fromStep toStep).take limit
  rejectIfOverBudget config rows.length "quotes"
  return rows

/-- The rows of each step, in the order they came. -/
def byStep (quotes : List QuoteReadRow) : OrderedMap Nat (List QuoteReadRow) :=
  quotes.foldl (fun groups row => groups.upsert row.step [] (· ++ [row])) .empty

def assembleMetas (simulation : Uuid) (generation : Nat) :
    List SnapshotMetaReadRow → OrderedMap Nat (List QuoteReadRow) →
      Except ChainError (List SnapshotRecord)
  | [], _ => .ok []
  | marker :: rest, groups => do
      let rows := (groups.get? marker.step).getD []
      let others := groups.erase marker.step
      if rows.length ≠ marker.quoteCount then assembleMetas simulation generation rest others
      else
        let record ← recordFromRows crates simulation generation marker rows
        let records ← assembleMetas simulation generation rest others
        return record :: records

def assemble (simulation : Uuid) (generation : Nat) (metas : List SnapshotMetaReadRow)
    (quotes : List QuoteReadRow) : Except ChainError (List SnapshotRecord) :=
  assembleMetas crates simulation generation metas (byStep quotes)

def stepBounds (fromStep toStep : Nat) : Except ChainError (Nat × Nat) := do
  if toStep < fromStep then
    throw (.validation "from_step" s!"must not exceed to_step, got {fromStep} > {toStep}")
  let lower ← toStorageCount fromStep "from_step"
  let upper ← toStorageCount toStep "to_step"
  return (lower, upper)

/-- `get`, up to its first query and the check of what it found. -/
def seekOne (simulation : Uuid) (generation step : Nat) :
    Except ChainError (Option SnapshotMetaReadRow) := do
  let bounds ← stepBounds step step
  let metas ← fetchMetaRows config tables simulation generation bounds.1 bounds.2
  match metas.head? with
  | none => return none
  | some marker =>
      rejectIfOverBudget config marker.quoteCount "quotes"
      return some marker

/-- `get`, from its second query on. -/
def gatherOne (simulation : Uuid) (generation step : Nat) (marker : SnapshotMetaReadRow) :
    Except ChainError (Option SnapshotRecord) := do
  let quotes ← fetchQuoteRows config tables simulation generation step step
  let records ← assemble crates simulation generation [marker] quotes
  return records.getLast?

def get (simulation : Uuid) (generation step : Nat) :
    Except ChainError (Option SnapshotRecord) := do
  match ← seekOne config tables simulation generation step with
  | none => return none
  | some marker => gatherOne config crates tables simulation generation step marker

/-- `read_range`, up to its first query. -/
def seekRange (simulation : Uuid) (generation fromStep toStep : Nat) :
    Except ChainError (List SnapshotMetaReadRow) := do
  let bounds ← stepBounds fromStep toStep
  fetchMetaRows config tables simulation generation bounds.1 bounds.2

/-- `read_range`, from its second query on. -/
def gatherRange (simulation : Uuid) (generation fromStep toStep : Nat)
    (metas : List SnapshotMetaReadRow) : Except ChainError (List SnapshotRecord) := do
  let quotes ← fetchQuoteRows config tables simulation generation fromStep toStep
  assemble crates simulation generation metas quotes

end Reads

end ClickHouseSnapshotRepository

/-! ### Calls that interleave -/

structure Coordinate where
  simulation : Uuid
  generation : Nat
  step : Nat
  deriving DecidableEq

def SnapshotRecord.coordinate (record : SnapshotRecord) : Coordinate :=
  ⟨record.simulation, record.generation, record.step⟩

/-- The tables, the inserts that were sent, and the coordinates whose `persist` returned. A
sent row may be seen by a read before its insert is acknowledged, after it failed, or never. -/
structure Warehouse extends SnapshotTables where
  sentSnapshots : List SnapshotMetaRow
  sentQuotes : List OptionQuoteRow
  completed : List Coordinate

def Warehouse.empty : Warehouse := ⟨⟨[], []⟩, [], [], []⟩

/-- The marker is sent. -/
def Warehouse.sendMarker (warehouse : Warehouse) (marker : SnapshotMetaRow) : Warehouse :=
  { warehouse with sentSnapshots := marker :: warehouse.sentSnapshots }

inductive SnapshotRequest where
  | persist (record : SnapshotRecord)
  | get (coordinate : Coordinate)
  | readRange (simulation : Uuid) (generation fromStep toStep : Nat)

/-- Where a call stands. A read remembers which coordinates were complete at its first
query. -/
inductive SnapshotStage where
  | persisting (record : SnapshotRecord)
  | writingQuotes (coordinate : Coordinate) (rows : List OptionQuoteRow) (marker : SnapshotMetaRow)
  | writingMarker (coordinate : Coordinate) (marker : SnapshotMetaRow)
  | persisted (result : Except ChainError Unit)
  | seekingOne (coordinate : Coordinate)
  | gatheringOne (coordinate : Coordinate) (before : List Coordinate)
      (marker : SnapshotMetaReadRow)
  | got (coordinate : Coordinate) (before : List Coordinate)
      (result : Except ChainError (Option SnapshotRecord))
  | seekingRange (simulation : Uuid) (generation fromStep toStep : Nat)
  | gatheringRange (simulation : Uuid) (generation fromStep toStep : Nat)
      (before : List Coordinate) (metas : List SnapshotMetaReadRow)
  | ranged (simulation : Uuid) (generation fromStep toStep : Nat) (before : List Coordinate)
      (result : Except ChainError (List SnapshotRecord))
  deriving DecidableEq

/-- What the driver says at an await, and the host clock in unix milliseconds. -/
inductive DriverMoment where
  | ready (nowMs : Int)
  | failed (message : String)

/-- A sent row that becomes visible. -/
inductive Landing where
  | snapshot (row : SnapshotMetaRow)
  | quote (row : OptionQuoteRow)

abbrev SnapshotCall := StagedCall SnapshotStage
abbrev SnapshotInput := StagedInput SnapshotRequest DriverMoment
abbrev WarehouseConfig := Config Warehouse SnapshotCall
abbrev WarehouseAction := Action SnapshotInput Landing

namespace ClickHouseSnapshotRepository

variable (config : SnapshotPersistenceConfig) (crates : ColumnCrates) (numerics : Numerics)

def ingestionTimestampMs (nowMs : Int) : Except ChainError Nat :=
  if 0 ≤ nowMs then .ok nowMs.toNat else .error (.internal "the host clock is before 1970")

/-- `persist` up to its first write. -/
def preparePersist (record : SnapshotRecord) (nowMs : Int) :
    Except ChainError (List OptionQuoteRow × SnapshotMetaRow) := do
  record.validate numerics
  if config.batchRows < record.quoteCount then
    throw (.validation "OCS_SNAPSHOT_BATCH_ROWS" <|
      s!"the snapshot holds {record.quoteCount} quote rows, above the configured bound of" ++
        s!" {config.batchRows}")
  let insertedAtMs ← ingestionTimestampMs nowMs
  let quotes ← quoteRows crates record insertedAtMs
  let marker ← metaRow crates record insertedAtMs
  return (quotes, marker)

/-- The first write of `run_completion_protocol`: the batch, or the marker of a snapshot
without quotes. -/
def beginProtocol (warehouse : Warehouse) (coordinate : Coordinate)
    (rows : List OptionQuoteRow) (marker : SnapshotMetaRow) : Warehouse × SnapshotStage :=
  if rows.isEmpty then (warehouse.sendMarker marker, .writingMarker coordinate marker)
  else ({ warehouse with sentQuotes := rows ++ warehouse.sentQuotes },
    .writingQuotes coordinate rows marker)

/-- A section of a call: up to its next await. -/
def proceed (_ : Nat) (moment : DriverMoment) (warehouse : Warehouse) :
    SnapshotStage → Option (Warehouse × SnapshotStage)
  | .persisting record =>
      match moment with
      | .ready nowMs =>
          match preparePersist config crates numerics record nowMs with
          | .error error => some (warehouse, .persisted (.error error))
          | .ok (rows, marker) => some (beginProtocol warehouse record.coordinate rows marker)
      | .failed _ => none
  | .writingQuotes coordinate rows marker =>
      match moment with
      | .ready _ => some
          ({ warehouse with quotes := rows ++ warehouse.quotes }.sendMarker marker,
            .writingMarker coordinate marker)
      | .failed message => some (warehouse, .persisted (.error (.clickHouseError message)))
  | .writingMarker coordinate marker =>
      match moment with
      | .ready _ => some
          ({ warehouse with
              snapshots := marker :: warehouse.snapshots
              completed := coordinate :: warehouse.completed },
            .persisted (.ok ()))
      | .failed message => some (warehouse, .persisted (.error (.clickHouseError message)))
  | .seekingOne coordinate =>
      match moment with
      | .ready _ =>
          match seekOne config warehouse.toSnapshotTables coordinate.simulation
              coordinate.generation coordinate.step with
          | .error error => some (warehouse, .got coordinate warehouse.completed (.error error))
          | .ok none => some (warehouse, .got coordinate warehouse.completed (.ok none))
          | .ok (some marker) =>
              some (warehouse, .gatheringOne coordinate warehouse.completed marker)
      | .failed message => some
          (warehouse, .got coordinate warehouse.completed (.error (.clickHouseError message)))
  | .gatheringOne coordinate before marker =>
      match moment with
      | .ready _ => some (warehouse, .got coordinate before
          (gatherOne config crates warehouse.toSnapshotTables coordinate.simulation
            coordinate.generation coordinate.step marker))
      | .failed message => some
          (warehouse, .got coordinate before (.error (.clickHouseError message)))
  | .seekingRange simulation generation fromStep toStep =>
      match moment with
      | .ready _ =>
          match seekRange config warehouse.toSnapshotTables simulation generation fromStep
              toStep with
          | .error error => some (warehouse,
              .ranged simulation generation fromStep toStep warehouse.completed (.error error))
          | .ok metas => some (warehouse,
              .gatheringRange simulation generation fromStep toStep warehouse.completed metas)
      | .failed message => some (warehouse, .ranged simulation generation fromStep toStep
          warehouse.completed (.error (.clickHouseError message)))
  | .gatheringRange simulation generation fromStep toStep before metas =>
      match moment with
      | .ready _ => some (warehouse, .ranged simulation generation fromStep toStep before
          (gatherRange config crates warehouse.toSnapshotTables simulation generation fromStep
            toStep metas))
      | .failed message => some (warehouse, .ranged simulation generation fromStep toStep before
          (.error (.clickHouseError message)))
  | .persisted _ | .got .. | .ranged .. => none

def begins : SnapshotRequest → SnapshotStage
  | .persist record => .persisting record
  | .get coordinate => .seekingOne coordinate
  | .readRange simulation generation fromStep toStep =>
      .seekingRange simulation generation fromStep toStep

/-- Where a call awaits the driver, and can be dropped. -/
def awaits : SnapshotStage → Bool
  | .persisting _ | .persisted _ | .got .. | .ranged .. => false
  | _ => true

/-- A row lands that some insert has sent. -/
def land : Landing → Warehouse → Option Warehouse
  | .snapshot row, warehouse =>
      if row ∈ warehouse.sentSnapshots then
        some { warehouse with snapshots := row :: warehouse.snapshots }
      else none
  | .quote row, warehouse =>
      if row ∈ warehouse.sentQuotes then
        some { warehouse with quotes := row :: warehouse.quotes }
      else none

def calls : Protocol Warehouse SnapshotCall SnapshotInput Landing :=
  staged begins awaits (proceed config crates numerics) land

end ClickHouseSnapshotRepository

end OptionChainSimulator.Infrastructure
