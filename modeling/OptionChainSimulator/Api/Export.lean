import Mathlib.Tactic
import OptionChainSimulator.Infrastructure.Snapshots.Record

namespace OptionChainSimulator.Api

open Foundation Utils Domain Session Infrastructure

/-! The bulk export of a v2 simulation's tape: the range, the chains from either source, the
steps read ahead from the warehouse, the two encodings and the producer. -/

def snapshotWindowSteps : Nat := 64

inductive Dataset where
  | underlying
  | volatility
  | optionChains
  deriving DecidableEq

inductive Format where
  | json
  | csv
  deriving DecidableEq

def Dataset.header : Dataset → List String
  | .underlying => ["step", "simulated_at", "symbol", "price"]
  | .volatility => ["step", "simulated_at", "symbol", "base_volatility"]
  | .optionChains => ["step", "simulated_at", "symbol", "expires_at", "labels",
      "days_to_expiration", "strike", "implied_volatility", "call_bid", "call_ask", "call_mid",
      "call_delta", "put_bid", "put_ask", "put_mid", "put_delta", "gamma"]

def Dataset.needsChains : Dataset → Bool
  | .optionChains => true
  | _ => false

structure ExportQuery where
  dataset : Dataset
  format : Format
  fromStep : Option Nat
  toStep : Option Nat

structure StepRange where
  fromStep : Nat
  toStep : Nat
  deriving DecidableEq

namespace StepRange

def resolve (query : ExportQuery) (steps maxRows : Nat) : Except ChainError StepRange :=
  match steps with
  | 0 =>
      .error (.internal <|
        "a simulation with no steps cannot exist; `steps >= 1` is validated at creation")
  | last + 1 =>
      let fromStep := query.fromStep.getD 0
      let toStep := query.toStep.getD last
      if fromStep > last then
        .error (.validation "from_step"
          s!"must not exceed the last step ({last}), got {fromStep}")
      else if toStep > last then
        .error (.validation "to_step"
          s!"must not exceed the last step ({last}), got {toStep}")
      else if fromStep > toStep then
        .error (.validation "from_step"
          s!"must not exceed to_step ({toStep}), got {fromStep}")
      else
        match unsigned? u64Limit (toStep - fromStep + 1) with
        | none => .error (.validation "to_step" "the requested range overflows")
        | some span =>
            if span > maxRows then
              .error (.validation "to_step" <|
                s!"the requested range covers {span} steps, above the {maxRows} the service" ++
                  " will export in one request")
            else .ok ⟨fromStep, toStep⟩

def steps (range : StepRange) : List Nat :=
  List.range' range.fromStep (range.toStep + 1 - range.fromStep)

end StepRange

/-- `to_rfc3339_opts(SecondsFormat::Secs, true)`; a leap second shows as second 60. -/
def renderInstant (instant : UtcDateTime) : String :=
  let second := instant.time.secs % 60 + if 1000000000 ≤ instant.time.frac then 1 else 0
  s!"{instant.date.toString}T{padded 2 (instant.time.secs / 3600)}:" ++
    s!"{padded 2 (instant.time.secs / 60 % 60)}:{padded 2 second}Z"

def renderOptional (numerics : Numerics) : Option F64 → String
  | some value => numerics.displayF64 value
  | none => ""

/-! The chains of one step, from either source. -/

structure QuoteView where
  strike : F64
  impliedVolatility : F64
  callBid : Option F64
  callAsk : Option F64
  callMid : Option F64
  callDelta : Option F64
  putBid : Option F64
  putAsk : Option F64
  putMid : Option F64
  putDelta : Option F64
  gamma : Option F64
  deriving DecidableEq

namespace QuoteView

variable (numerics : Numerics)

def replayed (data : OptionData) : QuoteView where
  strike := numerics.positiveToF64 data.strikePrice
  impliedVolatility := numerics.positiveToF64 data.impliedVolatility
  callBid := data.callBid.map numerics.positiveToF64
  callAsk := data.callAsk.map numerics.positiveToF64
  callMid := data.callMiddle.map numerics.positiveToF64
  callDelta := data.deltaCall.map numerics.decimalToF64
  putBid := data.putBid.map numerics.positiveToF64
  putAsk := data.putAsk.map numerics.positiveToF64
  putMid := data.putMiddle.map numerics.positiveToF64
  putDelta := data.deltaPut.map numerics.decimalToF64
  gamma := data.gamma.map numerics.decimalToF64

def stored (row : QuoteRow) : QuoteView where
  strike := numerics.positiveToF64 row.strike
  impliedVolatility := numerics.positiveToF64 row.impliedVolatility
  callBid := row.callBid.map numerics.positiveToF64
  callAsk := row.callAsk.map numerics.positiveToF64
  callMid := row.callMid.map numerics.positiveToF64
  callDelta := row.deltaCall.map numerics.decimalToF64
  putBid := row.putBid.map numerics.positiveToF64
  putAsk := row.putAsk.map numerics.positiveToF64
  putMid := row.putMid.map numerics.positiveToF64
  putDelta := row.deltaPut.map numerics.decimalToF64
  gamma := row.gamma.map numerics.decimalToF64

end QuoteView

inductive QuoteSource (Chain : Type) where
  | replayed (chain : Chain)
  | stored (quotes : List QuoteRow)

structure ExpirationView (Chain : Type) where
  expiresAt : UtcDateTime
  daysToExpiration : F64
  labels : List String
  quotes : QuoteSource Chain

inductive StepChains (Chain : Type) where
  | replayed (snapshot : SeriesSnapshot Chain)
  | stored (record : SnapshotRecord)

section Views

variable {Chain : Type} (options : Chain → List OptionData) (numerics : Numerics)

def QuoteSource.quotes : QuoteSource Chain → List QuoteView
  | .replayed chain => (options chain).map (QuoteView.replayed numerics)
  | .stored quotes => quotes.map (QuoteView.stored numerics)

def StepChains.expirations : StepChains Chain → List (ExpirationView Chain)
  | .replayed snapshot => snapshot.chains.map fun chain => {
      expiresAt := chain.expiresAt
      daysToExpiration := numerics.positiveToF64 chain.daysToExpiration
      labels := chain.labels
      quotes := .replayed chain.chain }
  | .stored record => record.expirations.map fun expiration => {
      expiresAt := expiration.expiresAt
      daysToExpiration := numerics.positiveToF64 expiration.daysToExpiration
      labels := expiration.labels
      quotes := .stored expiration.quotes }

end Views

/-! The snapshots read ahead, a window of steps at a time. -/

def windowEnd (fromStep window last : Nat) : Nat :=
  match window with
  | 0 => last
  | span + 1 =>
      match unsigned? u64Limit (fromStep + span) with
      | some stop => min stop last
      | none => last

/-- The repository's `read_range`; the n-th read of an export has an answer of its own. -/
structure SnapshotReads where
  readRange : (earlier : Nat) → (simulation : Uuid) → (generation fromStep toStep : Nat) →
    Except ChainError (List SnapshotRecord)

/-- One `read_range` and its answer. -/
structure RangeRead where
  fromStep : Nat
  toStep : Nat
  answer : Except ChainError (List SnapshotRecord)

def RangeRead.records (read : RangeRead) : List SnapshotRecord :=
  match read.answer with
  | .ok records => records
  | .error _ => []

/-- `reads` is the history of the reads made. -/
structure StoredSteps where
  repository : SnapshotReads
  simulation : Uuid
  loaded : List SnapshotRecord
  windowEnd : Option Nat
  window : Nat
  degraded : Bool
  reads : List RangeRead

namespace StoredSteps

def new (repository : SnapshotReads) (simulation : Uuid) : StoredSteps where
  repository := repository
  simulation := simulation
  loaded := []
  windowEnd := none
  window := snapshotWindowSteps
  degraded := false
  reads := []

def read (stored : StoredSteps) (fromStep toStep : Nat) :
    Except ChainError (List SnapshotRecord) :=
  stored.repository.readRange stored.reads.length stored.simulation currentSnapshotGeneration
    fromStep toStep

def logged (stored : StoredSteps) (fromStep toStep : Nat) : StoredSteps :=
  { stored with reads := stored.reads ++ [⟨fromStep, toStep, stored.read fromStep toStep⟩] }

/-- The loop of `load`: a window refused as too wide is halved and asked for again. -/
def loadWindow (stored : StoredSteps) (fromStep last : Nat) : StoredSteps :=
  let toStep := Api.windowEnd fromStep stored.window last
  let asked := stored.logged fromStep toStep
  match stored.read fromStep toStep with
  | .ok records => { asked with loaded := records, windowEnd := some toStep }
  | .error (.validation _ _) =>
      if 1 < stored.window then
        loadWindow { asked with window := stored.window / 2 } fromStep last
      else { asked with degraded := true }
  | .error _ => { asked with degraded := true }
termination_by stored.window
decreasing_by omega

def load (stored : StoredSteps) (fromStep last : Nat) : StoredSteps :=
  loadWindow { stored with loaded := [] } fromStep last

/-- The window covers no step from `step` on. -/
def exhausted (stored : StoredSteps) (step : Nat) : Bool :=
  match stored.windowEnd with
  | some stop => stop < step
  | none => true

def takeFront (stored : StoredSteps) (step : Nat) : Option SnapshotRecord × StoredSteps :=
  match stored.loaded.dropWhile fun record => record.step < step with
  | [] => (none, { stored with loaded := [] })
  | record :: rest =>
      if record.step = step then (some record, { stored with loaded := rest })
      else (none, { stored with loaded := record :: rest })

def take (stored : StoredSteps) (step last : Nat) : Option SnapshotRecord × StoredSteps :=
  if stored.degraded then (none, stored)
  else (if stored.exhausted step then stored.load step last else stored).takeFront step

end StoredSteps

/-! The rows and their encodings. -/

abbrev Bytes := List UInt8

/-- `serde_json::Value`; an object lists its members as `json!` does. -/
inductive JsonValue where
  | null
  | natural (value : Nat)
  | float (value : F64)
  | text (value : String)
  | object (members : List (String × JsonValue))

namespace JsonValue

/-- `json!` of an `f64`: a value that is not finite becomes `null`. -/
def ofF64 (value : F64) : JsonValue :=
  if value.isFinite then .float value else .null

def ofOption : Option F64 → JsonValue
  | some value => ofF64 value
  | none => .null

end JsonValue

/-- What the two encoding crates do: `serde_json::to_vec`, and the bytes of one CSV record
with its terminator. `csv` refuses a record that is not as long as the one before. -/
structure Encoders where
  toVec : JsonValue → Except String Bytes
  csvRecord : List String → Bytes
  unequalLengths : (expected found : Nat) → String

section Rows

variable {Chain : Type} (options : Chain → List OptionData) (numerics : Numerics)

def jsonRows (dataset : Dataset) (step : Nat) (simulatedAt symbol : String) (row : FactorRow)
    (chains : Option (StepChains Chain)) : List JsonValue :=
  match dataset with
  | .underlying =>
      [.object [
        ("step", .natural step),
        ("simulated_at", .text simulatedAt),
        ("symbol", .text symbol),
        ("price", .ofF64 (numerics.positiveToF64 row.spot))]]
  | .volatility =>
      [.object [
        ("step", .natural step),
        ("simulated_at", .text simulatedAt),
        ("symbol", .text symbol),
        ("base_volatility", .ofF64 (numerics.positiveToF64 row.baseVolatility))]]
  | .optionChains =>
      match chains with
      | none => []
      | some chains =>
          (chains.expirations numerics).flatMap fun expiration =>
            let expiresAt := renderInstant expiration.expiresAt
            let labels := "|".intercalate expiration.labels
            (expiration.quotes.quotes options numerics).map fun quote =>
              .object [
                ("step", .natural step),
                ("simulated_at", .text simulatedAt),
                ("symbol", .text symbol),
                ("expires_at", .text expiresAt),
                ("labels", .text labels),
                ("days_to_expiration", .ofF64 expiration.daysToExpiration),
                ("strike", .ofF64 quote.strike),
                ("implied_volatility", .ofF64 quote.impliedVolatility),
                ("call_bid", .ofOption quote.callBid),
                ("call_ask", .ofOption quote.callAsk),
                ("call_mid", .ofOption quote.callMid),
                ("call_delta", .ofOption quote.callDelta),
                ("put_bid", .ofOption quote.putBid),
                ("put_ask", .ofOption quote.putAsk),
                ("put_mid", .ofOption quote.putMid),
                ("put_delta", .ofOption quote.putDelta),
                ("gamma", .ofOption quote.gamma)]

def csvRows (dataset : Dataset) (step : Nat) (simulatedAt symbol : String) (row : FactorRow)
    (chains : Option (StepChains Chain)) : List (List String) :=
  match dataset with
  | .underlying =>
      [[toString step, simulatedAt, symbol,
        numerics.displayF64 (numerics.positiveToF64 row.spot)]]
  | .volatility =>
      [[toString step, simulatedAt, symbol,
        numerics.displayF64 (numerics.positiveToF64 row.baseVolatility)]]
  | .optionChains =>
      match chains with
      | none => []
      | some chains =>
          (chains.expirations numerics).flatMap fun expiration =>
            let expiresAt := renderInstant expiration.expiresAt
            let labels := "|".intercalate expiration.labels
            (expiration.quotes.quotes options numerics).map fun quote => [
              toString step,
              simulatedAt,
              symbol,
              expiresAt,
              labels,
              numerics.displayF64 expiration.daysToExpiration,
              numerics.displayF64 quote.strike,
              numerics.displayF64 quote.impliedVolatility,
              renderOptional numerics quote.callBid,
              renderOptional numerics quote.callAsk,
              renderOptional numerics quote.callMid,
              renderOptional numerics quote.callDelta,
              renderOptional numerics quote.putBid,
              renderOptional numerics quote.putAsk,
              renderOptional numerics quote.putMid,
              renderOptional numerics quote.putDelta,
              renderOptional numerics quote.gamma]

end Rows

def rowEncodingError (text : String) : ChainError :=
  .internal s!"failed to encode an export row: {text}"

/-- The loop of `encode_csv`; `previous` is the length of the record before. -/
def writeRecords (encoders : Encoders) :
    (previous : Option Nat) → List (List String) → Except ChainError Bytes
  | _, [] => .ok []
  | none, record :: rest => do
      let written ← writeRecords encoders (some record.length) rest
      return encoders.csvRecord record ++ written
  | some previous, record :: rest =>
      if record.length = previous then do
        let written ← writeRecords encoders (some record.length) rest
        return encoders.csvRecord record ++ written
      else .error (rowEncodingError (encoders.unequalLengths previous record.length))

def encodeCsv (encoders : Encoders) (records : List (List String)) : Except ChainError Bytes :=
  writeRecords encoders none records

/-- The loop of `Writer::rows` over JSON values: a comma before each but the first of the
whole document. -/
def writeValues (encoders : Encoders) :
    (first : Bool) → List JsonValue → Except ChainError (Bytes × Bool)
  | first, [] => .ok ([], first)
  | first, value :: rest => do
      let encoded ← (encoders.toVec value).mapError rowEncodingError
      let written ← writeValues encoders false rest
      return ((if first then [] else [','.toUInt8]) ++ encoded ++ written.1, written.2)

inductive Writer where
  | json (dataset : Dataset) (first : Bool)
  | csv (dataset : Dataset)
  deriving DecidableEq

namespace Writer

def new : Format → Dataset → Writer
  | .json, dataset => .json dataset true
  | .csv, dataset => .csv dataset

def prologue (encoders : Encoders) : Writer → Except ChainError (Option Bytes)
  | .json _ _ => .ok (some ['['.toUInt8])
  | .csv dataset => do
      let header ← encodeCsv encoders [dataset.header]
      return some header

def epilogue : Writer → Except ChainError (Option Bytes)
  | .json _ _ => .ok (some [']'.toUInt8])
  | .csv _ => .ok none

def rows {Chain : Type} (options : Chain → List OptionData) (numerics : Numerics)
    (encoders : Encoders) (writer : Writer) (parameters : SimulationParametersV2) (step : Nat)
    (row : FactorRow) (chains : Option (StepChains Chain)) : Except ChainError (Bytes × Writer) :=
  let simulatedAt := renderInstant row.simulatedAt
  match writer with
  | .json dataset first => do
      let written ← writeValues encoders first
        (jsonRows options numerics dataset step simulatedAt parameters.symbol row chains)
      return (written.1, .json dataset written.2)
  | .csv dataset => do
      let written ← encodeCsv encoders
        (csvRows options numerics dataset step simulatedAt parameters.symbol row chains)
      return (written, .csv dataset)

end Writer

/-! The producer. -/

/-- What a step gave the writer. -/
structure StepGroup (Chain : Type) where
  step : Nat
  row : FactorRow
  chains : Option (StepChains Chain)

/-- Why a producer stops before the end of the range. -/
inductive Halt where
  | disconnected
  | failed (fault : Fault)
  deriving DecidableEq

/-- A producer under way, with the history of the groups it sent. -/
structure Producing (Chain : Type) where
  writer : Writer
  stored : Option StoredSteps
  servedFromStorage : Nat
  groups : List (StepGroup Chain)
  sent : List Bytes

/-- A producer that has returned. -/
structure ExportRun (Chain : Type) where
  groups : List (StepGroup Chain)
  reads : List RangeRead
  sent : List Bytes
  result : Except Fault Unit

/-- `blocking_send`: the receiver is there at the n-th send, or is not. -/
def blockingSend (receiver : Nat → Bool) (sent : List Bytes) (chunk : Bytes) :
    Except Halt (List Bytes) :=
  if receiver sent.length then .ok (sent ++ [chunk]) else .error .disconnected

def sendSome (receiver : Nat → Bool) (sent : List Bytes) : Option Bytes →
    Except Halt (List Bytes)
  | some chunk => blockingSend receiver sent chunk
  | none => .ok sent

def takeRecord (stored : Option StoredSteps) (step last : Nat) :
    Option SnapshotRecord × Option StoredSteps :=
  match stored with
  | some stored => ((stored.take step last).1, some (stored.take step last).2)
  | none => (none, none)

def countServed (record : Option SnapshotRecord) (served : Nat) : Except ChainError Nat :=
  match record with
  | some _ => okOr (unsigned? u64Limit (served + 1)) (.internal "the step counter overflowed")
  | none => .ok served

section Produce

variable {Chain : Type} (service : Service) (upstream : Upstream Chain)
  (options : Chain → List OptionData) (encoders : Encoders)

def replayMissing (builder : Option SeriesBuilder) (record : Option SnapshotRecord)
    (step : Nat) : Except Fault (Option (SeriesSnapshot Chain)) :=
  match record, builder with
  | none, some builder => some <$> builder.snapshot service upstream step
  | _, _ => .ok none

def stepChains (record : Option SnapshotRecord) (replayed : Option (SeriesSnapshot Chain)) :
    Option (StepChains Chain) :=
  match record, replayed with
  | some record, _ => some (.stored record)
  | none, some snapshot => some (.replayed snapshot)
  | none, none => none

variable (parameters : SimulationParametersV2) (dataset : Dataset) (format : Format)
  (range : StepRange) (receiver : Nat → Bool)

def produceStep (tape : FactorTape) (builder : Option SeriesBuilder) (step : Nat)
    (state : Producing Chain) : Except Halt (Producing Chain) := do
  let row ← (okOr (tape.row step) (.internal s!"the tape has no row at step {step}")).mapError
    fun error => Halt.failed (.error error)
  let taken := takeRecord state.stored step range.toStep
  let replayed ← (replayMissing service upstream builder taken.1 step).mapError Halt.failed
  let chains := stepChains taken.1 replayed
  let served ← (countServed taken.1 state.servedFromStorage).mapError
    fun error => Halt.failed (.error error)
  let written ← (state.writer.rows options service.numerics encoders parameters row.step row
    chains).mapError fun error => Halt.failed (.error error)
  let sent ← sendSome receiver state.sent (if written.1.isEmpty then none else some written.1)
  return {
    writer := written.2
    stored := taken.2
    servedFromStorage := served
    groups := state.groups ++ [⟨row.step, row, chains⟩]
    sent := sent }

/-- The loop over the range, stopping at the first step that does not complete. -/
def produceSteps (tape : FactorTape) (builder : Option SeriesBuilder) :
    List Nat → Producing Chain → Producing Chain × Except Halt Unit
  | [], state => (state, .ok ())
  | step :: rest, state =>
      match produceStep service upstream options encoders parameters range receiver tape builder
          step state with
      | .ok next => produceSteps tape builder rest next
      | .error halt => (state, .error halt)

/-- A client that went away is no error. -/
def outcome : Except Halt Unit → Except Fault Unit
  | .ok () => .ok ()
  | .error .disconnected => .ok ()
  | .error (.failed fault) => .error fault

def Producing.finish (state : Producing Chain) (result : Except Halt Unit) : ExportRun Chain where
  groups := state.groups
  reads := (state.stored.map StoredSteps.reads).getD []
  sent := state.sent
  result := outcome result

/-- The tape and, where chains are needed, the builder. -/
def prepare : Except Fault (FactorTape × Option SeriesBuilder) := do
  let tape ← FactorTape.build service upstream parameters parameters.method
  if dataset.needsChains then
    let builder ← (SeriesBuilder.new service parameters tape : Except ChainError SeriesBuilder)
    return (tape, some builder)
  else return (tape, none)

def sendPrologue (state : Producing Chain) : Except Halt (Producing Chain) := do
  let opening ← (state.writer.prologue encoders).mapError fun error => Halt.failed (.error error)
  let sent ← sendSome receiver state.sent opening
  return { state with sent := sent }

def sendEpilogue (state : Producing Chain) : Except Halt (Producing Chain) := do
  let closing ← state.writer.epilogue.mapError fun error => Halt.failed (.error error)
  let sent ← sendSome receiver state.sent closing
  return { state with sent := sent }

/-- After the loop: the closing of a document whose range is done. -/
def closeDocument (walked : Producing Chain × Except Halt Unit) : ExportRun Chain :=
  match walked.2 with
  | .error halt => walked.1.finish (.error halt)
  | .ok () =>
      match sendEpilogue receiver walked.1 with
      | .error halt => walked.1.finish (.error halt)
      | .ok closed => closed.finish (.ok ())

def produce (stored : Option StoredSteps) : ExportRun Chain :=
  let state : Producing Chain := {
    writer := .new format dataset
    stored := stored
    servedFromStorage := 0
    groups := []
    sent := [] }
  match prepare service upstream parameters dataset with
  | .error fault => state.finish (.error (.failed fault))
  | .ok (tape, builder) =>
      match sendPrologue encoders receiver state with
      | .error halt => state.finish (.error halt)
      | .ok opened =>
          closeDocument receiver (produceSteps service upstream options encoders parameters range
            receiver tape builder range.steps opened)

/-- What a writer makes of a sequence of groups: a chunk each, and the writer after them. -/
def writeGroups : Writer → List (StepGroup Chain) → Except ChainError (List Bytes × Writer)
  | writer, [] => .ok ([], writer)
  | writer, group :: rest => do
      let written ← writer.rows options service.numerics encoders parameters group.step group.row
        group.chains
      let others ← writeGroups written.2 rest
      return (written.1 :: others.1, others.2)

/-- The document of a sequence of groups, in the pieces it is sent in: the opening, each
chunk that is not empty, the closing. -/
def documentPieces (groups : List (StepGroup Chain)) : Except ChainError (List Bytes) := do
  let writer := Writer.new format dataset
  let opening ← writer.prologue encoders
  let written ← writeGroups service options encoders parameters writer groups
  let closing ← written.2.epilogue
  return opening.toList ++ written.1.filter (fun chunk => !chunk.isEmpty) ++ closing.toList

end Produce

end OptionChainSimulator.Api
