import Mathlib.Tactic
import OptionChainSimulator.Foundation.Delimited
import OptionChainSimulator.Api.Export
import OptionChainSimulator.Session.Horizon

namespace OptionChainSimulator.Api

open Foundation Foundation.Delimited Utils Domain Session Infrastructure

/-! The table an export carries, and that its two encodings both decode to it. -/

section Statement

/-- One value of the table. -/
inductive Cell where
  | count (value : Nat)
  | text (value : String)
  | number (value : F64)
  | optional (value : Option F64)

namespace Cell

def json : Cell → JsonValue
  | .count value => .natural value
  | .text value => .text value
  | .number value => .ofF64 value
  | .optional value => .ofOption value

def csv (numerics : Numerics) : Cell → String
  | .count value => toString value
  | .text value => value
  | .number value => numerics.displayF64 value
  | .optional value => renderOptional numerics value

end Cell

/-- Where a row stands in the table; only a contract has an expiration and a strike. -/
structure RowKey where
  step : Nat
  contract : Option (UtcDateTime × Positive)

/-- Steps ascend, then expirations, then strikes. -/
def RowKey.Before (left right : RowKey) : Prop :=
  left.step < right.step ∨ left.step = right.step ∧
    ∃ expiry strike otherExpiry otherStrike,
      left.contract = some (expiry, strike) ∧ right.contract = some (otherExpiry, otherStrike) ∧
        (expiry < otherExpiry ∨ expiry = otherExpiry ∧ strike.value < otherStrike.value)

structure TableRow where
  key : RowKey
  cells : List Cell

namespace TableRow

def json (dataset : Dataset) (row : TableRow) : JsonValue :=
  .object (dataset.header.zip (row.cells.map Cell.json))

def csv (numerics : Numerics) (row : TableRow) : List String :=
  row.cells.map (Cell.csv numerics)

end TableRow

section Table

variable {Chain : Type} (options : Chain → List OptionData) (numerics : Numerics)

/-- The strikes of an expiration's quotes, as the source has them. -/
def QuoteSource.strikes : QuoteSource Chain → List Positive
  | .replayed chain => (options chain).map OptionData.strikePrice
  | .stored quotes => quotes.map QuoteRow.strike

def contractCells (step : Nat) (simulatedAt symbol : String) (expiration : ExpirationView Chain)
    (quote : QuoteView) : List Cell :=
  [.count step, .text simulatedAt, .text symbol, .text (renderInstant expiration.expiresAt),
    .text ("|".intercalate expiration.labels), .number expiration.daysToExpiration,
    .number quote.strike, .number quote.impliedVolatility, .optional quote.callBid,
    .optional quote.callAsk, .optional quote.callMid, .optional quote.callDelta,
    .optional quote.putBid, .optional quote.putAsk, .optional quote.putMid,
    .optional quote.putDelta, .optional quote.gamma]

def expirationRows (step : Nat) (simulatedAt symbol : String)
    (expiration : ExpirationView Chain) : List TableRow :=
  ((expiration.quotes.strikes options).zip (expiration.quotes.quotes options numerics)).map
    fun entry => {
      key := ⟨step, some (expiration.expiresAt, entry.1)⟩
      cells := contractCells step simulatedAt symbol expiration entry.2 }

/-- The rows of one group. -/
def tableRows (dataset : Dataset) (symbol : String) (group : StepGroup Chain) : List TableRow :=
  let simulatedAt := renderInstant group.row.simulatedAt
  match dataset with
  | .underlying =>
      [⟨⟨group.step, none⟩, [.count group.step, .text simulatedAt, .text symbol,
        .number (numerics.positiveToF64 group.row.spot)]⟩]
  | .volatility =>
      [⟨⟨group.step, none⟩, [.count group.step, .text simulatedAt, .text symbol,
        .number (numerics.positiveToF64 group.row.baseVolatility)]⟩]
  | .optionChains =>
      match group.chains with
      | none => []
      | some chains =>
          (chains.expirations numerics).flatMap
            (expirationRows options numerics group.step simulatedAt symbol)

/-- The table of a whole document. -/
def exportTable (dataset : Dataset) (symbol : String) (groups : List (StepGroup Chain)) :
    List TableRow :=
  groups.flatMap (tableRows options numerics dataset symbol)

/-- What each source promises of its order. -/
def StepChains.Ascending : StepChains Chain → Prop
  | .replayed snapshot =>
      (snapshot.chains.Pairwise fun left right => left.expiresAt < right.expiresAt) ∧
        ∀ chain ∈ snapshot.chains, (options chain.chain).Pairwise fun left right =>
          left.strikePrice.value < right.strikePrice.value
  | .stored record => record.Ascending

/-- Steps ascend, and the chains of each keep their source's promise. -/
structure GroupsAscending (groups : List (StepGroup Chain)) : Prop where
  steps : groups.Pairwise fun left right => left.step < right.step
  chains : ∀ group ∈ groups, ∀ chains, group.chains = some chains → chains.Ascending options

end Table

/-- The member of an object under a name. -/
def JsonValue.member (name : String) : JsonValue → Option JsonValue
  | .object members => members.lookup name
  | _ => none

/-- A decoded JSON value and a decoded CSV field that say the same. -/
inductive SameValue (parseF64 : String → Option F64) : JsonValue → String → Prop where
  | absent : SameValue parseF64 .null ""
  | natural (value : Nat) : SameValue parseF64 (.natural value) (toString value)
  | float {value field} : parseF64 field = some value → SameValue parseF64 (.float value) field
  | text (value : String) : SameValue parseF64 (.text value) value

/-- The columns whose text can be empty: labels joined from none, and a symbol no
simulation has. -/
def blankColumns (symbol : String) : List String :=
  if symbol = "" then ["labels", "symbol"] else ["labels"]

/-- One column of one row in both encodings.  An empty field is an absent value, but for the
text of a column that may be empty. -/
structure ColumnAgrees (parseF64 : String → Option F64) (symbol name : String)
    (value : JsonValue) (field : String) : Prop where
  same : SameValue parseF64 value field
  absent : value = .null → field = ""
  empty : field = "" → value = .null ∨ name ∈ blankColumns symbol ∧ value = .text ""

/-- A row says the same in both encodings, and stands where its key says. -/
structure RowAgrees (numerics : Numerics) (parseF64 : String → Option F64) (symbol : String)
    (dataset : Dataset) (row : TableRow) : Prop where
  arity : (row.csv numerics).length = dataset.header.length
  columns : ∀ (index : Nat) (name : String), dataset.header[index]? = some name → ∃ value field,
    (row.json dataset).member name = some value ∧ (row.csv numerics)[index]? = some field ∧
      ColumnAgrees parseF64 symbol name value field
  step : (row.json dataset).member "step" = some (.natural row.key.step)
  contract : ∀ expiry strike, row.key.contract = some (expiry, strike) →
    (row.json dataset).member "expires_at" = some (.text (renderInstant expiry)) ∧
      (row.json dataset).member "strike" = some (.ofF64 (numerics.positiveToF64 strike))

/-- What doubles promise: a decimal's is finite, and the shortest text of a finite one is
read back as that one. -/
structure FloatText (numerics : Numerics) (parseF64 : String → Option F64) : Prop where
  finite : ∀ value, (numerics.toF64 value).isFinite = true
  parses : ∀ value, value.isFinite = true → parseF64 (numerics.displayF64 value) = some value
  empty : parseF64 "" = none

section Codecs

variable (encoders : Encoders)

def jsonCodec (decode : Bytes → Option (JsonValue × Bytes)) : Codec UInt8 JsonValue where
  encode value := (encoders.toVec value).toOption.getD []
  decode := decode

def csvCodec (decode : Bytes → Option (List String × Bytes)) : Codec UInt8 (List String) where
  encode := encoders.csvRecord
  decode := decode

/-- `serde_json` encodes these values, and reads each back. -/
structure SerdeFaithful (decode : Bytes → Option (JsonValue × Bytes)) (values : List JsonValue) :
    Prop where
  encodes : ∀ value ∈ values, ∃ bytes, encoders.toVec value = .ok bytes
  faithful : (jsonCodec encoders decode).Faithful values

end Codecs

end Statement

section Cells

variable {numerics : Numerics} {parseF64 : String → Option F64} {dataset : Dataset}
  {symbol : String}

/-- What a column's cell must be for the encodings to agree on it. -/
def Cell.Proper (symbol name : String) : Cell → Prop
  | .count _ => True
  | .text value => value = "" → name ∈ blankColumns symbol
  | .number value => value.isFinite = true
  | .optional value => ∀ present, value = some present → present.isFinite = true

theorem columnAgrees_float (floats : FloatText numerics parseF64) {name : String} {value : F64}
    (finite : value.isFinite = true) :
    ColumnAgrees parseF64 symbol name (.ofF64 value) (numerics.displayF64 value) := by
  have parsed := floats.parses value finite
  have shown : JsonValue.ofF64 value = .float value := if_pos finite
  rw [shown]
  refine ⟨.float parsed, ?_, ?_⟩
  · intro impossible
    cases impossible
  · intro blank
    rw [blank, floats.empty] at parsed
    cases parsed

theorem columnAgrees_of_proper (floats : FloatText numerics parseF64) {name : String}
    {cell : Cell} (proper : cell.Proper symbol name) :
    ColumnAgrees parseF64 symbol name cell.json (cell.csv numerics) := by
  cases cell with
  | count value =>
      refine ⟨.natural value, ?_, ?_⟩
      · intro impossible
        cases impossible
      · intro blank
        change value.repr = "" at blank
        exact absurd blank Nat.repr_ne_empty
  | text value =>
      refine ⟨.text value, ?_, ?_⟩
      · intro impossible
        cases impossible
      · intro blank
        change value = "" at blank
        exact .inr ⟨proper blank, congrArg JsonValue.text blank⟩
  | number value => exact columnAgrees_float floats proper
  | optional value =>
      cases value with
      | none => exact ⟨.absent, fun _ => rfl, fun _ => .inl rfl⟩
      | some present => exact columnAgrees_float floats (proper present rfl)

theorem lookup_zip {names : List String} {values : List JsonValue} (distinct : names.Nodup)
    {index : Nat} {name : String} {value : JsonValue} (named : names[index]? = some name)
    (held : values[index]? = some value) : (names.zip values).lookup name = some value := by
  induction names generalizing values index with
  | nil => cases named
  | cons first rest ih =>
      obtain ⟨fresh, others⟩ := List.nodup_cons.mp distinct
      cases values with
      | nil => cases held
      | cons head tail =>
          cases index with
          | zero =>
              cases named
              cases held
              simp
          | succ index =>
              have different : name ≠ first := by
                intro equal
                exact fresh (equal ▸ List.mem_of_getElem? named)
              rw [List.zip_cons_cons, List.lookup_cons, beq_false_of_ne different]
              exact ih others named held

theorem Dataset.header_nodup (dataset : Dataset) : dataset.header.Nodup := by
  cases dataset with
  | underlying => decide
  | volatility => decide
  | optionChains => decide

theorem TableRow.member_json {row : TableRow} {index : Nat} {name : String} {cell : Cell}
    (named : dataset.header[index]? = some name) (held : row.cells[index]? = some cell) :
    (row.json dataset).member name = some cell.json := by
  apply lookup_zip dataset.header_nodup named
  rw [List.getElem?_map, held]
  rfl

theorem columns_agree (floats : FloatText numerics parseF64) {row : TableRow}
    (proper : List.Forall₂ (fun name cell => cell.Proper symbol name) dataset.header row.cells)
    {index : Nat} {name : String} (named : dataset.header[index]? = some name) :
    ∃ value field, (row.json dataset).member name = some value ∧
      (row.csv numerics)[index]? = some field ∧ ColumnAgrees parseF64 symbol name value field := by
  obtain ⟨within, equal⟩ := List.getElem?_eq_some_iff.mp named
  have inside : index < row.cells.length := proper.length_eq ▸ within
  have held : row.cells[index]? = some row.cells[index] := List.getElem?_eq_getElem inside
  have fits := List.Forall₂.get proper within inside
  simp only [List.get_eq_getElem, equal] at fits
  refine ⟨row.cells[index].json, row.cells[index].csv numerics,
    TableRow.member_json named held, ?_, columnAgrees_of_proper floats fits⟩
  change (row.cells.map (Cell.csv numerics))[index]? = _
  rw [List.getElem?_map, held]
  rfl

end Cells

section Table

variable {Chain : Type} {options : Chain → List OptionData} {numerics : Numerics}
  {parseF64 : String → Option F64} {dataset : Dataset} {symbol : String}

/-- Every number of a quote came from a decimal. -/
structure QuoteView.Finite (quote : QuoteView) : Prop where
  strike : quote.strike.isFinite = true
  impliedVolatility : quote.impliedVolatility.isFinite = true
  optionals : ∀ value ∈ [quote.callBid, quote.callAsk, quote.callMid, quote.callDelta,
    quote.putBid, quote.putAsk, quote.putMid, quote.putDelta, quote.gamma],
    ∀ present, value = some present → present.isFinite = true

theorem isFinite_of_map {α : Type} {convert : α → F64}
    (finite : ∀ value, (convert value).isFinite = true) {held : Option α} {present : F64}
    (mapped : held.map convert = some present) : present.isFinite = true := by
  obtain ⟨value, -, rfl⟩ := Option.map_eq_some_iff.mp mapped
  exact finite value

theorem FloatText.finite_positive (floats : FloatText numerics parseF64) (value : Positive) :
    (numerics.positiveToF64 value).isFinite = true :=
  floats.finite value.value

theorem QuoteView.finite_replayed (floats : FloatText numerics parseF64) (data : OptionData) :
    (QuoteView.replayed numerics data).Finite := by
  refine ⟨floats.finite_positive _, floats.finite_positive _, ?_⟩
  intro value member present equal
  simp only [QuoteView.replayed, List.mem_cons, List.not_mem_nil, or_false] at member
  subst equal
  obtain same | same | same | same | same | same | same | same | same := member
  all_goals first
    | exact isFinite_of_map floats.finite_positive same.symm
    | exact isFinite_of_map floats.finite same.symm

theorem QuoteView.finite_stored (floats : FloatText numerics parseF64) (row : QuoteRow) :
    (QuoteView.stored numerics row).Finite := by
  refine ⟨floats.finite_positive _, floats.finite_positive _, ?_⟩
  intro value member present equal
  simp only [QuoteView.stored, List.mem_cons, List.not_mem_nil, or_false] at member
  subst equal
  obtain same | same | same | same | same | same | same | same | same := member
  all_goals first
    | exact isFinite_of_map floats.finite_positive same.symm
    | exact isFinite_of_map floats.finite same.symm

theorem QuoteSource.finite_of_mem (floats : FloatText numerics parseF64)
    {source : QuoteSource Chain} {quote : QuoteView}
    (member : quote ∈ source.quotes options numerics) : quote.Finite := by
  cases source with
  | replayed chain =>
      obtain ⟨data, -, rfl⟩ := List.mem_map.mp member
      exact QuoteView.finite_replayed floats data
  | stored quotes =>
      obtain ⟨row, -, rfl⟩ := List.mem_map.mp member
      exact QuoteView.finite_stored floats row

theorem QuoteSource.length_strikes (source : QuoteSource Chain) :
    (source.strikes options).length = (source.quotes options numerics).length := by
  cases source with
  | replayed chain => simp [strikes, quotes]
  | stored quotes => simp [strikes, QuoteSource.quotes]

theorem QuoteSource.strike_of_mem_zip {source : QuoteSource Chain} {strike : Positive}
    {quote : QuoteView}
    (member : (strike, quote) ∈ (source.strikes options).zip (source.quotes options numerics)) :
    quote.strike = numerics.positiveToF64 strike := by
  cases source with
  | replayed chain =>
      rw [strikes, quotes, List.zip_map'] at member
      obtain ⟨data, -, equal⟩ := List.mem_map.mp member
      cases equal
      rfl
  | stored quotes =>
      rw [strikes, QuoteSource.quotes, List.zip_map'] at member
      obtain ⟨row, -, equal⟩ := List.mem_map.mp member
      cases equal
      rfl

theorem renderInstant_ne_empty (instant : UtcDateTime) : renderInstant instant ≠ "" := by
  intro blank
  have lengths := congrArg String.length blank
  simp only [renderInstant, String.length_append] at lengths
  have closing : (toString "Z").length = 1 := rfl
  have empty : "".length = 0 := rfl
  omega

@[simp] theorem mem_blankColumns {name : String} :
    name ∈ blankColumns symbol ↔ name = "labels" ∨ name = "symbol" ∧ symbol = "" := by
  unfold blankColumns
  split_ifs with blank
  · simp [blank]
  · simp [blank]

theorem proper_contractCells {step : Nat} {simulatedAt : String} (shown : simulatedAt ≠ "")
    {expiration : ExpirationView Chain} {quote : QuoteView}
    (days : expiration.daysToExpiration.isFinite = true) (finite : quote.Finite) :
    List.Forall₂ (fun name cell => cell.Proper symbol name) Dataset.optionChains.header
      (contractCells step simulatedAt symbol expiration quote) := by
  have rendered := renderInstant_ne_empty expiration.expiresAt
  have optionals := finite.optionals
  simp only [List.forall_mem_cons, List.not_mem_nil, false_implies, implies_true, and_true]
    at optionals
  simp only [Dataset.header, contractCells, List.forall₂_cons, List.forall₂_nil_left_iff,
    Cell.Proper, and_true, true_and]
  simp [shown, rendered, days, finite.strike, finite.impliedVolatility]
  exact optionals

/-- What holds of every row of a group: its cells fill the header's columns, and those of
the key are the key's. -/
structure TableRow.Placed (numerics : Numerics) (symbol : String) (dataset : Dataset)
    (row : TableRow) : Prop where
  proper : List.Forall₂ (fun name cell => cell.Proper symbol name) dataset.header row.cells
  step : row.cells[0]? = some (.count row.key.step)
  contract : ∀ expiry strike, row.key.contract = some (expiry, strike) →
    dataset = .optionChains ∧ row.cells[3]? = some (.text (renderInstant expiry)) ∧
      row.cells[6]? = some (.number (numerics.positiveToF64 strike))

theorem exportTable_cons (group : StepGroup Chain) (rest : List (StepGroup Chain)) :
    exportTable options numerics dataset symbol (group :: rest) =
      tableRows options numerics dataset symbol group ++
        exportTable options numerics dataset symbol rest :=
  List.flatMap_cons

/-- A row of the contracts is that of one strike of one expiration. -/
theorem exists_of_mem_contracts {group : StepGroup Chain} {row : TableRow}
    (member : row ∈ tableRows options numerics .optionChains symbol group) :
    ∃ (chains : StepChains Chain) (expiration : ExpirationView Chain) (strike : Positive)
      (quote : QuoteView), group.chains = some chains ∧
        expiration ∈ chains.expirations numerics ∧
        (strike, quote) ∈ (expiration.quotes.strikes options).zip
          (expiration.quotes.quotes options numerics) ∧
        row = {
          key := ⟨group.step, some (expiration.expiresAt, strike)⟩
          cells := contractCells group.step (renderInstant group.row.simulatedAt) symbol
            expiration quote } := by
  unfold tableRows at member
  dsimp only at member
  cases held : group.chains with
  | none =>
      rw [held] at member
      cases member
  | some chains =>
      rw [held] at member
      obtain ⟨expiration, listed, inside⟩ := List.mem_flatMap.mp member
      obtain ⟨⟨strike, quote⟩, paired, rfl⟩ := List.mem_map.mp inside
      exact ⟨chains, expiration, strike, quote, rfl, listed, paired, rfl⟩

theorem placed_of_mem (floats : FloatText numerics parseF64) {group : StepGroup Chain}
    {row : TableRow} (member : row ∈ tableRows options numerics dataset symbol group) :
    row.Placed numerics symbol dataset := by
  have shown := renderInstant_ne_empty group.row.simulatedAt
  have finite : ∀ value, (numerics.positiveToF64 value).isFinite = true :=
    fun value => floats.finite value.value
  cases dataset with
  | underlying =>
      obtain rfl := List.mem_singleton.mp member
      refine ⟨?_, rfl, ?_⟩
      · simp [Dataset.header, Cell.Proper, shown, finite]
      · intro expiry strike impossible
        cases impossible
  | volatility =>
      obtain rfl := List.mem_singleton.mp member
      refine ⟨?_, rfl, ?_⟩
      · simp [Dataset.header, Cell.Proper, shown, finite]
      · intro expiry strike impossible
        cases impossible
  | optionChains =>
      obtain ⟨chains, expiration, strike, quote, -, listed, paired, rfl⟩ :=
        exists_of_mem_contracts member
      have days : expiration.daysToExpiration.isFinite = true := by
        cases chains with
        | replayed snapshot =>
            obtain ⟨chain, -, rfl⟩ := List.mem_map.mp listed
            exact finite chain.daysToExpiration
        | stored record =>
            obtain ⟨expiry, -, rfl⟩ := List.mem_map.mp listed
            exact finite expiry.daysToExpiration
      have whole := QuoteSource.finite_of_mem floats (List.of_mem_zip paired).2
      have struck := QuoteSource.strike_of_mem_zip paired
      refine ⟨proper_contractCells shown days whole, rfl, ?_⟩
      intro expiry otherStrike keyed
      cases keyed
      refine ⟨rfl, rfl, ?_⟩
      change some (Cell.number quote.strike) = _
      rw [struck]

theorem rowAgrees_of_placed (floats : FloatText numerics parseF64) {row : TableRow}
    (placed : row.Placed numerics symbol dataset) :
    RowAgrees numerics parseF64 symbol dataset row := by
  have named : dataset.header[0]? = some "step" := by
    cases dataset with
    | underlying => rfl
    | volatility => rfl
    | optionChains => rfl
  refine ⟨?_, ?_, ?_, ?_⟩
  · rw [TableRow.csv, List.length_map, placed.proper.length_eq]
  · intro index name column
    exact columns_agree floats placed.proper column
  · exact TableRow.member_json named placed.step
  · intro expiry strike keyed
    obtain ⟨rfl, expires, struck⟩ := placed.contract expiry strike keyed
    exact ⟨TableRow.member_json rfl expires, TableRow.member_json rfl struck⟩

/-! The two row builders fill the same table. -/

theorem map_expirationRows {β : Type} {step : Nat} {simulatedAt : String}
    {expiration : ExpirationView Chain} (convert : TableRow → β) (written : QuoteView → β)
    (same : ∀ strike quote, convert ⟨⟨step, some (expiration.expiresAt, strike)⟩,
      contractCells step simulatedAt symbol expiration quote⟩ = written quote) :
    (expirationRows options numerics step simulatedAt symbol expiration).map convert =
      (expiration.quotes.quotes options numerics).map written := by
  have counted := @QuoteSource.length_strikes _ options numerics expiration.quotes
  rw [expirationRows, List.map_map]
  nth_rewrite 2 [← List.map_snd_zip counted.ge]
  rw [List.map_map]
  apply List.map_congr_left
  intro entry _
  exact same entry.1 entry.2

theorem jsonRows_eq (group : StepGroup Chain) :
    jsonRows options numerics dataset group.step (renderInstant group.row.simulatedAt) symbol
        group.row group.chains =
      (tableRows options numerics dataset symbol group).map (TableRow.json dataset) := by
  cases dataset with
  | underlying => rfl
  | volatility => rfl
  | optionChains =>
      unfold jsonRows tableRows
      cases group.chains with
      | none => rfl
      | some chains =>
          dsimp only
          rw [List.map_flatMap]
          apply List.flatMap_congr
          intro expiration listed
          exact (map_expirationRows _ _ fun _ _ => rfl).symm

theorem csvRows_eq (group : StepGroup Chain) :
    csvRows options numerics dataset group.step (renderInstant group.row.simulatedAt) symbol
        group.row group.chains =
      (tableRows options numerics dataset symbol group).map (TableRow.csv numerics) := by
  cases dataset with
  | underlying => rfl
  | volatility => rfl
  | optionChains =>
      unfold csvRows tableRows
      cases group.chains with
      | none => rfl
      | some chains =>
          dsimp only
          rw [List.map_flatMap]
          apply List.flatMap_congr
          intro expiration listed
          exact (map_expirationRows _ _ fun _ _ => rfl).symm

theorem length_of_mem_csvRows {group : StepGroup Chain} {record : List String}
    (member : record ∈ csvRows options numerics dataset group.step
      (renderInstant group.row.simulatedAt) symbol group.row group.chains) :
    record.length = dataset.header.length := by
  rw [csvRows_eq] at member
  obtain ⟨row, listed, rfl⟩ := List.mem_map.mp member
  rw [TableRow.csv, List.length_map]
  cases dataset with
  | underlying =>
      obtain rfl := List.mem_singleton.mp listed
      rfl
  | volatility =>
      obtain rfl := List.mem_singleton.mp listed
      rfl
  | optionChains =>
      obtain ⟨-, -, -, -, -, -, -, rfl⟩ := exists_of_mem_contracts listed
      rfl

theorem step_of_mem {group : StepGroup Chain} {row : TableRow}
    (member : row ∈ tableRows options numerics dataset symbol group) :
    row.key.step = group.step := by
  cases dataset with
  | underlying => rw [List.mem_singleton.mp member]
  | volatility => rw [List.mem_singleton.mp member]
  | optionChains =>
      obtain ⟨-, -, -, -, -, -, -, rfl⟩ := exists_of_mem_contracts member
      rfl

theorem expirations_ascending {chains : StepChains Chain} (ascending : chains.Ascending options) :
    ((chains.expirations numerics).Pairwise fun left right => left.expiresAt < right.expiresAt) ∧
      ∀ expiration ∈ chains.expirations numerics,
        (expiration.quotes.strikes options).Pairwise
          fun left right => left.value < right.value := by
  cases chains with
  | replayed snapshot =>
      obtain ⟨expiries, strikes⟩ := ascending
      refine ⟨List.pairwise_map.mpr expiries, ?_⟩
      intro expiration listed
      obtain ⟨chain, held, rfl⟩ := List.mem_map.mp listed
      exact List.pairwise_map.mpr (strikes chain held)
  | stored record =>
      obtain ⟨expiries, strikes⟩ := ascending
      refine ⟨List.pairwise_map.mpr expiries, ?_⟩
      intro expiration listed
      obtain ⟨expiry, held, rfl⟩ := List.mem_map.mp listed
      exact List.pairwise_map.mpr (strikes expiry held)

theorem expirationRows_ascending {step : Nat} {simulatedAt : String}
    {expiration : ExpirationView Chain}
    (ascending : (expiration.quotes.strikes options).Pairwise fun left right =>
      left.value < right.value) :
    ((expirationRows options numerics step simulatedAt symbol expiration).map TableRow.key).Pairwise
      RowKey.Before := by
  have same := @QuoteSource.length_strikes _ options numerics expiration.quotes
  have keys : (expirationRows options numerics step simulatedAt symbol expiration).map
      TableRow.key = (expiration.quotes.strikes options).map fun strike =>
        ⟨step, some (expiration.expiresAt, strike)⟩ := by
    rw [expirationRows, List.map_map]
    nth_rewrite 2 [← List.map_fst_zip same.le]
    rw [List.map_map]
    rfl
  rw [keys, List.pairwise_map]
  apply ascending.imp
  intro left right below
  exact .inr ⟨rfl, _, _, _, _, rfl, rfl, .inr ⟨rfl, below⟩⟩

theorem tableRows_ascending {group : StepGroup Chain}
    (ascending : ∀ chains, group.chains = some chains → chains.Ascending options) :
    (tableRows options numerics dataset symbol group).Pairwise fun left right =>
      left.key.Before right.key := by
  cases dataset with
  | underlying => exact List.pairwise_singleton _ _
  | volatility => exact List.pairwise_singleton _ _
  | optionChains =>
      unfold tableRows
      cases held : group.chains with
      | none => exact .nil
      | some chains =>
          obtain ⟨expiries, strikes⟩ := @expirations_ascending _ _ numerics _
            (ascending chains held)
          apply List.pairwise_flatMap.mpr
          refine ⟨?_, ?_⟩
          · intro expiration listed
            exact List.pairwise_map.mp (expirationRows_ascending (strikes expiration listed))
          · apply expiries.imp
            intro left right sooner row inLeft other inRight
            obtain ⟨entry, -, rfl⟩ := List.mem_map.mp inLeft
            obtain ⟨otherEntry, -, rfl⟩ := List.mem_map.mp inRight
            exact .inr ⟨rfl, _, _, _, _, rfl, rfl, .inl sooner⟩

theorem exportTable_ascending {groups : List (StepGroup Chain)}
    (ascending : GroupsAscending options groups) :
    (exportTable options numerics dataset symbol groups).Pairwise fun left right =>
      left.key.Before right.key := by
  apply List.pairwise_flatMap.mpr
  refine ⟨?_, ?_⟩
  · intro group listed
    exact tableRows_ascending (ascending.chains group listed)
  · apply ascending.steps.imp
    intro left right earlier row inLeft other inRight
    apply Or.inl
    rw [step_of_mem inLeft, step_of_mem inRight]
    exact earlier

end Table

section Documents

variable {encoders : Encoders}

theorem writeRecords_eq {records : List (List String)} {previous : Option Nat} {arity : Nat}
    (before : ∀ length, previous = some length → length = arity)
    (even : ∀ record ∈ records, record.length = arity) :
    writeRecords encoders previous records = .ok (records.flatMap encoders.csvRecord) := by
  induction records generalizing previous with
  | nil =>
      cases previous with
      | none => rfl
      | some length => rfl
  | cons record rest ih =>
      have long := even record List.mem_cons_self
      have following : writeRecords encoders (some record.length) rest =
          .ok (rest.flatMap encoders.csvRecord) := by
        apply ih
        · intro length equal
          cases equal
          exact long
        · exact fun other member => even other (List.mem_cons_of_mem _ member)
      cases previous with
      | none =>
          rw [writeRecords, following]
          rfl
      | some length =>
          rw [writeRecords, if_pos (long.trans (before length rfl).symm), following]
          rfl

theorem encodeCsv_eq {records : List (List String)} {arity : Nat}
    (even : ∀ record ∈ records, record.length = arity) :
    encodeCsv encoders records = .ok (records.flatMap encoders.csvRecord) := by
  apply writeRecords_eq _ even
  intro length impossible
  cases impossible

theorem writeValues_eq {decode : Bytes → Option (JsonValue × Bytes)} {first : Bool}
    {values : List JsonValue}
    (encodes : ∀ value ∈ values, ∃ bytes, encoders.toVec value = .ok bytes) :
    writeValues encoders first values =
      .ok (separated ','.toUInt8 first (values.map (jsonCodec encoders decode).encode),
        first && values.isEmpty) := by
  induction values generalizing first with
  | nil => simp [writeValues, separated]
  | cons value rest ih =>
      obtain ⟨bytes, encoded⟩ := encodes value List.mem_cons_self
      have following := @ih false fun other member => encodes other (List.mem_cons_of_mem _ member)
      rw [writeValues, encoded, following]
      simp [Except.mapError, jsonCodec, encoded, separated, Except.toOption, bind, Except.bind,
        pure, Except.pure]

variable {Chain : Type} {service : Service} {options : Chain → List OptionData}
  {parameters : SimulationParametersV2} {dataset : Dataset} {groups : List (StepGroup Chain)}
  {parseF64 : String → Option F64} {decodeJson : Bytes → Option (JsonValue × Bytes)}
  {decodeCsv : Bytes → Option (List String × Bytes)}

theorem rows_json {group : StepGroup Chain} {first : Bool}
    (encodes : ∀ row ∈ tableRows options service.numerics dataset parameters.symbol group,
      ∃ bytes, encoders.toVec (row.json dataset) = .ok bytes) :
    Writer.rows options service.numerics encoders (.json dataset first) parameters group.step
        group.row group.chains =
      .ok (separated ','.toUInt8 first
          (((tableRows options service.numerics dataset parameters.symbol group).map
            (TableRow.json dataset)).map (jsonCodec encoders decodeJson).encode),
        .json dataset (first &&
          (tableRows options service.numerics dataset parameters.symbol group).isEmpty)) := by
  have written := @writeValues_eq encoders decodeJson first
    ((tableRows options service.numerics dataset parameters.symbol group).map
      (TableRow.json dataset)) (by simpa using encodes)
  rw [Writer.rows]
  simp only [jsonRows_eq, written, List.isEmpty_map]
  rfl

theorem rows_csv {group : StepGroup Chain} :
    Writer.rows options service.numerics encoders (.csv dataset) parameters group.step
        group.row group.chains =
      .ok (((tableRows options service.numerics dataset parameters.symbol group).map
        (TableRow.csv service.numerics)).flatMap encoders.csvRecord, .csv dataset) := by
  have written := @encodeCsv_eq encoders _ _ fun record member =>
    @length_of_mem_csvRows _ options service.numerics dataset parameters.symbol group record member
  rw [Writer.rows]
  simp only [written]
  rw [csvRows_eq]
  rfl

theorem writeGroups_json {first : Bool}
    (encodes : ∀ row ∈ exportTable options service.numerics dataset parameters.symbol groups,
      ∃ bytes, encoders.toVec (row.json dataset) = .ok bytes) :
    ∃ chunks last, writeGroups service options encoders parameters (.json dataset first) groups =
        .ok (chunks, .json dataset last) ∧
      chunks.flatten = separated ','.toUInt8 first
        (((exportTable options service.numerics dataset parameters.symbol groups).map
          (TableRow.json dataset)).map (jsonCodec encoders decodeJson).encode) := by
  induction groups generalizing first with
  | nil => exact ⟨[], first, rfl, rfl⟩
  | cons group rest ih =>
      rw [exportTable_cons, List.forall_mem_append] at encodes
      obtain ⟨own, others⟩ := encodes
      obtain ⟨chunks, last, following, flat⟩ := @ih (first &&
        (tableRows options service.numerics dataset parameters.symbol group).isEmpty) others
      refine ⟨separated ','.toUInt8 first
        (((tableRows options service.numerics dataset parameters.symbol group).map
          (TableRow.json dataset)).map (jsonCodec encoders decodeJson).encode) :: chunks, last,
        ?_, ?_⟩
      · rw [writeGroups, @rows_json _ _ service options parameters dataset decodeJson _ _ own]
        change (do
          let others ← writeGroups service options encoders parameters _ rest
          return (_ :: others.1, others.2) : Except ChainError (List Bytes × Writer)) = _
        rw [following]
        rfl
      · rw [List.flatten_cons, flat, exportTable_cons, List.map_append, List.map_append,
          separated_append, List.isEmpty_map, List.isEmpty_map]

theorem writeGroups_csv :
    ∃ chunks, writeGroups service options encoders parameters (.csv dataset) groups =
        .ok (chunks, .csv dataset) ∧
      chunks.flatten =
        ((exportTable options service.numerics dataset parameters.symbol groups).map
          (TableRow.csv service.numerics)).flatMap encoders.csvRecord := by
  induction groups with
  | nil => exact ⟨[], rfl, rfl⟩
  | cons group rest ih =>
      obtain ⟨chunks, following, flat⟩ := ih
      refine ⟨((tableRows options service.numerics dataset parameters.symbol group).map
        (TableRow.csv service.numerics)).flatMap encoders.csvRecord :: chunks, ?_, ?_⟩
      · rw [writeGroups, rows_csv]
        change (do
          let others ← writeGroups service options encoders parameters _ rest
          return (_ :: others.1, others.2) : Except ChainError (List Bytes × Writer)) = _
        rw [following]
        rfl
      · rw [List.flatten_cons, flat, exportTable_cons, List.map_append, List.flatMap_append]

theorem documentPieces_json
    (encodes : ∀ row ∈ exportTable options service.numerics dataset parameters.symbol groups,
      ∃ bytes, encoders.toVec (row.json dataset) = .ok bytes) :
    ∃ pieces, documentPieces service options encoders parameters dataset .json groups =
        .ok pieces ∧
      pieces.flatten = '['.toUInt8 :: separated ','.toUInt8 true
        (((exportTable options service.numerics dataset parameters.symbol groups).map
          (TableRow.json dataset)).map (jsonCodec encoders decodeJson).encode) ++
            [']'.toUInt8] := by
  obtain ⟨chunks, last, written, flat⟩ := @writeGroups_json encoders _ service options parameters
    dataset groups decodeJson true encodes
  refine ⟨[['['.toUInt8]] ++ chunks.filter (fun chunk => !chunk.isEmpty) ++ [[']'.toUInt8]],
    ?_, ?_⟩
  · simp only [documentPieces, Writer.new, Writer.prologue, written, Writer.epilogue, bind,
      Except.bind, pure, Except.pure]
    rfl
  · simp only [List.flatten_append, List.flatten_filter_not_isEmpty, flat]
    simp

theorem documentPieces_csv :
    ∃ pieces, documentPieces service options encoders parameters dataset .csv groups =
        .ok pieces ∧
      pieces.flatten = (dataset.header ::
        (exportTable options service.numerics dataset parameters.symbol groups).map
          (TableRow.csv service.numerics)).flatMap encoders.csvRecord := by
  obtain ⟨chunks, written, flat⟩ := @writeGroups_csv encoders _ service options parameters dataset
    groups
  have header := @encodeCsv_eq encoders [dataset.header] dataset.header.length (by simp)
  refine ⟨[encoders.csvRecord dataset.header] ++ chunks.filter (fun chunk => !chunk.isEmpty) ++ [],
    ?_, ?_⟩
  · simp only [documentPieces, Writer.new, Writer.prologue, header, written, Writer.epilogue, bind,
      Except.bind, pure, Except.pure]
    simp
  · simp only [List.flatten_append, List.flatten_filter_not_isEmpty, flat]
    simp

/-- Whatever a sequence of steps contributes, the JSON array and the CSV file decode to one
table, row for row and column for column, in the order its sources keep. -/
theorem encodings_carry_table (floats : FloatText service.numerics parseF64)
    (serde : SerdeFaithful encoders decodeJson
      ((exportTable options service.numerics dataset parameters.symbol groups).map
        (TableRow.json dataset)))
    (csv : (csvCodec encoders decodeCsv).Faithful (dataset.header ::
      (exportTable options service.numerics dataset parameters.symbol groups).map
        (TableRow.csv service.numerics))) :
    ∃ jsonPieces csvPieces,
      documentPieces service options encoders parameters dataset .json groups = .ok jsonPieces ∧
      documentPieces service options encoders parameters dataset .csv groups = .ok csvPieces ∧
      decodeBracketed (jsonCodec encoders decodeJson) ','.toUInt8 ']'.toUInt8 '['.toUInt8
          jsonPieces.flatten =
        some ((exportTable options service.numerics dataset parameters.symbol groups).map
          (TableRow.json dataset)) ∧
      decodeSequence (csvCodec encoders decodeCsv) csvPieces.flatten =
        some (dataset.header ::
          (exportTable options service.numerics dataset parameters.symbol groups).map
            (TableRow.csv service.numerics)) ∧
      (∀ row ∈ exportTable options service.numerics dataset parameters.symbol groups,
        RowAgrees service.numerics parseF64 parameters.symbol dataset row) ∧
      (GroupsAscending options groups →
        (exportTable options service.numerics dataset parameters.symbol groups).Pairwise
          fun left right => left.key.Before right.key) := by
  obtain ⟨jsonPieces, jsonWritten, jsonFlat⟩ := @documentPieces_json encoders _ service options
    parameters dataset groups decodeJson fun row member =>
      serde.encodes _ (List.mem_map_of_mem member)
  obtain ⟨csvPieces, csvWritten, csvFlat⟩ := @documentPieces_csv encoders _ service options
    parameters dataset groups
  refine ⟨jsonPieces, csvPieces, jsonWritten, csvWritten, ?_, ?_, ?_, exportTable_ascending⟩
  · rw [jsonFlat]
    exact decodeBracketed_encoded (by decide) serde.faithful _
  · rw [csvFlat]
    exact decodeSequence_encoded csv
  · intro row member
    obtain ⟨group, -, inside⟩ := List.mem_flatMap.mp member
    exact rowAgrees_of_placed floats (placed_of_mem floats inside)

end Documents

/-! ### Two steps of option chains, the first of them without a chain -/

/-- The bytes of an ASCII text. -/
def asciiBytes (text : String) : Bytes := text.toList.map Char.toUInt8

/-- Reads off the first known text the input begins with. -/
def readKnown {Item : Type} : List (Item × Bytes) → Bytes → Option (Item × Bytes)
  | [], _ => none
  | (item, text) :: known, input =>
      if text.isPrefixOf input then some (item, input.drop text.length) else readKnown known input

theorem readKnown_head {Item : Type} (item : Item) (text rest : Bytes)
    (known : List (Item × Bytes)) :
    readKnown ((item, text) :: known) (text ++ rest) = some (item, rest) := by
  rw [readKnown, if_pos (List.isPrefixOf_iff_prefix.mpr (List.prefix_append text rest)),
    List.drop_left]

/-- Of texts none of which begins another, each is read off as itself. -/
theorem readKnown_mem {Item : Type} {item : Item} {text : Bytes} (rest : Bytes)
    {known : List (Item × Bytes)} (member : (item, text) ∈ known)
    (apart : known.Pairwise fun left right =>
      ¬ left.2.isPrefixOf right.2 ∧ ¬ right.2.isPrefixOf left.2) :
    readKnown known (text ++ rest) = some (item, rest) := by
  induction known with
  | nil => cases member
  | cons first known ih =>
      obtain ⟨others, apart⟩ := List.pairwise_cons.mp apart
      cases member with
      | head => exact readKnown_head item text rest known
      | tail _ member =>
          have unlike : ¬ first.2.isPrefixOf (text ++ rest) = true := by
            intro begins
            simp only [List.isPrefixOf_iff_prefix] at begins others
            obtain ⟨neither, nor⟩ := others _ member
            obtain longer | shorter :=
              List.prefix_or_prefix_of_prefix begins (List.prefix_append text rest)
            · exact neither longer
            · exact nor shorter
          rw [readKnown, if_neg unlike, ih member apart]

def knownNumbers : List (ℚ × String) :=
  [(5000, "5000"), (5100, "5100"), (1, "1"), (1 / 4, "0.25")]

/-- A few numbers as they are shown; any other by a text that counts it out. -/
def displayNumber (value : F64) : String :=
  match value with
  | .finite number =>
      match knownNumbers.find? fun known => known.1 = number with
      | some known => known.2
      | none => String.ofList ('?' :: List.replicate (Encodable.encode number) '+')
  | .nan => "NaN"
  | .infinite negative => if negative then "-inf" else "inf"

def parseNumber (text : String) : Option F64 :=
  match text.toList with
  | [] => none
  | '?' :: counted => (Encodable.decode counted.length).map .finite
  | _ => (knownNumbers.find? fun known => known.2 = text).map fun known => .finite known.1

theorem parseNumber_displayNumber {value : F64} (finite : value.isFinite = true) :
    parseNumber (displayNumber value) = some value := by
  cases value with
  | nan => cases finite
  | infinite negative => cases finite
  | finite number =>
      cases found : knownNumbers.find? fun known => known.1 = number with
      | none => simp [displayNumber, found, parseNumber]
      | some known =>
          have same : known.1 = number := by simpa using List.find?_some found
          have parsed : ∀ known ∈ knownNumbers, parseNumber known.2 = some (.finite known.1) := by
            decide +kernel
          rw [displayNumber, found, ← same]
          exact parsed known (List.mem_of_find?_eq_some found)

def exportService : Service :=
  { utcService with numerics := { exactNumerics with displayF64 := displayNumber } }

theorem exportService_floatText : FloatText exportService.numerics parseNumber where
  finite _ := rfl
  parses _ finite := parseNumber_displayNumber finite
  empty := rfl

def fiveThousand : Positive := ⟨5000, Nat.ofNat_nonneg 5000⟩

def quarter : Positive := ⟨1 / 4, one_div_nonneg.mpr (Nat.ofNat_nonneg 4)⟩

def thursdayGroup : StepGroup Unit where
  step := 0
  row := ⟨0, Domain.Expiry.thursdayNoon, fiveThousand, quarter⟩
  chains := none

def renderMember (member : String × JsonValue) : String :=
  "\"" ++ member.1 ++ "\":" ++ match member.2 with
    | .null => "null"
    | .natural value => toString value
    | .float value => displayNumber value
    | .text value => "\"" ++ value ++ "\""
    | .object _ => "\x7b\x7d"

def renderRow : JsonValue → String
  | .object members => "\x7b" ++ ",".intercalate (members.map renderMember) ++ "\x7d"
  | value => renderMember ("value", value)

/-- The encoders of rows whose texts hold nothing that is escaped. -/
def thursdayEncoders : Encoders where
  toVec value := .ok (asciiBytes (renderRow value))
  csvRecord fields := asciiBytes (",".intercalate fields ++ "\r\n")
  unequalLengths _ _ := ""

/-- A call and a put that nobody quotes, at two strikes. -/
def unquotedRecord : SnapshotRecord where
  simulation := someId
  generation := currentSnapshotGeneration
  step := 1
  simulatedAt := Domain.Expiry.thursdayNoon
  symbol := "SPX"
  spot := fiveThousand
  baseVolatility := quarter
  expirations := [{
    expiresAt := Domain.Expiry.thursdayFivePm
    daysToExpiration := .one
    labels := ["dailies", "weeklies"]
    quotes := [⟨fiveThousand, quarter, some .one, none, none, none, none, none, none, none, none⟩,
      ⟨.ratio 5100 1, quarter, none, none, none, none, some .one, none, none, none, none⟩] }]

def twoGroups : List (StepGroup Unit) :=
  [thursdayGroup, { thursdayGroup with step := 1, chains := some (.stored unquotedRecord) }]

def twoStepTable : List TableRow :=
  exportTable (fun _ : Unit => []) exportService.numerics .optionChains "SPX" twoGroups

def twoStepTexts : List (JsonValue × Bytes) :=
  twoStepTable.map fun row => (row.json .optionChains,
    (jsonCodec thursdayEncoders fun _ => none).encode (row.json .optionChains))

def twoStepLines : List (List String × Bytes) :=
  (Dataset.optionChains.header :: twoStepTable.map (TableRow.csv exportService.numerics)).map
    fun record => (record, thursdayEncoders.csvRecord record)

theorem encodings_carry_table_twoSteps :
    twoStepTable.map (fun row => row.key.step) = [1, 1] ∧ ∃ jsonPieces csvPieces,
      documentPieces exportService (fun _ : Unit => []) thursdayEncoders
          (dailyParameters Domain.Expiry.thursdayNoon) .optionChains .json twoGroups =
        .ok jsonPieces ∧
      documentPieces exportService (fun _ : Unit => []) thursdayEncoders
          (dailyParameters Domain.Expiry.thursdayNoon) .optionChains .csv twoGroups =
        .ok csvPieces ∧
      decodeBracketed (jsonCodec thursdayEncoders (readKnown twoStepTexts)) ','.toUInt8
          ']'.toUInt8 '['.toUInt8 jsonPieces.flatten =
        some (twoStepTable.map (TableRow.json .optionChains)) ∧
      decodeSequence (csvCodec thursdayEncoders (readKnown twoStepLines)) csvPieces.flatten =
        some (Dataset.optionChains.header ::
          twoStepTable.map (TableRow.csv exportService.numerics)) := by
  have textsApart : twoStepTexts.Pairwise fun left right =>
      ¬ left.2.isPrefixOf right.2 ∧ ¬ right.2.isPrefixOf left.2 := by decide +kernel
  have linesApart : twoStepLines.Pairwise fun left right =>
      ¬ left.2.isPrefixOf right.2 ∧ ¬ right.2.isPrefixOf left.2 := by decide +kernel
  have texts : ∀ value ∈ twoStepTable.map (TableRow.json .optionChains),
      ((jsonCodec thursdayEncoders fun _ => none).encode value) ≠ [] := by decide +kernel
  have serde : SerdeFaithful thursdayEncoders (readKnown twoStepTexts)
      (twoStepTable.map (TableRow.json .optionChains)) := by
    refine ⟨?_, ?_, texts⟩
    · intro value member
      obtain ⟨row, -, rfl⟩ := List.mem_map.mp member
      exact ⟨_, rfl⟩
    · intro value member rest
      obtain ⟨row, listed, rfl⟩ := List.mem_map.mp member
      have known : (row.json .optionChains, (jsonCodec thursdayEncoders fun _ => none).encode
          (row.json .optionChains)) ∈ twoStepTexts := by
        rw [twoStepTexts]
        exact List.mem_map_of_mem listed
      simpa only [jsonCodec] using readKnown_mem rest known textsApart
  have csv : (csvCodec thursdayEncoders (readKnown twoStepLines)).Faithful
      (Dataset.optionChains.header ::
        twoStepTable.map (TableRow.csv exportService.numerics)) := by
    refine ⟨?_, ?_⟩
    · intro record member rest
      have known : (record, thursdayEncoders.csvRecord record) ∈ twoStepLines := by
        rw [twoStepLines]
        exact List.mem_map.mpr ⟨record, member, rfl⟩
      simpa only [csvCodec] using readKnown_mem rest known linesApart
    · intro record member
      change asciiBytes (",".intercalate record ++ "\r\n") ≠ []
      simp [asciiBytes]
  obtain ⟨jsonPieces, csvPieces, jsonWritten, csvWritten, jsonDecoded, csvDecoded, -, -⟩ :=
    @encodings_carry_table thursdayEncoders _ exportService (fun _ : Unit => [])
      (dailyParameters Domain.Expiry.thursdayNoon) .optionChains twoGroups parseNumber
      (readKnown twoStepTexts) (readKnown twoStepLines) exportService_floatText serde csv
  exact ⟨by decide +kernel, jsonPieces, csvPieces, jsonWritten, csvWritten, jsonDecoded, csvDecoded⟩

/-! ### A stored expiration without labels -/

def unlabelledRecord : SnapshotRecord where
  simulation := someId
  generation := currentSnapshotGeneration
  step := 0
  simulatedAt := Domain.Expiry.thursdayNoon
  symbol := "SPX"
  spot := fiveThousand
  baseVolatility := quarter
  expirations := [{
    expiresAt := Domain.Expiry.thursdayNoon
    daysToExpiration := .one
    labels := []
    quotes := [⟨fiveThousand, quarter, none, none, none, none, none, none, none, none, none⟩] }]

def unlabelledGroup : StepGroup Unit :=
  { thursdayGroup with chains := some (.stored unlabelledRecord) }

/-- Its labels column is an empty text, and no absent value. -/
theorem unlabelled_field_is_empty :
    unlabelledRecord.validate exportService.numerics = .ok () ∧
      ¬ ∀ row ∈ exportTable (fun _ : Unit => []) exportService.numerics .optionChains "SPX"
          [unlabelledGroup], ∀ (index : Nat) (name : String) (value : JsonValue) (field : String),
        Dataset.optionChains.header[index]? = some name →
        (row.json .optionChains).member name = some value →
        (row.csv exportService.numerics)[index]? = some field → (value = .null ↔ field = "") := by
  refine ⟨?_, ?_⟩
  · apply SnapshotRecord.validate_eq_ok.mpr
    refine ⟨by decide, List.pairwise_singleton _ _, ?_⟩
    intro expiration member
    obtain rfl := List.mem_singleton.mp member
    exact List.pairwise_singleton _ _
  · intro claimed
    have labels := claimed _ List.mem_cons_self 4 "labels" (.text "") "" rfl rfl rfl
    cases labels.mpr rfl

end OptionChainSimulator.Api
