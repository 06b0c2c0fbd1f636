import Mathlib.Tactic
import Mathlib.Data.Prod.Lex
import OptionChainSimulator.Infrastructure.Snapshots.Columns
import OptionChainSimulator.Infrastructure.Snapshots.Record

namespace OptionChainSimulator.Infrastructure

open Foundation Utils Domain

/-! A snapshot as the rows of its two tables, and the snapshot rebuilt from them. -/

section Rows

/-- One row of `simulation_snapshots`. -/
structure SnapshotMetaRow where
  simulationId : String
  simulationGeneration : Nat
  step : Nat
  snapshotId : String
  simulatedAt : I64
  symbol : String
  underlyingPrice : I128
  baseVolatility : I128
  quoteCount : Nat
  expirationCount : Nat
  complete : Bool
  insertedAtMs : Nat
  deriving DecidableEq

/-- One row of `simulation_option_quotes`. -/
structure OptionQuoteRow where
  simulationId : String
  simulationGeneration : Nat
  step : Nat
  expiresAt : I64
  strike : I128
  snapshotId : String
  simulatedAt : I64
  symbol : String
  daysToExpiration : I128
  labels : List String
  impliedVolatility : I128
  callBid : Option I128
  callAsk : Option I128
  callMid : Option I128
  putBid : Option I128
  putAsk : Option I128
  putMid : Option I128
  deltaCall : Option I128
  deltaPut : Option I128
  gamma : Option I128
  insertedAtMs : Nat
  deriving DecidableEq

structure SnapshotMetaReadRow where
  step : Nat
  snapshotId : String
  simulatedAt : I64
  symbol : String
  underlyingPrice : I128
  baseVolatility : I128
  quoteCount : Nat
  deriving DecidableEq

structure QuoteReadRow where
  step : Nat
  expiresAt : I64
  daysToExpiration : I128
  labels : List String
  strike : I128
  impliedVolatility : I128
  callBid : Option I128
  callAsk : Option I128
  callMid : Option I128
  putBid : Option I128
  putAsk : Option I128
  putMid : Option I128
  deltaCall : Option I128
  deltaPut : Option I128
  gamma : Option I128
  deriving DecidableEq

/-- The columns a read of the metadata selects. -/
def SnapshotMetaRow.read (row : SnapshotMetaRow) : SnapshotMetaReadRow where
  step := row.step
  snapshotId := row.snapshotId
  simulatedAt := row.simulatedAt
  symbol := row.symbol
  underlyingPrice := row.underlyingPrice
  baseVolatility := row.baseVolatility
  quoteCount := row.quoteCount

/-- The columns a read of the quotes selects. -/
def OptionQuoteRow.read (row : OptionQuoteRow) : QuoteReadRow where
  step := row.step
  expiresAt := row.expiresAt
  daysToExpiration := row.daysToExpiration
  labels := row.labels
  strike := row.strike
  impliedVolatility := row.impliedVolatility
  callBid := row.callBid
  callAsk := row.callAsk
  callMid := row.callMid
  putBid := row.putBid
  putAsk := row.putAsk
  putMid := row.putMid
  deltaCall := row.deltaCall
  deltaPut := row.deltaPut
  gamma := row.gamma

def QuoteReadRow.key (row : QuoteReadRow) : Nat ×ₗ I64 ×ₗ I128 :=
  toLex (row.step, toLex (row.expiresAt, row.strike))

/-- `ORDER BY step ASC, expires_at ASC, strike ASC`. -/
def orderQuotes (rows : List QuoteReadRow) : List QuoteReadRow :=
  rows.insertionSort fun left right => left.key ≤ right.key

end Rows

section Conversions

variable (crates : ColumnCrates)

def metaRow (record : SnapshotRecord) (insertedAtMs : Nat) :
    Except ChainError SnapshotMetaRow := do
  let step ← toStorageCount record.step "step"
  let simulatedAt ← toStorageInstant record.simulatedAt "simulated_at"
  let underlyingPrice ← toStoragePositive crates record.spot "underlying_price"
  let baseVolatility ← toStoragePositive crates record.baseVolatility "base_volatility"
  let quoteCount ← toStorageCount record.quoteCount "quote_count"
  let expirationCount ← toStorageCount record.expirations.length "expiration_count"
  return {
    simulationId := record.simulation.hyphenated
    simulationGeneration := record.generation
    step := step
    snapshotId :=
      (snapshotId crates.newV5 record.simulation record.generation record.step).hyphenated
    simulatedAt := simulatedAt
    symbol := record.symbol
    underlyingPrice := underlyingPrice
    baseVolatility := baseVolatility
    quoteCount := quoteCount
    expirationCount := expirationCount
    complete := true
    insertedAtMs := insertedAtMs }

/-- The row of one strike, by the columns its snapshot and its expiration share. -/
def quoteRow (record : SnapshotRecord) (insertedAtMs step : Nat) (simulatedAt expiresAt : I64)
    (daysToExpiration : I128) (labels : List String) (quote : QuoteRow) :
    Except ChainError OptionQuoteRow := do
  let strike ← toStoragePositive crates quote.strike "strike"
  let impliedVolatility ← toStoragePositive crates quote.impliedVolatility "implied_volatility"
  let callBid ← toStorageOptionalPositive crates quote.callBid "call_bid"
  let callAsk ← toStorageOptionalPositive crates quote.callAsk "call_ask"
  let callMid ← toStorageOptionalPositive crates quote.callMid "call_mid"
  let putBid ← toStorageOptionalPositive crates quote.putBid "put_bid"
  let putAsk ← toStorageOptionalPositive crates quote.putAsk "put_ask"
  let putMid ← toStorageOptionalPositive crates quote.putMid "put_mid"
  let deltaCall ← toStorageOptional crates quote.deltaCall "delta_call"
  let deltaPut ← toStorageOptional crates quote.deltaPut "delta_put"
  let gamma ← toStorageOptional crates quote.gamma "gamma"
  return {
    simulationId := record.simulation.hyphenated
    simulationGeneration := record.generation
    step := step
    expiresAt := expiresAt
    strike := strike
    snapshotId :=
      (snapshotId crates.newV5 record.simulation record.generation record.step).hyphenated
    simulatedAt := simulatedAt
    symbol := record.symbol
    daysToExpiration := daysToExpiration
    labels := labels
    impliedVolatility := impliedVolatility
    callBid := callBid
    callAsk := callAsk
    callMid := callMid
    putBid := putBid
    putAsk := putAsk
    putMid := putMid
    deltaCall := deltaCall
    deltaPut := deltaPut
    gamma := gamma
    insertedAtMs := insertedAtMs }

/-- The rows of one expiration. -/
def expirationRows (record : SnapshotRecord) (insertedAtMs step : Nat) (simulatedAt : I64)
    (expiration : ExpirationRecord) : Except ChainError (List OptionQuoteRow) := do
  let expiresAt ← toStorageInstant expiration.expiresAt "expires_at"
  let daysToExpiration ←
    toStoragePositive crates expiration.daysToExpiration "days_to_expiration"
  expiration.quotes.mapM
    (quoteRow crates record insertedAtMs step simulatedAt expiresAt daysToExpiration
      expiration.labels)

def quoteRows (record : SnapshotRecord) (insertedAtMs : Nat) :
    Except ChainError (List OptionQuoteRow) := do
  let simulatedAt ← toStorageInstant record.simulatedAt "simulated_at"
  let step ← toStorageCount record.step "step"
  let rows ← record.expirations.mapM (expirationRows crates record insertedAtMs step simulatedAt)
  return rows.flatten

def quoteFromRow (row : QuoteReadRow) : Except ChainError QuoteRow := do
  let strike ← fromStoragePositive crates row.strike "strike"
  let impliedVolatility ← fromStoragePositive crates row.impliedVolatility "implied_volatility"
  let callBid ← fromStorageOptionalPositive crates row.callBid "call_bid"
  let callAsk ← fromStorageOptionalPositive crates row.callAsk "call_ask"
  let callMid ← fromStorageOptionalPositive crates row.callMid "call_mid"
  let putBid ← fromStorageOptionalPositive crates row.putBid "put_bid"
  let putAsk ← fromStorageOptionalPositive crates row.putAsk "put_ask"
  let putMid ← fromStorageOptionalPositive crates row.putMid "put_mid"
  let deltaCall ← fromStorageOptional crates row.deltaCall "delta_call"
  let deltaPut ← fromStorageOptional crates row.deltaPut "delta_put"
  let gamma ← fromStorageOptional crates row.gamma "gamma"
  return {
    strike := strike
    impliedVolatility := impliedVolatility
    callBid := callBid
    callAsk := callAsk
    callMid := callMid
    putBid := putBid
    putAsk := putAsk
    putMid := putMid
    deltaCall := deltaCall
    deltaPut := deltaPut
    gamma := gamma }

/-- The expiration a row begins. -/
def openExpiration (row : QuoteReadRow) (quote : QuoteRow) :
    Except ChainError ExpirationRecord := do
  let daysToExpiration ← fromStoragePositive crates row.daysToExpiration "days_to_expiration"
  return {
    expiresAt := fromStorageInstant row.expiresAt
    daysToExpiration := daysToExpiration
    labels := row.labels
    quotes := [quote] }

/-- One row joins the last expiration, or begins the next. -/
def pushRow (expirations : List ExpirationRecord) (row : QuoteReadRow) :
    Except ChainError (List ExpirationRecord) := do
  let quote ← quoteFromRow crates row
  match expirations.getLast? with
  | some current =>
      if current.expiresAt = fromStorageInstant row.expiresAt then
        return expirations.dropLast ++ [{ current with quotes := current.quotes ++ [quote] }]
      else return expirations ++ [← openExpiration crates row quote]
  | none => return expirations ++ [← openExpiration crates row quote]

def recordFromRows (simulation : Uuid) (generation : Nat) (marker : SnapshotMetaReadRow)
    (quotes : List QuoteReadRow) : Except ChainError SnapshotRecord := do
  let step ← okOr (unsigned? u64Limit marker.step)
    (.clickHouseError s!"step {marker.step} is not addressable here")
  let expectedId := (snapshotId crates.newV5 simulation generation step).hyphenated
  if marker.snapshotId ≠ expectedId then
    throw (.clickHouseError <|
      s!"snapshot {simulation.hyphenated}/{generation}/{step} is stored under identity" ++
        s!" {marker.snapshotId} instead of {expectedId}")
  let expirations ← quotes.foldlM (pushRow crates) []
  let spot ← fromStoragePositive crates marker.underlyingPrice "underlying_price"
  let baseVolatility ← fromStoragePositive crates marker.baseVolatility "base_volatility"
  return {
    simulation := simulation
    generation := generation
    step := step
    simulatedAt := fromStorageInstant marker.simulatedAt
    symbol := marker.symbol
    spot := spot
    baseVolatility := baseVolatility
    expirations := expirations }

end Conversions

/-! The rows of a record give it back. -/

section Rebuilding

variable {crates : ColumnCrates} {record : SnapshotRecord} {insertedAtMs step : Nat}
  {simulatedAt expiresAt : I64} {daysToExpiration : I128} {labels : List String}
  {quote : QuoteRow} {row : OptionQuoteRow} {rows : List OptionQuoteRow}
  {expiration current : ExpirationRecord} {before after : List ExpirationRecord}

/-- Every column of a row reads as the field it was stored from. -/
structure QuoteReads (crates : ColumnCrates) (row : QuoteReadRow) (quote : QuoteRow) : Prop where
  strike : fromStoragePositive crates row.strike "strike" = .ok quote.strike
  impliedVolatility : fromStoragePositive crates row.impliedVolatility "implied_volatility" =
    .ok quote.impliedVolatility
  callBid : fromStorageOptionalPositive crates row.callBid "call_bid" = .ok quote.callBid
  callAsk : fromStorageOptionalPositive crates row.callAsk "call_ask" = .ok quote.callAsk
  callMid : fromStorageOptionalPositive crates row.callMid "call_mid" = .ok quote.callMid
  putBid : fromStorageOptionalPositive crates row.putBid "put_bid" = .ok quote.putBid
  putAsk : fromStorageOptionalPositive crates row.putAsk "put_ask" = .ok quote.putAsk
  putMid : fromStorageOptionalPositive crates row.putMid "put_mid" = .ok quote.putMid
  deltaCall : fromStorageOptional crates row.deltaCall "delta_call" = .ok quote.deltaCall
  deltaPut : fromStorageOptional crates row.deltaPut "delta_put" = .ok quote.deltaPut
  gamma : fromStorageOptional crates row.gamma "gamma" = .ok quote.gamma

theorem quoteFromRow_eq_ok {row : QuoteReadRow} :
    quoteFromRow crates row = .ok quote ↔ QuoteReads crates row quote := by
  constructor
  · intro read
    obtain ⟨strike, strikeRead, rest⟩ := bind_eq_ok.mp read
    obtain ⟨volatility, volatilityRead, rest⟩ := bind_eq_ok.mp rest
    obtain ⟨callBid, callBidRead, rest⟩ := bind_eq_ok.mp rest
    obtain ⟨callAsk, callAskRead, rest⟩ := bind_eq_ok.mp rest
    obtain ⟨callMid, callMidRead, rest⟩ := bind_eq_ok.mp rest
    obtain ⟨putBid, putBidRead, rest⟩ := bind_eq_ok.mp rest
    obtain ⟨putAsk, putAskRead, rest⟩ := bind_eq_ok.mp rest
    obtain ⟨putMid, putMidRead, rest⟩ := bind_eq_ok.mp rest
    obtain ⟨deltaCall, deltaCallRead, rest⟩ := bind_eq_ok.mp rest
    obtain ⟨deltaPut, deltaPutRead, rest⟩ := bind_eq_ok.mp rest
    obtain ⟨gamma, gammaRead, kept⟩ := bind_eq_ok.mp rest
    obtain rfl := Except.ok.inj kept
    exact ⟨strikeRead, volatilityRead, callBidRead, callAskRead, callMidRead, putBidRead,
      putAskRead, putMidRead, deltaCallRead, deltaPutRead, gammaRead⟩
  · intro reads
    refine bind_eq_ok.mpr ⟨_, reads.strike, bind_eq_ok.mpr ⟨_, reads.impliedVolatility, ?_⟩⟩
    refine bind_eq_ok.mpr ⟨_, reads.callBid, bind_eq_ok.mpr ⟨_, reads.callAsk, ?_⟩⟩
    refine bind_eq_ok.mpr ⟨_, reads.callMid, bind_eq_ok.mpr ⟨_, reads.putBid, ?_⟩⟩
    refine bind_eq_ok.mpr ⟨_, reads.putAsk, bind_eq_ok.mpr ⟨_, reads.putMid, ?_⟩⟩
    refine bind_eq_ok.mpr ⟨_, reads.deltaCall, bind_eq_ok.mpr ⟨_, reads.deltaPut, ?_⟩⟩
    exact bind_eq_ok.mpr ⟨_, reads.gamma, rfl⟩

/-- What the row of one strike holds. -/
structure QuoteStored (crates : ColumnCrates) (record : SnapshotRecord)
    (insertedAtMs step : Nat) (expiresAt : I64) (daysToExpiration : I128)
    (labels : List String) (quote : QuoteRow) (row : OptionQuoteRow) : Prop where
  simulationId : row.simulationId = record.simulation.hyphenated
  simulationGeneration : row.simulationGeneration = record.generation
  step : row.step = step
  expiresAt : row.expiresAt = expiresAt
  daysToExpiration : row.daysToExpiration = daysToExpiration
  labels : row.labels = labels
  strike : (row.strike.value : ℚ) = quote.strike.value * 10 ^ decimalScale
  quote : quoteFromRow crates row.read = .ok quote
  insertedAtMs : row.insertedAtMs = insertedAtMs

theorem quoteStored_of_quoteRow (accepts : crates.Accepts)
    (written : quoteRow crates record insertedAtMs step simulatedAt expiresAt daysToExpiration
      labels quote = .ok row) :
    QuoteStored crates record insertedAtMs step expiresAt daysToExpiration labels quote row := by
  obtain ⟨strike, strikeStored, rest⟩ := bind_eq_ok.mp written
  obtain ⟨volatility, volatilityStored, rest⟩ := bind_eq_ok.mp rest
  obtain ⟨callBid, callBidStored, rest⟩ := bind_eq_ok.mp rest
  obtain ⟨callAsk, callAskStored, rest⟩ := bind_eq_ok.mp rest
  obtain ⟨callMid, callMidStored, rest⟩ := bind_eq_ok.mp rest
  obtain ⟨putBid, putBidStored, rest⟩ := bind_eq_ok.mp rest
  obtain ⟨putAsk, putAskStored, rest⟩ := bind_eq_ok.mp rest
  obtain ⟨putMid, putMidStored, rest⟩ := bind_eq_ok.mp rest
  obtain ⟨deltaCall, deltaCallStored, rest⟩ := bind_eq_ok.mp rest
  obtain ⟨deltaPut, deltaPutStored, rest⟩ := bind_eq_ok.mp rest
  obtain ⟨gamma, gammaStored, kept⟩ := bind_eq_ok.mp rest
  obtain rfl := Except.ok.inj kept
  refine ⟨rfl, rfl, rfl, rfl, rfl, rfl, (toStorageDecimal_eq_ok.mp strikeStored).2, ?_, rfl⟩
  have positive : ∀ {value raw other} (field : String),
      toStorageOptionalPositive crates value other = .ok raw →
        fromStorageOptionalPositive crates raw field = .ok value :=
    fun _ => fromStorageOptionalPositive_of_toStorageOptionalPositive accepts
  exact quoteFromRow_eq_ok.mpr {
    strike := fromStoragePositive_of_toStoragePositive accepts strikeStored
    impliedVolatility := fromStoragePositive_of_toStoragePositive accepts volatilityStored
    callBid := positive _ callBidStored
    callAsk := positive _ callAskStored
    callMid := positive _ callMidStored
    putBid := positive _ putBidStored
    putAsk := positive _ putAskStored
    putMid := positive _ putMidStored
    deltaCall := fromStorageOptional_of_toStorageOptional deltaCallStored
    deltaPut := fromStorageOptional_of_toStorageOptional deltaPutStored
    gamma := fromStorageOptional_of_toStorageOptional gammaStored }

/-- A read row gives back one quote of the expiration. -/
structure RowReads (crates : ColumnCrates) (expiration : ExpirationRecord) (quote : QuoteRow)
    (row : QuoteReadRow) : Prop where
  quote : quoteFromRow crates row = .ok quote
  expiresAt : fromStorageInstant row.expiresAt = expiration.expiresAt
  daysToExpiration : fromStoragePositive crates row.daysToExpiration "days_to_expiration" =
    .ok expiration.daysToExpiration
  labels : row.labels = expiration.labels

theorem pushRow_join {joined : List QuoteRow} {row : QuoteReadRow}
    (reads : RowReads crates expiration quote row) :
    pushRow crates (before ++ [{ expiration with quotes := joined }]) row =
      .ok (before ++ [{ expiration with quotes := joined ++ [quote] }]) := by
  unfold pushRow
  rw [reads.quote, List.getLast?_concat, List.dropLast_concat]
  exact if_pos reads.expiresAt.symm

theorem pushRow_open {row : QuoteReadRow} (reads : RowReads crates expiration quote row)
    (apart : ∀ current, before.getLast? = some current →
      current.expiresAt ≠ expiration.expiresAt) :
    pushRow crates before row = .ok (before ++ [{ expiration with quotes := [quote] }]) := by
  have opened : openExpiration crates row quote = .ok { expiration with quotes := [quote] } := by
    unfold openExpiration
    rw [reads.daysToExpiration, reads.expiresAt, reads.labels]
    rfl
  unfold pushRow
  rw [reads.quote]
  cases last : before.getLast? with
  | none =>
      change (do return before ++ [← openExpiration crates row quote]) = _
      rw [opened]
      rfl
  | some current =>
      change (if current.expiresAt = fromStorageInstant row.expiresAt then _
        else (do return before ++ [← openExpiration crates row quote])) = _
      rw [reads.expiresAt, if_neg (apart current last), opened]
      rfl

theorem foldlM_join {quotes joined : List QuoteRow} {rows : List QuoteReadRow}
    (reads : List.Forall₂ (RowReads crates expiration) quotes rows) :
    rows.foldlM (pushRow crates) (before ++ [{ expiration with quotes := joined }]) =
      .ok (before ++ [{ expiration with quotes := joined ++ quotes }]) := by
  induction reads generalizing joined with
  | nil => simp [pure, Except.pure]
  | cons first rest ih =>
      rw [List.foldlM_cons, pushRow_join first]
      change List.foldlM (pushRow crates) (before ++ [_]) _ = _
      rw [ih, List.append_assoc]
      rfl

theorem foldlM_expiration {rows : List QuoteReadRow}
    (reads : List.Forall₂ (RowReads crates expiration) expiration.quotes rows)
    (quoted : expiration.quotes ≠ [])
    (apart : ∀ current, before.getLast? = some current →
      current.expiresAt ≠ expiration.expiresAt) :
    rows.foldlM (pushRow crates) before = .ok (before ++ [expiration]) := by
  cases listed : expiration.quotes with
  | nil => exact absurd listed quoted
  | cons quote quotes =>
      rw [listed] at reads
      cases reads with
      | cons first rest =>
          rw [List.foldlM_cons, pushRow_open first apart]
          change List.foldlM (pushRow crates) (before ++ [_]) _ = _
          rw [foldlM_join rest, List.singleton_append, ← listed]

/-- Expirations that are apart and have quotes come back as they were. -/
theorem foldlM_expirations {expirations : List ExpirationRecord}
    {rowLists : List (List QuoteReadRow)}
    (reads : List.Forall₂ (fun expiration rows =>
      List.Forall₂ (RowReads crates expiration) expiration.quotes rows) expirations rowLists)
    (quoted : ∀ expiration ∈ expirations, expiration.quotes ≠ [])
    (ascending : expirations.Pairwise fun left right => left.expiresAt < right.expiresAt)
    (behind : ∀ current, before.getLast? = some current →
      ∀ expiration ∈ expirations, current.expiresAt < expiration.expiresAt) :
    rowLists.flatten.foldlM (pushRow crates) before = .ok (before ++ expirations) := by
  induction reads generalizing before with
  | nil => simp [pure, Except.pure]
  | @cons expiration rows expirations rowLists first rest ih =>
      rw [List.forall_mem_cons] at quoted
      rw [List.pairwise_cons] at ascending
      have apart : ∀ current, before.getLast? = some current →
          current.expiresAt ≠ expiration.expiresAt := by
        intro current last
        exact (behind current last expiration List.mem_cons_self).ne
      have next : ∀ current, (before ++ [expiration]).getLast? = some current →
          ∀ later ∈ expirations, current.expiresAt < later.expiresAt := by
        intro current last later member
        rw [List.getLast?_concat] at last
        cases last
        exact ascending.1 later member
      rw [List.flatten_cons, List.foldlM_append, foldlM_expiration first quoted.1 apart]
      change List.foldlM (pushRow crates) (before ++ [expiration]) _ = _
      rw [ih quoted.2 ascending.2 next, List.append_assoc, List.singleton_append]

/-- What every rebuilt expiration is: quoted, and at an instant out of leap seconds. -/
structure ExpirationRecord.Rebuilt (expiration : ExpirationRecord) : Prop where
  quoted : expiration.quotes ≠ []
  outside : ¬ expiration.expiresAt.time.InLeapSecond

theorem fromStorageInstant_outside (raw : I64) :
    ¬ (fromStorageInstant raw).time.InLeapSecond := by
  have frac := NaiveDateTime.frac_fromTimestampNanos raw
  unfold NaiveTime.InLeapSecond fromStorageInstant
  omega

theorem rebuilt_of_pushRow {row : QuoteReadRow}
    (rebuilt : ∀ expiration ∈ before, expiration.Rebuilt)
    (pushed : pushRow crates before row = .ok after) :
    ∀ expiration ∈ after, expiration.Rebuilt := by
  obtain ⟨quote, read, rest⟩ := bind_eq_ok.mp pushed
  have opened : ∀ {after}, (do return before ++ [← openExpiration crates row quote]) = .ok after →
      ∀ expiration ∈ after, expiration.Rebuilt := by
    intro after opened expiration member
    obtain ⟨first, firstOpened, kept⟩ := bind_eq_ok.mp opened
    obtain ⟨days, -, made⟩ := bind_eq_ok.mp firstOpened
    cases kept
    cases made
    obtain earlier | own := List.mem_append.mp member
    · exact rebuilt expiration earlier
    · obtain rfl := List.mem_singleton.mp own
      exact ⟨List.cons_ne_nil _ _, fromStorageInstant_outside row.expiresAt⟩
  cases last : before.getLast? with
  | none =>
      rw [last] at rest
      exact opened rest
  | some current =>
      rw [last] at rest
      change (if current.expiresAt = fromStorageInstant row.expiresAt then _ else _) = _ at rest
      split_ifs at rest with same
      · cases rest
        intro expiration member
        obtain earlier | own := List.mem_append.mp member
        · exact rebuilt expiration (List.mem_of_mem_dropLast earlier)
        · obtain rfl := List.mem_singleton.mp own
          refine ⟨by simp, ?_⟩
          exact (rebuilt current (List.mem_of_getLast? last)).outside
      · exact opened rest

theorem rebuilt_of_foldlM {rows : List QuoteReadRow}
    (rebuilt : ∀ expiration ∈ before, expiration.Rebuilt)
    (pushed : rows.foldlM (pushRow crates) before = .ok after) :
    ∀ expiration ∈ after, expiration.Rebuilt := by
  induction rows generalizing before with
  | nil =>
      cases pushed
      exact rebuilt
  | cons row rows ih =>
      obtain ⟨middle, first, rest⟩ := bind_eq_ok.mp pushed
      exact ih (rebuilt_of_pushRow rebuilt first) rest

theorem toStorageCount_eq_ok {value result : Nat} {field : String} :
    toStorageCount value field = .ok result ↔ value < u64Limit ∧ result = value := by
  unfold toStorageCount
  rw [okOr_eq_ok, unsigned?_eq_some]

/-- The rows of one expiration hold its quotes, at one instant and one day count. -/
def ExpirationStored (crates : ColumnCrates) (record : SnapshotRecord) (insertedAtMs : Nat)
    (expiration : ExpirationRecord) (rows : List OptionQuoteRow) : Prop :=
  ∃ expiresAt daysToExpiration,
    toStorageInstant expiration.expiresAt "expires_at" = .ok expiresAt ∧
    toStoragePositive crates expiration.daysToExpiration "days_to_expiration" =
      .ok daysToExpiration ∧
    List.Forall₂ (QuoteStored crates record insertedAtMs record.step expiresAt daysToExpiration
      expiration.labels) expiration.quotes rows

theorem stored_of_quoteRows (accepts : crates.Accepts)
    (written : quoteRows crates record insertedAtMs = .ok rows) :
    ∃ rowLists, rows = rowLists.flatten ∧
      List.Forall₂ (ExpirationStored crates record insertedAtMs) record.expirations rowLists := by
  obtain ⟨simulatedAt, -, rest⟩ := bind_eq_ok.mp written
  obtain ⟨step, counted, rest⟩ := bind_eq_ok.mp rest
  obtain ⟨rowLists, converted, kept⟩ := bind_eq_ok.mp rest
  obtain rfl := Except.ok.inj kept
  obtain rfl := (toStorageCount_eq_ok.mp counted).2
  refine ⟨rowLists, rfl, (mapM_eq_ok.mp converted).imp ?_⟩
  intro expiration rows rowsWritten
  obtain ⟨expiresAt, instant, rest⟩ := bind_eq_ok.mp rowsWritten
  obtain ⟨daysToExpiration, days, quoted⟩ := bind_eq_ok.mp rest
  refine ⟨expiresAt, daysToExpiration, instant, days, (mapM_eq_ok.mp quoted).imp ?_⟩
  intro quote row rowWritten
  exact quoteStored_of_quoteRow accepts rowWritten

theorem exists_of_mem_forall₂ {α β : Type} {stands : α → β → Prop} {values : List α}
    {results : List β} (related : List.Forall₂ stands values results) {result : β}
    (member : result ∈ results) : ∃ value ∈ values, stands value result := by
  induction related with
  | nil => cases member
  | @cons value result values results own rest ih =>
      cases member with
      | head => exact ⟨value, List.mem_cons_self, own⟩
      | tail _ later =>
          obtain ⟨other, inside, stand⟩ := ih later
          exact ⟨other, List.mem_cons_of_mem value inside, stand⟩

theorem pairwise_of_forall₂ {α β : Type} {stands : α → β → Prop} {order : α → α → Prop}
    {other : β → β → Prop} {values : List α} {results : List β}
    (related : List.Forall₂ stands values results)
    (carries : ∀ {left right first second}, stands left first → stands right second →
      order left right → other first second) (sorted : values.Pairwise order) :
    results.Pairwise other := by
  induction related with
  | nil => exact .nil
  | cons own rest ih =>
      rw [List.pairwise_cons] at sorted ⊢
      refine ⟨?_, ih sorted.2⟩
      intro result member
      obtain ⟨value, inside, stand⟩ := exists_of_mem_forall₂ rest member
      exact carries own stand (sorted.1 value inside)

theorem toStoragePositive_lt_iff {left right : Positive} {leftRaw rightRaw : I128}
    (leftStored : (leftRaw.value : ℚ) = left.value * 10 ^ decimalScale)
    (rightStored : (rightRaw.value : ℚ) = right.value * 10 ^ decimalScale) :
    leftRaw < rightRaw ↔ left.value < right.value := by
  rw [SignedInt.lt_iff, ← @Int.cast_lt ℚ, leftStored, rightStored]
  exact mul_lt_mul_iff_left₀ (by norm_num)

theorem key_lt_of_strike {left right : QuoteReadRow} (step : left.step = right.step)
    (expiresAt : left.expiresAt = right.expiresAt) (strike : left.strike < right.strike) :
    left.key < right.key := by
  apply Prod.Lex.toLex_lt_toLex.mpr
  exact .inr ⟨step, Prod.Lex.toLex_lt_toLex.mpr (.inr ⟨expiresAt, strike⟩)⟩

theorem key_lt_of_expiresAt {left right : QuoteReadRow} (step : left.step = right.step)
    (expiresAt : left.expiresAt < right.expiresAt) : left.key < right.key := by
  apply Prod.Lex.toLex_lt_toLex.mpr
  exact .inr ⟨step, Prod.Lex.toLex_lt_toLex.mpr (.inl expiresAt)⟩

theorem reads_ascending (accepts : crates.Accepts) (valid : record.Ascending)
    (outside : ∀ expiration ∈ record.expirations, ¬ expiration.expiresAt.time.InLeapSecond)
    (written : quoteRows crates record insertedAtMs = .ok rows) :
    (rows.map OptionQuoteRow.read).Pairwise fun left right => left.key < right.key := by
  obtain ⟨rowLists, rfl, stored⟩ := stored_of_quoteRows accepts written
  rw [List.pairwise_map, List.pairwise_flatten]
  refine ⟨?_, ?_⟩
  · intro rows member
    obtain ⟨expiration, inside, expiresAt, days, -, -, quoted⟩ :=
      exists_of_mem_forall₂ stored member
    apply pairwise_of_forall₂ quoted _ (valid.quotes expiration inside)
    intro left right first second own other below
    apply key_lt_of_strike (own.step.trans other.step.symm)
      (own.expiresAt.trans other.expiresAt.symm)
    exact (toStoragePositive_lt_iff own.strike other.strike).mpr below
  · have members : List.Forall₂ (fun expiration rows => expiration ∈ record.expirations ∧
        ExpirationStored crates record insertedAtMs expiration rows) record.expirations rowLists :=
      (List.forall₂_and_left _ _).mpr ⟨fun _ => id, stored⟩
    apply pairwise_of_forall₂ members _ valid.expirations
    intro left right first second own other below row inFirst otherRow inSecond
    obtain ⟨leftInside, leftAt, leftDays, leftInstant, -, leftQuoted⟩ := own
    obtain ⟨rightInside, rightAt, rightDays, rightInstant, -, rightQuoted⟩ := other
    obtain ⟨_, -, leftHeld⟩ := exists_of_mem_forall₂ leftQuoted inFirst
    obtain ⟨_, -, rightHeld⟩ := exists_of_mem_forall₂ rightQuoted inSecond
    apply key_lt_of_expiresAt (leftHeld.step.trans rightHeld.step.symm)
    change row.expiresAt < otherRow.expiresAt
    rw [leftHeld.expiresAt, rightHeld.expiresAt, ← NaiveDateTime.fromTimestampNanos_lt_iff]
    change fromStorageInstant leftAt < fromStorageInstant rightAt
    rw [(fromStorageInstant_eq_iff leftInstant).mpr (outside left leftInside),
      (fromStorageInstant_eq_iff rightInstant).mpr (outside right rightInside)]
    exact below

/-- What the marker of a snapshot holds. -/
structure MarkerStored (crates : ColumnCrates) (record : SnapshotRecord) (insertedAtMs : Nat)
    (marker : SnapshotMetaRow) : Prop where
  simulationId : marker.simulationId = record.simulation.hyphenated
  simulationGeneration : marker.simulationGeneration = record.generation
  step : marker.step = record.step
  addressable : record.step < u64Limit
  snapshotId : marker.snapshotId =
    (snapshotId crates.newV5 record.simulation record.generation record.step).hyphenated
  simulatedAt : toStorageInstant record.simulatedAt "simulated_at" = .ok marker.simulatedAt
  symbol : marker.symbol = record.symbol
  underlyingPrice : fromStoragePositive crates marker.underlyingPrice "underlying_price" =
    .ok record.spot
  baseVolatility : fromStoragePositive crates marker.baseVolatility "base_volatility" =
    .ok record.baseVolatility
  quoteCount : marker.quoteCount = record.quoteCount
  complete : marker.complete = true
  insertedAtMs : marker.insertedAtMs = insertedAtMs

theorem markerStored_of_metaRow (accepts : crates.Accepts) {marker : SnapshotMetaRow}
    (marked : metaRow crates record insertedAtMs = .ok marker) :
    MarkerStored crates record insertedAtMs marker := by
  obtain ⟨step, stepCounted, rest⟩ := bind_eq_ok.mp marked
  obtain ⟨simulatedAt, instant, rest⟩ := bind_eq_ok.mp rest
  obtain ⟨price, priceStored, rest⟩ := bind_eq_ok.mp rest
  obtain ⟨volatility, volatilityStored, rest⟩ := bind_eq_ok.mp rest
  obtain ⟨quoteCount, quotesCounted, rest⟩ := bind_eq_ok.mp rest
  obtain ⟨expirationCount, expirationsCounted, kept⟩ := bind_eq_ok.mp rest
  obtain rfl := Except.ok.inj kept
  obtain ⟨addressable, rfl⟩ := toStorageCount_eq_ok.mp stepCounted
  exact ⟨rfl, rfl, rfl, addressable, rfl, instant, rfl,
    fromStoragePositive_of_toStoragePositive accepts priceStored,
    fromStoragePositive_of_toStoragePositive accepts volatilityStored,
    (toStorageCount_eq_ok.mp quotesCounted).2, rfl, rfl⟩

theorem recordFromRows_of_stored {marker : SnapshotMetaRow}
    (stored : MarkerStored crates record insertedAtMs marker) {rows : List QuoteReadRow} :
    recordFromRows crates record.simulation record.generation marker.read rows =
      (fun expirations => { record with
        simulatedAt := fromStorageInstant marker.simulatedAt
        expirations := expirations }) <$> rows.foldlM (pushRow crates) [] := by
  have step : unsigned? u64Limit marker.read.step = some record.step :=
    unsigned?_eq_some.mpr ⟨stored.step.trans_lt stored.addressable, stored.step.symm⟩
  have identity : ¬ marker.read.snapshotId ≠
      (snapshotId crates.newV5 record.simulation record.generation record.step).hyphenated :=
    not_not.mpr stored.snapshotId
  have price : fromStoragePositive crates marker.read.underlyingPrice "underlying_price" =
      .ok record.spot := stored.underlyingPrice
  have volatility : fromStoragePositive crates marker.read.baseVolatility "base_volatility" =
      .ok record.baseVolatility := stored.baseVolatility
  unfold recordFromRows
  simp only [step, okOr_some, if_neg identity, price, volatility, bind, Except.bind, pure,
    Except.pure]
  cases rows.foldlM (pushRow crates) [] with
  | error error => rfl
  | ok expirations =>
      rw [show marker.read.symbol = record.symbol from stored.symbol]
      rfl

/-- No instant of the record is in a leap second, and every expiration has a quote. -/
structure SnapshotRecord.Storable (record : SnapshotRecord) : Prop where
  outside : ¬ record.simulatedAt.time.InLeapSecond
  expirations : ∀ expiration ∈ record.expirations, expiration.Rebuilt

theorem rowReads_of_stored (accepts : crates.Accepts)
    (outside : ¬ expiration.expiresAt.time.InLeapSecond)
    (stored : ExpirationStored crates record insertedAtMs expiration rows) :
    List.Forall₂ (RowReads crates expiration) expiration.quotes
      (rows.map OptionQuoteRow.read) := by
  obtain ⟨expiresAt, days, instant, daysStored, quoted⟩ := stored
  apply List.forall₂_map_right_iff.mpr (quoted.imp _)
  intro quote row held
  refine ⟨held.quote, ?_, ?_, held.labels⟩
  · change fromStorageInstant row.expiresAt = _
    rw [held.expiresAt]
    exact (fromStorageInstant_eq_iff instant).mpr outside
  · change fromStoragePositive crates row.daysToExpiration _ = _
    rw [held.daysToExpiration]
    exact fromStoragePositive_of_toStoragePositive accepts daysStored

theorem foldlM_reads (accepts : crates.Accepts) (valid : record.Ascending)
    (rebuilt : ∀ expiration ∈ record.expirations, expiration.Rebuilt)
    (written : quoteRows crates record insertedAtMs = .ok rows) :
    (rows.map OptionQuoteRow.read).foldlM (pushRow crates) [] = .ok record.expirations := by
  obtain ⟨rowLists, rfl, stored⟩ := stored_of_quoteRows accepts written
  have reads : List.Forall₂ (fun expiration rows =>
      List.Forall₂ (RowReads crates expiration) expiration.quotes rows) record.expirations
      (rowLists.map (List.map OptionQuoteRow.read)) := by
    apply List.forall₂_map_right_iff.mpr
    apply ((List.forall₂_and_left _ _).mpr ⟨fun _ => id, stored⟩).imp
    intro expiration rows held
    exact rowReads_of_stored accepts (rebuilt expiration held.1).outside held.2
  rw [List.map_flatten]
  apply foldlM_expirations reads _ valid.expirations
  · intro current impossible
    cases impossible
  · intro expiration member
    exact (rebuilt expiration member).quoted

theorem orderQuotes_of_ascending {rows : List QuoteReadRow}
    (ascending : rows.Pairwise fun left right => left.key < right.key) :
    orderQuotes rows = rows :=
  List.Pairwise.insertionSort_eq (ascending.imp le_of_lt)

/-- The row as another attempt writes it. -/
def OptionQuoteRow.stamped (row : OptionQuoteRow) (insertedAtMs : Nat) : OptionQuoteRow :=
  { row with insertedAtMs }

theorem quoteRow_stamped {other : Nat}
    (written : quoteRow crates record insertedAtMs step simulatedAt expiresAt daysToExpiration
      labels quote = .ok row) :
    quoteRow crates record other step simulatedAt expiresAt daysToExpiration labels quote =
      .ok (row.stamped other) := by
  have same : quoteRow crates record other step simulatedAt expiresAt daysToExpiration labels
      quote = (fun row => row.stamped other) <$> quoteRow crates record insertedAtMs step
        simulatedAt expiresAt daysToExpiration labels quote := by
    unfold quoteRow
    simp only [map_bind, map_pure]
    rfl
  rw [same, written]
  rfl

theorem quoteRows_stamped {other : Nat}
    (written : quoteRows crates record insertedAtMs = .ok rows) :
    quoteRows crates record other = .ok (rows.map fun row => row.stamped other) := by
  obtain ⟨simulatedAt, instant, rest⟩ := bind_eq_ok.mp written
  obtain ⟨step, counted, rest⟩ := bind_eq_ok.mp rest
  obtain ⟨rowLists, converted, kept⟩ := bind_eq_ok.mp rest
  obtain rfl := Except.ok.inj kept
  have again : record.expirations.mapM (expirationRows crates record other step simulatedAt) =
      .ok (rowLists.map (List.map fun row => row.stamped other)) := by
    apply mapM_eq_ok.mpr
    apply List.forall₂_map_right_iff.mpr ((mapM_eq_ok.mp converted).imp _)
    intro expiration rows rowsWritten
    obtain ⟨expiresAt, instant, rest⟩ := bind_eq_ok.mp rowsWritten
    obtain ⟨days, daysStored, quoted⟩ := bind_eq_ok.mp rest
    refine bind_eq_ok.mpr ⟨expiresAt, instant, bind_eq_ok.mpr ⟨days, daysStored, ?_⟩⟩
    apply mapM_eq_ok.mpr
    apply List.forall₂_map_right_iff.mpr ((mapM_eq_ok.mp quoted).imp _)
    intro quote row rowWritten
    exact quoteRow_stamped rowWritten
  rw [List.map_flatten]
  exact bind_eq_ok.mpr ⟨simulatedAt, instant, bind_eq_ok.mpr ⟨step, counted,
    bind_eq_ok.mpr ⟨_, again, rfl⟩⟩⟩

theorem reads_unique {other : Nat} {others : List OptionQuoteRow}
    (written : quoteRows crates record insertedAtMs = .ok rows)
    (rewritten : quoteRows crates record other = .ok others) :
    others.map OptionQuoteRow.read = rows.map OptionQuoteRow.read := by
  rw [quoteRows_stamped written] at rewritten
  obtain rfl := Except.ok.inj rewritten
  rw [List.map_map]
  rfl

theorem length_quoteRows (accepts : crates.Accepts)
    (written : quoteRows crates record insertedAtMs = .ok rows) :
    rows.length = record.quoteCount := by
  obtain ⟨rowLists, rfl, stored⟩ := stored_of_quoteRows accepts written
  rw [List.length_flatten, SnapshotRecord.quoteCount]
  congr 1
  have lengths : List.Forall₂ (fun left right => left = right)
      (record.expirations.map fun expiration => expiration.quotes.length)
      (rowLists.map List.length) := by
    apply List.forall₂_map_left_iff.mpr (List.forall₂_map_right_iff.mpr (stored.imp _))
    intro expiration rows held
    obtain ⟨_, _, -, -, quoted⟩ := held
    exact quoted.length_eq
  exact (List.forall₂_eq_eq_eq ▸ lengths).symm

/-- What comes back as it was has no instant in a leap second and no empty expiration. -/
theorem storable_of_rebuilt {marker : SnapshotMetaRow} {rows : List QuoteReadRow}
    (accepts : crates.Accepts) (marked : metaRow crates record insertedAtMs = .ok marker)
    (rebuilt : recordFromRows crates record.simulation record.generation marker.read rows =
      .ok record) : record.Storable := by
  have stored := markerStored_of_metaRow accepts marked
  rw [recordFromRows_of_stored stored] at rebuilt
  obtain ⟨expirations, folded, same⟩ := map_eq_ok.mp rebuilt
  have instants : fromStorageInstant marker.simulatedAt = record.simulatedAt :=
    congrArg SnapshotRecord.simulatedAt same
  have all := rebuilt_of_foldlM (fun expiration member => by cases member) folded
  rw [show expirations = record.expirations from congrArg SnapshotRecord.expirations same] at all
  exact ⟨(fromStorageInstant_eq_iff stored.simulatedAt).mp instants, all⟩

/-- A valid snapshot comes back from its rows as it was written, exactly when no instant of it
is in a leap second and it has no expiration without quotes. -/
theorem reconstructs_iff {numerics : Numerics} {marker : SnapshotMetaRow}
    (accepts : crates.Accepts) (valid : record.validate numerics = .ok ())
    (marked : metaRow crates record insertedAtMs = .ok marker)
    (written : quoteRows crates record insertedAtMs = .ok rows) :
    recordFromRows crates record.simulation record.generation marker.read
        (orderQuotes (rows.map OptionQuoteRow.read)) = .ok record ↔
      record.Storable := by
  have stored := markerStored_of_metaRow accepts marked
  have ascending := (SnapshotRecord.validate_eq_ok.mp valid).2
  constructor
  · exact storable_of_rebuilt accepts marked
  · intro storable
    rw [recordFromRows_of_stored stored, map_eq_ok]
    have outside : ∀ expiration ∈ record.expirations,
        ¬ expiration.expiresAt.time.InLeapSecond :=
      fun expiration member => (storable.expirations expiration member).outside
    refine ⟨record.expirations, ?_, ?_⟩
    · rw [orderQuotes_of_ascending (reads_ascending accepts ascending outside written)]
      exact foldlM_reads accepts ascending storable.expirations written
    · rw [(fromStorageInstant_eq_iff stored.simulatedAt).mpr storable.outside]

end Rebuilding

/-! ### One strike, an instant in a leap second, and an expiration without quotes -/

def exactCrates : ColumnCrates where
  newV5 _ _ := someId
  displayDecimal _ := ""
  displayOutOfRange _ _ := ""
  positiveNewDecimal value :=
    if nonneg : 0 ≤ value then .ok ⟨value, nonneg⟩ else .error "negative"

theorem exactCrates_accepts : exactCrates.Accepts :=
  fun _ nonneg => dif_pos nonneg

def oneStrike : ExpirationRecord where
  expiresAt := Domain.Expiry.lastFridayExpiry.expiresAt
  daysToExpiration := .one
  labels := ["monthlies"]
  quotes := [⟨.one, .one, none, some .one, none, none, none, none, some (-1 / 4), none, none⟩]

def oneStrikeRecord : SnapshotRecord where
  simulation := someId
  generation := currentSnapshotGeneration
  step := 0
  simulatedAt := Domain.Expiry.thursdayNoon
  symbol := "SPX"
  spot := .one
  baseVolatility := .one
  expirations := [oneStrike]

def leapSecondRecord : SnapshotRecord :=
  { oneStrikeRecord with
    simulatedAt := ⟨Domain.Expiry.thursdayNoon.date, ⟨86399, 1000000000, by decide, by decide⟩⟩ }

def emptyExpirationRecord : SnapshotRecord :=
  { oneStrikeRecord with expirations := [{ oneStrike with quotes := [] }] }

theorem oneStrikeRecord_valid (numerics : Numerics) :
    oneStrikeRecord.validate numerics = .ok () := by
  apply SnapshotRecord.validate_eq_ok.mpr
  refine ⟨by decide, List.pairwise_singleton _ _, ?_⟩
  intro expiration member
  obtain rfl := List.mem_singleton.mp member
  exact List.pairwise_singleton _ _

theorem emptyExpirationRecord_valid (numerics : Numerics) :
    emptyExpirationRecord.validate numerics = .ok () := by
  apply SnapshotRecord.validate_eq_ok.mpr
  refine ⟨by decide, List.pairwise_singleton _ _, ?_⟩
  intro expiration member
  obtain rfl := List.mem_singleton.mp member
  exact List.Pairwise.nil

/-- Two expirations of two strikes each. -/
def fourStrikeRecord : SnapshotRecord :=
  let quotes : List QuoteRow :=
    [⟨.one, .one, none, some .one, none, none, none, none, some (-1 / 4), none, none⟩,
      ⟨.ratio 2 1, .ratio 1 4, some .one, some (.ratio 5 4), some (.ratio 9 8), none, none, none,
        some (3 / 4), some (-1 / 4), some (1 / 100)⟩]
  { oneStrikeRecord with
    expirations := [
      ⟨Domain.Expiry.thursdayFivePm, .ratio 1 4, ["dailies", "weeklies"], quotes⟩,
      ⟨Domain.Expiry.lastFridayExpiry.expiresAt, .one, ["monthlies"], quotes⟩] }

theorem fourStrikeRecord_valid (numerics : Numerics) :
    fourStrikeRecord.validate numerics = .ok () := by
  apply SnapshotRecord.validate_eq_ok.mpr
  exact ⟨by decide, by decide +kernel, by unfold ExpirationRecord.Ascending; decide +kernel⟩

theorem reconstructs_iff_fourStrikes :
    ∃ marker rows, metaRow exactCrates fourStrikeRecord 0 = .ok marker ∧
      quoteRows exactCrates fourStrikeRecord 0 = .ok rows ∧
      recordFromRows exactCrates someId currentSnapshotGeneration marker.read
        (orderQuotes (rows.map OptionQuoteRow.read)) = .ok fourStrikeRecord := by
  obtain ⟨marker, marked⟩ := exists_of_isOk
    (show (metaRow exactCrates fourStrikeRecord 0).isOk = true by decide +kernel)
  obtain ⟨rows, written⟩ := exists_of_isOk
    (show (quoteRows exactCrates fourStrikeRecord 0).isOk = true by decide +kernel)
  have storable : fourStrikeRecord.Storable := by
    refine ⟨by decide, ?_⟩
    intro expiration member
    cases member with
    | head => exact ⟨List.cons_ne_nil _ _, by decide⟩
    | tail _ member =>
        obtain rfl := List.mem_singleton.mp member
        exact ⟨List.cons_ne_nil _ _, by decide⟩
  have numerics : Numerics :=
    ⟨fun _ => .nan, fun _ => .nan, fun _ => .ok 0, fun _ => .ok .one, fun _ => "", fun _ => ""⟩
  exact ⟨marker, rows, marked, written, (reconstructs_iff exactCrates_accepts
    (fourStrikeRecord_valid numerics) marked written).mpr storable⟩

/-- A record that passes its check and converts, and is not rebuilt from its rows. -/
def NotRebuilt (record : SnapshotRecord) : Prop :=
  (∀ numerics, record.validate numerics = .ok ()) ∧
    ∃ marker rows, metaRow exactCrates record 0 = .ok marker ∧
      quoteRows exactCrates record 0 = .ok rows ∧
      recordFromRows exactCrates record.simulation record.generation marker.read
        (orderQuotes (rows.map OptionQuoteRow.read)) ≠ .ok record

theorem notRebuilt_of_lost {record : SnapshotRecord}
    (valid : ∀ numerics, record.validate numerics = .ok ())
    (written : (metaRow exactCrates record 0).isOk = true ∧
      (quoteRows exactCrates record 0).isOk = true)
    (lost : ¬ record.Storable) : NotRebuilt record := by
  obtain ⟨marker, marked⟩ := exists_of_isOk written.1
  obtain ⟨rows, quoted⟩ := exists_of_isOk written.2
  refine ⟨valid, marker, rows, marked, quoted, ?_⟩
  intro rebuilt
  exact lost (storable_of_rebuilt exactCrates_accepts marked rebuilt)

/-- A leap second comes back as the second after it, an expiration without quotes not at
all. -/
theorem valid_records_are_not_rebuilt :
    NotRebuilt leapSecondRecord ∧ NotRebuilt emptyExpirationRecord := by
  constructor
  · refine notRebuilt_of_lost ?_ (by decide +kernel) ?_
    · exact oneStrikeRecord_valid
    · intro storable
      exact absurd storable.outside (by decide)
  · apply notRebuilt_of_lost emptyExpirationRecord_valid (by decide +kernel)
    intro storable
    exact (storable.expirations _ List.mem_cons_self).quoted rfl

end OptionChainSimulator.Infrastructure
