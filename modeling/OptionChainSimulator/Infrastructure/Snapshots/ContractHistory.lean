import Mathlib.Tactic
import OptionChainSimulator.Infrastructure.Snapshots.Assembly

namespace OptionChainSimulator.Infrastructure

open Foundation Utils Domain

/-! One contract across steps: the query for its rows, and the points they become. -/

section Contract

structure ContractSeriesQuery where
  simulation : Uuid
  generation : Nat
  expiresAt : UtcDateTime
  strike : Positive
  side : ContractSide
  fromStep : Nat
  toStep : Nat

structure ContractReadRow where
  step : Nat
  simulatedAt : I64
  expiresAt : I64
  daysToExpiration : I128
  strike : I128
  impliedVolatility : I128
  bid : Option I128
  ask : Option I128
  mid : Option I128
  delta : Option I128
  gamma : Option I128
  deriving DecidableEq

/-- The columns a contract history selects for one side. -/
def OptionQuoteRow.readSide (side : ContractSide) (row : OptionQuoteRow) : ContractReadRow where
  step := row.step
  simulatedAt := row.simulatedAt
  expiresAt := row.expiresAt
  daysToExpiration := row.daysToExpiration
  strike := row.strike
  impliedVolatility := row.impliedVolatility
  bid := match side with | .call => row.callBid | .put => row.putBid
  ask := match side with | .call => row.callAsk | .put => row.putAsk
  mid := match side with | .call => row.callMid | .put => row.putMid
  delta := match side with | .call => row.deltaCall | .put => row.deltaPut
  gamma := row.gamma

def contractQuoteFromRow (crates : ColumnCrates) (row : ContractReadRow) (side : ContractSide) :
    Except ChainError ContractQuote := do
  let step ← okOr (unsigned? u64Limit row.step)
    (.clickHouseError s!"step {row.step} is not addressable here")
  let daysToExpiration ← fromStoragePositive crates row.daysToExpiration "days_to_expiration"
  let strike ← fromStoragePositive crates row.strike "strike"
  let impliedVolatility ← fromStoragePositive crates row.impliedVolatility "implied_volatility"
  let bid ← fromStorageOptionalPositive crates row.bid "bid"
  let ask ← fromStorageOptionalPositive crates row.ask "ask"
  let mid ← fromStorageOptionalPositive crates row.mid "mid"
  let delta ← fromStorageOptional crates row.delta "delta"
  let gamma ← fromStorageOptional crates row.gamma "gamma"
  return {
    step := step
    simulatedAt := fromStorageInstant row.simulatedAt
    expiresAt := fromStorageInstant row.expiresAt
    daysToExpiration := daysToExpiration
    strike := strike
    side := side
    impliedVolatility := impliedVolatility
    bid := bid
    ask := ask
    mid := mid
    delta := delta
    gamma := gamma }

/-- One strike of a record, seen from one side. -/
def ExpirationRecord.quoted (record : SnapshotRecord) (side : ContractSide)
    (expiration : ExpirationRecord) (quote : QuoteRow) : ContractQuote where
  step := record.step
  simulatedAt := record.simulatedAt
  expiresAt := expiration.expiresAt
  daysToExpiration := expiration.daysToExpiration
  strike := quote.strike
  side := side
  impliedVolatility := quote.impliedVolatility
  bid := match side with | .call => quote.callBid | .put => quote.putBid
  ask := match side with | .call => quote.callAsk | .put => quote.putAsk
  mid := match side with | .call => quote.callMid | .put => quote.putMid
  delta := match side with | .call => quote.deltaCall | .put => quote.deltaPut
  gamma := quote.gamma

/-- What a whole record says of the contract, as the in-memory repository reads it. -/
def SnapshotRecord.project (record : SnapshotRecord) (query : ContractSeriesQuery) :
    List ContractQuote :=
  (record.expirations.filter fun expiration => expiration.expiresAt = query.expiresAt).flatMap
    fun expiration =>
      (expiration.quotes.filter fun quote => quote.strike = query.strike).map
        (expiration.quoted record query.side)

/-- `toDecimal128` of a decimal's text, of at most 38 digits at the scale of the column. -/
def toDecimal128 (value : Decimal) : Option I128 :=
  if (value * 10 ^ decimalScale).floor.natAbs < 10 ^ 38 then
    SignedInt.ofInt? i128Limit (value * 10 ^ decimalScale).floor
  else none

def ContractReadRow.order (row : ContractReadRow) : I64 ×ₗ Nat := toLex (row.simulatedAt, row.step)

end Contract

/-! The points of a row. -/

section Points

variable {crates : ColumnCrates} {row : OptionQuoteRow} {side : ContractSide} {quote : QuoteRow}
  {point : ContractQuote}

theorem fromStorageDecimal_field {raw : I128} {value : Decimal} {field : String} (other : String)
    (read : fromStorageDecimal crates raw field = .ok value) :
    fromStorageDecimal crates raw other = .ok value :=
  mapError_eq_ok.mpr (mapError_eq_ok.mp read)

theorem fromStoragePositive_field {raw : I128} {value : Positive} {field : String}
    (other : String) (read : fromStoragePositive crates raw field = .ok value) :
    fromStoragePositive crates raw other = .ok value := by
  obtain ⟨decimal, stored, positive⟩ := bind_eq_ok.mp read
  exact bind_eq_ok.mpr ⟨decimal, fromStorageDecimal_field other stored,
    mapError_eq_ok.mpr (mapError_eq_ok.mp positive)⟩

theorem optionMapM_imp {ε α β : Type} {first second : α → Except ε β}
    (implies : ∀ value result, first value = .ok result → second value = .ok result)
    {value : Option α} {result : Option β} (read : value.mapM first = .ok result) :
    value.mapM second = .ok result := by
  cases value with
  | none => exact read
  | some value =>
      obtain ⟨inner, innerRead, rfl⟩ := map_eq_ok.mp read
      exact map_eq_ok.mpr ⟨inner, implies value inner innerRead, rfl⟩

theorem contractQuoteFromRow_of_quote (record : SnapshotRecord) {days : Positive}
    (read : quoteFromRow crates row.read = .ok quote) (small : row.step < u64Limit)
    (dated : fromStoragePositive crates row.daysToExpiration "days_to_expiration" = .ok days) :
    contractQuoteFromRow crates (row.readSide side) side =
      .ok { ExpirationRecord.quoted record side
        ⟨fromStorageInstant row.expiresAt, days, row.labels, [quote]⟩ quote with
          step := row.step
          simulatedAt := fromStorageInstant row.simulatedAt } := by
  have reads := quoteFromRow_eq_ok.mp read
  have positive : ∀ {raw value field} (other : String),
      fromStorageOptionalPositive crates raw field = .ok value →
        fromStorageOptionalPositive crates raw other = .ok value :=
    fun other => optionMapM_imp fun _ _ => fromStoragePositive_field other
  have decimal : ∀ {raw value field} (other : String),
      fromStorageOptional crates raw field = .ok value →
        fromStorageOptional crates raw other = .ok value :=
    fun other => optionMapM_imp fun _ _ => fromStorageDecimal_field other
  refine bind_eq_ok.mpr ⟨_, okOr_eq_ok.mpr (unsigned?_eq_some.mpr ⟨small, rfl⟩), ?_⟩
  refine bind_eq_ok.mpr ⟨_, dated, bind_eq_ok.mpr ⟨_, reads.strike, ?_⟩⟩
  refine bind_eq_ok.mpr ⟨_, reads.impliedVolatility, ?_⟩
  cases side with
  | call =>
      refine bind_eq_ok.mpr ⟨_, positive _ reads.callBid, bind_eq_ok.mpr
        ⟨_, positive _ reads.callAsk, ?_⟩⟩
      refine bind_eq_ok.mpr ⟨_, positive _ reads.callMid, bind_eq_ok.mpr
        ⟨_, decimal _ reads.deltaCall, ?_⟩⟩
      exact bind_eq_ok.mpr ⟨_, reads.gamma, rfl⟩
  | put =>
      refine bind_eq_ok.mpr ⟨_, positive _ reads.putBid, bind_eq_ok.mpr
        ⟨_, positive _ reads.putAsk, ?_⟩⟩
      refine bind_eq_ok.mpr ⟨_, positive _ reads.putMid, bind_eq_ok.mpr
        ⟨_, decimal _ reads.deltaPut, ?_⟩⟩
      exact bind_eq_ok.mpr ⟨_, reads.gamma, rfl⟩

theorem contractQuoteFromRow_fields {found : ContractReadRow}
    (read : contractQuoteFromRow crates found side = .ok point) :
    point.step = found.step ∧ point.simulatedAt = fromStorageInstant found.simulatedAt ∧
      fromStoragePositive crates found.daysToExpiration "days_to_expiration" =
        .ok point.daysToExpiration := by
  obtain ⟨step, addressed, rest⟩ := bind_eq_ok.mp read
  obtain ⟨-, rfl⟩ := unsigned?_eq_some.mp (okOr_eq_ok.mp addressed)
  obtain ⟨days, dated, rest⟩ := bind_eq_ok.mp rest
  obtain ⟨_, -, rest⟩ := bind_eq_ok.mp rest
  obtain ⟨_, -, rest⟩ := bind_eq_ok.mp rest
  obtain ⟨_, -, rest⟩ := bind_eq_ok.mp rest
  obtain ⟨_, -, rest⟩ := bind_eq_ok.mp rest
  obtain ⟨_, -, rest⟩ := bind_eq_ok.mp rest
  obtain ⟨_, -, rest⟩ := bind_eq_ok.mp rest
  obtain ⟨_, -, kept⟩ := bind_eq_ok.mp rest
  cases kept
  exact ⟨rfl, rfl, dated⟩

end Points

namespace SnapshotTables

variable (tables : SnapshotTables)

/-- The quote rows of a range, every version of them. -/
def quotesWithin (simulation : String) (generation fromStep toStep : Nat) : List OptionQuoteRow :=
  tables.quotes.filter fun row => row.simulationId = simulation ∧
    row.simulationGeneration = generation ∧ fromStep ≤ row.step ∧ row.step ≤ toStep

/-- The steps of a range with `uniqExact((expires_at, strike))` of each. -/
def countedSteps (simulation : String) (generation fromStep toStep : Nat) : List (Nat × Nat) :=
  let rows := tables.quotesWithin simulation generation fromStep toStep
  (rows.map OptionQuoteRow.step).dedup.map fun step => (step,
    (((rows.filter fun row => row.step = step).map
      fun row => (row.expiresAt, row.strike)).dedup).length)

/-- `COMPLETE_STEPS_SUBQUERY`. -/
def completeSteps (simulation : String) (generation fromStep toStep : Nat) : List Nat :=
  let markers := tables.finalSnapshots.filter fun row => row.simulationId = simulation ∧
    row.simulationGeneration = generation ∧ fromStep ≤ row.step ∧ row.step ≤ toStep ∧
      row.complete = true
  ((markers ×ˢ tables.countedSteps simulation generation fromStep toStep).filter fun joined =>
      joined.1.step = joined.2.1 ∧ joined.1.quoteCount = joined.2.2).map fun joined =>
    joined.1.step

/-- `contract_series_query`, without its limit. -/
def contractRange (simulation : String) (generation fromStep toStep : Nat) (expiresAt : I64)
    (strike : I128) (side : ContractSide) : List ContractReadRow :=
  ((tables.finalQuotes.filter fun row => row.simulationId = simulation ∧
      row.simulationGeneration = generation ∧ fromStep ≤ row.step ∧ row.step ≤ toStep ∧
        row.expiresAt = expiresAt ∧ row.strike = strike ∧
          row.step ∈ tables.completeSteps simulation generation fromStep toStep).map
    (OptionQuoteRow.readSide side)).insertionSort fun left right => left.order ≤ right.order

end SnapshotTables

namespace ClickHouseSnapshotRepository

/-- `tooManyDigits` is what the server says of a literal with an integer part too long. -/
def contractSeries (config : SnapshotPersistenceConfig) (crates : ColumnCrates)
    (tables : SnapshotTables) (tooManyDigits : String → String) (query : ContractSeriesQuery) :
    Except ChainError (List ContractQuote) := do
  let bounds ← stepBounds query.fromStep query.toStep
  let expiresAt ← toStorageInstant query.expiresAt "expires_at"
  let strikeText := crates.displayDecimal query.strike.value
  let _ ← toStoragePositive crates query.strike "strike"
  let limit ← probeLimit config
  let strike ← okOr (toDecimal128 query.strike.value) (.clickHouseError (tooManyDigits strikeText))
  let rows := (tables.contractRange query.simulation.hyphenated query.generation bounds.1 bounds.2
    expiresAt strike query.side).take limit
  rejectIfOverBudget config rows.length "quotes"
  rows.mapM fun row => contractQuoteFromRow crates row query.side

end ClickHouseSnapshotRepository

namespace ClickHouseSnapshotRepository

section Queries

variable {config : SnapshotPersistenceConfig} {crates : ColumnCrates} {tables : SnapshotTables}
  {id : String} {generation fromStep toStep step : Nat} {expiresAt : I64} {strike : I128}
  {side : ContractSide} {row : OptionQuoteRow}

theorem mem_quotesWithin : row ∈ tables.quotesWithin id generation fromStep toStep ↔
    row ∈ tables.quotes ∧ row.simulationId = id ∧ row.simulationGeneration = generation ∧
      fromStep ≤ row.step ∧ row.step ≤ toStep := by
  unfold SnapshotTables.quotesWithin
  rw [List.mem_filter, decide_eq_true_eq]

/-- The identities of a step's rows, counted over all versions, are as many as its newest
rows. -/
theorem uniqExact_eq_length (lower : fromStep ≤ step) (upper : step ≤ toStep) :
    ((((tables.quotesWithin id generation fromStep toStep).filter fun row => row.step = step).map
      fun row => (row.expiresAt, row.strike)).dedup).length =
        (tables.quotesRange id generation step step).length := by
  have distinct : ((tables.quotesRange id generation step step).map fun row =>
      (row.expiresAt, row.strike)).Nodup := by
    apply List.pairwise_map.mpr
    apply quotesRange_ascending.imp_of_mem
    intro left right leftIn rightIn below same
    obtain ⟨expiresAt, strike⟩ := Prod.ext_iff.mp same
    apply below.ne
    unfold QuoteReadRow.key
    rw [step_of_mem_quotesRange leftIn, step_of_mem_quotesRange rightIn,
      show left.expiresAt = right.expiresAt from expiresAt,
      show left.strike = right.strike from strike]
  have counted : ((tables.quotesRange id generation step step).map fun row =>
      (row.expiresAt, row.strike)).length = (tables.quotesRange id generation step step).length :=
    List.length_map _
  rw [← counted]
  apply List.Perm.length_eq
  apply (List.perm_ext_iff_of_nodup (List.nodup_dedup _) distinct).mpr
  intro identity
  rw [List.mem_dedup, List.mem_map, List.mem_map]
  constructor
  · rintro ⟨row, member, rfl⟩
    obtain ⟨within, own⟩ := List.mem_filter.mp member
    obtain ⟨stored, simulation, generations, -, -⟩ := mem_quotesWithin.mp within
    have own : row.step = step := of_decide_eq_true own
    obtain ⟨newer, kept, same, -⟩ := @exists_newest _ _ _ OptionQuoteRow.key
      OptionQuoteRow.insertedAtMs _ _ stored
    obtain ⟨sameId, rest⟩ := Prod.ext_iff.mp same
    obtain ⟨sameGeneration, rest⟩ := Prod.ext_iff.mp rest
    obtain ⟨sameStep, identity⟩ := Prod.ext_iff.mp rest
    have sameStep : newer.step = step := sameStep.trans own
    exact ⟨newer.read, mem_quotesRange.mpr ⟨newer, kept, ⟨sameId.trans simulation,
      sameGeneration.trans generations, sameStep.ge, sameStep.le⟩, rfl⟩, identity⟩
  · rintro ⟨read, member, rfl⟩
    obtain ⟨row, kept, ⟨simulation, generations, above, below⟩, rfl⟩ := mem_quotesRange.mp member
    refine ⟨row, List.mem_filter.mpr ⟨mem_quotesWithin.mpr ⟨mem_of_mem_newest kept, simulation,
      generations, lower.trans above, below.trans upper⟩, ?_⟩, rfl⟩
    exact decide_eq_true (le_antisymm below above)

theorem mem_countedSteps {stored : Nat} :
    (step, stored) ∈ tables.countedSteps id generation fromStep toStep ↔
      (fromStep ≤ step ∧ step ≤ toStep) ∧ 0 < stored ∧
        stored = (tables.quotesRange id generation step step).length := by
  unfold SnapshotTables.countedSteps
  simp only [List.mem_map, List.mem_dedup, Prod.mk.injEq]
  constructor
  · rintro ⟨other, ⟨row, member, rfl⟩, rfl, rfl⟩
    obtain ⟨-, -, -, lower, upper⟩ := mem_quotesWithin.mp member
    refine ⟨⟨lower, upper⟩, ?_, uniqExact_eq_length lower upper⟩
    apply List.length_pos_of_mem
    rw [List.mem_dedup]
    exact List.mem_map_of_mem (List.mem_filter.mpr ⟨member, decide_eq_true rfl⟩)
  · rintro ⟨⟨lower, upper⟩, some, rfl⟩
    obtain ⟨read, member⟩ := List.exists_mem_of_length_pos some
    obtain ⟨row, kept, ⟨simulation, generations, above, below⟩, rfl⟩ := mem_quotesRange.mp member
    have own : row.step = step := le_antisymm below above
    have within : row ∈ tables.quotesWithin id generation fromStep toStep :=
      mem_quotesWithin.mpr ⟨mem_of_mem_newest kept, simulation, generations, own ▸ lower,
        own ▸ upper⟩
    exact ⟨step, ⟨row, within, own⟩, rfl, uniqExact_eq_length lower upper⟩

/-- A step is complete in the query's eyes where its marker counts the rows a read finds. -/
theorem mem_completeSteps :
    step ∈ tables.completeSteps id generation fromStep toStep ↔
      (fromStep ≤ step ∧ step ≤ toStep) ∧ 0 < (tables.quotesRange id generation step step).length ∧
        ∃ marker ∈ tables.metaRange id generation step step,
          marker.quoteCount = (tables.quotesRange id generation step step).length := by
  unfold SnapshotTables.completeSteps
  simp only [List.mem_map, List.mem_filter, decide_eq_true_eq, List.mem_product, Prod.exists]
  constructor
  · rintro ⟨marker, counted, stored, ⟨⟨⟨kept, located⟩, member⟩, rfl, rfl⟩, rfl⟩
    obtain ⟨range, some, same⟩ := mem_countedSteps.mp member
    rw [← same]
    exact ⟨range, some, marker.read, mem_metaRange.mpr ⟨marker, kept, ⟨located.1, located.2.1,
      le_refl _, le_refl _, located.2.2.2.2⟩, rfl⟩, rfl⟩
  · rintro ⟨range, some, read, member, same⟩
    obtain ⟨marker, kept, ⟨simulation, generations, above, below, complete⟩, rfl⟩ :=
      mem_metaRange.mp member
    obtain rfl : marker.step = step := le_antisymm below above
    exact ⟨marker, _, _, ⟨⟨⟨kept, simulation, generations, range.1, range.2, complete⟩,
      mem_countedSteps.mpr ⟨range, some, rfl⟩⟩, rfl, same⟩, rfl⟩

end Queries

section Series

variable {config : SnapshotPersistenceConfig} {crates : ColumnCrates} {tables : SnapshotTables}
  {id : String} {generation fromStep toStep : Nat} {expiresAt : I64} {strike : I128}
  {side : ContractSide} {read : ContractReadRow} {tooManyDigits : String → String}
  {query : ContractSeriesQuery} {points : List ContractQuote}

theorem mem_contractRange :
    read ∈ tables.contractRange id generation fromStep toStep expiresAt strike side ↔
      ∃ row ∈ tables.finalQuotes, (row.simulationId = id ∧ row.simulationGeneration = generation ∧
        fromStep ≤ row.step ∧ row.step ≤ toStep ∧ row.expiresAt = expiresAt ∧
          row.strike = strike ∧
            row.step ∈ tables.completeSteps id generation fromStep toStep) ∧
        row.readSide side = read := by
  unfold SnapshotTables.contractRange
  simp only [List.mem_insertionSort, List.mem_map, List.mem_filter, decide_eq_true_eq, and_assoc]

theorem contractRange_ascending :
    (tables.contractRange id generation fromStep toStep expiresAt strike side).Pairwise
      fun left right => left.order < right.order := by
  apply select_ascending
  intro left right leftKept rightKept same
  have leftMatch := of_decide_eq_true leftKept
  have rightMatch := of_decide_eq_true rightKept
  obtain ⟨-, step⟩ := Prod.ext_iff.mp (toLex.injective same)
  unfold OptionQuoteRow.key
  rw [leftMatch.1, leftMatch.2.1, leftMatch.2.2.2.2.1, leftMatch.2.2.2.2.2.1, rightMatch.1,
    rightMatch.2.1, rightMatch.2.2.2.2.1, rightMatch.2.2.2.2.2.1]
  exact congrArg (fun step => (id, generation, step, expiresAt, strike)) step

/-- The literal of a strike that a column holds is what the column holds, below ten billion. -/
theorem toDecimal128_eq_some {value : Positive} {raw : I128} {field : String}
    (stored : toStoragePositive crates value field = .ok raw) :
    toDecimal128 value.value = some strike ↔ value.value < 10 ^ 10 ∧ strike = raw := by
  have scaled := (toStorageDecimal_eq_ok.mp stored).2
  have whole : (value.value * 10 ^ decimalScale).floor = raw.value := by
    rw [← scaled]
    exact Rat.floor_intCast raw.value
  have nonneg : 0 ≤ raw.value := by
    have scale : (0 : ℚ) ≤ 10 ^ decimalScale := by norm_num
    have above := mul_nonneg value.nonneg scale
    rw [← scaled] at above
    exact_mod_cast above
  have short : raw.value.natAbs < 10 ^ 38 ↔ value.value < 10 ^ 10 := by
    have below : raw.value < 10 ^ 38 ↔ value.value < 10 ^ 10 := by
      have limit : ((10 ^ 38 : Int) : ℚ) = 10 ^ 10 * 10 ^ decimalScale := by
        norm_num [decimalScale]
      rw [← @Int.cast_lt ℚ, scaled, limit]
      exact mul_lt_mul_iff_left₀ (by norm_num)
    rw [← below]
    omega
  unfold toDecimal128
  rw [whole]
  constructor
  · intro parsed
    split_ifs at parsed with digits
    refine ⟨short.mp digits, SignedInt.value_injective ?_⟩
    exact SignedInt.ofInt?_eq_some.mp parsed
  · rintro ⟨small, rfl⟩
    rw [if_pos (short.mpr small)]
    exact SignedInt.ofInt?_eq_some.mpr rfl

theorem contractSeries_eq_ok :
    contractSeries config crates tables tooManyDigits query = .ok points ↔
      (query.fromStep ≤ query.toStep ∧ query.toStep < u64Limit) ∧
        config.maxReadRows + 1 < u64Limit ∧ query.strike.value < 10 ^ 10 ∧
        ∃ expiresAt strike, toStorageInstant query.expiresAt "expires_at" = .ok expiresAt ∧
          toStoragePositive crates query.strike "strike" = .ok strike ∧
          (tables.contractRange query.simulation.hyphenated query.generation query.fromStep
            query.toStep expiresAt strike query.side).length ≤ config.maxReadRows ∧
          List.Forall₂ (fun row point => contractQuoteFromRow crates row query.side = .ok point)
            (tables.contractRange query.simulation.hyphenated query.generation query.fromStep
              query.toStep expiresAt strike query.side) points := by
  unfold contractSeries probeLimit
  constructor
  · intro served
    obtain ⟨bounds, bounded, served⟩ := bind_eq_ok.mp served
    obtain ⟨ordered, fits, rfl⟩ := stepBounds_eq_ok.mp bounded
    obtain ⟨expiresAt, instant, served⟩ := bind_eq_ok.mp served
    obtain ⟨raw, stored, served⟩ := bind_eq_ok.mp served
    obtain ⟨limit, probed, served⟩ := bind_eq_ok.mp served
    obtain ⟨probes, rfl⟩ := unsigned?_eq_some.mp (okOr_eq_ok.mp probed)
    obtain ⟨strike, parsed, served⟩ := bind_eq_ok.mp served
    obtain ⟨short, rfl⟩ := (toDecimal128_eq_some stored).mp (okOr_eq_ok.mp parsed)
    obtain ⟨within, served⟩ := bind_unit_eq_ok.mp served
    have within := rejectIfOverBudget_eq_ok.mp within
    dsimp only at within served
    rw [List.length_take] at within
    have whole : (tables.contractRange query.simulation.hyphenated query.generation query.fromStep
        query.toStep expiresAt strike query.side).length ≤ config.maxReadRows := by omega
    rw [List.take_of_length_le (whole.trans (Nat.le_succ _))] at served
    exact ⟨⟨ordered, fits⟩, probes, short, expiresAt, strike, instant, stored, whole,
      mapM_eq_ok.mp served⟩
  · rintro ⟨⟨ordered, fits⟩, probes, short, expiresAt, strike, instant, stored, whole, read⟩
    refine bind_eq_ok.mpr ⟨_, stepBounds_eq_ok.mpr ⟨ordered, fits, rfl⟩, ?_⟩
    refine bind_eq_ok.mpr ⟨_, instant, bind_eq_ok.mpr ⟨_, stored, ?_⟩⟩
    refine bind_eq_ok.mpr ⟨_, okOr_eq_ok.mpr (unsigned?_eq_some.mpr ⟨probes, rfl⟩), ?_⟩
    refine bind_eq_ok.mpr
      ⟨_, okOr_eq_ok.mpr ((toDecimal128_eq_some stored).mpr ⟨short, rfl⟩), ?_⟩
    dsimp only
    rw [List.take_of_length_le (whole.trans (Nat.le_succ config.maxReadRows))]
    exact bind_unit_eq_ok.mpr ⟨rejectIfOverBudget_eq_ok.mpr whole, mapM_eq_ok.mpr read⟩

end Series

end ClickHouseSnapshotRepository

end OptionChainSimulator.Infrastructure
