import Mathlib.Tactic
import OptionChainSimulator.Infrastructure.Snapshots.Grouping

namespace OptionChainSimulator.Infrastructure.ClickHouseSnapshotRepository

open Foundation Utils Domain

/-! A contract's history beside the whole snapshots it is drawn from. -/

section Statement

variable (config : SnapshotPersistenceConfig) (crates : ColumnCrates) (tables : SnapshotTables)
  (tooManyDigits : String → String) (query : ContractSeriesQuery)

/-- The query's own probe and budget let it through. -/
structure WithinBudget : Prop where
  probed : config.maxReadRows + 1 < u64Limit
  rows : ∀ expiresAt strike, toStorageInstant query.expiresAt "expires_at" = .ok expiresAt →
    toStoragePositive crates query.strike "strike" = .ok strike →
    (tables.contractRange query.simulation.hyphenated query.generation query.fromStep query.toStep
      expiresAt strike query.side).length ≤ config.maxReadRows

/-- Every point is what `get` shows of its step, every step whose snapshot quotes the contract
has one point, and the points come in the order of time. -/
structure AgreesWithReads : Prop where
  sound : ∀ points, contractSeries config crates tables tooManyDigits query = .ok points →
    ∀ point ∈ points, ∃ record,
      get config crates tables query.simulation query.generation point.step = .ok (some record) ∧
        record.project query = [point]
  complete : ∀ step record, query.fromStep ≤ step → step ≤ query.toStep →
    get config crates tables query.simulation query.generation step = .ok (some record) →
    record.project query ≠ [] →
    ∃ points, contractSeries config crates tables tooManyDigits query = .ok points ∧
      (points.map ContractQuote.step).count step = 1
  ordered : ∀ points, contractSeries config crates tables tooManyDigits query = .ok points →
    points.Pairwise fun left right => left.simulatedAt ≤ right.simulatedAt

/-- The rows a read of one step finds. -/
def stepRows (step : Nat) : List QuoteReadRow :=
  tables.quotesRange query.simulation.hyphenated query.generation step step

/-- A row of the contract, at a step of the range whose marker counts its rows. -/
structure Charted (row : OptionQuoteRow) (marker : SnapshotMetaReadRow) : Prop where
  stored : row ∈ tables.finalQuotes
  simulationId : row.simulationId = query.simulation.hyphenated
  generation : row.simulationGeneration = query.generation
  lower : query.fromStep ≤ row.step
  upper : row.step ≤ query.toStep
  expiresAt : toStorageInstant query.expiresAt "expires_at" = .ok row.expiresAt
  strike : toStoragePositive crates query.strike "strike" = .ok row.strike
  marked : marker ∈
    tables.metaRange query.simulation.hyphenated query.generation row.step row.step
  complete : (stepRows tables query row.step).length = marker.quoteCount

/-- The marker is under the simulation's own identity, and it and the rows of its step can be
read and returned. -/
structure Whole (marker : SnapshotMetaReadRow) : Prop where
  budget : marker.quoteCount ≤ config.maxReadRows
  identity : marker.snapshotId =
    (snapshotId crates.newV5 query.simulation query.generation marker.step).hyphenated
  price : (fromStoragePositive crates marker.underlyingPrice "underlying_price").isOk
  volatility : (fromStoragePositive crates marker.baseVolatility "base_volatility").isOk
  rows : RowsReadable crates (stepRows tables query marker.step)

/-- The row repeats the instant of its marker and the days of its expiration's first row. -/
structure Faithful (row : OptionQuoteRow) (marker : SnapshotMetaReadRow) : Prop where
  simulatedAt : row.simulatedAt = marker.simulatedAt
  days : ∀ first, Opens (stepRows tables query row.step) first →
    first.expiresAt = row.expiresAt → first.daysToExpiration = row.daysToExpiration

/-- All the contract's rows are of whole snapshots that say the same, and its expiration and
strike are ones the query can name. -/
def Consistent : Prop :=
  ∀ row marker, Charted crates tables query row marker →
    Whole config crates tables query marker ∧ Faithful tables query row marker ∧
      query.strike.value < 10 ^ 10 ∧ ¬ query.expiresAt.time.InLeapSecond

/-- The series is refused, and no whole snapshot has a row of the contract as it is named. -/
def Refused : Prop :=
  (10 ^ 10 ≤ query.strike.value ∨ ∃ row marker, Charted crates tables query row marker ∧
    ¬ (contractQuoteFromRow crates (row.readSide query.side) query.side).isOk) ∧
  ∀ row marker, Charted crates tables query row marker →
    Whole config crates tables query marker → query.expiresAt.time.InLeapSecond

end Statement

section Contract

variable {config : SnapshotPersistenceConfig} {crates : ColumnCrates} {tables : SnapshotTables}
  {tooManyDigits : String → String} {query : ContractSeriesQuery} {row : OptionQuoteRow}
  {marker : SnapshotMetaReadRow} {record : SnapshotRecord} {id : String} {generation step : Nat}
  {points : List ContractQuote}

theorem stepRows_ascending :
    (stepRows tables query step).Pairwise fun left right => left.contract < right.contract := by
  apply quotesRange_ascending.imp_of_mem
  intro left right leftIn rightIn below
  obtain before | ⟨-, contract⟩ := Prod.Lex.toLex_lt_toLex.mp below
  · rw [step_of_mem_quotesRange leftIn, step_of_mem_quotesRange rightIn] at before
    exact absurd before (lt_irrefl step)
  · exact contract

theorem Charted.ofContract (accepts : crates.Accepts)
    (charted : Charted crates tables query row marker)
    (outside : ¬ query.expiresAt.time.InLeapSecond) : OfContract crates query row.read :=
  ⟨(fromStorageInstant_eq_iff charted.expiresAt).mpr outside,
    fromStoragePositive_of_toStoragePositive accepts charted.strike⟩

theorem Charted.marker_step (charted : Charted crates tables query row marker) :
    marker.step = row.step :=
  step_of_mem_metaRange charted.marked

theorem Charted.mem_stepRows (charted : Charted crates tables query row marker) :
    row.read ∈ stepRows tables query row.step :=
  mem_quotesRange.mpr ⟨row, charted.stored, ⟨charted.simulationId, charted.generation, le_refl _,
    le_refl _⟩, rfl⟩

theorem mem_contractRange_iff_charted {expiresAt : I64} {strike : I128} {found : ContractReadRow}
    (instant : toStorageInstant query.expiresAt "expires_at" = .ok expiresAt)
    (stored : toStoragePositive crates query.strike "strike" = .ok strike) :
    found ∈ tables.contractRange query.simulation.hyphenated query.generation query.fromStep
        query.toStep expiresAt strike query.side ↔
      ∃ row marker, Charted crates tables query row marker ∧ row.readSide query.side = found := by
  rw [mem_contractRange]
  constructor
  · rintro ⟨row, kept, ⟨simulation, generation, lower, upper, rfl, rfl, complete⟩, rfl⟩
    obtain ⟨-, -, marker, marked, counted⟩ := mem_completeSteps.mp complete
    exact ⟨row, marker, ⟨kept, simulation, generation, lower, upper, instant, stored, marked,
      counted.symm⟩, rfl⟩
  · rintro ⟨row, marker, charted, rfl⟩
    refine ⟨row, charted.stored, ⟨charted.simulationId, charted.generation, charted.lower,
      charted.upper, ?_, ?_, ?_⟩, rfl⟩
    · exact Except.ok.inj (charted.expiresAt.symm.trans instant)
    · exact Except.ok.inj (charted.strike.symm.trans stored)
    · refine mem_completeSteps.mpr ⟨⟨charted.lower, charted.upper⟩, ?_, marker, charted.marked,
        charted.complete.symm⟩
      exact List.length_pos_of_mem charted.mem_stepRows

theorem Whole.get (within : WithinBudget config crates tables query)
    (addressable : query.toStep < u64Limit) (charted : Charted crates tables query row marker)
    (whole : Whole config crates tables query marker) :
    ∃ record, get config crates tables query.simulation query.generation row.step =
        .ok (some record) ∧
      record.step = row.step ∧ record.simulatedAt = fromStorageInstant marker.simulatedAt ∧
      Grouped crates (stepRows tables query row.step) record.expirations := by
  have readable := whole.rows
  have identity := whole.identity
  rw [charted.marker_step] at readable identity
  obtain ⟨expirations, folded⟩ := foldlM_of_readable stepRows_ascending readable
  obtain ⟨spot, price⟩ := exists_of_isOk whole.price
  obtain ⟨base, volatility⟩ := exists_of_isOk whole.volatility
  have small := charted.upper.trans_lt addressable
  have one : 1 ≤ config.maxReadRows := by
    have found := (mem_contractRange_iff_charted charted.expiresAt charted.strike).mpr
      ⟨row, marker, charted, rfl⟩
    exact (List.length_pos_of_mem found).trans_le
      (within.rows _ _ charted.expiresAt charted.strike)
  refine ⟨_, get_eq_ok.mpr ⟨marker, charted.marked, small, within.probed, one, whole.budget,
    charted.complete, recordFromRows_eq_ok.mpr ⟨charted.marker_step.trans_lt small, ?_,
      expirations, spot, base, folded, price, volatility, rfl⟩⟩, charted.marker_step, rfl,
      grouped_of_foldlM folded⟩
  rw [charted.marker_step]
  exact identity

theorem whole_of_get
    (got : ClickHouseSnapshotRepository.get config crates tables query.simulation query.generation
      step = .ok (some record)) :
    ∃ marker ∈ tables.metaRange query.simulation.hyphenated query.generation step step,
      (stepRows tables query step).length = marker.quoteCount ∧
      Whole config crates tables query marker ∧ record.step = step ∧
      record.simulatedAt = fromStorageInstant marker.simulatedAt ∧
      Grouped crates (stepRows tables query step) record.expirations := by
  obtain ⟨marker, marked, -, -, -, budget, counted, read⟩ := get_eq_ok.mp got
  obtain ⟨-, identity, expirations, spot, base, folded, price, volatility, rfl⟩ :=
    recordFromRows_eq_ok.mp read
  have own := step_of_mem_metaRange marked
  have grouped := grouped_of_foldlM folded
  refine ⟨marker, marked, counted, ⟨budget, identity, ?_, ?_, ?_⟩, own, rfl, grouped⟩
  · rw [price]
    rfl
  · rw [volatility]
    rfl
  · rw [own]
    exact readable_of_grouped grouped stepRows_ascending

theorem contractRange_steps {expiresAt : I64} {strike : I128} {side : ContractSide}
    {fromStep toStep : Nat} :
    ((tables.contractRange id generation fromStep toStep expiresAt strike side).map
      ContractReadRow.step).Nodup := by
  unfold SnapshotTables.contractRange
  apply ((List.perm_insertionSort _ _).map ContractReadRow.step).nodup_iff.mpr
  rw [List.map_map]
  apply List.pairwise_map.mpr
  have keys : tables.finalQuotes.Pairwise fun left right => left.key ≠ right.key :=
    List.pairwise_map.mp (newest_nodup tables.quotes)
  apply (keys.filter _).imp_of_mem
  intro left right leftIn rightIn different same
  have leftMatch := of_decide_eq_true (List.mem_filter.mp leftIn).2
  have rightMatch := of_decide_eq_true (List.mem_filter.mp rightIn).2
  apply different
  unfold OptionQuoteRow.key
  rw [leftMatch.1, leftMatch.2.1, leftMatch.2.2.2.2.1, leftMatch.2.2.2.2.2.1, rightMatch.1,
    rightMatch.2.1, rightMatch.2.2.2.2.1, rightMatch.2.2.2.2.2.1]
  exact congrArg (fun step => (id, generation, step, expiresAt, strike)) same

/-- The points are those of the charted rows, one a step and in the order of time. -/
structure Plots (crates : ColumnCrates) (tables : SnapshotTables) (query : ContractSeriesQuery)
    (points : List ContractQuote) : Prop where
  short : query.strike.value < 10 ^ 10
  drawn : ∀ row marker, Charted crates tables query row marker →
    ∃ point ∈ points, contractQuoteFromRow crates (row.readSide query.side) query.side = .ok point
  known : ∀ point ∈ points, ∃ row marker, Charted crates tables query row marker ∧
    contractQuoteFromRow crates (row.readSide query.side) query.side = .ok point
  steps : (points.map ContractQuote.step).Nodup
  ordered : points.Pairwise fun left right => left.simulatedAt ≤ right.simulatedAt

theorem plots_of_contractSeries
    (served : contractSeries config crates tables tooManyDigits query = .ok points) :
    Plots crates tables query points := by
  obtain ⟨-, -, short, expiresAt, strike, instant, stored, -, read⟩ :=
    contractSeries_eq_ok.mp served
  have charted := fun found => @mem_contractRange_iff_charted crates tables query expiresAt strike
    found instant stored
  refine ⟨short, ?_, ?_, ?_, ?_⟩
  · intro row marker held
    exact exists_of_mem_forall₂ read.flip ((charted _).mpr ⟨row, marker, held, rfl⟩)
  · intro point member
    obtain ⟨found, inside, own⟩ := exists_of_mem_forall₂ read member
    obtain ⟨row, marker, held, rfl⟩ := (charted found).mp inside
    exact ⟨row, marker, held, own⟩
  · apply List.pairwise_map.mpr
    apply pairwise_of_forall₂ read _ (List.pairwise_map.mp contractRange_steps)
    intro left right first second own other different same
    rw [(contractQuoteFromRow_fields own).1, (contractQuoteFromRow_fields other).1] at same
    exact different same
  · apply pairwise_of_forall₂ read _ contractRange_ascending
    intro left right first second own other below
    rw [(contractQuoteFromRow_fields own).2.1, (contractQuoteFromRow_fields other).2.1]
    apply fromStorageInstant_le
    obtain before | ⟨same, -⟩ := Prod.Lex.toLex_lt_toLex.mp below
    · exact before.le
    · exact same.le

theorem exists_contractSeries (tooManyDigits : String → String)
    (within : WithinBudget config crates tables query)
    (addressable : query.toStep < u64Limit) (charted : Charted crates tables query row marker)
    (short : query.strike.value < 10 ^ 10)
    (readable : ∀ row marker, Charted crates tables query row marker →
      (contractQuoteFromRow crates (row.readSide query.side) query.side).isOk) :
    ∃ points, contractSeries config crates tables tooManyDigits query = .ok points := by
  have read : ∃ points, List.Forall₂ (fun found point =>
      contractQuoteFromRow crates found query.side = .ok point)
      (tables.contractRange query.simulation.hyphenated query.generation query.fromStep
        query.toStep row.expiresAt row.strike query.side) points := by
    apply exists_forall₂_of_isOk
    intro found member
    obtain ⟨other, marker, held, rfl⟩ :=
      (mem_contractRange_iff_charted charted.expiresAt charted.strike).mp member
    exact readable other marker held
  obtain ⟨points, read⟩ := read
  exact ⟨points, contractSeries_eq_ok.mpr ⟨⟨charted.lower.trans charted.upper, addressable⟩,
    within.probed, short, row.expiresAt, row.strike, charted.expiresAt, charted.strike,
    within.rows _ _ charted.expiresAt charted.strike, read⟩⟩

theorem charted_of_project (record : SnapshotRecord) (exact : crates.Exact)
    {expirations : List ExpirationRecord}
    (lower : query.fromStep ≤ step) (upper : step ≤ query.toStep)
    (marked : marker ∈ tables.metaRange query.simulation.hyphenated query.generation step step)
    (counted : (stepRows tables query step).length = marker.quoteCount)
    (grouped : Grouped crates (stepRows tables query step) expirations)
    (quoted : ({ record with expirations := expirations } : SnapshotRecord).project query ≠ []) :
    ∃ row, Charted crates tables query row marker ∧ row.step = step ∧
      ¬ query.expiresAt.time.InLeapSecond := by
  have projected := projects_of_grouped record query grouped stepRows_ascending
  obtain ⟨point, member⟩ := List.exists_mem_of_ne_nil _ quoted
  obtain ⟨read, inside, -⟩ := exists_of_mem_forall₂ projected member
  obtain ⟨found, own⟩ := List.mem_filter.mp inside
  obtain ⟨row, kept, ⟨simulation, generation, above, below⟩, rfl⟩ := mem_quotesRange.mp found
  obtain rfl : row.step = step := le_antisymm below above
  obtain ⟨expiresAt, strike, outside⟩ := OfContract.stored exact (of_decide_eq_true own)
  exact ⟨row, ⟨kept, simulation, generation, lower, upper, expiresAt, strike, marked, counted⟩,
    rfl, outside⟩

theorem Charted.project (record : SnapshotRecord) (exact : crates.Exact)
    {expirations : List ExpirationRecord}
    (charted : Charted crates tables query row marker)
    (outside : ¬ query.expiresAt.time.InLeapSecond)
    (grouped : Grouped crates (stepRows tables query row.step) expirations) :
    ∃ point, ({ record with expirations := expirations } : SnapshotRecord).project query = [point] ∧
      Projects crates record query.side (stepRows tables query row.step) row.read point := by
  have projected := projects_of_grouped record query grouped stepRows_ascending
  rw [filter_ofContract exact stepRows_ascending charted.mem_stepRows
    (charted.ofContract exact.accepts outside)] at projected
  cases points : ({ record with expirations := expirations } : SnapshotRecord).project query with
  | nil =>
      rw [points] at projected
      cases projected
  | cons point rest =>
      rw [points] at projected
      cases projected with
      | cons own others =>
          cases others
          exact ⟨point, rfl, own⟩

theorem Faithful.point {point : ContractQuote} (faithful : Faithful tables query row marker)
    (small : row.step < u64Limit) (named : record.step = row.step)
    (instant : record.simulatedAt = fromStorageInstant marker.simulatedAt)
    (projects : Projects crates record query.side (stepRows tables query row.step) row.read
      point) :
    contractQuoteFromRow crates (row.readSide query.side) query.side = .ok point := by
  obtain ⟨quote, first, days, read, opens, same, dated, rfl⟩ := projects
  rw [faithful.days first opens same] at dated
  rw [contractQuoteFromRow_of_quote record read small dated, ← named,
    faithful.simulatedAt, ← instant]
  rfl

theorem faithful_of_point {point : ContractQuote} (exact : crates.Exact)
    (instant : record.simulatedAt = fromStorageInstant marker.simulatedAt)
    (projects : Projects crates record query.side (stepRows tables query row.step) row.read point)
    (read : contractQuoteFromRow crates (row.readSide query.side) query.side = .ok point) :
    Faithful tables query row marker := by
  obtain ⟨-, simulatedAt, dated⟩ := contractQuoteFromRow_fields read
  obtain ⟨quote, first, days, -, opens, same, firstDated, rfl⟩ := projects
  constructor
  · exact fromStorageInstant_injective (simulatedAt.symm.trans instant)
  · intro other otherOpens otherSame
    rw [otherOpens.unique opens stepRows_ascending (otherSame.trans same.symm)]
    have stored := toStoragePositive_of_fromStoragePositive exact "strike" firstDated
    have again := toStoragePositive_of_fromStoragePositive exact "strike" dated
    exact Except.ok.inj (stored.symm.trans again)

theorem agrees_of_refused (exact : crates.Exact)
    (refused : Refused config crates tables query) :
    AgreesWithReads config crates tables tooManyDigits query := by
  have unserved : ∀ points,
      contractSeries config crates tables tooManyDigits query ≠ .ok points := by
    intro points served
    have plots := plots_of_contractSeries served
    obtain long | ⟨row, marker, charted, unreadable⟩ := refused.1
    · exact absurd plots.short (not_lt.mpr long)
    · obtain ⟨point, -, read⟩ := plots.drawn row marker charted
      rw [read] at unreadable
      exact unreadable rfl
  refine ⟨fun points served => absurd served (unserved points), ?_,
    fun points served => absurd served (unserved points)⟩
  intro step record lower upper got quoted
  obtain ⟨marker, marked, counted, whole, -, -, grouped⟩ := whole_of_get got
  obtain ⟨row, charted, rfl, outside⟩ :=
    charted_of_project record exact lower upper marked counted grouped quoted
  exact absurd (refused.2 row marker charted whole) outside

section Agreement

variable (exact : crates.Exact) (addressable : query.toStep < u64Limit)
  (within : WithinBudget config crates tables query)

include exact addressable within

theorem agrees_of_consistent (consistent : Consistent config crates tables query) :
    AgreesWithReads config crates tables tooManyDigits query where
  sound points served point member := by
    obtain ⟨row, marker, charted, read⟩ := (plots_of_contractSeries served).known point member
    obtain ⟨whole, faithful, -, outside⟩ := consistent row marker charted
    obtain ⟨record, got, named, instant, grouped⟩ := whole.get within addressable charted
    obtain ⟨shown, projected, projects⟩ := charted.project record exact outside grouped
    have same := faithful.point (charted.upper.trans_lt addressable) named instant projects
    rw [read] at same
    cases same
    rw [(contractQuoteFromRow_fields read).1]
    exact ⟨record, got, projected⟩
  complete step record lower upper got quoted := by
    obtain ⟨marker, marked, counted, whole, -, -, grouped⟩ := whole_of_get got
    obtain ⟨row, charted, rfl, -⟩ :=
      charted_of_project record exact lower upper marked counted grouped quoted
    have readable : ∀ row marker, Charted crates tables query row marker →
        (contractQuoteFromRow crates (row.readSide query.side) query.side).isOk := by
      intro row marker charted
      obtain ⟨whole, faithful, -, outside⟩ := consistent row marker charted
      obtain ⟨record, -, named, instant, grouped⟩ := whole.get within addressable charted
      obtain ⟨shown, -, projects⟩ := charted.project record exact outside grouped
      rw [faithful.point (charted.upper.trans_lt addressable) named instant projects]
      rfl
    obtain ⟨points, served⟩ := exists_contractSeries tooManyDigits within
      addressable charted (consistent row marker charted).2.2.1 readable
    have plots := plots_of_contractSeries served
    obtain ⟨point, member, read⟩ := plots.drawn row marker charted
    refine ⟨points, served,
      List.count_eq_one_of_mem plots.steps (List.mem_map.mpr ⟨point, member, ?_⟩)⟩
    exact (contractQuoteFromRow_fields read).1
  ordered points served := (plots_of_contractSeries served).ordered

theorem consistent_or_refused (agrees : AgreesWithReads config crates tables tooManyDigits query) :
    Consistent config crates tables query ∨ Refused config crates tables query := by
  cases served : contractSeries config crates tables tooManyDigits query with
  | ok points =>
      left
      intro row marker charted
      have plots := plots_of_contractSeries served
      obtain ⟨point, member, read⟩ := plots.drawn row marker charted
      obtain ⟨record, got, projected⟩ := agrees.sound points served point member
      rw [(contractQuoteFromRow_fields read).1] at got
      obtain ⟨other, marked, counted, whole, -, instant, grouped⟩ := whole_of_get got
      obtain rfl := metaRange_unique marked charted.marked
      have quoted : record.project query ≠ [] := by
        rw [projected]
        exact List.cons_ne_nil point []
      obtain ⟨-, -, -, outside⟩ :=
        charted_of_project record exact charted.lower charted.upper marked
        counted grouped quoted
      obtain ⟨shown, same, projects⟩ := charted.project record exact outside grouped
      obtain rfl : point = shown := List.singleton_injective (projected.symm.trans same)
      exact ⟨whole, faithful_of_point exact instant projects read, plots.short, outside⟩
  | error error =>
      by_cases any : ∃ row marker, Charted crates tables query row marker
      · right
        obtain ⟨row, marker, charted⟩ := any
        constructor
        · by_contra neither
          rw [not_or, not_le] at neither
          have readable : ∀ row marker, Charted crates tables query row marker →
              (contractQuoteFromRow crates (row.readSide query.side) query.side).isOk := by
            intro row marker charted
            by_contra unreadable
            exact neither.2 ⟨row, marker, charted, unreadable⟩
          obtain ⟨points, again⟩ := exists_contractSeries tooManyDigits within addressable charted
            neither.1 readable
          rw [served] at again
          cases again
        · intro row marker charted whole
          by_contra outside
          obtain ⟨record, got, -, -, grouped⟩ := whole.get within addressable charted
          obtain ⟨shown, projected, -⟩ := charted.project record exact outside grouped
          have quoted : record.project query ≠ [] := by
            rw [show record.project query = [shown] from projected]
            exact List.cons_ne_nil shown []
          obtain ⟨points, again, -⟩ :=
            agrees.complete row.step record charted.lower charted.upper got quoted
          rw [served] at again
          cases again
      · left
        intro row marker charted
        exact absurd ⟨row, marker, charted⟩ any

/-- A contract's history agrees with reads of whole snapshots exactly where every step that is
charted is of a whole snapshot its row is faithful to, or where none is and the history is
refused. -/
theorem contract_series_agrees_iff :
    AgreesWithReads config crates tables tooManyDigits query ↔
      Consistent config crates tables query ∨ Refused config crates tables query := by
  constructor
  · exact consistent_or_refused exact addressable within
  · rintro (consistent | refused)
    · exact agrees_of_consistent exact addressable within consistent
    · exact agrees_of_refused exact refused

end Agreement

end Contract

/-! ### Tables with rows stored twice and rows missing, and a snapshot of another identity -/

def smallReads : SnapshotPersistenceConfig := ⟨10, 10⟩

def oneStrikeTables : SnapshotTables where
  snapshots := (metaRow exactCrates oneStrikeRecord 0).toOption.toList
  quotes := (quoteRows exactCrates oneStrikeRecord 0).toOption.getD []

def foreignTables : SnapshotTables :=
  { oneStrikeTables with
    snapshots := oneStrikeTables.snapshots.map fun marker =>
      { marker with snapshotId := "foreign" } }

def oneStrikeQuery : ContractSeriesQuery :=
  ⟨someId, currentSnapshotGeneration, oneStrike.expiresAt, .one, .call, 0, 3⟩

theorem exactCrates_exact : exactCrates.Exact := by
  intro value positive
  unfold exactCrates
  dsimp only
  split_ifs with nonneg
  · rw [Except.ok.injEq]
    constructor
    · intro same
      rw [← same]
    · intro same
      subst same
      rfl
  · constructor
    · intro impossible
      cases impossible
    · intro same
      exact absurd (same ▸ positive.nonneg) nonneg

/-- What can be computed of consistency: every row of the tables is faithful to its whole
snapshot. -/
def AllConsistent (config : SnapshotPersistenceConfig) (crates : ColumnCrates)
    (tables : SnapshotTables) (query : ContractSeriesQuery) : Prop :=
  ∀ row ∈ tables.finalQuotes, ∀ marker ∈
      tables.metaRange query.simulation.hyphenated query.generation row.step row.step,
    (marker.quoteCount ≤ config.maxReadRows ∧
      marker.snapshotId =
        (snapshotId crates.newV5 query.simulation query.generation marker.step).hyphenated ∧
      (fromStoragePositive crates marker.underlyingPrice "underlying_price").isOk ∧
      (fromStoragePositive crates marker.baseVolatility "base_volatility").isOk ∧
      ∀ read ∈ stepRows tables query marker.step, (quoteFromRow crates read).isOk ∧
        (fromStoragePositive crates read.daysToExpiration "days_to_expiration").isOk) ∧
    row.simulatedAt = marker.simulatedAt ∧
      ∀ read ∈ stepRows tables query row.step, read.expiresAt = row.read.expiresAt →
        read.daysToExpiration = row.daysToExpiration

theorem consistent_of_all {config : SnapshotPersistenceConfig} {crates : ColumnCrates}
    {tables : SnapshotTables} {query : ContractSeriesQuery}
    (all : AllConsistent config crates tables query) (short : query.strike.value < 10 ^ 10)
    (outside : ¬ query.expiresAt.time.InLeapSecond) : Consistent config crates tables query := by
  intro row marker charted
  obtain ⟨⟨budget, identity, price, volatility, rows⟩, instant, days⟩ :=
    all row charted.stored marker charted.marked
  have readable : RowsReadable crates (stepRows tables query marker.step) :=
    ⟨fun read member => (rows read member).1, fun read opens => (rows read opens.1).2⟩
  exact ⟨⟨budget, identity, price, volatility, readable⟩,
    ⟨instant, fun first opens same => days first opens.1 same⟩, short, outside⟩

theorem withinBudget_of_rows {config : SnapshotPersistenceConfig} {crates : ColumnCrates}
    {tables : SnapshotTables} {query : ContractSeriesQuery}
    (probed : config.maxReadRows + 1 < u64Limit)
    (few : tables.quotes.length ≤ config.maxReadRows) :
    WithinBudget config crates tables query := by
  refine ⟨probed, fun expiresAt strike _ _ => le_trans ?_ few⟩
  unfold SnapshotTables.contractRange
  rw [List.length_insertionSort, List.length_map]
  exact (List.length_filter_le _ _).trans (newest_sublist tables.quotes).length_le

/-- Four strikes stored twice over, and at the next step without the last of them. -/
def patchyTables : SnapshotTables :=
  let next := { fourStrikeRecord with step := 1 }
  let rows := (quoteRows exactCrates fourStrikeRecord 0).toOption.getD []
  let again := (quoteRows exactCrates fourStrikeRecord 1).toOption.getD []
  let later := (quoteRows exactCrates next 2).toOption.getD []
  { snapshots := ([metaRow exactCrates fourStrikeRecord 0, metaRow exactCrates fourStrikeRecord 1,
      metaRow exactCrates next 2].map fun marker => marker.toOption.toList).flatten
    quotes := again ++ rows ++ later.dropLast }

def fourStrikeQuery : ContractSeriesQuery :=
  ⟨someId, currentSnapshotGeneration, Domain.Expiry.thursdayFivePm, .ratio 2 1, .call, 0, 3⟩

def manyReads : SnapshotPersistenceConfig := ⟨20, 20⟩

theorem contract_series_agrees_iff_patchy :
    AgreesWithReads manyReads exactCrates patchyTables id fourStrikeQuery ∧
      (contractSeries manyReads exactCrates patchyTables id fourStrikeQuery).map
        (List.map ContractQuote.step) = .ok [0] := by
  have within : WithinBudget manyReads exactCrates patchyTables fourStrikeQuery :=
    withinBudget_of_rows (by decide) (by decide +kernel)
  have consistent : Consistent manyReads exactCrates patchyTables fourStrikeQuery :=
    consistent_of_all (by unfold AllConsistent; decide +kernel) (by decide +kernel) (by decide)
  exact ⟨(contract_series_agrees_iff exactCrates_exact (by decide) within).mpr (.inl consistent),
    by decide +kernel⟩

/-- A snapshot stored under another identity is refused whole, and its strike is shown. -/
theorem foreign_snapshot_is_charted :
    WithinBudget smallReads exactCrates foreignTables oneStrikeQuery ∧
      ∃ points, contractSeries smallReads exactCrates foreignTables id oneStrikeQuery = .ok points ∧
        ∃ point ∈ points, ∀ record, get smallReads exactCrates foreignTables
          oneStrikeQuery.simulation oneStrikeQuery.generation point.step ≠ .ok (some record) := by
  have within : WithinBudget smallReads exactCrates foreignTables oneStrikeQuery :=
    withinBudget_of_rows (by decide) (by decide +kernel)
  have computed : (contractSeries smallReads exactCrates foreignTables id
      oneStrikeQuery).toOption.any (fun points => points.any fun point =>
        !(get smallReads exactCrates foreignTables oneStrikeQuery.simulation
          oneStrikeQuery.generation point.step).isOk) = true := by
    decide +kernel
  refine ⟨within, ?_⟩
  cases served : contractSeries smallReads exactCrates foreignTables id oneStrikeQuery with
  | error error =>
      rw [served] at computed
      cases computed
  | ok points =>
      rw [served] at computed
      obtain ⟨point, member, refused⟩ := List.any_eq_true.mp computed
      refine ⟨points, rfl, point, member, fun record got => ?_⟩
      rw [got] at refused
      cases refused

end OptionChainSimulator.Infrastructure.ClickHouseSnapshotRepository
