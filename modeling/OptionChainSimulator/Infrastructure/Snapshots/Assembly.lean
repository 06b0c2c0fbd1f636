import Mathlib.Tactic
import OptionChainSimulator.Infrastructure.Snapshots.Warehouse

namespace OptionChainSimulator.Infrastructure.ClickHouseSnapshotRepository

open Foundation Utils Domain

/-! What the queries return, and what a read makes of their rows. -/

section Queries

variable {config : SnapshotPersistenceConfig} {tables : SnapshotTables} {simulation : String}
  {generation fromStep toStep step : Nat} {marker : SnapshotMetaReadRow} {row : QuoteReadRow}

theorem mem_metaRange :
    marker ∈ tables.metaRange simulation generation fromStep toStep ↔
      ∃ row ∈ tables.finalSnapshots, (row.simulationId = simulation ∧
        row.simulationGeneration = generation ∧ fromStep ≤ row.step ∧ row.step ≤ toStep ∧
          row.complete = true) ∧ row.read = marker := by
  unfold SnapshotTables.metaRange
  simp only [List.mem_insertionSort, List.mem_map, List.mem_filter, decide_eq_true_eq, and_assoc]

theorem step_of_mem_metaRange (member : marker ∈ tables.metaRange simulation generation step step) :
    marker.step = step := by
  obtain ⟨row, -, ⟨-, -, above, below, -⟩, rfl⟩ := mem_metaRange.mp member
  exact le_antisymm below above

theorem metaRange_ascending :
    (tables.metaRange simulation generation fromStep toStep).Pairwise
      fun left right => left.step < right.step := by
  apply select_ascending
  intro left right leftKept rightKept same
  have leftMatch := of_decide_eq_true leftKept
  have rightMatch := of_decide_eq_true rightKept
  unfold SnapshotMetaRow.key
  rw [leftMatch.1, leftMatch.2.1, rightMatch.1, rightMatch.2.1]
  exact congrArg (fun step => (simulation, generation, step)) same

theorem mem_quotesRange :
    row ∈ tables.quotesRange simulation generation fromStep toStep ↔
      ∃ stored ∈ tables.finalQuotes, (stored.simulationId = simulation ∧
        stored.simulationGeneration = generation ∧ fromStep ≤ stored.step ∧
          stored.step ≤ toStep) ∧ stored.read = row := by
  unfold SnapshotTables.quotesRange orderQuotes
  simp only [List.mem_insertionSort, List.mem_map, List.mem_filter, decide_eq_true_eq, and_assoc]

theorem step_of_mem_quotesRange
    (member : row ∈ tables.quotesRange simulation generation step step) :
    row.step = step := by
  obtain ⟨stored, -, ⟨-, -, above, below⟩, rfl⟩ := mem_quotesRange.mp member
  exact le_antisymm below above

theorem quotesRange_ascending :
    (tables.quotesRange simulation generation fromStep toStep).Pairwise
      fun left right => left.key < right.key := by
  apply select_ascending
  intro left right leftKept rightKept same
  have leftMatch := of_decide_eq_true leftKept
  have rightMatch := of_decide_eq_true rightKept
  obtain ⟨step, inner⟩ := Prod.ext_iff.mp (toLex.injective same)
  obtain ⟨expiresAt, strike⟩ := Prod.ext_iff.mp (toLex.injective inner)
  change left.step = right.step at step
  change left.expiresAt = right.expiresAt at expiresAt
  change left.strike = right.strike at strike
  unfold OptionQuoteRow.key
  rw [leftMatch.1, leftMatch.2.1, rightMatch.1, rightMatch.2.1, step, expiresAt, strike]

theorem rejectIfOverBudget_eq_ok {returned : Nat} {what : String} :
    rejectIfOverBudget config returned what = .ok () ↔ returned ≤ config.maxReadRows := by
  unfold rejectIfOverBudget
  split_ifs with beyond
  · constructor
    · intro impossible
      cases impossible
    · intro within
      exact absurd beyond (not_lt.mpr within)
  · exact iff_of_true rfl (not_lt.mp beyond)

/-- A probed query whose answer is within the budget was not cut off. -/
theorem probed_eq_ok {Row : Type} {rows answered : List Row} {what : String} :
    (do
      let limit ← probeLimit config
      rejectIfOverBudget config (rows.take limit).length what
      return rows.take limit : Except ChainError (List Row)) = .ok answered ↔
      config.maxReadRows + 1 < u64Limit ∧ rows.length ≤ config.maxReadRows ∧ answered = rows := by
  unfold probeLimit
  constructor
  · intro fetched
    obtain ⟨limit, probed, rest⟩ := bind_eq_ok.mp fetched
    obtain ⟨fits, rfl⟩ := unsigned?_eq_some.mp (okOr_eq_ok.mp probed)
    obtain ⟨within, kept⟩ := bind_unit_eq_ok.mp rest
    have within := rejectIfOverBudget_eq_ok.mp within
    rw [List.length_take] at within
    have short : rows.length ≤ config.maxReadRows := by omega
    rw [List.take_of_length_le (short.trans (Nat.le_succ _))] at kept
    exact ⟨fits, short, (Except.ok.inj kept).symm⟩
  · rintro ⟨fits, short, rfl⟩
    have whole := List.take_of_length_le (short.trans (Nat.le_succ config.maxReadRows))
    refine bind_eq_ok.mpr ⟨_, okOr_eq_ok.mpr (unsigned?_eq_some.mpr ⟨fits, rfl⟩), ?_⟩
    rw [whole]
    exact bind_unit_eq_ok.mpr ⟨rejectIfOverBudget_eq_ok.mpr short, rfl⟩

theorem fetchMetaRows_eq_ok {id : Uuid} {metas : List SnapshotMetaReadRow} :
    fetchMetaRows config tables id generation fromStep toStep = .ok metas ↔
      config.maxReadRows + 1 < u64Limit ∧
        (tables.metaRange id.hyphenated generation fromStep toStep).length ≤
          config.maxReadRows ∧
        metas = tables.metaRange id.hyphenated generation fromStep toStep :=
  probed_eq_ok

theorem fetchQuoteRows_eq_ok {id : Uuid} {quotes : List QuoteReadRow} :
    fetchQuoteRows config tables id generation fromStep toStep = .ok quotes ↔
      config.maxReadRows + 1 < u64Limit ∧
        (tables.quotesRange id.hyphenated generation fromStep toStep).length ≤
          config.maxReadRows ∧
        quotes = tables.quotesRange id.hyphenated generation fromStep toStep :=
  probed_eq_ok

theorem stepBounds_eq_ok {bounds : Nat × Nat} :
    stepBounds fromStep toStep = .ok bounds ↔
      fromStep ≤ toStep ∧ toStep < u64Limit ∧ bounds = (fromStep, toStep) := by
  unfold stepBounds
  split_ifs with reversed
  · constructor
    · intro impossible
      cases impossible
    · rintro ⟨ordered, -⟩
      exact absurd reversed (not_lt.mpr ordered)
  · have ordered := not_lt.mp reversed
    constructor
    · intro bounded
      obtain ⟨lower, lowerCounted, rest⟩ := bind_eq_ok.mp bounded
      obtain ⟨upper, upperCounted, kept⟩ := bind_eq_ok.mp rest
      obtain ⟨-, rfl⟩ := toStorageCount_eq_ok.mp lowerCounted
      obtain ⟨fits, rfl⟩ := toStorageCount_eq_ok.mp upperCounted
      cases kept
      exact ⟨ordered, fits, rfl⟩
    · rintro ⟨-, fits, rfl⟩
      exact bind_eq_ok.mpr ⟨_, toStorageCount_eq_ok.mpr ⟨ordered.trans_lt fits, rfl⟩,
        bind_eq_ok.mpr ⟨_, toStorageCount_eq_ok.mpr ⟨fits, rfl⟩, rfl⟩⟩

end Queries

section Assembly

variable {crates : ColumnCrates} {simulation : Uuid} {generation step : Nat}
  {quotes : List QuoteReadRow} {metas : List SnapshotMetaReadRow}
  {records : List SnapshotRecord}

theorem get?_byStep (quotes : List QuoteReadRow) (step : Nat) :
    ((byStep quotes).get? step).getD [] = quotes.filter fun row => row.step = step := by
  have folded : ∀ groups : OrderedMap Nat (List QuoteReadRow),
      ((quotes.foldl (fun groups row => groups.upsert row.step [] (· ++ [row])) groups).get?
        step).getD [] =
        (groups.get? step).getD [] ++ quotes.filter fun row => row.step = step := by
    induction quotes with
    | nil =>
        intro groups
        exact (List.append_nil _).symm
    | cons row quotes ih =>
        intro groups
        rw [List.foldl_cons, ih, List.filter_cons]
        by_cases own : row.step = step
        · subst own
          rw [OrderedMap.get?_upsert_self]
          simp
        · rw [OrderedMap.get?_upsert_of_ne _ _ _ (Ne.symm own)]
          simp [own]
  exact folded .empty

/-- The records of the markers whose count is the number of rows at their step. -/
inductive Assembles (crates : ColumnCrates) (simulation : Uuid) (generation : Nat)
    (rowsOf : Nat → List QuoteReadRow) :
    List SnapshotMetaReadRow → List SnapshotRecord → Prop where
  | done : Assembles crates simulation generation rowsOf [] []
  | skipped {marker rest records} : (rowsOf marker.step).length ≠ marker.quoteCount →
      Assembles crates simulation generation rowsOf rest records →
      Assembles crates simulation generation rowsOf (marker :: rest) records
  | served {marker rest record records} : (rowsOf marker.step).length = marker.quoteCount →
      recordFromRows crates simulation generation marker (rowsOf marker.step) = .ok record →
      Assembles crates simulation generation rowsOf rest records →
      Assembles crates simulation generation rowsOf (marker :: rest) (record :: records)

theorem assembles_of_assembleMetas {groups : OrderedMap Nat (List QuoteReadRow)}
    {rowsOf : Nat → List QuoteReadRow}
    (ascending : metas.Pairwise fun left right => left.step < right.step)
    (grouped : ∀ marker ∈ metas, (groups.get? marker.step).getD [] = rowsOf marker.step)
    (assembled : assembleMetas crates simulation generation metas groups = .ok records) :
    Assembles crates simulation generation rowsOf metas records := by
  induction metas generalizing groups records with
  | nil =>
      cases assembled
      exact .done
  | cons marker rest ih =>
      rw [List.pairwise_cons] at ascending
      rw [List.forall_mem_cons] at grouped
      have others : ∀ later ∈ rest,
          ((groups.erase marker.step).get? later.step).getD [] = rowsOf later.step := by
        intro later member
        rw [OrderedMap.get?_erase, Function.update_of_ne (ascending.1 later member).ne']
        exact grouped.2 later member
      unfold assembleMetas at assembled
      simp only [grouped.1] at assembled
      split_ifs at assembled with short
      · exact .skipped short (ih ascending.2 others assembled)
      · obtain ⟨record, read, rest⟩ := bind_eq_ok.mp assembled
        obtain ⟨records, more, kept⟩ := bind_eq_ok.mp rest
        cases kept
        exact .served (not_not.mp short) read (ih ascending.2 others more)

theorem Assembles.sound {rowsOf : Nat → List QuoteReadRow}
    (assembles : Assembles crates simulation generation rowsOf metas records) :
    ∀ record ∈ records, ∃ marker ∈ metas, (rowsOf marker.step).length = marker.quoteCount ∧
      recordFromRows crates simulation generation marker (rowsOf marker.step) = .ok record := by
  induction assembles with
  | done =>
      intro record member
      cases member
  | skipped _ _ ih =>
      intro record member
      obtain ⟨marker, inside, found⟩ := ih record member
      exact ⟨marker, List.mem_cons_of_mem _ inside, found⟩
  | served whole read _ ih =>
      intro record member
      cases member with
      | head => exact ⟨_, List.mem_cons_self, whole, read⟩
      | tail _ later =>
          obtain ⟨marker, inside, found⟩ := ih record later
          exact ⟨marker, List.mem_cons_of_mem _ inside, found⟩

theorem Assembles.complete {rowsOf : Nat → List QuoteReadRow}
    (assembles : Assembles crates simulation generation rowsOf metas records)
    {marker : SnapshotMetaReadRow} (listed : marker ∈ metas)
    (whole : (rowsOf marker.step).length = marker.quoteCount) :
    ∃ record ∈ records,
      recordFromRows crates simulation generation marker (rowsOf marker.step) = .ok record := by
  induction assembles with
  | done => cases listed
  | skipped short _ ih =>
      cases listed with
      | head => exact absurd whole short
      | tail _ later => exact ih later
  | @served _ _ record _ _ read _ ih =>
      cases listed with
      | head => exact ⟨record, List.mem_cons_self, read⟩
      | tail _ later =>
          obtain ⟨other, inside, found⟩ := ih later
          exact ⟨other, List.mem_cons_of_mem _ inside, found⟩

theorem recordFromRows_eq_ok {marker : SnapshotMetaReadRow} {rows : List QuoteReadRow}
    {record : SnapshotRecord} :
    recordFromRows crates simulation generation marker rows = .ok record ↔
      marker.step < u64Limit ∧
      marker.snapshotId =
        (snapshotId crates.newV5 simulation generation marker.step).hyphenated ∧
      ∃ expirations spot baseVolatility,
        rows.foldlM (pushRow crates) [] = .ok expirations ∧
        fromStoragePositive crates marker.underlyingPrice "underlying_price" = .ok spot ∧
        fromStoragePositive crates marker.baseVolatility "base_volatility" =
          .ok baseVolatility ∧
        record = ⟨simulation, generation, marker.step, fromStorageInstant marker.simulatedAt,
          marker.symbol, spot, baseVolatility, expirations⟩ := by
  unfold recordFromRows
  constructor
  · intro read
    obtain ⟨step, addressed, rest⟩ := bind_eq_ok.mp read
    obtain ⟨small, rfl⟩ := unsigned?_eq_some.mp (okOr_eq_ok.mp addressed)
    dsimp only at rest
    split_ifs at rest with foreign
    · cases rest
    · obtain ⟨expirations, folded, rest⟩ := bind_eq_ok.mp rest
      obtain ⟨spot, price, rest⟩ := bind_eq_ok.mp rest
      obtain ⟨volatility, base, kept⟩ := bind_eq_ok.mp rest
      cases kept
      exact ⟨small, not_not.mp foreign, expirations, spot, volatility, folded, price, base, rfl⟩
  · rintro ⟨small, identity, expirations, spot, volatility, folded, price, base, rfl⟩
    refine bind_eq_ok.mpr ⟨_, okOr_eq_ok.mpr (unsigned?_eq_some.mpr ⟨small, rfl⟩), ?_⟩
    dsimp only
    rw [if_neg (not_not.mpr identity)]
    exact bind_eq_ok.mpr ⟨_, folded, bind_eq_ok.mpr ⟨_, price, bind_eq_ok.mpr ⟨_, base, rfl⟩⟩⟩

theorem named_of_recordFromRows {marker : SnapshotMetaReadRow} {rows : List QuoteReadRow}
    {record : SnapshotRecord}
    (read : recordFromRows crates simulation generation marker rows = .ok record) :
    record.simulation = simulation ∧ record.generation = generation ∧
      record.step = marker.step := by
  obtain ⟨-, -, expirations, spot, volatility, -, -, -, rfl⟩ := recordFromRows_eq_ok.mp read
  exact ⟨rfl, rfl, rfl⟩

theorem Assembles.steps {rowsOf : Nat → List QuoteReadRow}
    (assembles : Assembles crates simulation generation rowsOf metas records) :
    (records.map SnapshotRecord.step).Sublist (metas.map SnapshotMetaReadRow.step) := by
  induction assembles with
  | done => exact List.Sublist.refl _
  | skipped _ _ ih => exact ih.cons _
  | served _ read _ ih =>
      rw [List.map_cons, List.map_cons, (named_of_recordFromRows read).2.2]
      exact ih.cons_cons _

theorem assembles_of_assemble
    (ascending : metas.Pairwise fun left right => left.step < right.step)
    (assembled : assemble crates simulation generation metas quotes = .ok records) :
    Assembles crates simulation generation (fun step => quotes.filter fun row => row.step = step)
      metas records :=
  assembles_of_assembleMetas ascending (fun marker _ => get?_byStep quotes marker.step) assembled

end Assembly

section TwoQueries

variable {config : SnapshotPersistenceConfig} {crates : ColumnCrates} {tables : SnapshotTables}
  {simulation : Uuid} {generation fromStep toStep step : Nat} {record : SnapshotRecord}

theorem metaRange_single {id : String} (step : Nat) :
    tables.metaRange id generation step step =
      (tables.metaRange id generation step step).head?.toList := by
  have ascending := @metaRange_ascending tables id generation step step
  have here : ∀ marker ∈ tables.metaRange id generation step step, marker.step = step :=
    fun marker => step_of_mem_metaRange
  cases listed : tables.metaRange id generation step step with
  | nil => rfl
  | cons first rest =>
      cases rest with
      | nil => rfl
      | cons second rest =>
          rw [listed] at ascending here
          have below := (List.pairwise_cons.mp ascending).1 second List.mem_cons_self
          rw [here first List.mem_cons_self, here second (by simp)] at below
          exact absurd below (lt_irrefl step)

theorem metaRange_unique {id : String} {marker other : SnapshotMetaReadRow}
    (found : marker ∈ tables.metaRange id generation step step)
    (again : other ∈ tables.metaRange id generation step step) : marker = other := by
  rw [metaRange_single] at found again
  exact Option.some.inj ((Option.mem_toList.mp found).symm.trans (Option.mem_toList.mp again))

theorem seekOne_eq_ok {answer : Option SnapshotMetaReadRow} :
    seekOne config tables simulation generation step = .ok answer ↔
      step < u64Limit ∧ config.maxReadRows + 1 < u64Limit ∧
        (tables.metaRange simulation.hyphenated generation step step).length ≤
          config.maxReadRows ∧
        answer = (tables.metaRange simulation.hyphenated generation step step).head? ∧
        ∀ marker, answer = some marker → marker.quoteCount ≤ config.maxReadRows := by
  unfold seekOne
  constructor
  · intro sought
    obtain ⟨bounds, bounded, rest⟩ := bind_eq_ok.mp sought
    obtain ⟨-, small, rfl⟩ := stepBounds_eq_ok.mp bounded
    obtain ⟨metas, fetched, rest⟩ := bind_eq_ok.mp rest
    obtain ⟨probed, within, rfl⟩ := fetchMetaRows_eq_ok.mp fetched
    refine ⟨small, probed, within, ?_⟩
    cases first : (tables.metaRange simulation.hyphenated generation step step).head? with
    | none =>
        rw [first] at rest
        cases rest
        exact ⟨rfl, fun marker impossible => by cases impossible⟩
    | some marker =>
        rw [first] at rest
        obtain ⟨budget, kept⟩ := bind_unit_eq_ok.mp rest
        cases kept
        refine ⟨rfl, fun other same => ?_⟩
        cases same
        exact rejectIfOverBudget_eq_ok.mp budget
  · rintro ⟨small, probed, within, found, budget⟩
    refine bind_eq_ok.mpr ⟨_, stepBounds_eq_ok.mpr ⟨le_refl step, small, rfl⟩, ?_⟩
    refine bind_eq_ok.mpr ⟨_, fetchMetaRows_eq_ok.mpr ⟨probed, within, rfl⟩, ?_⟩
    simp only [← found]
    cases answer with
    | none => rfl
    | some marker =>
        exact bind_unit_eq_ok.mpr ⟨rejectIfOverBudget_eq_ok.mpr (budget marker rfl), rfl⟩

theorem seekRange_eq_ok {metas : List SnapshotMetaReadRow} :
    seekRange config tables simulation generation fromStep toStep = .ok metas ↔
      (fromStep ≤ toStep ∧ toStep < u64Limit) ∧ config.maxReadRows + 1 < u64Limit ∧
        (tables.metaRange simulation.hyphenated generation fromStep toStep).length ≤
          config.maxReadRows ∧
        metas = tables.metaRange simulation.hyphenated generation fromStep toStep := by
  unfold seekRange
  rw [bind_eq_ok]
  constructor
  · rintro ⟨bounds, bounded, fetched⟩
    obtain ⟨ordered, small, rfl⟩ := stepBounds_eq_ok.mp bounded
    exact ⟨⟨ordered, small⟩, fetchMetaRows_eq_ok.mp fetched⟩
  · rintro ⟨⟨ordered, small⟩, fetched⟩
    exact ⟨_, stepBounds_eq_ok.mpr ⟨ordered, small, rfl⟩, fetchMetaRows_eq_ok.mpr fetched⟩

theorem gatherRange_eq_ok {metas : List SnapshotMetaReadRow} {records : List SnapshotRecord} :
    gatherRange config crates tables simulation generation fromStep toStep metas = .ok records ↔
      config.maxReadRows + 1 < u64Limit ∧
        (tables.quotesRange simulation.hyphenated generation fromStep toStep).length ≤
          config.maxReadRows ∧
        assemble crates simulation generation metas
          (tables.quotesRange simulation.hyphenated generation fromStep toStep) =
            .ok records := by
  unfold gatherRange
  rw [bind_eq_ok]
  constructor
  · rintro ⟨quotes, fetched, assembled⟩
    obtain ⟨probed, within, rfl⟩ := fetchQuoteRows_eq_ok.mp fetched
    exact ⟨probed, within, assembled⟩
  · rintro ⟨probed, within, assembled⟩
    exact ⟨_, fetchQuoteRows_eq_ok.mpr ⟨probed, within, rfl⟩, assembled⟩

theorem gatherOne_eq (marker : SnapshotMetaReadRow) :
    gatherOne config crates tables simulation generation step marker =
      List.getLast? <$> gatherRange config crates tables simulation generation step step
        [marker] := by
  unfold gatherOne gatherRange
  simp only [map_bind]
  rfl

/-- What `get` returns: the record of the step's one marker, if its rows are as many as it
counts. -/
theorem get_eq_ok :
    get config crates tables simulation generation step = .ok (some record) ↔
      ∃ marker ∈ tables.metaRange simulation.hyphenated generation step step,
        step < u64Limit ∧ config.maxReadRows + 1 < u64Limit ∧ 1 ≤ config.maxReadRows ∧
        marker.quoteCount ≤ config.maxReadRows ∧
        (tables.quotesRange simulation.hyphenated generation step step).length =
          marker.quoteCount ∧
        recordFromRows crates simulation generation marker
          (tables.quotesRange simulation.hyphenated generation step step) = .ok record := by
  have grouped : (tables.quotesRange simulation.hyphenated generation step step).filter
      (fun row => row.step = step) =
        tables.quotesRange simulation.hyphenated generation step step :=
    List.filter_eq_self.mpr fun row member => decide_eq_true (step_of_mem_quotesRange member)
  constructor
  · intro got
    obtain ⟨answer, sought, rest⟩ := bind_eq_ok.mp got
    obtain ⟨small, probed, bounded, found, budget⟩ := seekOne_eq_ok.mp sought
    cases answer with
    | none => cases rest
    | some marker =>
        have marked := List.mem_of_mem_head? found.symm
        have own : marker.step = step := step_of_mem_metaRange marked
        dsimp only at rest
        rw [gatherOne_eq] at rest
        obtain ⟨records, gathered, last⟩ := map_eq_ok.mp rest
        obtain ⟨-, -, assembled⟩ := gatherRange_eq_ok.mp gathered
        have positive := (List.length_pos_of_mem marked).trans_le bounded
        cases assembles_of_assemble (List.pairwise_singleton _ marker) assembled with
        | skipped short rest =>
            cases rest
            cases last
        | served whole read rest =>
            cases rest
            cases last
            rw [own, grouped] at whole read
            exact ⟨marker, marked, small, probed, positive, budget marker rfl, whole, read⟩
  · rintro ⟨marker, marked, small, probed, positive, budget, whole, read⟩
    have own : marker.step = step := step_of_mem_metaRange marked
    have single := @metaRange_single tables generation simulation.hyphenated step
    have found : (tables.metaRange simulation.hyphenated generation step step).head? =
        some marker := by
      cases first : (tables.metaRange simulation.hyphenated generation step step).head? with
      | none =>
          rw [single, first] at marked
          cases marked
      | some other =>
          rw [single, first] at marked
          rw [List.mem_singleton.mp marked]
    have bounded : (tables.metaRange simulation.hyphenated generation step step).length ≤
        config.maxReadRows := by
      rw [single, found]
      exact positive
    have assembled : assemble crates simulation generation [marker]
        (tables.quotesRange simulation.hyphenated generation step step) = .ok [record] := by
      unfold assemble assembleMetas
      simp only [get?_byStep, own, grouped]
      rw [if_neg (not_not.mpr whole)]
      exact bind_eq_ok.mpr ⟨record, read, bind_eq_ok.mpr ⟨[], rfl, rfl⟩⟩
    refine bind_eq_ok.mpr ⟨some marker,
      seekOne_eq_ok.mpr ⟨small, probed, bounded, found.symm, ?_⟩, ?_⟩
    · intro other same
      cases same
      exact budget
    · dsimp only
      rw [gatherOne_eq]
      exact map_eq_ok.mpr
        ⟨[record], gatherRange_eq_ok.mpr ⟨probed, whole.trans_le budget, assembled⟩, rfl⟩

end TwoQueries

end OptionChainSimulator.Infrastructure.ClickHouseSnapshotRepository
