import Mathlib.Tactic
import OptionChainSimulator.Infrastructure.Snapshots.ContractHistory

namespace OptionChainSimulator.Infrastructure

open Foundation Utils Domain

/-! What one pass over a step's rows makes of each of them, whatever they hold. -/

section Statement

def QuoteReadRow.contract (row : QuoteReadRow) : I64 ×ₗ I128 := toLex (row.expiresAt, row.strike)

/-- The first row of its expiration. -/
def Opens (rows : List QuoteReadRow) (row : QuoteReadRow) : Prop :=
  row ∈ rows ∧ ∀ other ∈ rows, other.expiresAt = row.expiresAt → row.strike ≤ other.strike

/-- Every row has a quote, and the first of each expiration its days. -/
structure RowsReadable (crates : ColumnCrates) (rows : List QuoteReadRow) : Prop where
  quotes : ∀ row ∈ rows, (quoteFromRow crates row).isOk
  days : ∀ row, Opens rows row →
    (fromStoragePositive crates row.daysToExpiration "days_to_expiration").isOk

end Statement

section Grouping

variable {crates : ColumnCrates} {rows : List QuoteReadRow} {row first : QuoteReadRow}
  {before after expirations : List ExpirationRecord}

/-- A pass over the rows, the last of them last: it joins the last expiration or begins one. -/
inductive Grouped (crates : ColumnCrates) : List QuoteReadRow → List ExpirationRecord → Prop where
  | nil : Grouped crates [] []
  | opens {rows expirations row quote days} : Grouped crates rows expirations →
      (∀ current, expirations.getLast? = some current →
        current.expiresAt ≠ fromStorageInstant row.expiresAt) →
      quoteFromRow crates row = .ok quote →
      fromStoragePositive crates row.daysToExpiration "days_to_expiration" = .ok days →
      Grouped crates (rows ++ [row])
        (expirations ++ [⟨fromStorageInstant row.expiresAt, days, row.labels, [quote]⟩])
  | joins {rows earlier current row quote} : Grouped crates rows (earlier ++ [current]) →
      current.expiresAt = fromStorageInstant row.expiresAt →
      quoteFromRow crates row = .ok quote →
      Grouped crates (rows ++ [row])
        (earlier ++ [{ current with quotes := current.quotes ++ [quote] }])

theorem pushRow_eq_ok :
    pushRow crates before row = .ok after ↔ ∃ quote, quoteFromRow crates row = .ok quote ∧
      ((∃ earlier current, before = earlier ++ [current] ∧
          current.expiresAt = fromStorageInstant row.expiresAt ∧
          after = earlier ++ [{ current with quotes := current.quotes ++ [quote] }]) ∨
        (∀ current, before.getLast? = some current →
          current.expiresAt ≠ fromStorageInstant row.expiresAt) ∧
        ∃ days, fromStoragePositive crates row.daysToExpiration "days_to_expiration" = .ok days ∧
          after = before ++ [⟨fromStorageInstant row.expiresAt, days, row.labels, [quote]⟩]) := by
  have opened : ∀ quote, (do return before ++ [← openExpiration crates row quote]) = .ok after ↔
      ∃ days, fromStoragePositive crates row.daysToExpiration "days_to_expiration" = .ok days ∧
        after = before ++ [⟨fromStorageInstant row.expiresAt, days, row.labels, [quote]⟩] := by
    intro quote
    unfold openExpiration
    cases fromStoragePositive crates row.daysToExpiration "days_to_expiration" with
    | error error => simp [bind, Except.bind]
    | ok days => simp [bind, Except.bind, pure, Except.pure, eq_comm]
  unfold pushRow
  rw [bind_eq_ok]
  apply exists_congr
  intro quote
  apply and_congr_right
  intro read
  obtain rfl | ⟨earlier, current, rfl⟩ := before.eq_nil_or_concat
  · dsimp only [List.getLast?_nil]
    rw [opened]
    simp
  · simp only [List.concat_eq_append, List.getLast?_concat, List.dropLast_concat] at opened ⊢
    by_cases same : current.expiresAt = fromStorageInstant row.expiresAt
    · rw [if_pos same]
      simp [same, pure, Except.pure, eq_comm]
    · rw [if_neg same, opened]
      simp [same]

theorem grouped_of_foldlM (folded : rows.foldlM (pushRow crates) [] = .ok expirations) :
    Grouped crates rows expirations := by
  induction rows using List.reverseRecOn generalizing expirations with
  | nil =>
      cases folded
      exact .nil
  | append_singleton rows row ih =>
      rw [List.foldlM_append] at folded
      obtain ⟨before, earlier, pushed⟩ := bind_eq_ok.mp folded
      rw [List.foldlM_cons] at pushed
      obtain ⟨after, pushed, kept⟩ := bind_eq_ok.mp pushed
      cases kept
      obtain ⟨quote, read, ⟨others, current, rfl, same, rfl⟩ | ⟨apart, days, dated, rfl⟩⟩ :=
        pushRow_eq_ok.mp pushed
      · exact .joins (ih earlier) same read
      · exact .opens (ih earlier) apart read dated

theorem pairwise_of_concat {order : QuoteReadRow → QuoteReadRow → Prop}
    (sorted : (rows ++ [row]).Pairwise order) :
    rows.Pairwise order ∧ ∀ other ∈ rows, order other row := by
  obtain ⟨earlier, -, across⟩ := List.pairwise_append.mp sorted
  exact ⟨earlier, fun other member => across other member row (List.mem_singleton_self row)⟩

section Sorted

variable (sorted : rows.Pairwise fun left right => left.contract < right.contract)

theorem contract_lt {left right : QuoteReadRow} (below : left.contract < right.contract) :
    left.expiresAt < right.expiresAt ∨
      left.expiresAt = right.expiresAt ∧ left.strike < right.strike :=
  Prod.Lex.toLex_lt_toLex.mp below

theorem Opens.concat (sorted : (rows ++ [row]).Pairwise fun left right =>
      left.contract < right.contract) (opens : Opens rows first) :
    Opens (rows ++ [row]) first := by
  obtain ⟨-, below⟩ := pairwise_of_concat sorted
  refine ⟨List.mem_append_left _ opens.1, fun other member same => ?_⟩
  obtain earlier | last := List.mem_append.mp member
  · exact opens.2 other earlier same
  · obtain rfl := List.mem_singleton.mp last
    obtain before | ⟨-, strike⟩ := contract_lt (below first opens.1)
    · exact absurd same before.ne'
    · exact strike.le

theorem Opens.unique {other : QuoteReadRow} (opens : Opens rows first) (others : Opens rows other)
    (sorted : rows.Pairwise fun left right => left.contract < right.contract)
    (same : first.expiresAt = other.expiresAt) : first = other := by
  have strike : first.strike = other.strike :=
    le_antisymm (opens.2 other others.1 same.symm) (others.2 first opens.1 same)
  have keys : (rows.map QuoteReadRow.contract).Nodup :=
    List.pairwise_map.mpr (sorted.imp ne_of_lt)
  apply List.inj_on_of_nodup_map keys opens.1 others.1
  unfold QuoteReadRow.contract
  rw [same, strike]

/-- The last expiration is the one of the last row, and each was opened by a row. -/
structure Opened (crates : ColumnCrates) (rows : List QuoteReadRow)
    (expirations : List ExpirationRecord) : Prop where
  last : ∀ row ∈ rows, ∃ current, expirations.getLast? = some current ∧
    fromStorageInstant row.expiresAt ≤ current.expiresAt
  first : ∀ expiration ∈ expirations, ∃ first, Opens rows first ∧
    fromStorageInstant first.expiresAt = expiration.expiresAt ∧
    fromStoragePositive crates first.daysToExpiration "days_to_expiration" =
      .ok expiration.daysToExpiration

theorem expiresAt_le {other : QuoteReadRow}
    (sorted : (rows ++ [row]).Pairwise fun left right => left.contract < right.contract)
    (member : other ∈ rows ++ [row]) : other.expiresAt ≤ row.expiresAt := by
  obtain inside | last := List.mem_append.mp member
  · obtain before | ⟨same, -⟩ := contract_lt ((pairwise_of_concat sorted).2 other inside)
    · exact before.le
    · exact same.le
  · rw [List.mem_singleton.mp last]

theorem opens_of_apart
    (sorted : (rows ++ [row]).Pairwise fun left right => left.contract < right.contract)
    (opened : Opened crates rows expirations)
    (apart : ∀ current, expirations.getLast? = some current →
      current.expiresAt ≠ fromStorageInstant row.expiresAt) : Opens (rows ++ [row]) row := by
  refine ⟨List.mem_append_right _ (List.mem_singleton_self row), ?_⟩
  intro other member same
  obtain inside | last := List.mem_append.mp member
  · -- the last expiration lies between this row's expiry and itself
    obtain ⟨current, lastOne, late⟩ := opened.last other inside
    obtain ⟨first, opens, at_, -⟩ := opened.first current (List.mem_of_getLast? lastOne)
    refine absurd (le_antisymm ?_ (same ▸ late)) (apart current lastOne)
    rw [← at_]
    exact fromStorageInstant_le (expiresAt_le sorted (List.mem_append_left _ opens.1))
  · rw [List.mem_singleton.mp last]

theorem opened_of_grouped (grouped : Grouped crates rows expirations)
    (sorted : rows.Pairwise fun left right => left.contract < right.contract) :
    Opened crates rows expirations := by
  induction grouped with
  | nil =>
      constructor
      · intro row member
        cases member
      · intro expiration member
        cases member
  | @opens rows expirations row quote days grouped apart read dated ih =>
      have opened := ih (pairwise_of_concat sorted).1
      constructor
      · intro other member
        exact ⟨_, List.getLast?_concat, fromStorageInstant_le (expiresAt_le sorted member)⟩
      · intro expiration member
        obtain before | last := List.mem_append.mp member
        · obtain ⟨first, opens, same, days⟩ := opened.first expiration before
          exact ⟨first, opens.concat sorted, same, days⟩
        · obtain rfl := List.mem_singleton.mp last
          exact ⟨row, opens_of_apart sorted opened apart, rfl, dated⟩
  | @joins rows earlier current row quote grouped same read ih =>
      have opened := ih (pairwise_of_concat sorted).1
      constructor
      · intro other member
        refine ⟨_, List.getLast?_concat, ?_⟩
        obtain inside | last := List.mem_append.mp member
        · obtain ⟨held, lastOne, late⟩ := opened.last other inside
          rw [List.getLast?_concat] at lastOne
          cases lastOne
          exact late
        · rw [List.mem_singleton.mp last]
          exact same.ge
      · intro expiration member
        have found : ∃ held ∈ earlier ++ [current], held.expiresAt = expiration.expiresAt ∧
            held.daysToExpiration = expiration.daysToExpiration := by
          obtain inside | last := List.mem_append.mp member
          · exact ⟨expiration, List.mem_append_left _ inside, rfl, rfl⟩
          · obtain rfl := List.mem_singleton.mp last
            exact ⟨current, List.mem_append_right _ (List.mem_singleton_self current), rfl, rfl⟩
        obtain ⟨held, member, expiresAt, days⟩ := found
        obtain ⟨first, opens, at_, dated⟩ := opened.first held member
        exact ⟨first, opens.concat sorted, at_.trans expiresAt, dated.trans (congrArg _ days)⟩

theorem not_opens_of_joins {earlier : List ExpirationRecord} {current : ExpirationRecord}
    (sorted : (rows ++ [row]).Pairwise fun left right => left.contract < right.contract)
    (opened : Opened crates rows (earlier ++ [current]))
    (same : current.expiresAt = fromStorageInstant row.expiresAt) :
    ¬ Opens (rows ++ [row]) row := by
  intro opens
  obtain ⟨first, firstOpens, at_, -⟩ :=
    opened.first current (List.mem_append_right _ (List.mem_singleton_self current))
  have expiry : first.expiresAt = row.expiresAt :=
    fromStorageInstant_injective (at_.trans same)
  obtain before | ⟨-, strike⟩ := contract_lt ((pairwise_of_concat sorted).2 first firstOpens.1)
  · exact before.ne expiry
  · exact absurd (opens.2 first (List.mem_append_left _ firstOpens.1) expiry) (not_le.mpr strike)

theorem Opens.of_concat (opens : Opens (rows ++ [row]) first) (inside : first ∈ rows) :
    Opens rows first :=
  ⟨inside, fun other member same => opens.2 other (List.mem_append_left _ member) same⟩

theorem RowsReadable.concat (readable : RowsReadable crates rows) {quote : QuoteRow}
    (read : quoteFromRow crates row = .ok quote)
    (dated : Opens (rows ++ [row]) row →
      (fromStoragePositive crates row.daysToExpiration "days_to_expiration").isOk) :
    RowsReadable crates (rows ++ [row]) where
  quotes := by
    intro other member
    obtain inside | last := List.mem_append.mp member
    · exact readable.quotes other inside
    · rw [List.mem_singleton.mp last, read]
      rfl
  days := by
    intro other opens
    obtain inside | last := List.mem_append.mp opens.1
    · exact readable.days other (opens.of_concat inside)
    · obtain rfl := List.mem_singleton.mp last
      exact dated opens

theorem readable_of_grouped (grouped : Grouped crates rows expirations)
    (sorted : rows.Pairwise fun left right => left.contract < right.contract) :
    RowsReadable crates rows := by
  induction grouped with
  | nil =>
      constructor
      · intro row member
        cases member
      · intro row opens
        cases opens.1
  | @opens rows expirations row quote days grouped apart read dated ih =>
      apply (ih (pairwise_of_concat sorted).1).concat read
      intro _
      rw [dated]
      rfl
  | @joins rows earlier current row quote grouped same read ih =>
      have before := (pairwise_of_concat sorted).1
      apply (ih before).concat read
      intro opens
      exact absurd opens (not_opens_of_joins sorted (opened_of_grouped grouped before) same)

theorem foldlM_of_readable
    (sorted : rows.Pairwise fun left right => left.contract < right.contract)
    (readable : RowsReadable crates rows) :
    ∃ expirations, rows.foldlM (pushRow crates) [] = .ok expirations := by
  induction rows using List.reverseRecOn with
  | nil => exact ⟨[], rfl⟩
  | append_singleton rows row ih =>
      have before := (pairwise_of_concat sorted).1
      have shorter : RowsReadable crates rows :=
        ⟨fun other member => readable.quotes other (List.mem_append_left _ member),
          fun other opens => readable.days other (opens.concat sorted)⟩
      obtain ⟨expirations, folded⟩ := ih before shorter
      have opened := opened_of_grouped (grouped_of_foldlM folded) before
      obtain ⟨quote, read⟩ := exists_of_isOk
        (readable.quotes row (List.mem_append_right _ (List.mem_singleton_self row)))
      have pushed : ∃ after, pushRow crates expirations row = .ok after := by
        by_cases joins : ∃ earlier current, expirations = earlier ++ [current] ∧
            current.expiresAt = fromStorageInstant row.expiresAt
        · obtain ⟨earlier, current, rfl, same⟩ := joins
          exact ⟨_, pushRow_eq_ok.mpr ⟨quote, read, .inl ⟨earlier, current, rfl, same, rfl⟩⟩⟩
        · have apart : ∀ current, expirations.getLast? = some current →
              current.expiresAt ≠ fromStorageInstant row.expiresAt := by
            intro current last same
            obtain ⟨earlier, rfl⟩ := List.getLast?_eq_some_iff.mp last
            exact joins ⟨earlier, current, rfl, same⟩
          obtain ⟨days, dated⟩ :=
            exists_of_isOk (readable.days row (opens_of_apart sorted opened apart))
          exact ⟨_, pushRow_eq_ok.mpr ⟨quote, read, .inr ⟨apart, days, dated, rfl⟩⟩⟩
      obtain ⟨after, pushed⟩ := pushed
      refine ⟨after, ?_⟩
      rw [List.foldlM_append]
      exact bind_eq_ok.mpr ⟨expirations, folded, bind_eq_ok.mpr ⟨after, pushed, rfl⟩⟩

end Sorted

/-! ### One contract of the record -/

section Projection

variable {base : SnapshotRecord} {query : ContractSeriesQuery} {side : ContractSide}
  {read : QuoteReadRow}

/-- The row reads as one of the contract. -/
def OfContract (crates : ColumnCrates) (query : ContractSeriesQuery) (row : QuoteReadRow) : Prop :=
  fromStorageInstant row.expiresAt = query.expiresAt ∧
    fromStoragePositive crates row.strike "strike" = .ok query.strike

instance : DecidablePred (OfContract crates query) :=
  fun _ => inferInstanceAs (Decidable (_ ∧ _))

theorem OfContract.stored (exact : crates.Exact) (own : OfContract crates query read) :
    toStorageInstant query.expiresAt "expires_at" = .ok read.expiresAt ∧
      toStoragePositive crates query.strike "strike" = .ok read.strike ∧
      ¬ query.expiresAt.time.InLeapSecond := by
  obtain ⟨expiresAt, strike⟩ := own
  rw [← expiresAt]
  exact ⟨toStorageInstant_fromStorageInstant _,
    toStoragePositive_of_fromStoragePositive exact _ strike,
    fromStorageInstant_outside _⟩

theorem filter_ofContract (exact : crates.Exact)
    (sorted : rows.Pairwise fun left right => left.contract < right.contract)
    (member : read ∈ rows) (own : OfContract crates query read) :
    (rows.filter fun row => OfContract crates query row) = [read] := by
  have same : ∀ other ∈ rows.filter fun row => OfContract crates query row,
      other.contract = read.contract := by
    intro other inside
    have alike : OfContract crates query other := of_decide_eq_true (List.mem_filter.mp inside).2
    obtain ⟨expiresAt, strike, -⟩ := own.stored exact
    obtain ⟨otherExpiresAt, otherStrike, -⟩ := alike.stored exact
    unfold QuoteReadRow.contract
    rw [Except.ok.inj (otherExpiresAt.symm.trans expiresAt),
      Except.ok.inj (otherStrike.symm.trans strike)]
  have inside : read ∈ rows.filter fun row => OfContract crates query row :=
    List.mem_filter.mpr ⟨member, decide_eq_true own⟩
  have ascending := sorted.filter fun row => OfContract crates query row
  cases listed : rows.filter fun row => OfContract crates query row with
  | nil =>
      rw [listed] at inside
      cases inside
  | cons first rest =>
      rw [listed] at same inside ascending
      cases rest with
      | nil => rw [List.mem_singleton.mp inside]
      | cons second rest =>
          have below := (List.pairwise_cons.mp ascending).1 second List.mem_cons_self
          rw [same first List.mem_cons_self, same second (by simp)] at below
          exact absurd below (lt_irrefl _)

/-- What a row is in the record its step's rows rebuild. -/
def Projects (crates : ColumnCrates) (base : SnapshotRecord) (side : ContractSide)
    (rows : List QuoteReadRow) (row : QuoteReadRow) (point : ContractQuote) : Prop :=
  ∃ quote first days, quoteFromRow crates row = .ok quote ∧ Opens rows first ∧
    first.expiresAt = row.expiresAt ∧
    fromStoragePositive crates first.daysToExpiration "days_to_expiration" = .ok days ∧
    point = ExpirationRecord.quoted base side
      ⟨fromStorageInstant row.expiresAt, days, row.labels, [quote]⟩ quote

theorem project_append (left right : List ExpirationRecord) :
    ({ base with expirations := left ++ right } : SnapshotRecord).project query =
      ({ base with expirations := left } : SnapshotRecord).project query ++
        ({ base with expirations := right } : SnapshotRecord).project query := by
  unfold SnapshotRecord.project
  rw [List.filter_append, List.flatMap_append]
  rfl

theorem project_singleton (expiration : ExpirationRecord) :
    ({ base with expirations := [expiration] } : SnapshotRecord).project query =
      if expiration.expiresAt = query.expiresAt then
        (expiration.quotes.filter fun quote => quote.strike = query.strike).map
          (expiration.quoted base query.side)
      else [] := by
  unfold SnapshotRecord.project
  dsimp only
  rw [List.filter_singleton]
  split_ifs with same
  · rw [decide_eq_true same, cond_true, List.flatMap_singleton]
    rfl
  · rw [decide_eq_false same, cond_false, List.flatMap_nil]

theorem project_quote (expiration : ExpirationRecord) (quotes : List QuoteRow) (quote : QuoteRow) :
    ({ base with expirations := [{ expiration with quotes := quotes ++ [quote] }] } :
      SnapshotRecord).project query =
      ({ base with expirations := [{ expiration with quotes := quotes }] } :
        SnapshotRecord).project query ++
        if expiration.expiresAt = query.expiresAt ∧ quote.strike = query.strike then
          [expiration.quoted base query.side quote]
        else [] := by
  rw [project_singleton, project_singleton]
  dsimp only
  by_cases expiry : expiration.expiresAt = query.expiresAt
  · rw [if_pos expiry, if_pos expiry, List.filter_append, List.map_append, List.filter_singleton]
    congr 1
    by_cases strike : quote.strike = query.strike
    · rw [decide_eq_true strike, cond_true, if_pos ⟨expiry, strike⟩]
      rfl
    · rw [decide_eq_false strike, cond_false, if_neg fun both => strike both.2]
      rfl
  · rw [if_neg expiry, if_neg expiry, if_neg fun both => expiry both.1]
    rfl

theorem project_opened (expiresAt : UtcDateTime) (days : Positive) (labels : List String)
    (quote : QuoteRow) :
    ({ base with expirations := [⟨expiresAt, days, labels, [quote]⟩] } :
      SnapshotRecord).project query =
      if expiresAt = query.expiresAt ∧ quote.strike = query.strike then
        [ExpirationRecord.quoted base query.side ⟨expiresAt, days, labels, [quote]⟩ quote]
      else [] := by
  refine (project_quote ⟨expiresAt, days, labels, [quote]⟩ [] quote).trans ?_
  rw [project_singleton, List.filter_nil, List.map_nil, ite_self, List.nil_append]

theorem Projects.concat {other : QuoteReadRow} {point : ContractQuote}
    (sorted : (rows ++ [row]).Pairwise fun left right => left.contract < right.contract)
    (projects : Projects crates base side rows other point) :
    Projects crates base side (rows ++ [row]) other point := by
  obtain ⟨quote, first, days, read, opens, same, dated, rfl⟩ := projects
  exact ⟨quote, first, days, read, opens.concat sorted, same, dated, rfl⟩

theorem forall₂_concat {points : List ContractQuote} {point : ContractQuote}
    (sorted : (rows ++ [row]).Pairwise fun left right => left.contract < right.contract)
    (projected : List.Forall₂ (Projects crates base side rows)
      (rows.filter fun row => OfContract crates query row) points)
    (last : Projects crates base side (rows ++ [row]) row point) :
    List.Forall₂ (Projects crates base side (rows ++ [row]))
      ((rows ++ [row]).filter fun row => OfContract crates query row)
      (points ++ if OfContract crates query row then [point] else []) := by
  have earlier := projected.imp fun _ _ projects => Projects.concat sorted projects
  rw [List.filter_append, List.filter_singleton]
  apply List.rel_append earlier
  split_ifs with own
  · rw [decide_eq_true own]
    exact .cons last .nil
  · rw [decide_eq_false own]
    exact .nil

theorem projects_of_grouped (base : SnapshotRecord) (query : ContractSeriesQuery)
    (grouped : Grouped crates rows expirations)
    (sorted : rows.Pairwise fun left right => left.contract < right.contract) :
    List.Forall₂ (Projects crates base query.side rows)
      (rows.filter fun row => OfContract crates query row)
      (({ base with expirations := expirations } : SnapshotRecord).project query) := by
  have own : ∀ {row quote}, quoteFromRow crates row = .ok quote → (OfContract crates query row ↔
      fromStorageInstant row.expiresAt = query.expiresAt ∧ quote.strike = query.strike) := by
    intro row quote read
    unfold OfContract
    rw [(quoteFromRow_eq_ok.mp read).strike, Except.ok.injEq]
  induction grouped with
  | nil => exact .nil
  | @opens rows expirations row quote days grouped apart read dated ih =>
      have before := (pairwise_of_concat sorted).1
      have opens := opens_of_apart sorted (opened_of_grouped grouped before) apart
      have last : Projects crates base query.side (rows ++ [row]) row _ :=
        ⟨quote, row, days, read, opens, rfl, dated, rfl⟩
      have all := forall₂_concat sorted (ih before) last
      rw [project_append, project_opened]
      simp only [own read] at all
      exact all
  | @joins rows earlier current row quote grouped same read ih =>
      have before := (pairwise_of_concat sorted).1
      have opened := opened_of_grouped grouped before
      obtain ⟨first, opens, at_, dated⟩ :=
        opened.first current (List.mem_append_right _ (List.mem_singleton_self current))
      have last : Projects crates base query.side (rows ++ [row]) row
          (current.quoted base query.side quote) := by
        refine ⟨quote, first, current.daysToExpiration, read, opens.concat sorted,
          fromStorageInstant_injective (at_.trans same), dated, ?_⟩
        unfold ExpirationRecord.quoted
        rw [same]
      have all := forall₂_concat sorted (ih before) last
      rw [project_append, project_quote, ← List.append_assoc, ← project_append]
      simp only [own read, ← same] at all
      exact all

end Projection

end Grouping

end OptionChainSimulator.Infrastructure
