import Mathlib.Tactic
import OptionChainSimulator.Utils.Uuid
import OptionChainSimulator.Domain.Series

namespace OptionChainSimulator.Infrastructure

open Foundation Utils Domain

/-! The records the snapshot repository keeps, and the one a built snapshot becomes. -/

def currentSnapshotGeneration : Nat := 2

/-- The bytes of `ocs-snapshot-v1`. -/
def snapshotNamespace : Uuid := ⟨0x6f63732d736e617073686f742d763100, by decide⟩

/-- `newV5` is `Uuid::new_v5`. -/
def snapshotId (newV5 : Uuid → String → Uuid) (simulation : Uuid) (generation step : Nat) :
    Uuid :=
  newV5 snapshotNamespace s!"{simulation.hyphenated}:{generation}:{step}"

inductive ContractSide where
  | call
  | put
  deriving DecidableEq

structure QuoteRow where
  strike : Positive
  impliedVolatility : Positive
  callBid : Option Positive
  callAsk : Option Positive
  callMid : Option Positive
  putBid : Option Positive
  putAsk : Option Positive
  putMid : Option Positive
  deltaCall : Option Decimal
  deltaPut : Option Decimal
  gamma : Option Decimal
  deriving DecidableEq

structure ExpirationRecord where
  expiresAt : UtcDateTime
  daysToExpiration : Positive
  labels : List String
  quotes : List QuoteRow
  deriving DecidableEq

structure SnapshotRecord where
  simulation : Uuid
  generation : Nat
  step : Nat
  simulatedAt : UtcDateTime
  symbol : String
  spot : Positive
  baseVolatility : Positive
  expirations : List ExpirationRecord
  deriving DecidableEq

/-- One contract at one step, as a contract history reports it. -/
structure ContractQuote where
  step : Nat
  simulatedAt : UtcDateTime
  expiresAt : UtcDateTime
  daysToExpiration : Positive
  strike : Positive
  side : ContractSide
  impliedVolatility : Positive
  bid : Option Positive
  ask : Option Positive
  mid : Option Positive
  delta : Option Decimal
  gamma : Option Decimal
  deriving DecidableEq

/-- `char::is_whitespace`. -/
def isWhitespace (c : Char) : Bool :=
  (9 ≤ c.toNat && c.toNat ≤ 13) || (0x2000 ≤ c.toNat && c.toNat ≤ 0x200A) ||
    [0x20, 0x85, 0xA0, 0x1680, 0x2028, 0x2029, 0x202F, 0x205F, 0x3000].contains c.toNat

namespace SnapshotRecord

def quoteCount (record : SnapshotRecord) : Nat :=
  (record.expirations.map fun expiration => expiration.quotes.length).sum

def validateQuotes (numerics : Numerics) (expiresAt : UtcDateTime) :
    Option Positive → List QuoteRow → Except ChainError Unit
  | _, [] => .ok ()
  | none, quote :: rest => validateQuotes numerics expiresAt (some quote.strike) rest
  | some previous, quote :: rest =>
      if quote.strike.value ≤ previous.value then
        .error (.validation "quotes" <|
          s!"strikes must be strictly ascending within {expiresAt.utcToString}, got" ++
            s!" {numerics.displayPositive quote.strike} after" ++
            s!" {numerics.displayPositive previous}")
      else validateQuotes numerics expiresAt (some quote.strike) rest

def validateExpirations (numerics : Numerics) :
    Option UtcDateTime → List ExpirationRecord → Except ChainError Unit
  | _, [] => .ok ()
  | none, expiration :: rest => do
      validateQuotes numerics expiration.expiresAt none expiration.quotes
      validateExpirations numerics (some expiration.expiresAt) rest
  | some previous, expiration :: rest =>
      if expiration.expiresAt ≤ previous then
        .error (.validation "expirations" <|
          "must be strictly ascending by expires_at, got" ++
            s!" {expiration.expiresAt.utcToString} after {previous.utcToString}")
      else do
        validateQuotes numerics expiration.expiresAt none expiration.quotes
        validateExpirations numerics (some expiration.expiresAt) rest

def validate (numerics : Numerics) (record : SnapshotRecord) : Except ChainError Unit :=
  if record.symbol.toList.all isWhitespace then
    .error (.validation "symbol" "must not be empty")
  else validateExpirations numerics none record.expirations

end SnapshotRecord

/-- `optionstratlib::chains::OptionData`, with the values the service reads. -/
structure OptionData where
  strikePrice : Positive
  impliedVolatility : Positive
  callBid : Option Positive
  callAsk : Option Positive
  callMiddle : Option Positive
  putBid : Option Positive
  putAsk : Option Positive
  putMiddle : Option Positive
  deltaCall : Option Decimal
  deltaPut : Option Decimal
  gamma : Option Decimal
  deriving DecidableEq

section FromSnapshot

variable {Chain : Type}

/-- `options` is `OptionChain::iter`. -/
def snapshotRecord (options : Chain → List OptionData) (simulation : Uuid) (symbol : String)
    (snapshot : SeriesSnapshot Chain) : SnapshotRecord where
  simulation := simulation
  generation := currentSnapshotGeneration
  step := snapshot.step
  simulatedAt := snapshot.simulatedAt
  symbol := symbol
  spot := snapshot.spot
  baseVolatility := snapshot.baseVolatility
  expirations := snapshot.chains.map fun chain => {
    expiresAt := chain.expiresAt
    daysToExpiration := chain.daysToExpiration
    labels := chain.labels
    quotes := (options chain.chain).map fun data => {
      strike := data.strikePrice
      impliedVolatility := data.impliedVolatility
      callBid := data.callBid
      callAsk := data.callAsk
      callMid := data.callMiddle
      putBid := data.putBid
      putAsk := data.putAsk
      putMid := data.putMiddle
      deltaCall := data.deltaCall
      deltaPut := data.deltaPut
      gamma := data.gamma } }

end FromSnapshot

/-! What a record that passes its own check looks like. -/

/-- Strikes ascend. -/
def ExpirationRecord.Ascending (expiration : ExpirationRecord) : Prop :=
  expiration.quotes.Pairwise fun left right => left.strike.value < right.strike.value

/-- Expirations ascend, and strikes within each. -/
structure SnapshotRecord.Ascending (record : SnapshotRecord) : Prop where
  expirations : record.expirations.Pairwise fun left right => left.expiresAt < right.expiresAt
  quotes : ∀ expiration ∈ record.expirations, expiration.Ascending

namespace SnapshotRecord

variable {numerics : Numerics} {expiresAt : UtcDateTime}

theorem validateQuotes_some_eq_ok {previous : Positive} {quotes : List QuoteRow} :
    validateQuotes numerics expiresAt (some previous) quotes = .ok () ↔
      (∀ quote ∈ quotes, previous.value < quote.strike.value) ∧
        quotes.Pairwise fun left right => left.strike.value < right.strike.value := by
  induction quotes generalizing previous with
  | nil => simp [validateQuotes]
  | cons quote rest ih =>
      rw [validateQuotes, List.forall_mem_cons, List.pairwise_cons]
      split_ifs with behind
      · constructor
        · intro impossible
          cases impossible
        · intro ascending
          exact absurd ascending.1.1 (not_lt.mpr behind)
      · have ahead := not_le.mp behind
        rw [ih]
        constructor
        · intro checks
          obtain ⟨above, sorted⟩ := checks
          exact ⟨⟨ahead, fun other member => ahead.trans (above other member)⟩, above, sorted⟩
        · intro checks
          exact checks.2

theorem validateQuotes_eq_ok {quotes : List QuoteRow} :
    validateQuotes numerics expiresAt none quotes = .ok () ↔
      quotes.Pairwise fun left right => left.strike.value < right.strike.value := by
  cases quotes with
  | nil => simp [validateQuotes]
  | cons quote rest =>
      rw [validateQuotes, validateQuotes_some_eq_ok, List.pairwise_cons]

theorem validateExpirations_some_eq_ok {previous : UtcDateTime}
    {expirations : List ExpirationRecord} :
    validateExpirations numerics (some previous) expirations = .ok () ↔
      (∀ expiration ∈ expirations, previous < expiration.expiresAt) ∧
        (expirations.Pairwise fun left right => left.expiresAt < right.expiresAt) ∧
        ∀ expiration ∈ expirations, expiration.Ascending := by
  induction expirations generalizing previous with
  | nil => simp [validateExpirations]
  | cons expiration rest ih =>
      rw [validateExpirations, List.forall_mem_cons, List.pairwise_cons, List.forall_mem_cons]
      split_ifs with behind
      · constructor
        · intro impossible
          cases impossible
        · intro ascending
          exact absurd ascending.1.1 (not_lt.mpr behind)
      · have ahead := not_le.mp behind
        rw [bind_unit_eq_ok, validateQuotes_eq_ok, ih]
        constructor
        · intro checks
          obtain ⟨strikes, above, sorted, others⟩ := checks
          exact ⟨⟨ahead, fun other member => ahead.trans (above other member)⟩,
            ⟨above, sorted⟩, strikes, others⟩
        · intro checks
          obtain ⟨-, ⟨above, sorted⟩, strikes, others⟩ := checks
          exact ⟨strikes, above, sorted, others⟩

theorem validate_eq_ok {record : SnapshotRecord} :
    record.validate numerics = .ok () ↔
      record.symbol.toList.all isWhitespace = false ∧ record.Ascending := by
  have checked : validateExpirations numerics none record.expirations = .ok () ↔
      record.Ascending := by
    cases listed : record.expirations with
    | nil =>
        constructor
        · intro passed
          exact ⟨by simp [listed], by simp [listed]⟩
        · intro ascending
          rfl
    | cons expiration rest =>
        rw [validateExpirations, bind_unit_eq_ok, validateQuotes_eq_ok,
          validateExpirations_some_eq_ok]
        constructor
        · intro checks
          obtain ⟨strikes, above, sorted, others⟩ := checks
          refine ⟨?_, ?_⟩
          · rw [listed, List.pairwise_cons]
            exact ⟨above, sorted⟩
          · rw [listed, List.forall_mem_cons]
            exact ⟨strikes, others⟩
        · intro ascending
          obtain ⟨sorted, strikes⟩ := ascending
          rw [listed, List.pairwise_cons] at sorted
          rw [listed, List.forall_mem_cons] at strikes
          exact ⟨strikes.1, sorted.1, sorted.2, strikes.2⟩
  unfold validate
  cases blank : record.symbol.toList.all isWhitespace with
  | true => simp
  | false => simp [checked]

end SnapshotRecord

end OptionChainSimulator.Infrastructure
