import Mathlib.Tactic
import OptionChainSimulator.Infrastructure.Snapshots.Warehouse

namespace OptionChainSimulator.Infrastructure

open Foundation Utils Domain

/-! What a record can be refused for besides its size. -/

section Spares

variable {ε α β : Type} {bad : ε → Prop}

/-- None of these errors is given. -/
def Spares (bad : ε → Prop) (computed : Except ε α) : Prop :=
  ∀ error, computed = .error error → ¬ bad error

theorem spares_ok {value : α} : Spares bad (.ok value) := by
  intro error impossible
  cases impossible

theorem spares_error {error : ε} (good : ¬ bad error) :
    Spares bad (.error error : Except ε α) := by
  intro other same
  cases same
  exact good

theorem Spares.bind {first : Except ε α} {next : α → Except ε β} (spared : Spares bad first)
    (rest : ∀ value, Spares bad (next value)) : Spares bad (first >>= next) := by
  intro error failed
  obtain early | ⟨value, -, late⟩ := bind_eq_error.mp failed
  · exact spared error early
  · exact rest value error late

theorem spares_mapM {convert : α → Except ε β} {values : List α}
    (each : ∀ value, Spares bad (convert value)) : Spares bad (values.mapM convert) := by
  induction values with
  | nil => exact spares_ok
  | cons value rest ih =>
      rw [List.mapM_cons]
      exact (each value).bind fun first => ih.bind fun others => spares_ok

theorem spares_optional {convert : α → Except ε β} {value : Option α}
    (each : ∀ value, Spares bad (convert value)) : Spares bad (value.mapM convert) := by
  cases value with
  | none => exact spares_ok
  | some value => exact (each value).bind fun converted => spares_ok

theorem spares_okOr {value : Option α} {error : ε} (good : ¬ bad error) :
    Spares bad (okOr value error) := by
  cases value with
  | none => exact spares_error good
  | some value => exact spares_ok

end Spares

/-- An error about how much the record holds. -/
def SizeRefusal : ChainError → Prop
  | .validation field _ =>
      field ∈ ["OCS_SNAPSHOT_BATCH_ROWS", "quote_count", "expiration_count"]
  | _ => False

section Records

variable {numerics : Numerics} {crates : ColumnCrates} {record : SnapshotRecord}

theorem not_sizeRefusal_clickHouse (message : String) :
    ¬ SizeRefusal (.clickHouseError message) := id

theorem validateQuotes_spares {expiresAt : UtcDateTime} {previous : Option Positive}
    {quotes : List QuoteRow} :
    Spares SizeRefusal (SnapshotRecord.validateQuotes numerics expiresAt previous quotes) := by
  induction quotes generalizing previous with
  | nil =>
      cases previous <;>
        exact spares_ok
  | cons quote rest ih =>
      cases previous with
      | none => exact ih
      | some previous =>
          rw [SnapshotRecord.validateQuotes]
          split_ifs
          · exact spares_error (by simp [SizeRefusal])
          · exact ih

theorem validateExpirations_spares {previous : Option UtcDateTime}
    {expirations : List ExpirationRecord} :
    Spares SizeRefusal
      (SnapshotRecord.validateExpirations numerics previous expirations) := by
  induction expirations generalizing previous with
  | nil =>
      cases previous <;>
        exact spares_ok
  | cons expiration rest ih =>
      cases previous with
      | none => exact validateQuotes_spares.bind fun _ => ih
      | some previous =>
          rw [SnapshotRecord.validateExpirations]
          split_ifs
          · exact spares_error (by simp [SizeRefusal])
          · exact validateQuotes_spares.bind fun _ => ih

theorem validate_spares : Spares SizeRefusal (record.validate numerics) := by
  unfold SnapshotRecord.validate
  split_ifs
  · exact spares_error (by simp [SizeRefusal])
  · exact validateExpirations_spares

theorem toStorageDecimal_spares {value : Decimal} {field : String} :
    Spares SizeRefusal (toStorageDecimal crates value field) := by
  unfold toStorageDecimal
  split_ifs
  · exact spares_error (not_sizeRefusal_clickHouse _)
  · apply Spares.bind
    · apply spares_okOr
      exact not_sizeRefusal_clickHouse _
    · intro factor
      apply spares_okOr
      exact not_sizeRefusal_clickHouse _

theorem toStoragePositive_spares {value : Positive} {field : String} :
    Spares SizeRefusal (toStoragePositive crates value field) := toStorageDecimal_spares

theorem toStorageOptional_spares {value : Option Decimal} {field : String} :
    Spares SizeRefusal (toStorageOptional crates value field) :=
  spares_optional fun _ => toStorageDecimal_spares

theorem toStorageOptionalPositive_spares {value : Option Positive} {field : String} :
    Spares SizeRefusal (toStorageOptionalPositive crates value field) :=
  spares_optional fun _ => toStoragePositive_spares

theorem toStorageInstant_spares {value : UtcDateTime} {field : String} :
    Spares SizeRefusal (toStorageInstant value field) :=
  spares_okOr (not_sizeRefusal_clickHouse _)

theorem step_spares {step : Nat} : Spares SizeRefusal (toStorageCount step "step") :=
  spares_okOr (by simp [SizeRefusal])

theorem toStorageCount_spares {value : Nat} {field : String} (fits : value < u64Limit) :
    Spares SizeRefusal (toStorageCount value field) := by
  have counted : toStorageCount value field = .ok value := toStorageCount_eq_ok.mpr ⟨fits, rfl⟩
  rw [counted]
  exact spares_ok

theorem quoteRow_spares {insertedAtMs step : Nat} {simulatedAt expiresAt : I64}
    {daysToExpiration : I128} {labels : List String} {quote : QuoteRow} :
    Spares SizeRefusal (quoteRow crates record insertedAtMs step simulatedAt expiresAt
      daysToExpiration labels quote) := by
  unfold quoteRow
  refine toStoragePositive_spares.bind fun strike => ?_
  refine toStoragePositive_spares.bind fun impliedVolatility => ?_
  refine toStorageOptionalPositive_spares.bind fun callBid => ?_
  refine toStorageOptionalPositive_spares.bind fun callAsk => ?_
  refine toStorageOptionalPositive_spares.bind fun callMid => ?_
  refine toStorageOptionalPositive_spares.bind fun putBid => ?_
  refine toStorageOptionalPositive_spares.bind fun putAsk => ?_
  refine toStorageOptionalPositive_spares.bind fun putMid => ?_
  refine toStorageOptional_spares.bind fun deltaCall => ?_
  refine toStorageOptional_spares.bind fun deltaPut => ?_
  exact toStorageOptional_spares.bind fun gamma => spares_ok

theorem quoteRows_spares {insertedAtMs : Nat} :
    Spares SizeRefusal (quoteRows crates record insertedAtMs) := by
  unfold quoteRows
  refine toStorageInstant_spares.bind fun simulatedAt => step_spares.bind fun step => ?_
  refine (spares_mapM fun expiration => ?_).bind fun rows => spares_ok
  unfold expirationRows
  refine toStorageInstant_spares.bind fun expiresAt => toStoragePositive_spares.bind fun days => ?_
  exact spares_mapM fun quote => quoteRow_spares

theorem metaRow_spares {insertedAtMs : Nat} (quotes : record.quoteCount < u64Limit)
    (expirations : record.expirations.length < u64Limit) :
    Spares SizeRefusal (metaRow crates record insertedAtMs) := by
  unfold metaRow
  refine step_spares.bind fun step => toStorageInstant_spares.bind fun simulatedAt => ?_
  refine toStoragePositive_spares.bind fun price => toStoragePositive_spares.bind fun vol => ?_
  refine (toStorageCount_spares quotes).bind fun quoteCount => ?_
  exact (toStorageCount_spares expirations).bind fun expirationCount => spares_ok

theorem preparePersist_spares {config : SnapshotPersistenceConfig} {nowMs : Int}
    (fits : record.quoteCount ≤ config.batchRows) (quotes : record.quoteCount < u64Limit)
    (expirations : record.expirations.length < u64Limit) :
    Spares SizeRefusal
      (ClickHouseSnapshotRepository.preparePersist config crates numerics record nowMs) := by
  unfold ClickHouseSnapshotRepository.preparePersist
  refine validate_spares.bind fun _ => ?_
  rw [if_neg (not_lt.mpr fits)]
  have ingested : Spares SizeRefusal
      (ClickHouseSnapshotRepository.ingestionTimestampMs nowMs) := by
    unfold ClickHouseSnapshotRepository.ingestionTimestampMs
    split_ifs
    · exact spares_ok
    · exact spares_error id
  refine ingested.bind fun insertedAtMs => quoteRows_spares.bind fun rows => ?_
  exact (metaRow_spares quotes expirations).bind fun marker => spares_ok

end Records

end OptionChainSimulator.Infrastructure
