import Mathlib.Tactic
import OptionChainSimulator.Infrastructure.Snapshots.SizeRefusal
import OptionChainSimulator.Session.Tapes

namespace OptionChainSimulator.Infrastructure

open Foundation Utils

/-! The knobs of the environment: the bounds of simulations, and those of the warehouse. -/

/-- A count within its ceiling. -/
structure Within (max : Nat) where
  get : Nat
  pos : 1 ≤ get
  le : get ≤ max
  deriving DecidableEq

/-- `env::var(..).ok()`. -/
abbrev Environment := String → Option String

/-- `str::trim`. -/
def trim (text : String) : String :=
  .ofList (((text.toList.dropWhile isWhitespace).reverse.dropWhile isWhitespace).reverse)

/-- `char::to_ascii_lowercase`. -/
def asciiLowercase (c : Char) : Char :=
  if 65 ≤ c.toNat ∧ c.toNat ≤ 90 then Char.ofNat (c.toNat + 32) else c

def read (env : Environment) (name : String) : Option String :=
  (env name).bind fun raw =>
    let trimmed := trim raw
    if trimmed.isEmpty then none else some trimmed

/-- How `Debug` shows a character within a text, without the table of unprintable ones. -/
def escaped (c : Char) : String :=
  match c.toNat with
  | 0 => "\\0"
  | 9 => "\\t"
  | 10 => "\\n"
  | 13 => "\\r"
  | 34 => "\\\""
  | 92 => "\\\\"
  | _ => c.toString

def textDebug (text : String) : String :=
  "\"" ++ String.join (text.toList.map escaped) ++ "\""

def invalid (name raw : String) : ChainError :=
  .validation name s!"must be a whole number, got {textDebug raw}"

/-- `str::parse` into an unsigned integer below `limit`. -/
def parseUnsigned (limit : Nat) (raw : String) : Option Nat :=
  let digits := match raw.toList with
    | '+' :: rest => rest
    | other => other
  if digits ≠ [] ∧ digits.all Char.isDigit then
    unsigned? limit (digits.foldl (fun value digit => value * 10 + (digit.toNat - 48)) 0)
  else none

/-- What the parsers of a count share: the width of its type, and the texts for a zero and for
a value above the ceiling. -/
def parseCount (limit : Nat) (zero : String) (tooLarge : Nat → String) (name : String)
    (raw : Option String) {max : Nat} (default : Within max) : Except ChainError (Within max) :=
  match raw with
  | none => .ok default
  | some raw => do
      let value ← okOr (parseUnsigned limit raw) (invalid name raw)
      if none : value = 0 then throw (.validation name zero)
      else if above : max < value then throw (.validation name (tooLarge value))
      else return ⟨value, Nat.pos_of_ne_zero none, not_lt.mp above⟩

/-- The error names one of these variables. -/
def Names (knobs : List String) : ChainError → Prop
  | .validation name _ => name ∈ knobs
  | _ => False

theorem parseCount_names {limit : Nat} {zero name : String} {tooLarge : Nat → String}
    {raw : Option String} {max : Nat} {default : Within max} {knobs : List String}
    (listed : name ∈ knobs) :
    Spares (fun error => ¬ Names knobs error)
      (parseCount limit zero tooLarge name raw default) := by
  have named : ∀ reason, ¬ ¬ Names knobs (.validation name reason) := fun _ => not_not.mpr listed
  cases raw with
  | none => exact spares_ok
  | some raw =>
      apply Spares.bind
      · apply spares_okOr
        exact named _
      · intro value
        split_ifs
        · exact spares_error (named _)
        · exact spares_error (named _)
        · exact spares_ok

/-! ### The bounds of simulations -/

namespace SimulationV2Config

def maxRetentionSecs : Nat := 30 * 24 * 3600
def maxCleanupIntervalSecs : Nat := 3600
def maxCacheCapacity : Nat := 1000000
def maxSnapshotContractsCeiling : Nat := 10000000
def maxCacheContracts : Nat := 100000000
def maxExportRowsCeiling : Nat := 10000000

def defaultRetentionSecs : Within maxRetentionSecs := ⟨3600, by decide, by decide⟩
def defaultCleanupIntervalSecs : Within maxCleanupIntervalSecs := ⟨60, by decide, by decide⟩
def defaultMaxCachedTapes : Within maxCacheCapacity := ⟨64, by decide, by decide⟩
def defaultMaxCachedSnapshots : Within maxCacheCapacity := ⟨256, by decide, by decide⟩
def defaultMaxSnapshotContracts : Within maxSnapshotContractsCeiling :=
  ⟨200000, by decide, by decide⟩
def defaultMaxCachedSnapshotContracts : Within maxCacheContracts :=
  ⟨4000000, by decide, by decide⟩
def defaultMaxExportRows : Within maxExportRowsCeiling := ⟨100000, by decide, by decide⟩

def parseSecs (name : String) (raw : Option String) {max : Nat} (default : Within max) :
    Except ChainError (Within max) :=
  parseCount u64Limit "must be at least 1 second"
    (fun seconds => s!"must not exceed {max} seconds, got {seconds}") name raw default

def parseBounded (name : String) (raw : Option String) {max : Nat} (default : Within max) :
    Except ChainError (Within max) :=
  parseCount u64Limit "must be at least 1" (fun value => s!"must not exceed {max}, got {value}")
    name raw default

def parseCapacity (name : String) (raw : Option String) (default : Within maxCacheCapacity) :
    Except ChainError (Within maxCacheCapacity) :=
  parseBounded name raw default

end SimulationV2Config

/-- What `SimulationV2Config::from_env` reads. -/
structure SimulationV2Settings extends Session.SimulationV2Config where
  retentionSecs : Within SimulationV2Config.maxRetentionSecs
  cleanupIntervalSecs : Within SimulationV2Config.maxCleanupIntervalSecs
  maxSnapshotContracts : Within SimulationV2Config.maxSnapshotContractsCeiling
  maxExportRows : Within SimulationV2Config.maxExportRowsCeiling

/-- `max_snapshot_contracts`, by what has been published. -/
def maxSnapshotContracts (published : Option Nat) : Nat :=
  published.getD SimulationV2Config.defaultMaxSnapshotContracts.get

namespace SimulationV2Settings

open SimulationV2Config

/-- The settings, and the cap that is published once they are read. -/
def fromEnv (env : Environment) (published : Option Nat) :
    Except ChainError (SimulationV2Settings × Option Nat) := do
  let retention ← parseSecs "OCS_V2_RETENTION_SECS" (read env "OCS_V2_RETENTION_SECS")
    defaultRetentionSecs
  let cleanupInterval ← parseSecs "OCS_V2_CLEANUP_INTERVAL_SECS"
    (read env "OCS_V2_CLEANUP_INTERVAL_SECS") defaultCleanupIntervalSecs
  let tapes ← parseCapacity "OCS_MAX_CACHED_TAPES" (read env "OCS_MAX_CACHED_TAPES")
    defaultMaxCachedTapes
  let snapshots ← parseCapacity "OCS_MAX_CACHED_SNAPSHOTS" (read env "OCS_MAX_CACHED_SNAPSHOTS")
    defaultMaxCachedSnapshots
  let contracts ← parseBounded "OCS_MAX_SNAPSHOT_CONTRACTS"
    (read env "OCS_MAX_SNAPSHOT_CONTRACTS") defaultMaxSnapshotContracts
  let cachedContracts ← parseBounded "OCS_MAX_CACHED_SNAPSHOT_CONTRACTS"
    (read env "OCS_MAX_CACHED_SNAPSHOT_CONTRACTS") defaultMaxCachedSnapshotContracts
  let exportRows ← parseBounded "OCS_MAX_EXPORT_ROWS" (read env "OCS_MAX_EXPORT_ROWS")
    defaultMaxExportRows
  let config : SimulationV2Settings :=
    { maxCachedTapes := tapes.get
      maxCachedSnapshots := snapshots.get
      maxCachedSnapshotContracts := cachedContracts.get
      tapesPositive := tapes.pos
      retentionSecs := retention
      cleanupIntervalSecs := cleanupInterval
      maxSnapshotContracts := contracts
      maxExportRows := exportRows }
  return (config, published.or (some contracts.get))

def knobs : List String :=
  ["OCS_V2_RETENTION_SECS", "OCS_V2_CLEANUP_INTERVAL_SECS", "OCS_MAX_CACHED_TAPES",
    "OCS_MAX_CACHED_SNAPSHOTS", "OCS_MAX_SNAPSHOT_CONTRACTS",
    "OCS_MAX_CACHED_SNAPSHOT_CONTRACTS", "OCS_MAX_EXPORT_ROWS"]

theorem fromEnv_names {env : Environment} {published : Option Nat} {error : ChainError}
    (refused : fromEnv env published = .error error) : Names knobs error := by
  have spared : Spares (fun error => ¬ Names knobs error) (fromEnv env published) := by
    unfold fromEnv
    refine (parseCount_names (by simp [knobs])).bind fun retention => ?_
    refine (parseCount_names (by simp [knobs])).bind fun cleanupInterval => ?_
    refine (parseCount_names (by simp [knobs])).bind fun tapes => ?_
    refine (parseCount_names (by simp [knobs])).bind fun snapshots => ?_
    refine (parseCount_names (by simp [knobs])).bind fun contracts => ?_
    refine (parseCount_names (by simp [knobs])).bind fun cachedContracts => ?_
    exact (parseCount_names (by simp [knobs])).bind fun exportRows => spares_ok
  exact not_not.mp (spared error refused)

theorem published_of_fromEnv {env : Environment} {config : SimulationV2Settings}
    {published : Option Nat} (loaded : fromEnv env none = .ok (config, published)) :
    Infrastructure.maxSnapshotContracts published = config.maxSnapshotContracts.get := by
  unfold fromEnv at loaded
  simp only [bind_eq_ok] at loaded
  obtain ⟨_, -, _, -, _, -, _, -, _, -, _, -, _, -, kept⟩ := loaded
  cases kept
  rfl

end SimulationV2Settings

/-! ### The bounds of the warehouse -/

namespace SnapshotPersistenceConfig

def maxBatchRows : Nat := 5000000
def maxReadRowsCeiling : Nat := 10000000
def maxInsertTimeoutSecs : Nat := 600
def maxRetentionDays : Nat := 3650

def defaultEnabled : Bool := false
def defaultBatchRows : Within maxBatchRows :=
  ⟨SimulationV2Config.defaultMaxSnapshotContracts.get, by decide, by decide⟩
def defaultMaxReadRows : Within maxReadRowsCeiling := ⟨1000000, by decide, by decide⟩
def defaultInsertTimeoutSecs : Within maxInsertTimeoutSecs := ⟨30, by decide, by decide⟩
def defaultRetentionDays : Within maxRetentionDays := ⟨90, by decide, by decide⟩

def zero : String := "must be at least 1"

def tooLarge (max value : Nat) : String := s!"must not exceed {max}, got {value}"

def parseBoundedUsize (name : String) (raw : Option String) {max : Nat} (default : Within max) :
    Except ChainError (Within max) :=
  parseCount u64Limit zero (tooLarge max) name raw default

def parseBoundedU64 (name : String) (raw : Option String) {max : Nat} (default : Within max) :
    Except ChainError (Within max) :=
  parseCount u64Limit zero (tooLarge max) name raw default

def parseBoundedU32 (name : String) (raw : Option String) {max : Nat} (default : Within max) :
    Except ChainError (Within max) :=
  parseCount u32Limit zero (tooLarge max) name raw default

def parseBool (name : String) (raw : Option String) (default : Bool) : Except ChainError Bool :=
  match raw with
  | none => .ok default
  | some raw =>
      let lowered := String.ofList (raw.toList.map asciiLowercase)
      if lowered ∈ ["1", "true", "yes", "on"] then .ok true
      else if lowered ∈ ["0", "false", "no", "off"] then .ok false
      else .error (.validation name s!"must be a boolean (true/false), got {textDebug raw}")

end SnapshotPersistenceConfig

/-- What `SnapshotPersistenceConfig::from_env` reads. -/
structure SnapshotPersistenceSettings extends SnapshotPersistenceConfig where
  enabled : Bool
  insertTimeoutSecs : Within SnapshotPersistenceConfig.maxInsertTimeoutSecs
  retentionDays : Within SnapshotPersistenceConfig.maxRetentionDays
  batchRowsWithin : 1 ≤ batchRows ∧ batchRows ≤ SnapshotPersistenceConfig.maxBatchRows
  maxReadRowsWithin : 1 ≤ maxReadRows ∧ maxReadRows ≤ SnapshotPersistenceConfig.maxReadRowsCeiling

namespace SnapshotPersistenceSettings

open SnapshotPersistenceConfig

def fromEnv (env : Environment) (published : Option Nat) :
    Except ChainError SnapshotPersistenceSettings := do
  let enabled ← parseBool "OCS_SNAPSHOT_PERSISTENCE_ENABLED"
    (read env "OCS_SNAPSHOT_PERSISTENCE_ENABLED") defaultEnabled
  let batchRows ← parseBoundedUsize "OCS_SNAPSHOT_BATCH_ROWS"
    (read env "OCS_SNAPSHOT_BATCH_ROWS") defaultBatchRows
  let maxReadRows ← parseBoundedUsize "OCS_SNAPSHOT_MAX_READ_ROWS"
    (read env "OCS_SNAPSHOT_MAX_READ_ROWS") defaultMaxReadRows
  let insertTimeout ← parseBoundedU64 "OCS_SNAPSHOT_INSERT_TIMEOUT_SECS"
    (read env "OCS_SNAPSHOT_INSERT_TIMEOUT_SECS") defaultInsertTimeoutSecs
  let retentionDays ← parseBoundedU32 "OCS_SNAPSHOT_RETENTION_DAYS"
    (read env "OCS_SNAPSHOT_RETENTION_DAYS") defaultRetentionDays
  let config : SnapshotPersistenceSettings :=
    { batchRows := batchRows.get
      maxReadRows := maxReadRows.get
      enabled := enabled
      insertTimeoutSecs := insertTimeout
      retentionDays := retentionDays
      batchRowsWithin := ⟨batchRows.pos, batchRows.le⟩
      maxReadRowsWithin := ⟨maxReadRows.pos, maxReadRows.le⟩ }
  let accepted := maxSnapshotContracts published
  if config.enabled ∧ config.batchRows < accepted then
    throw (.validation "OCS_SNAPSHOT_BATCH_ROWS" <|
      s!"is {config.batchRows} but OCS_MAX_SNAPSHOT_CONTRACTS accepts snapshots of up to" ++
        s!" {accepted} rows, so every persist of a snapshot above {config.batchRows} would fail;" ++
        " raise this or lower that")
  return config

def knobs : List String :=
  ["OCS_SNAPSHOT_PERSISTENCE_ENABLED", "OCS_SNAPSHOT_BATCH_ROWS", "OCS_SNAPSHOT_MAX_READ_ROWS",
    "OCS_SNAPSHOT_INSERT_TIMEOUT_SECS", "OCS_SNAPSHOT_RETENTION_DAYS"]

theorem parseBool_names {name : String} {raw : Option String} {default : Bool}
    (listed : name ∈ knobs) :
    Spares (fun error => ¬ Names knobs error) (parseBool name raw default) := by
  cases raw with
  | none => exact spares_ok
  | some raw =>
      simp only [parseBool]
      split_ifs
      · exact spares_ok
      · exact spares_ok
      · exact spares_error (not_not.mpr listed)

theorem fromEnv_names {env : Environment} {published : Option Nat} {error : ChainError}
    (refused : fromEnv env published = .error error) : Names knobs error := by
  have spared : Spares (fun error => ¬ Names knobs error) (fromEnv env published) := by
    unfold fromEnv
    refine (parseBool_names (by simp [knobs])).bind fun enabled => ?_
    refine (parseCount_names (by simp [knobs])).bind fun batchRows => ?_
    refine (parseCount_names (by simp [knobs])).bind fun maxReadRows => ?_
    refine (parseCount_names (by simp [knobs])).bind fun insertTimeout => ?_
    refine (parseCount_names (by simp [knobs])).bind fun retentionDays => ?_
    dsimp only
    split_ifs
    · exact spares_error (not_not.mpr (by simp [Names, knobs]))
    · exact spares_ok
  exact not_not.mp (spared error refused)

theorem covers_of_fromEnv {env : Environment} {published : Option Nat}
    {config : SnapshotPersistenceSettings} (loaded : fromEnv env published = .ok config)
    (enabled : config.enabled = true) : maxSnapshotContracts published ≤ config.batchRows := by
  unfold fromEnv at loaded
  simp only [bind_eq_ok] at loaded
  obtain ⟨on, -, rows, -, reads, -, timeout, -, days, -, loaded⟩ := loaded
  split_ifs at loaded with short
  · obtain ⟨_, impossible, -⟩ := loaded
  · obtain ⟨_, -, ⟨⟩⟩ := loaded
    exact not_lt.mp fun below => short ⟨enabled, below⟩

end SnapshotPersistenceSettings

end OptionChainSimulator.Infrastructure
