import Mathlib.Tactic
import OptionChainSimulator.Domain.Expiry.Count
import OptionChainSimulator.Infrastructure.Config
import OptionChainSimulator.Infrastructure.Snapshots.SizeRefusal
import OptionChainSimulator.Session.SnapshotQueue
import OptionChainSimulator.Session.StoredParameters

namespace OptionChainSimulator.Session

open Foundation Utils Domain Domain.Expiry Infrastructure

/-! The snapshots of an accepted simulation against the bounds they are to stay within. -/

theorem exists_left_of_forall₂ {α β : Type} {related : α → β → Prop} {left : List α}
    {right : List β} (paired : List.Forall₂ related left right) {value : β}
    (member : value ∈ right) : ∃ other ∈ left, related other value := by
  induction paired with
  | nil => cases member
  | cons first rest ih =>
      obtain rfl | later := List.mem_cons.mp member
      · exact ⟨_, List.mem_cons_self, first⟩
      · obtain ⟨other, found, relates⟩ := ih later
        exact ⟨other, List.mem_cons_of_mem _ found, relates⟩

section Work

variable {Chain : Type} {service : Service} {upstream : Upstream Chain}

/-- Upstream lists no more strikes than a chain of this size has. -/
def StrikesWithin (upstream : Upstream Chain) : Prop :=
  ∀ params chain, upstream.buildChain params = .ok chain →
    upstream.optionCount chain ≤ 2 * params.chainSize + 1

theorem optionCount_of_buildExpiryChain (strikes : StrikesWithin upstream)
    {builder : SeriesBuilder} {row : FactorRow} {expiry : ActiveExpiry}
    {expiryChain : ExpiryChain Chain}
    (built : builder.buildExpiryChain upstream row expiry = .ok expiryChain) :
    upstream.optionCount expiryChain.chain ≤
      builder.parameters.chainSize.getD defaultChainSize * 2 + 1 := by
  obtain ⟨days, -, rest⟩ := bind_eq_ok.mp built
  obtain ⟨daysToExpiration, -, rest⟩ := bind_eq_ok.mp rest
  obtain ⟨chain, priced, kept⟩ := bind_eq_ok.mp rest
  cases kept
  obtain ⟨spread, -, priced⟩ := bind_eq_ok.mp priced
  have within := strikes _ chain (mapError_eq_ok.mp priced)
  dsimp only at within ⊢
  omega

theorem chains_of_snapshot {builder : SeriesBuilder} {step : Nat}
    {snapshot : SeriesSnapshot Chain}
    (built : builder.snapshot service upstream step = .ok snapshot) :
    ∃ row active,
      RollingPlanner.activeAt ⟨service.zones, builder.parameters.schedule⟩ row.simulatedAt =
        .ok active ∧
      List.Forall₂ (fun expiry chain => builder.buildExpiryChain upstream row expiry = .ok chain)
        active snapshot.chains := by
  obtain ⟨row, -, rest⟩ := bind_eq_ok.mp built
  obtain ⟨active, listed, rest⟩ := bind_eq_ok.mp rest
  obtain ⟨chains, chained, kept⟩ := bind_eq_ok.mp rest
  cases kept
  exact ⟨row, active, listed, mapM_eq_ok.mp (lift_eq_ok.mp chained)⟩

theorem length_chains_le {builder : SeriesBuilder} {step : Nat}
    {snapshot : SeriesSnapshot Chain}
    (built : builder.snapshot service upstream step = .ok snapshot) :
    snapshot.chains.length ≤ totalCount builder.parameters.schedule.rules := by
  obtain ⟨row, active, listed, chained⟩ := chains_of_snapshot built
  rw [← chained.length_eq]
  exact RollingPlanner.length_activeAt_le listed

/-- What creation bounds is a bound on every snapshot. -/
theorem snapshotQuoteCount_le (strikes : StrikesWithin upstream) {builder : SeriesBuilder}
    (valid : builder.parameters.validate service = .ok ()) {step : Nat}
    {snapshot : SeriesSnapshot Chain}
    (built : builder.snapshot service upstream step = .ok snapshot) :
    snapshotQuoteCount upstream snapshot ≤ service.limits.maxSnapshotContracts := by
  obtain ⟨row, active, -, chained⟩ := chains_of_snapshot built
  have each : ∀ count ∈ snapshot.chains.map fun chain => upstream.optionCount chain.chain,
      count ≤ builder.parameters.chainSize.getD defaultChainSize * 2 + 1 := by
    intro count member
    obtain ⟨chain, listed, rfl⟩ := List.mem_map.mp member
    obtain ⟨expiry, -, made⟩ := exists_left_of_forall₂ chained listed
    exact optionCount_of_buildExpiryChain strikes made
  have checked : builder.parameters.validateSnapshotWork service.limits = .ok () := by
    unfold SimulationParametersV2.validate at valid
    simp only [bind_eq_ok] at valid
    obtain ⟨_, -, _, -, _, -, _, -, _, -, _, -, _, -, _, -, _, -, _, -, _, work, -⟩ := valid
    exact work
  calc snapshotQuoteCount upstream snapshot
      ≤ (snapshot.chains.map fun chain => upstream.optionCount chain.chain).length •
          (builder.parameters.chainSize.getD defaultChainSize * 2 + 1) :=
        List.sum_le_card_nsmul _ _ each
    _ = snapshot.chains.length * (builder.parameters.chainSize.getD defaultChainSize * 2 + 1) := by
        rw [List.length_map, smul_eq_mul]
    _ ≤ totalCount builder.parameters.schedule.rules *
          (builder.parameters.chainSize.getD defaultChainSize * 2 + 1) :=
        Nat.mul_le_mul_right _ (length_chains_le built)
    _ = (builder.parameters.chainSize.getD defaultChainSize * 2 + 1) *
          totalCount builder.parameters.schedule.rules := Nat.mul_comm _ _
    _ ≤ service.limits.maxSnapshotContracts := contracts_of_validateSnapshotWork checked

end Work

section Filing

variable {Chain : Type} {upstream : Upstream Chain} {options : Chain → List OptionData}

/-- A call that finds the queue empty, and is alone with it. -/
def filedAlone (served : ServedSnapshot Chain) : List (FilingAction Chain) :=
  .call 0 (.request served) :: List.replicate 4 (.call 0 (.proceed ()))

/-- An empty queue takes the record. -/
def FilesAlone (upstream : Upstream Chain) (options : Chain → List OptionData)
    (served : ServedSnapshot Chain) : Prop :=
  ∃ last, (filings upstream options).run ((filings upstream options).start .empty)
      (filedAlone served) = some last ∧
    last.shared.records = [served.record options]

theorem filesAlone_iff {served : ServedSnapshot Chain} :
    FilesAlone upstream options served ↔
      snapshotQuoteCount upstream served.snapshot ≤ snapshotQueueContracts := by
  have load : snapshotQueueContracts <
      SnapshotCache.saturatingAdd 0 (snapshotQuoteCount upstream served.snapshot) ↔
        snapshotQueueContracts < snapshotQuoteCount upstream served.snapshot := by
    unfold SnapshotCache.saturatingAdd snapshotQueueContracts u64Limit
    omega
  unfold FilesAlone filedAlone
  by_cases fits : snapshotQuoteCount upstream served.snapshot ≤ snapshotQueueContracts
  · have free := load.not.mpr (not_lt.mpr fits)
    simp [List.replicate, Protocol.run, Protocol.step, Protocol.start, filings, staged,
      fileSnapshot, SnapshotQueue.empty, snapshotQueueDepth, fits, free]
  · -- refused at its second section, it has no third
    have full := load.mpr (not_le.mp fits)
    simp [List.replicate, Protocol.run, Protocol.step, Protocol.start, filings, staged,
      fileSnapshot, SnapshotQueue.empty, fits, full]

end Filing

/-- A snapshot of a simulation that was accepted under this cap. -/
structure AcceptedSnapshot (cap : Nat) where
  Chain : Type
  service : Service
  upstream : Upstream Chain
  options : Chain → List OptionData
  strikes : StrikesWithin upstream
  counted : ∀ chain, (options chain).length = upstream.optionCount chain
  limit : service.limits.maxSnapshotContracts = cap
  simulation : Uuid
  builder : SeriesBuilder
  valid : builder.parameters.validate service = .ok ()
  step : Nat
  snapshot : SeriesSnapshot Chain
  built : builder.snapshot service upstream step = .ok snapshot

namespace AcceptedSnapshot

variable {cap : Nat} (accepted : AcceptedSnapshot cap)

def served : ServedSnapshot accepted.Chain :=
  ⟨accepted.simulation, accepted.builder.parameters.symbol, accepted.snapshot⟩

def record : SnapshotRecord := accepted.served.record accepted.options

def contracts : Nat := snapshotQuoteCount accepted.upstream accepted.snapshot

/-- The snapshot stays inside every bound on its size. -/
structure Persistable (config : SnapshotPersistenceConfig) : Prop where
  counted : accepted.contracts = accepted.record.quoteCount
  withinCap : accepted.contracts ≤ cap
  filed : FilesAlone accepted.upstream accepted.options accepted.served
  persisted : ∀ crates numerics nowMs, Spares SizeRefusal
    (ClickHouseSnapshotRepository.preparePersist config crates numerics accepted.record nowMs)

theorem quoteCount_record : accepted.record.quoteCount = accepted.contracts :=
  quoteCount_snapshotRecord accepted.counted _ _ _

theorem contracts_le : accepted.contracts ≤ cap := by
  obtain within := snapshotQuoteCount_le accepted.strikes accepted.valid accepted.built
  rw [accepted.limit] at within
  exact within

theorem expirations_record_le :
    accepted.record.expirations.length ≤ maxExpirationsPerSnapshot := by
  have rules := (validateRules_eq_ok.mp accepted.builder.parameters.schedule.rules_valid).2.2.2
  have kept : accepted.record.expirations.length = accepted.snapshot.chains.length :=
    List.length_map _
  rw [kept]
  exact (length_chains_le accepted.built).trans rules

theorem persistable_iff {config : SnapshotPersistenceConfig} (covers : cap ≤ config.batchRows)
    (fits : config.batchRows < u64Limit) :
    accepted.Persistable config ↔ accepted.contracts ≤ snapshotQueueContracts := by
  have rows : accepted.record.quoteCount ≤ config.batchRows := by
    rw [accepted.quoteCount_record]
    exact accepted.contracts_le.trans covers
  have few : maxExpirationsPerSnapshot < u64Limit := by decide
  constructor
  · intro persistable
    exact filesAlone_iff.mp persistable.filed
  · intro within
    exact {
      counted := accepted.quoteCount_record.symm
      withinCap := accepted.contracts_le
      filed := filesAlone_iff.mpr within
      persisted := fun crates numerics nowMs => preparePersist_spares rows (rows.trans_lt fits)
        (accepted.expirations_record_le.trans_lt few) }

end AcceptedSnapshot

/-! ### One expiration, and more strikes than the queue holds -/

section Widest

def oneDaily : ExpiryRule :=
  { dailies with
    targetCount := monthlies.targetCount
    targetCount_le := monthlies.targetCount_le }

def oneDailySchedule : ExpirationSchedule where
  calendar := .weekdaysV1
  timezone := ⟨"UTC"⟩
  expirationTime := fivePm
  rules := [oneDaily]
  rules_valid := by decide
  rules_sorted := by decide

/-- Two million strikes on either side of the money. -/
def wideParameters : SimulationParametersV2 :=
  { dailyParameters thursdayNoon with
    schedule := oneDailySchedule
    chainSize := some 2000000 }

def wideService (cap : Nat) : Service :=
  { utcService with
    limits :=
      { utcService.limits with
        maxChainSize := 2000000
        maxSnapshotContracts := cap } }

/-- A chain is its size, and has every strike it may. -/
def fullChains : Upstream Nat where
  buildChain params := .ok params.chainSize
  optionCount size := 2 * size + 1
  generateWithVol _ params := .ok (.ok ⟨List.replicate params.size .one, none⟩)
  constantVolatility := flatUpstream.constantVolatility
  adjustVolatility := flatUpstream.adjustVolatility
  checkedLn := flatUpstream.checkedLn
  positiveNewDecimal := flatUpstream.positiveNewDecimal
  displayDecimal := flatUpstream.displayDecimal
  displayTimeFrame := flatUpstream.displayTimeFrame
  debugMethod := flatUpstream.debugMethod

def wideBuilder : SeriesBuilder :=
  ⟨wideParameters, ⟨[⟨0, thursdayNoon, .one, .one⟩]⟩⟩

theorem wideParameters_valid {cap : Nat} (covers : 4000001 ≤ cap) :
    wideParameters.validate (wideService cap) = .ok () := by
  have narrow : wideParameters.validate (wideService 4000001) = .ok () := by decide +kernel
  have work : wideParameters.validateSnapshotWork (wideService cap).limits = .ok () :=
    if_neg (not_lt.mpr covers)
  unfold SimulationParametersV2.validate at narrow ⊢
  simp only [bind_eq_ok] at narrow ⊢
  obtain ⟨_, steps, _, size, _, symbol, _, interval, _, price, _, volatility, _, strike, _, method,
    _, start, _, rules, _, -, base⟩ := narrow
  exact ⟨_, steps, _, size, _, symbol, _, interval, _, price, _, volatility, _, strike, _, method,
    _, start, _, rules, _, work, base⟩

theorem exists_above_queue {cap : Nat} (above : snapshotQueueContracts < cap) :
    ∃ accepted : AcceptedSnapshot cap, snapshotQueueContracts < accepted.contracts := by
  have counted : (wideBuilder.snapshot utcService fullChains 0).map
      (snapshotQuoteCount fullChains) = .ok 4000001 := by decide +kernel
  obtain ⟨snapshot, built, count⟩ := map_eq_ok.mp counted
  refine ⟨{
    Chain := Nat
    service := wideService cap
    upstream := fullChains
    options := fun size => List.replicate (2 * size + 1) someOption
    strikes := ?_
    counted := fun size => List.length_replicate
    limit := rfl
    simulation := someId
    builder := wideBuilder
    valid := wideParameters_valid above
    step := 0
    snapshot := snapshot
    built := built }, ?_⟩
  · intro params chain made
    cases made
    exact le_refl _
  · unfold AcceptedSnapshot.contracts
    rw [count]
    decide

end Widest

section Configured

variable {env other : Environment} {config : SimulationV2Settings} {published : Option Nat}
  {persistence : SnapshotPersistenceSettings}

/-- A snapshot of an accepted simulation stays inside every bound exactly where it has no more
contracts than the queue may hold, and all of them do exactly where the cap is within that. -/
theorem accepted_persistable_iff
    (loaded : SimulationV2Settings.fromEnv env none = .ok (config, published))
    (warehouse : SnapshotPersistenceSettings.fromEnv other published = .ok persistence)
    (enabled : persistence.enabled = true) :
    (∀ accepted : AcceptedSnapshot (maxSnapshotContracts published),
      accepted.Persistable persistence.toSnapshotPersistenceConfig ↔
        accepted.contracts ≤ snapshotQueueContracts) ∧
    ((∀ accepted : AcceptedSnapshot (maxSnapshotContracts published),
      accepted.Persistable persistence.toSnapshotPersistenceConfig) ↔
        config.maxSnapshotContracts.get ≤ snapshotQueueContracts) := by
  have covers := SnapshotPersistenceSettings.covers_of_fromEnv warehouse enabled
  have ceiling : SnapshotPersistenceConfig.maxBatchRows < u64Limit := by decide
  have fits := persistence.batchRowsWithin.2.trans_lt ceiling
  have each : ∀ accepted : AcceptedSnapshot (maxSnapshotContracts published),
      accepted.Persistable persistence.toSnapshotPersistenceConfig ↔
        accepted.contracts ≤ snapshotQueueContracts :=
    fun accepted => accepted.persistable_iff covers fits
  rw [← SimulationV2Settings.published_of_fromEnv loaded]
  refine ⟨each, ?_, ?_⟩
  · intro all
    by_contra above
    obtain ⟨accepted, tooMany⟩ := exists_above_queue (not_le.mp above)
    exact absurd ((each accepted).mp (all accepted)) (not_le.mpr tooMany)
  · intro within accepted
    exact (each accepted).mpr (accepted.contracts_le.trans within)

/-- Both bounds of the environment raised together, above what the queue may hold. -/
def raisedBounds : Environment := fun name =>
  if name = "OCS_MAX_SNAPSHOT_CONTRACTS" ∨ name = "OCS_SNAPSHOT_BATCH_ROWS" then some "4500000"
  else if name = "OCS_SNAPSHOT_PERSISTENCE_ENABLED" then some "true"
  else none

theorem raisedBounds_load :
    ∃ config persistence,
      SimulationV2Settings.fromEnv raisedBounds none = .ok (config, some 4500000) ∧
        SnapshotPersistenceSettings.fromEnv raisedBounds (some 4500000) = .ok persistence ∧
        persistence.enabled = true := by
  have simulations : (SimulationV2Settings.fromEnv raisedBounds none).map Prod.snd =
      .ok (some 4500000) := by decide +kernel
  have warehouse : (SnapshotPersistenceSettings.fromEnv raisedBounds (some 4500000)).map
      (fun persistence => persistence.enabled) = .ok true := by decide +kernel
  obtain ⟨⟨config, published⟩, loaded, rfl⟩ := map_eq_ok.mp simulations
  obtain ⟨persistence, opened, enabled⟩ := map_eq_ok.mp warehouse
  exact ⟨config, persistence, loaded, opened, enabled⟩

theorem accepted_persistable_iff_raisedBounds :
    ∃ config persistence,
      SimulationV2Settings.fromEnv raisedBounds none = .ok (config, some 4500000) ∧
        SnapshotPersistenceSettings.fromEnv raisedBounds (some 4500000) = .ok persistence ∧
        ((∀ accepted : AcceptedSnapshot 4500000,
          accepted.Persistable persistence.toSnapshotPersistenceConfig) ↔
            config.maxSnapshotContracts.get ≤ snapshotQueueContracts) := by
  obtain ⟨config, persistence, loaded, warehouse, enabled⟩ := raisedBounds_load
  exact ⟨config, persistence, loaded, warehouse,
    (accepted_persistable_iff loaded warehouse enabled).2⟩

/-- The two bounds agree, and the queue never takes a snapshot they accept. -/
theorem accepted_snapshot_is_never_filed :
    ∃ config persistence,
      SimulationV2Settings.fromEnv raisedBounds none = .ok (config, some 4500000) ∧
        SnapshotPersistenceSettings.fromEnv raisedBounds (some 4500000) = .ok persistence ∧
        persistence.enabled = true ∧
        ∃ accepted : AcceptedSnapshot 4500000,
          ¬ FilesAlone accepted.upstream accepted.options accepted.served ∧
            ¬ accepted.Persistable persistence.toSnapshotPersistenceConfig := by
  obtain ⟨config, persistence, loaded, warehouse, enabled⟩ := raisedBounds_load
  obtain ⟨accepted, tooMany⟩ := @exists_above_queue 4500000 (by decide)
  have refused : ¬ FilesAlone accepted.upstream accepted.options accepted.served :=
    fun filed => absurd (filesAlone_iff.mp filed) (not_le.mpr tooMany)
  exact ⟨config, persistence, loaded, warehouse, enabled, accepted, refused,
    fun persistable => refused persistable.filed⟩

end Configured

end OptionChainSimulator.Session
