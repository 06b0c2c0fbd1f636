import OptionChainSimulator.Session.HistoricalTape
import OptionChainSimulator.Domain.HistoricalSource
import OptionChainSimulator.Session.WalkResidency
import OptionChainSimulator.Session.SnapshotWork
import OptionChainSimulator.Infrastructure.Snapshots.SizeRefusal
import OptionChainSimulator.Infrastructure.Config
import OptionChainSimulator.Domain.Expiry.Count
import OptionChainSimulator.Session.Retries
import OptionChainSimulator.Session.WalkDomain
import OptionChainSimulator.Session.Replay
import OptionChainSimulator.Session.StoredParameters
import OptionChainSimulator.Domain.Causality
import OptionChainSimulator.Session.TapeLiveness
import OptionChainSimulator.Session.WalkCache
import OptionChainSimulator.Session.Lifecycle
import OptionChainSimulator.Session.RevisionKeys
import OptionChainSimulator.Session.Store.Retention
import OptionChainSimulator.Domain.Expiry.Wire
import OptionChainSimulator.Api.ExportStream
import OptionChainSimulator.Api.ExportCut
import OptionChainSimulator.Infrastructure.Snapshots.SeriesAgreement
import OptionChainSimulator.Infrastructure.Snapshots.Visibility
import OptionChainSimulator.Infrastructure.Snapshots.ColumnRange
import OptionChainSimulator.Domain.Expiry.CivilMonths
import OptionChainSimulator.Domain.MeanReversion
import OptionChainSimulator.Domain.RegimeSwitching
import OptionChainSimulator.Domain.WalkBounds
import OptionChainSimulator.Infrastructure.Clickhouse
import OptionChainSimulator.Session.WalkRange
import OptionChainSimulator.Session.PricedTape
import OptionChainSimulator.Domain.SnapshotCache
import OptionChainSimulator.Domain.Expiry.Budgets
import OptionChainSimulator.Session.SnapshotQueue
import OptionChainSimulator.Session.RollingChains
import OptionChainSimulator.Session.AtomicRedis
import OptionChainSimulator.Session.CreatedSessions
import OptionChainSimulator.Session.Linearized
import OptionChainSimulator.Session.Replicas
import OptionChainSimulator.Session.Statuses
import OptionChainSimulator.Infrastructure.Redaction
import OptionChainSimulator.Api.WarehouseExport
import OptionChainSimulator.Infrastructure.Telemetry
import OptionChainSimulator.Api.Rejections
