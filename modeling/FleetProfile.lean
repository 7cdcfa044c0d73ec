import FleetProfile.Main
import FleetProfile.Proofs.Evictions
import FleetProfile.Proofs.Finality
import FleetProfile.Proofs.AuditedRows
import FleetProfile.Proofs.CommittedRows
import FleetProfile.Proofs.LedgerAnswers
import FleetProfile.Proofs.Lifecycle
import FleetProfile.Proofs.RegressionCheck
import FleetProfile.Proofs.LoadOrder
import FleetProfile.Proofs.CompleteRun
import FleetProfile.Proofs.SettledRun
import FleetProfile.Proofs.AcceptedRows
import FleetProfile.Proofs.Isolation
import FleetProfile.Proofs.NewRows
import FleetProfile.Proofs.Recovery
import FleetProfile.Proofs.StorableRecords
import FleetProfile.Proofs.Snapshots
import FleetProfile.Proofs.SharedStatements
import FleetProfile.Proofs.Watermark
import FleetProfile.Proofs.SavedConfig
import FleetProfile.Proofs.Opening
import FleetProfile.Proofs.ScreenedRows
import FleetProfile.Proofs.AtomicWrite
import FleetProfile.Proofs.Integers
import FleetProfile.Proofs.Partition
import FleetProfile.Proofs.Deltas
import FleetProfile.Proofs.CanonicalHandle
import FleetProfile.Proofs.MisreadHandles
import FleetProfile.Proofs.TimestampLayouts
import FleetProfile.Proofs.RetryProtocol
import FleetProfile.Proofs.TemporalCells
import FleetProfile.Proofs.ColumnNames
import FleetProfile.Proofs.ConfiguredOffset
import FleetProfile.Proofs.TimestampKeys
