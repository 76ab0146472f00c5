import StatSchema.Main
import StatSchema.Migration.Logged
import StatSchema.Refresh
import StatSchema.Proofs.Block.Course
import StatSchema.Proofs.Block.Schedule
import StatSchema.Proofs.Block.Atomicity
import StatSchema.Proofs.Block.Nesting
import StatSchema.Proofs.Block.Standard
import StatSchema.Proofs.Block.InTurn
import StatSchema.Proofs.Block.Twins
import StatSchema.Proofs.Block.Overrun
import StatSchema.Proofs.Block.AnyError
import StatSchema.Proofs.Block.Account
import StatSchema.Proofs.Block.Backoff
import StatSchema.Proofs.Catalog.Opening
import StatSchema.Proofs.Migration.Schema
import StatSchema.Proofs.Migration.Install
import StatSchema.Proofs.Migration.PartialInstall
import StatSchema.Proofs.Migration.Ledger
import StatSchema.Proofs.Migration.Consistency
import StatSchema.Proofs.Migration.Unwinding
import StatSchema.Proofs.Migration.Objects
import StatSchema.Proofs.Migration.Reversal
import StatSchema.Proofs.Migration.Secrecy
import StatSchema.Proofs.Catalog.Violations
import StatSchema.Proofs.Catalog.Rules
import StatSchema.Proofs.Catalog.Sources
import StatSchema.Proofs.Catalog.Search
import StatSchema.Proofs.Catalog.Placement
import StatSchema.Proofs.Catalog.RefreshOrder
import StatSchema.Proofs.Catalog.Refreshable
import StatSchema.Proofs.Catalog.Readiness
import StatSchema.Proofs.Catalog.Levels
import StatSchema.Proofs.Catalog.Ceiling
import StatSchema.Proofs.Catalog.Full
import StatSchema.Proofs.Catalog.UniqueIndex
import StatSchema.Proofs.Text.Literals
import StatSchema.Proofs.Text.Cuts
import StatSchema.Proofs.Text.Reading
import StatSchema.Proofs.Statistics.Rollup
import StatSchema.Proofs.Directive
import StatSchema.Proofs.Partition
import StatSchema.Proofs.Connection.Grammar
import StatSchema.Proofs.Connection.Credentials
import StatSchema.Proofs.Publication.Password
import StatSchema.Proofs.Publication.Quoting
import StatSchema.Proofs.Publication.Effects
import StatSchema.Proofs.Publication.Mirror
import StatSchema.Proofs.Refresh
