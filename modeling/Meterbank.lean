import Meterbank.Metric.Encode
import Meterbank.Metric.Decode
import Meterbank.Store.MemoryTable
import Meterbank.Config.Toml
import Meterbank.Store.Workspace
import Meterbank.Store.Rehearsal
import Meterbank.Sql.Command
import Meterbank.Proofs.Merging
import Meterbank.Proofs.Window.Landing
import Meterbank.Proofs.Window.Alone
import Meterbank.Proofs.Window.Unstranded
import Meterbank.Proofs.Sql.Undoing
import Meterbank.Proofs.Store.Coalescing
import Meterbank.Proofs.Store.Failures
import Meterbank.Proofs.Store.Agreement
import Meterbank.Proofs.Store.Alone
import Meterbank.Proofs.Store.Answers
import Meterbank.Proofs.Store.Snapshots
import Meterbank.Proofs.Store.Counting
import Meterbank.Proofs.Store.BatchesAlone
import Meterbank.Proofs.Metric.Wire
import Meterbank.Proofs.Store.Durability
import Meterbank.Proofs.Window.Stopping
import Meterbank.Proofs.Store.Closing
import Meterbank.Proofs.Store.Restarts
import Meterbank.Proofs.Store.Reordering
import Meterbank.Proofs.Store.Loading
import Meterbank.Proofs.Store.Finite
import Meterbank.Proofs.Window.Barrier
import Meterbank.Proofs.Sql.RowByRow
import Meterbank.Proofs.Store.Succession
import Meterbank.Proofs.Store.FirstUse
import Meterbank.Proofs.Store.Closers
import Meterbank.Proofs.Store.Reading
import Meterbank.Proofs.Store.Entries
import Meterbank.Proofs.Pending
import Meterbank.Proofs.Store.Canonical
import Meterbank.Proofs.Slots
import Meterbank.Proofs.Store.Texts
import Meterbank.Proofs.Window.Draining
