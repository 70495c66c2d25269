import SyncTail.OplogEntry
import SyncTail.CollectionProperties
import SyncTail.FillWriterVectors
import SyncTail.FillWriterVectors.Step
import SyncTail.FillWriterVectors.Transactions
import SyncTail.FillWriterVectors.TxnGrammar
import SyncTail.FillWriterVectors.Routing
import SyncTail.FillWriterVectors.Partition
import SyncTail.FillWriterVectors.Capped
import SyncTail.FillWriterVectors.Progress
import SyncTail.FillWriterVectors.Sessions
import SyncTail.FillWriterVectors.Expected
import SyncTail.FillWriterVectors.Refinement
import SyncTail.SyncApply
import SyncTail.MultiSyncApply
