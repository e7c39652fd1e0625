import LagrangeDb.Transaction.CommitPoint
import LagrangeDb.Write.Orderly
import LagrangeDb.Cdc.Owed
import LagrangeDb.Raft.Promises
import LagrangeDb.Raft.Transition
import LagrangeDb.Partition.SplitExact
import LagrangeDb.Partition.ReplayExact
import LagrangeDb.Query.Binding
import LagrangeDb.Query.Readable
import LagrangeDb.Pgwire.Extended
import LagrangeDb.Routing.CompositeSound
import LagrangeDb.Pgwire.Honest
import LagrangeDb.LiveQuery.Incremental
import LagrangeDb.Rebalancer.RemoveFloor
import LagrangeDb.Hlc.Clock
import LagrangeDb.Query.Residual
import LagrangeDb.Query.AggregateKeys
import LagrangeDb.Query.SortedMerge
import LagrangeDb.Routing.Contradiction
