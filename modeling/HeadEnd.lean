import HeadEnd.Cluster.Overrun
import HeadEnd.Cluster.FailoverAgreement
import HeadEnd.Cluster.Departure
import HeadEnd.Cluster.DeadCandidates
import HeadEnd.Cluster.OneWaker
import HeadEnd.Cluster.PeerMessages
import HeadEnd.Cluster.DeathFaults
import HeadEnd.Config
import HeadEnd.Messages.Codec
import HeadEnd.OneJob
import HeadEnd.Postgres
import HeadEnd.RegisterRequest
import HeadEnd.Takeover
import HeadEnd.Engines
import HeadEnd.Cluster.Startup
import HeadEnd.Cluster.Locks
import HeadEnd.Buckets
import HeadEnd.Cluster.Redistribution
import HeadEnd.Cluster.ShutdownDelegation
import HeadEnd.Cluster.DelegationWire
import HeadEnd.Cluster.Rebalance
import HeadEnd.Cluster.Acceptance
import HeadEnd.Cluster.OwnershipSets
import HeadEnd.Cluster.ReportedLoad
import HeadEnd.Lib.Text
import HeadEnd.ConfigFile
import HeadEnd.BucketChoice
import HeadEnd.Slots
import HeadEnd.Cadence
import HeadEnd.BucketCount
import HeadEnd.Reload
import HeadEnd.Announcement
import HeadEnd.Battery
import HeadEnd.Cluster.Join
import HeadEnd.Cluster.SilentPeer
import HeadEnd.Cluster.Probe
import HeadEnd.Cluster.Suspicion
import HeadEnd.IpUpdate
import HeadEnd.Cluster.Gauges
import HeadEnd.Claiming
import HeadEnd.Addresses
import HeadEnd.Replies
import HeadEnd.Timestamps
import HeadEnd.ConfigKeys
import HeadEnd.Messages.Datagrams
import HeadEnd.Cluster.Dispatch
import HeadEnd.Cluster.Seeds
import HeadEnd.Cluster.SeedStore
import HeadEnd.ActiveTasks
import HeadEnd.DebugSession
import HeadEnd.Lib.Template
import HeadEnd.Substitution
import HeadEnd.Cluster.Discovery
import HeadEnd.HotReload
import HeadEnd.Lib.Broadcast
import HeadEnd.Cluster.Propagation
import HeadEnd.Attended
import HeadEnd.Lib.Handover
import HeadEnd.Cluster.SingleOwner
import HeadEnd.Lib.Json
import HeadEnd.Rpc.Handler
import HeadEnd.Rpc.Paging
import HeadEnd.Rpc.Commands
import HeadEnd.Rpc.Console
import HeadEnd.Lib.Yaml
