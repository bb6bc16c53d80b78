import Waechter.Lib.UMap
import Waechter.Lib.Run
import Waechter.Lib.Path
import Waechter.Lib.Account
import Waechter.Lib.Delivery
import Waechter.Lib.Buffer
import Waechter.Util.IPAddress
import Waechter.Daemon.PacketParser
import Waechter.Util.TrafficItem
import Waechter.Util.TrafficCounter
import Waechter.Util.TrafficTreeUpdate
import Waechter.Daemon.Counters
import Waechter.Daemon.MapUpdate
import Waechter.Util.Rule
import Waechter.Daemon.EffectiveRules
import Waechter.Daemon.EffectiveMarks
import Waechter.EBPF.Traffic
import Waechter.Daemon.AppKey
import Waechter.Daemon.SystemMap
import Waechter.Daemon.SocketEvents
import Waechter.Daemon.Cleanup
import Waechter.Daemon.AppIdentity
import Waechter.Daemon.Actions
import Waechter.Daemon.FilterTraffic
import Waechter.Daemon.Marks
import Waechter.Daemon.StateChanges
import Waechter.Daemon.TreeShape
import Waechter.Daemon.TreeInvariant
import Waechter.Daemon.TwoTrees
import Waechter.Daemon.Books
import Waechter.Daemon.ByteAccounting
import Waechter.Util.SpeedTiming
import Waechter.Daemon.GatedCounters
import Waechter.Daemon.SpeedUpdates
import Waechter.Daemon.RuleManager
import Waechter.Protocol.RuleSync
import Waechter.Gui.TrafficTree
import Waechter.Lib.Forest
import Waechter.Gui.TreeIndex
import Waechter.Gui.ShownSockets
import Waechter.Protocol.SocketViews
import Waechter.Protocol.Joining
import Waechter.Protocol.Reconnect
import Waechter.Lib.Writes
import Waechter.Daemon.RuleCache
import Waechter.Daemon.SyncInvariant
import Waechter.Daemon.SyncSteps
import Waechter.Daemon.KernelSync
import Waechter.Daemon.DbMigrations
import Waechter.Lib.Framing
import Waechter.Util.ClientSocket
import Waechter.Daemon.ConnectionHistory
import Waechter.Daemon.ConnectionSets
import Waechter.Lib.Window
import Waechter.Protocol.HistoryDelivery
import Waechter.Protocol.NewEntries
import Waechter.Lib.Calendar
import Waechter.Lib.Buckets
import Waechter.Daemon.StatsManager
import Waechter.Daemon.SystemTotals
import Waechter.Daemon.ItemRequests
import Waechter.Daemon.StatsBuckets
import Waechter.Daemon.StatsLoop
import Waechter.EBPF.PortToPid
import Waechter.Daemon.SocketStateParser
import Waechter.Daemon.ProcessIds
import Waechter.Daemon.PidFlow
import Waechter.Lib.Locks
import Waechter.Daemon.Locks
import Waechter.Daemon.DeadlockFreedom
import Waechter.Daemon.PacketFormat
import Waechter.Daemon.AddressForms
import Waechter.Lib.Hex
import Waechter.Daemon.ProcNet
import Waechter.Daemon.SocketTypes
import Waechter.Daemon.CloseEvents
import Waechter.Util.IPLinkMsg
import Waechter.Protocol.LinkShutdown
import Waechter.Protocol.OrphanLookup
import Waechter.Daemon.SystemRule
import Waechter.Daemon.RulePersistence
import Waechter.Protocol.HistorySamples
import Waechter.Daemon.IPLink
import Waechter.Daemon.IPLinkProc
import Waechter.Daemon.LimitIds
import Waechter.Daemon.Enforcement
import Waechter.Daemon.PidMarks
import Waechter.Daemon.LiveTables
import Waechter.Daemon.PortMarks
import Waechter.Daemon.Tuples
import Waechter.Protocol.TrafficControl
import Waechter.Daemon.ItemTree
import Waechter.Daemon.Removals
import Waechter.Daemon.RemovalRecords
import Waechter.Lib.CostedMap
import Waechter.Daemon.Resolver
import Waechter.Util.FrameStream
import Waechter.Daemon.HistoryRequests
import Waechter.Daemon.RequestThread
import Waechter.Daemon.SqlStatements
import Waechter.Daemon.TrafficConservation
import Waechter.Lib.SortedRanges
import Waechter.Util.AsnIndex
import Waechter.Util.IP2AsnDB
import Waechter.Util.IndexReuse
import Waechter.Daemon.IP2Asn
import Waechter.Daemon.AsnUpdate
import Waechter.Lib.Fifo
import Waechter.Lib.Text
import Waechter.Lib.Decimal
import Waechter.Daemon.DaemonConfig
import Waechter.Gui.WebSocketSource
import Waechter.Daemon.DaemonWebSocket
import Waechter.Gui.StatWindow
import Waechter.Protocol.Malformed
import Waechter.Lib.Sweep
import Waechter.Daemon.CleanupLoops
import Waechter.Util.Buffer
import Waechter.Daemon.IdleSockets
import Waechter.Lib.Binary64
import Waechter.Lib.Archive
import Waechter.Util.Messages
import Waechter.Protocol.WireFormat
import Waechter.Protocol.Connection
import Waechter.Protocol.WebSocketLink
import Waechter.Gui.WebSocketThread
import Waechter.Lib.Throttle
import Waechter.Util.Timers
import Waechter.EBPF.IfbClassifier
import Waechter.Lib.AskOnce
import Waechter.Protocol.Lookups
import Waechter.EBPF.UdpHooks
import Waechter.Lib.Circular
import Waechter.Gui.NetworkGraph
import Waechter.Daemon.HistoryStore
import Waechter.Daemon.Verdicts
import Waechter.Daemon.PacketCounting
