import ProxyServer.Buffers.CacheSystem
import ProxyServer.Buffers.MemPool
import ProxyServer.Buffers.MemPoolInvariant
import ProxyServer.Buffers.PoolRuns
import ProxyServer.Buffers.RawCache
import ProxyServer.HashMap.AddList
import ProxyServer.HashMap.ChunkAllocator
import ProxyServer.HashMap.ContentRuns
import ProxyServer.HashMap.HashMap
import ProxyServer.HashMap.MapRuns
import ProxyServer.HashMap.MapShape
import ProxyServer.HashMap.NodeLists
import ProxyServer.HashMap.ShmHashMap
import ProxyServer.HashMap.StoredData
import ProxyServer.Library.BoundedLoop
import ProxyServer.Library.CellStore
import ProxyServer.Library.Draining
import ProxyServer.Library.FaultState
import ProxyServer.Library.Footprint
import ProxyServer.Library.KeyIndex
import ProxyServer.Library.LinkedNodes
import ProxyServer.Library.OutputLink
import ProxyServer.Library.PairedRuns
import ProxyServer.Library.Reachability
import ProxyServer.Library.Rings
import ProxyServer.Library.Rotation
import ProxyServer.Library.StreamSplitter
import ProxyServer.Library.TextCursor
import ProxyServer.Library.WordBytes
import ProxyServer.Listener.AcceptedDescriptors
import ProxyServer.Listener.FailedSessions
import ProxyServer.Listener.InputNotify
import ProxyServer.Listener.PersistentErrors
import ProxyServer.MarkupSTL.Cursor
import ProxyServer.MarkupSTL.Grammar
import ProxyServer.MarkupSTL.ParsedTree
import ProxyServer.MarkupSTL.Parser
import ProxyServer.MarkupSTL.Parsing
import ProxyServer.MarkupSTL.Scanner
import ProxyServer.MarkupSTL.Scanning
import ProxyServer.MarkupSTL.ServerXml
import ProxyServer.MarkupSTL.Texts
import ProxyServer.Packets.CheckCode
import ProxyServer.Packets.CodeByte
import ProxyServer.Packets.EncryptDecrypt
import ProxyServer.Packets.FieldFailures
import ProxyServer.Packets.InputPacket
import ProxyServer.Packets.OutputPacket
import ProxyServer.Packets.PacketBase
import ProxyServer.Packets.ReadBounds
import ProxyServer.Packets.Resealing
import ProxyServer.Packets.RoundTrip
import ProxyServer.Poller.EventDispatch
import ProxyServer.Poller.PollerUnit
import ProxyServer.Poller.SlotOwnership
import ProxyServer.Runtime
import ProxyServer.System.Accounts
import ProxyServer.System.ClientFrames
import ProxyServer.System.ClientVoice
import ProxyServer.System.Delivery
import ProxyServer.System.Envelope
import ProxyServer.System.EventRules
import ProxyServer.System.Events
import ProxyServer.System.FailedReload
import ProxyServer.System.GameLinks
import ProxyServer.System.HelperTables
import ProxyServer.System.LevelCounts
import ProxyServer.System.LoginHistory
import ProxyServer.System.Markup
import ProxyServer.System.NewRoomFrames
import ProxyServer.System.Parts
import ProxyServer.System.Proxy
import ProxyServer.System.ReceivedBytes
import ProxyServer.System.Registry
import ProxyServer.System.RejectedLogins
import ProxyServer.System.Reload
import ProxyServer.System.RoundRobin
import ProxyServer.System.Routing
import ProxyServer.System.ServerChoice
import ProxyServer.System.ServerPackets
import ProxyServer.System.ServerTables
import ProxyServer.System.SessionEnd
import ProxyServer.System.SessionLives
import ProxyServer.System.UnheededCode
import ProxyServer.System.UserTable
import ProxyServer.System.Visits
import ProxyServer.Timers.CheckExpired
import ProxyServer.Timers.ExpireMicroSeconds
import ProxyServer.Timers.TimerList
import ProxyServer.Timers.TimerRings
import ProxyServer.Timers.TimerUnit
import ProxyServer.Units.BackendFraming
import ProxyServer.Units.BackendUnit
import ProxyServer.Units.ClientConnection
import ProxyServer.Units.ClientFraming
import ProxyServer.Units.ClientOutput
import ProxyServer.Units.ClientSurvival
import ProxyServer.Units.ClientUnit
import ProxyServer.Units.DecryptBounds
import ProxyServer.Units.Defs
import ProxyServer.Units.PollerCalls
import ProxyServer.Units.PollerObject
import ProxyServer.Units.SendErrors
import ProxyServer.Units.ServerFrames
