import Waechter.Daemon.HistoryRequests
import Waechter.Lib.Archive
import Waechter.Util.ClientSocket
import Waechter.Util.IP2AsnDB
import Waechter.Util.Rule
import Waechter.Util.TrafficTreeUpdate

/-!
# Messages between the daemon and its clients

`Util/Messages.hpp`: the types of the messages, a byte in front of the payload, and how a payload is
written and read; `Util/Data/Protocol.hpp` and the other headers of messages. A payload is what
`cereal`'s binary archive makes of a structure.

What the daemon sends of its tree is a `SavedSystem`: the items with those below them in the place of
pointers.

* `readMessageType_serialize`, `deserialize_serialize`: the type and the payload of a message are
  read back.
* `deserialize_cut`: no payload is read of a message that is cut off.
-/

namespace Waechter

open Lib

/-! ## Types -/

/-- `EMessageType`. `MT_Invalid` is `none`. -/
inductive MessageType where
  | trafficTree
  | trafficTreeUpdate
  | appIconAtlasData
  | ruleUpdate
  | handshake
  | connectionHistory
  | connectionHistoryUpdate
  | memoryStats
  | updateIP2AsnDb
  | resolveRequest
  | resolveResponse
  | statsRequest
  | statsResponse
  | historyRequest
  | historyResponse
  | ipLookupRequest
  | ipLookupResponse
  | daemonConfig
  | daemonLog
  /-- `MT_Count`, which no message has. -/
  | count
  deriving DecidableEq, Repr

namespace MessageType

/-- The types in the order of their numbers. -/
def all : List MessageType :=
  [trafficTree, trafficTreeUpdate, appIconAtlasData, ruleUpdate, handshake, connectionHistory,
    connectionHistoryUpdate, memoryStats, updateIP2AsnDb, resolveRequest, resolveResponse,
    statsRequest, statsResponse, historyRequest, historyResponse, ipLookupRequest, ipLookupResponse,
    daemonConfig, daemonLog, count]

def number (type : MessageType) : UInt8 := .ofNat (all.idxOf type)

theorem all_number (type : MessageType) : all[type.number.toNat]? = some type := by
  cases type <;> rfl

end MessageType

/-- `ReadMessageTypeFromBuffer`, for a buffer from which nothing was read. A number up to `MT_Count`
passes. -/
def readMessageType (buffer : List Byte) : Option MessageType :=
  buffer.head?.bind fun b => MessageType.all[b.toNat]?

/-- `SerializeMessage`. -/
def serializeMessage {α : Type} (type : MessageType) (c : Archive α) (data : α) : List Byte :=
  type.number :: c.save data 0

/-- `DeserializeMessage`: the whole content of the buffer without its first byte. What is behind the
payload is not looked at. -/
def deserializeMessage {α : Type} (c : Archive α) (buffer : List Byte) : Option α :=
  (c.load (buffer.drop 1)).map Prod.fst

section Serialize

variable {α : Type} (type : MessageType) (c : Archive α) {data : α}

theorem readMessageType_serialize (rest : List Byte) :
    readMessageType (serializeMessage type c data ++ rest) = some type := type.all_number

/-- A payload is read back, whatever is behind it. -/
theorem deserialize_serialize (h : c.Fits data) (rest : List Byte) :
    deserializeMessage c (serializeMessage type c data ++ rest) = some data := by
  unfold deserializeMessage serializeMessage
  rw [List.cons_append, List.drop_one, List.tail_cons, c.load_save h, Option.map_some]

/-- **A message that is cut off** has no type, or no payload is read. -/
theorem deserialize_cut (h : c.Fits data) {part : List Byte}
    (hpart : part <+: serializeMessage type c data) (hcut : part ≠ serializeMessage type c data) :
    readMessageType part = none ∨
      readMessageType part = some type ∧ deserializeMessage c part = none := by
  cases part with
  | nil => exact .inl rfl
  | cons b part =>
    obtain ⟨rfl, hrest⟩ := List.cons_prefix_cons.mp hpart
    refine .inr ⟨type.all_number, ?_⟩
    have hload := c.load_cut h hrest fun heq => hcut (congrArg _ heq)
    rw [deserializeMessage, List.drop_one, List.tail_cons, hload, Option.map_none]

end Serialize

/-! ## Structures -/

/-- A `float`, as its bits. -/
abbrev FloatBits := UInt32

/-- `WAtlasUv`. -/
structure AtlasUv where
  u1 : FloatBits
  v1 : FloatBits
  u2 : FloatBits
  v2 : FloatBits
  deriving DecidableEq

/-- `WAppIconAtlasData`. -/
structure AppIconAtlasData where
  uvData : UMap String AtlasUv := ∅
  atlasImageData : List UInt8 := []
  atlasSize : Int := 64

/-- `WProtocolHandshake`. -/
structure ProtocolHandshake where
  protocolVersion : UInt8 := 1
  systemBootTime : Sec
  commitHash : String := ""
  deriving DecidableEq

/-- `WDaemonConfigMessage`. -/
structure DaemonConfigMessage where
  networkInterfaces : List String := []
  firstTimeSetupRan : Bool := true
  socketPath : String := ""
  daemonUser : String := ""
  daemonGroup : String := ""
  mainInterface : String := ""
  vpnInterface : String := ""
  socketMode : Int := 0
  deriving DecidableEq

/-- `WDaemonLogMessage`. -/
structure DaemonLogMessage where
  level : Int := 0
  message : String := ""
  deriving DecidableEq

/-- `WMemoryStatEntry`. -/
structure MemoryStatEntry where
  name : String
  usage : WBytes
  deriving DecidableEq

/-- `WMemoryStat`. -/
structure MemoryStat where
  name : String
  childEntries : List MemoryStatEntry
  deriving DecidableEq

/-- `WMemoryStats`. -/
structure MemoryStats where
  stats : List MemoryStat
  deriving DecidableEq

/-- `WResolveRequest`. -/
structure ResolveRequest where
  addressToResolve : IPAddress
  deriving DecidableEq

/-- `WResolveResponse`. -/
structure ResolveResponse where
  addressToResolve : IPAddress
  resolveResult : String
  deriving DecidableEq

/-- `WIPLookupRequest`. -/
structure IPLookupRequest where
  addressToLookup : IPAddress
  deriving DecidableEq

/-- `WConnectionHistoryChange`. -/
structure ConnectionHistoryChange where
  newDataIn : WBytes := 0
  newDataOut : WBytes := 0
  newEndTime : Sec := 0
  deriving DecidableEq

/-- `WNewConnectionHistoryEntry`. -/
structure NewConnectionHistoryEntry where
  appId : TrafficItemId := 0
  connectionId : TrafficItemId := 0
  remoteEndpoint : Endpoint := {}
  startTime : Sec := 0
  endTime : Sec := 0
  dataIn : WBytes := 0
  dataOut : WBytes := 0
  deriving DecidableEq

/-- `WConnectionHistoryUpdate`. -/
structure ConnectionHistoryUpdate where
  changes : UMap TrafficItemId ConnectionHistoryChange := ∅
  newEntries : List NewConnectionHistoryEntry := []

/-! ## The tree -/

/-- A `WSocketItem` with its tuples. -/
structure SavedSocket extends TrafficItem where
  connectionState : SocketConnectionState
  cookie : SocketCookie
  socketTuple : SocketTuple
  socketType : SocketType
  udpPerConnectionTraffic : List TupleItem

/-- A `WProcessItem` with its sockets. -/
structure SavedProcess extends TrafficItem where
  processId : ProcessId
  sockets : UMap SocketCookie SavedSocket

/-- A `WApplicationItem` with its processes. -/
structure SavedApplication extends TrafficItem where
  applicationName : String
  applicationPath : String
  applicationCommandLine : String
  processes : UMap ProcessId SavedProcess

/-- A `WSystemItem` with its applications. -/
structure SavedSystem extends TrafficItem where
  hostName : String
  applications : UMap String SavedApplication
  filters : List FilterItem

/-! ## Messages -/

/-- A message with its payload. -/
inductive Message where
  | trafficTree (root : SavedSystem)
  | trafficTreeUpdate (updates : TrafficTreeUpdates)
  | appIconAtlasData (data : AppIconAtlasData)
  | ruleUpdate (update : RuleUpdate)
  | handshake (handshake : ProtocolHandshake)
  | connectionHistory (update : ConnectionHistoryUpdate)
  | connectionHistoryUpdate (update : ConnectionHistoryUpdate)
  | memoryStats (stats : MemoryStats)
  | updateIP2AsnDb
  | resolveRequest (request : ResolveRequest)
  | resolveResponse (response : ResolveResponse)
  | statsRequest (request : StatsManager.StatsRequest)
  | statsResponse (response : StatsManager.StatsResponse)
  | historyRequest (request : StatsManager.HistoryRequest)
  | historyResponse (response : StatsManager.HistoryResponse)
  | ipLookupRequest (request : IPLookupRequest)
  | ipLookupResponse (result : IP2AsnDB.LookupResult)
  | daemonConfig (config : DaemonConfigMessage)
  | daemonLog (log : DaemonLogMessage)

end Waechter
