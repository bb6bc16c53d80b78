import Waechter.Util.IPLinkMsg
import Waechter.Util.Messages

/-!
# The wire format

The `serialize` functions of the messages: which fields of a structure are sent, in which order.
A message goes as the byte of its type with its payload behind it (`Util/Messages.hpp`), and the
receiver chooses by that byte which structure it loads. A receiver that finds a number without an
enumerator goes on with it; here nothing is loaded then.

* `Message.receive_serialize`: every message is received as it was sent, but for the marks of a
  rule.
* `Message.receive_cut`: a message that is cut off is never taken for one.
* `Message.receive_part`: the two together, for every frame that begins with a message.

The messages to and from the helper process have no type in front (`Util/IPLinkMsg.hpp`).
-/

namespace Waechter

open Lib Archive

/-! ## Numbers of the enumerators -/

def IPFamily.number : IPFamily → UInt8
  | .unknown => 0
  | .ipv4 => 4
  | .ipv6 => 6

def IPFamily.ofNumber (n : UInt8) : Option IPFamily :=
  if n = 0 then some .unknown
  else if n = 4 then some .ipv4
  else if n = 6 then some .ipv6
  else none

def Protocol.number : Protocol → UInt8
  | .unknown => 0
  | .icmp => 1
  | .tcp => 6
  | .udp => 17
  | .esp => 50
  | .icmpv6 => 58
  | .other n => n

def SocketConnectionState.number : SocketConnectionState → UInt32
  | .unknown => 0
  | .created => 1
  | .connecting => 2
  | .connected => 3
  | .closed => 4

def SocketConnectionState.ofNumber (n : UInt32) : Option SocketConnectionState :=
  [.unknown, .created, .connecting, .connected, .closed][n.toNat]?

def SwitchState.number : SwitchState → UInt8
  | .none => 0
  | .block => 1
  | .allow => 2

def SwitchState.ofNumber (n : UInt8) : Option SwitchState :=
  [.none, .block, .allow][n.toNat]?

def RuleType.number : RuleType → UInt8
  | .implicit => 0
  | .explicit => 1

def RuleType.ofNumber (n : UInt8) : Option RuleType := [.implicit, .explicit][n.toNat]?

namespace Wire

/-! ## Addresses -/

def family : Archive IPFamily :=
  uint8.enumeration IPFamily.number IPFamily.ofNumber fun f => by cases f <;> rfl

/-- `EProtocol::Type`: a number that has an enumerator is not among the others. -/
def protocol : Archive Protocol :=
  uint8.through Protocol.number (fun n => some (.ofNumber n.toUInt32))
    (fun p => Protocol.ofNumber p.number.toUInt32 = p) fun _ h => ⟨trivial, congrArg some h⟩

/-- `WIPAddress::serialize`. -/
def ipAddress : Archive IPAddress :=
  (prod (ofFormat (.array 16)) family).ofFields (fun a => (a.bytes, a.family))
    (fun x => ⟨x.1, x.2⟩) fun _ => rfl

/-- `WEndpoint::serialize`. -/
def endpoint : Archive Endpoint :=
  (prod ipAddress uint16).ofFields (fun e => (e.address, e.port)) (fun x => ⟨x.1, x.2⟩) fun _ => rfl

/-- `WSocketTuple::serialize`. -/
def socketTuple : Archive SocketTuple :=
  (prod endpoint (prod endpoint protocol)).ofFields
    (fun t => (t.localEndpoint, t.remoteEndpoint, t.protocol)) (fun x => ⟨x.1, x.2.1, x.2.2⟩)
    fun _ => rfl

/-! ## The tree -/

/-- What `ITrafficItem`s have in common, in the order in which all but the system send it. -/
def trafficItem : Archive TrafficItem :=
  (prod nat64 (prod double (prod double (prod nat64 nat64)))).ofFields
    (fun i => (i.itemId, i.downloadSpeed, i.uploadSpeed, i.totalDownloadBytes, i.totalUploadBytes))
    (fun x => ⟨x.1, x.2.1, x.2.2.1, x.2.2.2.1, x.2.2.2.2⟩) fun _ => rfl

/-- An `enum class` without a type has the size of an `int`. -/
def connectionState : Archive SocketConnectionState :=
  uint32.enumeration SocketConnectionState.number SocketConnectionState.ofNumber
    fun s => by cases s <;> rfl

/-- `WTupleItem::serialize`. -/
def tupleItem : Archive TupleItem :=
  (prod trafficItem endpoint).ofFields (fun i => (i.toTrafficItem, i.endpoint))
    (fun x => ⟨x.1, x.2⟩) fun _ => rfl

/-- `WSocketItem::serialize`. -/
def socketItem : Archive SavedSocket :=
  (prod trafficItem (prod connectionState (prod nat64 (prod socketTuple
      (prod uint8 (list (object tupleItem))))))).ofFields
    (fun i => (i.toTrafficItem, i.connectionState, i.cookie, i.socketTuple, i.socketType,
      i.udpPerConnectionTraffic))
    (fun x => ⟨x.1, x.2.1, x.2.2.1, x.2.2.2.1, x.2.2.2.2.1, x.2.2.2.2.2⟩) fun _ => rfl

/-- `WProcessItem::serialize`. -/
def processItem : Archive SavedProcess :=
  (prod trafficItem (prod int32 (umap nat64 (object socketItem)))).ofFields
    (fun i => (i.toTrafficItem, i.processId, i.sockets)) (fun x => ⟨x.1, x.2.1, x.2.2⟩) fun _ => rfl

/-- `WApplicationItem::serialize`. -/
def applicationItem : Archive SavedApplication :=
  (prod trafficItem (prod string (prod string (prod string
      (umap int32 (object processItem)))))).ofFields
    (fun i => (i.toTrafficItem, i.applicationName, i.applicationPath, i.applicationCommandLine,
      i.processes))
    (fun x => ⟨x.1, x.2.1, x.2.2.1, x.2.2.2.1, x.2.2.2.2⟩) fun _ => rfl

/-- `WFilterItem::serialize`. -/
def filterItem : Archive FilterItem :=
  (prod trafficItem string).ofFields (fun i => (i.toTrafficItem, i.name)) (fun x => ⟨x.1, x.2⟩)
    fun _ => rfl

/-- `WSystemItem::serialize`: the host name stands among the numbers. -/
def systemItem : Archive SavedSystem :=
  (prod nat64 (prod double (prod double (prod string (prod nat64 (prod nat64
      (prod (umap string (object applicationItem)) (list (object filterItem))))))))).ofFields
    (fun i => (i.itemId, i.downloadSpeed, i.uploadSpeed, i.hostName, i.totalDownloadBytes,
      i.totalUploadBytes, i.applications, i.filters))
    (fun x => ⟨⟨x.1, x.2.1, x.2.2.1, x.2.2.2.2.1, x.2.2.2.2.2.1⟩, x.2.2.2.1, x.2.2.2.2.2.2.1,
      x.2.2.2.2.2.2.2⟩) fun _ => rfl

/-! ## Updates of the tree -/

/-- `WTrafficTreeTrafficUpdate::serialize`. -/
def trafficUpdate : Archive TrafficTreeTrafficUpdate :=
  (prod nat64 (prod double (prod double (prod nat64 nat64)))).ofFields
    (fun u => (u.itemId, u.newDownloadSpeed, u.newUploadSpeed, u.totalDownloadBytes,
      u.totalUploadBytes))
    (fun x => ⟨x.1, x.2.1, x.2.2.1, x.2.2.2.1, x.2.2.2.2⟩) fun _ => rfl

/-- `WTrafficTreeSocketAddition::serialize`. -/
def socketAddition : Archive TrafficTreeSocketAddition :=
  (prod nat64 (prod nat64 (prod nat64 (prod int32 (prod string (prod string (prod string
      (prod socketTuple (prod connectionState (prod uint8 nat64)))))))))).ofFields
    (fun a => (a.itemId, a.processItemId, a.applicationItemId, a.processId, a.applicationName,
      a.applicationPath, a.applicationCommandLine, a.socketTuple, a.connectionState, a.socketType,
      a.socketCookie))
    (fun x =>
      { itemId := x.1
        processItemId := x.2.1
        applicationItemId := x.2.2.1
        processId := x.2.2.2.1
        applicationName := x.2.2.2.2.1
        applicationPath := x.2.2.2.2.2.1
        applicationCommandLine := x.2.2.2.2.2.2.1
        socketTuple := x.2.2.2.2.2.2.2.1
        connectionState := x.2.2.2.2.2.2.2.2.1
        socketType := x.2.2.2.2.2.2.2.2.2.1
        socketCookie := x.2.2.2.2.2.2.2.2.2.2 })
    fun _ => rfl

/-- `WTrafficTreeTupleAddition::serialize`. -/
def tupleAddition : Archive TrafficTreeTupleAddition :=
  (prod nat64 (prod nat64 endpoint)).ofFields (fun a => (a.itemId, a.socketItemId, a.endpoint))
    (fun x => ⟨x.1, x.2.1, x.2.2⟩) fun _ => rfl

/-- `WTrafficTreeSocketStateChange::serialize`. -/
def stateChange : Archive TrafficTreeSocketStateChange :=
  (prod nat64 (prod connectionState (prod uint8 (pointer socketTuple)))).ofFields
    (fun c => (c.itemId, c.newState, c.socketType, c.socketTuple))
    (fun x => ⟨x.1, x.2.1, x.2.2.1, x.2.2.2⟩) fun _ => rfl

/-- `WTrafficTreeUpdates::serialize`: the items that are removed come first. -/
def trafficTreeUpdates : Archive TrafficTreeUpdates :=
  (prod (list nat64) (prod (list nat64) (prod (list trafficUpdate) (prod (list socketAddition)
      (prod (list tupleAddition) (list stateChange)))))).ofFields
    (fun u => (u.removedItems, u.markedForRemovalItems, u.updatedItems, u.addedSockets,
      u.addedTuples, u.socketStateChange))
    (fun x => ⟨x.2.1, x.1, x.2.2.1, x.2.2.2.1, x.2.2.2.2.1, x.2.2.2.2.2⟩) fun _ => rfl

/-! ## Rules -/

def switchState : Archive SwitchState :=
  uint8.enumeration SwitchState.number SwitchState.ofNumber fun s => by cases s <;> rfl

def ruleType : Archive RuleType :=
  uint8.enumeration RuleType.number RuleType.ofNumber fun t => by cases t <;> rfl

/-- The fields of a rule that are sent. -/
def ruleFields :
    Archive (SwitchState × SwitchState × BytesPerSecond × BytesPerSecond × RuleType) :=
  prod switchState (prod switchState (prod double (prod double ruleType)))

/-- `WTrafficItemRules::serialize`, into a rule as its constructor makes it: a rule with marks does
not come back. -/
def rules : Archive TrafficItemRules :=
  ruleFields.through
    (fun r => (r.uploadSwitch, r.downloadSwitch, r.uploadLimit, r.downloadLimit, r.ruleType))
    (fun x => some
      { uploadSwitch := x.1
        downloadSwitch := x.2.1
        uploadLimit := x.2.2.1
        downloadLimit := x.2.2.2.1
        ruleType := x.2.2.2.2 })
    (fun r => ruleFields.Fits (r.uploadSwitch, r.downloadSwitch, r.uploadLimit, r.downloadLimit,
      r.ruleType) ∧ r.received = r)
    fun _ h => ⟨h.1, congrArg some h.2⟩

/-- `WRuleUpdate::serialize`. -/
def ruleUpdate : Archive RuleUpdate :=
  (prod rules (prod nat64 nat64)).ofFields (fun u => (u.rules, u.trafficItemId, u.parentAppId))
    (fun x => ⟨x.1, x.2.1, x.2.2⟩) fun _ => rfl

/-! ## The other messages -/

/-- `WAtlasUv::serialize`. -/
def atlasUv : Archive AtlasUv :=
  (prod uint32 (prod uint32 (prod uint32 uint32))).ofFields (fun a => (a.u1, a.v1, a.u2, a.v2))
    (fun x => ⟨x.1, x.2.1, x.2.2.1, x.2.2.2⟩) fun _ => rfl

/-- `WAppIconAtlasData::serialize`. -/
def appIconAtlasData : Archive AppIconAtlasData :=
  (prod (umap string atlasUv) (prod (list uint8) int32)).ofFields
    (fun d => (d.uvData, d.atlasImageData, d.atlasSize)) (fun x => ⟨x.1, x.2.1, x.2.2⟩) fun _ => rfl

/-- `WProtocolHandshake::serialize`. -/
def handshake : Archive ProtocolHandshake :=
  (prod uint8 (prod string int64)).ofFields
    (fun h => (h.protocolVersion, h.commitHash, h.systemBootTime))
    (fun x => ⟨x.1, x.2.2, x.2.1⟩) fun _ => rfl

/-- `WConnectionHistoryChange::serialize`. -/
def historyChange : Archive ConnectionHistoryChange :=
  (prod nat64 (prod nat64 int64)).ofFields (fun c => (c.newDataIn, c.newDataOut, c.newEndTime))
    (fun x => ⟨x.1, x.2.1, x.2.2⟩) fun _ => rfl

/-- `WNewConnectionHistoryEntry::serialize`. -/
def newHistoryEntry : Archive NewConnectionHistoryEntry :=
  (prod nat64 (prod nat64 (prod endpoint (prod int64 (prod int64 (prod nat64 nat64)))))).ofFields
    (fun e => (e.appId, e.connectionId, e.remoteEndpoint, e.startTime, e.endTime, e.dataIn,
      e.dataOut))
    (fun x => ⟨x.1, x.2.1, x.2.2.1, x.2.2.2.1, x.2.2.2.2.1, x.2.2.2.2.2.1, x.2.2.2.2.2.2⟩)
    fun _ => rfl

/-- `WConnectionHistoryUpdate::serialize`. -/
def connectionHistoryUpdate : Archive ConnectionHistoryUpdate :=
  (prod (umap nat64 historyChange) (list newHistoryEntry)).ofFields
    (fun u => (u.changes, u.newEntries)) (fun x => ⟨x.1, x.2⟩) fun _ => rfl

/-- `WMemoryStatEntry::serialize`. -/
def memoryStatEntry : Archive MemoryStatEntry :=
  (prod string nat64).ofFields (fun e => (e.name, e.usage)) (fun x => ⟨x.1, x.2⟩) fun _ => rfl

/-- `WMemoryStat::serialize`. -/
def memoryStat : Archive MemoryStat :=
  (prod string (list memoryStatEntry)).ofFields (fun s => (s.name, s.childEntries))
    (fun x => ⟨x.1, x.2⟩) fun _ => rfl

/-- `WMemoryStats::serialize`. -/
def memoryStats : Archive MemoryStats :=
  (list memoryStat).ofFields MemoryStats.stats MemoryStats.mk fun _ => rfl

/-- `WResolveRequest::serialize`. -/
def resolveRequest : Archive ResolveRequest :=
  ipAddress.ofFields ResolveRequest.addressToResolve ResolveRequest.mk fun _ => rfl

/-- `WResolveResponse::serialize`. -/
def resolveResponse : Archive ResolveResponse :=
  (prod ipAddress string).ofFields (fun r => (r.addressToResolve, r.resolveResult))
    (fun x => ⟨x.1, x.2⟩) fun _ => rfl

/-- `WStatsRequest::serialize`. -/
def statsRequest : Archive StatsManager.StatsRequest :=
  (prod int64 (prod int64 (prod string uint32))).ofFields
    (fun r => (r.startTime, r.endTime, r.target, r.requestId))
    (fun x => ⟨x.2.2.2, x.1, x.2.1, x.2.2.1⟩) fun _ => rfl

/-- `WStatData::serialize`. -/
def statData : Archive StatsManager.StatData :=
  (prod nat64 (prod nat64 int64)).ofFields (fun d => (d.bytesIn, d.bytesOut, d.timestamp))
    (fun x => ⟨x.1, x.2.1, x.2.2⟩) fun _ => rfl

/-- `WStatsResponse::serialize`. -/
def statsResponse : Archive StatsManager.StatsResponse :=
  (prod (list statData) uint32).ofFields (fun r => (r.dataPoints, r.requestId))
    (fun x => ⟨x.1, x.2⟩) fun _ => rfl

/-- `WConnectionHistoryRequest::serialize`. -/
def historyRequest : Archive StatsManager.HistoryRequest :=
  (prod uint32 (prod string (prod (pointer ipAddress) nat64))).ofFields
    (fun r => (r.requestId, r.targetName, r.hostTarget, r.offset))
    (fun x => ⟨x.1, x.2.1, x.2.2.1, x.2.2.2⟩) fun _ => rfl

/-- `WConnectionHistoryResponseEntry::serialize`. -/
def historyResponseEntry : Archive StatsManager.HistoryResponseEntry :=
  (prod string (prod endpoint (prod nat64 (prod nat64 (prod int64 int64))))).ofFields
    (fun e => (e.appName, e.endpoint, e.dataIn, e.dataOut, e.startTime, e.endTime))
    (fun x => ⟨x.1, x.2.1, x.2.2.1, x.2.2.2.1, x.2.2.2.2.1, x.2.2.2.2.2⟩) fun _ => rfl

/-- `WConnectionHistoryResponse::serialize`. -/
def historyResponse : Archive StatsManager.HistoryResponse :=
  (prod uint32 (prod (list historyResponseEntry) nat64)).ofFields
    (fun r => (r.requestId, r.entries, r.numTotalEntries)) (fun x => ⟨x.1, x.2.1, x.2.2⟩)
    fun _ => rfl

/-- `WIPLookupRequest::serialize`. -/
def ipLookupRequest : Archive IPLookupRequest :=
  ipAddress.ofFields IPLookupRequest.addressToLookup IPLookupRequest.mk fun _ => rfl

/-- `WIP2AsnLookupResult::serialize`. -/
def lookupResult : Archive IP2AsnDB.LookupResult :=
  (prod ipAddress (prod uint32 (prod text text))).ofFields
    (fun r => (r.address, r.asn, r.country, r.organization))
    (fun x => ⟨x.1, x.2.1, x.2.2.1, x.2.2.2⟩) fun _ => rfl

/-- `WDaemonConfigMessage::serialize`. -/
def daemonConfig : Archive DaemonConfigMessage :=
  (prod (list string) (prod bool (prod string (prod string (prod string (prod string
      (prod string int32))))))).ofFields
    (fun c => (c.networkInterfaces, c.firstTimeSetupRan, c.socketPath, c.daemonUser, c.daemonGroup,
      c.mainInterface, c.vpnInterface, c.socketMode))
    (fun x => ⟨x.1, x.2.1, x.2.2.1, x.2.2.2.1, x.2.2.2.2.1, x.2.2.2.2.2.1, x.2.2.2.2.2.2.1,
      x.2.2.2.2.2.2.2⟩) fun _ => rfl

/-- `WDaemonLogMessage::serialize`: a level is an `int`. -/
def daemonLog : Archive DaemonLogMessage :=
  (prod int32 string).ofFields (fun l => (l.level, l.message)) (fun x => ⟨x.1, x.2⟩) fun _ => rfl

/-! ## Messages to the helper process -/

/-- `WSetupHtbClassMsg::serialize`. -/
def setupHtbClass : Archive SetupHtbClassMsg :=
  (prod uint32 (prod uint16 (prod double (prod string bool)))).ofFields
    (fun m => (m.mark, m.minorId, m.rateLimit, m.interfaceName, m.isRoot))
    (fun x => ⟨x.2.2.2.1, x.1, x.2.1, x.2.2.2.2, x.2.2.1⟩) fun _ => rfl

/-- `WRemoveHtbClassMsg::serialize`. -/
def removeHtbClass : Archive RemoveHtbClassMsg :=
  (prod uint32 (prod uint16 (prod string bool))).ofFields
    (fun m => (m.mark, m.minorId, m.interfaceName, m.isRoot))
    (fun x => ⟨x.2.2.1, x.1, x.2.1, x.2.2.2⟩) fun _ => rfl

/-- The fields of a `WIPLinkMsg`. -/
abbrev IPLinkFields :=
  UInt8 × Option SetupHtbClassMsg × Option RemoveHtbClassMsg × Option (List Endpoint)

/-- The message with the pointer of its type set. -/
def ofIPLinkMsg : IPLinkMsg → IPLinkFields
  | .exit => (0, none, none, none)
  | .setupHtbClass msg => (1, some msg, none, none)
  | .removeHtbClass msg => (2, none, some msg, none)
  | .lookupEndpoints endpoints => (3, none, none, some endpoints)

/-- The cases of `ProcessMessage`: a message without the pointer of its type is none. -/
def toIPLinkMsg (x : IPLinkFields) : Option IPLinkMsg :=
  if x.1 = 0 then some .exit
  else if x.1 = 1 then x.2.1.map .setupHtbClass
  else if x.1 = 2 then x.2.2.1.map .removeHtbClass
  else if x.1 = 3 then x.2.2.2.map .lookupEndpoints
  else none

def ipLinkFields : Archive IPLinkFields :=
  prod uint8 (prod (pointer setupHtbClass) (prod (pointer removeHtbClass)
    (pointer (list endpoint))))

/-- `WIPLinkMsg::serialize`. -/
def ipLinkMsg : Archive IPLinkMsg :=
  ipLinkFields.through ofIPLinkMsg toIPLinkMsg (fun m => ipLinkFields.Fits (ofIPLinkMsg m))
    fun m h => ⟨h, by cases m <;> rfl⟩

end Wire

/-! ## Messages -/

/-- A payload, with the way in which it is saved. -/
structure Payload where
  α : Type
  type : MessageType
  archive : Archive α
  data : α

namespace Message

/-- The type of a message and what `SerializeMessage` is called with. -/
def payload : Message → Payload
  | .trafficTree root => ⟨_, .trafficTree, Wire.systemItem, root⟩
  | .trafficTreeUpdate updates => ⟨_, .trafficTreeUpdate, Wire.trafficTreeUpdates, updates⟩
  | .appIconAtlasData data => ⟨_, .appIconAtlasData, Wire.appIconAtlasData, data⟩
  | .ruleUpdate update => ⟨_, .ruleUpdate, Wire.ruleUpdate, update⟩
  | .handshake data => ⟨_, .handshake, Wire.handshake, data⟩
  | .connectionHistory update => ⟨_, .connectionHistory, Wire.connectionHistoryUpdate, update⟩
  | .connectionHistoryUpdate update =>
    ⟨_, .connectionHistoryUpdate, Wire.connectionHistoryUpdate, update⟩
  | .memoryStats stats => ⟨_, .memoryStats, Wire.memoryStats, stats⟩
  | .updateIP2AsnDb => ⟨_, .updateIP2AsnDb, Archive.unit, ()⟩
  | .resolveRequest request => ⟨_, .resolveRequest, Wire.resolveRequest, request⟩
  | .resolveResponse response => ⟨_, .resolveResponse, Wire.resolveResponse, response⟩
  | .statsRequest request => ⟨_, .statsRequest, Wire.statsRequest, request⟩
  | .statsResponse response => ⟨_, .statsResponse, Wire.statsResponse, response⟩
  | .historyRequest request => ⟨_, .historyRequest, Wire.historyRequest, request⟩
  | .historyResponse response => ⟨_, .historyResponse, Wire.historyResponse, response⟩
  | .ipLookupRequest request => ⟨_, .ipLookupRequest, Wire.ipLookupRequest, request⟩
  | .ipLookupResponse result => ⟨_, .ipLookupResponse, Wire.lookupResult, result⟩
  | .daemonConfig config => ⟨_, .daemonConfig, Wire.daemonConfig, config⟩
  | .daemonLog log => ⟨_, .daemonLog, Wire.daemonLog, log⟩

/-- The message as a frame. -/
def serialize (m : Message) : List Byte :=
  serializeMessage m.payload.type m.payload.archive m.payload.data

/-- The message of a type, from a frame of that type. -/
def deserialize (frame : List Byte) : MessageType → Option Message
  | .trafficTree => (deserializeMessage Wire.systemItem frame).map .trafficTree
  | .trafficTreeUpdate => (deserializeMessage Wire.trafficTreeUpdates frame).map .trafficTreeUpdate
  | .appIconAtlasData => (deserializeMessage Wire.appIconAtlasData frame).map .appIconAtlasData
  | .ruleUpdate => (deserializeMessage Wire.ruleUpdate frame).map .ruleUpdate
  | .handshake => (deserializeMessage Wire.handshake frame).map .handshake
  | .connectionHistory => (deserializeMessage Wire.connectionHistoryUpdate frame).map .connectionHistory
  | .connectionHistoryUpdate =>
    (deserializeMessage Wire.connectionHistoryUpdate frame).map .connectionHistoryUpdate
  | .memoryStats => (deserializeMessage Wire.memoryStats frame).map .memoryStats
  | .updateIP2AsnDb => some .updateIP2AsnDb
  | .resolveRequest => (deserializeMessage Wire.resolveRequest frame).map .resolveRequest
  | .resolveResponse => (deserializeMessage Wire.resolveResponse frame).map .resolveResponse
  | .statsRequest => (deserializeMessage Wire.statsRequest frame).map .statsRequest
  | .statsResponse => (deserializeMessage Wire.statsResponse frame).map .statsResponse
  | .historyRequest => (deserializeMessage Wire.historyRequest frame).map .historyRequest
  | .historyResponse => (deserializeMessage Wire.historyResponse frame).map .historyResponse
  | .ipLookupRequest => (deserializeMessage Wire.ipLookupRequest frame).map .ipLookupRequest
  | .ipLookupResponse => (deserializeMessage Wire.lookupResult frame).map .ipLookupResponse
  | .daemonConfig => (deserializeMessage Wire.daemonConfig frame).map .daemonConfig
  | .daemonLog => (deserializeMessage Wire.daemonLog frame).map .daemonLog
  | .count => none

/-- What a receiver makes of a frame: the cases of `WDaemonClient::OnDataReceived` and of
`WClient::OnDataReceived`, of which each has those of the messages that come from the other side. -/
def receive (frame : List Byte) : Option Message :=
  (readMessageType frame).bind (deserialize frame)

/-- What arrives of a message: the marks of a rule are not sent. -/
def received : Message → Message
  | ruleUpdate update => ruleUpdate { update with rules := update.rules.received }
  | message => message

/-- What the message has can be sent: numbers fit their types, strings and vectors have sizes below
`2 ^ 64`, and no enumerator is among the other numbers. -/
def Fits (m : Message) : Prop := m.received.payload.archive.Fits m.received.payload.data

theorem serialize_received (m : Message) : m.received.serialize = m.serialize := by
  cases m <;> rfl

/-- The receiver loads with the archive that the sender saved with. -/
theorem deserialize_payload (m : Message) : ∃ make : m.payload.α → Message,
    make m.payload.data = m ∧ ∀ frame : List Byte, deserialize frame m.payload.type =
      (deserializeMessage m.payload.archive frame).map make := by
  cases m with
  | updateIP2AsnDb => exact ⟨fun _ => .updateIP2AsnDb, rfl, fun _ => rfl⟩
  | _ => exact ⟨_, rfl, fun _ => rfl⟩

/-- **Every message is received as it was sent**, but for the marks of a rule, whatever is behind it
in the buffer. -/
theorem receive_serialize {m : Message} (h : m.Fits) (rest : List Byte) :
    receive (m.serialize ++ rest) = some m.received := by
  rw [← serialize_received]
  obtain ⟨make, hmake, hload⟩ := deserialize_payload m.received
  have htype : readMessageType (m.received.serialize ++ rest) = some m.received.payload.type :=
    readMessageType_serialize _ _ rest
  rw [receive, htype, Option.bind_some, hload, serialize, deserialize_serialize _ _ h,
    Option.map_some, hmake]

theorem ruleUpdate_fits {update : RuleUpdate} (hupload : Binary64.Fits update.rules.uploadLimit)
    (hdownload : Binary64.Fits update.rules.downloadLimit) (hitem : update.trafficItemId < 2 ^ 64)
    (happ : update.parentAppId < 2 ^ 64) : (ruleUpdate update).Fits :=
  ⟨⟨⟨trivial, trivial, hupload, hdownload, trivial⟩, rfl⟩, hitem, happ⟩

/-- **A message that is cut off is never taken for one.** -/
theorem receive_cut {m : Message} (h : m.Fits) {part : List Byte} (hpart : part <+: m.serialize)
    (hcut : part ≠ m.serialize) : receive part = none := by
  rw [← serialize_received] at hpart hcut
  obtain ⟨make, -, hload⟩ := deserialize_payload m.received
  obtain htype | ⟨htype, hnone⟩ := deserialize_cut _ _ h hpart hcut
  · rw [receive, htype, Option.bind_none]
  · rw [receive, htype, Option.bind_some, hload, hnone, Option.map_none]

/-- **What a receiver makes of a frame** that begins with a message, or is cut off within it: the
message as it was sent, but for the marks of a rule, exactly when all of it is there, and nothing
otherwise. -/
theorem receive_part {m : Message} (h : m.Fits) {rest part : List Byte}
    (hpart : part <+: m.serialize ++ rest) :
    (m.serialize <+: part → receive part = some m.received) ∧
      (¬m.serialize <+: part → receive part = none) := by
  constructor
  · rintro ⟨behind, rfl⟩
    exact receive_serialize h behind
  · intro hmissing
    obtain hcut | hwhole := List.prefix_or_prefix_of_prefix hpart (List.prefix_append _ _)
    · refine receive_cut h hcut fun heq => hmissing ?_
      rw [heq]
    · exact absurd hwhole hmissing

/-- A limit of half a byte per second, with the mark of its class. -/
def limitUpdate : RuleUpdate where
  rules := { uploadSwitch := .allow, uploadMark := 0x10001, uploadLimit := 1 / 2 }
  trafficItemId := 7

theorem receive_limitUpdate : receive ((ruleUpdate limitUpdate).serialize ++ [1, 2]) =
    some (ruleUpdate { rules := { uploadSwitch := .allow, uploadLimit := 1 / 2 },
                       trafficItemId := 7 }) :=
  (receive_part (ruleUpdate_fits (by decide +kernel) (by decide +kernel) (by decide)
    (by decide)) (List.prefix_refl _)).1 (List.prefix_append _ [1, 2])

end Message

end Waechter
