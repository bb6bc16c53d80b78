import Waechter.Daemon.SystemMap
import Waechter.Daemon.PacketParser

/-!
# Socket and traffic events

`WSocketCounter::ProcessSocketEvent` (`Daemon/Data/Counters.cpp`), the traffic pushes and
`MarkSocketForRemoval` of `WSystemMap` (`Daemon/Data/SystemMap.hpp`, `SystemMap.cpp`), and the
dispatch of one event in `WWaechterEbpf::UpdateData` (`Daemon/EBPF/WaechterEbpf.cpp`).
-/

namespace Waechter

open Lib

def AF_INET : UInt32 := 2
def AF_INET6 : UInt32 := 10
def SOCK_STREAM : UInt32 := 1
def SOCK_DGRAM : UInt32 := 2

/-- The local endpoint of a packet. -/
def PacketHeader.local (d : PacketDirection) (p : PacketHeader) : Endpoint :=
  match d with
  | .outgoing => p.src
  | .incoming => p.dst

/-- The remote endpoint of a packet. -/
def PacketHeader.remote (d : PacketDirection) (p : PacketHeader) : Endpoint :=
  match d with
  | .outgoing => p.dst
  | .incoming => p.src

/-- `ENetEventType` with the data of the event. -/
inductive NetEvent where
  | socketCreate (protocol family : UInt32)
  | socketConnect4 (protocol userPort addr4 : UInt32)
  | socketConnect6 (protocol userPort : UInt32) (addr6 : Vector UInt32 4)
  | socketBind4 (userPort : UInt32) (implicitBind : Bool) (addr4 : UInt32)
  | socketBind6 (userPort : UInt32) (implicitBind : Bool) (addr6 : Vector UInt32 4)
  | tcpSocketEstablished4 (userPort remotePort : UInt32) (isAccept : Bool)
      (addr4 remoteAddr4 : UInt32)
  | tcpSocketEstablished6 (userPort remotePort : UInt32) (isAccept : Bool)
      (addr6 remoteAddr6 : Vector UInt32 4)
  | tcpSocketListening
  | socketAccept4 (sourcePort destinationPort type sourceAddr4 destinationAddr4 : UInt32)
  | socketAccept6 (sourcePort destinationPort type : UInt32)
      (sourceAddr6 destinationAddr6 : Vector UInt32 4)
  | socketClosed (localPort : UInt32)
  /-- The raw data is what `ParsePacket` makes of it. -/
  | traffic (direction : PacketDirection) (bytes : WBytes) (header : Option PacketHeader)

/-- `WSocketEvent`. -/
structure SocketEvent where
  cookie : SocketCookie
  pid : ProcessId
  data : NetEvent

namespace NetEvent

def isEstablished : NetEvent → Bool
  | .tcpSocketEstablished4 .. => true
  | .tcpSocketEstablished6 .. => true
  | _ => false

def isAccept : NetEvent → Bool
  | .socketAccept4 .. => true
  | .socketAccept6 .. => true
  | _ => false

/-- The events for which a missing socket is not worth a warning. -/
def silentFail : NetEvent → Bool
  | .traffic .. => true
  | .socketClosed _ => true
  | e => e.isEstablished

/-- The events that signal `OnSocketConnected`. -/
def signalsConnected : NetEvent → Bool
  | .tcpSocketEstablished4 .. => true
  | .tcpSocketEstablished6 .. => true
  | .socketBind4 .. => true
  | .socketBind6 .. => true
  | .socketAccept4 .. => true
  | .socketAccept6 .. => true
  | _ => false

/-- `static_cast<EIPFamily>` of the family of a created socket: other families leave it alone. -/
def createdFamily (family : UInt32) (old : IPFamily) : IPFamily :=
  if family = AF_INET then .ipv4 else if family = AF_INET6 then .ipv6 else old

/-- The branches of `ProcessSocketEvent` for `connect`: nothing happens while the socket is
connecting already. -/
def connect (protocol userPort : UInt32) (address : IPAddress → IPAddress) (item : SocketItem) :
    SocketItem :=
  if item.connectionState = .connecting then item
  else
    { item with
      connectionState := .connecting
      socketType := item.socketType ||| SocketType.connect
      socketTuple := { item.socketTuple with
        protocol := .ofNumber protocol
        remoteEndpoint :=
          { address := address item.socketTuple.remoteEndpoint.address
            port := userPort.toUInt16 } } }

/-- The branches for `bind`. -/
def bind (userPort : UInt32) (implicitBind : Bool) (address : IPAddress → IPAddress)
    (item : SocketItem) : SocketItem :=
  { item with
    connectionState := .connected
    socketType :=
      if implicitBind then item.socketType ||| SocketType.connect
      else if item.socketTuple.protocol = .udp then item.socketType ||| SocketType.listen
      else item.socketType
    socketTuple := { item.socketTuple with
      localEndpoint :=
        { address := address item.socketTuple.localEndpoint.address
          port := userPort.toUInt16 } } }

/-- The branches for an established TCP connection. -/
def established (userPort remotePort : UInt32) (isAccept : Bool)
    (address remoteAddress : IPAddress → IPAddress) (item : SocketItem) : SocketItem :=
  { item with
    connectionState := .connected
    socketType := if isAccept then SocketType.accept else item.socketType
    socketTuple :=
      { localEndpoint :=
          { address := address item.socketTuple.localEndpoint.address
            port := userPort.toUInt16 }
        remoteEndpoint :=
          { address := remoteAddress item.socketTuple.remoteEndpoint.address
            port := remotePort.toUInt16 }
        protocol := .tcp } }

/-- The branches for `accept`. -/
def accept (sourcePort destinationPort type : UInt32) (source destination : IPAddress → IPAddress)
    (item : SocketItem) : SocketItem :=
  { item with
    connectionState := .connected
    socketType :=
      if type = SOCK_STREAM then SocketType.accept
      else if type = SOCK_DGRAM then item.socketType ||| SocketType.accept
      else item.socketType
    socketTuple :=
      { localEndpoint :=
          { address := source item.socketTuple.localEndpoint.address
            port := sourcePort.toUInt16 }
        remoteEndpoint :=
          { address := destination item.socketTuple.remoteEndpoint.address
            port := destinationPort.toUInt16 }
        protocol :=
          if type = SOCK_STREAM then .tcp
          else if type = SOCK_DGRAM then .udp
          else item.socketTuple.protocol } }

/-- What `ProcessSocketEvent` does to the item of the socket. -/
def apply : NetEvent → SocketItem → SocketItem
  | .socketCreate protocol family, item =>
    { item with
      connectionState := .created
      socketTuple := { item.socketTuple with
        protocol := .ofNumber protocol
        localEndpoint := { item.socketTuple.localEndpoint with
          address := { item.socketTuple.localEndpoint.address with
            family := createdFamily family item.socketTuple.localEndpoint.address.family } } } }
  | .socketConnect4 protocol userPort addr4, item =>
    connect protocol userPort (·.fromIPv4Uint32 addr4) item
  | .socketConnect6 protocol userPort addr6, item =>
    connect protocol userPort (fun _ => .fromIPv6Array addr6) item
  | .socketBind4 userPort implicitBind addr4, item =>
    -- an implicit bind may report no address; the one that is known then stays
    bind userPort implicitBind (fun a => if addr4 = 0 then a else a.fromIPv4Uint32 addr4) item
  | .socketBind6 userPort implicitBind addr6, item =>
    bind userPort implicitBind (fun _ => .fromIPv6Array addr6) item
  | .tcpSocketEstablished4 userPort remotePort isAccept addr4 remoteAddr4, item =>
    established userPort remotePort isAccept (·.fromIPv4Uint32 addr4)
      (·.fromIPv4Uint32 remoteAddr4) item
  | .tcpSocketEstablished6 userPort remotePort isAccept addr6 remoteAddr6, item =>
    established userPort remotePort isAccept (fun _ => .fromIPv6Array addr6)
      (fun _ => .fromIPv6Array remoteAddr6) item
  | .tcpSocketListening, item =>
    { item with
      connectionState := .connected
      socketType := item.socketType ||| SocketType.listen }
  | .socketAccept4 sourcePort destinationPort type sourceAddr4 destinationAddr4, item =>
    accept sourcePort destinationPort type (·.fromIPv4Uint32 sourceAddr4)
      (·.fromIPv4Uint32 destinationAddr4) item
  | .socketAccept6 sourcePort destinationPort type sourceAddr6 destinationAddr6, item =>
    accept sourcePort destinationPort type (fun _ => .fromIPv6Array sourceAddr6)
      (fun _ => .fromIPv6Array destinationAddr6) item
  | .socketClosed _, item => item
  | .traffic .., item => item

end NetEvent

/-- `WSocketItem::operator==`. -/
def SocketItem.same (a b : SocketItem) : Bool :=
  a.socketTuple = b.socketTuple && a.socketType = b.socketType &&
    a.connectionState = b.connectionState && a.cookie = b.cookie

/-- The state change recorded for a socket. -/
def SocketItem.stateChange (item : SocketItem) : TrafficTreeSocketStateChange :=
  { itemId := item.itemId
    newState := item.connectionState
    socketType := item.socketType
    socketTuple := some item.socketTuple }

namespace SystemMap

variable {σ : Type} (h : Handler σ)

/-- `ProcessSocketEvent`. -/
def processSocketEvent (event : NetEvent) (socket : Ref) (s : SystemMap σ) : SystemMap σ :=
  let old := (s.socket socket).trafficItem
  let s := modify (·.editSocket socket event.apply) s
  let s := if event.signalsConnected then notify h (.onSocketConnected socket) s else s
  let new := (s.socket socket).trafficItem
  if old.same new then s else addStateChange new.stateChange s

/-! ## Traffic -/

/-- `PushIncomingTraffic` or `PushOutgoingTraffic`. -/
def pushCall (d : PacketDirection) (bytes : WBytes) : CounterCall :=
  match d with
  | .incoming => .pushIncomingTraffic bytes
  | .outgoing => .pushOutgoingTraffic bytes

/-- The loop over the filters: every filter that takes the remote address gets the bytes. -/
def pushFilters (d : PacketDirection) (bytes : WBytes) (remote : Endpoint) (s : SystemMap σ) :
    SystemMap σ :=
  (List.range s.filterCounters.length).foldl (fun s i =>
    if (s.filterCounters[i]?).any fun f => f.filterFunction remote.address then
      call h (.filter i) (pushCall d bytes) s
    else s) s

/-- `PushTrafficForSocket`. -/
def pushTrafficForSocket (d : PacketDirection) (bytes : WBytes) (socket : Ref) (s : SystemMap σ) :
    SystemMap σ :=
  let process := (s.socket socket).parentProcess
  let app := (s.process process).parentApp
  let remote := (s.socket socket).trafficItem.socketTuple.remoteEndpoint
  let s := call h (.socket socket) (pushCall d bytes) s
  let s := call h (.process process) (pushCall d bytes) s
  let s := call h (.app app) (pushCall d bytes) s
  let s := pushFilters h d bytes remote s
  modify (·.editSocket socket fun item => { item with connectionState := .connected }) s

/-- `WSocketItem::HaveUDPTuple`. -/
def haveUDPTuple (endpoint : Endpoint) (item : SocketItem) (t : CounterTree) : Bool :=
  item.udpPerConnectionTraffic.any fun u => (t.tuple u).trafficItem.endpoint = endpoint

/-- `GetOrCreateUDPTupleCounter`. -/
def getOrCreateUDPTupleCounter (now : Msec) (socket : Ref) (endpoint : Endpoint)
    (s : SystemMap σ) : Ref × SystemMap σ :=
  match (s.socket socket).udpPerConnectionCounters.lookup endpoint with
  | some u => (u, s)
  | none =>
    (s.nextItemId, notify h (.onUDPTupleCreated s.nextItemId)
      (modify (·.addTuple now socket endpoint) s))

/-- What the daemon reads from outside when it handles traffic. -/
structure TrafficEnv extends MapEnv where
  /-- `WSocketStateParser::GetEndpointPID`. -/
  endpointPID : Endpoint → ProcessId
  /-- `WSocketStateParser::DetermineSocketType`. -/
  determineSocketType : Endpoint → Protocol → Endpoint → SocketType

/-- The part of `DoPacketParsing` that completes the item of the socket from a packet, and whether
it changed. -/
def applyPacketHeader (env : TrafficEnv) (d : PacketDirection) (header : PacketHeader)
    (item : SocketItem) : SocketItem × Bool :=
  let haveLocalEndpoint := !item.socketTuple.localEndpoint.address.isZero
  let haveRemoteEndpoint := !item.socketTuple.remoteEndpoint.address.isZero
  let local' := if haveLocalEndpoint then item.socketTuple.localEndpoint else header.local d
  -- a UDP socket only has a remote endpoint when it connects to one
  let remote' := if haveRemoteEndpoint ∨ header.l4Proto = .udp then item.socketTuple.remoteEndpoint
    else header.remote d
  let type' := if item.socketType ≠ SocketType.unknown then item.socketType
    else if header.l4Proto = .icmp ∨ header.l4Proto = .icmpv6 then SocketType.connect
    else env.determineSocketType local' header.l4Proto (header.remote d)
  ({ item with
     socketTuple :=
      { localEndpoint := local', remoteEndpoint := remote', protocol := header.l4Proto }
     socketType := type' },
   local' ≠ item.socketTuple.localEndpoint || remote' ≠ item.socketTuple.remoteEndpoint ||
     type' ≠ item.socketType)

/-- The part of `DoPacketParsing` that counts a datagram for the tuple of its remote endpoint. -/
def pushTuple (now : Msec) (d : PacketDirection) (bytes : WBytes) (remote : Endpoint)
    (socket : Ref) (s : SystemMap σ) : SystemMap σ :=
  let tupleExists := haveUDPTuple remote (s.socket socket).trafficItem s.toCounterTree
  let tuple := getOrCreateUDPTupleCounter h now socket remote s
  let s := call h (.tuple tuple.1) (pushCall d bytes) tuple.2
  let s := pushFilters h d bytes remote s
  if tupleExists then s else addTupleAddition remote tuple.1 s

/-- `DoPacketParsing`. -/
def doPacketParsing (env : TrafficEnv) (d : PacketDirection) (bytes : WBytes)
    (header : Option PacketHeader) (socket : Ref) (s : SystemMap σ) : SystemMap σ :=
  let tuple := (s.socket socket).trafficItem.socketTuple
  if !tuple.localEndpoint.address.isZero ∧ !tuple.remoteEndpoint.address.isZero ∧
      tuple.protocol = .tcp then s
  else match header with
    | none => s
    | some header =>
      let applied := applyPacketHeader env d header (s.socket socket).trafficItem
      let s := modify (·.editSocket socket fun _ => applied.1) s
      let s := if header.l4Proto = .udp ∧ !(header.remote d).address.isZero then
          pushTuple h env.now d bytes (header.remote d) socket s
        else s
      if applied.2 then addStateChange (s.socket socket).trafficItem.stateChange s else s

/-- `MapSocketFromTrafficEvent`. -/
def mapSocketFromTrafficEvent (env : TrafficEnv) (cookie : SocketCookie) (d : PacketDirection)
    (header : Option PacketHeader) (s : SystemMap σ) : Option Ref × SystemMap σ :=
  match header with
  | none => (none, s)
  | some header =>
    let localEndpoint := header.local d
    let pid := env.endpointPID localEndpoint
    if pid ≤ 0 then (none, s)
    else
      let socket := mapSocket h env.toMapEnv cookie false pid false s
      match socket.1 with
      | none => (none, socket.2)
      | some r =>
        (some r, modify (·.editSocket r fun item =>
          let tuple := item.socketTuple
          { item with socketTuple := { tuple with
              localEndpoint :=
                if tuple.localEndpoint.address.isZero ∨ tuple.localEndpoint.port = 0 then
                  localEndpoint
                else tuple.localEndpoint
              protocol := if tuple.protocol = .unknown then header.l4Proto
                else tuple.protocol } }) socket.2)

/-- `WSystemMap::PushIncomingTraffic`. -/
def pushIncomingTraffic (env : TrafficEnv) (cookie : SocketCookie) (bytes : WBytes)
    (header : Option PacketHeader) (s : SystemMap σ) : SystemMap σ :=
  let s := call h .system (.pushIncomingTraffic bytes) s
  match s.sockets.lookup cookie with
  | none => s
  | some r =>
    doPacketParsing h env .incoming bytes header r (pushTrafficForSocket h .incoming bytes r s)

/-- `WSystemMap::PushOutgoingTraffic`: an unknown socket is mapped from the packet. -/
def pushOutgoingTraffic (env : TrafficEnv) (cookie : SocketCookie) (bytes : WBytes)
    (header : Option PacketHeader) (s : SystemMap σ) : SystemMap σ :=
  let s := call h .system (.pushOutgoingTraffic bytes) s
  let socket := match s.sockets.lookup cookie with
    | some r => (some r, s)
    | none => mapSocketFromTrafficEvent h env cookie .outgoing header s
  match socket.1 with
  | none => socket.2
  | some r =>
    doPacketParsing h env .outgoing bytes header r
      (pushTrafficForSocket h .outgoing bytes r socket.2)

/-! ## Close events -/

/-- Close one socket: mark it and force a state update of its parents. -/
def closeSocket (now : Msec) (socket : Ref) (s : SystemMap σ) : SystemMap σ :=
  let process := (s.socket socket).parentProcess
  let s := call h (.socket socket) (.markForRemoval now) s
  let s := modify (·.editSocket socket fun item => { item with connectionState := .closed }) s
  let s := markItemForRemoval (s.socket socket).trafficItem.itemId s
  let s := call h (.process process) (.pushIncomingTraffic 0) s
  let s := call h (.app (s.process process).parentApp) (.pushOutgoingTraffic 0) s
  call h .system (.pushIncomingTraffic 0) s

/-- The socket a close event with a local port closes besides its own: the first one found with
that local port. -/
def findByLocalPort (o : IterOrder) (localPort : UInt32) (t : CounterTree) : Option Ref :=
  (o.values t.sockets).find? fun r =>
    (t.socket r).trafficItem.socketTuple.localEndpoint.port.toUInt32 = localPort

/-- `MarkSocketForRemoval`. -/
def markSocketForRemoval (o : IterOrder) (now : Msec) (cookie : SocketCookie) (localPort : UInt32)
    (s : SystemMap σ) : SystemMap σ :=
  match s.sockets.lookup cookie with
  | none => s
  | some r =>
    let s := if 0 < localPort then
        match findByLocalPort o localPort s.toCounterTree with
        | some listen => closeSocket h now listen s
        | none => s
      else s
    closeSocket h now r s

/-! ## Dispatch -/

/-- One turn of the loop of `UpdateData`: the socket is mapped first, whatever the event. -/
def updateData (env : TrafficEnv) (event : SocketEvent) (s : SystemMap σ) : SystemMap σ :=
  let mapped := mapSocket h env.toMapEnv event.cookie event.data.isEstablished event.pid
    event.data.silentFail s
  match event.data with
  | .traffic .incoming bytes header => pushIncomingTraffic h env event.cookie bytes header mapped.2
  | .traffic .outgoing bytes header => pushOutgoingTraffic h env event.cookie bytes header mapped.2
  | .socketClosed localPort =>
    markSocketForRemoval h env.order env.now event.cookie localPort mapped.2
  | data =>
    match mapped.1 with
    | none => mapped.2
    | some r =>
      let s := mergeSyntheticSocket h env.order r (processSocketEvent h data r mapped.2)
      if data.isAccept then reparentAcceptedSocket h r s else s

end SystemMap

end Waechter
