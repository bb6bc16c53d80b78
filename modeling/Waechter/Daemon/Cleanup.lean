import Waechter.Daemon.SocketEvents

/-!
# The periodic refresh and cleanup

`RefreshAllTrafficCounters` and `Cleanup` of `WSystemMap` (`Daemon/Data/SystemMap.cpp`), and the
operations of the system map as one type.

The loops of `Cleanup` erase the entry they are at and no other entry of the map they run over, so
each is a fold over the entries the map has when the loop starts.
-/

namespace Waechter

open Lib

namespace CounterTree

/-- Erase an id from `TrafficItems`. -/
def eraseTrafficItem (i : TrafficItemId) (t : CounterTree) : CounterTree :=
  { t with trafficItems := t.trafficItems.erase i }

/-- `UDPPerConnectionCounters.clear()`. -/
def clearTupleCounters (socket : Ref) : CounterTree → CounterTree :=
  modifySocket socket fun s => { s with udpPerConnectionCounters := ∅ }

/-- `UDPPerConnectionTraffic.clear()`. -/
def clearTupleItems (socket : Ref) : CounterTree → CounterTree :=
  editSocket socket fun item => { item with udpPerConnectionTraffic := [] }

/-- Erase a cookie from `Sockets`. -/
def eraseSocket (cookie : SocketCookie) (t : CounterTree) : CounterTree :=
  { t with sockets := t.sockets.erase cookie }

/-- Erase a cookie from the sockets of a process item. -/
def eraseProcessSocket (process : Ref) (cookie : SocketCookie) : CounterTree → CounterTree :=
  editProcess process fun p => { p with sockets := p.sockets.erase cookie }

/-- Erase a PID from the processes of an application item. -/
def eraseAppProcess (app : Ref) (pid : ProcessId) : CounterTree → CounterTree :=
  editApp app fun a => { a with processes := a.processes.erase pid }

/-- Erase a PID from `Processes`. -/
def eraseProcess (pid : ProcessId) (t : CounterTree) : CounterTree :=
  { t with processes := t.processes.erase pid }

/-- `WSocketItem::EraseTuple`, and the counter of the tuple. -/
def eraseTuple (socket : Ref) (endpoint : Endpoint) (t : CounterTree) : CounterTree :=
  t.modifySocket socket fun s =>
    { s with
      udpPerConnectionCounters := s.udpPerConnectionCounters.erase endpoint
      trafficItem := { s.trafficItem with
        udpPerConnectionTraffic := s.trafficItem.udpPerConnectionTraffic.filter fun u =>
          (t.tuple u).trafficItem.endpoint ≠ endpoint } }

/-- Erase an application from `SystemItem->Applications` and `Applications`. -/
def eraseApp (key : String) (t : CounterTree) : CounterTree :=
  let t := t.editSystemApplications (·.erase key)
  { t with applications := t.applications.erase key }

end CounterTree

namespace SystemMap

/-- What the daemon reads from outside on a tick. -/
structure TickEnv : Type 1 where
  order : IterOrder
  /-- The time a counter reads when it is refreshed. -/
  refreshTime : CounterId → Msec
  /-- The time a counter reads in `Cleanup`. -/
  cleanupTime : CounterId → Msec
  isProcessRunning : ProcessId → Bool
  /-- `WSocketStateParser::IsUsedPort` after `ParseData`. -/
  isUsedPort : UInt16 → Bool

variable {σ : Type} (h : Handler σ) (env : TickEnv)

/-! ## Refresh -/

/-- The loop over the filters. -/
def refreshFilter (s : SystemMap σ) (i : Nat) : SystemMap σ :=
  match s.filterCounters[i]? with
  | none => s
  | some f =>
    let s := notify h (.updateFilterStats i f.trafficItem.name f.recentDownload f.recentUpload) s
    call h (.filter i) (.refresh (env.refreshTime (.filter i))) s

/-- `WTupleCounter::Refresh`. -/
def refreshTuple (s : SystemMap σ) (u : Ref) : SystemMap σ :=
  let s := call h (.tuple u) (.refresh (env.refreshTime (.tuple u))) s
  if (s.tuple u).state ≠ .pendingRemoval ∧ 5 ≤ (s.tuple u).inactiveCounter then
    call h (.tuple u) (.markForRemoval (env.refreshTime (.tuple u))) s
  else s

/-- The loop over the sockets: the statistics read the recent bytes, then the counter is
refreshed. -/
def refreshSocket (s : SystemMap σ) (r : Ref) : SystemMap σ :=
  let socket := s.socket r
  let app := s.app (s.process socket.parentProcess).parentApp
  let s := notify h (.updateAppStats r app.trafficItem.itemId app.trafficItem.applicationPath
    socket.trafficItem.socketTuple.remoteEndpoint.address socket.recentDownload
    socket.recentUpload) s
  let s := call h (.socket r) (.refresh (env.refreshTime (.socket r))) s
  (env.order.values (s.socket r).udpPerConnectionCounters).foldl (refreshTuple h env) s

/-- The part of `RefreshAllTrafficCounters` before `Cleanup`. -/
def refreshCounters (s : SystemMap σ) : SystemMap σ :=
  let s := call h .system (.refresh (env.refreshTime .system)) s
  let s := (List.range s.filterCounters.length).foldl (refreshFilter h env) s
  let s := (env.order.values s.applications).foldl (fun s a =>
    call h (.app a) (.refresh (env.refreshTime (.app a))) s) s
  let s := (env.order.values s.processes).foldl (fun s p =>
    call h (.process p) (.refresh (env.refreshTime (.process p))) s) s
  (env.order.values s.sockets).foldl (refreshSocket h env) s

/-! ## Cleanup: processes -/

/-- A tuple of a socket whose process is removed. -/
def dropProcessTuple (s : SystemMap σ) (u : Ref) : SystemMap σ :=
  let itemId := (s.tuple u).trafficItem.itemId
  let s := modify (·.eraseTrafficItem itemId) s
  let s := addItemRemoval itemId s
  notify h (.onUDPTupleRemoved u) s

/-- A socket of a removed process that is still in `Sockets`, as `counter`. The endpoints to look
up are collected; the socket is orphaned when it was not closed. -/
def dropProcessCounter (r counter : Ref) (acc : List Endpoint × SystemMap σ) :
    List Endpoint × SystemMap σ :=
  let s := acc.2
  let item := (s.socket r).trafficItem
  let endpoint := item.socketTuple.localEndpoint
  let orphaned := item.connectionState ≠ .closed
  let s := if orphaned then modify (·.orphan endpoint counter) s else s
  let s := (env.order.values (s.socket counter).udpPerConnectionCounters).foldl
    (dropProcessTuple h) s
  let s := modify (·.clearTupleCounters counter) s
  let s := notify h (.onSocketRemoved counter) s
  (if orphaned then acc.1 ++ [endpoint] else acc.1, s)

/-- The loop over the sockets of a removed process. -/
def dropProcessSocket (acc : List Endpoint × SystemMap σ) (entry : SocketCookie × Ref) :
    List Endpoint × SystemMap σ :=
  let s := acc.2
  let itemId := (s.socket entry.2).trafficItem.itemId
  let s := modify (·.eraseTrafficItem itemId) s
  let s := addItemRemoval itemId s
  let acc := match s.sockets.lookup entry.1 with
    | some counter => dropProcessCounter h env entry.2 counter (acc.1, s)
    | none => (acc.1, s)
  let s := modify (·.clearTupleItems entry.2) acc.2
  (acc.1, modify (·.eraseSocket entry.1) s)

/-- The removal of a process that is due. -/
def removeProcess (pid : ProcessId) (p : Ref) (s : SystemMap σ) : SystemMap σ :=
  let app := (s.process p).parentApp
  let s := call h .system (.pushIncomingTraffic 0) s
  let s := call h (.app app) (.pushIncomingTraffic 0) s
  let dropped := (env.order.entries (s.process p).trafficItem.sockets).foldl
    (dropProcessSocket h env) ([], s)
  let s := notify h (.sendLookupMessage dropped.1) dropped.2
  let s := notify h (.onProcessRemoved p) s
  let s := modify (·.eraseAppProcess app pid) s
  let itemId := (s.process p).trafficItem.itemId
  let s := addItemRemoval itemId s
  let s := modify (·.eraseTrafficItem itemId) s
  modify (·.eraseProcess pid) s

/-- One turn of the loop over the processes. -/
def cleanupProcess (s : SystemMap σ) (entry : ProcessId × Ref) : SystemMap σ :=
  let p := entry.2
  let now := env.cleanupTime (.process p)
  let s := if !env.isProcessRunning entry.1 ∧ !(s.process p).isMarkedForRemoval then
      markItemForRemoval (s.process p).trafficItem.itemId
        (call h (.process p) (.markForRemoval now) s)
    else s
  if (s.process p).dueForRemoval now then removeProcess h env entry.1 p s else s

/-! ## Cleanup: sockets -/

/-- `IsStaleSocket`: a socket without traffic for 30 ticks that the close events missed. -/
def isStaleSocket (r : Ref) (t : CounterTree) : Bool :=
  let socket := t.socket r
  let item := socket.trafficItem
  if socket.isMarkedForRemoval ∨ socket.inactiveCounter < 30 then false
  else if item.socketType = SocketType.unknown ∨ item.connectionState = .unknown ∨
      item.socketTuple.protocol = .unknown then true
  else !env.isUsedPort item.socketTuple.localEndpoint.port ∧ item.socketTuple.protocol ≠ .icmp ∧
    item.socketTuple.protocol ≠ .icmpv6

/-- A tuple of a removed socket. -/
def dropSocketTuple (s : SystemMap σ) (u : Ref) : SystemMap σ :=
  let itemId := (s.tuple u).trafficItem.itemId
  addItemRemoval itemId (modify (·.eraseTrafficItem itemId) s)

/-- The removal of a socket that is due. -/
def removeSocket (cookie : SocketCookie) (r : Ref) (s : SystemMap σ) : SystemMap σ :=
  let s := notify h (.onSocketRemoved r) s
  let tuples := env.order.values (s.socket r).udpPerConnectionCounters
  let s := tuples.foldl (fun s u => notify h (.onUDPTupleRemoved u) s) s
  let s := modify (·.eraseProcessSocket (s.socket r).parentProcess cookie) s
  let itemId := (s.socket r).trafficItem.itemId
  let s := modify (·.eraseTrafficItem itemId) s
  let s := addItemRemoval itemId s
  let s := tuples.foldl dropSocketTuple s
  let s := modify (·.clearTupleCounters r) s
  let s := modify (·.clearTupleItems r) s
  modify (·.eraseSocket cookie) s

/-- The loop over the tuples of a socket that stays. -/
def cleanupTuple (r : Ref) (s : SystemMap σ) (entry : Endpoint × Ref) : SystemMap σ :=
  let u := entry.2
  if (s.tuple u).dueForRemoval (env.cleanupTime (.tuple u)) then
    let s := notify h (.onUDPTupleRemoved u) s
    let itemId := (s.tuple u).trafficItem.itemId
    let s := modify (·.eraseTrafficItem itemId) s
    let s := addItemRemoval itemId s
    modify (·.eraseTuple r entry.1) s
  else s

/-- One turn of the loop over the sockets. A stale socket is marked, and then the loop comes to it
again, where it is neither due nor stale. -/
def cleanupSocket (s : SystemMap σ) (entry : SocketCookie × Ref) : SystemMap σ :=
  let r := entry.2
  let now := env.cleanupTime (.socket r)
  if (s.socket r).dueForRemoval now then removeSocket h env entry.1 r s
  else
    let s := if isStaleSocket env r s.toCounterTree then call h (.socket r) (.markForRemoval now) s
      else s
    (env.order.entries (s.socket r).udpPerConnectionCounters).foldl (cleanupTuple h env r) s

/-! ## Cleanup: applications -/

/-- One turn of the loop over the applications. -/
def cleanupApp (s : SystemMap σ) (entry : String × Ref) : SystemMap σ :=
  let item := (s.app entry.2).trafficItem
  if item.processes.entries.isEmpty then
    let s := addItemRemoval item.itemId s
    let s := modify (·.eraseTrafficItem item.itemId) s
    modify (·.eraseApp entry.1) s
  else s

/-- `Cleanup`. -/
def cleanup (s : SystemMap σ) : SystemMap σ :=
  let s := (env.order.entries s.processes).foldl (cleanupProcess h env) s
  let s := (env.order.entries s.sockets).foldl (cleanupSocket h env) s
  (env.order.entries s.applications).foldl cleanupApp s

/-- `RefreshAllTrafficCounters`. -/
def refreshAllTrafficCounters (s : SystemMap σ) : SystemMap σ :=
  cleanup h env (refreshCounters h env s)

end SystemMap

/-! ## Operations -/

/-- An operation of the system map, with what it reads from outside. -/
inductive SystemMapOp : Type 1 where
  | mapSocket (env : SystemMap.MapEnv) (cookie : SocketCookie) (established : Bool)
      (pid : ProcessId) (silentFail : Bool)
  | mapSocketFromTrafficEvent (env : SystemMap.TrafficEnv) (cookie : SocketCookie)
      (d : PacketDirection) (header : Option PacketHeader)
  | addExistingSockets (env : SystemMap.MapEnv) (isProcessRunning : ProcessId → Bool)
      (listeningSockets : List SystemMap.ListenSocketInfo)
  | processInitialApps (o : IterOrder)
  | processSocketEvent (event : NetEvent) (socket : Ref)
  | mergeSyntheticSocket (o : IterOrder) (socket : Ref)
  | markSocketForRemoval (o : IterOrder) (now : Msec) (cookie : SocketCookie) (localPort : UInt32)
  | reparentAcceptedSocket (socket : Ref)
  | reparentOrphanedSocket (now : Msec) (endpoint : Endpoint) (newParentProcess : ProcessId)
  | pushIncomingTraffic (env : SystemMap.TrafficEnv) (cookie : SocketCookie) (bytes : WBytes)
      (header : Option PacketHeader)
  | pushOutgoingTraffic (env : SystemMap.TrafficEnv) (cookie : SocketCookie) (bytes : WBytes)
      (header : Option PacketHeader)
  | refreshAllTrafficCounters (env : SystemMap.TickEnv)
  | takeItemId

namespace SystemMap

variable {σ : Type} (h : Handler σ)

/-- The reference is a socket that `FindOrMapSocket` made: the pointers a caller can hold. -/
def isSocket (r : Ref) (t : CounterTree) : Bool := r ≠ 0 ∧ (t.socket r).trafficItem.itemId = r

/-- Perform an operation. An operation on a socket gets a pointer that `MapSocket` returned. -/
def step (s : SystemMap σ) : SystemMapOp → SystemMap σ
  | .mapSocket env cookie established pid silentFail =>
    (mapSocket h env cookie established pid silentFail s).2
  | .mapSocketFromTrafficEvent env cookie d header =>
    (mapSocketFromTrafficEvent h env cookie d header s).2
  | .addExistingSockets env isProcessRunning listeningSockets =>
    addExistingSockets h env isProcessRunning listeningSockets s
  | .processInitialApps o => processInitialApps h o s
  | .processSocketEvent event r =>
    if isSocket r s.toCounterTree then processSocketEvent h event r s else s
  | .mergeSyntheticSocket o r =>
    if isSocket r s.toCounterTree then mergeSyntheticSocket h o r s else s
  | .markSocketForRemoval o now cookie localPort => markSocketForRemoval h o now cookie localPort s
  | .reparentAcceptedSocket r =>
    if isSocket r s.toCounterTree then reparentAcceptedSocket h r s else s
  | .reparentOrphanedSocket now endpoint pid => reparentOrphanedSocket h now endpoint pid s
  | .pushIncomingTraffic env cookie bytes header => pushIncomingTraffic h env cookie bytes header s
  | .pushOutgoingTraffic env cookie bytes header => pushOutgoingTraffic h env cookie bytes header s
  | .refreshAllTrafficCounters env => refreshAllTrafficCounters h env s
  | .takeItemId => takeItemId s

end SystemMap

end Waechter
