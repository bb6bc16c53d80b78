import Waechter.Daemon.AppKey
import Waechter.Daemon.MapUpdate

/-!
# The system map: state and mapping

`WSystemMap` (`Daemon/Data/SystemMap.hpp`, `SystemMap.cpp`): the maps of counters, the item tree,
the log of changes for the clients, and the operations that map a socket and its parents.

What the daemon reads from outside (`/proc`, the clock, the packet parser, the table of used
ports) is an argument of the operation that reads it. The signals of `WNetworkEvents`, the calls
on `WStatsManager` and the messages to the helper process are `Notice`s: they are handled at once,
by a handler that sees the counters and keeps a state of its own. The calls on counters are
notices too, so a handler can follow what happens to each counter.
-/

namespace Waechter

open Lib

/-- A counter of the system map. -/
inductive CounterId where
  | system
  | filter (index : Nat)
  | app (r : Ref)
  | process (r : Ref)
  | socket (r : Ref)
  | tuple (r : Ref)
  deriving DecidableEq

/-- What the system map tells the rest of the daemon. -/
inductive Notice where
  | onSocketConnected (socket : Ref)
  | onUDPTupleCreated (tuple : Ref)
  | onUDPTupleRemoved (tuple : Ref)
  | onSocketRemoved (socket : Ref)
  | onProcessRemoved (process : Ref)
  | onProcessCreated (process : Ref)
  | onAppFirstTimeConnected (app : Ref)
  | sendLookupMessage (endpoints : List Endpoint)
  | updateFilterStats (filter : Nat) (name : String) (download upload : WBytes)
  /-- `UpdateAppStats`, and the socket whose bytes it passes. -/
  | updateAppStats (socket : Ref) (itemId : TrafficItemId) (path : String) (address : IPAddress)
      (download upload : WBytes)
  | call (counter : CounterId) (call : CounterCall)
  deriving DecidableEq

/-- What handles the notices. -/
abbrev Handler (σ : Type) := Notice → CounterTree → σ → σ

/-- `WSystemMap`, with the state of the handlers. -/
structure SystemMap (σ : Type) extends CounterTree where
  mapUpdate : MapUpdate := {}
  /-- `WDaemonSocket::HasClients`. -/
  hasClients : Bool := false
  listeners : σ

/-! ## Changing one counter -/

namespace CounterTree

def modifyApp (r : Ref) (f : AppCounter → AppCounter) (t : CounterTree) : CounterTree :=
  { t with app := Function.update t.app r (f (t.app r)) }

def modifyProcess (r : Ref) (f : ProcessCounter → ProcessCounter) (t : CounterTree) :
    CounterTree :=
  { t with process := Function.update t.process r (f (t.process r)) }

def modifySocket (r : Ref) (f : SocketCounter → SocketCounter) (t : CounterTree) : CounterTree :=
  { t with socket := Function.update t.socket r (f (t.socket r)) }

def modifyTuple (r : Ref) (f : TupleCounter → TupleCounter) (t : CounterTree) : CounterTree :=
  { t with tuple := Function.update t.tuple r (f (t.tuple r)) }

/-- Change the item of an application. -/
def editApp (r : Ref) (f : ApplicationItem → ApplicationItem) : CounterTree → CounterTree :=
  modifyApp r fun a => { a with trafficItem := f a.trafficItem }

/-- Change the item of a process. -/
def editProcess (r : Ref) (f : ProcessItem → ProcessItem) : CounterTree → CounterTree :=
  modifyProcess r fun p => { p with trafficItem := f p.trafficItem }

/-- Change the item of a socket. -/
def editSocket (r : Ref) (f : SocketItem → SocketItem) : CounterTree → CounterTree :=
  modifySocket r fun s => { s with trafficItem := f s.trafficItem }

/-- Change `SystemItem->Applications`. -/
def editSystemApplications (f : UMap String Ref → UMap String Ref) (t : CounterTree) :
    CounterTree :=
  { t with systemCounter := { t.systemCounter with trafficItem :=
      { t.systemCounter.trafficItem with applications := f t.systemApplications } } }

/-- Perform a call on a counter. -/
def applyCall (who : CounterId) (c : CounterCall) (t : CounterTree) : CounterTree :=
  match who with
  | .system => { t with systemCounter := t.systemCounter.call c }
  | .filter i => { t with filterCounters := t.filterCounters.modify i fun f =>
      { f with toTrafficCounter := f.toTrafficCounter.call c } }
  | .app r => t.modifyApp r fun a => { a with toTrafficCounter := a.toTrafficCounter.call c }
  | .process r => t.modifyProcess r fun p =>
      { p with toTrafficCounter := p.toTrafficCounter.call c }
  | .socket r => t.modifySocket r fun s =>
      { s with toTrafficCounter := s.toTrafficCounter.call c }
  | .tuple r => t.modifyTuple r fun u => { u with toTrafficCounter := u.toTrafficCounter.call c }

/-! ## Adding items

A new item takes the next id, which is also its reference. -/

/-- The part of `GetOrCreateUDPTupleCounter` that creates the tuple. -/
def addTuple (now : Msec) (socket : Ref) (endpoint : Endpoint) (t : CounterTree) : CounterTree :=
  let u := t.nextItemId
  let item : TupleItem := { itemId := u, endpoint := endpoint }
  let t := t.modifySocket socket fun s =>
    { s with
      udpPerConnectionCounters := s.udpPerConnectionCounters.insert endpoint u
      trafficItem := { s.trafficItem with
        udpPerConnectionTraffic := s.trafficItem.udpPerConnectionTraffic ++ [u] } }
  { t with
    nextItemId := u + 1
    trafficItems := t.trafficItems.insert u .tuple
    tuple := Function.update t.tuple u
      { toTrafficCounter := .new now item, parentSocket := socket } }

/-- The part of `FindOrMapSocket` that creates the socket. -/
def addSocket (now : Msec) (cookie : SocketCookie) (process : Ref) (t : CounterTree) :
    CounterTree :=
  let r := t.nextItemId
  let item : SocketItem := { itemId := r, cookie := cookie }
  let t := t.editProcess process fun p => { p with sockets := p.sockets.insert cookie r }
  { t with
    nextItemId := r + 1
    sockets := t.sockets.insert cookie r
    trafficItems := t.trafficItems.insert r .socket
    socket := Function.update t.socket r
      { toTrafficCounter := .new now item, parentProcess := process } }

/-- The part of `FindOrMapProcess` that creates the process. -/
def addProcess (now : Msec) (pid : ProcessId) (app : Ref) (t : CounterTree) : CounterTree :=
  let r := t.nextItemId
  let item : ProcessItem := { itemId := r, processId := pid }
  let t := t.editApp app fun a => { a with processes := a.processes.insert pid r }
  { t with
    nextItemId := r + 1
    processes := t.processes.insert pid r
    trafficItems := t.trafficItems.insert r .process
    process := Function.update t.process r
      { toTrafficCounter := .new now item, parentApp := app } }

/-- Put an application into `Applications`, `SystemItem->Applications` and `TrafficItems`. -/
def registerApp (key : String) (app : Ref) (t : CounterTree) : CounterTree :=
  let t := t.editSystemApplications (·.insert key app)
  { t with
    applications := t.applications.insert key app
    trafficItems := t.trafficItems.insert app .application }

/-- The part of `FindOrMapApplication` that creates the application. -/
def addApp (now : Msec) (key commandLine appName : String) (t : CounterTree) : CounterTree :=
  let r := t.nextItemId
  let item : ApplicationItem :=
    { itemId := r
      applicationPath := key
      applicationCommandLine := commandLine
      applicationName := applicationDisplayName key appName }
  registerApp key r
    { t with
      nextItemId := r + 1
      app := Function.update t.app r { toTrafficCounter := .new now item } }

/-- The part of `FindOrMapApplication` that gives an application a resolved path as its key. -/
def upgradeApp (existingKey key commandLine appName : String) (app : Ref) (t : CounterTree) :
    CounterTree :=
  let t := t.editSystemApplications (·.erase existingKey)
  let t := { t with applications := t.applications.erase existingKey }
  let t := t.editApp app fun a =>
    { a with
      applicationPath := key
      applicationCommandLine := if commandLine = "" then a.applicationCommandLine else commandLine
      applicationName := if appName = "" then a.applicationName else appName }
  let t := t.editSystemApplications (·.insert key app)
  { t with applications := t.applications.insert key app }

/-! ## Moving and dropping a socket -/

/-- The part of `ReparentOrphanedSocket` that moves the socket. It is put into the process under
its item id and into `Sockets` under its cookie; `TrafficItems` does not get it back. -/
def attachSocket (socket process : Ref) (t : CounterTree) : CounterTree :=
  let item := (t.socket socket).trafficItem
  let t := t.modifySocket socket fun s => { s with parentProcess := process }
  let t := t.editProcess process fun p => { p with sockets := p.sockets.insert item.itemId socket }
  { t with sockets := t.sockets.insert item.cookie socket }

/-- Forget the orphan under an endpoint. -/
def forgetOrphan (endpoint : Endpoint) (t : CounterTree) : CounterTree :=
  { t with orphanedSockets := t.orphanedSockets.erase endpoint }

/-- Remember a socket whose owner is looked up under its local endpoint. -/
def orphan (endpoint : Endpoint) (socket : Ref) (t : CounterTree) : CounterTree :=
  { t with orphanedSockets := t.orphanedSockets.insert endpoint socket }

/-- The part of `MergeSyntheticSocket` that removes the synthetic socket. -/
def dropSynthetic (process : Ref) (existing : SocketCookie × Ref) (t : CounterTree) : CounterTree :=
  let itemId := (t.socket existing.2).trafficItem.itemId
  let t := t.editProcess process fun p => { p with sockets := p.sockets.erase existing.1 }
  { t with
    trafficItems := t.trafficItems.erase itemId
    sockets := t.sockets.erase existing.1 }

end CounterTree

namespace SystemMap

variable {σ : Type} (h : Handler σ)

/-! ## Notices and the log -/

/-- Tell the handlers. -/
def notify (n : Notice) (s : SystemMap σ) : SystemMap σ :=
  { s with listeners := h n s.toCounterTree s.listeners }

/-- Perform a call on a counter. -/
def call (who : CounterId) (c : CounterCall) (s : SystemMap σ) : SystemMap σ :=
  let s := notify h (.call who c) s
  { s with toCounterTree := s.applyCall who c }

/-- Change the counters and items. -/
def modify (f : CounterTree → CounterTree) (s : SystemMap σ) : SystemMap σ :=
  { s with toCounterTree := f s.toCounterTree }

/-- Record something for the clients; `f` is one of the recording functions. -/
def record (f : Bool → MapUpdate → MapUpdate) (s : SystemMap σ) : SystemMap σ :=
  { s with mapUpdate := f s.hasClients s.mapUpdate }

def markItemForRemoval (i : TrafficItemId) : SystemMap σ → SystemMap σ :=
  record fun track => MapUpdate.markItemForRemoval track i

def addItemRemoval (i : TrafficItemId) : SystemMap σ → SystemMap σ :=
  record fun track => MapUpdate.addItemRemoval track i

def addStateChange (change : TrafficTreeSocketStateChange) : SystemMap σ → SystemMap σ :=
  record fun track => MapUpdate.addStateChange track change

def addSocketAddition (socket : Ref) : SystemMap σ → SystemMap σ :=
  record fun track => MapUpdate.addSocketAddition track socket

def addTupleAddition (endpoint : Endpoint) (tuple : Ref) : SystemMap σ → SystemMap σ :=
  record fun track => MapUpdate.addTupleAddition track endpoint tuple

/-- `GetNextItemId` for a history entry: `WConnectionHistory` numbers its entries from the same
counter, after everything else the operation does. -/
def takeItemId : SystemMap σ → SystemMap σ :=
  modify fun t => { t with nextItemId := t.nextItemId + 1 }

/-! ## The constructor -/

/-- A filter of `RegisterDefaultFilters`. -/
def defaultFilter (now : Msec) (itemId : TrafficItemId) (name : String)
    (filterFunction : IPAddress → Bool) : FilterCounter :=
  { toTrafficCounter := .new now { itemId := itemId, name := name }
    filterFunction := filterFunction }

/-- `RegisterDefaultFilters`. -/
def defaultFilters (now : Msec) : List FilterCounter :=
  [defaultFilter now 1 "Internet" IPAddress.isInternetAddress,
   defaultFilter now 2 "LAN" IPAddress.isLANAddress,
   defaultFilter now 3 "Localhost" IPAddress.isLocalhost]

/-- The constructor. The filters take the first ids and are not in `TrafficItems`. -/
def init (now : Msec) (hostName : String) (listeners : σ) : SystemMap σ :=
  { nextItemId := 4
    systemCounter := .new now
      { hostName := if hostName = "" then "System" else hostName
        filters := (defaultFilters now).map (·.trafficItem) }
    filterCounters := defaultFilters now
    applications := ∅
    processes := ∅
    sockets := ∅
    trafficItems := (∅ : UMap TrafficItemId TrafficItemType).insert 0 .system
    orphanedSockets := ∅
    app := default
    process := default
    socket := default
    tuple := default
    listeners := listeners }

/-! ## Mapping a socket -/

/-- What the loop of `FindOrMapApplication` over the applications finds. -/
inductive AppMatch where
  | reuse (app : Ref)
  | upgrade (existingKey : String) (app : Ref)

/-- One turn of the loop: nothing means `continue`. -/
def matchApp (t : CounterTree) (key appName : String) (entry : String × Ref) : Option AppMatch :=
  let item := (t.app entry.2).trafficItem
  if entry.1 = key then some (.reuse entry.2)
  else if isPath item.applicationPath then
    if matchesPath key appName item.applicationPath then some (.reuse entry.2) else none
  else if matchesTitle key appName entry.1 item.applicationPath item.applicationName then
    some (.upgrade entry.1 entry.2)
  else none

/-- The loop of `FindOrMapApplication` over the applications: it runs for a path only. -/
def findApplication (o : IterOrder) (key appName : String) (t : CounterTree) : Option AppMatch :=
  if isPath key then (o.entries t.applications).findSome? (matchApp t key appName) else none

/-- `FindOrMapApplication`. -/
def findOrMapApplication (o : IterOrder) (now : Msec) (exePath commandLine appName : String)
    (s : SystemMap σ) : Ref × SystemMap σ :=
  let key := applicationKey exePath commandLine appName
  match s.applications.lookup key with
  | some a => (a, s)
  | none =>
    match findApplication o key appName s.toCounterTree with
    | some (.reuse a) => (a, s)
    | some (.upgrade existingKey a) =>
      (a, notify h (.onAppFirstTimeConnected a)
        (modify (·.upgradeApp existingKey key commandLine appName a) s))
    | none =>
      (s.nextItemId, notify h (.onAppFirstTimeConnected s.nextItemId)
        (modify (·.addApp now key commandLine appName) s))

/-- `FindOrMapProcess`. -/
def findOrMapProcess (now : Msec) (pid : ProcessId) (app : Ref) (s : SystemMap σ) :
    Ref × SystemMap σ :=
  match s.processes.lookup pid with
  | some p => (p, s)
  | none =>
    (s.nextItemId, notify h (.onProcessCreated s.nextItemId) (modify (·.addProcess now pid app) s))

/-- `FindOrMapSocket`. -/
def findOrMapSocket (now : Msec) (cookie : SocketCookie) (process : Ref) (s : SystemMap σ) :
    Ref × SystemMap σ :=
  match s.sockets.lookup cookie with
  | some r => (r, s)
  | none =>
    (s.nextItemId, addSocketAddition s.nextItemId (modify (·.addSocket now cookie process) s))

/-- What `/proc` says about a process. -/
structure ProcInfo where
  /-- `GetProcessExePath`. -/
  exePath : String := ""
  /-- `GetProcessCmdlineArgs`. -/
  argv : List String := []
  /-- `/proc/<pid>/comm`. -/
  comm : String := ""
  /-- `ResolveProcessBinaryPath`, from the arguments and the name it is called with. -/
  resolveBinaryPath : List String → String → String := fun _ _ => ""

/-- The executable path, the command line and the name `MapSocket` maps the process with. -/
def processIdentity (info : ProcInfo) : String × String × String :=
  let exePath := normalizeAppImagePaths info.exePath
  let comm := mapChars (fun cs => if cs.getLast? = some '\n' then cs.dropLast else cs) info.comm
  let argv := if info.argv ≠ [] then info.argv
    else if exePath ≠ "" then [exePath]
    else if comm ≠ "" then [comm]
    else []
  let exePath := if exePath = "" then info.resolveBinaryPath argv comm else exePath
  let commandLine := " ".intercalate argv
  let comm := trim comm
  let comm := if (comm = "" ∨ comm = "main" ∨ comm = "Main") ∧ exePath ≠ "" then
      (if getBasename exePath = "" then exePath else getBasename exePath)
    else comm
  (exePath, commandLine, comm)

/-- What `MapSocket` reads from outside. -/
structure MapEnv : Type 1 where
  order : IterOrder
  now : Msec
  procInfo : ProcessId → ProcInfo

/-- The part of `MapSocket` that creates what is missing. -/
def mapNewSocket (env : MapEnv) (cookie : SocketCookie) (pid : ProcessId) (s : SystemMap σ) :
    Ref × SystemMap σ :=
  let identity := processIdentity (env.procInfo pid)
  let app := findOrMapApplication h env.order env.now identity.1 identity.2.1 identity.2.2 s
  let process := findOrMapProcess h env.now pid app.1 app.2
  findOrMapSocket env.now cookie process.1 process.2

/-- `MapSocket`; `established` tells whether the event is a `TCPSocketEstablished` one. -/
def mapSocket (env : MapEnv) (cookie : SocketCookie) (established : Bool) (pid : ProcessId)
    (silentFail : Bool) (s : SystemMap σ) : Option Ref × SystemMap σ :=
  if cookie = 0 then (none, s)
  else if pid = 0 then
    -- without a process only an established socket that is known already is found
    if silentFail ∧ established then (s.sockets.lookup cookie, s) else (none, s)
  else match s.sockets.lookup cookie with
    | some r => (some r, s)
    | none =>
      let socket := mapNewSocket h env cookie pid s
      (some socket.1, socket.2)

/-- `kSyntheticCookieBase`. -/
def syntheticCookieBase : SocketCookie := 2 ^ 63

/-- The cookie has the high bit of `kSyntheticCookieBase`. -/
def isSynthetic (cookie : SocketCookie) : Bool := cookie.testBit 63

/-- `WListenSocketInfo`. -/
structure ListenSocketInfo where
  localEndpoint : Endpoint
  protocol : Protocol
  pid : ProcessId

/-- One turn of the loop of `AddExistingSockets`, with the next synthetic cookie. -/
def addExistingSocket (env : MapEnv) (isProcessRunning : ProcessId → Bool)
    (acc : SocketCookie × SystemMap σ) (info : ListenSocketInfo) : SocketCookie × SystemMap σ :=
  if info.pid ≤ 0 ∨ !isProcessRunning info.pid then acc
  else
    let socket := mapSocket h env acc.1 false info.pid false acc.2
    match socket.1 with
    | none => (acc.1 + 1, socket.2)
    | some r =>
      (acc.1 + 1, modify (·.editSocket r fun item =>
        { item with
          socketTuple := { item.socketTuple with
            localEndpoint := info.localEndpoint, protocol := info.protocol }
          socketType := SocketType.listen
          connectionState := .connected }) socket.2)

/-- `AddExistingSockets`. -/
def addExistingSockets (env : MapEnv) (isProcessRunning : ProcessId → Bool)
    (listeningSockets : List ListenSocketInfo) (s : SystemMap σ) : SystemMap σ :=
  (listeningSockets.foldl (addExistingSocket h env isProcessRunning) (syntheticCookieBase, s)).2

/-- `ProcessInitialApps`. -/
def processInitialApps (o : IterOrder) (s : SystemMap σ) : SystemMap σ :=
  (o.values s.applications).foldl (fun s a => notify h (.onAppFirstTimeConnected a) s) s

/-! ## Reparenting and merging -/

/-- `ReparentOrphanedSocket`. -/
def reparentOrphanedSocket (now : Msec) (endpoint : Endpoint) (newParentProcess : ProcessId)
    (s : SystemMap σ) : SystemMap σ :=
  match s.orphanedSockets.lookup endpoint with
  | none => s
  | some r =>
    if newParentProcess = 0 then modify (·.forgetOrphan endpoint) s
    else
      let app := (s.process (s.socket r).parentProcess).parentApp
      let appKey := (s.app app).trafficItem.applicationPath
      let s := if (s.applications.lookup appKey).isSome then s
        else notify h (.onAppFirstTimeConnected app) (modify (·.registerApp appKey app) s)
      let process := findOrMapProcess h now newParentProcess app s
      addSocketAddition r (modify (·.forgetOrphan endpoint)
        (modify (·.attachSocket r process.1) process.2))

/-- `ReparentAcceptedSocket`. -/
def reparentAcceptedSocket (socket : Ref) (s : SystemMap σ) : SystemMap σ :=
  let endpoint := (s.socket socket).trafficItem.socketTuple.localEndpoint
  if endpoint.port = 0 then s
  else notify h (.sendLookupMessage [endpoint])
    (modify (·.orphan endpoint socket) s)

/-- The socket `MergeSyntheticSocket` merges: the first synthetic one of the same process and
port. -/
def findSynthetic (o : IterOrder) (socket : Ref) (t : CounterTree) : Option (SocketCookie × Ref) :=
  (o.entries t.sockets).find? fun e =>
    isSynthetic e.1 && (t.socket e.2).parentProcess = (t.socket socket).parentProcess &&
      (t.socket e.2).trafficItem.socketTuple.localEndpoint.port =
        (t.socket socket).trafficItem.socketTuple.localEndpoint.port

/-- The part of `MergeSyntheticSocket` that takes over the endpoint of the synthetic socket. -/
def transferEndpoint (existing : SocketTuple) (item : SocketItem) : SocketItem :=
  { item with socketTuple := { item.socketTuple with
      localEndpoint := { item.socketTuple.localEndpoint with
        address := existing.localEndpoint.address }
      protocol := if item.socketTuple.protocol = .unknown then existing.protocol
        else item.socketTuple.protocol } }

/-- `MergeSyntheticSocket`. -/
def mergeSyntheticSocket (o : IterOrder) (socket : Ref) (s : SystemMap σ) : SystemMap σ :=
  let item := (s.socket socket).trafficItem
  if isSynthetic item.cookie ∨ item.socketTuple.localEndpoint.port = 0 then s
  else match findSynthetic o socket s.toCounterTree with
    | none => s
    | some existing =>
      let existingItem := (s.socket existing.2).trafficItem
      let s := modify (·.editSocket socket (transferEndpoint existingItem.socketTuple)) s
      let s := notify h (.onSocketRemoved existing.2) s
      let s := modify (·.dropSynthetic (s.socket socket).parentProcess existing) s
      markItemForRemoval existingItem.itemId s

end SystemMap

end Waechter
