import Waechter.Daemon.Cleanup

/-!
# Connection history

`WConnectionHistory` (`Daemon/Data/ConnectionHistory.cpp`): the sets of sockets and tuples that
belong to one application and one remote endpoint, the entry of the history each set has, and the
row that is written when a set becomes empty. Its handlers of `OnSocketConnected`,
`OnSocketRemoved`, `OnUDPTupleCreated` and `OnUDPTupleRemoved` run on the notices of the system map.

An entry is known by its `ConnectionId`, a number that is drawn once; here entries are numbered as
they are made. The start and end times are left out. `departures`, `members`, `emptied` and `gone`
are observations: no branch reads them.
-/

namespace Waechter

open Lib

/-- `kMaxHistorySize`. -/
def kMaxHistorySize : Nat := 512

/-- An item that was taken out of a set, with the totals it had then. -/
structure Departure where
  item : CounterId
  dataIn : WBytes
  dataOut : WBytes
  deriving DecidableEq

/-- `WConnectionSet`; `members` are the items that were ever in it. -/
structure ConnectionSet where
  connections : List CounterId
  baseDataIn : WBytes := 0
  baseDataOut : WBytes := 0
  parentEntry : Option Nat := none
  setId : Nat
  members : List CounterId
  departures : List Departure := []
  deriving DecidableEq

/-- `WConnectionHistoryEntry::EState`. -/
inductive EntryState
  | open
  | pendingClose
  | closed
  deriving DecidableEq, Inhabited

/-- `WConnectionHistoryEntry`. -/
structure HistoryEntry where
  app : Ref := 0
  remoteEndpoint : Endpoint := {}
  dataIn : WBytes := 0
  dataOut : WBytes := 0
  state : EntryState := .open
  deriving DecidableEq, Inhabited

/-- A row of the table `ConnectionHistoryEntry`, and the set it was written for. -/
structure HistoryRow where
  connectionId : Nat
  appPath : String
  remoteEndpoint : Endpoint
  dataIn : WBytes
  dataOut : WBytes
  set : ConnectionSet
  deriving DecidableEq

/-- The key of `ActiveConnections`. -/
abbrev ConnectionKey := String × Endpoint

/-- `WConnectionHistory` and its table. -/
structure ConnectionHistory where
  newItemCounter : Nat := 0
  history : List Nat := []
  entry : Nat → HistoryEntry := default
  nextConnectionId : Nat := 0
  activeConnections : UMap ConnectionKey ConnectionSet := ∅
  database : List HistoryRow := []
  setsMade : Nat := 0
  emptied : List ConnectionSet := []
  gone : List CounterId := []

/-- What the handlers read from outside: the ignore lists of the configuration, and the order of a
loop. -/
structure HistoryEnv : Type 1 where
  isIgnoredApp : String → Bool := fun _ => false
  isIgnoredPort : UInt16 → Bool := fun _ => false
  order : IterOrder := .stored

namespace CounterTree

/-- The application of a socket. -/
def appOf (t : CounterTree) (socket : Ref) : Ref :=
  (t.process (t.socket socket).parentProcess).parentApp

/-- The key of a socket: the path of its application and its remote endpoint, as they are now. -/
def socketKey (t : CounterTree) (r : Ref) : ConnectionKey :=
  ((t.app (t.appOf r)).trafficItem.applicationPath,
    (t.socket r).trafficItem.socketTuple.remoteEndpoint)

/-- The key of a tuple. -/
def tupleKey (t : CounterTree) (u : Ref) : ConnectionKey :=
  ((t.app (t.appOf (t.tuple u).parentSocket)).trafficItem.applicationPath,
    (t.tuple u).trafficItem.endpoint)

end CounterTree

/-! ## Sets -/

/-- `Connections.insert` of a new item. -/
def ConnectionSet.insert (item : CounterId) (set : ConnectionSet) : ConnectionSet :=
  { set with
    connections := set.connections ++ [item]
    members := if item ∈ set.members then set.members else set.members ++ [item] }

/-- The removal of an item: its totals go to the base data, whether it is in the set or not. -/
def ConnectionSet.remove (x : Departure) (set : ConnectionSet) : ConnectionSet :=
  { set with
    baseDataIn := set.baseDataIn + x.dataIn
    baseDataOut := set.baseDataOut + x.dataOut
    connections := set.connections.filter (· ≠ x.item)
    departures := if x.item ∈ set.connections then set.departures ++ [x] else set.departures }

namespace ConnectionHistory

/-- `Push`: the entry of a new set, unless the application or the port is ignored. -/
def push (env : HistoryEnv) (t : CounterTree) (app : Ref) (remoteEndpoint : Endpoint)
    (s : ConnectionHistory) : Option Nat × ConnectionHistory :=
  if env.isIgnoredApp (t.app app).trafficItem.applicationName ∨
      env.isIgnoredPort remoteEndpoint.port then (none, s)
  else
    let id := s.nextConnectionId
    let history := s.history ++ [id]
    -- an entry that falls out of the history is not counted as new any more
    (some id,
      { s with
        nextConnectionId := id + 1
        entry := Function.update s.entry id { app := app, remoteEndpoint := remoteEndpoint }
        history := if kMaxHistorySize < history.length then history.tail else history
        newItemCounter :=
          if kMaxHistorySize < history.length then s.newItemCounter + 1 - 1
          else s.newItemCounter + 1 })

/-- `WriteToDatabase`. -/
def writeToDatabase (t : CounterTree) (id : Nat) (set : ConnectionSet) (s : ConnectionHistory) :
    ConnectionHistory :=
  { s with database := s.database ++
      [{ connectionId := id
         appPath := (t.app (s.entry id).app).trafficItem.applicationPath
         remoteEndpoint := (s.entry id).remoteEndpoint
         dataIn := set.baseDataIn
         dataOut := set.baseDataOut
         set := set }] }

/-- `HandleEmptySet`. -/
def handleEmptySet (t : CounterTree) (emptySet : ConnectionSet) (s : ConnectionHistory) :
    ConnectionHistory :=
  let s := { s with emptied := s.emptied ++ [emptySet] }
  match emptySet.parentEntry with
  | none => s
  | some id =>
    if (s.entry id).state ≠ .open then s
    else writeToDatabase t id emptySet
      { s with entry := Function.update s.entry id { s.entry id with state := .pendingClose } }

/-- The common part of `OnSocketConnected` and `OnUDPTupleCreated`: the item joins the set of its
key, or a new one. -/
def track (env : HistoryEnv) (t : CounterTree) (app : Ref) (key : ConnectionKey) (item : CounterId)
    (s : ConnectionHistory) : ConnectionHistory :=
  match s.activeConnections.lookup key with
  | some set =>
    if item ∈ set.connections then s
    else { s with activeConnections := s.activeConnections.insert key (set.insert item) }
  | none =>
    let pushed := push env t app key.2 s
    { pushed.2 with
      activeConnections := pushed.2.activeConnections.insert key
        { connections := [item], parentEntry := pushed.1, setId := s.setsMade, members := [item] }
      setsMade := s.setsMade + 1 }

/-- The common part of `OnSocketRemoved` and `OnUDPTupleRemoved`: the item leaves the set that its
key leads to now. -/
def untrack (t : CounterTree) (key : ConnectionKey) (x : Departure) (s : ConnectionHistory) :
    ConnectionHistory :=
  match s.activeConnections.lookup key with
  | none => s
  | some set =>
    let set := set.remove x
    if set.connections = [] then
      handleEmptySet t set { s with activeConnections := s.activeConnections.erase key }
    else { s with activeConnections := s.activeConnections.insert key set }

/-! ## The handlers -/

/-- A socket with its totals. -/
def socketDeparture (t : CounterTree) (r : Ref) : Departure :=
  { item := .socket r
    dataIn := (t.socket r).trafficItem.totalDownloadBytes
    dataOut := (t.socket r).trafficItem.totalUploadBytes }

/-- A tuple with its totals. -/
def tupleDeparture (t : CounterTree) (u : Ref) : Departure :=
  { item := .tuple u
    dataIn := (t.tuple u).trafficItem.totalDownloadBytes
    dataOut := (t.tuple u).trafficItem.totalUploadBytes }

/-- `OnSocketConnected`: only TCP, since UDP is tracked by tuples. -/
def onSocketConnected (env : HistoryEnv) (t : CounterTree) (r : Ref) (s : ConnectionHistory) :
    ConnectionHistory :=
  if (t.socket r).trafficItem.socketTuple.protocol ≠ .tcp then s
  else
    let s := track env t (t.appOf r) (t.socketKey r) (.socket r) s
    { s with gone := s.gone.filter (· ≠ .socket r) }

/-- What `OnSocketRemoved` takes out, with the keys: the socket, and its tuples under the path of
its application. -/
def removedWithSocket (o : IterOrder) (t : CounterTree) (r : Ref) : List (ConnectionKey × Departure) :=
  (t.socketKey r, socketDeparture t r) ::
    (o.entries (t.socket r).udpPerConnectionCounters).map fun e =>
      (((t.socketKey r).1, e.1), tupleDeparture t e.2)

/-- `OnSocketRemoved`. -/
def onSocketRemoved (env : HistoryEnv) (t : CounterTree) (r : Ref) (s : ConnectionHistory) :
    ConnectionHistory :=
  let s := (removedWithSocket env.order t r).foldl (fun s x => untrack t x.1 x.2 s) s
  { s with gone := s.gone ++ [.socket r] }

/-- `OnUDPTupleCreated`. -/
def onUDPTupleCreated (env : HistoryEnv) (t : CounterTree) (u : Ref) (s : ConnectionHistory) :
    ConnectionHistory :=
  let s := track env t (t.appOf (t.tuple u).parentSocket) (t.tupleKey u) (.tuple u) s
  { s with gone := s.gone.filter (· ≠ .tuple u) }

/-- `OnUDPTupleRemoved`. -/
def onUDPTupleRemoved (t : CounterTree) (u : Ref) (s : ConnectionHistory) : ConnectionHistory :=
  let s := untrack t (t.tupleKey u) (tupleDeparture t u) s
  { s with gone := s.gone ++ [.tuple u] }

/-- A notice of the system map, with the counters at that moment. -/
structure Event : Type 1 where
  env : HistoryEnv := {}
  notice : Notice
  tree : CounterTree

/-- The signal handlers. -/
def handle (s : ConnectionHistory) (e : Event) : ConnectionHistory :=
  match e.notice with
  | .onSocketConnected r => onSocketConnected e.env e.tree r s
  | .onSocketRemoved r => onSocketRemoved e.env e.tree r s
  | .onUDPTupleCreated u => onUDPTupleCreated e.env e.tree u s
  | .onUDPTupleRemoved u => onUDPTupleRemoved e.tree u s
  | _ => s

/-! ## What the clients get -/

/-- The set of an entry, while it is active: the `weak_ptr`. -/
def setOf (s : ConnectionHistory) (id : Nat) : Option ConnectionSet :=
  ((s.activeConnections.entries.map fun e => e.2).find? fun set => set.parentEntry = some id)

/-- The totals of an item. -/
def totalsOf (t : CounterTree) : CounterId → WBytes × WBytes
  | .socket r =>
    ((t.socket r).trafficItem.totalDownloadBytes, (t.socket r).trafficItem.totalUploadBytes)
  | .tuple u =>
    ((t.tuple u).trafficItem.totalDownloadBytes, (t.tuple u).trafficItem.totalUploadBytes)
  | _ => (0, 0)

/-- `WConnectionHistoryEntry::Update`: the entry, and whether anything changed. -/
def updateEntry (t : CounterTree) (s : ConnectionHistory) (id : Nat) : HistoryEntry × Bool :=
  let e := s.entry id
  match s.setOf id with
  | none => if e.state = .pendingClose then ({ e with state := .closed }, true) else (e, false)
  | some set =>
    if set.connections = [] then
      if e.state = .pendingClose then ({ e with state := .closed }, true) else (e, false)
    else
      let dataIn := set.baseDataIn + (set.connections.map fun c => (totalsOf t c).1).sum
      let dataOut := set.baseDataOut + (set.connections.map fun c => (totalsOf t c).2).sum
      ({ e with dataIn := dataIn, dataOut := dataOut }, dataIn ≠ e.dataIn || dataOut ≠ e.dataOut)

/-- `WConnectionHistoryUpdate`: the changed entries, and the new ones. -/
structure HistoryUpdate where
  changes : List (Nat × WBytes × WBytes)
  newEntries : List (Nat × HistoryEntry)
  deriving DecidableEq

/-- `WConnectionHistory::Update`: the new entries are the last ones of the history, and the counter
of new entries starts again. -/
def update (t : CounterTree) (s : ConnectionHistory) : HistoryUpdate × ConnectionHistory :=
  let updated := s.history.map fun id => (id, updateEntry t s id)
  let entry := updated.foldl (fun f x => Function.update f x.1 x.2.1) s.entry
  let itemsToProcess := min s.newItemCounter s.history.length
  ({ changes := (updated.filter fun x => x.2.2).map fun x => (x.1, x.2.1.dataIn, x.2.1.dataOut)
     newEntries := (s.history.drop (s.history.length - itemsToProcess)).map fun id => (id, entry id) },
   { s with entry := entry, newItemCounter := 0 })

/-- `WConnectionHistory::Serialize`. -/
def serialize (s : ConnectionHistory) : HistoryUpdate :=
  { changes := [], newEntries := s.history.map fun id => (id, s.entry id) }

end ConnectionHistory

/-! ## The notices of a run -/

namespace SystemMap

/-- A handler that writes the notices down. -/
def recorder : Handler (List (Notice × CounterTree)) := fun n t log => log ++ [(n, t)]

/-- The notices of a run of the system map, in order. -/
@[irreducible] def notices (now : Msec) (hostName : String) (ops : List SystemMapOp) :
    List (Notice × CounterTree) :=
  (Lib.run (step recorder) (init now hostName []) ops).listeners

/-- What the connection history handles in a run of the system map. -/
def historyEvents (env : Nat → HistoryEnv) (now : Msec) (hostName : String)
    (ops : List SystemMapOp) : List ConnectionHistory.Event :=
  (notices now hostName ops).zipIdx.map fun x =>
    { env := env x.2, notice := x.1.1, tree := x.1.2 }

end SystemMap

end Waechter
