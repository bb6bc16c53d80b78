import Waechter.Daemon.Counters
import Waechter.Util.Rule
import Waechter.Util.TrafficTreeUpdate

/-!
# The client's traffic tree

`WTrafficTree` (`Gui/Windows/TrafficTree.hpp`, `TrafficTree.cpp`) and the rules of
`WClientRuleManager` (`Gui/ClientRuleManager.hpp`), as far as the messages of the daemon change
them: `LoadFromBuffer` takes the whole tree, `UpdateFromBuffer` the changes since.

A `TrafficTreeUpdate` is worked off by kind: marks, removals, sockets, tuples, states, traffic.
`RemoveTrafficItem` looks for an application, a process or a socket with the id; nothing removes a
tuple from its socket.
-/

namespace Waechter

open Lib

/-- A `WSystemItem` with the items its pointers reach. An archive writes an item that several
pointers share once, and reading it restores the sharing. -/
structure ItemTree where
  root : SystemItem := {}
  app : Ref → ApplicationItem := fun _ => {}
  process : Ref → ProcessItem := fun _ => {}
  socket : Ref → SocketItem := fun _ => {}
  tuple : Ref → TupleItem := fun _ => {}
  /-- The number the next item gets that the client allocates. -/
  next : Ref := 0

/-- `GetSystemItem`. -/
def CounterTree.itemTree (t : CounterTree) : ItemTree :=
  { root := t.systemCounter.trafficItem
    app := fun r => (t.app r).trafficItem
    process := fun r => (t.process r).trafficItem
    socket := fun r => (t.socket r).trafficItem
    tuple := fun r => (t.tuple r).trafficItem
    next := t.nextItemId }

/-- `WTrafficTree::TrafficItems`: an item by its id. -/
abbrev ItemIndex := UMap TrafficItemId (TrafficItemType × Ref)

namespace ItemTree

variable (o : IterOrder)

def setApp (r : Ref) (item : ApplicationItem) (T : ItemTree) : ItemTree :=
  { T with app := Function.update T.app r item }

def setProcess (r : Ref) (item : ProcessItem) (T : ItemTree) : ItemTree :=
  { T with process := Function.update T.process r item }

def setSocket (r : Ref) (item : SocketItem) (T : ItemTree) : ItemTree :=
  { T with socket := Function.update T.socket r item }

def setTuple (r : Ref) (item : TupleItem) (T : ItemTree) : ItemTree :=
  { T with tuple := Function.update T.tuple r item }

/-- Change the base part of an item. A filter is referred to by its position. -/
def editItem (f : TrafficItem → TrafficItem) (item : TrafficItemType × Ref) (T : ItemTree) :
    ItemTree :=
  match item with
  | (.system, _) => { T with root := { T.root with toTrafficItem := f T.root.toTrafficItem } }
  | (.application, r) =>
    T.setApp r { T.app r with toTrafficItem := f (T.app r).toTrafficItem }
  | (.process, r) =>
    T.setProcess r { T.process r with toTrafficItem := f (T.process r).toTrafficItem }
  | (.socket, r) =>
    T.setSocket r { T.socket r with toTrafficItem := f (T.socket r).toTrafficItem }
  | (.tuple, r) =>
    T.setTuple r { T.tuple r with toTrafficItem := f (T.tuple r).toTrafficItem }
  | (.filter, i) =>
    { T with
      root := { T.root with
        filters := T.root.filters.modify i fun x =>
          { x with toTrafficItem := f x.toTrafficItem } } }

/-! ## The index -/

def indexSocket (T : ItemTree) (index : ItemIndex) (r : Ref) : ItemIndex :=
  (T.socket r).udpPerConnectionTraffic.foldl
    (fun index u => index.insert (T.tuple u).itemId (.tuple, u))
    (index.insert (T.socket r).itemId (.socket, r))

def indexProcess (T : ItemTree) (index : ItemIndex) (r : Ref) : ItemIndex :=
  (o.values (T.process r).sockets).foldl T.indexSocket
    (index.insert (T.process r).itemId (.process, r))

def indexApp (T : ItemTree) (index : ItemIndex) (r : Ref) : ItemIndex :=
  (o.values (T.app r).processes).foldl (T.indexProcess o)
    (index.insert (T.app r).itemId (.application, r))

/-- The index that `LoadFromBuffer` builds. -/
def index (T : ItemTree) : ItemIndex :=
  let apps := (o.values T.root.applications).foldl (T.indexApp o) ∅
  let filters := T.root.filters.zipIdx.foldl
    (fun index f => index.insert f.1.itemId (.filter, f.2)) apps
  filters.insert 0 (.system, 0)

/-! ## Removal -/

/-- `RemoveChild`: erase the first child that has the id. -/
def removeChild {K : Type} [DecidableEq K] (hasId : Ref → Bool) (children : UMap K Ref) :
    Option (UMap K Ref) :=
  ((o.entries children).find? fun e => hasId e.2).map fun e => children.erase e.1

/-- `WProcessItem::RemoveChild`. -/
def removeFromProcess (i : TrafficItemId) (T : ItemTree) (p : Ref) : Option ItemTree :=
  (removeChild o (fun r => (T.socket r).itemId = i) (T.process p).sockets).map fun sockets =>
    T.setProcess p { T.process p with sockets := sockets }

/-- `WApplicationItem::RemoveChild`, then the processes of the application. -/
def removeFromApp (i : TrafficItemId) (T : ItemTree) (a : Ref) : Option ItemTree :=
  match removeChild o (fun p => (T.process p).itemId = i) (T.app a).processes with
  | some processes => some (T.setApp a { T.app a with processes := processes })
  | none => (o.values (T.app a).processes).findSome? (T.removeFromProcess o i)

/-- The search of `RemoveTrafficItem`: `WSystemItem::RemoveChild`, then the applications. -/
def removeItem (i : TrafficItemId) (T : ItemTree) : ItemTree :=
  match removeChild o (fun a => (T.app a).itemId = i) T.root.applications with
  | some applications => { T with root := { T.root with applications := applications } }
  | none => ((o.values T.root.applications).findSome? (T.removeFromApp o i)).getD T

end ItemTree

/-- `WTrafficTree` and `WClientRuleManager`. -/
structure Client where
  tree : ItemTree := {}
  trafficItems : ItemIndex := ∅
  markedForRemovalItems : UMap TrafficItemId Unit := ∅
  rules : UMap TrafficItemId TrafficItemRules := ∅

namespace Client

variable (o : IterOrder)

/-- `WTrafficTree::Clear`, when the client starts anew. -/
def clear (c : Client) : Client := { c with tree := {}, trafficItems := ∅ }

/-- `LoadFromBuffer`. -/
def loadFromBuffer (archive : ItemTree) (c : Client) : Client :=
  { c with tree := archive, trafficItems := archive.index o }

/-- `HandleRuleUpdate`. -/
def handleRuleUpdate (c : Client) (u : RuleUpdate) : Client :=
  { c with rules := c.rules.insert u.trafficItemId u.rules.received }

/-! ## `UpdateFromBuffer` -/

/-- A marked item: no traffic, and a socket is closed. -/
def markItem (c : Client) (i : TrafficItemId) : Client :=
  let c := { c with markedForRemovalItems := c.markedForRemovalItems.insert i () }
  match c.trafficItems.lookup i with
  | none => c
  | some item =>
    let T := c.tree.editItem (fun x => { x with downloadSpeed := 0, uploadSpeed := 0 }) item
    match item with
    | (.socket, r) =>
      { c with tree := T.setSocket r { T.socket r with connectionState := .closed } }
    | _ => { c with tree := T }

/-- `RemoveTrafficItem`. -/
def removeTrafficItem (i : TrafficItemId) (c : Client) : Client :=
  { c with
    markedForRemovalItems := c.markedForRemovalItems.erase i
    rules := c.rules.erase i
    tree := c.tree.removeItem o i }

/-- A removed item. -/
def removeItem (c : Client) (i : TrafficItemId) : Client :=
  removeTrafficItem o i { c with trafficItems := c.trafficItems.erase i }

/-- The application of an addition, found under its path or made. -/
def findOrAddApp (a : TrafficTreeSocketAddition) (c : Client) : Client × Ref :=
  match c.tree.root.applications.lookup a.applicationPath with
  | some r => (c, r)
  | none =>
    let r := c.tree.next
    let T := c.tree.setApp r
      { itemId := a.applicationItemId
        applicationName := a.applicationName
        applicationPath := a.applicationPath }
    ({ c with
        tree := { T with
          root := { T.root with applications := T.root.applications.insert a.applicationPath r }
          next := r + 1 }
        trafficItems := c.trafficItems.insert a.applicationItemId (.application, r) }, r)

/-- The process of an addition, found under its PID or made. -/
def findOrAddProcess (a : TrafficTreeSocketAddition) (app : Ref) (c : Client) : Client × Ref :=
  match (c.tree.app app).processes.lookup a.processId with
  | some r => (c, r)
  | none =>
    let r := c.tree.next
    let T := c.tree.setProcess r { itemId := a.processItemId, processId := a.processId }
    let T := T.setApp app
      { T.app app with processes := (T.app app).processes.insert a.processId r }
    ({ c with
        tree := { T with next := r + 1 }
        trafficItems := c.trafficItems.insert a.processItemId (.process, r) }, r)

/-- A socket addition. The socket is stored in its process under its item id. -/
def addSocket (c : Client) (a : TrafficTreeSocketAddition) : Client :=
  if (c.trafficItems.lookup a.itemId).isSome then c
  else
    let (c, app) := c.findOrAddApp a
    let (c, process) := c.findOrAddProcess a app
    let r := c.tree.next
    let T := c.tree.setSocket r
      { itemId := a.itemId
        socketTuple := a.socketTuple
        connectionState := a.connectionState
        socketType := a.socketType
        cookie := a.socketCookie }
    let T := T.setProcess process
      { T.process process with sockets := (T.process process).sockets.insert a.itemId r }
    { c with
      tree := { T with next := r + 1 }
      trafficItems := c.trafficItems.insert a.itemId (.socket, r) }

/-- A tuple addition. The new item does not get the endpoint of the addition. -/
def addTuple (c : Client) (a : TrafficTreeTupleAddition) : Client :=
  if (c.trafficItems.lookup a.itemId).isSome then c
  else
    match c.trafficItems.lookup a.socketItemId with
    | some (.socket, s) =>
      let r := c.tree.next
      let T := c.tree.setTuple r { itemId := a.itemId }
      let T := T.setSocket s
        { T.socket s with
          udpPerConnectionTraffic := (T.socket s).udpPerConnectionTraffic ++ [r] }
      { c with
        tree := { T with next := r + 1 }
        trafficItems := c.trafficItems.insert a.itemId (.tuple, r) }
    | _ => c

/-- A state change of a socket. -/
def changeState (c : Client) (x : TrafficTreeSocketStateChange) : Client :=
  match c.trafficItems.lookup x.itemId with
  | some (.socket, r) =>
    let item := c.tree.socket r
    { c with
      tree := c.tree.setSocket r
        { item with
          connectionState := x.newState
          socketType := x.socketType
          socketTuple := x.socketTuple.getD item.socketTuple } }
  | _ => c

/-- The traffic of an item. -/
def updateTraffic (c : Client) (x : TrafficTreeTrafficUpdate) : Client :=
  match c.trafficItems.lookup x.itemId with
  | none => c
  | some item =>
    { c with
      tree := c.tree.editItem (fun i =>
        { i with
          downloadSpeed := x.newDownloadSpeed
          uploadSpeed := x.newUploadSpeed
          totalDownloadBytes := x.totalDownloadBytes
          totalUploadBytes := x.totalUploadBytes }) item }

/-- `UpdateFromBuffer`. -/
def updateFromBuffer (u : TrafficTreeUpdates) (c : Client) : Client :=
  let c := u.markedForRemovalItems.foldl markItem c
  let c := u.removedItems.foldl (removeItem o) c
  let c := u.addedSockets.foldl addSocket c
  let c := u.addedTuples.foldl addTuple c
  let c := u.socketStateChange.foldl changeState c
  u.updatedItems.foldl updateTraffic c

end Client

end Waechter
