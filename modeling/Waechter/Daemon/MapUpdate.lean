import Mathlib.Data.List.DropRight
import Waechter.Daemon.Counters
import Waechter.Lib.Delivery
import Waechter.Lib.Run
import Waechter.Util.TrafficTreeUpdate

/-!
# The log of tree changes

`WMapUpdate` (`Daemon/Data/MapUpdate.hpp`, `MapUpdate.cpp`): five logs that `GetUpdates` turns
into one `WTrafficTreeUpdates` message and clears. A call records nothing when no client is
connected (`TrackUpdates`).

The loop of `GetUpdates` over `AddedTuples` builds each addition and never appends it, so
`getUpdates_addedTuples` finds the result without tuple additions. `runDelivers_iff`: the changes
of a run reach the results of `GetUpdates` as they should exactly when no tuple addition waits
whose socket is not pending removal.
-/

namespace Waechter

open Lib

/-- `WMapUpdate`, without the message object `Updates` it reuses. -/
structure MapUpdate where
  markedForRemovalItems : List TrafficItemId := []
  removedItems : List TrafficItemId := []
  socketStateChanges : List TrafficTreeSocketStateChange := []
  addedSockets : List Ref := []
  addedTuples : List (Endpoint × Ref) := []

namespace MapUpdate

/-- `HasUpdates`. -/
def hasUpdates (m : MapUpdate) : Bool :=
  !m.removedItems.isEmpty || !m.markedForRemovalItems.isEmpty || !m.socketStateChanges.isEmpty ||
    !m.addedSockets.isEmpty || !m.addedTuples.isEmpty

section Recording

/-! ### Recording, with `TrackUpdates` as an argument -/

variable (trackUpdates : Bool)

/-- `MarkItemForRemoval`. -/
def markItemForRemoval (itemId : TrafficItemId) (m : MapUpdate) : MapUpdate :=
  if trackUpdates then
    { m with markedForRemovalItems := m.markedForRemovalItems ++ [itemId] }
  else m

/-- `AddItemRemoval`. -/
def addItemRemoval (itemId : TrafficItemId) (m : MapUpdate) : MapUpdate :=
  if trackUpdates then { m with removedItems := m.removedItems ++ [itemId] } else m

/-- `AddStateChange`. -/
def addStateChange (change : TrafficTreeSocketStateChange) (m : MapUpdate) : MapUpdate :=
  if trackUpdates then { m with socketStateChanges := m.socketStateChanges ++ [change] } else m

/-- `AddSocketAddition`. -/
def addSocketAddition (socket : Ref) (m : MapUpdate) : MapUpdate :=
  if trackUpdates then { m with addedSockets := m.addedSockets ++ [socket] } else m

/-- `AddTupleAddition`. -/
def addTupleAddition (endpoint : Endpoint) (tuple : Ref) (m : MapUpdate) : MapUpdate :=
  if trackUpdates then { m with addedTuples := m.addedTuples ++ [(endpoint, tuple)] } else m

end Recording

/-! ### Building the message -/

/-- The addition `GetUpdates` builds for a socket. -/
def socketAddition (t : CounterTree) (r : Ref) : TrafficTreeSocketAddition :=
  let socket := t.socket r
  let process := t.process socket.parentProcess
  let app := t.app process.parentApp
  { itemId := socket.trafficItem.itemId
    processItemId := process.trafficItem.itemId
    applicationItemId := app.trafficItem.itemId
    socketCookie := socket.trafficItem.cookie
    processId := process.trafficItem.processId
    applicationPath := app.trafficItem.applicationPath
    applicationName := app.trafficItem.applicationName
    applicationCommandLine := app.trafficItem.applicationCommandLine
    socketTuple := socket.trafficItem.socketTuple
    connectionState := socket.trafficItem.connectionState
    socketType := socket.trafficItem.socketType }

/-- The addition `GetUpdates` builds for a UDP tuple. -/
def tupleAddition (t : CounterTree) (endpoint : Endpoint) (r : Ref) : TrafficTreeTupleAddition :=
  { itemId := (t.tuple r).trafficItem.itemId
    socketItemId := (t.socket (t.tuple r).parentSocket).trafficItem.itemId
    endpoint := endpoint }

/-- The socket is pending removal. -/
def socketPending (t : CounterTree) (r : Ref) : Bool :=
  (t.socket r).isMarkedForRemoval

/-- The socket of the tuple is pending removal. -/
def tuplePending (t : CounterTree) (e : Endpoint × Ref) : Bool :=
  socketPending t (t.tuple e.2).parentSocket

/-- The items of the active counters: the system, `FetchActiveCounters` on the applications and
the processes, the filters, and the sockets with their UDP tuples. -/
def updatedItems (o : IterOrder) (t : CounterTree) : List TrafficTreeTrafficUpdate :=
  let system := if t.systemCounter.isActive then
    [TrafficTreeTrafficUpdate.ofItem t.systemCounter.trafficItem.toTrafficItem] else []
  let apps := ((o.values t.applications).filter fun r => (t.app r).isActive).map fun r =>
    TrafficTreeTrafficUpdate.ofItem (t.app r).trafficItem.toTrafficItem
  let processes := ((o.values t.processes).filter fun r => (t.process r).isActive).map fun r =>
    TrafficTreeTrafficUpdate.ofItem (t.process r).trafficItem.toTrafficItem
  let filters := (t.filterCounters.filter fun f => f.isActive).map fun f =>
    TrafficTreeTrafficUpdate.ofItem f.trafficItem.toTrafficItem
  let sockets := ((o.values t.sockets).filter fun r => (t.socket r).isActive).flatMap fun r =>
    let socket := t.socket r
    let tuples := if socket.trafficItem.socketTuple.protocol = .udp then
        ((o.values socket.udpPerConnectionCounters).filter fun u => (t.tuple u).isActive).map
          fun u => TrafficTreeTrafficUpdate.ofItem (t.tuple u).trafficItem.toTrafficItem
      else []
    TrafficTreeTrafficUpdate.ofItem socket.trafficItem.toTrafficItem :: tuples
  system ++ apps ++ processes ++ filters ++ sockets

/-- `GetUpdates`: the message, and the logs cleared. -/
def getUpdates (o : IterOrder) (t : CounterTree) (m : MapUpdate) : TrafficTreeUpdates × MapUpdate :=
  let addedSockets := m.addedSockets.foldl (fun acc r =>
    -- no point in sending additions for sockets that are being removed
    if socketPending t r then acc else acc ++ [socketAddition t r]) []
  let addedTuples := m.addedTuples.foldl (fun acc e =>
    if tuplePending t e then acc
    else
      -- the addition is built, but nothing appends it to the message
      let _addition := tupleAddition t e.1 e.2
      acc) []
  ({ markedForRemovalItems := m.markedForRemovalItems
     removedItems := m.removedItems
     updatedItems := updatedItems o t
     addedSockets := addedSockets
     addedTuples := addedTuples
     socketStateChange := m.socketStateChanges }, {})

theorem foldl_filter_append {α β : Type} (skip : α → Bool) (f : α → β) :
    ∀ (l : List α) (acc : List β),
      l.foldl (fun acc a => if skip a then acc else acc ++ [f a]) acc =
        acc ++ (l.filter fun a => !skip a).map f
  | [], acc => by simp
  | a :: l, acc => by
    rw [List.foldl_cons, foldl_filter_append skip f l]
    cases h : skip a <;> simp [h]

theorem getUpdates_addedSockets (o : IterOrder) (t : CounterTree) (m : MapUpdate) :
    (m.getUpdates o t).1.addedSockets =
      (m.addedSockets.filter fun r => !socketPending t r).map (socketAddition t) := by
  unfold getUpdates
  rw [foldl_filter_append]
  rfl

/-- **No tuple addition is ever sent.** -/
theorem getUpdates_addedTuples (o : IterOrder) (t : CounterTree) (m : MapUpdate) :
    (m.getUpdates o t).1.addedTuples = [] := by
  have h : ∀ (l : List (Endpoint × Ref)), l.foldl (fun (acc : List TrafficTreeTupleAddition) e =>
      if tuplePending t e then acc else acc) [] = [] := by
    intro l
    induction l with
    | nil => rfl
    | cons e l ih => rw [List.foldl_cons, ite_self]; exact ih
  exact h m.addedTuples

end MapUpdate

/-! ## Runs of the log -/

/-- A change of the tree, as it is recorded. -/
inductive MapChange where
  | markItemForRemoval (itemId : TrafficItemId)
  | addItemRemoval (itemId : TrafficItemId)
  | addStateChange (change : TrafficTreeSocketStateChange)
  | addSocketAddition (socket : Ref)
  | addTupleAddition (endpoint : Endpoint) (tuple : Ref)

/-- A call on `WMapUpdate` while a client is connected. Between the calls the rest of the daemon
may change, so `GetUpdates` comes with the counters it finds. -/
inductive MapUpdateCall : Type 1 where
  | record (c : MapChange)
  | getUpdates (o : IterOrder) (t : CounterTree)

namespace MapChange

def marked : MapChange → Option TrafficItemId
  | .markItemForRemoval i => some i
  | _ => none

def removed : MapChange → Option TrafficItemId
  | .addItemRemoval i => some i
  | _ => none

def stateChange : MapChange → Option TrafficTreeSocketStateChange
  | .addStateChange c => some c
  | _ => none

def socketAdded : MapChange → Option Ref
  | .addSocketAddition r => some r
  | _ => none

def tupleAdded : MapChange → Option (Endpoint × Ref)
  | .addTupleAddition e r => some (e, r)
  | _ => none

end MapChange

/-- The change a call records. -/
def MapUpdateCall.recorded : MapUpdateCall → Option MapChange
  | .record c => some c
  | .getUpdates _ _ => none

open MapChange

namespace MapUpdate

/-- Record a change. -/
def record (trackUpdates : Bool) (m : MapUpdate) : MapChange → MapUpdate
  | .markItemForRemoval i => m.markItemForRemoval trackUpdates i
  | .addItemRemoval i => m.addItemRemoval trackUpdates i
  | .addStateChange c => m.addStateChange trackUpdates c
  | .addSocketAddition r => m.addSocketAddition trackUpdates r
  | .addTupleAddition e r => m.addTupleAddition trackUpdates e r

/-- Perform a call with a client connected. -/
def step (m : MapUpdate) : MapUpdateCall → MapUpdate
  | .record c => m.record true c
  | .getUpdates o t => (m.getUpdates o t).2

/-- The changes recorded in a list of calls that no `GetUpdates` has taken yet. -/
def waiting (calls : List MapUpdateCall) : List MapChange :=
  (calls.rtakeWhile fun c => c.recorded.isSome).filterMap MapUpdateCall.recorded

/-- The message `u` delivers the changes: the marks, the removals and the state changes as they
were recorded, and every addition once and in order with its ids and endpoint, except that an
addition may be missing when its socket is pending removal in `t`. -/
structure DeliveredOnce (t : CounterTree) (changes : List MapChange) (u : TrafficTreeUpdates) :
    Prop where
  marked : u.markedForRemovalItems = changes.filterMap marked
  removed : u.removedItems = changes.filterMap removed
  stateChange : u.socketStateChange = changes.filterMap stateChange
  sockets : Delivers (fun r => socketPending t r = true) (socketAddition t)
    (changes.filterMap socketAdded) u.addedSockets
  tuples : Delivers (fun e => tuplePending t e = true) (fun e => tupleAddition t e.1 e.2)
    (changes.filterMap tupleAdded) u.addedTuples

/-- Every `GetUpdates` of the run delivers the changes recorded since the one before it, and no
others. -/
def RunDelivers (calls : List MapUpdateCall) : Prop :=
  ∀ before o t after, calls = before ++ .getUpdates o t :: after →
    DeliveredOnce t (waiting before) ((run step {} before).getUpdates o t).1

/-- At no `GetUpdates` of the run does a tuple addition wait whose socket is not pending
removal. -/
def NoTupleWaits (calls : List MapUpdateCall) : Prop :=
  ∀ before o t after, calls = before ++ .getUpdates o t :: after →
    ∀ e ∈ (waiting before).filterMap tupleAdded, tuplePending t e = true

/-- The logs hold exactly these changes. -/
structure LogsHold (m : MapUpdate) (changes : List MapChange) : Prop where
  marked : m.markedForRemovalItems = changes.filterMap marked
  removed : m.removedItems = changes.filterMap removed
  stateChange : m.socketStateChanges = changes.filterMap stateChange
  sockets : m.addedSockets = changes.filterMap socketAdded
  tuples : m.addedTuples = changes.filterMap tupleAdded

theorem LogsHold.record {m : MapUpdate} {changes : List MapChange} (h : LogsHold m changes)
    (c : MapChange) : LogsHold (m.record true c) (changes ++ [c]) := by
  cases c <;> constructor <;>
    simp [MapUpdate.record, markItemForRemoval, addItemRemoval, addStateChange, addSocketAddition,
      addTupleAddition, h.marked, h.removed, h.stateChange, h.sockets, h.tuples,
      MapChange.marked, MapChange.removed, MapChange.stateChange, MapChange.socketAdded,
      MapChange.tupleAdded]

theorem waiting_record (calls : List MapUpdateCall) (c : MapChange) :
    waiting (calls ++ [.record c]) = waiting calls ++ [c] := by
  unfold waiting
  rw [List.rtakeWhile_concat_pos _ _ _ rfl, List.filterMap_append]
  rfl

theorem waiting_getUpdates (calls : List MapUpdateCall) (o : IterOrder) (t : CounterTree) :
    waiting (calls ++ [.getUpdates o t]) = [] := by
  unfold waiting
  rw [List.rtakeWhile_concat_neg _ _ _ (by simp [MapUpdateCall.recorded])]
  rfl

/-- **In every state of a run the logs hold the changes that wait.** -/
theorem logsHold_run (calls : List MapUpdateCall) : LogsHold (run step {} calls) (waiting calls) := by
  induction calls using List.reverseRecOn with
  | nil => exact ⟨rfl, rfl, rfl, rfl, rfl⟩
  | append_singleton calls c ih =>
    rw [run_concat]
    cases c with
    | record c =>
      rw [waiting_record]
      exact ih.record c
    | getUpdates o t =>
      rw [waiting_getUpdates]
      exact ⟨rfl, rfl, rfl, rfl, rfl⟩

/-- One `GetUpdates` delivers the changes exactly when no tuple addition is deliverable. -/
theorem deliveredOnce_iff {m : MapUpdate} {changes : List MapChange}
    (h : LogsHold m changes) (o : IterOrder) (t : CounterTree) :
    DeliveredOnce t changes (m.getUpdates o t).1 ↔
      ∀ e ∈ changes.filterMap tupleAdded, tuplePending t e = true := by
  constructor
  · intro hd
    have ht := hd.tuples
    rw [getUpdates_addedTuples] at ht
    exact (Delivers.delivers_nil_iff _).mp ht
  · intro ht
    refine ⟨h.marked, h.removed, h.stateChange, ?_, ?_⟩
    · rw [getUpdates_addedSockets, h.sockets]
      exact Delivers.delivers_filter _ (fun _ hr => hr) _
    · rw [getUpdates_addedTuples]
      exact (Delivers.delivers_nil_iff _).mpr ht

/-- **The changes of a run are delivered exactly when no tuple addition waits at a `GetUpdates`
with its socket not pending removal.** -/
theorem runDelivers_iff (calls : List MapUpdateCall) : RunDelivers calls ↔ NoTupleWaits calls := by
  unfold RunDelivers NoTupleWaits
  refine forall_congr' fun before => forall_congr' fun o => forall_congr' fun t =>
    forall_congr' fun after => forall_congr' fun _ => ?_
  exact deliveredOnce_iff (logsHold_run before) o t

/-- The first datagram to a new peer: its tuple addition is recorded while the socket is open, and
the next message does not have it. -/
theorem lost_tuple_addition :
    ¬ RunDelivers [.record (.addTupleAddition {} 2), .getUpdates IterOrder.stored default] := by
  intro h
  have hd := h [.record (.addTupleAddition {} 2)] IterOrder.stored default [] rfl
  have ht := (deliveredOnce_iff (logsHold_run _) _ _).mp hd ({}, 2) (by decide)
  exact absurd ht (by decide)

end MapUpdate

end Waechter
