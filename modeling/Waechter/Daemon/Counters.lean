import Waechter.Util.TrafficCounter

/-!
# The counters of the daemon

`WAppCounter`, `WProcessCounter`, `WSocketCounter`, `WTupleCounter` and `WFilterCounter`
(`Daemon/Data/Counters.hpp`), and the maps of `WSystemMap` that hold them
(`Daemon/Data/SystemMap.hpp`).

A `shared_ptr` to a counter and the one to its item are the same `Ref`: the id of the item, which
the daemon gives out once. `CounterTree` keeps every counter that was ever created under its
reference, so an object that left the maps can still be reached through the pointers that are
left, as with `shared_ptr`.
-/

namespace Waechter

open Lib

/-- `WAppCounter`. -/
structure AppCounter extends TrafficCounter ApplicationItem
  deriving Inhabited

/-- `WProcessCounter`. -/
structure ProcessCounter extends TrafficCounter ProcessItem where
  parentApp : Ref := 0
  deriving Inhabited

/-- `WSocketCounter`. -/
structure SocketCounter extends TrafficCounter SocketItem where
  parentProcess : Ref := 0
  udpPerConnectionCounters : UMap Endpoint Ref := ∅
  deriving Inhabited

/-- `WTupleCounter`. -/
structure TupleCounter extends TrafficCounter TupleItem where
  parentSocket : Ref := 0
  deriving Inhabited

/-- `WFilterCounter`. `FilterFunction` is called with a remote endpoint everywhere, so the local
one and the item id are not used. -/
structure FilterCounter extends TrafficCounter FilterItem where
  filterFunction : IPAddress → Bool := fun _ => false
  deriving Inhabited

/-- The maps of `WSystemMap`, and the counters by reference. -/
structure CounterTree where
  nextItemId : TrafficItemId
  systemCounter : TrafficCounter SystemItem
  filterCounters : List FilterCounter
  applications : UMap String Ref
  processes : UMap ProcessId Ref
  sockets : UMap SocketCookie Ref
  /-- An item by its id. The item is the one with that reference, so its type says which. -/
  trafficItems : UMap TrafficItemId TrafficItemType
  orphanedSockets : UMap Endpoint Ref
  app : Ref → AppCounter
  process : Ref → ProcessCounter
  socket : Ref → SocketCounter
  tuple : Ref → TupleCounter

instance : Inhabited CounterTree :=
  ⟨{ nextItemId := 1, systemCounter := default, filterCounters := [], applications := ∅,
     processes := ∅, sockets := ∅, trafficItems := ∅, orphanedSockets := ∅, app := default,
     process := default, socket := default, tuple := default }⟩

namespace CounterTree

/-- `SystemItem->Applications`. -/
def systemApplications (t : CounterTree) : UMap String Ref :=
  t.systemCounter.trafficItem.applications

end CounterTree

end Waechter
