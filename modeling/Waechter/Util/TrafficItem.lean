import Mathlib.Algebra.Order.Ring.Rat
import Waechter.Lib.UMap
import Waechter.Util.IPAddress

/-!
# Traffic items

The items of the traffic tree (`Util/Data/*Item.hpp`): `ITrafficItem` and the five kinds derived
from it. The daemon and the client both build their tree from these structures.

A `shared_ptr` to an item is a `Ref`. The daemon gives every item id out once
(`WSystemMap::GetNextItemId`), so there an item's reference is its id; the client numbers the
objects it allocates. `WBytes` is a natural number and `WBytesPerSecond` a rational one.
-/

namespace Waechter

open Lib

abbrev TrafficItemId := Nat
abbrev SocketCookie := Nat
abbrev ProcessId := Int
abbrev WBytes := Nat
abbrev BytesPerSecond := Rat
abbrev Msec := Int
abbrev Ref := Nat

/-- `ETrafficItemType`. -/
inductive TrafficItemType where
  | system
  | application
  | filter
  | process
  | socket
  | tuple
  deriving DecidableEq, Repr, Inhabited

/-- `ESocketConnectionState`. -/
inductive SocketConnectionState where
  | unknown
  | created
  | connecting
  | connected
  | closed
  deriving DecidableEq, Repr, Inhabited

/-- `ESocketType::Type`: bit flags, since a UDP socket can listen and be connected at once. -/
abbrev SocketType := UInt8

namespace SocketType

def unknown : SocketType := 0
def connect : SocketType := 1
def listen : SocketType := 2
def accept : SocketType := 4

end SocketType

/-- `ITrafficItem`. -/
structure TrafficItem where
  itemId : TrafficItemId := 0
  downloadSpeed : BytesPerSecond := 0
  uploadSpeed : BytesPerSecond := 0
  totalDownloadBytes : WBytes := 0
  totalUploadBytes : WBytes := 0
  deriving DecidableEq, Inhabited

/-- `WTupleItem`. -/
structure TupleItem extends TrafficItem where
  endpoint : Endpoint := {}
  deriving Inhabited

/-- `WSocketItem`. -/
structure SocketItem extends TrafficItem where
  socketTuple : SocketTuple := {}
  /-- Only for UDP sockets, since they can send to and receive from many addresses. -/
  udpPerConnectionTraffic : List Ref := []
  cookie : SocketCookie := 0
  socketType : SocketType := .unknown
  connectionState : SocketConnectionState := .unknown
  deriving Inhabited

/-- `WProcessItem`. -/
structure ProcessItem extends TrafficItem where
  processId : ProcessId := 0
  sockets : UMap SocketCookie Ref := ∅
  deriving Inhabited

/-- `WApplicationItem`. -/
structure ApplicationItem extends TrafficItem where
  applicationName : String := ""
  applicationPath : String := ""
  applicationCommandLine : String := ""
  processes : UMap ProcessId Ref := ∅
  deriving Inhabited

/-- `WFilterItem`. -/
structure FilterItem extends TrafficItem where
  name : String := ""
  deriving Inhabited

/-- `WSystemItem`. -/
structure SystemItem extends TrafficItem where
  hostName : String := "System"
  filters : List FilterItem := []
  applications : UMap String Ref := ∅
  deriving Inhabited

/-- A type derived from `ITrafficItem`: its base part can be read and replaced. -/
class IsTrafficItem (T : Type) where
  base : T → TrafficItem
  setBase : T → TrafficItem → T
  base_setBase : ∀ t b, base (setBase t b) = b
  setBase_base : ∀ t, setBase t (base t) = t

attribute [simp] IsTrafficItem.base_setBase IsTrafficItem.setBase_base

instance : IsTrafficItem TupleItem := ⟨(·.toTrafficItem), fun t b => { t with toTrafficItem := b },
  fun _ _ => rfl, fun _ => rfl⟩

instance : IsTrafficItem SocketItem := ⟨(·.toTrafficItem), fun t b => { t with toTrafficItem := b },
  fun _ _ => rfl, fun _ => rfl⟩

instance : IsTrafficItem ProcessItem := ⟨(·.toTrafficItem),
  fun t b => { t with toTrafficItem := b }, fun _ _ => rfl, fun _ => rfl⟩

instance : IsTrafficItem ApplicationItem := ⟨(·.toTrafficItem),
  fun t b => { t with toTrafficItem := b }, fun _ _ => rfl, fun _ => rfl⟩

instance : IsTrafficItem FilterItem := ⟨(·.toTrafficItem), fun t b => { t with toTrafficItem := b },
  fun _ _ => rfl, fun _ => rfl⟩

instance : IsTrafficItem SystemItem := ⟨(·.toTrafficItem), fun t b => { t with toTrafficItem := b },
  fun _ _ => rfl, fun _ => rfl⟩

end Waechter
