import Waechter.Util.TrafficItem

/-!
# The update messages of the traffic tree

`WTrafficTreeUpdates` and its entries (`Util/Data/TrafficTreeUpdate.hpp`).
-/

namespace Waechter

/-- `WTrafficTreeTrafficUpdate`. -/
structure TrafficTreeTrafficUpdate where
  itemId : TrafficItemId
  newDownloadSpeed : BytesPerSecond
  newUploadSpeed : BytesPerSecond
  totalDownloadBytes : WBytes
  totalUploadBytes : WBytes
  deriving DecidableEq

/-- The constructor from an item. -/
def TrafficTreeTrafficUpdate.ofItem (item : TrafficItem) : TrafficTreeTrafficUpdate :=
  { itemId := item.itemId
    newDownloadSpeed := item.downloadSpeed
    newUploadSpeed := item.uploadSpeed
    totalDownloadBytes := item.totalDownloadBytes
    totalUploadBytes := item.totalUploadBytes }

/-- `WTrafficTreeSocketAddition`. -/
structure TrafficTreeSocketAddition where
  itemId : TrafficItemId
  processItemId : TrafficItemId
  applicationItemId : TrafficItemId
  socketCookie : SocketCookie
  processId : ProcessId
  applicationPath : String
  applicationName : String
  applicationCommandLine : String
  socketTuple : SocketTuple
  connectionState : SocketConnectionState
  socketType : SocketType
  deriving DecidableEq

/-- `WTrafficTreeTupleAddition`. -/
structure TrafficTreeTupleAddition where
  itemId : TrafficItemId
  socketItemId : TrafficItemId
  endpoint : Endpoint
  deriving DecidableEq

/-- `WTrafficTreeSocketStateChange`. -/
structure TrafficTreeSocketStateChange where
  itemId : TrafficItemId
  newState : SocketConnectionState
  socketType : SocketType
  socketTuple : Option SocketTuple
  deriving DecidableEq

/-- `WTrafficTreeUpdates`. -/
structure TrafficTreeUpdates where
  markedForRemovalItems : List TrafficItemId := []
  removedItems : List TrafficItemId := []
  updatedItems : List TrafficTreeTrafficUpdate := []
  addedSockets : List TrafficTreeSocketAddition := []
  addedTuples : List TrafficTreeTupleAddition := []
  socketStateChange : List TrafficTreeSocketStateChange := []
  deriving DecidableEq

end Waechter
