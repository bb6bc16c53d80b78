import Waechter.Util.TrafficItem

/-!
# Messages to the helper process

`WIPLinkMsg` (`Util/IPLinkMsg.hpp`): what the daemon asks the process that runs `tc` as root.
-/

namespace Waechter

/-- `WSetupHtbClassMsg`. -/
structure SetupHtbClassMsg where
  interfaceName : String
  mark : UInt32
  minorId : UInt16
  isRoot : Bool
  rateLimit : BytesPerSecond
  deriving DecidableEq

/-- `WRemoveHtbClassMsg`. -/
structure RemoveHtbClassMsg where
  interfaceName : String
  mark : UInt32
  minorId : UInt16
  isRoot : Bool
  deriving DecidableEq

/-- `WIPLinkMsg`. -/
inductive IPLinkMsg where
  | exit
  | setupHtbClass (msg : SetupHtbClassMsg)
  | removeHtbClass (msg : RemoveHtbClassMsg)
  | lookupEndpoints (endpoints : List Endpoint)
  deriving DecidableEq

/-- The message changes the traffic control. -/
def IPLinkMsg.isHtb : IPLinkMsg → Bool
  | .setupHtbClass _ | .removeHtbClass _ => true
  | .exit | .lookupEndpoints _ => false

end Waechter
