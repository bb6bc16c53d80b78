import Waechter.Util.TrafficCounter

/-!
# Rules

`ESwitchState`, `WTrafficItemRulesBase` (`Util/EBPFCommon.h`), `WTrafficItemRules`
(`Util/Data/Rule.hpp`) and `WRuleUpdate` (`Util/Data/RuleUpdate.hpp`). The base part is what the
kernel map `socket_rules` holds; limits and the rule type stay with the daemon and the clients.
-/

namespace Waechter

/-- `ESwitchState`. -/
inductive SwitchState where
  | none
  | block
  | allow
  deriving DecidableEq, Repr, Inhabited

/-- `ERuleType`. -/
inductive RuleType where
  /-- Set indirectly through a parent rule. -/
  | implicit
  /-- Set by the user. -/
  | explicit
  deriving DecidableEq, Repr, Inhabited

/-- `WTrafficItemRulesBase`. -/
structure TrafficItemRulesBase where
  uploadSwitch : SwitchState := .none
  downloadSwitch : SwitchState := .none
  uploadMark : UInt32 := 0
  downloadMark : UInt32 := 0
  deriving DecidableEq, Inhabited

/-- `WTrafficItemRules`. -/
structure TrafficItemRules extends TrafficItemRulesBase where
  uploadLimit : BytesPerSecond := 0
  downloadLimit : BytesPerSecond := 0
  ruleType : RuleType := .implicit
  deriving DecidableEq, Inhabited

/-- The switch for the packets of a direction. -/
def TrafficItemRulesBase.switch (r : TrafficItemRulesBase) : PacketDirection → SwitchState
  | .outgoing => r.uploadSwitch
  | .incoming => r.downloadSwitch

namespace TrafficItemRules

/-- `AsBase`. -/
def asBase (r : TrafficItemRules) : TrafficItemRulesBase := r.toTrafficItemRulesBase

/-- `IsDefault`: the rule type does not count. -/
def isDefault (r : TrafficItemRules) : Bool :=
  r.uploadSwitch = .none && r.downloadSwitch = .none && r.uploadMark = 0 && r.downloadMark = 0 &&
    r.uploadLimit = 0 && r.downloadLimit = 0

/-- `serialize` sends the switches, the limits and the type; the receiver starts from a default
rule, so the marks arrive as 0. -/
def received (r : TrafficItemRules) : TrafficItemRules :=
  { uploadSwitch := r.uploadSwitch
    downloadSwitch := r.downloadSwitch
    uploadLimit := r.uploadLimit
    downloadLimit := r.downloadLimit
    ruleType := r.ruleType }

end TrafficItemRules

/-- `WRuleUpdate`. -/
structure RuleUpdate where
  rules : TrafficItemRules := {}
  trafficItemId : TrafficItemId := 0
  /-- Only for socket and process updates. -/
  parentAppId : TrafficItemId := 0
  deriving DecidableEq, Inhabited

end Waechter
