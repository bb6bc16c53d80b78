import Waechter.Util.Rule

/-!
# Effective rules

`GetEffectiveSwitchState`, `GetEffectiveMark`, `GetEffectiveLimit` and `GetEffectiveRules`
(`Daemon/Rules/RuleManager.cpp`): how the rules of an item combine with those of its parent.
`UpdateRuleCache` folds them from the system rules down to a socket.

A switch follows the most specific explicit rule that sets it (`foldl_switch`); a limit follows
the least specific one (`foldl_limit`).
-/

namespace Waechter

/-- `GetEffectiveSwitchState`. -/
def getEffectiveSwitchState (parentState itemState : SwitchState) (itemRuleType : RuleType) :
    SwitchState :=
  if itemRuleType = .implicit then parentState
  else if itemState = .none then parentState
  else itemState

/-- `GetEffectiveMark`. -/
def getEffectiveMark (parentMark itemMark : UInt32) (itemRuleType : RuleType) : UInt32 :=
  if itemRuleType = .implicit then parentMark
  else if itemMark = 0 then parentMark
  else itemMark

/-- `GetEffectiveLimit`. -/
def getEffectiveLimit (parentLimit itemLimit : BytesPerSecond) (itemRuleType : RuleType) :
    BytesPerSecond :=
  if itemRuleType = .implicit then parentLimit
  else if parentLimit ≠ 0 then parentLimit
  else itemLimit

/-- `GetEffectiveRules`: the rule type stays that of the item. -/
def getEffectiveRules (parentRules itemRules : TrafficItemRules) : TrafficItemRules :=
  { itemRules with
    uploadSwitch := getEffectiveSwitchState parentRules.uploadSwitch itemRules.uploadSwitch
      itemRules.ruleType
    downloadSwitch := getEffectiveSwitchState parentRules.downloadSwitch itemRules.downloadSwitch
      itemRules.ruleType
    uploadMark := getEffectiveMark parentRules.uploadMark itemRules.uploadMark itemRules.ruleType
    downloadMark := getEffectiveMark parentRules.downloadMark itemRules.downloadMark
      itemRules.ruleType
    downloadLimit := getEffectiveLimit parentRules.downloadLimit itemRules.downloadLimit
      itemRules.ruleType
    uploadLimit := getEffectiveLimit parentRules.uploadLimit itemRules.uploadLimit
      itemRules.ruleType }

/-- The rules `UpdateRuleCache` computes for a socket. -/
def effectiveSocketRules (systemRules appRules procRules sockRules : TrafficItemRules) :
    TrafficItemRules :=
  getEffectiveRules (getEffectiveRules (getEffectiveRules systemRules appRules) procRules) sockRules

/-! ## What a chain of rules comes to -/

/-- The switch a rule sets for a direction, when it sets one. -/
def explicitSwitch (d : PacketDirection) (r : TrafficItemRules) : Option SwitchState :=
  if r.ruleType = .explicit ∧ r.switch d ≠ .none then some (r.switch d) else none

/-- The download limit a rule sets, when it sets one. -/
def explicitLimit (r : TrafficItemRules) : Option BytesPerSecond :=
  if r.ruleType = .explicit ∧ r.downloadLimit ≠ 0 then some r.downloadLimit else none

theorem switch_getEffectiveRules (d : PacketDirection) (p r : TrafficItemRules) :
    (getEffectiveRules p r).switch d = (explicitSwitch d r).getD (p.switch d) := by
  have key : ∀ s : SwitchState, getEffectiveSwitchState (p.switch d) s r.ruleType =
      (if r.ruleType = .explicit ∧ s ≠ .none then some s else none).getD (p.switch d) := by
    intro s
    unfold getEffectiveSwitchState
    cases r.ruleType with
    | implicit => rfl
    | explicit => cases s <;> rfl
  unfold explicitSwitch
  rw [← key]
  cases d <;> rfl

/-- **The most specific explicit switch wins.** -/
theorem foldl_switch (d : PacketDirection) : ∀ (chain : List TrafficItemRules)
    (p : TrafficItemRules), (chain.foldl getEffectiveRules p).switch d =
      ((chain.filterMap (explicitSwitch d)).getLast?).getD (p.switch d)
  | [], p => rfl
  | r :: chain, p => by
    rw [List.foldl_cons, foldl_switch d chain, switch_getEffectiveRules]
    cases h : explicitSwitch d r with
    | none => rw [List.filterMap_cons_none h, Option.getD_none]
    | some s =>
      rw [List.filterMap_cons_some h, List.getLast?_cons, Option.getD_some]
      cases (chain.filterMap (explicitSwitch d)).getLast? <;> rfl

theorem downloadLimit_getEffectiveRules (p r : TrafficItemRules) :
    (getEffectiveRules p r).downloadLimit =
      if p.downloadLimit ≠ 0 then p.downloadLimit else (explicitLimit r).getD 0 := by
  unfold getEffectiveRules getEffectiveLimit explicitLimit
  cases r.ruleType with
  | implicit => by_cases hp : p.downloadLimit = 0 <;> simp [hp]
  | explicit =>
    by_cases hp : p.downloadLimit = 0 <;> by_cases hr : r.downloadLimit = 0 <;> simp [hp, hr]

/-- **The least specific limit wins.** -/
theorem foldl_limit : ∀ (chain : List TrafficItemRules) (p : TrafficItemRules),
    (chain.foldl getEffectiveRules p).downloadLimit =
      if p.downloadLimit ≠ 0 then p.downloadLimit
      else (chain.filterMap explicitLimit).head?.getD 0
  | [], p => by simp
  | r :: chain, p => by
    rw [List.foldl_cons, foldl_limit chain, downloadLimit_getEffectiveRules]
    by_cases hp : p.downloadLimit ≠ 0
    · simp [hp]
    · rw [if_neg hp, if_neg hp]
      cases h : explicitLimit r with
      | none => simp [List.filterMap_cons_none h]
      | some l =>
        have hl : l ≠ 0 := by
          unfold explicitLimit at h
          split at h
          · rename_i hr
            exact Option.some.inj h ▸ hr.2
          · exact absurd h (by simp)
        simp [List.filterMap_cons_some h, hl]

/-- A chain of rules that nobody set comes to what is above it. -/
theorem getEffectiveRules_implicit (p : TrafficItemRules) {r : TrafficItemRules}
    (h : r.ruleType = .implicit) : (getEffectiveRules p r).asBase = p.asBase := by
  simp [getEffectiveRules, getEffectiveSwitchState, getEffectiveMark, h, TrafficItemRules.asBase]

end Waechter
