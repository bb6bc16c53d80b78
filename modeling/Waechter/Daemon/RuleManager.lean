import Waechter.Daemon.Cleanup
import Waechter.EBPF.Traffic

/-!
# The rule manager

`WRuleManager` (`Daemon/Rules/RuleManager.hpp`, `RuleManager.cpp`): the rules of the system, the
applications, the processes and the sockets, the cache of effective rules by cookie, and the
kernel's `socket_rules` map, whose updates all succeed.

What the database holds and the marks `WIPLink` gives to limits are read from outside.

* `held_handleRuleChange`: an accepted rule change sets the rule of its item and of nothing else.
* `handleRuleChange_ignored`, `handleRuleChange_broadcast`: what is broadcast of it.
-/

namespace Waechter

open Lib

/-- `WSocketRules`. -/
structure CookieRules where
  rules : TrafficItemRulesBase := {}
  socketId : TrafficItemId := 0
  dirty : Bool := true

/-- `WRuleManager`, with the kernel map. -/
structure RuleManager where
  systemRules : TrafficItemRules := {}
  applicationRules : UMap TrafficItemId TrafficItemRules := ∅
  processRules : UMap TrafficItemId TrafficItemRules := ∅
  socketRules : UMap TrafficItemId TrafficItemRules := ∅
  socketCookieRules : UMap SocketCookie CookieRules := ∅
  /-- The kernel's `socket_rules` map. -/
  kernel : SocketRulesMap := ∅

/-- `Map.contains(i) ? Map[i] : WTrafficItemRules{}`. -/
def rulesOf (m : UMap TrafficItemId TrafficItemRules) (i : TrafficItemId) : TrafficItemRules :=
  (m.lookup i).getD {}

/-- A row of the rule table. -/
structure DbRule where
  downloadLimit : BytesPerSecond
  uploadLimit : BytesPerSecond
  downloadSwitch : SwitchState
  uploadSwitch : SwitchState

/-- What the rule manager reads from outside. -/
structure RuleEnv : Type 1 where
  order : IterOrder
  /-- The mark `WIPLink` gives to a download limit of an item. -/
  downloadMark : TrafficItemId → BytesPerSecond → UInt32
  uploadMark : TrafficItemId → BytesPerSecond → UInt32
  /-- The row whose target is an application path, or `system`. -/
  dbRule : String → Option DbRule

namespace RuleManager

/-! ## The cache -/

/-- One socket of `UpdateRuleCache`. -/
def cacheSocket (effectiveProcRules : TrafficItemRules) (t : CounterTree) (m : RuleManager)
    (entry : SocketCookie × Ref) : RuleManager :=
  let itemId := (t.socket entry.2).trafficItem.itemId
  let sockRules := rulesOf m.socketRules itemId
  let effectiveSockRules := getEffectiveRules effectiveProcRules sockRules
  let m := { m with socketRules := m.socketRules.insert itemId sockRules }
  match m.socketCookieRules.lookup entry.1 with
  | some cached =>
    if cached.rules = effectiveSockRules.asBase then m
    else
      { m with
        socketCookieRules := m.socketCookieRules.insert entry.1
          { cached with rules := effectiveSockRules.asBase, dirty := true } }
  | none =>
    { m with
      socketCookieRules := m.socketCookieRules.insert entry.1
        { rules := effectiveSockRules.asBase, socketId := itemId, dirty := true } }

/-- One process of `UpdateRuleCache`. -/
def cacheProcess (o : IterOrder) (effectiveAppRules : TrafficItemRules) (t : CounterTree)
    (m : RuleManager) (p : Ref) : RuleManager :=
  let item := (t.process p).trafficItem
  let procRules := rulesOf m.processRules item.itemId
  (o.entries item.sockets).foldl (cacheSocket (getEffectiveRules effectiveAppRules procRules) t) m

/-- `UpdateRuleCache` for an application. -/
def cacheApp (o : IterOrder) (t : CounterTree) (m : RuleManager) (a : Ref) : RuleManager :=
  let item := (t.app a).trafficItem
  let appRules := rulesOf m.applicationRules item.itemId
  (o.values item.processes).foldl (cacheProcess o (getEffectiveRules m.systemRules appRules) t) m

/-- `UpdateRuleCache`: the system item updates every application, an application itself, and
anything else nothing. -/
def updateRuleCache (o : IterOrder) (t : CounterTree) (root : TrafficItemId × TrafficItemType)
    (m : RuleManager) : RuleManager :=
  match root.2 with
  | .system => (o.values t.systemApplications).foldl (cacheApp o t) m
  | .application => cacheApp o t m root.1
  | _ => m

/-- One entry of `SyncRules`. -/
def syncSocket (m : RuleManager) (entry : SocketCookie × CookieRules) : RuleManager :=
  if entry.2.dirty then
    { m with
      kernel := m.kernel.insert entry.1 entry.2.rules
      socketCookieRules := m.socketCookieRules.insert entry.1 { entry.2 with dirty := false } }
  else m

/-- `SyncRules`. -/
def syncRules (o : IterOrder) (m : RuleManager) : RuleManager :=
  (o.entries m.socketCookieRules).foldl syncSocket m

/-- The test of `RemoveEmptyRules` on an entry of the cache. -/
def CookieRules.isEmpty (r : CookieRules) : Bool :=
  r.rules.downloadMark = 0 && r.rules.uploadMark = 0 && r.rules.uploadSwitch = .none &&
    r.rules.downloadSwitch = .none

/-- `RemoveEmptyRules`. -/
def removeEmptyRules (m : RuleManager) : RuleManager :=
  { m with
    systemRules := if m.systemRules.isDefault then {} else m.systemRules
    applicationRules := m.applicationRules.eraseIf TrafficItemRules.isDefault
    processRules := m.processRules.eraseIf TrafficItemRules.isDefault
    socketRules := m.socketRules.eraseIf TrafficItemRules.isDefault
    socketCookieRules := m.socketCookieRules.eraseIf CookieRules.isEmpty }

/-! ## Rule changes -/

/-- The marks of a rule change: a limit gets the mark `WIPLink` gives to it. -/
def withMarks (env : RuleEnv) (i : TrafficItemId) (r : TrafficItemRules) : TrafficItemRules :=
  { r with
    downloadMark := if r.downloadLimit = 0 then r.downloadMark
      else env.downloadMark i r.downloadLimit
    uploadMark := if r.uploadLimit = 0 then r.uploadMark else env.uploadMark i r.uploadLimit }

/-- Store the rule of an item by its type. Nothing is stored for a tuple or a filter. -/
def store (ty : TrafficItemType) (i : TrafficItemId) (r : TrafficItemRules) (m : RuleManager) :
    RuleManager :=
  match ty with
  | .system => { m with systemRules := r }
  | .application => { m with applicationRules := m.applicationRules.insert i r }
  | .process => { m with processRules := m.processRules.insert i r }
  | .socket => { m with socketRules := m.socketRules.insert i r }
  | _ => m

/-- The item whose part of the cache a rule change updates. -/
def cacheRoot (t : CounterTree) (update : RuleUpdate) (ty : TrafficItemType) :
    Option (TrafficItemId × TrafficItemType) :=
  if ty = .system then some (update.trafficItemId, ty)
  else (t.trafficItems.lookup update.parentAppId).map fun rootTy => (update.parentAppId, rootTy)

/-- `HandleRuleChange` on a deserialized update, and the update it broadcasts. An update for an
item or a parent application that is not in `TrafficItems` is ignored. -/
def handleRuleChange (env : RuleEnv) (t : CounterTree) (update : RuleUpdate) (m : RuleManager) :
    RuleManager × Option RuleUpdate :=
  match t.trafficItems.lookup update.trafficItemId with
  | none => (m, none)
  | some ty =>
    match cacheRoot t update ty with
    | none => (m, none)
    | some root =>
      -- the system rule is also in the kernel, under cookie 0
      let m := if ty = .system then
          { m with kernel := m.kernel.insert 0 update.rules.asBase }
        else m
      let rules := withMarks env update.trafficItemId update.rules
      let m := store ty update.trafficItemId rules m
      (removeEmptyRules (syncRules env.order (updateRuleCache env.order t root m)),
        some { update with rules := rules })

/-! ## Signals -/

/-- The rules that apply to a process. -/
def effectiveProcRules (t : CounterTree) (p : Ref) (m : RuleManager) : TrafficItemRules :=
  let app := (t.process p).parentApp
  getEffectiveRules (getEffectiveRules m.systemRules
      (rulesOf m.applicationRules (t.app app).trafficItem.itemId))
    (rulesOf m.processRules (t.process p).trafficItem.itemId)

/-- `OnSocketConnected`. -/
def onSocketConnected (o : IterOrder) (t : CounterTree) (socket : Ref) (m : RuleManager) :
    RuleManager :=
  let p := (t.socket socket).parentProcess
  if !(m.effectiveProcRules t p).isDefault then
    syncRules o (updateRuleCache o t ((t.process p).parentApp, .application) m)
  else m

/-- `OnSocketRemoved`: the kernel keeps its entry. -/
def onSocketRemoved (t : CounterTree) (socket : Ref) (m : RuleManager) : RuleManager :=
  let item := (t.socket socket).trafficItem
  { m with
    socketRules := m.socketRules.erase item.itemId
    socketCookieRules := m.socketCookieRules.erase item.cookie }

/-- `OnProcessRemoved`. -/
def onProcessRemoved (t : CounterTree) (process : Ref) (m : RuleManager) : RuleManager :=
  { m with processRules := m.processRules.erase (t.process process).trafficItem.itemId }

/-- The rule that is loaded from a row for an item. -/
def loadedRules (env : RuleEnv) (i : TrafficItemId) (row : DbRule) : TrafficItemRules :=
  { downloadSwitch := row.downloadSwitch
    uploadSwitch := row.uploadSwitch
    ruleType := .explicit
    downloadLimit := row.downloadLimit
    uploadLimit := row.uploadLimit
    downloadMark := if 0 < row.downloadLimit then env.downloadMark i row.downloadLimit else 0
    uploadMark := if 0 < row.uploadLimit then env.uploadMark i row.uploadLimit else 0 }

/-- `OnAppFirstTimeConnected`. -/
def onAppFirstTimeConnected (env : RuleEnv) (t : CounterTree) (app : Ref) (m : RuleManager) :
    RuleManager :=
  let item := (t.app app).trafficItem
  match env.dbRule item.applicationPath with
  | none => m
  | some row =>
    let rules := loadedRules env item.itemId row
    if rules.isDefault then m
    else
      syncRules env.order (updateRuleCache env.order t (app, .application)
        { m with applicationRules := m.applicationRules.insert item.itemId rules })

/-- `LoadSystemRule`. -/
def loadSystemRule (env : RuleEnv) (t : CounterTree) (m : RuleManager) : RuleManager :=
  match env.dbRule "system" with
  | none => m
  | some row =>
    let rules := loadedRules env 0 row
    if rules.isDefault then m
    else syncRules env.order (updateRuleCache env.order t (0, .system)
      { m with systemRules := rules })

/-- The listener that `RegisterSignalHandlers` connects. -/
def listener (env : RuleEnv) : Handler RuleManager := fun n t m =>
  match n with
  | .onSocketConnected r => m.onSocketConnected env.order t r
  | .onSocketRemoved r => m.onSocketRemoved t r
  | .onProcessRemoved p => m.onProcessRemoved t p
  | .onAppFirstTimeConnected a => m.onAppFirstTimeConnected env t a
  | _ => m

/-- `SendCurrentRulesToClient`: the messages for a new client. -/
def currentRules (o : IterOrder) (m : RuleManager) : List RuleUpdate :=
  let sendMap (map : UMap TrafficItemId TrafficItemRules) : List RuleUpdate :=
    (o.entries map).map fun e => { rules := e.2, trafficItemId := e.1, parentAppId := 0 }
  (if m.systemRules.isDefault then [] else
      [{ rules := m.systemRules, trafficItemId := 0, parentAppId := 0 }]) ++
    sendMap m.applicationRules ++ sendMap m.processRules ++ sendMap m.socketRules

end RuleManager

/-! ## What the manager holds -/

/-- What a client shows of a rule. -/
structure RuleView where
  uploadSwitch : SwitchState := .none
  downloadSwitch : SwitchState := .none
  uploadLimit : BytesPerSecond := 0
  downloadLimit : BytesPerSecond := 0
  deriving DecidableEq

/-- The switches and the limits of a rule. -/
def TrafficItemRules.shown (r : TrafficItemRules) : RuleView :=
  ⟨r.uploadSwitch, r.downloadSwitch, r.uploadLimit, r.downloadLimit⟩

theorem shown_received (r : TrafficItemRules) : r.received.shown = r.shown := rfl

theorem shown_of_isDefault {r : TrafficItemRules} (h : r.isDefault = true) : r.shown = {} := by
  unfold TrafficItemRules.isDefault at h
  simp only [Bool.and_eq_true, decide_eq_true_eq] at h
  obtain ⟨⟨⟨⟨⟨h1, h2⟩, _⟩, _⟩, h5⟩, h6⟩ := h
  simp only [TrafficItemRules.shown, h1, h2, h5, h6]

namespace RuleManager

/-- The rule of an item, by its type. -/
def held (m : RuleManager) : TrafficItemType → TrafficItemId → TrafficItemRules
  | .system, _ => m.systemRules
  | .application, i => rulesOf m.applicationRules i
  | .process, i => rulesOf m.processRules i
  | .socket, i => rulesOf m.socketRules i
  | _, _ => {}

/-- The items a rule can be stored for. -/
def Stores : TrafficItemType → Prop
  | .tuple => False
  | .filter => False
  | _ => True

/-- The changes that leave every rule alone. -/
structure SameRules (m m' : RuleManager) : Prop where
  systemRules : m'.systemRules = m.systemRules
  applicationRules : m'.applicationRules = m.applicationRules
  processRules : m'.processRules = m.processRules
  socketRules : ∀ i, rulesOf m'.socketRules i = rulesOf m.socketRules i

theorem SameRules.refl (m : RuleManager) : SameRules m m := ⟨rfl, rfl, rfl, fun _ => rfl⟩

theorem SameRules.trans {m m' m'' : RuleManager} (h : SameRules m m') (h' : SameRules m' m'') :
    SameRules m m'' :=
  ⟨h'.systemRules.trans h.systemRules, h'.applicationRules.trans h.applicationRules,
    h'.processRules.trans h.processRules, fun i => (h'.socketRules i).trans (h.socketRules i)⟩

/-- A loop whose turns leave every rule alone. -/
theorem SameRules.foldl {α : Type} {f : RuleManager → α → RuleManager}
    (hf : ∀ m a, SameRules m (f m a)) : ∀ (l : List α) (m : RuleManager), SameRules m (l.foldl f m)
  | [], m => refl m
  | a :: l, m => (hf m a).trans (SameRules.foldl hf l (f m a))

theorem SameRules.held {m m' : RuleManager} (h : SameRules m m') (ty : TrafficItemType)
    (i : TrafficItemId) : m'.held ty i = m.held ty i := by
  cases ty with
  | system => exact h.systemRules
  | application => simp only [RuleManager.held, h.applicationRules]
  | process => simp only [RuleManager.held, h.processRules]
  | socket => exact h.socketRules i
  | _ => rfl

/-- Writing a rule back where it was read. -/
theorem rulesOf_insert_rulesOf (m : UMap TrafficItemId TrafficItemRules) (i j : TrafficItemId) :
    rulesOf (m.insert i (rulesOf m i)) j = rulesOf m j := by
  simp only [rulesOf, UMap.lookup_insert_ite]
  split
  · rename_i hj
    rw [hj, Option.getD_some]
  · rfl

theorem sameRules_cacheSocket (p : TrafficItemRules) (t : CounterTree) (m : RuleManager)
    (e : SocketCookie × Ref) : SameRules m (cacheSocket p t m e) := by
  have h := rulesOf_insert_rulesOf m.socketRules (t.socket e.2).trafficItem.itemId
  unfold cacheSocket
  simp only
  split
  · split
    · exact ⟨rfl, rfl, rfl, h⟩
    · exact ⟨rfl, rfl, rfl, h⟩
  · exact ⟨rfl, rfl, rfl, h⟩

theorem sameRules_cacheApp (o : IterOrder) (t : CounterTree) (m : RuleManager) (a : Ref) :
    SameRules m (cacheApp o t m a) :=
  SameRules.foldl (fun m _ => SameRules.foldl (sameRules_cacheSocket _ t) _ m) _ m

theorem sameRules_updateRuleCache (o : IterOrder) (t : CounterTree)
    (root : TrafficItemId × TrafficItemType) (m : RuleManager) :
    SameRules m (updateRuleCache o t root m) := by
  unfold updateRuleCache
  split
  · exact SameRules.foldl (sameRules_cacheApp o t) _ m
  · exact sameRules_cacheApp o t m root.1
  · exact SameRules.refl m

theorem sameRules_syncRules (o : IterOrder) (m : RuleManager) : SameRules m (syncRules o m) := by
  refine SameRules.foldl (fun m e => ?_) _ m
  unfold syncSocket
  split <;> exact ⟨rfl, rfl, rfl, fun _ => rfl⟩

theorem shown_rulesOf_eraseIf (m : UMap TrafficItemId TrafficItemRules) (i : TrafficItemId) :
    (rulesOf (UMap.eraseIf TrafficItemRules.isDefault m) i).shown = (rulesOf m i).shown := by
  unfold rulesOf
  rw [UMap.lookup_eraseIf]
  cases m.lookup i with
  | none => rfl
  | some r =>
    by_cases hr : r.isDefault = true
    · simp only [Option.filter, hr, Option.getD_some, shown_of_isDefault]
      rfl
    · simp [Option.filter, hr]

/-- Removing the empty rules changes nothing that is shown. -/
theorem shown_held_removeEmptyRules (m : RuleManager) (ty : TrafficItemType) (i : TrafficItemId) :
    (m.removeEmptyRules.held ty i).shown = (m.held ty i).shown := by
  cases ty with
  | system =>
    simp only [held, removeEmptyRules]
    split
    · rename_i h
      rw [shown_of_isDefault h]
      rfl
    · rfl
  | application => exact shown_rulesOf_eraseIf _ i
  | process => exact shown_rulesOf_eraseIf _ i
  | socket => exact shown_rulesOf_eraseIf _ i
  | _ => rfl

theorem held_store (m : RuleManager) {ty : TrafficItemType} (hty : Stores ty) (i : TrafficItemId)
    (r : TrafficItemRules) (ty' : TrafficItemType) (j : TrafficItemId) :
    (m.store ty i r).held ty' j =
      if ty' = ty ∧ (ty = .system ∨ j = i) then r else m.held ty' j := by
  have hread : ∀ map : UMap TrafficItemId TrafficItemRules,
      rulesOf (map.insert i r) j = if j = i then r else rulesOf map j := by
    intro map
    simp only [rulesOf, UMap.lookup_insert_ite]
    split <;> rfl
  cases ty <;> cases ty' <;> first
    | exact hty.elim
    | simp [store, held, hread]

/-- **An accepted rule change sets the rule of its item**, and leaves the other rules alone. -/
theorem held_handleRuleChange (env : RuleEnv) (t : CounterTree) (update : RuleUpdate)
    (m : RuleManager) {ty : TrafficItemType} (hty : Stores ty)
    (hitem : t.trafficItems.lookup update.trafficItemId = some ty)
    (hroot : (cacheRoot t update ty).isSome) (ty' : TrafficItemType) (j : TrafficItemId) :
    let out := handleRuleChange env t update m
    (out.1.held ty' j).shown =
        (if ty' = ty ∧ (ty = .system ∨ j = update.trafficItemId) then update.rules.shown
          else (m.held ty' j).shown) ∧
      ∃ rules : TrafficItemRules, rules.shown = update.rules.shown ∧
        out.2 = some { update with rules := rules } := by
  obtain ⟨root, hroot⟩ := Option.isSome_iff_exists.mp hroot
  unfold handleRuleChange
  simp only [hitem, hroot]
  refine ⟨?_, withMarks env update.trafficItemId update.rules, rfl, rfl⟩
  rw [shown_held_removeEmptyRules, ((sameRules_updateRuleCache _ _ _ _).trans
    (sameRules_syncRules _ _)).held, held_store _ hty]
  split
  · rfl
  · split
    · cases ty' <;> rfl
    · rfl

/-- A rule change leaves the rule of an item alone that it does not store. -/
theorem held_handleRuleChange_of_ne (env : RuleEnv) (t : CounterTree) (update : RuleUpdate)
    (m : RuleManager) (ty' : TrafficItemType) (j : TrafficItemId)
    (hne : ∀ ty, t.trafficItems.lookup update.trafficItemId = some ty →
      ¬ (ty' = ty ∧ (ty = .system ∨ j = update.trafficItemId))) :
    (((handleRuleChange env t update m).1).held ty' j).shown = (m.held ty' j).shown := by
  unfold handleRuleChange
  split
  · rfl
  · rename_i ty hty
    split
    · rfl
    · simp only
      rw [shown_held_removeEmptyRules, ((sameRules_updateRuleCache _ _ _ _).trans
        (sameRules_syncRules _ _)).held]
      have hkernel : (if ty = .system then
          { m with kernel := m.kernel.insert 0 update.rules.asBase } else m).held ty' j =
            m.held ty' j := by
        split
        · cases ty' <;> rfl
        · rfl
      by_cases hs : Stores ty
      · rw [held_store _ hs, if_neg (hne ty hty), hkernel]
      · rw [← hkernel]
        cases ty <;> first | exact absurd trivial hs | rfl

/-- A rule change that is not broadcast changes nothing. -/
theorem handleRuleChange_ignored (env : RuleEnv) (t : CounterTree) (update : RuleUpdate)
    (m : RuleManager) (h : (handleRuleChange env t update m).2 = none) :
    (handleRuleChange env t update m).1 = m := by
  unfold handleRuleChange at h ⊢
  split
  · rfl
  · rename_i ty hty
    rw [hty] at h
    simp only at h ⊢
    split
    · rfl
    · rename_i root hroot
      rw [hroot] at h
      exact absurd h (by simp)

/-- The broadcast is about the item of the update. -/
theorem handleRuleChange_broadcast (env : RuleEnv) (t : CounterTree) (update : RuleUpdate)
    (m : RuleManager) {u : RuleUpdate} (h : (handleRuleChange env t update m).2 = some u) :
    u.trafficItemId = update.trafficItemId ∧ u.rules.shown = update.rules.shown := by
  unfold handleRuleChange at h
  split at h
  · exact absurd h (by simp)
  · split at h
    · exact absurd h (by simp)
    · rw [← Option.some.inj h]
      exact ⟨rfl, rfl⟩

end RuleManager

end Waechter
