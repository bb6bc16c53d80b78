import Waechter.Daemon.Actions
import Waechter.Daemon.IPLink
import Waechter.Daemon.RulePersistence

/-!
# Carrying out the rules

What a rule does outside of the rule manager (`Daemon/Rules/RuleManager.cpp`,
`Daemon/Net/IPLink.cpp`): the limits of `WIPLink`, the rule table, and the kernel's maps
`ingress_port_marks` and `pid_download_marks`, by which the program on the ingress device marks
packets. All updates of the maps succeed. `WriteAppRuleToDb` throws where it finds no row for the
default rule; nothing catches that, and the daemon ends.

The listeners change the rules at some of the notices only, so an operation of the daemon is known
by what they hear in it (`heard`): the notices, with the trees at that time. A condition on the
notices of an operation is one on this list, and an invariant of the notices and of the other
actions is one of the operation (`keeps_heard`).
-/

namespace Waechter

open Lib

/-- The rule manager, the limits, the rule table and the kernel's maps of marks. -/
structure Enforcement where
  manager : RuleManager := {}
  link : IPLink
  ruleTable : RuleTable := {}
  /-- The kernel's `ingress_port_marks` map. -/
  ingressPortMarks : UMap UInt16 UInt16 := ∅
  /-- The kernel's `pid_download_marks` map. -/
  pidDownloadMarks : UMap ProcessId UInt32 := ∅
  /-- The processes that had a socket connect and were not removed since. The source keeps no such
  list. -/
  connected : List Ref := []
  /-- An exception has ended the daemon. -/
  terminated : Bool := false
  /-- What the listeners heard during the operation, and the trees at that time. The source keeps no
  such list. -/
  heard : List (Notice × CounterTree) := []

/-- What is read from outside: the order of the maps, and the columns of the rule table. -/
structure RuleSources : Type 1 where
  order : IterOrder
  column : IntegerColumn

namespace IPLink

/-- Get or remove the limit of an item and a direction: the mark of the limit. -/
def setLimit (d : LimitDirection) (i : TrafficItemId) (limit : BytesPerSecond) (link : IPLink) :
    UInt32 × IPLink :=
  if limit = 0 then (0, link.removeLimit d i)
  else
    let got := link.getLimit d i limit
    (got.1.mark, got.2)

end IPLink

namespace Enforcement

/-! ## The kernel's maps -/

/-- `WIPLink::SetupIngressPortRouting`. -/
def setupIngressPortRouting (downloadMark : UInt32) (destPort : UInt16) (marks : UMap UInt16 UInt16) :
    UMap UInt16 UInt16 := marks.insert destPort downloadMark.toUInt16

/-- `WIPLink::RemoveIngressPortRouting`: the entry stays. -/
def removeIngressPortRouting (destPort : UInt16) (marks : UMap UInt16 UInt16) : UMap UInt16 UInt16 :=
  marks.insert destPort 0

/-- `WIPLink::SetPidDownloadMark`. -/
def setPidDownloadMark (pid : ProcessId) (mark : UInt32) (marks : UMap ProcessId UInt32) :
    UMap ProcessId UInt32 := marks.insert pid mark

/-- `WIPLink::RemovePidDownloadMark`. -/
def removePidDownloadMark (pid : ProcessId) (marks : UMap ProcessId UInt32) :
    UMap ProcessId UInt32 := marks.erase pid

/-- The local port of a socket. -/
def localPort (t : CounterTree) (r : Ref) : UInt16 :=
  (t.socket r).trafficItem.socketTuple.localEndpoint.port

/-- One entry of `SyncRules`, as far as the port of its socket is concerned. -/
def syncPort (t : CounterTree) (marks : UMap UInt16 UInt16) (entry : SocketCookie × CookieRules) :
    UMap UInt16 UInt16 :=
  if entry.2.dirty then
    match t.trafficItems.lookup entry.2.socketId with
    | some .socket =>
      let port := localPort t entry.2.socketId
      if entry.2.rules.downloadMark = 0 then removeIngressPortRouting port marks
      else if port ≠ 0 then setupIngressPortRouting entry.2.rules.downloadMark port marks
      else marks
    | _ => marks
  else marks

/-- `UpdateRuleCache` and `SyncRules`. -/
def refresh (env : RuleSources) (t : CounterTree) (root : TrafficItemId × TrafficItemType)
    (e : Enforcement) : Enforcement :=
  let cached := RuleManager.updateRuleCache env.order t root e.manager
  { e with
    manager := RuleManager.syncRules env.order cached
    ingressPortMarks :=
      (env.order.entries cached.socketCookieRules).foldl (syncPort t) e.ingressPortMarks }

/-- A recomputation leaves the rules alone. -/
theorem sameRules_refresh (env : RuleSources) (t : CounterTree)
    (root : TrafficItemId × TrafficItemType) (e : Enforcement) :
    RuleManager.SameRules e.manager (refresh env t root e).manager :=
  (RuleManager.sameRules_updateRuleCache _ _ _ _).trans (RuleManager.sameRules_syncRules _ _)

/-- The marks of the processes of an application, or of one process, after a rule change. -/
def markPids (pids : List ProcessId) (rules : TrafficItemRules) (marks : UMap ProcessId UInt32) :
    UMap ProcessId UInt32 :=
  if rules.downloadMark ≠ 0 then
    pids.foldl (fun marks pid => setPidDownloadMark pid rules.downloadMark marks) marks
  else if rules.downloadLimit = 0 then
    pids.foldl (fun marks pid => removePidDownloadMark pid marks) marks
  else marks

/-- The processes whose entries a rule change of an item writes. -/
def pidsOf (o : IterOrder) (t : CounterTree) (ty : TrafficItemType) (i : TrafficItemId) :
    List ProcessId :=
  match ty with
  | .application => (o.entries (t.app i).trafficItem.processes).map (·.1)
  | .process => [(t.process i).trafficItem.processId]
  | _ => []

/-- The marks that the limits of an update get, and the limits afterwards. -/
def limitsOf (update : RuleUpdate) (link : IPLink) : (UInt32 × UInt32) × IPLink :=
  let download := link.setLimit .download update.trafficItemId update.rules.downloadLimit
  let upload := download.2.setLimit .upload update.trafficItemId update.rules.uploadLimit
  ((download.1, upload.1), upload.2)

/-- The rules of an update with the marks of its limits. -/
def rulesOfUpdate (update : RuleUpdate) (link : IPLink) : TrafficItemRules :=
  let marks := (limitsOf update link).1
  { update.rules with
    downloadMark := if update.rules.downloadLimit = 0 then update.rules.downloadMark else marks.1
    uploadMark := if update.rules.uploadLimit = 0 then update.rules.uploadMark else marks.2 }

/-! ## The handlers -/

/-- What `HandleRuleChange` does before it writes the row: the entry of cookie 0, the limits, the
rule and the marks. -/
def changeRule (env : RuleSources) (t : CounterTree) (update : RuleUpdate) (ty : TrafficItemType)
    (e : Enforcement) : Enforcement :=
  let m := if ty = .system then
      { e.manager with kernel := e.manager.kernel.insert 0 update.rules.asBase }
    else e.manager
  let ports := if update.rules.downloadLimit = 0 ∧ ty = .socket then
      removeIngressPortRouting (localPort t update.trafficItemId) e.ingressPortMarks
    else e.ingressPortMarks
  let rules := rulesOfUpdate update e.link
  { e with
    manager := RuleManager.store ty update.trafficItemId rules m
    link := (limitsOf update e.link).2
    ingressPortMarks := ports
    pidDownloadMarks := markPids (pidsOf env.order t ty update.trafficItemId) rules e.pidDownloadMarks }

/-- The row of a changed rule is written: rules of processes and sockets have none. -/
def writeRow (t : CounterTree) (ty : TrafficItemType) (i : TrafficItemId) (rules : TrafficItemRules)
    (table : RuleTable) : Except String RuleTable :=
  match ty with
  | .system => .ok (table.writeSystemRuleToDb rules)
  | .application => table.writeAppRuleToDb rules (t.app i).trafficItem.applicationPath
  | _ => .ok table

/-- `HandleRuleChange` on a deserialized update. -/
def handleRuleChange (env : RuleSources) (t : CounterTree) (update : RuleUpdate) (e : Enforcement) :
    Enforcement :=
  match t.trafficItems.lookup update.trafficItemId with
  | none => e
  | some ty =>
    match RuleManager.cacheRoot t update ty with
    | none => e
    | some root =>
      let changed := changeRule env t update ty e
      match writeRow t ty update.trafficItemId (rulesOfUpdate update e.link) e.ruleTable with
      | .error _ => { changed with terminated := true }
      | .ok table =>
        let e := refresh env t root { changed with ruleTable := table }
        { e with manager := e.manager.removeEmptyRules }

/-- `OnSocketConnected`. -/
def onSocketConnected (env : RuleSources) (t : CounterTree) (socket : Ref) (e : Enforcement) :
    Enforcement :=
  let p := (t.socket socket).parentProcess
  let rules := e.manager.effectiveProcRules t p
  let e := { e with connected := p :: e.connected }
  if !rules.isDefault then
    let e := refresh env t ((t.process p).parentApp, .application) e
    if rules.downloadMark ≠ 0 then
      { e with
        pidDownloadMarks := setPidDownloadMark (t.process p).trafficItem.processId rules.downloadMark
          e.pidDownloadMarks }
    else e
  else e

/-- `WRuleManager::OnSocketRemoved` and `WIPLink::OnSocketRemoved`. -/
def onSocketRemoved (t : CounterTree) (socket : Ref) (e : Enforcement) : Enforcement :=
  let i := (t.socket socket).trafficItem.itemId
  { e with
    manager := e.manager.onSocketRemoved t socket
    link := (e.link.removeDownloadLimit i).removeUploadLimit i
    ingressPortMarks := removeIngressPortRouting (localPort t socket) e.ingressPortMarks }

/-- `OnProcessRemoved`. -/
def onProcessRemoved (t : CounterTree) (process : Ref) (e : Enforcement) : Enforcement :=
  { e with
    manager := e.manager.onProcessRemoved t process
    pidDownloadMarks :=
      removePidDownloadMark (t.process process).trafficItem.processId e.pidDownloadMarks
    connected := e.connected.filter (· ≠ process) }

/-- The rules of a row with the marks of its limits, and the limits afterwards. -/
def loadedRules (i : TrafficItemId) (row : DbRule) (link : IPLink) : TrafficItemRules × IPLink :=
  let download := if 0 < row.downloadLimit then link.setLimit .download i row.downloadLimit
    else (0, link)
  let upload := if 0 < row.uploadLimit then download.2.setLimit .upload i row.uploadLimit
    else (0, download.2)
  ({ downloadSwitch := row.downloadSwitch
     uploadSwitch := row.uploadSwitch
     ruleType := .explicit
     downloadLimit := row.downloadLimit
     uploadLimit := row.uploadLimit
     downloadMark := download.1
     uploadMark := upload.1 }, upload.2)

/-- The part of `OnAppFirstTimeConnected` and `LoadSystemRule` after the row is found. -/
def load (env : RuleSources) (t : CounterTree) (root : TrafficItemId × TrafficItemType)
    (i : TrafficItemId) (target : String) (e : Enforcement) : Enforcement :=
  match e.ruleTable.read env.column target with
  | none => e
  | some row =>
    let loaded := loadedRules i row e.link
    let e := { e with link := loaded.2 }
    if loaded.1.isDefault then e
    else refresh env t root { e with manager := RuleManager.store root.2 i loaded.1 e.manager }

/-- `OnAppFirstTimeConnected`. -/
def onAppFirstTimeConnected (env : RuleSources) (t : CounterTree) (app : Ref) (e : Enforcement) :
    Enforcement :=
  let item := (t.app app).trafficItem
  load env t (app, .application) item.itemId item.applicationPath e

/-- `LoadSystemRule`. -/
def loadSystemRule (env : RuleSources) (t : CounterTree) (e : Enforcement) : Enforcement :=
  load env t (0, .system) 0 "system" e

/-- What a rule change does: it is ignored, it ends the daemon, or it is carried out. -/
inductive Changes (env : RuleSources) (t : CounterTree) (update : RuleUpdate) (e : Enforcement) :
    Enforcement → Prop
  | ignored : Changes env t update e e
  | thrown (ty : TrafficItemType) (root : TrafficItemId × TrafficItemType)
      (hitem : t.trafficItems.lookup update.trafficItemId = some ty)
      (hroot : RuleManager.cacheRoot t update ty = some root) :
      Changes env t update e { changeRule env t update ty e with terminated := true }
  | made (ty : TrafficItemType) (root : TrafficItemId × TrafficItemType) (table : RuleTable)
      (hitem : t.trafficItems.lookup update.trafficItemId = some ty)
      (hroot : RuleManager.cacheRoot t update ty = some root)
      (hrow : writeRow t ty update.trafficItemId (rulesOfUpdate update e.link) e.ruleTable =
        .ok table) :
      Changes env t update e
        (let e := refresh env t root { changeRule env t update ty e with ruleTable := table }
        { e with manager := e.manager.removeEmptyRules })

theorem changes_handleRuleChange (env : RuleSources) (t : CounterTree) (update : RuleUpdate)
    (e : Enforcement) : Changes env t update e (handleRuleChange env t update e) := by
  unfold handleRuleChange
  split
  · exact .ignored
  · rename_i ty hitem
    split
    · exact .ignored
    · rename_i root hroot
      dsimp only
      split
      · exact .thrown ty root hitem hroot
      · exact .made ty root _ hitem hroot ‹_›

/-- The listeners of both. -/
def listener (env : RuleSources) : Handler Enforcement := fun n t e =>
  match n with
  | .onSocketConnected r =>
    { e.onSocketConnected env t r with heard := e.heard ++ [(n, t)] }
  | .onSocketRemoved r => { e.onSocketRemoved t r with heard := e.heard ++ [(n, t)] }
  | .onProcessRemoved p => { e.onProcessRemoved t p with heard := e.heard ++ [(n, t)] }
  | .onAppFirstTimeConnected a =>
    { e.onAppFirstTimeConnected env t a with heard := e.heard ++ [(n, t)] }
  | _ => e

end Enforcement

/-- A notice that the listeners of the rules act on. -/
def Notice.IsHeard : Notice → Prop
  | .onSocketConnected _ => True
  | .onSocketRemoved _ => True
  | .onProcessRemoved _ => True
  | .onAppFirstTimeConnected _ => True
  | _ => False

/-! ## Runs -/

/-- An operation of the daemon, with what it reads from outside. -/
inductive EnforceOp : Type 1 where
  | loadSystemRule (env : RuleSources)
  | handleRuleChange (env : RuleSources) (update : RuleUpdate)
  | onMap (env : RuleSources) (op : SystemMapOp)

namespace Enforcement

/-- The system map with another state of the rules. -/
def onRules (f : CounterTree → Enforcement → Enforcement) (s : SystemMap Enforcement) :
    SystemMap Enforcement := { s with listeners := f s.toCounterTree s.listeners }

/-- An operation of the system map, with what is heard in it. -/
def onMap (env : RuleSources) (op : SystemMapOp) (s : SystemMap Enforcement) :
    SystemMap Enforcement :=
  SystemMap.step (listener env) (onRules (fun _ e => { e with heard := [] }) s) op

/-- Perform an operation, as long as the daemon runs. -/
def step (s : SystemMap Enforcement) (op : EnforceOp) : SystemMap Enforcement :=
  if s.listeners.terminated then s
  else match op with
    | .loadSystemRule env => onRules (loadSystemRule env) s
    | .handleRuleChange env update => onRules (fun t e => handleRuleChange env t update e) s
    | .onMap env op => onMap env op s

theorem step_running {s : SystemMap Enforcement} (hs : s.listeners.terminated = false)
    (op : EnforceOp) : step s op = match op with
      | .loadSystemRule env => onRules (loadSystemRule env) s
      | .handleRuleChange env update => onRules (fun t e => handleRuleChange env t update e) s
      | .onMap env op => onMap env op s := by
  unfold step
  rw [if_neg (Bool.eq_false_iff.mp hs)]

/-- The daemon before it maps anything, with the rule table of its last run. -/
def started (now : Msec) (hostName networkInterfaceName : String) (ruleTable : RuleTable) :
    SystemMap Enforcement :=
  SystemMap.init now hostName { link := { networkInterfaceName }, ruleTable }

/-- The maps as they are stored, and whole limits. -/
def plainSources : RuleSources := { order := .stored, column := .cast }

/-! ## The notices of an operation -/

/-- The trees change, and the listeners hear nothing of it. -/
inductive Quiet (t : CounterTree) : CounterTree → Prop
  | same : Quiet t t
  | call (who : CounterId) (c : CounterCall) : Quiet t (t.applyCall who c)
  | change (m : Change) (hm : m.Proper t) : Quiet t (m.apply t)

theorem listener_of_not_isHeard (env : RuleSources) {n : Notice} (hn : ¬n.IsHeard) (t : CounterTree)
    (e : Enforcement) : listener env n t e = e := by
  cases n <;> first | rfl | exact absurd trivial hn

theorem heard_listener (env : RuleSources) {n : Notice} (hn : n.IsHeard) (t : CounterTree)
    (e : Enforcement) : (listener env n t e).heard = e.heard ++ [(n, t)] := by
  cases n <;> first | rfl | exact hn.elim

/-- Where an operation stands after a notice: the trees at that time, and the rules since. -/
structure Moment where
  tree : CounterTree
  rules : Enforcement

/-- An operation begins. -/
def opening (s : SystemMap Enforcement) : Moment where
  tree := s.toCounterTree
  rules := { s.listeners with heard := [] }

/-- The next notice. -/
def Moment.next (env : RuleSources) (w : Moment) (h : Notice × CounterTree) : Moment where
  tree := h.2
  rules := listener env h.1 h.2 w.rules

section Heard

variable {ω : Type} {env : RuleSources} (rules : ω → Enforcement)
  (watch : ω → Notice × CounterTree → ω) {G : ω → Notice × CounterTree → Prop}
  {I : ω → CounterTree → Prop}

/-- **An invariant of the notices that meet a condition**, and of what is quiet, is one of an
operation in which all notices meet it. `watch` follows the rules, and what else the invariant
depends on. -/
theorem keeps_heard (hrules : ∀ w h, rules (watch w h) = listener env h.1 h.2 (rules w))
    (hnotify : ∀ w n t, n.IsHeard → I w t → G w (n, t) → I (watch w (n, t)) t)
    (hquiet : ∀ w t t', Quiet t t' → I w t → I w t') (op : SystemMapOp)
    {s : SystemMap Enforcement} {w : ω} (hw : rules w = { s.listeners with heard := [] })
    (hs : I w s.toCounterTree) (hheard : AllSteps watch G w (onMap env op s).listeners.heard) :
    rules (run watch w (onMap env op s).listeners.heard) = (onMap env op s).listeners ∧
      I (run watch w (onMap env op s).listeners.heard) (onMap env op s).toCounterTree := by
  let J : SystemMap Enforcement → Prop := fun s =>
    rules (run watch w s.listeners.heard) = s.listeners ∧
      (AllSteps watch G w s.listeners.heard → I (run watch w s.listeners.heard) s.toCounterTree)
  have hperform : ∀ s a, J s → SystemMap.Allowed (fun _ _ => True) (fun _ => True) s a →
      J (SystemMap.perform (listener env) s a) := by
    rintro s a ⟨hsame, hI⟩ ha
    cases a with
    | notify n =>
      change rules (run watch w (listener env n s.toCounterTree s.listeners).heard) =
          listener env n s.toCounterTree s.listeners ∧
        (AllSteps watch G w (listener env n s.toCounterTree s.listeners).heard →
          I (run watch w (listener env n s.toCounterTree s.listeners).heard) s.toCounterTree)
      by_cases hn : n.IsHeard
      · rw [heard_listener env hn, run_concat, allSteps_concat, hrules, hsame]
        exact ⟨rfl, fun hall => hnotify _ n _ hn (hI hall.1) hall.2⟩
      · rw [listener_of_not_isHeard env hn]
        exact ⟨hsame, hI⟩
    | call who c => exact ⟨hsame, fun hall => hquiet _ _ _ (.call who c) (hI hall)⟩
    | record c => exact ⟨hsame, hI⟩
    | change m => exact ⟨hsame, fun hall => hquiet _ _ _ (.change m ha.1) (hI hall)⟩
  obtain ⟨hsame, hI⟩ := Path.keeps hperform
    (SystemMap.does_step (onRules (fun _ e => { e with heard := [] }) s) op) ⟨hw, fun _ => hs⟩
  exact ⟨hsame, hI hheard⟩

end Heard

/-- A condition on the operations of the daemon, as long as it runs. -/
def WhileRunning (G : SystemMap Enforcement → EnforceOp → Prop) (s : SystemMap Enforcement)
    (op : EnforceOp) : Prop := s.listeners.terminated = false → G s op

/-- What the operations of the daemon keep always holds. -/
theorem always_running {I P : SystemMap Enforcement → Prop}
    {G : SystemMap Enforcement → EnforceOp → Prop} (hP : ∀ s, I s → P s)
    (hkeep : ∀ s op, s.listeners.terminated = false → I s → G s op → I (step s op))
    (ops : List EnforceOp) {s : SystemMap Enforcement} (hs : I s)
    (hops : AllSteps step (WhileRunning G) s ops) : Always step P s ops := by
  refine always_of_allSteps hP (fun s op hI hG => ?_) ops hs hops
  by_cases hended : s.listeners.terminated = true
  · unfold step
    rwa [if_pos hended]
  · have hrunning := Bool.eq_false_of_not_eq_true hended
    exact hkeep s op hrunning hI (hG hrunning)

end Enforcement

end Waechter
