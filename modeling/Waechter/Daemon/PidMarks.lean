import Waechter.Daemon.Enforcement
import Waechter.Daemon.Marks
import Waechter.Daemon.StateChanges

/-!
# The marks of the processes

The kernel's `pid_download_marks` map against the rules (`Daemon/Rules/RuleManager.cpp`): each of
the places that write an entry looks at the level that changed only, while the mark of a process
comes from three of them.

* `Levels.mark_eq`: the mark in force is that of the most specific rule which has one.
* `mark_app_iff`, `mark_process_iff`, `mark_system_iff`: when a rule change leaves it at the entry.
* `Fits`: the condition on an operation, on the three levels as they are before it.
* `always_follows`: then the entries of the connected processes follow the rules while the daemon
  runs.
* `follows_fails`: the limit of an application that is taken back takes that of its process with it.
-/

namespace Waechter

open Lib

/-! ## The mark in force -/

/-- The rules a process is subject to. -/
structure Levels where
  system : TrafficItemRules
  app : TrafficItemRules
  process : TrafficItemRules

/-- The rules of a process, as `OnSocketConnected` folds them. -/
def Levels.effective (l : Levels) : TrafficItemRules :=
  getEffectiveRules (getEffectiveRules l.system l.app) l.process

/-- The mark in force for a process. -/
def Levels.mark (l : Levels) : UInt32 := l.effective.downloadMark

/-- The mark of an explicit rule, when it has one. -/
def TrafficItemRules.explicitMark (r : TrafficItemRules) : Option UInt32 :=
  if r.ruleType = .explicit ∧ r.downloadMark ≠ 0 then some r.downloadMark else none

theorem downloadMark_getEffectiveRules (p r : TrafficItemRules) :
    (getEffectiveRules p r).downloadMark = r.explicitMark.getD p.downloadMark := by
  change getEffectiveMark p.downloadMark r.downloadMark r.ruleType = _
  unfold getEffectiveMark TrafficItemRules.explicitMark
  cases r.ruleType with
  | implicit => rfl
  | explicit => by_cases h : r.downloadMark = 0 <;> simp [h]

/-- **The mark in force is that of the most specific rule which has one.** -/
theorem Levels.mark_eq (l : Levels) :
    l.mark = l.process.explicitMark.getD (l.app.explicitMark.getD l.system.downloadMark) := by
  unfold mark effective
  rw [downloadMark_getEffectiveRules, downloadMark_getEffectiveRules]

theorem explicitMark_of_eq_zero {r : TrafficItemRules} (h : r.downloadMark = 0) :
    r.explicitMark = none := if_neg fun hr => hr.2 h

theorem explicitMark_ne_zero {r : TrafficItemRules} : r.explicitMark ≠ some 0 := by
  unfold TrafficItemRules.explicitMark
  split
  · rename_i h
    exact fun heq => h.2 (Option.some.inj heq)
  · nofun

/-- What a rule change writes for the processes it writes something for. -/
def written (rules : TrafficItemRules) : Option UInt32 :=
  if rules.downloadMark ≠ 0 then some rules.downloadMark
  else if rules.downloadLimit = 0 then some 0
  else none

namespace Levels

/-- The system rule changes, and no entry is written: a rule below it has a mark, or the mark is the
same. -/
def SystemFits (l : Levels) (r : TrafficItemRules) : Prop :=
  l.process.explicitMark ≠ none ∨ l.app.explicitMark ≠ none ∨ r.downloadMark = l.system.downloadMark

/-- The rule of the application changes. -/
def AppFits (l : Levels) (r : TrafficItemRules) : Prop :=
  if r.downloadMark ≠ 0 then
    -- the mark is written: the process has no other one of its own, and the rule counts
    l.process.explicitMark = some r.downloadMark ∨ l.process.explicitMark = none ∧
      (r.ruleType = .explicit ∨ l.system.downloadMark = r.downloadMark)
  else if r.downloadLimit = 0 then
    -- the entry is taken away: neither the process nor the system has a mark
    l.process.explicitMark = none ∧ l.system.downloadMark = 0
  else
    -- nothing is written: the rule had no mark that counted
    l.process.explicitMark ≠ none ∨
      l.app.explicitMark.getD l.system.downloadMark = l.system.downloadMark

/-- The rule of the process changes. -/
def ProcessFits (l : Levels) (r : TrafficItemRules) : Prop :=
  if r.downloadMark ≠ 0 then
    r.ruleType = .explicit ∨ l.app.explicitMark.getD l.system.downloadMark = r.downloadMark
  else if r.downloadLimit = 0 then
    l.app.explicitMark = none ∧ l.system.downloadMark = 0
  else
    l.process.explicitMark.getD (l.app.explicitMark.getD l.system.downloadMark) =
      l.app.explicitMark.getD l.system.downloadMark

/-- A rule of the application is loaded, which writes no entry: the process has a mark of its own, or
the rule has the mark that the application or the system gave. -/
def LoadFits (l : Levels) (r : TrafficItemRules) : Prop :=
  l.process.explicitMark ≠ none ∨
    r.explicitMark.getD l.system.downloadMark = l.app.explicitMark.getD l.system.downloadMark

instance (l : Levels) (r : TrafficItemRules) : Decidable (l.SystemFits r) :=
  inferInstanceAs (Decidable (_ ∨ _ ∨ _))

instance (l : Levels) (r : TrafficItemRules) : Decidable (l.AppFits r) := by
  unfold AppFits
  infer_instance

instance (l : Levels) (r : TrafficItemRules) : Decidable (l.ProcessFits r) := by
  unfold ProcessFits
  infer_instance

instance (l : Levels) (r : TrafficItemRules) : Decidable (l.LoadFits r) :=
  inferInstanceAs (Decidable (_ ∨ _))

variable (l : Levels) (r : TrafficItemRules)

/-- **Another system rule leaves the mark in force** exactly then. -/
theorem mark_system_iff : { l with system := r }.mark = l.mark ↔ l.SystemFits r := by
  unfold SystemFits
  rw [mark_eq, mark_eq]
  cases l.process.explicitMark <;> cases l.app.explicitMark <;> simp

/-- **Another rule of the application gives the mark that is written**, or leaves the mark in force
where none is, exactly then. -/
theorem mark_app_iff :
    { l with app := r }.mark = (written r).getD l.mark ↔ l.AppFits r := by
  have hprocess := explicitMark_ne_zero (r := l.process)
  unfold AppFits written
  rw [mark_eq, mark_eq]
  by_cases hmark : r.downloadMark = 0
  · rw [explicitMark_of_eq_zero hmark]
    by_cases hlimit : r.downloadLimit = 0
    · cases h : l.process.explicitMark with
      | none => simp [hmark, hlimit]
      | some mark =>
        rw [h] at hprocess
        simpa [hmark, hlimit] using hprocess
    · cases l.process.explicitMark <;> simp [hmark, hlimit, eq_comm]
  · cases htype : r.ruleType with
    | implicit =>
      have hnone : r.explicitMark = none := if_neg fun h => absurd (htype.symm.trans h.1) (by decide)
      cases l.process.explicitMark <;> simp [hmark, hnone]
    | explicit =>
      have hsome : r.explicitMark = some r.downloadMark := if_pos ⟨htype, hmark⟩
      cases l.process.explicitMark <;> simp [hmark, hsome]

/-- **Another rule of the process gives the mark that is written**, or leaves the mark in force where
none is, exactly then. -/
theorem mark_process_iff :
    { l with process := r }.mark = (written r).getD l.mark ↔ l.ProcessFits r := by
  have happ := explicitMark_ne_zero (r := l.app)
  unfold ProcessFits written
  rw [mark_eq, mark_eq]
  by_cases hmark : r.downloadMark = 0
  · rw [explicitMark_of_eq_zero hmark]
    by_cases hlimit : r.downloadLimit = 0
    · cases h : l.app.explicitMark with
      | none => simp [hmark, hlimit]
      | some mark =>
        rw [h] at happ
        simpa [hmark, hlimit] using happ
    · simp [hmark, hlimit, eq_comm]
  · cases htype : r.ruleType with
    | implicit =>
      have hnone : r.explicitMark = none := if_neg fun h => absurd (htype.symm.trans h.1) (by decide)
      simp [hmark, hnone]
    | explicit =>
      have hsome : r.explicitMark = some r.downloadMark := if_pos ⟨htype, hmark⟩
      simp [hmark, hsome]

/-- **A loaded rule leaves the mark in force** exactly then. -/
theorem mark_load_iff : { l with app := r }.mark = l.mark ↔ l.LoadFits r := by
  unfold LoadFits
  rw [mark_eq, mark_eq]
  cases l.process.explicitMark <;> simp

end Levels

namespace RuleManager

/-- The rules that apply to a process. -/
def levels (m : RuleManager) (t : TreeShape) (p : Ref) : Levels :=
  { system := m.systemRules
    app := rulesOf m.applicationRules (t.appId (t.procApp p))
    process := rulesOf m.processRules (t.procId p) }

/-- What leaves the rules alone. -/
theorem SameRules.levels {m m' : RuleManager} (h : SameRules m m') (t : TreeShape) (p : Ref) :
    m'.levels t p = m.levels t p := by
  unfold RuleManager.levels
  rw [h.systemRules, h.applicationRules, h.processRules]

theorem downloadMark_of_isDefault {r : TrafficItemRules} (h : r.isDefault = true) :
    r.downloadMark = 0 := by
  unfold TrafficItemRules.isDefault at h
  simp only [Bool.and_eq_true, decide_eq_true_eq] at h
  exact h.1.1.2

theorem explicitMark_rulesOf_eraseIf (m : UMap TrafficItemId TrafficItemRules) (i : TrafficItemId) :
    (rulesOf (UMap.eraseIf TrafficItemRules.isDefault m) i).explicitMark =
      (rulesOf m i).explicitMark := by
  unfold rulesOf
  rw [UMap.lookup_eraseIf]
  cases m.lookup i with
  | none => rfl
  | some r =>
    by_cases hr : r.isDefault = true
    · rw [Option.getD_some, explicitMark_of_eq_zero (downloadMark_of_isDefault hr)]
      simp [Option.filter, hr, TrafficItemRules.explicitMark]
    · simp [Option.filter, hr]

/-- Removing the empty rules leaves the marks alone. -/
theorem mark_removeEmptyRules (m : RuleManager) (t : TreeShape) (p : Ref) :
    (m.removeEmptyRules.levels t p).mark = (m.levels t p).mark := by
  have hsystem : m.removeEmptyRules.systemRules.downloadMark = m.systemRules.downloadMark := by
    simp only [removeEmptyRules]
    split
    · rename_i h
      exact (downloadMark_of_isDefault h).symm
    · rfl
  rw [Levels.mark_eq, Levels.mark_eq]
  simp only [levels, hsystem]
  simp only [removeEmptyRules, explicitMark_rulesOf_eraseIf]

/-- The rules of a process after the rule of an item is stored. -/
theorem levels_store (m : RuleManager) (ty : TrafficItemType) (i : TrafficItemId)
    (r : TrafficItemRules) (t : TreeShape) (p : Ref) :
    (m.store ty i r).levels t p =
      match ty with
      | .system => { m.levels t p with system := r }
      | .application =>
        if t.appId (t.procApp p) = i then { m.levels t p with app := r } else m.levels t p
      | .process => if t.procId p = i then { m.levels t p with process := r } else m.levels t p
      | _ => m.levels t p := by
  have hread : ∀ (map : UMap TrafficItemId TrafficItemRules) (j : TrafficItemId),
      rulesOf (map.insert i r) j = if j = i then r else rulesOf map j := by
    intro map j
    simp only [rulesOf, UMap.lookup_insert_ite]
    split <;> rfl
  cases ty <;> simp only [store, levels, hread] <;> split <;> rfl

end RuleManager

/-! ## What changes leave alone -/

namespace TreeShape

variable {t : TreeShape}

/-- A process keeps its application, its id and its process id. -/
theorem process_onShape (m : Change) {p : Ref} (hp : p < t.next) :
    (m.onShape t).procApp p = t.procApp p ∧ (m.onShape t).procId p = t.procId p ∧
      (m.onShape t).procPid p = t.procPid p := by
  cases m with
  | addProcess now pid a =>
    exact ⟨Function.update_of_ne hp.ne _ _, Function.update_of_ne hp.ne _ _,
      Function.update_of_ne hp.ne _ _⟩
  | _ => exact ⟨rfl, rfl, rfl⟩

/-- An application keeps its id. -/
theorem appId_onShape (m : Change) {a : Ref} (ha : a < t.next) :
    (m.onShape t).appId a = t.appId a := by
  cases m with
  | addApp now key commandLine appName => exact Function.update_of_ne ha.ne _ _
  | _ => rfl

/-- A process in the map was there before, or it is the new one. -/
theorem procs_onShape (m : Change) {pid : ProcessId} {p : Ref}
    (h : (m.onShape t).procs pid = some p) :
    t.procs pid = some p ∨ p = t.next ∧ (m.onShape t).procPid p = pid := by
  cases m with
  | addProcess now q a =>
    change Function.update t.procs q (some t.next) pid = some p at h
    rw [Function.update_apply] at h
    split at h
    · rename_i hpid
      have hp := (Option.some.inj h).symm
      refine .inr ⟨hp, ?_⟩
      rw [hp, hpid]
      exact Function.update_self ..
    · exact .inl h
  | eraseProcess q =>
    change Function.update t.procs q none pid = some p at h
    rw [Function.update_apply] at h
    split at h
    · exact absurd h (Option.some_ne_none p).symm
    · exact .inl h
  | _ => exact .inl h

end TreeShape

namespace Enforcement

open RuleManager (SameRules)

/-! ## The entries follow the rules -/

/-- The mark of a process id in the kernel: an absent entry counts as 0. -/
def markOf (marks : UMap ProcessId UInt32) (pid : ProcessId) : UInt32 := (marks.lookup pid).getD 0

/-- The process is in `Processes` and had a socket connect. -/
structure Connected (t : CounterTree) (e : Enforcement) (pid : ProcessId) (p : Ref) : Prop where
  live : t.processes.lookup pid = some p
  connected : p ∈ e.connected

/-- The rules of a process. -/
def levels (t : CounterTree) (e : Enforcement) (p : Ref) : Levels := e.manager.levels t.shape p

/-- The entries of the connected processes are their marks in force. -/
def EntriesFollow (t : CounterTree) (e : Enforcement) : Prop :=
  ∀ pid p, Connected t e pid p → markOf e.pidDownloadMarks pid = (levels t e p).mark

/-- **The entries of the connected processes follow the rules**, as long as the daemon runs. -/
def PidMarksFollow (s : SystemMap Enforcement) : Prop :=
  s.listeners.terminated = false → EntriesFollow s.toCounterTree s.listeners

/-! ## The condition -/

/-- The condition on the rule change of an item: it fits the rules of the connected processes it is
for, and those are the ones whose entries it writes. -/
def ChangeFits (t : CounterTree) (e : Enforcement) (pids : List ProcessId) (ty : TrafficItemType)
    (i : TrafficItemId) (rules : TrafficItemRules) : Prop :=
  ∀ pid p, Connected t e pid p →
    match ty with
    | .system => (levels t e p).SystemFits rules
    | .application => (pid ∈ pids ↔ t.shape.appId (t.shape.procApp p) = i) ∧
        (t.shape.appId (t.shape.procApp p) = i → (levels t e p).AppFits rules)
    | .process => (pid ∈ pids ↔ t.shape.procId p = i) ∧
        (t.shape.procId p = i → (levels t e p).ProcessFits rules)
    | _ => True

/-- The condition on a rule change: it is ignored, its row cannot be written, or it fits. -/
def RuleChangeFits (env : RuleSources) (update : RuleUpdate) (t : CounterTree) (e : Enforcement) :
    Prop :=
  let i := update.trafficItemId
  let rules := rulesOfUpdate update e.link
  ∀ ty ∈ t.trafficItems.lookup i, (RuleManager.cacheRoot t update ty).isSome →
    (writeRow t ty i rules e.ruleTable).isOk →
      ChangeFits t e (pidsOf env.order t ty i) ty i rules

/-- The condition on a rule that is loaded for the system. -/
def SystemLoadFits (env : RuleSources) (t : CounterTree) (e : Enforcement) : Prop :=
  ∀ row ∈ e.ruleTable.read env.column "system",
    let rules := (loadedRules 0 row e.link).1
    rules.isDefault = false → ∀ pid p, Connected t e pid p → (levels t e p).SystemFits rules

/-- The condition on a rule that is loaded for an application. -/
def AppLoadFits (env : RuleSources) (t : CounterTree) (a : Ref) (e : Enforcement) : Prop :=
  let item := (t.app a).trafficItem
  ∀ row ∈ e.ruleTable.read env.column item.applicationPath,
    let rules := (loadedRules item.itemId row e.link).1
    rules.isDefault = false → ∀ pid p, Connected t e pid p →
      t.shape.appId (t.shape.procApp p) = item.itemId → (levels t e p).LoadFits rules

/-- The process is in `Processes` under its id, and it and its application were made before. -/
structure InPlace (t : CounterTree) (p : Ref) : Prop where
  live : t.processes.lookup (t.shape.procPid p) = some p
  itemId : t.shape.procId p = p
  pos : p ≠ 0
  app : t.shape.procApp p < t.shape.next

/-- The condition on a notice. -/
def NoticeFits (env : RuleSources) (w : Moment) (h : Notice × CounterTree) : Prop :=
  match h.1 with
  | .onSocketConnected r =>
    let p := h.2.shape.sockProc r
    InPlace h.2 p ∧ (p ∉ w.rules.connected → (levels h.2 w.rules p).mark = 0 →
      markOf w.rules.pidDownloadMarks (h.2.shape.procPid p) = 0)
  | .onProcessRemoved p => InPlace h.2 p
  | .onAppFirstTimeConnected a => AppLoadFits env h.2 a w.rules
  | _ => True

/-- The condition on an operation. -/
def Fits (s : SystemMap Enforcement) : EnforceOp → Prop
  | .loadSystemRule env => SystemLoadFits env s.toCounterTree s.listeners
  | .handleRuleChange env update => RuleChangeFits env update s.toCounterTree s.listeners
  | .onMap env op =>
    AllSteps (Moment.next env) (NoticeFits env) (opening s) (onMap env op s).listeners.heard

section Decidable

theorem forall_connected_iff (t : CounterTree) (e : Enforcement) (P : ProcessId → Ref → Prop) :
    (∀ pid p, Connected t e pid p → P pid p) ↔
      ∀ pid ∈ t.processes, ∀ p ∈ t.processes.lookup pid, p ∈ e.connected → P pid p := by
  constructor
  · exact fun h pid _ p hp hconnected => h pid p ⟨hp, hconnected⟩
  · intro h pid p ⟨hlive, hconnected⟩
    exact h pid (UMap.mem_iff_lookup.mpr (hlive ▸ Option.some_ne_none p)) p hlive hconnected

instance (t : CounterTree) (e : Enforcement) (P : ProcessId → Ref → Prop)
    [∀ pid p, Decidable (P pid p)] : Decidable (∀ pid p, Connected t e pid p → P pid p) :=
  decidable_of_iff (∀ pid ∈ t.processes.keys, ∀ p ∈ t.processes.lookup pid, p ∈ e.connected → P pid p)
    (forall_connected_iff t e P).symm

instance (t : CounterTree) (e : Enforcement) (pids : List ProcessId) (ty : TrafficItemType)
    (i : TrafficItemId) (rules : TrafficItemRules) : Decidable (ChangeFits t e pids ty i rules) := by
  unfold ChangeFits
  cases ty <;> infer_instance

instance (env : RuleSources) (update : RuleUpdate) (t : CounterTree) (e : Enforcement) :
    Decidable (RuleChangeFits env update t e) :=
  inferInstanceAs (Decidable (∀ ty ∈ t.trafficItems.lookup update.trafficItemId, _ → _ → _))

instance (env : RuleSources) (t : CounterTree) (e : Enforcement) :
    Decidable (SystemLoadFits env t e) :=
  inferInstanceAs (Decidable (∀ row ∈ e.ruleTable.read env.column "system", _ → _))

instance (env : RuleSources) (t : CounterTree) (a : Ref) (e : Enforcement) :
    Decidable (AppLoadFits env t a e) :=
  inferInstanceAs (Decidable
    (∀ row ∈ e.ruleTable.read env.column (t.app a).trafficItem.applicationPath, _ → _))

instance (t : CounterTree) (p : Ref) : Decidable (InPlace t p) :=
  decidable_of_iff (t.processes.lookup (t.shape.procPid p) = some p ∧ t.shape.procId p = p ∧ p ≠ 0 ∧
      t.shape.procApp p < t.shape.next)
    ⟨fun ⟨live, itemId, pos, app⟩ => { live, itemId, pos, app }, fun h => ⟨h.1, h.2, h.3, h.4⟩⟩

instance (env : RuleSources) (w : Moment) : (h : Notice × CounterTree) →
    Decidable (NoticeFits env w h)
  | (.onSocketConnected _, _) => inferInstanceAs (Decidable (_ ∧ (_ → _ → _)))
  | (.onProcessRemoved _, _) => inferInstanceAs (Decidable (InPlace ..))
  | (.onAppFirstTimeConnected _, _) => inferInstanceAs (Decidable (AppLoadFits ..))
  | (.onUDPTupleCreated _, _) | (.onUDPTupleRemoved _, _) | (.onProcessCreated _, _)
  | (.sendLookupMessage _, _) | (.updateFilterStats .., _) | (.updateAppStats .., _)
  | (.call .., _) | (.onSocketRemoved _, _) => inferInstanceAs (Decidable True)

instance (s : SystemMap Enforcement) : (op : EnforceOp) → Decidable (Fits s op)
  | .loadSystemRule env =>
    inferInstanceAs (Decidable (SystemLoadFits env s.toCounterTree s.listeners))
  | .handleRuleChange env update =>
    inferInstanceAs (Decidable (RuleChangeFits env update s.toCounterTree s.listeners))
  | .onMap env op => inferInstanceAs (Decidable
      (AllSteps (Moment.next env) (NoticeFits env) (opening s) (onMap env op s).listeners.heard))

instance (s : SystemMap Enforcement) (op : EnforceOp) : Decidable (WhileRunning Fits s op) :=
  inferInstanceAs (Decidable (_ = false → _))

end Decidable

/-! ## What the handlers do -/

/-- The entries after a rule change. -/
theorem markOf_markPids (rules : TrafficItemRules) (pid : ProcessId) :
    ∀ (pids : List ProcessId) (marks : UMap ProcessId UInt32),
      markOf (markPids pids rules marks) pid =
        if pid ∈ pids then (written rules).getD (markOf marks pid) else markOf marks pid := by
  have hfold : ∀ {f : UMap ProcessId UInt32 → ProcessId → UMap ProcessId UInt32} {v : UInt32},
      (∀ marks q, markOf (f marks q) pid = if pid = q then v else markOf marks pid) →
      ∀ (pids : List ProcessId) (marks : UMap ProcessId UInt32),
        markOf (pids.foldl f marks) pid = if pid ∈ pids then v else markOf marks pid := by
    intro f v hf pids
    induction pids with
    | nil => exact fun _ => rfl
    | cons q pids ih =>
      intro marks
      rw [List.foldl_cons, ih, hf]
      by_cases hmem : pid ∈ pids
      · rw [if_pos hmem, if_pos (List.mem_cons_of_mem q hmem)]
      · rw [if_neg hmem]
        simp only [List.mem_cons, hmem, or_false]
  intro pids marks
  unfold markPids written
  by_cases hmark : rules.downloadMark ≠ 0
  · rw [if_pos hmark, if_pos hmark]
    refine hfold (fun marks q => ?_) pids marks
    unfold markOf setPidDownloadMark
    rw [UMap.lookup_insert_ite]
    split <;> rfl
  · rw [if_neg hmark, if_neg hmark]
    by_cases hlimit : rules.downloadLimit = 0
    · rw [if_pos hlimit, if_pos hlimit]
      refine hfold (fun marks q => ?_) pids marks
      unfold markOf removePidDownloadMark
      rw [UMap.lookup_erase_ite]
      split <;> rfl
    · rw [if_neg hlimit, if_neg hlimit]
      exact (ite_self _).symm

/-- What a socket that connects does to the entries. -/
theorem onSocketConnected_spec (env : RuleSources) (t : CounterTree) (r : Ref) (e : Enforcement) :
    let p := (t.socket r).parentProcess
    let mark := (e.manager.levels t.shape p).mark
    let out := e.onSocketConnected env t r
    SameRules e.manager out.manager ∧ out.connected = p :: e.connected ∧
      out.pidDownloadMarks = if mark = 0 then e.pidDownloadMarks
        else e.pidDownloadMarks.insert (t.shape.procPid p) mark := by
  intro p mark out
  have hsame := sameRules_refresh env t ((t.process p).parentApp, .application)
    { e with connected := p :: e.connected }
  simp only [out]
  unfold onSocketConnected
  dsimp only
  split
  · split
    · rename_i hne
      exact ⟨hsame, rfl, (if_neg hne).symm⟩
    · rename_i hzero
      exact ⟨hsame, rfl, (if_pos (not_not.mp hzero)).symm⟩
  · rename_i hdefault
    rw [Bool.not_eq_true', Bool.not_eq_false] at hdefault
    have hzero : mark = 0 := RuleManager.downloadMark_of_isDefault hdefault
    exact ⟨SameRules.refl _, rfl, (if_pos hzero).symm⟩

/-- The rules of a process after a rule is stored. -/
theorem levels_changeRule (env : RuleSources) (t : CounterTree) (update : RuleUpdate)
    (ty : TrafficItemType) (e : Enforcement) (sh : TreeShape) (p : Ref) :
    (changeRule env t update ty e).manager.levels sh p =
      (e.manager.store ty update.trafficItemId (rulesOfUpdate update e.link)).levels sh p := by
  have hkernel : ∀ (m : RuleManager) (kernel : SocketRulesMap) (rules : TrafficItemRules),
      (RuleManager.store ty update.trafficItemId rules { m with kernel }).levels sh p =
        (m.store ty update.trafficItemId rules).levels sh p := by
    intro m kernel rules
    cases ty <;> rfl
  unfold changeRule
  dsimp only
  split
  · exact hkernel ..
  · rfl

/-- What a rule that is loaded does. -/
theorem load_spec (env : RuleSources) (t : CounterTree) (root : TrafficItemId × TrafficItemType)
    (i : TrafficItemId) (target : String) (e : Enforcement) :
    let out := load env t root i target e
    out.connected = e.connected ∧ out.pidDownloadMarks = e.pidDownloadMarks ∧
      (SameRules e.manager out.manager ∨
        ∃ row ∈ e.ruleTable.read env.column target,
          (loadedRules i row e.link).1.isDefault = false ∧
            SameRules (e.manager.store root.2 i (loadedRules i row e.link).1) out.manager) := by
  intro out
  simp only [out]
  unfold load
  cases hrow : e.ruleTable.read env.column target with
  | none => exact ⟨rfl, rfl, .inl (SameRules.refl _)⟩
  | some row =>
    simp only
    by_cases hdefault : (loadedRules i row e.link).1.isDefault = true
    · rw [if_pos hdefault]
      exact ⟨rfl, rfl, .inl (SameRules.refl _)⟩
    · rw [if_neg hdefault]
      exact ⟨rfl, rfl, .inr ⟨row, rfl, Bool.eq_false_of_not_eq_true hdefault,
        sameRules_refresh env t root { e with
          link := (loadedRules i row e.link).2
          manager := RuleManager.store root.2 i (loadedRules i row e.link).1 e.manager }⟩⟩

/-! ## The invariant -/

/-- The entries follow the rules, and the connected processes and their applications were made. -/
structure PidInv (t : CounterTree) (e : Enforcement) : Prop where
  ids : t.shape.Ids
  known : t.shape.Known
  keyed : ∀ pid p, t.shape.procs pid = some p → t.shape.procPid p = pid
  made : ∀ p ∈ e.connected, p < t.shape.next ∧ t.shape.procApp p < t.shape.next
  follow : EntriesFollow t e

namespace PidInv

variable {t : CounterTree} {e : Enforcement}

/-- The trees stay as they are, and so do the connected processes. -/
theorem onRules (h : PidInv t e) {e' : Enforcement} (hconnected : e'.connected = e.connected)
    (hfollow : ∀ pid p, Connected t e pid p →
      markOf e'.pidDownloadMarks pid = (e'.manager.levels t.shape p).mark) : PidInv t e' where
  ids := h.ids
  known := h.known
  keyed := h.keyed
  made p hp := h.made p (hconnected ▸ hp)
  follow pid p hp := hfollow pid p ⟨hp.live, hconnected ▸ hp.connected⟩

/-- **A rule change that fits** keeps the entries at the marks in force. -/
theorem changed (h : PidInv t e) (env : RuleSources) (update : RuleUpdate) (ty : TrafficItemType)
    (hfits : ChangeFits t e (pidsOf env.order t ty update.trafficItemId) ty update.trafficItemId
      (rulesOfUpdate update e.link)) : PidInv t (changeRule env t update ty e) := by
  set rules := rulesOfUpdate update e.link with hrules
  refine h.onRules rfl fun pid p hp => ?_
  have hold : markOf e.pidDownloadMarks pid = (levels t e p).mark := h.follow pid p hp
  have hwritten : markOf (changeRule env t update ty e).pidDownloadMarks pid =
      if pid ∈ pidsOf env.order t ty update.trafficItemId then (written rules).getD (levels t e p).mark
      else (levels t e p).mark := by
    rw [← hold]
    exact markOf_markPids rules pid _ e.pidDownloadMarks
  rw [hwritten, levels_changeRule, RuleManager.levels_store]
  change _ = Levels.mark _
  cases ty with
  | system => exact (Levels.mark_system_iff _ rules |>.mpr (hfits pid p hp)).symm
  | application =>
    obtain ⟨hpids, hunder⟩ := hfits pid p hp
    dsimp only
    by_cases hi : t.shape.appId (t.shape.procApp p) = update.trafficItemId
    · rw [if_pos (hpids.mpr hi), if_pos hi]
      exact (Levels.mark_app_iff _ rules |>.mpr (hunder hi)).symm
    · rw [if_neg (mt hpids.mp hi), if_neg hi]
      rfl
  | process =>
    obtain ⟨hpids, hunder⟩ := hfits pid p hp
    dsimp only
    by_cases hi : t.shape.procId p = update.trafficItemId
    · rw [if_pos (hpids.mpr hi), if_pos hi]
      exact (Levels.mark_process_iff _ rules |>.mpr (hunder hi)).symm
    · rw [if_neg (mt hpids.mp hi), if_neg hi]
      rfl
  | _ => exact if_neg List.not_mem_nil

/-- The recomputation after a rule change touches no entry. -/
theorem refreshed (h : PidInv t e) (env : RuleSources) (root : TrafficItemId × TrafficItemType)
    (table : RuleTable) :
    PidInv t (let e := refresh env t root { e with ruleTable := table }
      { e with manager := e.manager.removeEmptyRules }) := by
  refine h.onRules rfl fun pid p hp => ?_
  have hsame := sameRules_refresh env t root { e with ruleTable := table }
  change markOf e.pidDownloadMarks pid = ((refresh env t root
    { e with ruleTable := table }).manager.removeEmptyRules.levels t.shape p).mark
  rw [RuleManager.mark_removeEmptyRules, hsame.levels]
  exact h.follow pid p hp

theorem handleRuleChange (h : PidInv t e) (env : RuleSources) (update : RuleUpdate)
    (hfits : RuleChangeFits env update t e)
    (hruns : (handleRuleChange env t update e).terminated = false) :
    PidInv t (handleRuleChange env t update e) := by
  have hchanges := changes_handleRuleChange env t update e
  generalize Enforcement.handleRuleChange env t update e = e' at hchanges hruns ⊢
  cases hchanges with
  | ignored => exact h
  | thrown ty root hitem hroot => cases hruns
  | made ty root table hitem hroot hrow =>
    refine refreshed (h.changed env update ty (hfits ty hitem ?_ ?_)) env root table
    · rw [hroot]
      rfl
    · rw [hrow]
      rfl

/-- The rule of the system that is loaded. -/
theorem loadSystemRule (h : PidInv t e) (env : RuleSources) (hfits : SystemLoadFits env t e) :
    PidInv t (Enforcement.loadSystemRule env t e) := by
  obtain ⟨hconnected, hmarks, hrules⟩ := load_spec env t (0, .system) 0 "system" e
  refine h.onRules hconnected fun pid p hp => ?_
  unfold Enforcement.loadSystemRule
  rw [hmarks, h.follow pid p hp]
  rcases hrules with hsame | ⟨row, hrow, hdefault, hsame⟩
  · rw [hsame.levels]
    rfl
  · rw [hsame.levels, RuleManager.levels_store]
    exact (Levels.mark_system_iff _ _ |>.mpr (hfits row hrow hdefault pid p hp)).symm

/-- The rule of an application that is loaded. -/
theorem firstTimeConnected (h : PidInv t e) (env : RuleSources) (a : Ref)
    (hfits : AppLoadFits env t a e) : PidInv t (onAppFirstTimeConnected env t a e) := by
  obtain ⟨hconnected, hmarks, hrules⟩ := load_spec env t (a, .application)
    (t.app a).trafficItem.itemId (t.app a).trafficItem.applicationPath e
  refine h.onRules hconnected fun pid p hp => ?_
  unfold onAppFirstTimeConnected
  dsimp only
  rw [hmarks, h.follow pid p hp]
  rcases hrules with hsame | ⟨row, hrow, hdefault, hsame⟩
  · rw [hsame.levels]
    rfl
  · rw [hsame.levels, RuleManager.levels_store]
    dsimp only
    split
    · rename_i hi
      exact (Levels.mark_load_iff _ _ |>.mpr (hfits row hrow hdefault pid p hp hi)).symm
    · rfl

/-- A socket connects. -/
theorem connected (h : PidInv t e) (env : RuleSources) (r : Ref)
    (hplace : InPlace t (t.shape.sockProc r))
    (hentry : t.shape.sockProc r ∉ e.connected → (levels t e (t.shape.sockProc r)).mark = 0 →
      markOf e.pidDownloadMarks (t.shape.procPid (t.shape.sockProc r)) = 0) :
    PidInv t (onSocketConnected env t r e) := by
  obtain ⟨hsame, hconnected, hmarks⟩ := onSocketConnected_spec env t r e
  set p := t.shape.sockProc r with hp
  replace hmarks : (e.onSocketConnected env t r).pidDownloadMarks =
      if (levels t e p).mark = 0 then e.pidDownloadMarks
      else e.pidDownloadMarks.insert (t.shape.procPid p) (levels t e p).mark := hmarks
  have hlt : p < t.shape.next := h.known.process _ p hplace.live
  refine ⟨h.ids, h.known, h.keyed, fun q hq => ?_, fun pid q hq => ?_⟩
  · rcases List.mem_cons.mp (hconnected ▸ hq) with rfl | hq
    · exact ⟨hlt, hplace.app⟩
    · exact h.made q hq
  · have hlive : t.shape.procs pid = some q := hq.live
    have hpid : t.shape.procPid q = pid := h.keyed pid q hlive
    have hold : q ∈ e.connected → markOf e.pidDownloadMarks pid = (levels t e q).mark :=
      fun hmem => h.follow pid q ⟨hlive, hmem⟩
    change markOf (e.onSocketConnected env t r).pidDownloadMarks pid =
      ((e.onSocketConnected env t r).manager.levels t.shape q).mark
    rw [hsame.levels, hmarks]
    by_cases hqp : q = p
    · -- the process of the socket: its entry is written, or nothing is in force for it
      rw [hqp] at hpid hold ⊢
      split
      · rename_i hzero
        by_cases hmem : p ∈ e.connected
        · exact hold hmem
        · rw [← hpid, hentry hmem hzero]
          exact hzero.symm
      · unfold markOf
        rw [UMap.lookup_insert_ite, if_pos hpid.symm]
        rfl
    · have hne : pid ≠ t.shape.procPid p := by
        rintro rfl
        exact hqp (Option.some.inj (hlive.symm.trans hplace.live))
      have hmem : q ∈ e.connected :=
        (List.mem_cons.mp (hconnected ▸ hq.connected)).resolve_left hqp
      split
      · exact hold hmem
      · unfold markOf
        rw [UMap.lookup_insert_ite, if_neg hne]
        exact hold hmem

/-- A process is removed. -/
theorem removed (h : PidInv t e) {p : Ref} (hplace : InPlace t p) :
    PidInv t (onProcessRemoved t p e) := by
  refine ⟨h.ids, h.known, h.keyed, fun q hq => h.made q (List.mem_filter.mp hq).1,
    fun pid q hq => ?_⟩
  obtain ⟨hmem, hqp⟩ := List.mem_filter.mp hq.connected
  have hlive : t.shape.procs pid = some q := hq.live
  have hne : q ≠ p := of_decide_eq_true hqp
  have hpid : pid ≠ t.shape.procPid p := by
    rintro rfl
    exact hne (Option.some.inj (hlive.symm.trans hplace.live))
  have hid : t.shape.procId q ≠ t.shape.procId p := by
    rw [hplace.itemId]
    intro heq
    have hq0 : t.shape.procId q ≠ 0 := heq ▸ hplace.pos
    exact hne ((h.ids.process q hq0).1.symm.trans heq)
  have hrule : rulesOf (e.manager.processRules.erase (t.shape.procId p)) (t.shape.procId q) =
      rulesOf e.manager.processRules (t.shape.procId q) := by
    unfold rulesOf
    rw [UMap.lookup_erase_ite, if_neg hid]
  have hlevels : (onProcessRemoved t p e).manager.levels t.shape q = levels t e q :=
    congrArg (fun r => { levels t e q with process := r }) hrule
  change markOf (removePidDownloadMark (t.shape.procPid p) e.pidDownloadMarks) pid =
    ((onProcessRemoved t p e).manager.levels t.shape q).mark
  rw [hlevels]
  unfold markOf removePidDownloadMark
  rw [UMap.lookup_erase_ite, if_neg hpid]
  exact h.follow pid q ⟨hlive, hmem⟩

/-- **A notice that meets the condition** keeps the invariant. -/
theorem notice {w : Moment} {env : RuleSources} {n : Notice} (h : PidInv t w.rules)
    (hfits : NoticeFits env w (n, t)) : PidInv t (listener env n t w.rules) := by
  have hheard : ∀ {e : Enforcement} (heard : List (Notice × CounterTree)), PidInv t e →
      PidInv t { e with heard } :=
    fun heard h => ⟨h.ids, h.known, h.keyed, h.made, fun pid p hp => h.follow pid p ⟨hp.1, hp.2⟩⟩
  cases n with
  | onSocketConnected r => exact hheard _ (h.connected env r hfits.1 hfits.2)
  | onProcessRemoved p => exact hheard _ (h.removed hfits)
  | onAppFirstTimeConnected a => exact hheard _ (h.firstTimeConnected env a hfits)
  | onSocketRemoved r =>
    exact hheard _ ⟨h.ids, h.known, h.keyed, h.made, fun pid p hp => h.follow pid p ⟨hp.1, hp.2⟩⟩
  | _ => exact h

/-- What leaves the shape alone. -/
theorem of_shape (h : PidInv t e) {t' : CounterTree} (hshape : t'.shape = t.shape) :
    PidInv t' e := by
  refine ⟨by rw [hshape]; exact h.ids, by rw [hshape]; exact h.known, by rw [hshape]; exact h.keyed,
    by rw [hshape]; exact h.made, fun pid p hp => ?_⟩
  have hlive : t'.shape.procs pid = some p := hp.live
  rw [hshape] at hlive
  unfold levels
  rw [hshape]
  exact h.follow pid p ⟨hlive, hp.connected⟩

/-- A change of the trees touches no process that is there. -/
theorem change (h : PidInv t e) {m : Change} (hm : m.Proper t) : PidInv (m.apply t) e := by
  have hshape : (m.apply t).shape = m.onShape t.shape := Change.shape_apply hm
  have hnext : t.shape.next ≤ (m.onShape t.shape).next := by
    rw [← hshape]
    exact m.next_le t
  have hids := h.ids.onShape m
  have hknown := h.known.change hm
  refine ⟨by rw [hshape]; exact hids, hknown, fun pid p hp => ?_, fun p hp => ?_, fun pid p hp => ?_⟩
  · rw [hshape] at hp ⊢
    rcases TreeShape.procs_onShape m hp with hold | ⟨-, hpid⟩
    · rw [(TreeShape.process_onShape m (h.known.process pid p hold)).2.2]
      exact h.keyed pid p hold
    · exact hpid
  · obtain ⟨hlt, happ⟩ := h.made p hp
    rw [hshape, (TreeShape.process_onShape m hlt).1]
    exact ⟨hlt.trans_le hnext, happ.trans_le hnext⟩
  · obtain ⟨hlt, happ⟩ := h.made p hp.connected
    obtain ⟨hparent, hid, -⟩ := TreeShape.process_onShape m hlt
    have hlive : (m.apply t).shape.procs pid = some p := hp.live
    rw [hshape] at hlive
    have hold : t.shape.procs pid = some p :=
      (TreeShape.procs_onShape m hlive).resolve_right fun h => hlt.ne h.1
    have hlevels : levels (m.apply t) e p = levels t e p := by
      unfold levels RuleManager.levels
      rw [hshape, hparent, hid, TreeShape.appId_onShape m happ]
    rw [hlevels]
    exact h.follow pid p ⟨hold, hp.connected⟩

theorem quiet (h : PidInv t e) {t' : CounterTree} (hquiet : Quiet t t') : PidInv t' e := by
  cases hquiet with
  | same => exact h
  | call who c => exact h.of_shape (CounterTree.shape_applyCall ..)
  | change m hm => exact h.change hm

/-- **An operation that meets the condition** keeps the invariant, if the daemon runs on. -/
theorem step {s : SystemMap Enforcement} (h : PidInv s.toCounterTree s.listeners)
    (hrunning : s.listeners.terminated = false) {op : EnforceOp} (hfits : Fits s op)
    (hruns : (Enforcement.step s op).listeners.terminated = false) :
    PidInv (Enforcement.step s op).toCounterTree (Enforcement.step s op).listeners := by
  rw [step_running hrunning] at hruns ⊢
  cases op with
  | loadSystemRule env => exact h.loadSystemRule env hfits
  | handleRuleChange env update => exact h.handleRuleChange env update hfits hruns
  | onMap env op =>
    obtain ⟨hrules, hinv⟩ := keeps_heard Moment.rules (Moment.next env)
      (I := fun w t => PidInv t w.rules) (fun _ _ => rfl) (fun _ _ _ _ h hG => h.notice hG)
      (fun _ _ _ hquiet h => h.quiet hquiet) op (w := opening s) rfl
      ⟨h.ids, h.known, h.keyed, h.made, fun pid p hp => h.follow pid p ⟨hp.1, hp.2⟩⟩ hfits
    rwa [hrules] at hinv

theorem started (now : Msec) (hostName networkInterfaceName : String) (ruleTable : RuleTable) :
    let s := started now hostName networkInterfaceName ruleTable
    PidInv s.toCounterTree s.listeners := by
  intro s
  refine ⟨⟨fun r h => absurd rfl h, fun r h => absurd rfl h, fun r h => absurd rfl h⟩,
    (MarkRun.inv_init now hostName _).known, fun pid p h => ?_, fun p h => ?_, fun pid p h => ?_⟩
  · cases h
  · exact absurd h List.not_mem_nil
  · exact absurd h.connected List.not_mem_nil

end PidInv

/-- **The entries of the connected processes follow the rules** while the daemon runs, in every state
of a run whose operations meet the condition. -/
theorem always_follows (now : Msec) (hostName networkInterfaceName : String) (ruleTable : RuleTable)
    (ops : List EnforceOp)
    (hops : AllSteps step (WhileRunning Fits)
      (started now hostName networkInterfaceName ruleTable) ops) :
    Always step PidMarksFollow (started now hostName networkInterfaceName ruleTable) ops :=
  always_running
    (I := fun s => s.listeners.terminated = false → PidInv s.toCounterTree s.listeners)
    (fun _ hs hrunning => (hs hrunning).follow)
    (fun _ _ hrunning hs hfits hruns => (hs hrunning).step hrunning hfits hruns) ops
    (fun _ => PidInv.started now hostName networkInterfaceName ruleTable) hops

/-! ### A limit that is taken back -/

/-- Process 7 binds a socket; its application, which is item 4, gets a download limit, and so does
the process, which is item 5. -/
def limited : List EnforceOp :=
  [.onMap plainSources (.mapSocket SystemMap.quietEnv 9 false 7 false),
   .onMap plainSources (.processSocketEvent (.socketBind4 80 false 0) 6),
   .handleRuleChange plainSources
     { rules := { downloadLimit := 2000, ruleType := .explicit }
       trafficItemId := 4
       parentAppId := 4 },
   .handleRuleChange plainSources
     { rules := { downloadLimit := 1000, ruleType := .explicit }
       trafficItemId := 5
       parentAppId := 4 }]

theorem always_follows_limited : Always step PidMarksFollow (started 0 "host" "eth0" {}) limited ∧
    markOf (run step (started 0 "host" "eth0" {}) limited).listeners.pidDownloadMarks 7 = 2 :=
  ⟨always_follows 0 "host" "eth0" {} limited (by decide +kernel), by decide +kernel⟩

/-- The limit of the application is taken back. -/
def takenBack : List EnforceOp :=
  limited ++ [.handleRuleChange plainSources
    { rules := { ruleType := .explicit }, trafficItemId := 4, parentAppId := 4 }]

/-- **The process keeps its limit and loses its entry**, which is taken away with the limit of the
application. -/
theorem follows_fails : ¬∀ (now : Msec) (hostName networkInterfaceName : String)
    (ruleTable : RuleTable) (ops : List EnforceOp),
    Always step PidMarksFollow (started now hostName networkInterfaceName ruleTable) ops := by
  intro hall
  have hlast := (hall 0 "host" "eth0" {} takenBack).last
  have hrunning : (run step (started 0 "host" "eth0" {}) takenBack).listeners.terminated = false := by
    decide +kernel
  have hconnected : Connected (run step (started 0 "host" "eth0" {}) takenBack).toCounterTree
      (run step (started 0 "host" "eth0" {}) takenBack).listeners 7 5 :=
    ⟨by decide +kernel, by decide +kernel⟩
  exact absurd (hlast hrunning 7 5 hconnected) (by decide +kernel)

end Enforcement

end Waechter
