import Waechter.Daemon.RuleManager
import Waechter.Lib.Run

/-!
# The system rule

The rule of the system is in three places: the row `system` of the rule table, `SystemRules` of the
rule manager (`Daemon/Rules/RuleManager.cpp`), and the entry of cookie 0 in the kernel's
`socket_rules` map. The map is pinned, so it outlives the daemon, but not the machine.

* `agrees_iff`: over any run the entry has the switches of `SystemRules` exactly when every
  `LoadSystemRule` finds the switches of the row already in the entry: only `HandleRuleChange`
  writes it.
* `rowAgrees_handleRuleChange`: a change of the system rule writes both.
-/

namespace Waechter

open Lib

/-- The upload and the download switch. -/
def TrafficItemRulesBase.switches (r : TrafficItemRulesBase) : SwitchState × SwitchState :=
  (r.uploadSwitch, r.downloadSwitch)

/-- The switches of a row, no row counts as none. -/
def rowSwitches (row : Option DbRule) : SwitchState × SwitchState :=
  (row.map fun r => (r.uploadSwitch, r.downloadSwitch)).getD (.none, .none)

/-- A tree without a socket under cookie 0: `MakeSocketEvent2` reports nothing for that cookie, and
the synthetic cookies have the high bit. -/
structure KeyedTree extends CounterTree where
  ne_zero : ∀ p c r, (toCounterTree.process p).trafficItem.sockets.lookup c = some r → c ≠ 0

namespace RuleManager

/-- The switches the kernel has under cookie 0. -/
def kernelSwitches (m : RuleManager) : SwitchState × SwitchState :=
  ((m.kernel.lookup 0).getD {}).switches

/-! ## What is under cookie 0 -/

/-- The kernel has `v` under cookie 0, and nothing is cached for it. -/
structure UnderZero (v : Option TrafficItemRulesBase) (m : RuleManager) : Prop where
  cache : m.socketCookieRules.lookup 0 = none
  kernel : m.kernel.lookup 0 = v

/-- A loop whose turns leave cookie 0 alone. -/
theorem UnderZero.foldl {α : Type} {v : Option TrafficItemRulesBase}
    {f : RuleManager → α → RuleManager} :
    ∀ {l : List α}, (∀ m, ∀ a ∈ l, UnderZero v m → UnderZero v (f m a)) →
      ∀ {m : RuleManager}, UnderZero v m → UnderZero v (l.foldl f m)
  | [], _, _, h => h
  | a :: _, hf, m, h =>
    UnderZero.foldl (fun m b hb => hf m b (List.mem_cons_of_mem a hb))
      (hf m a List.mem_cons_self h)

variable {v : Option TrafficItemRulesBase} {m : RuleManager}

theorem UnderZero.cacheSocket (h : UnderZero v m) (r : TrafficItemRules) (t : CounterTree)
    {entry : SocketCookie × Ref} (hentry : entry.1 ≠ 0) : UnderZero v (cacheSocket r t m entry) := by
  have hinsert (rules : CookieRules) :
      (m.socketCookieRules.insert entry.1 rules).lookup 0 = none := by
    rw [UMap.lookup_insert_ite, if_neg hentry.symm]
    exact h.cache
  unfold RuleManager.cacheSocket
  simp only
  split
  · split
    · exact ⟨h.cache, h.kernel⟩
    · exact ⟨hinsert _, h.kernel⟩
  · exact ⟨hinsert _, h.kernel⟩

theorem UnderZero.cacheApp (h : UnderZero v m) (o : IterOrder) (t : KeyedTree) (a : Ref) :
    UnderZero v (cacheApp o t.toCounterTree m a) := by
  refine foldl (fun m p _ h => ?_) h
  refine foldl (fun m entry hentry h => h.cacheSocket _ _ ?_) h
  exact t.ne_zero p entry.1 entry.2 ((o.mem_entries _ _ _).mp hentry)

theorem UnderZero.updateRuleCache (h : UnderZero v m) (o : IterOrder) (t : KeyedTree)
    (root : TrafficItemId × TrafficItemType) :
    UnderZero v (updateRuleCache o t.toCounterTree root m) := by
  unfold RuleManager.updateRuleCache
  split
  · exact foldl (fun m a _ h => h.cacheApp o t a) h
  · exact h.cacheApp o t root.1
  · exact h

theorem UnderZero.syncRules (h : UnderZero v m) (o : IterOrder) : UnderZero v (syncRules o m) := by
  refine foldl (fun m' entry hentry h' => ?_) h
  have hne : (0 : SocketCookie) ≠ entry.1 := by
    intro h0
    have hlookup := (o.mem_entries _ entry.1 entry.2).mp hentry
    rw [← h0, h.cache] at hlookup
    exact Option.noConfusion rfl (heq_of_eq hlookup)
  unfold syncSocket
  split
  · constructor
    · rw [UMap.lookup_insert_ite, if_neg hne]
      exact h'.cache
    · rw [UMap.lookup_insert_ite, if_neg hne]
      exact h'.kernel
  · exact h'

theorem UnderZero.removeEmptyRules (h : UnderZero v m) : UnderZero v m.removeEmptyRules := by
  refine ⟨?_, h.kernel⟩
  rw [RuleManager.removeEmptyRules, UMap.lookup_eraseIf, h.cache]
  rfl

/-- A changed rule of the manager is not under cookie 0. -/
theorem UnderZero.store (h : UnderZero v m) (ty : TrafficItemType) (i : TrafficItemId)
    (r : TrafficItemRules) : UnderZero v (m.store ty i r) := by
  cases ty <;> exact ⟨h.cache, h.kernel⟩

/-- **Only a change of the system item writes the entry of cookie 0.** -/
theorem UnderZero.handleRuleChange (h : UnderZero v m) (env : RuleEnv) (t : KeyedTree)
    (update : RuleUpdate) :
    UnderZero (if t.trafficItems.lookup update.trafficItemId = some .system then
        some update.rules.asBase else v)
      (handleRuleChange env t.toCounterTree update m).1 := by
  unfold RuleManager.handleRuleChange
  cases hitem : t.trafficItems.lookup update.trafficItemId with
  | none => exact h
  | some ty =>
    simp only [Option.some.injEq]
    by_cases hty : ty = .system
    · have hwritten : UnderZero (some update.rules.asBase)
          { m with kernel := m.kernel.insert 0 update.rules.asBase } :=
        ⟨h.cache, UMap.lookup_insert_ite _ _ _ _ |>.trans (if_pos rfl)⟩
      simp only [cacheRoot, hty, if_true]
      exact (((hwritten.store _ _ _).updateRuleCache _ t _).syncRules _).removeEmptyRules
    · simp only [hty, if_false]
      split
      · exact h
      · exact (((h.store _ _ _).updateRuleCache _ t _).syncRules _).removeEmptyRules

theorem UnderZero.listener (h : UnderZero v m) (env : RuleEnv) (t : KeyedTree) (n : Notice) :
    UnderZero v (listener env n t.toCounterTree m) := by
  cases n with
  | onSocketConnected socket =>
    simp only [RuleManager.listener, onSocketConnected]
    split
    · exact (h.updateRuleCache env.order t _).syncRules env.order
    · exact h
  | onSocketRemoved socket =>
    refine ⟨?_, h.kernel⟩
    simp only [RuleManager.listener, onSocketRemoved, UMap.lookup_erase_ite, h.cache, ite_self]
  | onProcessRemoved process => exact ⟨h.cache, h.kernel⟩
  | onAppFirstTimeConnected app =>
    simp only [RuleManager.listener, onAppFirstTimeConnected]
    split
    · exact h
    · split
      · exact h
      · exact (h.store .application _ _ |>.updateRuleCache env.order t _).syncRules env.order
  | _ => exact h

theorem UnderZero.loadSystemRule (h : UnderZero v m) (env : RuleEnv) (t : KeyedTree) :
    UnderZero v (loadSystemRule env t.toCounterTree m) := by
  simp only [RuleManager.loadSystemRule]
  split
  · exact h
  · split
    · exact h
    · exact (h.store .system 0 _ |>.updateRuleCache env.order t _).syncRules env.order

/-! ## What is in memory -/

theorem systemRules_listener (env : RuleEnv) (t : CounterTree) (n : Notice) (m : RuleManager) :
    (listener env n t m).systemRules = m.systemRules := by
  have hrecompute (m : RuleManager) (root : TrafficItemId × TrafficItemType) :
      (syncRules env.order (updateRuleCache env.order t root m)).systemRules = m.systemRules :=
    ((sameRules_updateRuleCache env.order t root m).trans
      (sameRules_syncRules env.order _)).systemRules
  cases n with
  | onSocketConnected socket =>
    simp only [listener, onSocketConnected]
    split
    · exact hrecompute m _
    · rfl
  | onAppFirstTimeConnected app =>
    simp only [listener, onAppFirstTimeConnected]
    split
    · rfl
    · split
      · rfl
      · exact hrecompute _ _
  | _ => rfl

/-- The switches of the loaded rule are those of the row, also when it is not kept. -/
theorem switches_loadSystemRule (env : RuleEnv) (t : CounterTree) (m : RuleManager)
    (hfresh : m.systemRules = {}) :
    (loadSystemRule env t m).systemRules.switches = rowSwitches (env.dbRule "system") := by
  unfold loadSystemRule
  cases env.dbRule "system" with
  | none => simp only [hfresh, rowSwitches, Option.map_none, Option.getD_none]; rfl
  | some row =>
    simp only
    split
    · rename_i hdefault
      have hshown := shown_of_isDefault hdefault
      simp only [TrafficItemRules.shown, RuleView.mk.injEq, loadedRules] at hshown
      simp only [hfresh, rowSwitches, Option.map_some, Option.getD_some, hshown.1, hshown.2.1]
      rfl
    · rw [((sameRules_updateRuleCache _ t _ _).trans (sameRules_syncRules _ _)).systemRules]
      rfl

/-- A change of the system item stores its switches, any other one leaves them alone. -/
theorem switches_handleRuleChange (env : RuleEnv) (t : CounterTree) (update : RuleUpdate)
    (m : RuleManager) :
    (handleRuleChange env t update m).1.systemRules.switches =
      if t.trafficItems.lookup update.trafficItemId = some .system then update.rules.switches
      else m.systemRules.switches := by
  have hshown {r r' : TrafficItemRules} (h : r.shown = r'.shown) : r.switches = r'.switches := by
    simp only [TrafficItemRules.shown, RuleView.mk.injEq] at h
    simp only [TrafficItemRulesBase.switches, h.1, h.2.1]
  split
  · rename_i hitem
    have hstores : Stores .system := trivial
    have hheld := (held_handleRuleChange env t update m hstores hitem rfl .system 0).1
    rw [if_pos ⟨rfl, .inl rfl⟩] at hheld
    exact hshown hheld
  · rename_i hitem
    refine hshown (held_handleRuleChange_of_ne env t update m .system 0 fun ty hty h => ?_)
    exact hitem (hty.trans (congrArg some h.1.symm))

end RuleManager

/-! ## Runs -/

/-- The rule manager with the row of the system rule. -/
structure SystemRuleState where
  row : Option DbRule := none
  manager : RuleManager := {}

/-- What can happen to them. -/
inductive SystemRuleOp : Type 1 where
  /-- The daemon starts, with an empty map after a reboot. -/
  | start (reboot : Bool) (env : RuleEnv) (t : KeyedTree)
  | handleRuleChange (env : RuleEnv) (t : KeyedTree) (update : RuleUpdate)
  /-- A signal the rule manager is connected to. -/
  | signal (env : RuleEnv) (t : KeyedTree) (n : Notice)

namespace SystemRuleState

/-- `WriteSystemRuleToDb`. -/
def writeSystemRuleToDb (rules : TrafficItemRules) (row : Option DbRule) : Option DbRule :=
  let written : DbRule := ⟨rules.downloadLimit, rules.uploadLimit, rules.downloadSwitch,
    rules.uploadSwitch⟩
  match row with
  | none => if rules.isDefault then none else some written
  | some _ => if rules.isDefault then none else some written

/-- The map when the daemon starts. -/
def mapAtStart (s : SystemRuleState) (reboot : Bool) : SocketRulesMap :=
  if reboot then ∅ else s.manager.kernel

/-- One step. -/
def step (s : SystemRuleState) : SystemRuleOp → SystemRuleState
  | .start reboot env t =>
    let env := { env with
      dbRule := fun target => if target = "system" then s.row else env.dbRule target }
    { s with
      manager := ({ kernel := s.mapAtStart reboot } : RuleManager).loadSystemRule env t.toCounterTree }
  | .handleRuleChange env t update =>
    { row :=
        if t.trafficItems.lookup update.trafficItemId = some .system then
          writeSystemRuleToDb (RuleManager.withMarks env update.trafficItemId update.rules) s.row
        else s.row
      manager := (s.manager.handleRuleChange env t.toCounterTree update).1 }
  | .signal env t n => { s with manager := RuleManager.listener env n t.toCounterTree s.manager }

/-- The kernel's entry has the switches of `SystemRules`. -/
def Agrees (s : SystemRuleState) : Prop :=
  s.manager.kernelSwitches = s.manager.systemRules.switches

/-- A daemon that starts finds the switches of the row in the entry of cookie 0. -/
def FindsRow (s : SystemRuleState) : SystemRuleOp → Prop
  | .start reboot _ _ => (((s.mapAtStart reboot).lookup 0).getD {}).switches = rowSwitches s.row
  | _ => True

instance (s : SystemRuleState) : Decidable s.Agrees := inferInstanceAs (Decidable (_ = _))

/-- The row has the switches of the kernel's entry. -/
def RowAgrees (s : SystemRuleState) : Prop := s.manager.kernelSwitches = rowSwitches s.row

/-- Between the steps nothing is cached under cookie 0. -/
def Uncached (s : SystemRuleState) : Prop := s.manager.socketCookieRules.lookup 0 = none

theorem Uncached.underZero {s : SystemRuleState} (h : s.Uncached) :
    RuleManager.UnderZero (s.manager.kernel.lookup 0) s.manager := ⟨h, rfl⟩

theorem kernelSwitches_of_underZero {v : Option TrafficItemRulesBase} {m : RuleManager}
    (h : RuleManager.UnderZero v m) : m.kernelSwitches = (v.getD {}).switches := by
  rw [RuleManager.kernelSwitches, h.kernel]

/-- `LoadSystemRule` leaves the entry as it is. -/
theorem start_spec (s : SystemRuleState) (reboot : Bool) (env : RuleEnv) (t : KeyedTree) :
    (s.step (.start reboot env t)).Uncached ∧
      (s.step (.start reboot env t)).manager.kernelSwitches =
        (((s.mapAtStart reboot).lookup 0).getD {}).switches ∧
      (s.step (.start reboot env t)).manager.systemRules.switches = rowSwitches s.row := by
  have hfresh : RuleManager.UnderZero ((s.mapAtStart reboot).lookup 0)
      { kernel := s.mapAtStart reboot } := ⟨rfl, rfl⟩
  have hloaded := hfresh.loadSystemRule { env with
    dbRule := fun target => if target = "system" then s.row else env.dbRule target } t
  refine ⟨hloaded.cache, kernelSwitches_of_underZero hloaded, ?_⟩
  refine (RuleManager.switches_loadSystemRule _ _ _ rfl).trans (congrArg rowSwitches ?_)
  simp only [if_true]

/-- A step of a running daemon keeps the entry in agreement. -/
theorem handleRuleChange_spec {s : SystemRuleState} (h : s.Uncached) (env : RuleEnv) (t : KeyedTree)
    (update : RuleUpdate) :
    (s.step (.handleRuleChange env t update)).Uncached ∧
      (s.step (.handleRuleChange env t update)).manager.kernelSwitches =
        (if t.trafficItems.lookup update.trafficItemId = some .system then update.rules.switches
          else s.manager.kernelSwitches) ∧
      (s.step (.handleRuleChange env t update)).manager.systemRules.switches =
        if t.trafficItems.lookup update.trafficItemId = some .system then update.rules.switches
          else s.manager.systemRules.switches := by
  have hunder := h.underZero.handleRuleChange env t update
  refine ⟨hunder.cache, ?_, RuleManager.switches_handleRuleChange env t.toCounterTree update _⟩
  refine (kernelSwitches_of_underZero hunder).trans ?_
  split <;> rfl

theorem signal_spec {s : SystemRuleState} (h : s.Uncached) (env : RuleEnv) (t : KeyedTree)
    (n : Notice) :
    (s.step (.signal env t n)).Uncached ∧
      (s.step (.signal env t n)).manager.kernelSwitches = s.manager.kernelSwitches ∧
      (s.step (.signal env t n)).manager.systemRules = s.manager.systemRules :=
  have hunder := h.underZero.listener env t n
  ⟨hunder.cache, kernelSwitches_of_underZero hunder,
    RuleManager.systemRules_listener env t.toCounterTree n s.manager⟩

theorem rowSwitches_writeSystemRuleToDb (rules : TrafficItemRules) (row : Option DbRule) :
    rowSwitches (writeSystemRuleToDb rules row) = rules.switches := by
  have hnone (h : rules.isDefault = true) : rowSwitches none = rules.switches := by
    have hshown := shown_of_isDefault h
    simp only [TrafficItemRules.shown, RuleView.mk.injEq] at hshown
    simp only [TrafficItemRulesBase.switches, hshown.1, hshown.2.1]
    rfl
  unfold writeSystemRuleToDb
  cases row <;>
  · simp only
    split
    · exact hnone ‹_›
    · rfl

/-- A change of the system rule writes the row and the entry, any other one leaves both alone. The
next daemon then finds the row in the entry, unless the machine is rebooted. -/
theorem rowAgrees_handleRuleChange {s : SystemRuleState} (h : s.Uncached) (env : RuleEnv)
    (t : KeyedTree) (update : RuleUpdate)
    (hrow : t.trafficItems.lookup update.trafficItemId = some .system ∨ s.RowAgrees) :
    (s.step (.handleRuleChange env t update)).RowAgrees := by
  refine (handleRuleChange_spec h env t update).2.1.trans ?_
  simp only [step]
  split
  · rw [rowSwitches_writeSystemRuleToDb]
    rfl
  · rename_i hitem
    exact hrow.resolve_left hitem

/-- The traffic programs then block by the system rule what has no entry of its own. -/
theorem Agrees.drop_iff {s : SystemRuleState} (h : s.Agrees) (d : PacketDirection) (now : Nat)
    (reserved : Bool) {skb : SkBuff} (hip : skb.isIP)
    (hunknown : s.manager.kernel.lookup skb.cookie = none) :
    (cgskb d s.manager.kernel now reserved skb).1 = .drop ↔
      s.manager.systemRules.switch d = .block := by
  have hzero : blocks s.manager.kernel 0 d = true ↔ s.manager.systemRules.switch d = .block := by
    have hswitches := Prod.mk.injEq .. ▸ show (_, _) = (_, _) from h
    unfold blocks
    cases hentry : s.manager.kernel.lookup 0 with
    | none =>
      simp only [hentry, Option.getD_none] at hswitches
      cases d <;> simp [TrafficItemRulesBase.switch, ← hswitches.1, ← hswitches.2]
    | some r =>
      simp only [hentry, Option.getD_some] at hswitches
      cases d <;> simp [TrafficItemRulesBase.switch, hswitches.1, hswitches.2]
  have hown : blocks s.manager.kernel skb.cookie d = false := by
    simp only [blocks, hunknown, Option.any_none]
  rw [cgskb_drop_iff, hown]
  simp only [hip, true_and, Bool.false_eq_true, or_false, hzero]

/-- **When the system rule reaches the kernel.** -/
theorem agrees_iff (row : Option DbRule) (ops : List SystemRuleOp) :
    Always step Agrees { row := row } ops ↔ AllSteps step FindsRow { row := row } ops := by
  refine always_iff_allSteps (I := fun s : SystemRuleState => s.Uncached ∧ s.Agrees) (fun s h => h.2) ?_ ?_ ops
    ⟨rfl, rfl⟩
  · rintro s o ⟨hcache, hagrees⟩ hfinds
    cases o with
    | start reboot env t =>
      obtain ⟨hcache', hkernel, hsystem⟩ := start_spec s reboot env t
      exact ⟨hcache', hkernel.trans (hfinds.trans hsystem.symm)⟩
    | handleRuleChange env t update =>
      obtain ⟨hcache', hkernel, hsystem⟩ := handleRuleChange_spec hcache env t update
      refine ⟨hcache', hkernel.trans (Eq.trans ?_ hsystem.symm)⟩
      rw [show s.manager.kernelSwitches = _ from hagrees]
    | signal env t n =>
      obtain ⟨hcache', hkernel, hsystem⟩ := signal_spec hcache env t n
      refine ⟨hcache', hkernel.trans (hagrees.trans ?_)⟩
      rw [hsystem]
  · rintro s o ⟨hcache, -⟩ hagrees
    cases o with
    | start reboot env t =>
      obtain ⟨-, hkernel, hsystem⟩ := start_spec s reboot env t
      exact hkernel.symm.trans (hagrees.trans hsystem)
    | handleRuleChange env t update => trivial
    | signal env t n => trivial

/-! ### A reboot -/

/-- No sockets. -/
def bareTree : KeyedTree where
  toCounterTree := default
  ne_zero := fun _ _ _ h => Option.noConfusion rfl (heq_of_eq h)

/-- Nothing is read from outside. -/
def bareEnv : RuleEnv :=
  { order := .stored
    downloadMark := fun _ _ => 0
    uploadMark := fun _ _ => 0
    dbRule := fun _ => none }

/-- All downloads of the system are blocked. -/
def blockRow : DbRule := ⟨0, 0, .block, .none⟩

/-- The rule is loaded into `SystemRules` only. -/
theorem loaded_not_in_kernel :
    ¬ ∀ row ops, Always step Agrees { row := row } ops := fun hall =>
  absurd (hall (some blockRow) [.start true bareEnv bareTree]).last (by decide)

end SystemRuleState

end Waechter
