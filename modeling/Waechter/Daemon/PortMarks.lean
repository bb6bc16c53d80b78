import Waechter.Daemon.ByteAccounting
import Waechter.Daemon.Enforcement
import Waechter.Daemon.RuleCache
import Waechter.Daemon.StateChanges

/-!
# The marks of the ports

The kernel's `ingress_port_marks` map against the rules (`Daemon/Rules/RuleManager.cpp`,
`Daemon/Net/IPLink.cpp`). All sockets on a local port share its entry. A sync writes it for the
sockets whose cached rules changed, and the removal of a socket or the reset of its rule clears
it.

* `portMark_refresh`: a sync leaves an entry alone or writes what one of the changed sockets has.
* `PortsFit`: the condition on the marks of the sockets on the ports, as they were and as they come
  to be: they change on a port only where a socket on it is found with other rules than the cached
  ones (`staleSockets`), and no marked socket is left on a port whose entry is cleared. A removed
  socket does not count, although it is in `Sockets` until the end of the operation.
* `always_portsMatch`: then the entries match the sockets while the daemon runs.
* `portsMatch_fails`: of two sockets on one port one is removed.
-/

namespace Waechter

open Lib

namespace Enforcement

open RuleManager (SameRules)

/-- The value of a port in the kernel: an absent entry counts as 0. -/
def portMark (marks : UMap UInt16 UInt16) (port : UInt16) : UInt16 := (marks.lookup port).getD 0

theorem portMark_insert (marks : UMap UInt16 UInt16) (port q value : UInt16) :
    portMark (marks.insert port value) q = if q = port then value else portMark marks q := by
  unfold portMark
  rw [UMap.lookup_insert_ite]
  split <;> rfl

/-! ## The sockets on the ports -/

/-- The sockets that are in `Sockets` and were not removed: the local port and the mark in force of
each. -/
def holders (m : RuleManager) (t : CounterTree) (gone : List Ref) : List (UInt16 × UInt32) :=
  ((IterOrder.stored.values t.sockets).filter (· ∉ gone)).map fun r =>
    (localPort t r, (m.effective t.shape r).downloadMark)

theorem mem_holders (m : RuleManager) (t : CounterTree) (gone : List Ref) (port : UInt16)
    (mark : UInt32) : (port, mark) ∈ holders m t gone ↔
      ∃ c r, t.sockets.lookup c = some r ∧ r ∉ gone ∧ localPort t r = port ∧
        (m.effective t.shape r).downloadMark = mark := by
  unfold holders
  simp only [List.mem_map, List.mem_filter, IterOrder.mem_values, decide_eq_true_eq, Prod.mk.injEq]
  constructor
  · rintro ⟨r, ⟨⟨c, hr⟩, hgone⟩, hport, hmark⟩
    exact ⟨c, r, hr, hgone, hport, hmark⟩
  · rintro ⟨c, r, hr, hgone, hport, hmark⟩
    exact ⟨r, ⟨⟨c, hr⟩, hgone⟩, hport, hmark⟩

/-- Managers under which the sockets that count have the same rules in force. -/
theorem holders_congr {m m' : RuleManager} {t : CounterTree} {gone : List Ref}
    (h : ∀ c r, t.sockets.lookup c = some r → r ∉ gone →
      m'.effective t.shape r = m.effective t.shape r) : holders m' t gone = holders m t gone := by
  refine List.map_congr_left fun r hr => ?_
  obtain ⟨hr, hgone⟩ := List.mem_filter.mp hr
  obtain ⟨c, hr⟩ := (IterOrder.mem_values _ _ r).mp hr
  rw [h c r hr (of_decide_eq_true hgone)]

theorem holders_sameRules {m m' : RuleManager} (h : SameRules m m') (t : CounterTree)
    (gone : List Ref) : holders m' t gone = holders m t gone :=
  holders_congr fun _ _ _ _ => h.inForce t.shape _ _ _

theorem holders_removeEmptyRules (m : RuleManager) (t : CounterTree) (gone : List Ref) :
    holders m.removeEmptyRules t gone = holders m t gone :=
  holders_congr fun _ _ _ _ => RuleManager.inForce_removeEmptyRules m t.shape _ _ _

/-- No socket on the port has a mark. -/
def Unmarked (l : List (UInt16 × UInt32)) (port : UInt16) : Prop := ∀ v ∈ l, v.1 = port → v.2 = 0

/-- The value is the mark of a socket on the port, as far as 16 bits hold it, or it is 0 and no
socket on the port has a mark. -/
def Shows (l : List (UInt16 × UInt32)) (port value : UInt16) : Prop :=
  (∃ mark, (port, mark) ∈ l ∧ value = mark.toUInt16) ∨ value = 0 ∧ Unmarked l port

/-- The entry of the port is neither written nor cleared. Port 0 is none. -/
def Untouched (written cleared : List UInt16) (port : UInt16) : Prop :=
  port ≠ 0 ∧ port ∉ written ∧ port ∉ cleared

/-- The condition on the sockets on the ports before and after a step that writes the entries of some
ports and clears those of others. -/
@[mk_iff]
structure PortsFit (l l' : List (UInt16 × UInt32)) (written cleared : List UInt16) : Prop where
  /-- A mark on a port stays on it. A socket without a mark may leave a port without marks. -/
  stays : ∀ v ∈ l, Untouched written cleared v.1 → v ∈ l' ∨ v.2 = 0 ∧ Unmarked l' v.1
  /-- A mark comes to a port that had one. -/
  comes : ∀ v ∈ l', Untouched written cleared v.1 → v.2 = 0 ∨ ∃ u ∈ l, u.1 = v.1 ∧ u.2 ≠ 0
  /-- No mark is left on a port whose entry is cleared, or not all sockets on it have one. -/
  clears : ∀ port ∈ cleared, port ≠ 0 ∧ port ∉ written → (port, 0) ∈ l' ∨ Unmarked l' port

section Decidable

instance (l : List (UInt16 × UInt32)) (port : UInt16) : Decidable (Unmarked l port) :=
  List.decidableBAll (fun v : UInt16 × UInt32 => v.1 = port → v.2 = 0) l

instance (written cleared : List UInt16) (port : UInt16) :
    Decidable (Untouched written cleared port) := inferInstanceAs (Decidable (_ ∧ _ ∧ _))

instance (l l' : List (UInt16 × UInt32)) (written cleared : List UInt16) :
    Decidable (PortsFit l l' written cleared) :=
  have : Decidable (∀ v ∈ l, Untouched written cleared v.1 →
      v ∈ l' ∨ v.2 = 0 ∧ Unmarked l' v.1) := List.decidableBAll _ _
  have : Decidable (∀ v ∈ l', Untouched written cleared v.1 →
      v.2 = 0 ∨ ∃ u ∈ l, u.1 = v.1 ∧ u.2 ≠ 0) := List.decidableBAll _ _
  have : Decidable (∀ port ∈ cleared, port ≠ 0 ∧ port ∉ written →
      (port, 0) ∈ l' ∨ Unmarked l' port) := List.decidableBAll _ _
  decidable_of_iff' _ (portsFit_iff l l' written cleared)

end Decidable

/-- A port that is neither written nor cleared. -/
theorem PortsFit.shows {l l' : List (UInt16 × UInt32)} {written cleared : List UInt16}
    (h : PortsFit l l' written cleared) {port value : UInt16}
    (huntouched : Untouched written cleared port) (hshows : Shows l port value) :
    Shows l' port value := by
  rcases hshows with ⟨mark, hmark, hvalue⟩ | ⟨hvalue, hnone⟩
  · rcases h.stays (port, mark) hmark huntouched with hstays | ⟨hzero, hnone⟩
    · exact .inl ⟨mark, hstays, hvalue⟩
    · rw [show mark = 0 from hzero] at hvalue
      exact .inr ⟨hvalue, hnone⟩
  · refine .inr ⟨hvalue, fun v hv hon => ?_⟩
    subst hon
    refine (h.comes v hv huntouched).resolve_right ?_
    rintro ⟨u, hu, hon, hne⟩
    exact hne (hnone u hu hon)

/-- A port that is cleared. -/
theorem PortsFit.shows_cleared {l l' : List (UInt16 × UInt32)} {written cleared : List UInt16}
    (h : PortsFit l l' written cleared) {port : UInt16} (hport : port ≠ 0)
    (hwritten : port ∉ written) (hcleared : port ∈ cleared) : Shows l' port 0 :=
  (h.clears port hcleared ⟨hport, hwritten⟩).imp (fun hzero => ⟨0, hzero, rfl⟩) fun hnone => ⟨rfl, hnone⟩

/-! ## Syncing -/

/-- Syncing the entry writes the value for the port. -/
def SyncWrites (t : CounterTree) (entry : CookieRules) (port value : UInt16) : Prop :=
  entry.dirty = true ∧ t.trafficItems.lookup entry.socketId = some .socket ∧
    localPort t entry.socketId = port ∧
    (entry.rules.downloadMark = 0 ∧ value = 0 ∨
      entry.rules.downloadMark ≠ 0 ∧ port ≠ 0 ∧ value = entry.rules.downloadMark.toUInt16)

/-- Recomputing the rules from the root and syncing them writes the value for the port. -/
def RefreshWrites (env : RuleSources) (t : CounterTree) (root : TrafficItemId × TrafficItemType)
    (m : RuleManager) (port value : UInt16) : Prop :=
  ∃ c entry, (RuleManager.updateRuleCache env.order t root m).socketCookieRules.lookup c = some entry ∧
    SyncWrites t entry port value

/-- One entry leaves the value of a port alone, or writes it. -/
theorem portMark_syncPort (t : CounterTree) (marks : UMap UInt16 UInt16)
    (entry : SocketCookie × CookieRules) (port : UInt16) :
    portMark (syncPort t marks entry) port = portMark marks port ∧
        (∀ v, ¬SyncWrites t entry.2 port v) ∨
      SyncWrites t entry.2 port (portMark (syncPort t marks entry) port) := by
  unfold syncPort
  split
  · rename_i hdirty
    split
    · rename_i hitem
      dsimp only
      split
      · rename_i hzero
        unfold removeIngressPortRouting
        rw [portMark_insert]
        split
        · rename_i hport
          exact .inr ⟨hdirty, hitem, hport.symm, .inl ⟨hzero, rfl⟩⟩
        · rename_i hport
          exact .inl ⟨rfl, fun v h => hport h.2.2.1.symm⟩
      · rename_i hmark
        split
        · rename_i hne
          unfold setupIngressPortRouting
          rw [portMark_insert]
          split
          · rename_i hport
            exact .inr ⟨hdirty, hitem, hport.symm, .inr ⟨hmark, hport ▸ hne, rfl⟩⟩
          · rename_i hport
            exact .inl ⟨rfl, fun v h => hport h.2.2.1.symm⟩
        · rename_i hzero
          refine .inl ⟨rfl, fun v h => ?_⟩
          rcases h.2.2.2 with ⟨hmark', -⟩ | ⟨-, hport, -⟩
          · exact hmark hmark'
          · exact hport (h.2.2.1.symm.trans (not_not.mp hzero))
    · rename_i hitem
      exact .inl ⟨rfl, fun v h => hitem h.2.1⟩
  · rename_i hdirty
    exact .inl ⟨rfl, fun v h => hdirty h.1⟩

theorem portMark_syncPorts (t : CounterTree) (port : UInt16) :
    ∀ (l : List (SocketCookie × CookieRules)) (marks : UMap UInt16 UInt16),
      portMark (l.foldl (syncPort t) marks) port = portMark marks port ∧
          (∀ entry ∈ l, ∀ v, ¬SyncWrites t entry.2 port v) ∨
        ∃ entry ∈ l, SyncWrites t entry.2 port (portMark (l.foldl (syncPort t) marks) port)
  | [], marks => .inl ⟨rfl, fun _ h => absurd h List.not_mem_nil⟩
  | entry :: l, marks => by
    rw [List.foldl_cons]
    rcases portMark_syncPorts t port l (syncPort t marks entry) with ⟨hkept, hrest⟩ | ⟨e, he, hw⟩
    · rw [hkept]
      rcases portMark_syncPort t marks entry port with ⟨hsame, hnone⟩ | hw
      · refine .inl ⟨hsame, fun e he => ?_⟩
        rcases List.mem_cons.mp he with rfl | he
        · exact hnone
        · exact hrest e he
      · exact .inr ⟨entry, List.mem_cons_self, hw⟩
    · exact .inr ⟨e, List.mem_cons_of_mem entry he, hw⟩

/-- **A recomputation leaves the value of a port alone, or writes it.** -/
theorem portMark_refresh (env : RuleSources) (t : CounterTree)
    (root : TrafficItemId × TrafficItemType) (e : Enforcement) (port : UInt16) :
    portMark (refresh env t root e).ingressPortMarks port = portMark e.ingressPortMarks port ∧
        (∀ v, ¬RefreshWrites env t root e.manager port v) ∨
      RefreshWrites env t root e.manager port
        (portMark (refresh env t root e).ingressPortMarks port) := by
  set cached := (RuleManager.updateRuleCache env.order t root e.manager).socketCookieRules
  rcases portMark_syncPorts t port (env.order.entries cached) e.ingressPortMarks with
    ⟨hsame, hnone⟩ | ⟨entry, hentry, hw⟩
  · refine .inl ⟨hsame, fun v h => ?_⟩
    obtain ⟨c, entry, hentry, hw⟩ := h
    exact hnone (c, entry) ((env.order.mem_entries cached c entry).mpr hentry) v hw
  · exact .inr ⟨entry.1, entry.2, (env.order.mem_entries cached entry.1 entry.2).mp hentry, hw⟩

/-! ## The entries match the sockets -/

/-- A socket in `Sockets` on the port, with its mark in force. -/
def OnPort (s : SystemMap Enforcement) (port : UInt16) (mark : UInt32) : Prop :=
  ∃ c r, s.shape.socks c = some r ∧ localPort s.toCounterTree r = port ∧
    (s.listeners.manager.effective s.shape r).downloadMark = mark

theorem onPort_iff (s : SystemMap Enforcement) (port : UInt16) (mark : UInt32) :
    OnPort s port mark ↔ ∃ c r, s.sockets.lookup c = some r ∧ localPort s.toCounterTree r = port ∧
      (s.listeners.manager.effective s.shape r).downloadMark = mark := Iff.rfl

/-- **The entries match the sockets.** The entry of a port on which a socket has a mark is the
mark of a socket on it, as far as 16 bits hold it, and every other entry is absent or 0. Port 0 is
none. -/
def PortsMatch (s : SystemMap Enforcement) : Prop :=
  ∀ port,
    ((port ≠ 0 ∧ ∃ mark ≠ 0, OnPort s port mark) →
      ∃ mark, OnPort s port mark ∧
        portMark s.listeners.ingressPortMarks port = mark.toUInt16) ∧
    (¬(port ≠ 0 ∧ ∃ mark ≠ 0, OnPort s port mark) →
      portMark s.listeners.ingressPortMarks port = 0)

/-- The entries match the sockets as long as the daemon runs. -/
def PortsFollow (s : SystemMap Enforcement) : Prop := s.listeners.terminated = false → PortsMatch s

/-! ## The condition -/

/-- Where an operation stands after a notice, and the sockets that were removed in it. -/
structure Watched extends Moment where
  gone : List Ref := []

/-- An operation begins. -/
def watching (s : SystemMap Enforcement) : Watched := { toMoment := opening s }

namespace Watched

/-- The next notice. -/
def next (env : RuleSources) (w : Watched) (h : Notice × CounterTree) : Watched where
  toMoment := w.toMoment.next env h
  gone := match h.1 with
    | .onSocketRemoved r => r :: w.gone
    | _ => w.gone

/-- The sockets on the ports after the last notice. -/
def holders (w : Watched) : List (UInt16 × UInt32) :=
  Enforcement.holders w.rules.manager w.tree w.gone

end Watched

/-- The sockets that a recomputation finds with other rules than the cached ones, or without cached
rules. -/
def staleSockets (o : IterOrder) (t : CounterTree) (root : TrafficItemId × TrafficItemType)
    (m : RuleManager) : List Ref :=
  (RuleManager.rootApps o t root).flatMap fun a =>
    (o.values (t.app a).trafficItem.processes).flatMap fun p =>
      ((o.entries (t.process p).trafficItem.sockets).filter fun e =>
        (m.socketCookieRules.lookup e.1).map (·.rules) ≠ some (m.inForce t.shape a p e.2)).map (·.2)

theorem mem_staleSockets (o : IterOrder) (t : CounterTree) (root : TrafficItemId × TrafficItemType)
    (m : RuleManager) (r : Ref) : r ∈ staleSockets o t root m ↔
      ∃ c a p, t.shape.Reached root c a p r ∧
        (m.socketCookieRules.lookup c).map (·.rules) ≠ some (m.inForce t.shape a p r) := by
  simp only [staleSockets, List.mem_flatMap, List.mem_map, List.mem_filter, RuleManager.mem_rootApps,
    IterOrder.mem_values, Prod.exists, IterOrder.mem_entries, decide_eq_true_eq]
  constructor
  · rintro ⟨a, ha, p, hp, c, q, ⟨hq, hstale⟩, rfl⟩
    exact ⟨c, a, p, ⟨ha, hp, hq⟩, hstale⟩
  · rintro ⟨c, a, p, ⟨ha, hp, hr⟩, hstale⟩
    exact ⟨a, ha, p, hp, c, r, ⟨hr, hstale⟩, rfl⟩

/-- A socket that a recomputation finds under a cookie is the one in `Sockets`, it was not removed,
and it is the one that the cookie's entry in the cache names. -/
structure Placed (t : CounterTree) (gone : List Ref) (m : RuleManager) (c : SocketCookie)
    (a p r : Ref) : Prop where
  live : t.sockets.lookup c = some r
  counts : r ∉ gone
  process : t.shape.sockProc r = p
  app : t.shape.procApp p = a
  item : t.trafficItems.lookup r = some .socket
  itemId : t.shape.sockId r = r
  cached : ∀ e ∈ m.socketCookieRules.lookup c, e.socketId = r

/-- The condition on a recomputation under the rules of a manager, which writes the entries of the
ports of the stale sockets. -/
structure RefreshFits (env : RuleSources) (t : CounterTree) (root : TrafficItemId × TrafficItemType)
    (gone : List Ref) (m : RuleManager) (l : List (UInt16 × UInt32)) (cleared : List UInt16) :
    Prop where
  placed : ∀ c a p r, t.shape.Reached root c a p r → Placed t gone m c a p r
  ports : PortsFit l (holders m t gone) ((staleSockets env.order t root m).map (localPort t)) cleared

/-- The condition on a notice that writes nothing. -/
def Unwritten (w : Watched) (t : CounterTree) : Prop :=
  PortsFit w.holders (holders w.rules.manager t w.gone) [] []

/-- The condition on a rule that may be loaded. -/
def PortLoadFits (env : RuleSources) (w : Watched) (t : CounterTree)
    (root : TrafficItemId × TrafficItemType) (i : TrafficItemId) (target : String) : Prop :=
  match w.rules.ruleTable.read env.column target with
  | none => Unwritten w t
  | some row =>
    let rules := (loadedRules i row w.rules.link).1
    if rules.isDefault then Unwritten w t
    else RefreshFits env t root w.gone (w.rules.manager.store root.2 i rules) w.holders []

/-- A process that is removed has no rule, or none of its sockets is left. -/
def ProcessSpent (w : Watched) (t : CounterTree) (p : Ref) : Prop :=
  t.shape.procId p ∉ w.rules.manager.processRules ∨
    t.shape.procId p = p ∧ p ≠ 0 ∧
      ∀ c ∈ t.sockets, ∀ r ∈ t.sockets.lookup c, r ∉ w.gone → t.shape.sockProc r ≠ p

/-- The condition on a notice. -/
def PortNoticeFits (env : RuleSources) (w : Watched) (h : Notice × CounterTree) : Prop :=
  let m := w.rules.manager
  let t := h.2
  match h.1 with
  | .onSocketConnected r =>
    let p := t.shape.sockProc r
    if (m.effectiveProcRules t p).isDefault then Unwritten w t
    else RefreshFits env t (t.shape.procApp p, .application) w.gone m w.holders []
  | .onSocketRemoved r =>
    t.shape.sockId r = r ∧ r ≠ 0 ∧
      PortsFit w.holders (holders m t (r :: w.gone)) [] [localPort t r]
  | .onProcessRemoved p => ProcessSpent w t p ∧ Unwritten w t
  | .onAppFirstTimeConnected a =>
    let item := (t.app a).trafficItem
    PortLoadFits env w t (a, .application) item.itemId item.applicationPath
  | _ => True

/-- The port whose entry a rule change clears. -/
def clearedPort (t : CounterTree) (update : RuleUpdate) (ty : TrafficItemType) : List UInt16 :=
  if update.rules.downloadLimit = 0 ∧ ty = .socket then [localPort t update.trafficItemId] else []

/-- The condition on a rule change: it is ignored, its row cannot be written, or what it recomputes
fits. -/
def PortChangeFits (env : RuleSources) (update : RuleUpdate) (t : CounterTree) (e : Enforcement) :
    Prop :=
  let i := update.trafficItemId
  let rules := rulesOfUpdate update e.link
  ∀ ty ∈ t.trafficItems.lookup i, ∀ root ∈ RuleManager.cacheRoot t update ty,
    (writeRow t ty i rules e.ruleTable).isOk →
      RefreshFits env t root [] (e.manager.store ty i rules) (holders e.manager t [])
        (clearedPort t update ty)

/-- The condition on an operation. At its end, the sockets that were removed in it count again. -/
def FitsPorts (s : SystemMap Enforcement) : EnforceOp → Prop
  | .loadSystemRule env =>
    PortLoadFits env { tree := s.toCounterTree, rules := s.listeners } s.toCounterTree (0, .system) 0
      "system"
  | .handleRuleChange env update => PortChangeFits env update s.toCounterTree s.listeners
  | .onMap env op =>
    let s' := onMap env op s
    let last := run (Watched.next env) (watching s) s'.listeners.heard
    AllSteps (Watched.next env) (PortNoticeFits env) (watching s) s'.listeners.heard ∧
      PortsFit last.holders (holders last.rules.manager s'.toCounterTree []) [] []

section Decidable

instance (t : CounterTree) (gone : List Ref) (m : RuleManager) (c : SocketCookie) (a p r : Ref) :
    Decidable (Placed t gone m c a p r) :=
  decidable_of_iff (t.sockets.lookup c = some r ∧ r ∉ gone ∧ t.shape.sockProc r = p ∧
      t.shape.procApp p = a ∧ t.trafficItems.lookup r = some .socket ∧ t.shape.sockId r = r ∧
      ∀ e ∈ m.socketCookieRules.lookup c, e.socketId = r)
    ⟨fun ⟨live, counts, process, app, item, itemId, cached⟩ =>
      { live, counts, process, app, item, itemId, cached },
      fun h => ⟨h.1, h.2, h.3, h.4, h.5, h.6, h.7⟩⟩

instance (env : RuleSources) (t : CounterTree) (root : TrafficItemId × TrafficItemType)
    (gone : List Ref) (m : RuleManager) (l : List (UInt16 × UInt32)) (cleared : List UInt16) :
    Decidable (RefreshFits env t root gone m l cleared) :=
  have hplaced := RuleManager.forall_reached_iff .stored t root (Placed t gone m)
  decidable_of_iff (_ ∧ PortsFit l (holders m t gone)
      ((staleSockets env.order t root m).map (localPort t)) cleared)
    ⟨fun h => ⟨hplaced.mpr h.1, h.2⟩, fun h => ⟨hplaced.mp h.1, h.2⟩⟩

instance (w : Watched) (t : CounterTree) : Decidable (Unwritten w t) :=
  inferInstanceAs (Decidable (PortsFit ..))

instance (env : RuleSources) (w : Watched) (t : CounterTree)
    (root : TrafficItemId × TrafficItemType) (i : TrafficItemId) (target : String) :
    Decidable (PortLoadFits env w t root i target) := by
  unfold PortLoadFits
  split <;> infer_instance

instance (w : Watched) (t : CounterTree) (p : Ref) : Decidable (ProcessSpent w t p) :=
  inferInstanceAs (Decidable (_ ∨ _ ∧ _ ∧
    ∀ c ∈ t.sockets.keys, ∀ r ∈ t.sockets.lookup c, r ∉ w.gone → t.shape.sockProc r ≠ p))

instance (env : RuleSources) (w : Watched) : (h : Notice × CounterTree) →
    Decidable (PortNoticeFits env w h)
  | (.onSocketConnected _, _) => inferInstanceAs (Decidable (ite ..))
  | (.onSocketRemoved _, _) => inferInstanceAs (Decidable (_ ∧ _ ∧ _))
  | (.onProcessRemoved _, _) => inferInstanceAs (Decidable (_ ∧ _))
  | (.onAppFirstTimeConnected _, _) => inferInstanceAs (Decidable (PortLoadFits ..))
  | (.onUDPTupleCreated _, _) | (.onUDPTupleRemoved _, _) | (.onProcessCreated _, _)
  | (.sendLookupMessage _, _) | (.updateFilterStats .., _) | (.updateAppStats .., _)
  | (.call .., _) => inferInstanceAs (Decidable True)

instance (env : RuleSources) (update : RuleUpdate) (t : CounterTree) (e : Enforcement) :
    Decidable (PortChangeFits env update t e) :=
  inferInstanceAs (Decidable
    (∀ ty ∈ t.trafficItems.lookup update.trafficItemId, ∀ root ∈ _, _ → _))

instance (s : SystemMap Enforcement) : (op : EnforceOp) → Decidable (FitsPorts s op)
  | .loadSystemRule _ => inferInstanceAs (Decidable (PortLoadFits ..))
  | .handleRuleChange env update =>
    inferInstanceAs (Decidable (PortChangeFits env update s.toCounterTree s.listeners))
  | .onMap _ _ => inferInstanceAs (Decidable (_ ∧ _))

instance (s : SystemMap Enforcement) (op : EnforceOp) : Decidable (WhileRunning FitsPorts s op) :=
  inferInstanceAs (Decidable (_ = false → _))

end Decidable

/-! ## What a recomputation writes -/

section Refresh

variable {env : RuleSources} {t : CounterTree} {root : TrafficItemId × TrafficItemType}
  {gone : List Ref} {m : RuleManager} {port : UInt16}

theorem inForce_placed {c : SocketCookie} {a p r : Ref} (h : Placed t gone m c a p r) :
    m.inForce t.shape a p r = m.effective t.shape r := by
  unfold RuleManager.effective
  rw [h.process, h.app]

/-- What is written is the mark of a socket on the port. -/
theorem mem_of_refreshWrites (hsettled : m.Settled)
    (hplaced : ∀ c a p r, t.shape.Reached root c a p r → Placed t gone m c a p r) {value : UInt16}
    (h : RefreshWrites env t root m port value) :
    ∃ mark, (port, mark) ∈ holders m t gone ∧ value = mark.toUInt16 := by
  obtain ⟨c, entry, hentry, hdirty, hitem, hport, hvalue⟩ := h
  rcases RuleManager.lookup_updateRuleCache env.order t root m hentry with
    hold | ⟨-, ⟨a, p, r, hreached, hrules⟩, hsocket⟩
  · rw [hsettled c entry hold] at hdirty
    exact absurd hdirty Bool.false_ne_true
  · have hr := hplaced c a p r hreached
    have hid : entry.socketId = r := by
      rcases hsocket with ⟨e₀, he₀, hsame⟩ | ⟨a', p', r', hreached', hsame⟩
      · exact hsame.trans (hr.cached e₀ he₀)
      · have hr' := hplaced c a' p' r' hreached'
        rw [hsame, hr'.itemId]
        exact Option.some.inj (hr'.live.symm.trans hr.live)
    refine ⟨entry.rules.downloadMark,
      (mem_holders m t gone port _).mpr ⟨c, r, hr.live, hr.counts, hid ▸ hport, ?_⟩, ?_⟩
    · rw [hrules, inForce_placed hr]
    · rcases hvalue with ⟨hzero, rfl⟩ | ⟨-, -, rfl⟩
      · rw [hzero]
        rfl
      · rfl

/-- Something is written for the port of a stale socket. -/
theorem refreshWrites_of_stale
    (hplaced : ∀ c a p r, t.shape.Reached root c a p r → Placed t gone m c a p r)
    (hport : port ≠ 0) (hstale : port ∈ (staleSockets env.order t root m).map (localPort t)) :
    ∃ value, RefreshWrites env t root m port value := by
  obtain ⟨r, hr, hon⟩ := List.mem_map.mp hstale
  obtain ⟨c, a, p, hreached, hstale⟩ := (mem_staleSockets env.order t root m r).mp hr
  have hr := hplaced c a p r hreached
  have hsame : ∀ a' p' r', t.shape.Reached root c a' p' r' →
      m.inForce t.shape a' p' r' = m.effective t.shape r := by
    intro a' p' r' hreached'
    have hr' := hplaced c a' p' r' hreached'
    rw [inForce_placed hr', Option.some.inj (hr'.live.symm.trans hr.live)]
  obtain ⟨entry, hentry, hrules⟩ :=
    RuleManager.exists_updateRuleCache env.order t root m hreached hsame
  rcases RuleManager.lookup_updateRuleCache env.order t root m hentry with
    hold | ⟨hdirty, -, hsocket⟩
  · rw [hold, inForce_placed hr] at hstale
    exact absurd (congrArg some hrules) hstale
  · have hid : entry.socketId = r := by
      rcases hsocket with ⟨e₀, he₀, hsame⟩ | ⟨a', p', r', hreached', hsame⟩
      · exact hsame.trans (hr.cached e₀ he₀)
      · have hr' := hplaced c a' p' r' hreached'
        rw [hsame, hr'.itemId]
        exact Option.some.inj (hr'.live.symm.trans hr.live)
    by_cases hmark : entry.rules.downloadMark = 0
    · exact ⟨0, c, entry, hentry, hdirty, hid ▸ hr.item, hid ▸ hon, .inl ⟨hmark, rfl⟩⟩
    · exact ⟨_, c, entry, hentry, hdirty, hid ▸ hr.item, hid ▸ hon, .inr ⟨hmark, hport, rfl⟩⟩

/-- **A recomputation that fits.** -/
theorem shows_refresh {e : Enforcement} {l : List (UInt16 × UInt32)} {cleared : List UInt16}
    (hfits : RefreshFits env t root gone e.manager l cleared) (hsettled : e.manager.Settled)
    (hshows : ∀ port ≠ 0, port ∉ cleared → Shows l port (portMark e.ingressPortMarks port))
    (hcleared : ∀ port ∈ cleared, portMark e.ingressPortMarks port = 0) (hport : port ≠ 0) :
    Shows (holders (refresh env t root e).manager t gone) port
      (portMark (refresh env t root e).ingressPortMarks port) := by
  rw [holders_sameRules (sameRules_refresh env t root e)]
  rcases portMark_refresh env t root e port with ⟨hsame, hnone⟩ | hwrites
  · have hwritten : port ∉ (staleSockets env.order t root e.manager).map (localPort t) := by
      intro hstale
      obtain ⟨value, hwrites⟩ := refreshWrites_of_stale hfits.placed hport hstale
      exact hnone value hwrites
    rw [hsame]
    by_cases hc : port ∈ cleared
    · rw [hcleared port hc]
      exact hfits.ports.shows_cleared hport hwritten hc
    · exact hfits.ports.shows ⟨hport, hwritten, hc⟩ (hshows port hport hc)
  · exact .inl (mem_of_refreshWrites hsettled hfits.placed hwrites)

/-- Nothing but 0 is written for port 0. -/
theorem portMark_refresh_zero (e : Enforcement) (h : portMark e.ingressPortMarks 0 = 0) :
    portMark (refresh env t root e).ingressPortMarks 0 = 0 := by
  rcases portMark_refresh env t root e 0 with ⟨hsame, -⟩ | ⟨c, entry, -, -, -, -, hvalue⟩
  · rw [hsame, h]
  · rcases hvalue with ⟨-, hzero⟩ | ⟨-, hne, -⟩
    · exact hzero
    · exact absurd rfl hne

end Refresh

/-! ## The invariant -/

/-- The entries show the marks on the ports, that of port 0 is 0, and the cache is written. -/
structure PortInv (t : CounterTree) (e : Enforcement) (gone : List Ref) : Prop where
  settled : e.manager.Settled
  zero : portMark e.ingressPortMarks 0 = 0
  shows : ∀ port ≠ 0, Shows (holders e.manager t gone) port (portMark e.ingressPortMarks port)

theorem PortInv.portsMatch {s : SystemMap Enforcement}
    (h : PortInv s.toCounterTree s.listeners []) : PortsMatch s := by
  have hmem : ∀ port mark, (port, mark) ∈ holders s.listeners.manager s.toCounterTree [] ↔
      OnPort s port mark := by
    intro port mark
    rw [mem_holders, onPort_iff]
    simp only [List.not_mem_nil, not_false_eq_true, true_and]
    rfl
  intro port
  refine ⟨fun ⟨hport, mark, hmark, hon⟩ => ?_, fun hnone => ?_⟩
  · rcases h.shows port hport with ⟨mark', hmark', hvalue⟩ | ⟨-, hunmarked⟩
    · exact ⟨mark', (hmem port mark').mp hmark', hvalue⟩
    · exact absurd (hunmarked (port, mark) ((hmem port mark).mpr hon) rfl) hmark
  · by_cases hport : port = 0
    · rw [hport]
      exact h.zero
    · rcases h.shows port hport with ⟨mark, hmark, hvalue⟩ | ⟨hvalue, -⟩
      · have hzero : mark = 0 := by
          by_contra hne
          exact hnone ⟨hport, mark, hne, (hmem port mark).mp hmark⟩
        rw [hvalue, hzero]
        rfl
      · exact hvalue

/-- A recomputation that fits keeps the invariant. -/
theorem PortInv.refresh {env : RuleSources} {t : CounterTree}
    {root : TrafficItemId × TrafficItemType} {gone : List Ref} {e : Enforcement}
    {l : List (UInt16 × UInt32)} {cleared : List UInt16}
    (hfits : RefreshFits env t root gone e.manager l cleared) (hsettled : e.manager.Settled)
    (hzero : portMark e.ingressPortMarks 0 = 0)
    (hshows : ∀ port ≠ 0, port ∉ cleared → Shows l port (portMark e.ingressPortMarks port))
    (hcleared : ∀ port ∈ cleared, portMark e.ingressPortMarks port = 0) :
    PortInv t (refresh env t root e) gone where
  settled := RuleManager.settled_syncRules env.order _
  zero := portMark_refresh_zero e hzero
  shows _ hport := shows_refresh hfits hsettled hshows hcleared hport

namespace PortInv

variable {w : Watched} {t : CounterTree} {env : RuleSources}

/-- The sockets come to be others, and nothing is written. -/
theorem unwritten (h : PortInv w.tree w.rules w.gone) (hfits : Unwritten w t) :
    PortInv t w.rules w.gone where
  settled := h.settled
  zero := h.zero
  shows port hport := hfits.shows ⟨hport, List.not_mem_nil, List.not_mem_nil⟩
    (h.shows port hport)

/-- A rule that may be loaded. -/
theorem load (h : PortInv w.tree w.rules w.gone) {root : TrafficItemId × TrafficItemType}
    {i : TrafficItemId} {target : String} (hfits : PortLoadFits env w t root i target) :
    PortInv t (load env t root i target w.rules) w.gone := by
  unfold PortLoadFits at hfits
  unfold Enforcement.load
  cases hrow : w.rules.ruleTable.read env.column target with
  | none =>
    simp only [hrow] at hfits ⊢
    exact h.unwritten hfits
  | some row =>
    simp only [hrow] at hfits ⊢
    split at hfits
    · rename_i hdefault
      rw [if_pos hdefault]
      have hsame := h.unwritten hfits
      exact ⟨hsame.settled, hsame.zero, hsame.shows⟩
    · rename_i hdefault
      rw [if_neg hdefault]
      have hcache : ∀ (m : RuleManager) ty rules, m.Settled → (m.store ty i rules).Settled := by
        intro m ty rules hm
        cases ty <;> exact hm
      exact PortInv.refresh (e := { w.rules with
          link := (loadedRules i row w.rules.link).2
          manager := RuleManager.store root.2 i (loadedRules i row w.rules.link).1 w.rules.manager })
        hfits (hcache _ _ _ h.settled) h.zero (fun port hport _ => h.shows port hport)
        (List.forall_mem_nil _)

/-- A socket connects. -/
theorem connected (h : PortInv w.tree w.rules w.gone) {r : Ref}
    (hfits : PortNoticeFits env w (.onSocketConnected r, t)) :
    PortInv t (onSocketConnected env t r w.rules) w.gone := by
  replace hfits : if (w.rules.manager.effectiveProcRules t (t.socket r).parentProcess).isDefault then
      Unwritten w t
    else RefreshFits env t ((t.process (t.socket r).parentProcess).parentApp, .application) w.gone
      w.rules.manager w.holders [] := hfits
  unfold onSocketConnected
  dsimp only
  split
  · rename_i hdefault
    rw [Bool.not_eq_true'] at hdefault
    rw [if_neg (Bool.eq_false_iff.mp hdefault)] at hfits
    have hrefresh := PortInv.refresh
      (e := { w.rules with connected := (t.socket r).parentProcess :: w.rules.connected })
      hfits h.settled h.zero (fun port hport _ => h.shows port hport) (List.forall_mem_nil _)
    split
    · exact ⟨hrefresh.settled, hrefresh.zero, hrefresh.shows⟩
    · exact hrefresh
  · rename_i hdefault
    rw [Bool.not_eq_true', Bool.not_eq_false] at hdefault
    rw [if_pos hdefault] at hfits
    have hsame := h.unwritten hfits
    exact ⟨hsame.settled, hsame.zero, hsame.shows⟩

/-- A socket is removed: it no longer counts, and the other sockets keep their rules. -/
theorem socketRemoved (hids : t.shape.Ids) (h : PortInv w.tree w.rules w.gone) {r : Ref}
    (hfits : PortNoticeFits env w (.onSocketRemoved r, t)) :
    PortInv t (onSocketRemoved t r w.rules) (r :: w.gone) := by
  obtain ⟨hid, hpos, hports⟩ := hfits
  have hsame : holders (w.rules.manager.onSocketRemoved t r) t (r :: w.gone) =
      holders w.rules.manager t (r :: w.gone) := by
    refine holders_congr fun c q _ hgone => ?_
    have hqr : q ≠ r := (not_or.mp (List.mem_cons.not.mp hgone)).1
    have hne : t.shape.sockId q ≠ t.shape.sockId r := by
      intro heq
      have hq0 : t.shape.sockId q ≠ 0 := by
        rw [heq, hid]
        exact hpos
      exact hqr ((hids.socket q hq0).1.symm.trans (heq.trans hid))
    have hrule : rulesOf (w.rules.manager.socketRules.erase (t.shape.sockId r)) (t.shape.sockId q) =
        rulesOf w.rules.manager.socketRules (t.shape.sockId q) := by
      unfold rulesOf
      rw [UMap.lookup_erase_ite, if_neg hne]
    unfold RuleManager.effective RuleManager.inForce
    exact congrArg (fun rules => TrafficItemRules.asBase (effectiveSocketRules _ _ _ rules)) hrule
  have hmark : ∀ port, portMark (onSocketRemoved t r w.rules).ingressPortMarks port =
      if port = localPort t r then 0 else portMark w.rules.ingressPortMarks port :=
    fun port => portMark_insert ..
  refine ⟨fun c e he => h.settled c e ?_, ?_, fun port hport => ?_⟩
  · change (w.rules.manager.socketCookieRules.erase _).lookup c = some e at he
    rw [UMap.lookup_erase_ite] at he
    split at he
    · exact nomatch he
    · exact he
  · rw [hmark]
    split
    · rfl
    · exact h.zero
  · change Shows (holders (w.rules.manager.onSocketRemoved t r) t (r :: w.gone)) port _
    rw [hsame, hmark]
    by_cases hon : port = localPort t r
    · rw [if_pos hon]
      exact hports.shows_cleared hport List.not_mem_nil (List.mem_singleton.mpr hon)
    · rw [if_neg hon]
      exact hports.shows ⟨hport, List.not_mem_nil, List.mem_singleton.not.mpr hon⟩
        (h.shows port hport)

/-- A process is removed: the sockets that count keep their rules. -/
theorem processRemoved (hids : t.shape.Ids) (h : PortInv w.tree w.rules w.gone) {p : Ref}
    (hspent : ProcessSpent w t p) (hfits : Unwritten w t) :
    PortInv t (onProcessRemoved t p w.rules) w.gone := by
  have hrules : ∀ c q, t.sockets.lookup c = some q → q ∉ w.gone →
      rulesOf (w.rules.manager.processRules.erase (t.shape.procId p))
        (t.shape.procId (t.shape.sockProc q)) =
      rulesOf w.rules.manager.processRules (t.shape.procId (t.shape.sockProc q)) := by
    intro c q hq hgone
    unfold rulesOf
    rw [UMap.lookup_erase_ite]
    split
    · rename_i hid
      rcases hspent with hnone | ⟨hitem, hpos, hleft⟩
      · rw [hid, AList.lookup_eq_none.mpr hnone]
      · refine absurd ?_ (hleft c (UMap.mem_iff_lookup.mpr (hq ▸ Option.some_ne_none q)) q hq hgone)
        have hq0 : t.shape.procId (t.shape.sockProc q) ≠ 0 := by
          rw [hid, hitem]
          exact hpos
        exact (hids.process _ hq0).1.symm.trans (hid.trans hitem)
    · rfl
  have hsame : holders (w.rules.manager.onProcessRemoved t p) t w.gone =
      holders w.rules.manager t w.gone := by
    refine holders_congr fun c q hq hgone => ?_
    unfold RuleManager.effective RuleManager.inForce
    exact congrArg (fun rules => TrafficItemRules.asBase (effectiveSocketRules _ _ rules _))
      (hrules c q hq hgone)
  have hkept := h.unwritten hfits
  refine ⟨hkept.settled, hkept.zero, fun port hport => ?_⟩
  change Shows (holders (w.rules.manager.onProcessRemoved t p) t w.gone) port _
  rw [hsame]
  exact hkept.shows port hport

/-- **A notice that meets the condition** keeps the invariant. -/
theorem notice (hids : t.shape.Ids) {n : Notice} (hn : n.IsHeard)
    (h : PortInv w.tree w.rules w.gone) (hfits : PortNoticeFits env w (n, t)) :
    PortInv (w.next env (n, t)).tree (w.next env (n, t)).rules (w.next env (n, t)).gone := by
  cases n with
  | onSocketConnected r =>
    have hnext := h.connected hfits
    exact ⟨hnext.settled, hnext.zero, hnext.shows⟩
  | onSocketRemoved r =>
    have hnext := socketRemoved hids h hfits
    exact ⟨hnext.settled, hnext.zero, hnext.shows⟩
  | onProcessRemoved p =>
    have hnext := processRemoved hids h hfits.1 hfits.2
    exact ⟨hnext.settled, hnext.zero, hnext.shows⟩
  | onAppFirstTimeConnected a =>
    have hnext := h.load hfits
    exact ⟨hnext.settled, hnext.zero, hnext.shows⟩
  | _ => exact hn.elim

/-- **A rule change that meets the condition** keeps the invariant, if the daemon runs on. -/
theorem handleRuleChange {e : Enforcement} {update : RuleUpdate} (h : PortInv t e [])
    (hfits : PortChangeFits env update t e)
    (hruns : (handleRuleChange env t update e).terminated = false) :
    PortInv t (handleRuleChange env t update e) [] := by
  have hchanges := changes_handleRuleChange env t update e
  generalize Enforcement.handleRuleChange env t update e = e' at hchanges hruns ⊢
  cases hchanges with
  | ignored => exact h
  | thrown ty root hitem hroot => cases hruns
  | made ty root table hitem hroot hrow =>
    have hrefresh := hfits ty hitem root hroot (by rw [hrow]; rfl)
    set changed := { changeRule env t update ty e with ruleTable := table } with hchanged
    -- the kernel's map of rules does not count
    have hmanager : ∃ kernel, changed.manager =
        { e.manager.store ty update.trafficItemId (rulesOfUpdate update e.link) with kernel } := by
      rw [hchanged]
      unfold changeRule
      cases ty <;> exact ⟨_, rfl⟩
    obtain ⟨kernel, hmanager⟩ := hmanager
    have hsettled : changed.manager.Settled := by
      rw [hmanager]
      cases ty <;> exact h.settled
    have hports : changed.ingressPortMarks = if update.rules.downloadLimit = 0 ∧ ty = .socket then
        removeIngressPortRouting (localPort t update.trafficItemId) e.ingressPortMarks
      else e.ingressPortMarks := rfl
    have hfit : RefreshFits env t root [] changed.manager (holders e.manager t [])
        (clearedPort t update ty) := by
      rw [hmanager]
      exact ⟨fun c a p r hr => let h := hrefresh.placed c a p r hr
        ⟨h.live, h.counts, h.process, h.app, h.item, h.itemId, h.cached⟩, hrefresh.ports⟩
    have hnext : PortInv t (Enforcement.refresh env t root changed) [] := by
      refine PortInv.refresh hfit hsettled ?_ (fun port hport hcleared => ?_) fun port hcleared => ?_
      · rw [hports]
        split
        · rw [removeIngressPortRouting, portMark_insert]
          split
          · rfl
          · exact h.zero
        · exact h.zero
      · rw [hports]
        unfold clearedPort at hcleared
        split at hcleared
        · rename_i hreset
          rw [if_pos hreset, removeIngressPortRouting, portMark_insert,
            if_neg (List.mem_singleton.not.mp hcleared)]
          exact h.shows port hport
        · rename_i hreset
          rw [if_neg hreset]
          exact h.shows port hport
      · unfold clearedPort at hcleared
        split at hcleared
        · rename_i hreset
          rw [hports, if_pos hreset, removeIngressPortRouting, portMark_insert,
            if_pos (List.mem_singleton.mp hcleared)]
        · exact absurd hcleared List.not_mem_nil
    refine ⟨fun c e he => ?_, hnext.zero, fun port hport => ?_⟩
    · simp only [RuleManager.removeEmptyRules, UMap.lookup_eraseIf, Option.filter_eq_some_iff] at he
      exact hnext.settled c e he.1
    · change Shows (holders (Enforcement.refresh env t root changed).manager.removeEmptyRules t [])
        port _
      rw [holders_removeEmptyRules]
      exact hnext.shows port hport

end PortInv

/-- The ids of the items stay their own. -/
theorem ids_quiet {t t' : CounterTree} (ht : t.shape.Ids) (hquiet : Quiet t t') : t'.shape.Ids := by
  cases hquiet with
  | same => exact ht
  | call who c => exact (CounterTree.shape_applyCall t who c).symm ▸ ht
  | change m hm => exact (Change.shape_apply hm).symm ▸ ht.onShape m

/-- The invariant of the runs. -/
structure PortsKept (s : SystemMap Enforcement) : Prop where
  ids : s.shape.Ids
  ports : s.listeners.terminated = false → PortInv s.toCounterTree s.listeners []

/-- **An operation that meets the condition** keeps the invariant. -/
theorem PortsKept.step {s : SystemMap Enforcement} (hs : PortsKept s)
    (hrunning : s.listeners.terminated = false) {op : EnforceOp} (hfits : FitsPorts s op) :
    PortsKept (step s op) := by
  have hports := hs.ports hrunning
  rw [step_running hrunning]
  cases op with
  | loadSystemRule env =>
    exact ⟨hs.ids, fun _ =>
      PortInv.load (w := { tree := s.toCounterTree, rules := s.listeners }) hports hfits⟩
  | handleRuleChange env update => exact ⟨hs.ids, fun hruns => hports.handleRuleChange hfits hruns⟩
  | onMap env op =>
    obtain ⟨hheard, hlast⟩ := hfits
    obtain ⟨hrules, hids, hinv⟩ := keeps_heard (fun w : Watched => w.rules) (Watched.next env)
      (I := fun w t => t.shape.Ids ∧ PortInv w.tree w.rules w.gone) (fun _ _ => rfl)
      (fun _ _ _ hn h hG => ⟨h.1, h.2.notice h.1 hn hG⟩)
      (fun _ _ _ hquiet h => ⟨ids_quiet h.1 hquiet, h.2⟩) op (w := watching s) rfl
      ⟨hs.ids, hports.settled, hports.zero, hports.shows⟩ hheard
    refine ⟨hids, fun _ => ?_⟩
    have hend : PortInv (onMap env op s).toCounterTree
        (run (Watched.next env) (watching s) (onMap env op s).listeners.heard).rules [] :=
      ⟨hinv.settled, hinv.zero, fun port hport =>
        hlast.shows ⟨hport, List.not_mem_nil, List.not_mem_nil⟩ (hinv.shows port hport)⟩
    rwa [hrules] at hend

/-- **The entries match the sockets** while the daemon runs, in every state of a run whose operations
meet the condition. -/
theorem always_portsMatch (now : Msec) (hostName networkInterfaceName : String)
    (ruleTable : RuleTable) (ops : List EnforceOp)
    (hops : AllSteps step (WhileRunning FitsPorts)
      (started now hostName networkInterfaceName ruleTable) ops) :
    Always step PortsFollow (started now hostName networkInterfaceName ruleTable) ops := by
  refine always_running (I := PortsKept) (fun _ hs hrunning => (hs.ports hrunning).portsMatch)
    (fun _ _ hrunning hs hfits => hs.step hrunning hfits) ops ?_ hops
  exact ⟨⟨fun r h => absurd rfl h, fun r h => absurd rfl h, fun r h => absurd rfl h⟩,
    fun _ => ⟨nofun, rfl, fun port _ => .inr ⟨rfl, List.forall_mem_nil _⟩⟩⟩

/-! ### Two sockets on a port -/

/-- Process 7 binds a socket to port 80, and its application gets a download limit. -/
def boundAndLimited : List EnforceOp :=
  [.onMap plainSources (.mapSocket SystemMap.quietEnv 9 false 7 false),
   .onMap plainSources (.processSocketEvent (.socketBind4 80 false 0) 6),
   .handleRuleChange plainSources
     { rules := { downloadLimit := 1000, ruleType := .explicit }
       trafficItemId := 4
       parentAppId := 4 }]

/-- The process binds a second socket, to a port of its own, and the first one is closed. -/
def otherPort : List EnforceOp :=
  boundAndLimited ++
    [.onMap plainSources (.mapSocket SystemMap.quietEnv 10 false 7 false),
     .onMap plainSources (.processSocketEvent (.socketBind4 81 false 0) 7),
     .onMap plainSources (.markSocketForRemoval .stored 0 9 0),
     .onMap plainSources (.refreshAllTrafficCounters (SystemMap.tickAt 5000))]

theorem always_portsMatch_otherPort :
    Always step PortsFollow (started 0 "host" "eth0" {}) otherPort ∧
      portMark (run step (started 0 "host" "eth0" {}) otherPort).listeners.ingressPortMarks 81 = 1 :=
  ⟨always_portsMatch 0 "host" "eth0" {} otherPort (by decide +kernel), by decide +kernel⟩

/-- A second socket of the process is bound to the port of the first, which is closed. -/
def sharedPort : List EnforceOp :=
  [.onMap plainSources (.mapSocket SystemMap.quietEnv 9 false 7 false),
   .onMap plainSources (.processSocketEvent (.socketBind4 80 false 0) 6),
   .onMap plainSources (.mapSocket SystemMap.quietEnv 10 false 7 false),
   .onMap plainSources (.processSocketEvent (.socketBind4 80 false 0) 7),
   .handleRuleChange plainSources
     { rules := { downloadLimit := 1000, ruleType := .explicit }
       trafficItemId := 4
       parentAppId := 4 },
   .onMap plainSources (.markSocketForRemoval .stored 0 9 0),
   .onMap plainSources (.refreshAllTrafficCounters (SystemMap.tickAt 5000))]

/-- The daemon after the first socket is removed. -/
def oneLeft : SystemMap Enforcement := run step (started 0 "host" "eth0" default) sharedPort

/-- **The removal of one socket on a port clears the mark of the other.** -/
theorem portsMatch_fails : ¬∀ (now : Msec) (hostName networkInterfaceName : String)
    (ruleTable : RuleTable) (ops : List EnforceOp),
    Always step PortsFollow (started now hostName networkInterfaceName ruleTable) ops := by
  intro hall
  have hrunning : oneLeft.listeners.terminated = false := by decide +kernel
  have hmatch : PortsMatch oneLeft := (hall 0 "host" "eth0" {} sharedPort).last hrunning
  have hsockets : oneLeft.sockets.entries = [⟨10, 7⟩] := by decide +kernel
  have hport : localPort oneLeft.toCounterTree 7 = 80 := by decide +kernel
  have hmark : (oneLeft.listeners.manager.effective oneLeft.shape 7).downloadMark = 1 := by
    decide +kernel
  have hentry : portMark oneLeft.listeners.ingressPortMarks 80 = 0 := by decide +kernel
  have hlive : oneLeft.sockets.lookup 10 = some 7 := by decide +kernel
  obtain ⟨mark, hon, hshown⟩ := (hmatch 80).1
    ⟨by decide, 1, by decide, (onPort_iff oneLeft 80 1).mpr ⟨10, 7, hlive, hport, hmark⟩⟩
  obtain ⟨c, r, hr, -, hon⟩ := (onPort_iff oneLeft 80 mark).mp hon
  obtain ⟨-, rfl⟩ := UMap.lookup_single hsockets hr
  rw [← hon, hmark, hentry] at hshown
  exact absurd hshown (by decide)

end Enforcement

end Waechter
