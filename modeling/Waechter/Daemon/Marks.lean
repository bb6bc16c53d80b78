import Waechter.Daemon.Actions
import Waechter.Daemon.ByteAccounting
import Waechter.Daemon.SpeedUpdates

/-!
# Marked sockets and processes

A close event marks a socket, and `WSystemMap::Cleanup` marks a process that is not running any more
(`Daemon/Data/SystemMap.hpp`, `SystemMap.cpp`). The mark is the state of the counter, and every push
of bytes, the empty ones included, writes the same field (`Util/TrafficCounter.hpp`).

`MarkRun` is the map with the marks that were made and their times, and the time of the last step.

* `marked_removed`: in a run with a clock whose steps push to no marked counter, the marked counters
  stay pending removal, and a cleanup that comes a removal time window later removes them.
* `marked_fails_latePacket`: a packet that arrives after the close event revives the socket.
-/

namespace Waechter

open Lib

/-! ## One counter -/

namespace TrafficCounter

variable {T : Type} {c : TrafficCounter T} {x : Msec}

/-- The counter is pending removal, until a time no later than this. -/
def PendingUntil (x : Msec) (c : TrafficCounter T) : Prop :=
  c.state = .pendingRemoval ∧ c.removalTimeStamp ≤ x

/-- If the counter is pending removal, then until a time no later than this. -/
def Bounded (x : Msec) (c : TrafficCounter T) : Prop :=
  c.state = .pendingRemoval → c.removalTimeStamp ≤ x

theorem Bounded.mono {y : Msec} (hc : c.Bounded x) (hxy : x ≤ y) : c.Bounded y :=
  fun hp => (hc hp).trans hxy

variable [IsTrafficItem T]

/-- A counter that is pending removal is, after any call but a push. -/
theorem PendingUntil.call (hc : c.PendingUntil x) {cc : CounterCall} (hcc : ∀ b, ¬cc.IsPush b) :
    (c.call cc).PendingUntil x := by
  obtain ⟨hstate, htime⟩ := hc
  cases cc with
  | pushIncomingTraffic b => exact absurd .incoming (hcc b)
  | pushOutgoingTraffic b => exact absurd .outgoing (hcc b)
  | refresh now =>
    simp only [TrafficCounter.call, refresh, if_pos hstate]
    exact ⟨hstate, htime⟩
  | markForRemoval now =>
    simp only [TrafficCounter.call, markForRemoval, if_pos hstate]
    exact ⟨hstate, htime⟩

theorem Bounded.call (hc : c.Bounded x) {cc : CounterCall}
    (hcc : ∀ now, cc = .markForRemoval now → now + removalTimeWindow ≤ x) :
    (c.call cc).Bounded x := by
  cases cc with
  | pushIncomingTraffic b => exact nofun
  | pushOutgoingTraffic b => exact nofun
  | refresh now =>
    by_cases hopen : c.state = .pendingRemoval
    · simp only [TrafficCounter.call, refresh, if_pos hopen]
      exact hc
    · exact fun hp => absurd hp (state_refresh_ne hopen now)
  | markForRemoval now =>
    simp only [TrafficCounter.call, markForRemoval]
    split
    · exact hc
    · exact fun _ => hcc now rfl

/-- A counter that is marked is pending removal. -/
theorem Bounded.mark {now : Msec} (hc : c.Bounded (now + removalTimeWindow)) :
    (c.call (.markForRemoval now)).PendingUntil (now + removalTimeWindow) := by
  refine ⟨(recent_mark now).2.2, hc.call (fun t ht => ?_) (recent_mark now).2.2⟩
  cases ht
  exact Int.le_refl _

end TrafficCounter

/-! ## References that were given out -/

/-- The reference of the counter was given out. -/
def CounterId.OlderThan (n : Ref) : CounterId → Prop
  | .app r => r < n
  | .process r => r < n
  | .socket r => r < n
  | .tuple r => r < n
  | _ => True

theorem CounterId.OlderThan.mono {m n : Ref} {q : CounterId} (hq : q.OlderThan m) (hmn : m ≤ n) :
    q.OlderThan n := by
  cases q with
  | app r => exact Nat.lt_of_lt_of_le hq hmn
  | process r => exact Nat.lt_of_lt_of_le hq hmn
  | socket r => exact Nat.lt_of_lt_of_le hq hmn
  | tuple r => exact Nat.lt_of_lt_of_le hq hmn
  | _ => trivial

/-- The counter a change makes. -/
def Change.creates (n : Ref) : Change → Option CounterId
  | .addTuple .. => some (.tuple n)
  | .addSocket .. => some (.socket n)
  | .addProcess .. => some (.process n)
  | .addApp .. => some (.app n)
  | _ => none

namespace TreeShape

/-- What the maps and the orphans refer to was given out. -/
structure Known (t : TreeShape) : Prop where
  older : t.Older
  process : ∀ pid p, t.procs pid = some p → p < t.next

/-- A change that touches applications, processes and items only. -/
theorem Known.of_same {t t' : TreeShape} (ht : t.Known) (hn : t.next ≤ t'.next)
    (hs : t'.socks = t.socks) (ho : t'.orphans = t.orphans) (hu : t'.sockTuples = t.sockTuples)
    (hi : t'.sockId = t.sockId) (hp : ∀ pid p, t'.procs pid = some p →
      t.procs pid = some p ∨ p < t'.next) : t'.Known where
  older := ht.older.of_le hn (fun c r hr => by rwa [hs] at hr) (fun e r hr => by rwa [ho] at hr)
    (fun r e u h => by rwa [hu] at h) hi
  process pid p h := (hp pid p h).elim (fun h => (ht.process pid p h).trans_le hn) id

end TreeShape

theorem TreeShape.Known.change {m : Change} {t : CounterTree} (ht : t.shape.Known)
    (hm : m.Proper t) : (m.apply t).shape.Known := by
  rw [Change.shape_apply hm]
  have hprocess := ht.process
  cases m with
  | addTuple now r e =>
    exact ⟨ht.older.addTuple r e, fun pid p hp => Nat.lt_succ_of_lt (hprocess pid p hp)⟩
  | addSocket now c p =>
    exact ⟨ht.older.addSocket c p, fun pid p hp => Nat.lt_succ_of_lt (hprocess pid p hp)⟩
  | addProcess now pid a =>
    refine ht.of_same (Nat.le_succ _) rfl rfl rfl rfl fun q p hp => ?_
    by_cases hq : q = pid
    · subst hq
      change Function.update t.shape.procs q (some t.shape.next) q = some p at hp
      rw [Function.update_self] at hp
      exact .inr (Option.some.inj hp ▸ Nat.lt_succ_self _)
    · exact .inl ((Function.update_of_ne hq ..).symm.trans hp)
  | addApp now key commandLine appName =>
    exact ht.of_same (Nat.le_succ _) rfl rfl rfl rfl fun _ _ => .inl
  | upgradeApp existingKey key commandLine appName a =>
    exact ht.of_same (Nat.le_refl _) rfl rfl rfl rfl fun _ _ => .inl
  | registerApp key a => exact ht.of_same (Nat.le_refl _) rfl rfl rfl rfl fun _ _ => .inl
  | editSocket r f => exact ht
  | attachSocket r p =>
    obtain ⟨e, he⟩ := hm
    exact ⟨ht.older.attachSocket (ht.older.orphan e r he) p, hprocess⟩
  | forgetOrphan e => exact ⟨ht.older.forgetOrphan e, hprocess⟩
  | orphan e r =>
    refine ⟨ht.older.orphanSocket ?_ e, hprocess⟩
    rcases hm with ⟨c, hc⟩ | hr
    · exact ht.older.socket c r hc
    · have hid := of_decide_eq_true hr
      exact ht.older.itemId r hid.1 hid.2
  | dropSynthetic p existing => exact ⟨ht.older.dropSynthetic p existing, hprocess⟩
  | eraseTrafficItem i => exact ht.of_same (Nat.le_refl _) rfl rfl rfl rfl fun _ _ => .inl
  | clearTupleCounters r => exact ⟨ht.older.clearTupleCounters r, hprocess⟩
  | clearTupleItems r => exact ht.of_same (Nat.le_refl _) rfl rfl rfl rfl fun _ _ => .inl
  | eraseSocket c => exact ⟨ht.older.eraseSocket c, hprocess⟩
  | eraseProcessSocket p c => exact ht.of_same (Nat.le_refl _) rfl rfl rfl rfl fun _ _ => .inl
  | eraseAppProcess a pid => exact ht.of_same (Nat.le_refl _) rfl rfl rfl rfl fun _ _ => .inl
  | eraseProcess pid =>
    refine ht.of_same (Nat.le_refl _) rfl rfl rfl rfl fun q p hp => .inl ?_
    by_cases hq : q = pid
    · subst hq
      change Function.update t.shape.procs q none q = some p at hp
      rw [Function.update_self] at hp
      cases hp
    · exact (Function.update_of_ne hq ..).symm.trans hp
  | eraseTuple r e => exact ⟨ht.older.eraseTuple r e, hprocess⟩
  | eraseApp key => exact ht.of_same (Nat.le_refl _) rfl rfl rfl rfl fun _ _ => .inl
  | takeItemId => exact ht.of_same (Nat.le_succ _) rfl rfl rfl rfl fun _ _ => .inl

namespace CounterTree

variable {t : CounterTree}

/-- A change leaves the counters alone that it does not make. -/
theorem counter_change {m : Change} (hm : m.Proper t) {q : CounterId}
    (hq : m.creates t.nextItemId ≠ some q) : (m.apply t).counter q = t.counter q := by
  have hne {q' : CounterId} (h : some q' ≠ some q) : q ≠ q' := fun heq => h (heq ▸ rfl)
  cases m with
  | addTuple now r e => exact counter_addTuple now r e (hne hq)
  | addSocket now c p => exact counter_addSocket now c p (hne hq)
  | addProcess now pid a => exact counter_addProcess now pid a (hne hq)
  | addApp now key commandLine appName => exact counter_addApp now key commandLine appName (hne hq)
  | upgradeApp existingKey key commandLine appName a =>
    exact congrFun (counter_upgradeApp existingKey key commandLine appName a) q
  | registerApp key a => cases q <;> rfl
  | editSocket r f => exact congrFun (counter_editSocket hm.2) q
  | attachSocket r p =>
    have hsocket := counter_modifySocket (t := t) (r := r)
      (f := fun s => { s with parentProcess := p }) rfl
    have hprocess := counter_modifyProcess (t := t.modifySocket r fun s =>
        { s with parentProcess := p }) (r := p) (f := fun q => { q with trafficItem :=
      { q.trafficItem with
        sockets := q.trafficItem.sockets.insert (t.socket r).trafficItem.itemId r } }) rfl
    refine Eq.trans ?_ (congrFun (hprocess.trans hsocket) q)
    cases q <;> rfl
  | forgetOrphan e => cases q <;> rfl
  | orphan e r => exact congrFun (shrinks_orphan e r t).counter q
  | dropSynthetic p existing =>
    refine Eq.trans ?_ (congrFun (shrinks_eraseProcessSocket p existing.1 t).counter q)
    cases q <;> rfl
  | eraseTrafficItem i => exact congrFun (shrinks_eraseTrafficItem i t).counter q
  | clearTupleCounters r => exact congrFun (shrinks_clearTupleCounters r t).counter q
  | clearTupleItems r => exact congrFun (shrinks_clearTupleItems r t).counter q
  | eraseSocket c => exact congrFun (shrinks_eraseSocket c t).counter q
  | eraseProcessSocket p c => exact congrFun (shrinks_eraseProcessSocket p c t).counter q
  | eraseAppProcess a pid => exact congrFun (shrinks_eraseAppProcess a pid t).counter q
  | eraseProcess pid => exact congrFun (shrinks_eraseProcess pid t).counter q
  | eraseTuple r e => exact congrFun (shrinks_eraseTuple r e t).counter q
  | eraseApp key => exact congrFun (shrinks_eraseApp key t).counter q
  | takeItemId => cases q <;> rfl

/-- A counter that was there before is not made. -/
theorem creates_ne_of_olderThan {m : Change} {q : CounterId} {n : Ref} (hq : q.OlderThan n) :
    m.creates n ≠ some q := by
  cases m <;> simp only [Change.creates, ne_eq, Option.some.injEq, reduceCtorEq, not_false_eq_true]
  all_goals
    rintro rfl
    exact Nat.lt_irrefl _ hq

/-- A counter that is made is not pending removal. -/
theorem state_of_creates {m : Change} {q : CounterId} (hq : m.creates t.nextItemId = some q) :
    ((m.apply t).counter q).state = .inactive := by
  cases m <;> cases hq <;>
    simp [Change.apply, counter, addTuple, addSocket, addProcess, addApp, registerApp,
      editSystemApplications, TrafficCounter.plain, TrafficCounter.new]

/-- A call on one counter. -/
theorem counter_call {q : CounterId} (hq : ¬q.Shared) (who : CounterId) (cc : CounterCall) :
    (t.applyCall who cc).counter q = if q = who then (t.counter q).call cc else t.counter q := by
  cases who with
  | filter i =>
    cases q with
    | process p => rfl
    | socket r => rfl
    | _ => exact absurd trivial hq
  | _ =>
    rw [counter_applyCall _ fun _ h => by cases h]
    split
    · rename_i hwho
      rw [hwho]
    · rfl

/-- What a change puts under a PID is new. -/
theorem lookup_processes_change {m : Change} {pid : ProcessId} {p : Ref}
    (hp : (m.apply t).processes.lookup pid = some p) :
    t.processes.lookup pid = some p ∨ p = t.nextItemId := by
  cases m with
  | addProcess now q a =>
    replace hp : (t.processes.insert q t.nextItemId).lookup pid = some p := hp
    rw [UMap.lookup_insert_ite] at hp
    split at hp
    · exact .inr (Option.some.inj hp).symm
    · exact .inl hp
  | eraseProcess q =>
    replace hp : (t.processes.erase q).lookup pid = some p := hp
    rw [UMap.lookup_erase_ite] at hp
    split at hp
    · cases hp
    · exact .inl hp
  | _ => exact .inl hp

/-- The process or the socket is in the map. -/
def InMap (t : CounterTree) : CounterId → Prop
  | .process p => ∃ pid, t.processes.lookup pid = some p
  | .socket r => ∃ c, t.sockets.lookup c = some r
  | _ => False

end CounterTree

namespace SystemMap

variable {σ : Type} {h : Handler σ} {C : CounterId → CounterCall → Prop} {K : Action → Prop}
  {s s' : SystemMap σ} {q : CounterId} {x : Msec}

/-! ## What a path of actions keeps -/

theorem Does.next_le (hs : Does h C K s s') : s.nextItemId ≤ s'.nextItemId :=
  hs.keeps (I := fun s' => s.nextItemId ≤ s'.nextItemId) (fun _ _ hI => hI)
    (fun who c s' _ hI => by cases who <;> exact hI) (fun _ _ _ hI => hI)
    (fun m s' _ _ hI => hI.trans (m.next_le _)) (Nat.le_refl _)

theorem Does.known (hs : Does h C K s s') (hk : s.shape.Known) : s'.shape.Known :=
  hs.keeps (I := fun s => s.shape.Known) (fun _ _ hI => hI)
    (fun who c s _ hI => by rw [shape_call]; exact hI) (fun _ _ _ hI => hI)
    (fun m s hm _ hI => TreeShape.Known.change (t := s.toCounterTree) hI hm) hk

/-- **A counter stays pending removal** when nothing is pushed to it. -/
theorem Does.pendingUntil (hs : Does h C K s s') (hq : ¬q.Shared)
    (hC : ∀ c b, C q c → ¬c.IsPush b) (hold : q.OlderThan s.nextItemId)
    (hp : (s.counter q).PendingUntil x) : (s'.counter q).PendingUntil x := by
  refine (hs.keeps (I := fun s => q.OlderThan s.nextItemId ∧ (s.counter q).PendingUntil x)
    (fun _ _ hI => hI) (fun who c s hc hI => ⟨?_, ?_⟩) (fun _ _ _ hI => hI)
    (fun m s hm _ hI => ⟨hI.1.mono (m.next_le _), ?_⟩) ⟨hold, hp⟩).2
  · cases who <;> exact hI.1
  · change ((s.applyCall who c).counter q).PendingUntil x
    rw [CounterTree.counter_call hq]
    split
    · rename_i hwho
      subst hwho
      exact hI.2.call fun b => hC c b hc
    · exact hI.2
  · change ((m.apply s.toCounterTree).counter q).PendingUntil x
    rw [CounterTree.counter_change hm (CounterTree.creates_ne_of_olderThan hI.1)]
    exact hI.2

/-- The times until which a counter is pending removal are those of its marks. -/
theorem Does.bounded (hs : Does h C K s s') (hq : ¬q.Shared)
    (hC : ∀ t, C q (.markForRemoval t) → t + TrafficCounter.removalTimeWindow ≤ x)
    (hb : (s.counter q).Bounded x) : (s'.counter q).Bounded x := by
  refine hs.keeps (I := fun s => (s.counter q).Bounded x) (fun _ _ hI => hI)
    (fun who c s hc hI => ?_) (fun _ _ _ hI => hI) (fun m s hm _ hI => ?_) hb
  · change ((s.applyCall who c).counter q).Bounded x
    rw [CounterTree.counter_call hq]
    split
    · rename_i hwho
      subst hwho
      refine hI.call fun t ht => ?_
      subst ht
      exact hC t hc
    · exact hI
  · change ((m.apply s.toCounterTree).counter q).Bounded x
    by_cases hnew : m.creates s.nextItemId = some q
    · intro hp
      rw [CounterTree.state_of_creates hnew] at hp
      cases hp
    · rw [CounterTree.counter_change hm hnew]
      exact hI

/-- A process does not come back: the ones that are mapped later are new. -/
theorem Does.process_inMap (hs : Does h C K s s') {p : Ref} (hp : p < s.nextItemId)
    (hin : s'.InMap (.process p)) : s.InMap (.process p) := by
  refine (hs.keeps (I := fun s' => s.nextItemId ≤ s'.nextItemId ∧
      (s'.InMap (.process p) → s.InMap (.process p))) (fun _ _ hI => hI)
    (fun who c s' _ hI => by cases who <;> exact hI) (fun _ _ _ hI => hI)
    (fun m s' hm _ hI => ⟨hI.1.trans (m.next_le _), fun hin => hI.2 ?_⟩)
    ⟨Nat.le_refl _, id⟩).2 hin
  obtain ⟨pid, hpid⟩ := hin
  rcases CounterTree.lookup_processes_change hpid with hold | hnew
  · exact ⟨pid, hold⟩
  · exact absurd (hp.trans_le hI.1) (hnew ▸ Nat.lt_irrefl _)

/-- What is not in a map is not put there by changes that drop. -/
theorem Does.lookup_of_drops (hs : Does h C K s s') (hK : ∀ m, K (.change m) → m.Drops) :
    (∀ c r, s'.sockets.lookup c = some r → s.sockets.lookup c = some r) ∧
      ∀ pid p, s'.processes.lookup pid = some p → s.processes.lookup pid = some p := by
  refine hs.keeps (I := fun s' =>
    (∀ c r, s'.sockets.lookup c = some r → s.sockets.lookup c = some r) ∧
      ∀ pid p, s'.processes.lookup pid = some p → s.processes.lookup pid = some p)
    (fun _ _ hI => hI) (fun who c s' _ hI => by cases who <;> exact hI) (fun _ _ _ hI => hI)
    (fun m s' _ hm hI => ?_) ⟨fun _ _ hr => hr, fun _ _ hp => hp⟩
  have hdrops := hK m hm
  cases m with
  | eraseSocket c =>
    refine ⟨fun c' r hr => hI.1 c' r ?_, hI.2⟩
    replace hr : (s'.sockets.erase c).lookup c' = some r := hr
    rw [UMap.lookup_erase_ite] at hr
    split at hr
    · cases hr
    · exact hr
  | eraseProcess pid =>
    refine ⟨hI.1, fun pid' p hp => hI.2 pid' p ?_⟩
    replace hp : (s'.processes.erase pid).lookup pid' = some p := hp
    rw [UMap.lookup_erase_ite] at hp
    split at hp
    · cases hp
    · exact hp
  | orphan e r => exact hI
  | eraseTrafficItem i => exact hI
  | clearTupleCounters r => exact hI
  | clearTupleItems r => exact hI
  | eraseProcessSocket p c => exact hI
  | eraseAppProcess a pid => exact hI
  | eraseTuple r e => exact hI
  | eraseApp key => exact hI
  | _ => exact absurd hdrops id

end SystemMap

/-! ## What an operation pushes to and marks -/

namespace SystemMapOp

/-- The sockets a close event closes. -/
def closedBy (o : IterOrder) (cookie : SocketCookie) (localPort : UInt32) (t : CounterTree) :
    List Ref :=
  match t.sockets.lookup cookie with
  | none => []
  | some own => own ::
      if 0 < localPort then (SystemMap.findByLocalPort o localPort t).toList else []

/-- The operation pushes to the counter of this socket or process, which is in the map. A close
event pushes no bytes to the parents of the sockets it closes. -/
def Pushes (t : CounterTree) : SystemMapOp → CounterId → Prop
  | .pushIncomingTraffic _ cookie _ _, who =>
    ∃ r, t.sockets.lookup cookie = some r ∧
      (who = .socket r ∨ who = .process (t.socket r).parentProcess)
  | .pushOutgoingTraffic env cookie _ header, who =>
    (∃ r, t.sockets.lookup cookie = some r ∧
      (who = .socket r ∨ who = .process (t.socket r).parentProcess)) ∨
    -- an unknown socket is mapped to the process that owns its local endpoint
    (t.sockets.lookup cookie = none ∧ cookie ≠ 0 ∧ ∃ packet p, header = some packet ∧
      0 < env.endpointPID (packet.local .outgoing) ∧
      t.processes.lookup (env.endpointPID (packet.local .outgoing)) = some p ∧ who = .process p)
  | .markSocketForRemoval o _ cookie localPort, who =>
    ∃ r ∈ closedBy o cookie localPort t, who = .process (t.socket r).parentProcess
  | _, _ => False

/-- The operation may read this time for a mark of the counter. -/
def Reads : SystemMapOp → CounterId → Msec → Prop
  | .markSocketForRemoval _ now _ _, _, t => t = now
  | .refreshAllTrafficCounters env, q, t => t = env.cleanupTime q
  | _, _, _ => False

/-- The counters of sockets and processes the operation calls. -/
structure Calls (t : CounterTree) (op : SystemMapOp) (who : CounterId) (c : CounterCall) :
    Prop where
  push : ∀ b, c.IsPush b → who.Shared ∨ op.Pushes t who ∨ ¬who.OlderThan t.nextItemId
  mark : ∀ x, c = .markForRemoval x → who.Shared ∨ op.Reads who x

theorem Calls.of_shared {t : CounterTree} {op : SystemMapOp} {who : CounterId} {c : CounterCall}
    (hwho : who.Shared) : op.Calls t who c := ⟨fun _ _ => .inl hwho, fun _ _ => .inl hwho⟩

theorem Calls.refresh {t : CounterTree} {op : SystemMapOp} {who : CounterId} {now : Msec} :
    op.Calls t who (.refresh now) := ⟨nofun, nofun⟩

theorem Calls.of_pushes {t : CounterTree} {op : SystemMapOp} {who : CounterId} {b : WBytes}
    {c : CounterCall} (hc : c.IsPush b)
    (hwho : op.Pushes t who ∨ ¬who.OlderThan t.nextItemId) : op.Calls t who c :=
  ⟨fun _ _ => .inr hwho, fun _ he => by subst he; cases hc⟩

theorem Calls.of_reads {t : CounterTree} {op : SystemMapOp} {who : CounterId} {x : Msec}
    (hwho : op.Reads who x) : op.Calls t who (.markForRemoval x) :=
  ⟨nofun, fun _ he => by cases he; exact .inr hwho⟩

end SystemMapOp

namespace SystemMap

variable {σ : Type} {h : Handler σ} {s : SystemMap σ}

theorem mem_closedBy {o : IterOrder} {cookie : SocketCookie} {localPort : UInt32} {t : CounterTree}
    {own r : Ref} (hown : t.sockets.lookup cookie = some own) :
    r ∈ SystemMapOp.closedBy o cookie localPort t ↔
      r = own ∨ 0 < localPort ∧ findByLocalPort o localPort t = some r := by
  simp only [SystemMapOp.closedBy, hown, List.mem_cons]
  split
  · rename_i hport
    rw [Option.mem_toList, and_iff_right hport]
  · rename_i hport
    simp only [List.not_mem_nil, hport, false_and]

/-- A close event closes sockets of the map. -/
theorem lookup_of_mem_closedBy {o : IterOrder} {cookie : SocketCookie} {localPort : UInt32}
    {t : CounterTree} {r : Ref} (hr : r ∈ SystemMapOp.closedBy o cookie localPort t) :
    ∃ c, t.sockets.lookup c = some r := by
  cases hown : t.sockets.lookup cookie with
  | none => simp [SystemMapOp.closedBy, hown] at hr
  | some own =>
    rcases (mem_closedBy hown).mp hr with rfl | ⟨-, hlisten⟩
    · exact ⟨cookie, hown⟩
    · exact (o.mem_values _ r).mp (List.mem_of_find?_eq_some hlisten)

/-- The socket that outgoing traffic is counted for, and its process, are pushed to or new. -/
theorem pushes_outgoing (env : TrafficEnv) (cookie : SocketCookie) (bytes : WBytes)
    (header : Option PacketHeader) {r : Ref} (s : SystemMap σ)
    (hr : (outgoingSocket h env cookie header
      (call h .system (.pushOutgoingTraffic bytes) s)).1 = some r) :
    let op := SystemMapOp.pushOutgoingTraffic env cookie bytes header
    let out := (outgoingSocket h env cookie header
      (call h .system (.pushOutgoingTraffic bytes) s)).2
    (op.Pushes s.toCounterTree (.socket r) ∨ ¬(CounterId.socket r).OlderThan s.nextItemId) ∧
      (op.Pushes s.toCounterTree (.process (out.socket r).parentProcess) ∨
        ¬(CounterId.process (out.socket r).parentProcess).OlderThan s.nextItemId) := by
  unfold outgoingSocket at hr ⊢
  cases hlookup : s.sockets.lookup cookie with
  | some own =>
    have hlookup' : (call h .system (.pushOutgoingTraffic bytes) s).sockets.lookup cookie =
      some own := hlookup
    simp only [hlookup'] at hr ⊢
    cases hr
    exact ⟨.inl (.inl ⟨r, hlookup, .inl rfl⟩), .inl (.inl ⟨r, hlookup, .inr rfl⟩)⟩
  | none =>
    have hlookup' : (call h .system (.pushOutgoingTraffic bytes) s).sockets.lookup cookie =
      none := hlookup
    simp only [hlookup'] at hr ⊢
    cases header with
    | none => cases hr
    | some packet =>
      obtain ⟨hcookie, hpid, hmade, hnew, hparent, -⟩ :=
        newSocket_mapSocketFromTrafficEvent env .outgoing packet hlookup' hr
      refine ⟨.inr (Nat.not_lt.mpr (hmade ▸ hnew.new)), ?_⟩
      rw [hparent, hmade]
      rcases hnew.process with hp | hp
      · exact .inl (.inr ⟨hlookup, hcookie, packet, _, rfl, hpid, hp, rfl⟩)
      · exact .inr (Nat.not_lt.mpr hp)

/-- **What an operation calls**, besides the shared counters. -/
theorem does_step_calls (s : SystemMap σ) (op : SystemMapOp) :
    Does h (op.Calls s.toCounterTree) (fun _ => True) s (step h s op) := by
  cases op with
  | mapSocket env cookie established pid silentFail =>
    exact does_mapSocket (fun _ _ => trivial) env cookie established pid silentFail s
  | mapSocketFromTrafficEvent env cookie d header =>
    exact does_mapSocketFromTrafficEvent (fun _ _ => trivial) env cookie d header s
      fun _ _ _ => trivial
  | addExistingSockets env isProcessRunning listeningSockets =>
    exact does_addExistingSockets (fun _ _ => trivial) env isProcessRunning
      (fun _ _ => trivial) listeningSockets s
  | processInitialApps o => exact does_processInitialApps o s
  | processSocketEvent event r =>
    simp only [step]
    split
    · exact does_processSocketEvent event r (fun _ => trivial) (fun _ => trivial) s
    · exact .refl s
  | mergeSyntheticSocket o r =>
    simp only [step]
    split
    · exact does_mergeSyntheticSocket o r (fun _ => trivial) (fun _ _ => trivial) (fun _ => trivial) s
    · exact .refl s
  | markSocketForRemoval o now cookie localPort =>
    exact does_markSocketForRemoval (fun _ _ => .of_shared) o now cookie localPort
      (fun _ r hown hr => ⟨.of_reads rfl,
        .of_pushes .incoming (.inl ⟨r, (mem_closedBy hown).mpr hr, rfl⟩)⟩)
      (fun _ _ => trivial) fun _ => trivial
  | reparentAcceptedSocket r =>
    simp only [step]
    split
    · rename_i hr
      exact does_reparentAcceptedSocket hr fun _ => trivial
    · exact .refl s
  | reparentOrphanedSocket now endpoint pid =>
    exact does_reparentOrphanedSocket (fun _ _ => trivial) (fun _ => trivial)
      (fun _ _ => trivial) (fun _ _ => trivial) now endpoint pid s
  | pushIncomingTraffic env cookie bytes header =>
    exact does_pushIncomingTraffic (fun _ _ => .of_shared) env cookie bytes header
      (fun r hr => ⟨.of_pushes .incoming (.inl ⟨r, hr, .inl rfl⟩),
        .of_pushes .incoming (.inl ⟨r, hr, .inr rfl⟩)⟩)
      (fun _ _ => ⟨fun _ => trivial, fun _ => trivial⟩) fun _ => trivial
  | pushOutgoingTraffic env cookie bytes header =>
    refine does_pushOutgoingTraffic (fun _ _ => .of_shared) env cookie bytes header
      (fun _ _ => trivial) (fun r hr => ?_)
      (fun _ _ => ⟨fun _ => trivial, fun _ => trivial⟩) fun _ => trivial
    have hpushes := pushes_outgoing env cookie bytes header s hr
    exact ⟨.of_pushes .outgoing hpushes.1, .of_pushes .outgoing hpushes.2⟩
  | refreshAllTrafficCounters env =>
    exact does_refreshAllTrafficCounters env (fun _ _ => trivial) (fun _ _ => .of_shared)
      (fun _ _ => .refresh) (fun _ => .of_reads rfl) (fun _ => .of_reads rfl) s
  | takeItemId => exact does_change .takeItemId trivial trivial

/-! ## A tick -/

/-- The calls of a tick push to shared counters only. -/
def NoPush (who : CounterId) (c : CounterCall) : Prop := ∀ b, c.IsPush b → who.Shared

section Tick

variable (env : TickEnv) {q : CounterId} {x : Msec}

/-- The map after the processes are cleaned up. -/
def cleanedProcesses (h : Handler σ) (env : TickEnv) (s : SystemMap σ) : SystemMap σ :=
  (env.order.entries s.processes).foldl (cleanupProcess h env) s

/-- The map after the sockets are cleaned up. -/
def cleanedSockets (h : Handler σ) (env : TickEnv) (s : SystemMap σ) : SystemMap σ :=
  (env.order.entries s.sockets).foldl (cleanupSocket h env) s

theorem refreshAllTrafficCounters_eq (s : SystemMap σ) :
    refreshAllTrafficCounters h env s =
      (env.order.entries (cleanedSockets h env (cleanedProcesses h env
        (refreshCounters h env s))).applications).foldl cleanupApp
          (cleanedSockets h env (cleanedProcesses h env (refreshCounters h env s))) := rfl

theorem tick_refreshCounters (s : SystemMap σ) :
    Does h NoPush Action.Drops s (refreshCounters h env s) :=
  does_refreshCounters env (fun _ _ hwho _ _ => hwho) (fun _ _ => nofun) s

theorem tick_cleanupProcess (s : SystemMap σ) (entry : ProcessId × Ref) :
    Does h NoPush Action.Drops s (cleanupProcess h env s entry) :=
  does_cleanupProcess env (fun _ => id) (fun _ _ hwho _ _ => hwho.shared) entry nofun s

theorem tick_cleanupSocket (s : SystemMap σ) (entry : SocketCookie × Ref) :
    Does h NoPush Action.Drops s (cleanupSocket h env s entry) :=
  does_cleanupSocket env (fun _ => id) entry s fun _ => nofun

theorem tick_cleanedProcesses (s : SystemMap σ) :
    Does h NoPush Action.Drops s (cleanedProcesses h env s) :=
  Does.foldl _ fun s e _ => tick_cleanupProcess env s e

theorem tick_cleanedSockets (s : SystemMap σ) :
    Does h NoPush Action.Drops s (cleanedSockets h env s) :=
  Does.foldl _ fun s e _ => tick_cleanupSocket env s e

/-- What the turn of a process establishes. -/
theorem turn_cleanedProcesses {P Q : SystemMap σ → Prop} {e : ProcessId × Ref}
    (he : s.processes.lookup e.1 = some e.2) (hturn : ∀ s, P s → Q (cleanupProcess h env s e))
    (hP : ∀ s e, P s → P (cleanupProcess h env s e))
    (hQ : ∀ s e, Q s → Q (cleanupProcess h env s e)) (hs : P s) : Q (cleanedProcesses h env s) :=
  foldl_turn hturn _ ((env.order.mem_entries _ e.1 e.2).mpr he) (fun s e _ => hP s e)
    (fun s e _ => hQ s e) hs

/-- What the turn of a socket establishes. -/
theorem turn_cleanedSockets {P Q : SystemMap σ → Prop} {e : SocketCookie × Ref}
    (he : s.sockets.lookup e.1 = some e.2) (hturn : ∀ s, P s → Q (cleanupSocket h env s e))
    (hP : ∀ s e, P s → P (cleanupSocket h env s e))
    (hQ : ∀ s e, Q s → Q (cleanupSocket h env s e)) (hs : P s) : Q (cleanedSockets h env s) :=
  foldl_turn hturn _ ((env.order.mem_entries _ e.1 e.2).mpr he) (fun s e _ => hP s e)
    (fun s e _ => hQ s e) hs

/-- The rest of a tick, after the sockets. -/
theorem tick_cleanedApps (s : SystemMap σ) :
    Does h NoPush Action.Drops
      (cleanedSockets h env (cleanedProcesses h env (refreshCounters h env s)))
      (refreshAllTrafficCounters h env s) := by
  rw [refreshAllTrafficCounters_eq]
  exact Does.foldl _ fun s e _ => does_cleanupApp (fun _ => id) e s

/-- A counter that is pending removal is, whatever a tick does. -/
theorem Does.tick_pending {s' : SystemMap σ} (hs : Does h NoPush Action.Drops s s')
    (hq : ¬q.Shared) (hp : q.OlderThan s.nextItemId ∧ (s.counter q).PendingUntil x) :
    q.OlderThan s'.nextItemId ∧ (s'.counter q).PendingUntil x :=
  ⟨hp.1.mono hs.next_le,
    hs.pendingUntil hq (fun _ b hc hb => hq (hc b hb)) hp.1 hp.2⟩

/-- The turn of a process that is not running marks it. -/
theorem pending_cleanupProcess {entry : ProcessId × Ref}
    (hrun : env.isProcessRunning entry.1 = false)
    (hold : (CounterId.process entry.2).OlderThan s.nextItemId)
    (hb : (s.counter (.process entry.2)).Bounded
      (env.cleanupTime (.process entry.2) + TrafficCounter.removalTimeWindow)) :
    ((cleanupProcess h env s entry).counter (.process entry.2)).PendingUntil
      (env.cleanupTime (.process entry.2) + TrafficCounter.removalTimeWindow) := by
  unfold cleanupProcess
  simp only
  generalize hs1 : (if (!env.isProcessRunning entry.1) = true ∧
    (!(s.process entry.2).isMarkedForRemoval) = true then _ else s) = s1
  have h1 : (CounterId.process entry.2).OlderThan s1.nextItemId ∧
      (s1.counter (.process entry.2)).PendingUntil
        (env.cleanupTime (.process entry.2) + TrafficCounter.removalTimeWindow) := by
    subst hs1
    split
    · refine ⟨hold, ?_⟩
      change ((s.applyCall (.process entry.2) _).counter (.process entry.2)).PendingUntil _
      rw [CounterTree.counter_call id, if_pos rfl]
      exact hb.mark
    · rename_i hmarked
      have hpending : (s.process entry.2).state = .pendingRemoval := by
        rw [hrun] at hmarked
        simpa [TrafficCounter.isMarkedForRemoval] using hmarked
      exact ⟨hold, hpending, hb hpending⟩
  split
  · have hremove : Does h NoPush Action.Drops s1 (removeProcess h env entry.1 entry.2 s1) :=
      does_removeProcess env (fun _ => id) (fun _ _ hwho _ _ => hwho.shared) _ _ s1
    exact (hremove.tick_pending id h1).2
  · exact h1.2

/-- The turn of a process that is due erases it. -/
theorem lookup_cleanupProcess {e : ProcessId × Ref}
    (hp : (s.counter (.process e.2)).PendingUntil x)
    (hx : x ≤ env.cleanupTime (.process e.2)) :
    (cleanupProcess h env s e).processes.lookup e.1 = none := by
  have hmarked : (s.process e.2).isMarkedForRemoval = true := decide_eq_true hp.1
  have hdue : (s.process e.2).dueForRemoval (env.cleanupTime (.process e.2)) = true :=
    decide_eq_true ⟨hp.1, hp.2.trans hx⟩
  unfold cleanupProcess
  simp only [hmarked, Bool.not_true, Bool.false_eq_true, and_false, if_false, hdue, if_true]
  exact AList.lookup_erase _ _

/-- The turn of a socket that is due erases it. -/
theorem lookup_cleanupSocket {e : SocketCookie × Ref}
    (hp : (s.counter (.socket e.2)).PendingUntil x)
    (hx : x ≤ env.cleanupTime (.socket e.2)) :
    (cleanupSocket h env s e).sockets.lookup e.1 = none := by
  have hdue : (s.socket e.2).dueForRemoval (env.cleanupTime (.socket e.2)) = true :=
    decide_eq_true ⟨hp.1, hp.2.trans hx⟩
  unfold cleanupSocket
  simp only [hdue, if_true]
  exact AList.lookup_erase _ _

/-- What a turn erases stays erased. -/
theorem Does.tick_lookup {s' : SystemMap σ} (hs : Does h NoPush Action.Drops s s') :
    (∀ c, s.sockets.lookup c = none → s'.sockets.lookup c = none) ∧
      ∀ pid, s.processes.lookup pid = none → s'.processes.lookup pid = none := by
  have hold := hs.lookup_of_drops fun _ => id
  constructor
  · intro c hnone
    by_contra hsome
    obtain ⟨r, hr⟩ := Option.ne_none_iff_exists'.mp hsome
    exact absurd (hold.1 c r hr) (by simp [hnone])
  · intro pid hnone
    by_contra hsome
    obtain ⟨p, hp⟩ := Option.ne_none_iff_exists'.mp hsome
    exact absurd (hold.2 pid p hp) (by simp [hnone])

/-- **A process or socket that is due is removed by the cleanup.** -/
theorem not_inMap_refreshAll (hq : ¬q.Shared) (hold : q.OlderThan s.nextItemId)
    (hp : (s.counter q).PendingUntil x) (hx : x ≤ env.cleanupTime q) :
    ¬(refreshAllTrafficCounters h env s).InMap q := by
  have h1 := (tick_refreshCounters (h := h) env s).tick_pending hq ⟨hold, hp⟩
  cases q with
  | process p =>
    rintro ⟨pid, hpid⟩
    have hrest := (tick_cleanedSockets env _).trans (tick_cleanedApps (h := h) env s)
    have hafter := (hrest.lookup_of_drops fun _ => id).2 pid p hpid
    have hbefore := ((tick_cleanedProcesses env _).lookup_of_drops fun _ => id).2 pid p hafter
    -- the turn of the entry erases it, and no later turn brings it back
    have hgone := turn_cleanedProcesses (h := h) env (e := (pid, p))
      (P := fun s => (CounterId.process p).OlderThan s.nextItemId ∧
        (s.counter (.process p)).PendingUntil x)
      (Q := fun s => s.processes.lookup pid = none) hbefore
      (fun s hs => lookup_cleanupProcess (e := (pid, p)) env hs.2 hx)
      (fun s e hs => (tick_cleanupProcess env s e).tick_pending id hs)
      (fun s e hs => (tick_cleanupProcess env s e).tick_lookup.2 pid hs) h1
    rw [hgone] at hafter
    cases hafter
  | socket r =>
    rintro ⟨c, hc⟩
    have hafter := ((tick_cleanedApps (h := h) env s).lookup_of_drops fun _ => id).1 c r hc
    have hbefore := ((tick_cleanedSockets env _).lookup_of_drops fun _ => id).1 c r hafter
    have hgone := turn_cleanedSockets (h := h) env (e := (c, r))
      (P := fun s => (CounterId.socket r).OlderThan s.nextItemId ∧
        (s.counter (.socket r)).PendingUntil x)
      (Q := fun s => s.sockets.lookup c = none) hbefore
      (fun s hs => lookup_cleanupSocket (e := (c, r)) env hs.2 hx)
      (fun s e hs => (tick_cleanupSocket env s e).tick_pending id hs)
      (fun s e hs => (tick_cleanupSocket env s e).tick_lookup.1 c hs)
      ((tick_cleanedProcesses env _).tick_pending id h1)
    rw [hgone] at hafter
    cases hafter
  | _ => exact absurd trivial hq

/-- **A process that a tick finds not running** is pending removal after it. -/
theorem pending_refreshAll {now : Msec} {pid : ProcessId} {p : Ref}
    (hp : s.processes.lookup pid = some p) (hrun : env.isProcessRunning pid = false)
    (hold : (CounterId.process p).OlderThan s.nextItemId)
    (hb : (s.counter (.process p)).Bounded (now + TrafficCounter.removalTimeWindow))
    (hnow : now ≤ env.cleanupTime (.process p)) :
    ((refreshAllTrafficCounters h env s).counter (.process p)).PendingUntil
      (env.cleanupTime (.process p) + TrafficCounter.removalTimeWindow) := by
  generalize hx : env.cleanupTime (.process p) + TrafficCounter.removalTimeWindow = x
  -- up to its turn the counter is marked at this tick or before
  have hbounded {s s' : SystemMap σ} (hs : (CounterId.process p).OlderThan s.nextItemId ∧
      (s.counter (.process p)).Bounded x)
      (hdoes : Does h (fun who c => ∀ t, c = .markForRemoval t → who.Shared ∨
        t = env.cleanupTime who) Action.Drops s s') :
      (CounterId.process p).OlderThan s'.nextItemId ∧ (s'.counter (.process p)).Bounded x := by
    refine ⟨hs.1.mono hdoes.next_le, hdoes.bounded id (fun t ht => ?_) hs.2⟩
    rw [(ht t rfl).resolve_left id, hx]
  have h1 : (CounterId.process p).OlderThan (refreshCounters h env s).nextItemId ∧
      ((refreshCounters h env s).counter (.process p)).Bounded x :=
    hbounded ⟨hold, hb.mono (hx ▸ Int.add_le_add_right hnow _)⟩
      (does_refreshCounters env (fun _ _ hwho _ _ => .inl hwho) (fun _ _ => nofun) s)
  have hbefore : (refreshCounters h env s).processes.lookup pid = some p :=
    (congrArg (fun t => t.procs pid) (shape_refreshCounters env s)).trans hp
  have hturn := turn_cleanedProcesses (h := h) env (e := (pid, p))
    (P := fun s => (CounterId.process p).OlderThan s.nextItemId ∧
      (s.counter (.process p)).Bounded x)
    (Q := fun s => (CounterId.process p).OlderThan s.nextItemId ∧
      (s.counter (.process p)).PendingUntil x) hbefore
    (fun s hs => ⟨hs.1.mono (tick_cleanupProcess (h := h) env s (pid, p)).next_le,
      hx ▸ pending_cleanupProcess env hrun hs.1 (hx ▸ hs.2)⟩)
    (fun s e hs => hbounded hs (does_cleanupProcess env (fun _ => id)
      (fun _ _ hwho _ _ => .inl hwho.shared) e (fun t ht => by cases ht; exact .inr rfl) s))
    (fun s e hs => (tick_cleanupProcess env s e).tick_pending id hs) h1
  exact (((tick_cleanedSockets env _).trans (tick_cleanedApps env s)).tick_pending id hturn).2

end Tick

/-! ## A close event -/

/-- The calls of a close event on sockets are marks. -/
def CloseCall (now : Msec) (who : CounterId) (c : CounterCall) : Prop :=
  ∀ r, who = .socket r → c = .markForRemoval now

theorem close_closeSocket (now : Msec) (r : Ref) (s : SystemMap σ) :
    Does h (CloseCall now) (fun _ => True) s (closeSocket h now r s) := by
  refine does_closeSocket (fun who c hwho q hq => ?_) now r (fun _ _ => rfl) (fun _ hq => nomatch hq)
    (fun _ => trivial) fun _ => trivial
  subst hq
  exact absurd hwho id

theorem counter_closeSocket (now : Msec) (r : Ref) (s : SystemMap σ) :
    (closeSocket h now r s).counter (.socket r) =
      (s.counter (.socket r)).call (.markForRemoval now) := by
  have hsocket := congrArg (fun f => (f r).toTrafficCounter.plain)
    (socket_closeSocket (h := h) now r s)
  refine hsocket.trans ?_
  refine (congrFun (CounterTree.counter_editSocket (t := s.applyCall (.socket r)
    (.markForRemoval now)) (r := r) rfl) (.socket r)).trans ?_
  rw [CounterTree.counter_call id, if_pos rfl]

/-- **What a close event closes** is pending removal after it. -/
theorem pending_markSocketForRemoval {o : IterOrder} {now : Msec} {cookie : SocketCookie}
    {localPort : UInt32} {r : Ref} (hr : r ∈ SystemMapOp.closedBy o cookie localPort s.toCounterTree)
    (hold : (CounterId.socket r).OlderThan s.nextItemId)
    (hb : (s.counter (.socket r)).Bounded (now + TrafficCounter.removalTimeWindow)) :
    ((markSocketForRemoval h o now cookie localPort s).counter (.socket r)).PendingUntil
      (now + TrafficCounter.removalTimeWindow) := by
  -- the last close is of the event's own socket
  have hlast (own : Ref) {s : SystemMap σ} (hs : (CounterId.socket r).OlderThan s.nextItemId ∧
      (s.counter (.socket r)).PendingUntil (now + TrafficCounter.removalTimeWindow)) :
      ((closeSocket h now own s).counter (.socket r)).PendingUntil
        (now + TrafficCounter.removalTimeWindow) :=
    (close_closeSocket now own s).pendingUntil id
      (fun c b hc hb => by rw [hc r rfl] at hb; cases hb) hs.1 hs.2
  have hbounded (q : Ref) : ((closeSocket h now q s).counter (.socket r)).Bounded
      (now + TrafficCounter.removalTimeWindow) :=
    (close_closeSocket now q s).bounded id (fun t ht => by cases ht r rfl; exact Int.le_refl _) hb
  cases hown : s.sockets.lookup cookie with
  | none => simp [SystemMapOp.closedBy, hown] at hr
  | some own =>
    simp only [markSocketForRemoval, hown]
    rcases (mem_closedBy hown).mp hr with rfl | ⟨hport, hlisten⟩
    · rw [counter_closeSocket]
      split
      · split
        · exact (hbounded _).mark
        · exact hb.mark
      · exact hb.mark
    · simp only [if_pos hport, hlisten]
      refine hlast own ⟨hold.mono (close_closeSocket (h := h) now r s).next_le, ?_⟩
      rw [counter_closeSocket]
      exact hb.mark

end SystemMap

/-! ## Runs -/

/-- The mark an operation makes: a close event marks the sockets it closes, a cleanup the
processes it finds not running. -/
def SystemMapOp.marksOf (t : CounterTree) :
    SystemMapOp → CounterId → Option Msec
  | .markSocketForRemoval o now cookie localPort, .socket r =>
    if r ∈ closedBy o cookie localPort t then some now else none
  | .refreshAllTrafficCounters env, .process p =>
    if (env.order.entries t.processes).any fun e => e.2 = p && !env.isProcessRunning e.1 then
      some (env.cleanupTime (.process p))
    else none
  | _, _ => none

/-- The map, the time of the last step, and the first mark of each counter. -/
structure MarkRun (σ : Type) where
  map : SystemMap σ
  now : Msec
  marks : CounterId → Option Msec := fun _ => none

namespace MarkRun

variable {σ : Type} (h : Handler σ)

/-- Perform an operation that ends at a time. -/
def step (s : MarkRun σ) (op : SystemMapOp × Msec) : MarkRun σ :=
  { map := SystemMap.step h s.map op.1
    now := op.2
    marks := fun q => (s.marks q).or (op.1.marksOf s.map.toCounterTree q) }

/-- The times an operation reads lie between the end of the one before and its own end. -/
def Clocked (s : MarkRun σ) (op : SystemMapOp × Msec) : Prop :=
  s.now ≤ op.2 ∧ ∀ q t, op.1.Reads q t → s.now ≤ t ∧ t ≤ op.2

/-- The operation pushes to no marked counter that is still in the map. -/
def NoLatePush (s : MarkRun σ) (op : SystemMapOp × Msec) : Prop :=
  ∀ q t, op.1.Pushes s.map.toCounterTree q → s.marks q = some t → ¬s.map.InMap q

/-- The marked counters that are in the map are pending removal. -/
def StaysPending (s : MarkRun σ) : Prop :=
  ∀ q t, s.marks q = some t → s.map.InMap q → (s.map.counter q).state = .pendingRemoval

/-- A cleanup removes the counters that were marked a removal time window before. -/
def Removes (s : MarkRun σ) (op : SystemMapOp × Msec) : Prop :=
  ∀ env q t, op.1 = .refreshAllTrafficCounters env → s.marks q = some t →
    t + TrafficCounter.removalTimeWindow ≤ env.cleanupTime q → ¬(step h s op).map.InMap q

/-- The marked counters that can come back: a socket always, a process while it is in the map. -/
def Lasts (t : CounterTree) (q : CounterId) : Prop := ∀ p, q = .process p → t.InMap q

/-- The invariant: what is marked is pending removal, until a removal time window after the mark. -/
structure Inv (s : MarkRun σ) : Prop where
  known : s.map.shape.Known
  bounded : ∀ q, ¬q.Shared →
    (s.map.counter q).Bounded (s.now + TrafficCounter.removalTimeWindow)
  older : ∀ q t, s.marks q = some t → ¬q.Shared ∧ q.OlderThan s.map.nextItemId
  pending : ∀ q t, s.marks q = some t → Lasts s.map.toCounterTree q →
    (s.map.counter q).PendingUntil (t + TrafficCounter.removalTimeWindow)

theorem inv_init (now : Msec) (hostName : String) (listeners : σ) :
    Inv { map := SystemMap.init now hostName listeners, now := now } where
  known :=
    ⟨⟨nofun, nofun, nofun, fun _ hr hid => absurd hid.symm hr⟩, nofun⟩
  bounded q hq := by
    cases q with
    | process p => exact nofun
    | socket r => exact nofun
    | _ => exact absurd trivial hq
  older := nofun
  pending := nofun

variable {h} {s : MarkRun σ} {op : SystemMapOp × Msec}

theorem lasts_of_inMap {t : CounterTree} {q : CounterId} (hq : t.InMap q) : Lasts t q :=
  fun _ _ => hq

/-- What an operation pushes to is in the map. -/
theorem inMap_of_pushes_socket {t : CounterTree} {op : SystemMapOp} {r : Ref}
    (hr : op.Pushes t (.socket r)) : t.InMap (.socket r) := by
  cases op with
  | pushIncomingTraffic env cookie bytes header =>
    obtain ⟨q, hq, hr | hr⟩ := hr
    · cases hr
      exact ⟨cookie, hq⟩
    · cases hr
  | pushOutgoingTraffic env cookie bytes header =>
    obtain ⟨q, hq, hr | hr⟩ | ⟨-, -, packet, p, -, -, -, hr⟩ := hr
    · cases hr
      exact ⟨cookie, hq⟩
    · cases hr
    · cases hr
  | markSocketForRemoval o now cookie localPort =>
    obtain ⟨q, -, hr⟩ := hr
    cases hr
  | _ => exact absurd hr id

/-- What was marked before stays pending removal. -/
theorem Inv.pending_old (hs : s.Inv) (hpush : s.NoLatePush op) {q : CounterId} {t : Msec}
    (hq : s.marks q = some t) (hlasts : Lasts (step h s op).map.toCounterTree q) :
    ((step h s op).map.counter q).PendingUntil (t + TrafficCounter.removalTimeWindow) := by
  obtain ⟨hshared, hold⟩ := hs.older q t hq
  have hdoes := SystemMap.does_step_calls (h := h) s.map op.1
  have hbefore : Lasts s.map.toCounterTree q := by
    rintro p rfl
    exact hdoes.process_inMap hold (hlasts p rfl)
  refine hdoes.pendingUntil hshared (fun c b hc hb => ?_) hold (hs.pending q t hq hbefore)
  rcases hc.push b hb with hq' | hq' | hq'
  · exact hshared hq'
  · refine hpush q t hq' hq ?_
    cases q with
    | process p => exact hbefore p rfl
    | socket r => exact inMap_of_pushes_socket hq'
    | _ => exact absurd trivial hshared
  · exact hq' hold

/-- What an operation marks is pending removal after it. -/
theorem Inv.pending_new (hs : s.Inv) (hclock : s.Clocked op) {q : CounterId} {t : Msec}
    (hq : op.1.marksOf s.map.toCounterTree q = some t) :
    ¬q.Shared ∧ q.OlderThan s.map.nextItemId ∧
      ((step h s op).map.counter q).PendingUntil (t + TrafficCounter.removalTimeWindow) := by
  obtain ⟨op, until'⟩ := op
  cases op with
  | markSocketForRemoval o now cookie localPort =>
    cases q with
    | socket r =>
      simp only [SystemMapOp.marksOf, Option.ite_none_right_eq_some, Option.some.injEq] at hq
      obtain ⟨hr, rfl⟩ := hq
      obtain ⟨c, hc⟩ := SystemMap.lookup_of_mem_closedBy hr
      have hold : (CounterId.socket r).OlderThan s.map.nextItemId :=
        hs.known.older.socket c r hc
      refine ⟨id, hold, SystemMap.pending_markSocketForRemoval hr hold ?_⟩
      exact (hs.bounded _ id).mono (Int.add_le_add_right (hclock.2 (.socket r) _ rfl).1 _)
    | _ => cases hq
  | refreshAllTrafficCounters env =>
    cases q with
    | process p =>
      simp only [SystemMapOp.marksOf, Option.ite_none_right_eq_some, Option.some.injEq] at hq
      obtain ⟨hfound, rfl⟩ := hq
      obtain ⟨⟨pid, p'⟩, hmem, hentry⟩ := List.any_eq_true.mp hfound
      obtain ⟨rfl, hrun⟩ : p' = p ∧ env.isProcessRunning pid = false := by simpa using hentry
      have hp := (env.order.mem_entries _ pid p').mp hmem
      have hold : (CounterId.process p').OlderThan s.map.nextItemId := hs.known.process pid p' hp
      exact ⟨id, hold, SystemMap.pending_refreshAll env hp hrun hold (hs.bounded _ id)
        (hclock.2 (.process p') _ rfl).1⟩
    | _ => cases hq
  | _ => cases q <;> cases hq

/-- **One step of a run with a clock that pushes to no marked counter.** -/
theorem Inv.step (hs : s.Inv) (hclock : s.Clocked op) (hpush : s.NoLatePush op) :
    (step h s op).Inv := by
  have hdoes := SystemMap.does_step_calls (h := h) s.map op.1
  refine ⟨hdoes.known hs.known, fun q hq => ?_, fun q t hq => ?_, fun q t hq hlasts => ?_⟩
  · refine hdoes.bounded hq (fun t ht => ?_)
      ((hs.bounded q hq).mono (Int.add_le_add_right hclock.1 _))
    exact Int.add_le_add_right (hclock.2 q t ((ht.mark t rfl).resolve_left hq)).2 _
  · rcases Option.or_eq_some_iff.mp hq with hq | ⟨-, hq⟩
    · exact ⟨(hs.older q t hq).1, (hs.older q t hq).2.mono hdoes.next_le⟩
    · obtain ⟨hshared, hold, -⟩ := hs.pending_new (h := h) hclock hq
      exact ⟨hshared, hold.mono hdoes.next_le⟩
  · rcases Option.or_eq_some_iff.mp hq with hq | ⟨-, hq⟩
    · exact hs.pending_old hpush hq hlasts
    · exact (hs.pending_new hclock hq).2.2

theorem Inv.staysPending (hs : s.Inv) : s.StaysPending :=
  fun q t hq hin => (hs.pending q t hq (lasts_of_inMap hin)).1

theorem Inv.removes (hs : s.Inv) : Removes h s op := by
  rintro env q t hop hq hdue hin
  obtain ⟨hshared, hold⟩ := hs.older q t hq
  have hdoes := SystemMap.does_step_calls (h := h) s.map op.1
  have hlasts : Lasts s.map.toCounterTree q := by
    rintro p rfl
    exact hdoes.process_inMap hold hin
  have hgone := SystemMap.not_inMap_refreshAll (h := h) env hshared hold
    (hs.pending q t hq hlasts) hdue
  refine hgone ?_
  rw [show (MarkRun.step h s op).map = SystemMap.refreshAllTrafficCounters h env s.map by
    rw [MarkRun.step, hop]; rfl] at hin
  exact hin

/-- **Marked sockets and processes are removed** in a run with a clock whose steps push to no marked
counter: until then they are pending removal, and the first cleanup a removal time window later
removes them. -/
theorem marked_removed (now : Msec) (hostName : String) (listeners : σ)
    (ops : List (SystemMapOp × Msec))
    (hclock : AllSteps (MarkRun.step h) Clocked
      { map := SystemMap.init now hostName listeners, now := now } ops)
    (hpush : AllSteps (MarkRun.step h) NoLatePush
      { map := SystemMap.init now hostName listeners, now := now } ops) :
    Always (MarkRun.step h) StaysPending
        { map := SystemMap.init now hostName listeners, now := now } ops ∧
      AllSteps (MarkRun.step h) (Removes h)
        { map := SystemMap.init now hostName listeners, now := now } ops := by
  have hsteps := hclock.and hpush
  have hkeep : ∀ (s : MarkRun σ) (op : SystemMapOp × Msec), s.Inv →
      s.Clocked op ∧ s.NoLatePush op → (MarkRun.step h s op).Inv :=
    fun s op hs hop => hs.step hop.1 hop.2
  exact ⟨always_of_allSteps (fun s hs => hs.staysPending) hkeep ops (inv_init now hostName listeners)
    hsteps, hsteps.imp hkeep (fun s op hs _ => hs.removes) (inv_init now hostName listeners)⟩

/-- Process 7 opens the socket with the cookie 9 and closes it. -/
def openedAndClosed : List (SystemMapOp × Msec) :=
  [(.mapSocket SystemMap.quietEnv 9 false 7 false, 0), (.markSocketForRemoval .stored 0 9 0, 0)]

/-- The socket is closed, and removed by the tick five seconds later. -/
theorem marked_removed_closed :
    Always (MarkRun.step fun _ _ (u : Unit) => u) StaysPending
        { map := SystemMap.init 0 "host" (), now := 0 }
        (openedAndClosed ++ [(.refreshAllTrafficCounters (SystemMap.tickAt 5000), 5000)]) ∧
      AllSteps (MarkRun.step fun _ _ (u : Unit) => u) (Removes fun _ _ (u : Unit) => u)
        { map := SystemMap.init 0 "host" (), now := 0 }
        (openedAndClosed ++ [(.refreshAllTrafficCounters (SystemMap.tickAt 5000), 5000)]) := by
  refine marked_removed 0 "host" () _ ⟨⟨by decide, nofun⟩, ⟨by decide, ?_⟩, ⟨by decide, ?_⟩, trivial⟩
    ⟨nofun, fun q t _ hq => ?_, nofun, trivial⟩
  · rintro q t rfl
    decide
  · rintro q t rfl
    exact ⟨show (0 : Msec) ≤ 5000 by decide, Int.le_refl _⟩
  · cases q <;> cases hq

/-- **A packet after the close event** makes the socket active again. -/
theorem marked_fails_latePacket : ¬ ∀ ops : List (SystemMapOp × Msec),
    AllSteps (MarkRun.step fun _ _ (u : Unit) => u) Clocked
        { map := SystemMap.init 0 "host" (), now := 0 } ops →
      Always (MarkRun.step fun _ _ (u : Unit) => u) StaysPending
          { map := SystemMap.init 0 "host" (), now := 0 } ops ∧
        AllSteps (MarkRun.step fun _ _ (u : Unit) => u) (Removes fun _ _ (u : Unit) => u)
          { map := SystemMap.init 0 "host" (), now := 0 } ops := by
  intro hall
  have hstays := (hall (openedAndClosed ++
    [(.pushIncomingTraffic SystemMap.quietTraffic 9 100 none, 0)]) ?_).1.last
  · exact absurd (hstays (.socket 6) 0 (by decide) ⟨9, by decide⟩) (by decide)
  · refine ⟨⟨by decide, nofun⟩, ⟨by decide, ?_⟩, ⟨by decide, nofun⟩, trivial⟩
    rintro q t rfl
    decide

end MarkRun

end Waechter
