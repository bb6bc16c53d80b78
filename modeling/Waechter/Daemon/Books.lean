import Waechter.Daemon.TreeShape
import Waechter.Lib.Run

/-!
# The books on the counters

`Books` is a listener of the system map that writes down what happens to the counters: the calls on
each of them as entries of an account for each direction, the bytes that are passed on to the
statistics for it, and its totals at the moment it is reported as removed.

`Kept` is the invariant: the recent bytes of a filter, a socket or a tuple are what is pending on
its account, its totals are what is settled, and the statistics got what its refreshes read off.
-/

namespace Waechter

open Lib

/-! ## References are older than the next one -/

namespace TreeShape

/-- What the maps and the orphans refer to, and every socket with its own id, is older than the
next reference. -/
structure Older (t : TreeShape) : Prop where
  socket : ∀ c r, t.socks c = some r → r < t.next
  orphan : ∀ e r, t.orphans e = some r → r < t.next
  tuple : ∀ r e u, t.sockTuples r e = some u → u < t.next
  itemId : ∀ r, r ≠ 0 → t.sockId r = r → r < t.next

namespace Older

variable {t : TreeShape}

attribute [local grind =] Function.update_apply

/-- The changes that only forget, or only touch applications and processes. -/
theorem of_le (h : Older t) {t' : TreeShape} (hn : t.next ≤ t'.next)
    (hs : ∀ c r, t'.socks c = some r → t.socks c = some r)
    (ho : ∀ e r, t'.orphans e = some r → t.orphans e = some r)
    (hu : ∀ r e u, t'.sockTuples r e = some u → t.sockTuples r e = some u)
    (hi : t'.sockId = t.sockId) : Older t' where
  socket := fun c r hr => Nat.lt_of_lt_of_le (h.socket c r (hs c r hr)) hn
  orphan := fun e r hr => Nat.lt_of_lt_of_le (h.orphan e r (ho e r hr)) hn
  tuple := fun r e u hr => Nat.lt_of_lt_of_le (h.tuple r e u (hu r e u hr)) hn
  itemId := fun r h0 hr => Nat.lt_of_lt_of_le (h.itemId r h0 (hi ▸ hr)) hn

theorem addTuple (h : Older t) (r : Ref) (e : Endpoint) : Older (t.addTuple r e) := by
  obtain ⟨h1, h2, h3, h4⟩ := h
  constructor <;> simp only [TreeShape.addTuple] <;> grind

theorem addSocket (h : Older t) (c : SocketCookie) (p : Ref) : Older (t.addSocket c p) := by
  obtain ⟨h1, h2, h3, h4⟩ := h
  constructor <;> simp only [TreeShape.addSocket] <;> grind

theorem attachSocket (h : Older t) {r : Ref} (hr : r < t.next) (p : Ref) :
    Older (t.attachSocket r p) := by
  obtain ⟨h1, h2, h3, h4⟩ := h
  constructor <;> simp only [TreeShape.attachSocket] <;> grind

theorem orphanSocket (h : Older t) {r : Ref} (hr : r < t.next) (e : Endpoint) :
    Older (t.orphan e r) := by
  obtain ⟨h1, h2, h3, h4⟩ := h
  constructor <;> simp only [TreeShape.orphan] <;> grind

theorem forgetOrphan (h : Older t) (e : Endpoint) : Older (t.forgetOrphan e) := by
  refine h.of_le (Nat.le_refl _) (fun _ _ => id) (fun f r hf => ?_) (fun _ _ _ => id) rfl
  simp only [TreeShape.forgetOrphan, Function.update_apply] at hf
  split at hf
  · exact absurd hf (by simp)
  · exact hf

theorem eraseSocket (h : Older t) (c : SocketCookie) : Older (t.eraseSocket c) := by
  refine h.of_le (Nat.le_refl _) (fun d r hd => ?_) (fun _ _ => id) (fun _ _ _ => id) rfl
  simp only [TreeShape.eraseSocket, Function.update_apply] at hd
  split at hd
  · exact absurd hd (by simp)
  · exact hd

theorem clearTupleCounters (h : Older t) (r : Ref) : Older (t.clearTupleCounters r) := by
  refine h.of_le (Nat.le_refl _) (fun _ _ => id) (fun _ _ => id) (fun q e u hu => ?_) rfl
  simp only [TreeShape.clearTupleCounters] at hu
  split at hu
  · exact absurd hu (by simp)
  · exact hu

theorem eraseTuple (h : Older t) (r : Ref) (e : Endpoint) : Older (t.eraseTuple r e) := by
  refine h.of_le (Nat.le_refl _) (fun _ _ => id) (fun _ _ => id) (fun q f u hu => ?_) rfl
  simp only [TreeShape.eraseTuple] at hu
  split at hu
  · exact absurd hu (by simp)
  · exact hu

theorem dropSynthetic (h : Older t) (p : Ref) (existing : SocketCookie × Ref) :
    Older (t.dropSynthetic p existing) :=
  have herase : Older (t.eraseProcessSocket p existing.1) :=
    h.of_le (Nat.le_refl _) (fun _ _ => id) (fun _ _ => id) (fun _ _ _ => id) rfl
  have hitem : Older ((t.eraseProcessSocket p existing.1).eraseTrafficItem (t.sockId existing.2)) :=
    herase.of_le (Nat.le_refl _) (fun _ _ => id) (fun _ _ => id) (fun _ _ _ => id) rfl
  hitem.eraseSocket existing.1

end Older

end TreeShape

/-! ## Bytes -/

namespace CounterId

/-- The counters the statistics hear about. -/
def IsReported : CounterId → Prop
  | .filter _ => True
  | .socket _ => True
  | _ => False

/-- The counters in the books: these and the tuples. -/
def Tracked : CounterId → Prop
  | .filter _ => True
  | .socket _ => True
  | .tuple _ => True
  | _ => False

theorem IsReported.tracked {who : CounterId} (hw : who.IsReported) : who.Tracked := by
  cases who <;> trivial

/-- The counters that can be called: their references are below `n`. -/
def Allocated (n : Ref) : CounterId → Prop
  | .socket r => r < n
  | .tuple r => r < n
  | _ => True

end CounterId

namespace CounterTree

variable (t : CounterTree)

/-- The recent bytes of a counter. -/
def recent (d : PacketDirection) : CounterId → WBytes
  | .system => t.systemCounter.recent d
  | .filter i => ((t.filterCounters[i]?).map fun f => f.recent d).getD 0
  | .app r => (t.app r).recent d
  | .process r => (t.process r).recent d
  | .socket r => (t.socket r).recent d
  | .tuple r => (t.tuple r).recent d

/-- The totals of a counter. -/
def total (d : PacketDirection) : CounterId → WBytes
  | .system => t.systemCounter.total d
  | .filter i => ((t.filterCounters[i]?).map fun f => f.total d).getD 0
  | .app r => (t.app r).total d
  | .process r => (t.process r).total d
  | .socket r => (t.socket r).total d
  | .tuple r => (t.tuple r).total d

/-- A call on a counter as an entry of its account. -/
def entry (d : PacketDirection) (who : CounterId) (c : CounterCall) : List Account.Entry :=
  match who with
  | .system => t.systemCounter.entry d c
  | .filter i => ((t.filterCounters[i]?).map fun f => f.entry d c).getD []
  | .app r => (t.app r).entry d c
  | .process r => (t.process r).entry d c
  | .socket r => (t.socket r).entry d c
  | .tuple r => (t.tuple r).entry d c

theorem recent_applyCall (d : PacketDirection) (who q : CounterId) (c : CounterCall) :
    (t.applyCall who c).recent d q =
      if q = who then Account.pending (t.recent d who) (t.entry d who c) else t.recent d q := by
  cases who with
  | system => cases q <;> simp [applyCall, recent, entry, TrafficCounter.recent_call]
  | filter i =>
    cases q with
    | filter j =>
      simp only [applyCall, recent, entry, List.getElem?_modify, CounterId.filter.injEq]
      by_cases hij : i = j
      · subst hij
        cases t.filterCounters[i]? <;> simp [TrafficCounter.recent_call, Account.pending]
      · cases t.filterCounters[j]? <;> simp [hij, Ne.symm hij]
    | _ => simp [applyCall, recent]
  | app r | process r | socket r | tuple r =>
    cases q <;> simp [applyCall, recent, entry, modifyApp, modifyProcess, modifySocket,
      modifyTuple, Function.update_apply]
    split <;> simp_all [TrafficCounter.recent_call]

theorem total_applyCall (d : PacketDirection) (who q : CounterId) (c : CounterCall) :
    (t.applyCall who c).total d q =
      if q = who then t.total d who + Account.settled (t.recent d who) (t.entry d who c)
      else t.total d q := by
  cases who with
  | system => cases q <;> simp [applyCall, total, recent, entry, TrafficCounter.total_call]
  | filter i =>
    cases q with
    | filter j =>
      simp only [applyCall, total, recent, entry, List.getElem?_modify, CounterId.filter.injEq]
      by_cases hij : i = j
      · subst hij
        cases t.filterCounters[i]? <;> simp [TrafficCounter.total_call, Account.settled]
      · cases t.filterCounters[j]? <;> simp [hij, Ne.symm hij]
    | _ => simp [applyCall, total]
  | app r | process r | socket r | tuple r =>
    cases q <;> simp [applyCall, total, recent, entry, modifyApp, modifyProcess, modifySocket,
      modifyTuple, Function.update_apply]
    split <;> simp_all [TrafficCounter.total_call]

/-- The changes of the tree that leave the bytes of the filters, the sockets and the tuples alone,
and start new ones without bytes. -/
def KeepsBytes (t' : CounterTree) : Prop :=
  ∀ who, who.Tracked → ∀ d,
    (t'.recent d who = t.recent d who ∧ t'.total d who = t.total d who) ∨
    (¬ who.Allocated t.nextItemId ∧ t'.recent d who = 0 ∧ t'.total d who = 0)

/-- The changes that leave the filters, the sockets and the tuples alone. -/
theorem KeepsBytes.of_eq {t' : CounterTree} (hf : t'.filterCounters = t.filterCounters)
    (hs : t'.socket = t.socket) (hu : t'.tuple = t.tuple) : t.KeepsBytes t' := by
  intro who hw d
  refine Or.inl ?_
  cases who with
  | filter i => simp only [recent, total, hf, and_self]
  | socket r => simp only [recent, total, hs, and_self]
  | tuple u => simp only [recent, total, hu, and_self]
  | _ => exact hw.elim

/-- A further change that leaves the filters, the sockets and the tuples alone. -/
theorem KeepsBytes.trans_eq {t' t'' : CounterTree} (h : t.KeepsBytes t')
    (hf : t''.filterCounters = t'.filterCounters) (hs : t''.socket = t'.socket)
    (hu : t''.tuple = t'.tuple) : t.KeepsBytes t'' := by
  intro who hw d
  have hwho := h who hw d
  cases who with
  | filter i => simpa only [recent, total, hf] using hwho
  | socket r => simpa only [recent, total, hs] using hwho
  | tuple u => simpa only [recent, total, hu] using hwho
  | _ => exact hw.elim

/-- The changes of one socket that leave its bytes alone. -/
theorem KeepsBytes.modifySocket {r : Ref} {f : SocketCounter → SocketCounter}
    (hr : ∀ d, (f (t.socket r)).recent d = (t.socket r).recent d)
    (ht : ∀ d, (f (t.socket r)).total d = (t.socket r).total d) :
    t.KeepsBytes (t.modifySocket r f) := by
  intro who hw d
  refine Or.inl ?_
  cases who with
  | socket q =>
    simp only [recent, total, CounterTree.modifySocket, Function.update_apply]
    split
    · rename_i hq
      rw [hr, ht, hq]
      exact ⟨rfl, rfl⟩
    · exact ⟨rfl, rfl⟩
  | filter i => exact ⟨rfl, rfl⟩
  | tuple u => exact ⟨rfl, rfl⟩
  | _ => exact hw.elim

/-- An edit of a socket item that leaves the part it shares with the other items alone. -/
theorem KeepsBytes.editSocket {r : Ref} {f : SocketItem → SocketItem}
    (hf : (f (t.socket r).trafficItem).toTrafficItem = (t.socket r).trafficItem.toTrafficItem) :
    t.KeepsBytes (t.editSocket r f) := by
  refine KeepsBytes.modifySocket t (fun d => by cases d <;> rfl) fun d => ?_
  cases d <;> simp only [TrafficCounter.total, IsTrafficItem.base, hf]

/-- A new socket has no bytes. -/
theorem KeepsBytes.addSocket (now : Msec) (c : SocketCookie) (p : Ref) :
    t.KeepsBytes (t.addSocket now c p) := by
  intro who hw d
  cases who with
  | socket r =>
    simp only [recent, total, CounterTree.addSocket, Function.update_apply]
    split
    · rename_i hr
      exact Or.inr ⟨hr ▸ Nat.lt_irrefl _, by cases d <;> rfl, by cases d <;> rfl⟩
    · exact Or.inl ⟨rfl, rfl⟩
  | filter i => exact Or.inl ⟨rfl, rfl⟩
  | tuple u => exact Or.inl ⟨rfl, rfl⟩
  | _ => exact hw.elim

/-- A new tuple has no bytes, and its socket keeps the ones it has. -/
theorem KeepsBytes.addTuple (now : Msec) (r : Ref) (e : Endpoint) :
    t.KeepsBytes (t.addTuple now r e) := by
  intro who hw d
  cases who with
  | socket q =>
    refine Or.inl ?_
    simp only [recent, total, CounterTree.addTuple, CounterTree.modifySocket,
      Function.update_apply]
    split
    · rename_i hq
      rw [hq]
      exact ⟨by cases d <;> rfl, by cases d <;> rfl⟩
    · exact ⟨rfl, rfl⟩
  | tuple u =>
    simp only [recent, total, CounterTree.addTuple, CounterTree.modifySocket,
      Function.update_apply]
    split
    · rename_i hu
      exact Or.inr ⟨hu ▸ Nat.lt_irrefl _, by cases d <;> rfl, by cases d <;> rfl⟩
    · exact Or.inl ⟨rfl, rfl⟩
  | filter i => exact Or.inl ⟨rfl, rfl⟩
  | _ => exact hw.elim

end CounterTree

/-- An event leaves the part of the socket item that it shares with the other items alone. -/
theorem toTrafficItem_apply (e : NetEvent) (item : SocketItem) :
    (e.apply item).toTrafficItem = item.toTrafficItem := by
  have hconnect : ∀ protocol userPort address,
      (NetEvent.connect protocol userPort address item).toTrafficItem = item.toTrafficItem := by
    intro protocol userPort address
    unfold NetEvent.connect
    split <;> rfl
  cases e with
  | socketConnect4 => exact hconnect _ _ _
  | socketConnect6 => exact hconnect _ _ _
  | _ => rfl

/-! ## The books -/

/-- What a counter shows when it is reported as removed, and what has happened to it. -/
structure Removal where
  counter : CounterId
  total : PacketDirection → WBytes
  entries : PacketDirection → List Account.Entry

/-- The listener's state. -/
structure Books where
  /-- The calls on a counter, as entries of its account for a direction. -/
  entries : CounterId → PacketDirection → List Account.Entry := fun _ _ => []
  /-- The bytes passed to `UpdateFilterStats` for a filter and to `UpdateAppStats` for a socket. -/
  reported : CounterId → PacketDirection → WBytes := fun _ _ => 0
  removals : List Removal := []

namespace Books

/-- Write down a call. -/
def enter (who : CounterId) (es : PacketDirection → List Account.Entry) (b : Books) : Books :=
  { b with entries := fun q d => if q = who then b.entries q d ++ es d else b.entries q d }

/-- Write down what the statistics get. -/
def report (who : CounterId) (bytes : PacketDirection → WBytes) (b : Books) : Books :=
  { b with reported := fun q d => if q = who then b.reported q d + bytes d else b.reported q d }

/-- Write down a removal. -/
def remove (who : CounterId) (t : CounterTree) (b : Books) : Books :=
  { b with removals := b.removals ++ [⟨who, fun d => t.total d who, b.entries who⟩] }

/-- Download and upload by direction. -/
def byDirection (download upload : WBytes) : PacketDirection → WBytes
  | .incoming => download
  | .outgoing => upload

/-- The listener. -/
def keep : Handler Books := fun n t b =>
  match n with
  | .call who c => b.enter who fun d => t.entry d who c
  | .updateFilterStats i _ download upload => b.report (.filter i) (byDirection download upload)
  | .updateAppStats r _ _ _ download upload => b.report (.socket r) (byDirection download upload)
  | .onSocketRemoved r => b.remove (.socket r) t
  | .onUDPTupleRemoved u => b.remove (.tuple u) t
  | _ => b

end Books

namespace SystemMap

open Books (keep)

/-- The accounts match the counters. No reference below `n` is given out again. -/
structure Entered (n : Ref) (s : SystemMap Books) : Prop where
  recent : ∀ who, who.Tracked → ∀ d,
    s.toCounterTree.recent d who = Account.pending 0 (s.listeners.entries who d)
  total : ∀ who, who.Tracked → ∀ d,
    s.toCounterTree.total d who = Account.settled 0 (s.listeners.entries who d)
  fresh : ∀ r, s.nextItemId ≤ r → ∀ d,
    s.listeners.entries (.socket r) d = [] ∧ s.listeners.entries (.tuple r) d = []
  removals : ∀ x ∈ s.listeners.removals, ∀ d, x.total d = Account.settled 0 (x.entries d)
  older : s.shape.Older
  next : n ≤ s.nextItemId

/-- The invariant. -/
structure Kept (n : Ref) (s : SystemMap Books) : Prop extends Entered n s where
  reported : ∀ who, who.IsReported → ∀ d,
    s.listeners.reported who d = Account.readOff 0 (s.listeners.entries who d)

variable {n : Ref} {s : SystemMap Books}

/-- A call is entered. -/
theorem Entered.call (hs : Entered n s) {who : CounterId} (hw : who.Allocated n)
    (c : CounterCall) : Entered n (call keep who c s) := by
  have hnext : (SystemMap.call keep who c s).nextItemId = s.nextItemId :=
    congrArg TreeShape.next (shape_call keep who c s)
  refine ⟨?_, ?_, ?_, hs.removals, ?_, hnext ▸ hs.next⟩
  · intro q hq d
    simp only [SystemMap.call, notify, keep, Books.enter, CounterTree.recent_applyCall]
    split
    · rename_i hqw
      subst hqw
      rw [Account.pending_append, ← hs.recent q hq d]
    · exact hs.recent q hq d
  · intro q hq d
    simp only [SystemMap.call, notify, keep, Books.enter, CounterTree.total_applyCall]
    split
    · rename_i hqw
      subst hqw
      rw [Account.settled_append, ← hs.recent q hq d, ← hs.total q hq d]
    · exact hs.total q hq d
  · intro r hr d
    rw [hnext] at hr
    simp only [SystemMap.call, notify, keep, Books.enter]
    have hlt : ¬ r < n := Nat.not_lt.mpr (hs.next.trans hr)
    have hne : ∀ q, ¬ q.Allocated n → q ≠ who := fun q hq he => hq (he ▸ hw)
    rw [if_neg (hne (.socket r) hlt), if_neg (hne (.tuple r) hlt)]
    exact hs.fresh r hr d
  · rw [shape_call]
    exact hs.older

namespace Kept

/-! ### Notices and calls -/

/-- The notices that are not written down. -/
theorem unheard (hs : Kept n s) {notice : Notice}
    (hk : keep notice s.toCounterTree s.listeners = s.listeners) : Kept n (notify keep notice s) := by
  have heq : notify keep notice s = s := by
    unfold notify
    rw [hk]
  rw [heq]
  exact hs

/-- A removal is written down with the totals of the counter. -/
theorem removed (hs : Kept n s) (notice : Notice) (who : CounterId) (hw : who.Tracked)
    (hk : keep notice s.toCounterTree s.listeners = s.listeners.remove who s.toCounterTree) :
    Kept n (notify keep notice s) := by
  refine ⟨⟨?_, ?_, ?_, ?_, hs.older, hs.next⟩, ?_⟩ <;>
    simp only [notify, hk, Books.remove]
  · exact hs.recent
  · exact hs.total
  · exact hs.fresh
  · intro x hx
    rcases List.mem_append.mp hx with hx | hx
    · exact hs.removals x hx
    · rw [List.mem_singleton.mp hx]
      exact fun d => hs.total who hw d
  · exact hs.reported

theorem recorded (hs : Kept n s) (f : Bool → MapUpdate → MapUpdate) : Kept n (record f s) :=
  { hs with }

/-- A call the statistics do not hear about, at which nothing is read off. -/
theorem called (hs : Kept n s) {who : CounterId} (hw : who.Allocated n) {c : CounterCall}
    (hc : who.IsReported → ∀ d, Account.readOff (s.toCounterTree.recent d who)
      (s.toCounterTree.entry d who c) = 0) : Kept n (call keep who c s) := by
  refine ⟨hs.toEntered.call hw c, fun q hq d => ?_⟩
  simp only [call, notify, keep, Books.enter]
  split
  · rename_i hqw
    subst hqw
    rw [Account.readOff_append, ← hs.recent q hq.tracked d, hc hq d, Nat.add_zero]
    exact hs.reported q hq d
  · exact hs.reported q hq d

/-- A push or a mark reads nothing off. -/
theorem called_of_not_refresh (hs : Kept n s) {who : CounterId} (hw : who.Allocated n)
    {c : CounterCall} (hc : ∀ now, c ≠ .refresh now) : Kept n (call keep who c s) := by
  refine hs.called hw fun hrep d => ?_
  cases who with
  | socket r => cases c <;> first | rfl | exact absurd rfl (hc _)
  | filter i =>
    simp only [CounterTree.entry]
    cases s.filterCounters[i]? with
    | none => rfl
    | some f => cases c <;> first | rfl | exact absurd rfl (hc _)
  | _ => exact hrep.elim

theorem pushed (hs : Kept n s) (who : CounterId) (hw : who.Allocated n) (d : PacketDirection)
    (bytes : WBytes) : Kept n (call keep who (pushCall d bytes) s) :=
  hs.called_of_not_refresh hw fun now => by cases d <;> simp [pushCall]

theorem marked (hs : Kept n s) (who : CounterId) (hw : who.Allocated n) (now : Msec) :
    Kept n (call keep who (.markForRemoval now) s) :=
  hs.called_of_not_refresh hw fun _ => nofun

/-- A refresh of a counter the statistics do not hear about. -/
theorem refreshed (hs : Kept n s) (who : CounterId) (hw : who.Allocated n)
    (hr : ¬ who.IsReported) (now : Msec) : Kept n (call keep who (.refresh now) s) :=
  hs.called hw fun hrep => absurd hrep hr

/-- A refresh right after the statistics got the recent bytes. -/
theorem reportedRefresh (hs : Kept n s) (notice : Notice) (who : CounterId)
    {bytes : PacketDirection → WBytes} (hw : who.Allocated n) (now : Msec)
    (hk : keep notice s.toCounterTree s.listeners = s.listeners.report who bytes)
    (hbytes : ∀ d, bytes d = s.toCounterTree.recent d who)
    (htick : ∀ d, Account.readOff (s.toCounterTree.recent d who)
      (s.toCounterTree.entry d who (.refresh now)) = s.toCounterTree.recent d who) :
    Kept n (call keep who (.refresh now) (notify keep notice s)) := by
  have h1 : Entered n (notify keep notice s) := by
    refine ⟨?_, ?_, ?_, ?_, hs.older, hs.next⟩ <;> simp only [notify, hk, Books.report]
    · exact hs.recent
    · exact hs.total
    · exact hs.fresh
    · exact hs.removals
  have hlisteners : (call keep who (.refresh now) (notify keep notice s)).listeners =
      (s.listeners.report who bytes).enter who fun d =>
        s.toCounterTree.entry d who (.refresh now) := by
    rw [← hk]
    rfl
  refine ⟨h1.call hw _, fun q hq d => ?_⟩
  rw [hlisteners]
  simp only [Books.enter, Books.report]
  split
  · rename_i hqw
    subst hqw
    rw [Account.readOff_append, ← hs.recent q hq.tracked d, htick d, hbytes d,
      hs.reported q hq d]
  · exact hs.reported q hq d

/-! ### Changes -/

/-- The changes of the tree that leave the bytes alone. -/
theorem changed (hs : Kept n s) {f : CounterTree → CounterTree}
    (hf : s.toCounterTree.KeepsBytes (f s.toCounterTree))
    (hn : s.nextItemId ≤ (f s.toCounterTree).nextItemId)
    (ho : (f s.toCounterTree).shape.Older) : Kept n (modify f s) := by
  -- nothing was written down for a counter that is new
  have hnew : ∀ who : CounterId, ¬ who.Allocated s.nextItemId → ∀ d,
      s.listeners.entries who d = [] := by
    intro who hw d
    cases who with
    | socket r => exact (hs.fresh r (Nat.not_lt.mp hw) d).1
    | tuple u => exact (hs.fresh u (Nat.not_lt.mp hw) d).2
    | _ => exact absurd trivial hw
  refine ⟨⟨fun who hw d => ?_, fun who hw d => ?_, fun r hr => hs.fresh r (hn.trans hr),
    hs.removals, ho, hs.next.trans hn⟩, hs.reported⟩
  · rcases hf who hw d with ⟨h1, _⟩ | ⟨h0, h1, _⟩
    · exact h1.trans (hs.recent who hw d)
    · simp only [modify, hnew who h0 d]
      exact h1
  · rcases hf who hw d with ⟨_, h1⟩ | ⟨h0, _, h1⟩
    · exact h1.trans (hs.total who hw d)
    · simp only [modify, hnew who h0 d]
      exact h1

/-- The changes that leave the filters, the sockets, the tuples and the ids alone. -/
theorem changed_of_eq (hs : Kept n s) {f : CounterTree → CounterTree}
    (hf : (f s.toCounterTree).filterCounters = s.filterCounters)
    (hr : (f s.toCounterTree).socket = s.socket) (hu : (f s.toCounterTree).tuple = s.tuple)
    (hn : s.nextItemId ≤ (f s.toCounterTree).nextItemId)
    (hsocks : ∀ c r, (f s.toCounterTree).sockets.lookup c = some r →
      s.sockets.lookup c = some r)
    (horphans : ∀ e r, (f s.toCounterTree).orphanedSockets.lookup e = some r →
      s.orphanedSockets.lookup e = some r) : Kept n (modify f s) := by
  refine hs.changed (CounterTree.KeepsBytes.of_eq _ hf hr hu) hn ?_
  refine hs.older.of_le hn hsocks horphans (fun r e u h => ?_) ?_
  · simp only [CounterTree.shape, hr] at h
    exact h
  · simp only [CounterTree.shape, hr]
    rfl

/-- An edit of a socket item that leaves its keys and the part it shares with other items alone. -/
theorem edited (hs : Kept n s) {r : Ref} {f : SocketItem → SocketItem}
    (hf : (f (s.socket r).trafficItem).toTrafficItem = (s.socket r).trafficItem.toTrafficItem)
    (hk : s.toCounterTree.KeepsSocketKeys r f) : Kept n (modify (·.editSocket r f) s) := by
  refine hs.changed (CounterTree.KeepsBytes.editSocket _ hf) (Nat.le_refl _) ?_
  rw [CounterTree.shape_editSocket _ hk]
  exact hs.older

/-- The changes that add a socket or a tuple. -/
theorem addSocket (hs : Kept n s) (now : Msec) (c : SocketCookie) (p : Ref) :
    Kept n (modify (·.addSocket now c p) s) := by
  refine hs.changed (CounterTree.KeepsBytes.addSocket _ now c p) (Nat.le_succ _) ?_
  rw [CounterTree.shape_addSocket]
  exact hs.older.addSocket c p

theorem addTuple (hs : Kept n s) (now : Msec) (r : Ref) (e : Endpoint) :
    Kept n (modify (·.addTuple now r e) s) := by
  refine hs.changed (CounterTree.KeepsBytes.addTuple _ now r e) (Nat.le_succ _) ?_
  rw [CounterTree.shape_addTuple]
  exact hs.older.addTuple r e

/-- A loop whose turns keep the books. -/
theorem loop {α : Type} {f : SystemMap Books → α → SystemMap Books} :
    ∀ (l : List α) {s : SystemMap Books}, (∀ s, ∀ a ∈ l, Kept n s → Kept n (f s a)) → Kept n s →
      Kept n (l.foldl f s)
  | [], _, _, hs => hs
  | a :: l, s, hf, hs => loop l (fun s b hb => hf s b (List.mem_cons_of_mem _ hb))
      (hf s a List.mem_cons_self hs)

/-! ### Mapping -/

theorem findOrMapApplication (hs : Kept n s) (o : IterOrder) (now : Msec)
    (exePath commandLine appName : String) :
    Kept n (findOrMapApplication keep o now exePath commandLine appName s).2 := by
  unfold SystemMap.findOrMapApplication
  simp only
  split
  · exact hs
  · split
    · exact hs
    · refine unheard (changed_of_eq hs ?_ ?_ ?_ ?_ ?_ ?_) rfl
      · rfl
      · rfl
      · rfl
      · exact Nat.le_refl _
      · exact fun _ _ => id
      · exact fun _ _ => id
    · refine unheard (changed_of_eq hs ?_ ?_ ?_ ?_ ?_ ?_) rfl
      · rfl
      · rfl
      · rfl
      · exact Nat.le_succ _
      · exact fun _ _ => id
      · exact fun _ _ => id

theorem findOrMapProcess (hs : Kept n s) (now : Msec) (pid : ProcessId) (a : Ref) :
    Kept n (findOrMapProcess keep now pid a s).2 := by
  unfold SystemMap.findOrMapProcess
  split
  · exact hs
  · exact (hs.changed_of_eq rfl rfl rfl (Nat.le_succ _) (fun _ _ => id) fun _ _ => id).unheard rfl

theorem findOrMapSocket (hs : Kept n s) (now : Msec) (cookie : SocketCookie) (p : Ref) :
    Kept n (findOrMapSocket now cookie p s).2 := by
  unfold SystemMap.findOrMapSocket
  split
  · exact hs
  · exact (hs.addSocket now cookie p).recorded
      fun track => MapUpdate.addSocketAddition track s.nextItemId

theorem mapNewSocket (hs : Kept n s) (env : MapEnv) (cookie : SocketCookie) (pid : ProcessId) :
    Kept n (mapNewSocket keep env cookie pid s).2 := by
  unfold SystemMap.mapNewSocket
  exact ((hs.findOrMapApplication _ _ _ _ _).findOrMapProcess _ _ _).findOrMapSocket _ _ _

theorem mapSocket (hs : Kept n s) (env : MapEnv) (cookie : SocketCookie) (established : Bool)
    (pid : ProcessId) (silentFail : Bool) :
    Kept n (mapSocket keep env cookie established pid silentFail s).2 := by
  unfold SystemMap.mapSocket
  split
  · exact hs
  · split
    · split <;> exact hs
    · split
      · exact hs
      · exact hs.mapNewSocket env cookie pid

theorem addExistingSockets (hs : Kept n s) (env : MapEnv) (isProcessRunning : ProcessId → Bool)
    (infos : List ListenSocketInfo) :
    Kept n (addExistingSockets keep env isProcessRunning infos s) := by
  have hturn : ∀ (acc : SocketCookie × SystemMap Books) (info : ListenSocketInfo), Kept n acc.2 →
      Kept n (addExistingSocket keep env isProcessRunning acc info).2 := by
    intro acc info hacc
    unfold addExistingSocket
    split
    · exact hacc
    · have h1 := hacc.mapSocket env acc.1 false info.pid false
      simp only
      split
      · exact h1
      · exact h1.edited rfl ⟨rfl, rfl, rfl⟩
  have hloop : ∀ (l : List ListenSocketInfo) (acc : SocketCookie × SystemMap Books),
      Kept n acc.2 → Kept n (l.foldl (addExistingSocket keep env isProcessRunning) acc).2 := by
    intro l
    induction l with
    | nil => exact fun acc hacc => hacc
    | cons info l ih => exact fun acc hacc => ih _ (hturn acc info hacc)
  exact hloop infos _ hs

theorem processInitialApps (hs : Kept n s) (o : IterOrder) :
    Kept n (processInitialApps keep o s) :=
  loop _ (fun _ _ _ hk => hk.unheard rfl) hs

/-! ### Events and traffic -/

theorem processSocketEvent (hs : Kept n s) (e : NetEvent) (r : Ref) :
    Kept n (processSocketEvent keep e r s) := by
  have h1 : Kept n (modify (·.editSocket r e.apply) s) :=
    hs.edited (toTrafficItem_apply e _) (apply_keys e _)
  unfold SystemMap.processSocketEvent
  simp only
  split
  · split
    · exact h1.unheard rfl
    · exact (h1.unheard rfl).recorded _
  · split
    · exact h1
    · exact h1.recorded _

theorem pushFilters (hs : Kept n s) (d : PacketDirection) (bytes : WBytes) (remote : Endpoint) :
    Kept n (pushFilters keep d bytes remote s) := by
  unfold SystemMap.pushFilters
  refine loop _ (fun s i _ hk => ?_) hs
  split
  · exact hk.pushed (.filter i) trivial d bytes
  · exact hk

theorem pushTrafficForSocket (hs : Kept n s) (d : PacketDirection) (bytes : WBytes) {r : Ref}
    (hr : r < n) : Kept n (pushTrafficForSocket keep d bytes r s) := by
  unfold SystemMap.pushTrafficForSocket
  simp only
  refine edited (pushFilters (pushed (pushed (pushed hs (.socket r) hr d bytes) (.process _) trivial
    d bytes) (.app _) trivial d bytes) d bytes _) rfl ⟨rfl, rfl, rfl⟩

theorem mono {m : Ref} (hs : Kept n s) (hm : m ≤ n) : Kept m s :=
  { hs with next := hm.trans hs.next }

/-- What the maps refer to is older than the next reference, so it can be called. -/
theorem top (hs : Kept n s) : Kept s.nextItemId s := { hs with next := Nat.le_refl _ }

theorem getOrCreateUDPTupleCounter (hs : Kept n s) (now : Msec) (r : Ref) (e : Endpoint) :
    let out := getOrCreateUDPTupleCounter keep now r e s
    Kept n out.2 ∧ out.1 < out.2.nextItemId := by
  unfold SystemMap.getOrCreateUDPTupleCounter
  simp only
  split
  · rename_i u hu
    exact ⟨hs, hs.older.tuple r e u hu⟩
  · exact ⟨(hs.addTuple now r e).unheard rfl, Nat.lt_succ_self _⟩

theorem pushTuple (hs : Kept n s) (now : Msec) (d : PacketDirection) (bytes : WBytes)
    (remote : Endpoint) (r : Ref) : Kept n (pushTuple keep now d bytes remote r s) := by
  obtain ⟨h1, hlt⟩ := hs.getOrCreateUDPTupleCounter now r remote
  unfold SystemMap.pushTuple
  simp only
  generalize SystemMap.getOrCreateUDPTupleCounter keep now r remote s = out at h1 hlt ⊢
  have h2 := (h1.top.pushed (.tuple out.1) hlt d bytes).pushFilters d bytes remote
  have h3 := h2.mono h1.next
  split
  · exact h3
  · exact h3.recorded _

theorem doPacketParsing (hs : Kept n s) (env : TrafficEnv) (d : PacketDirection) (bytes : WBytes)
    (header : Option PacketHeader) (r : Ref) :
    Kept n (doPacketParsing keep env d bytes header r s) := by
  unfold SystemMap.doPacketParsing
  simp only
  split
  · exact hs
  · split
    · exact hs
    · rename_i header
      have h1 : Kept n (modify (·.editSocket r fun _ =>
          (applyPacketHeader env d header (s.socket r).trafficItem).1) s) :=
        hs.edited rfl ⟨rfl, rfl, rfl⟩
      have h2 := h1.pushTuple env.now d bytes (header.remote d) r
      split <;> split
      · exact h2.recorded _
      · exact h1.recorded _
      · exact h2
      · exact h1

/-- The socket that is found or mapped is older than the next reference. -/
theorem mapNewSocket_lt (hs : Kept n s) (env : MapEnv) (cookie : SocketCookie) (pid : ProcessId) :
    (SystemMap.mapNewSocket keep env cookie pid s).1 <
      (SystemMap.mapNewSocket keep env cookie pid s).2.nextItemId := by
  have hp := (hs.findOrMapApplication env.order env.now
    (processIdentity (env.procInfo pid)).1 (processIdentity (env.procInfo pid)).2.1
    (processIdentity (env.procInfo pid)).2.2).findOrMapProcess env.now pid
    (SystemMap.findOrMapApplication keep env.order env.now (processIdentity (env.procInfo pid)).1
      (processIdentity (env.procInfo pid)).2.1 (processIdentity (env.procInfo pid)).2.2 s).1
  unfold SystemMap.mapNewSocket SystemMap.findOrMapSocket
  simp only
  split
  · rename_i r hr
    exact hp.older.socket cookie r hr
  · exact Nat.lt_succ_self _

theorem mapSocket_lt (hs : Kept n s) (env : MapEnv) (cookie : SocketCookie) (established : Bool)
    (pid : ProcessId) (silentFail : Bool) {r : Ref}
    (hr : (SystemMap.mapSocket keep env cookie established pid silentFail s).1 = some r) :
    r < (SystemMap.mapSocket keep env cookie established pid silentFail s).2.nextItemId := by
  unfold SystemMap.mapSocket at hr ⊢
  simp only at hr ⊢
  split
  · rename_i h0
    rw [if_pos h0] at hr
    exact absurd hr (by simp)
  · rename_i h0
    rw [if_neg h0] at hr
    split
    · rename_i h1
      rw [if_pos h1] at hr
      split
      · rename_i h2
        rw [if_pos h2] at hr
        exact hs.older.socket cookie r hr
      · rename_i h2
        rw [if_neg h2] at hr
        exact absurd hr (by simp)
    · rename_i h1
      rw [if_neg h1] at hr
      cases hl : s.sockets.lookup cookie with
      | some q =>
        rw [hl] at hr
        exact hs.older.socket cookie r (hl.trans hr)
      | none =>
        rw [hl] at hr
        rw [← Option.some.inj hr]
        exact hs.mapNewSocket_lt env cookie pid

theorem mapSocketFromTrafficEvent (hs : Kept n s) (env : TrafficEnv) (cookie : SocketCookie)
    (d : PacketDirection) (header : Option PacketHeader) :
    let out := mapSocketFromTrafficEvent keep env cookie d header s
    Kept n out.2 ∧ ∀ r, out.1 = some r → r < out.2.nextItemId := by
  unfold SystemMap.mapSocketFromTrafficEvent
  split
  · exact ⟨hs, fun r hr => absurd hr (by simp)⟩
  · simp only
    split
    · exact ⟨hs, fun r hr => absurd hr (by simp)⟩
    · rename_i header hpid
      have h1 := hs.mapSocket env.toMapEnv cookie false (env.endpointPID (header.local d)) false
      split
      · exact ⟨h1, fun r hr => absurd hr (by simp)⟩
      · rename_i r hr
        refine ⟨h1.edited rfl ⟨rfl, rfl, rfl⟩, fun q hq => ?_⟩
        exact hs.mapSocket_lt env.toMapEnv cookie false _ false (hr.trans hq)

theorem pushTraffic (hs : Kept n s) (env : TrafficEnv) (d : PacketDirection) (bytes : WBytes)
    (header : Option PacketHeader) {r : Ref} (hr : r < s.nextItemId) :
    Kept n (SystemMap.doPacketParsing keep env d bytes header r
      (SystemMap.pushTrafficForSocket keep d bytes r s)) :=
  ((hs.top.pushTrafficForSocket d bytes hr).doPacketParsing env d bytes header r).mono hs.next

theorem pushIncomingTraffic (hs : Kept n s) (env : TrafficEnv) (cookie : SocketCookie)
    (bytes : WBytes) (header : Option PacketHeader) :
    Kept n (pushIncomingTraffic keep env cookie bytes header s) := by
  have h1 : Kept n (call keep .system (.pushIncomingTraffic bytes) s) :=
    hs.pushed .system trivial .incoming bytes
  unfold SystemMap.pushIncomingTraffic
  simp only
  split
  · exact h1
  · rename_i r hr
    exact h1.pushTraffic env .incoming bytes header (h1.older.socket cookie r hr)

theorem pushOutgoingTraffic (hs : Kept n s) (env : TrafficEnv) (cookie : SocketCookie)
    (bytes : WBytes) (header : Option PacketHeader) :
    Kept n (pushOutgoingTraffic keep env cookie bytes header s) := by
  have h1 : Kept n (call keep .system (.pushOutgoingTraffic bytes) s) :=
    hs.pushed .system trivial .outgoing bytes
  unfold SystemMap.pushOutgoingTraffic
  simp only
  generalize call keep .system (.pushOutgoingTraffic bytes) s = s1 at h1 ⊢
  cases hl : s1.sockets.lookup cookie with
  | some r => exact h1.pushTraffic env .outgoing bytes header (h1.older.socket cookie r hl)
  | none =>
    obtain ⟨h2, h3⟩ := h1.mapSocketFromTrafficEvent env cookie .outgoing header
    simp only
    split
    · exact h2
    · rename_i r hr
      exact h2.pushTraffic env .outgoing bytes header (h3 r hr)

theorem closeSocket (hs : Kept n s) (now : Msec) {r : Ref} (hr : r < n) :
    Kept n (closeSocket keep now r s) := by
  unfold SystemMap.closeSocket
  simp only
  have h1 : Kept n (modify (·.editSocket r fun item => { item with connectionState := .closed })
      (call keep (.socket r) (.markForRemoval now) s)) :=
    (hs.marked (.socket r) hr now).edited rfl ⟨rfl, rfl, rfl⟩
  exact (((h1.recorded _).pushed (.process _) trivial .incoming 0).pushed (.app _) trivial
    .outgoing 0).pushed .system trivial .incoming 0

theorem markSocketForRemoval (hs : Kept n s) (o : IterOrder) (now : Msec) (cookie : SocketCookie)
    (localPort : UInt32) : Kept n (markSocketForRemoval keep o now cookie localPort s) := by
  unfold SystemMap.markSocketForRemoval
  split
  · exact hs
  · rename_i r hr
    have hlt : r < s.nextItemId := hs.older.socket cookie r hr
    refine mono (closeSocket ?_ now hlt) hs.next
    split
    · split
      · rename_i q hq
        obtain ⟨c, hc⟩ := (o.mem_values _ q).mp (List.mem_of_find?_eq_some hq)
        exact hs.top.closeSocket now (hs.older.socket c q hc)
      · exact hs.top
    · exact hs.top

/-! ### Refresh -/

theorem refreshFilter (hs : Kept n s) (env : TickEnv) (i : Nat) :
    Kept n (refreshFilter keep env s i) := by
  unfold SystemMap.refreshFilter
  split
  · exact hs
  · rename_i f hf
    refine hs.reportedRefresh _ (.filter i) trivial _ rfl (fun d => ?_) fun d => ?_
    · cases d <;> simp only [CounterTree.recent, hf] <;> rfl
    · simp only [CounterTree.entry, hf]
      rfl

theorem refreshTuple (hs : Kept n s) (env : TickEnv) {u : Ref} (hu : u < n) :
    Kept n (refreshTuple keep env s u) := by
  have h1 := hs.refreshed (.tuple u) hu id (env.refreshTime (.tuple u))
  unfold SystemMap.refreshTuple
  simp only
  split
  · exact h1.marked (.tuple u) hu _
  · exact h1

theorem refreshSocket (hs : Kept n s) (env : TickEnv) {r : Ref} (hr : r < n) :
    Kept n (refreshSocket keep env s r) := by
  unfold SystemMap.refreshSocket
  simp only
  have h1 := hs.reportedRefresh
    (.updateAppStats r (s.app (s.process (s.socket r).parentProcess).parentApp).trafficItem.itemId
      (s.app (s.process (s.socket r).parentProcess).parentApp).trafficItem.applicationPath
      (s.socket r).trafficItem.socketTuple.remoteEndpoint.address (s.socket r).recentDownload
      (s.socket r).recentUpload)
    (.socket r) hr (env.refreshTime (.socket r)) rfl (fun d => by cases d <;> rfl) fun _ => rfl
  refine mono (loop _ (fun s' u hu hk => hk.refreshTuple env ?_) h1.top) h1.next
  obtain ⟨e, he⟩ := (env.order.mem_values _ u).mp hu
  exact h1.older.tuple r e u he

/-- The loop over the sockets in the maps. -/
theorem refreshSockets (hs : Kept n s) (env : TickEnv) :
    Kept n ((env.order.values s.sockets).foldl (SystemMap.refreshSocket keep env) s) := by
  refine mono (loop _ (fun s' r hr hk => hk.refreshSocket env ?_) hs.top) hs.next
  obtain ⟨c, hc⟩ := (env.order.mem_values _ r).mp hr
  exact hs.older.socket c r hc

theorem refreshCounters (hs : Kept n s) (env : TickEnv) : Kept n (refreshCounters keep env s) := by
  unfold SystemMap.refreshCounters
  simp only
  have h1 := hs.refreshed .system trivial id (env.refreshTime .system)
  refine refreshSockets (loop _ (fun s p _ hk => ?_) (loop _ (fun s a _ hk => ?_)
    (loop _ (fun s i _ hk => hk.refreshFilter env i) h1))) env
  · exact hk.refreshed (.process p) trivial id _
  · exact hk.refreshed (.app a) trivial id _

/-! ### Cleanup -/

/-- The erasures that leave the filters, the sockets, the tuples and the ids alone. -/
theorem erasedTrafficItem (hs : Kept n s) (i : TrafficItemId) :
    Kept n (modify (·.eraseTrafficItem i) s) :=
  hs.changed_of_eq rfl rfl rfl (Nat.le_refl _) (fun _ _ => id) fun _ _ => id

theorem erasedSocket (hs : Kept n s) (c : SocketCookie) : Kept n (modify (·.eraseSocket c) s) := by
  refine hs.changed (CounterTree.KeepsBytes.of_eq _ rfl rfl rfl) (Nat.le_refl _) ?_
  rw [CounterTree.shape_eraseSocket]
  exact hs.older.eraseSocket c

theorem clearedTupleCounters (hs : Kept n s) (r : Ref) :
    Kept n (modify (·.clearTupleCounters r) s) := by
  refine hs.changed (CounterTree.KeepsBytes.modifySocket _ (fun _ => rfl) fun _ => rfl)
    (Nat.le_refl _) ?_
  rw [CounterTree.shape_clearTupleCounters]
  exact hs.older.clearTupleCounters r

theorem clearedTupleItems (hs : Kept n s) (r : Ref) :
    Kept n (modify (·.clearTupleItems r) s) := by
  refine hs.changed (CounterTree.KeepsBytes.editSocket _ rfl) (Nat.le_refl _) ?_
  rw [CounterTree.shape_clearTupleItems]
  exact hs.older.of_le (Nat.le_refl _) (fun _ _ => id) (fun _ _ => id) (fun _ _ _ => id) rfl

theorem erasedTuple (hs : Kept n s) (r : Ref) (e : Endpoint) :
    Kept n (modify (·.eraseTuple r e) s) := by
  refine hs.changed (CounterTree.KeepsBytes.modifySocket _ (fun d => by cases d <;> rfl)
    fun d => by cases d <;> rfl) (Nat.le_refl _) ?_
  rw [CounterTree.shape_eraseTuple]
  exact hs.older.eraseTuple r e

theorem orphaned (hs : Kept n s) (e : Endpoint) {r : Ref} (hr : r < s.nextItemId) :
    Kept n (modify (·.orphan e r) s) := by
  refine hs.changed (CounterTree.KeepsBytes.of_eq _ rfl rfl rfl) (Nat.le_refl _) ?_
  rw [CounterTree.shape_orphan]
  exact hs.older.orphanSocket hr e

theorem dropProcessTuple (hs : Kept n s) (u : Ref) : Kept n (dropProcessTuple keep s u) := by
  unfold SystemMap.dropProcessTuple
  exact ((hs.erasedTrafficItem _).recorded _).removed (.onUDPTupleRemoved u) (.tuple u) trivial rfl

theorem dropProcessCounter (env : TickEnv) {acc : List Endpoint × SystemMap Books}
    (hs : Kept n acc.2) (r : Ref) {counter : Ref} (hr : counter < acc.2.nextItemId) :
    Kept n (dropProcessCounter keep env r counter acc).2 := by
  unfold SystemMap.dropProcessCounter
  simp only
  refine removed (clearedTupleCounters (loop _ (fun s u _ hk => hk.dropProcessTuple u) ?_)
    counter) (.onSocketRemoved counter) (.socket counter) trivial rfl
  split
  · exact hs.orphaned _ hr
  · exact hs

theorem dropProcessSocket (env : TickEnv) {acc : List Endpoint × SystemMap Books}
    (hs : Kept n acc.2) (entry : SocketCookie × Ref) :
    Kept n (dropProcessSocket keep env acc entry).2 := by
  unfold SystemMap.dropProcessSocket
  simp only
  have h1 : Kept n (addItemRemoval (acc.2.socket entry.2).trafficItem.itemId
      (modify (·.eraseTrafficItem (acc.2.socket entry.2).trafficItem.itemId) acc.2)) :=
    (hs.erasedTrafficItem _).recorded _
  refine erasedSocket (clearedTupleItems ?_ entry.2) entry.1
  split
  · rename_i counter hc
    exact dropProcessCounter env h1 entry.2 (h1.older.socket _ _ hc)
  · exact h1

theorem removeProcess (hs : Kept n s) (env : TickEnv) (pid : ProcessId) (p : Ref) :
    Kept n (removeProcess keep env pid p s) := by
  have hloop : ∀ (l : List (SocketCookie × Ref)) (acc : List Endpoint × SystemMap Books),
      Kept n acc.2 → Kept n (l.foldl (SystemMap.dropProcessSocket keep env) acc).2 := by
    intro l
    induction l with
    | nil => exact fun acc hacc => hacc
    | cons e l ih => exact fun acc hacc => ih _ (dropProcessSocket env hacc e)
  unfold SystemMap.removeProcess
  simp only
  have h1 := (hs.pushed .system trivial .incoming 0).pushed (.app (s.process p).parentApp) trivial
    .incoming 0
  refine changed_of_eq (erasedTrafficItem (recorded (changed_of_eq (unheard (unheard
    (hloop _ _ h1) rfl) rfl) ?_ ?_ ?_ ?_ ?_ ?_) _) _) ?_ ?_ ?_ ?_ ?_ ?_
  all_goals first | rfl | exact Nat.le_refl _ | exact fun _ _ => id

theorem cleanupProcess (hs : Kept n s) (env : TickEnv) (entry : ProcessId × Ref) :
    Kept n (cleanupProcess keep env s entry) := by
  have hmark : Kept n (if !env.isProcessRunning entry.1 ∧
      !(s.process entry.2).isMarkedForRemoval then
        markItemForRemoval (s.process entry.2).trafficItem.itemId
          (call keep (.process entry.2) (.markForRemoval (env.cleanupTime (.process entry.2))) s)
      else s) := by
    split
    · exact (hs.marked (.process entry.2) trivial _).recorded _
    · exact hs
  unfold SystemMap.cleanupProcess
  simp only
  generalize (if !env.isProcessRunning entry.1 ∧ !(s.process entry.2).isMarkedForRemoval then
        markItemForRemoval (s.process entry.2).trafficItem.itemId
          (call keep (.process entry.2) (.markForRemoval (env.cleanupTime (.process entry.2))) s)
      else s) = s1 at hmark ⊢
  split
  · exact hmark.removeProcess env _ _
  · exact hmark

theorem dropSocketTuple (hs : Kept n s) (u : Ref) : Kept n (dropSocketTuple s u) := by
  unfold SystemMap.dropSocketTuple
  exact (hs.erasedTrafficItem _).recorded _

theorem removeSocket (hs : Kept n s) (env : TickEnv) (c : SocketCookie) (r : Ref) :
    Kept n (removeSocket keep env c r s) := by
  unfold SystemMap.removeSocket
  simp only
  have h1 := hs.removed (.onSocketRemoved r) (.socket r) trivial rfl
  refine erasedSocket (clearedTupleItems (clearedTupleCounters (loop _ (fun s u _ hk => ?_)
    (recorded (erasedTrafficItem (changed_of_eq (loop _ (fun s u _ hk => ?_) h1)
      ?_ ?_ ?_ ?_ ?_ ?_) _) _)) _) _) c
  · exact hk.dropSocketTuple u
  · exact hk.removed (.onUDPTupleRemoved u) (.tuple u) trivial rfl
  all_goals first | rfl | exact Nat.le_refl _ | exact fun _ _ => id

theorem cleanupTuple (hs : Kept n s) (env : TickEnv) (r : Ref) (entry : Endpoint × Ref) :
    Kept n (cleanupTuple keep env r s entry) := by
  unfold SystemMap.cleanupTuple
  simp only
  split
  · exact (((hs.removed (.onUDPTupleRemoved entry.2) (.tuple entry.2) trivial
      rfl).erasedTrafficItem _).recorded _).erasedTuple r entry.1
  · exact hs

theorem cleanupSocket (hs : Kept n s) (env : TickEnv) {entry : SocketCookie × Ref}
    (hr : entry.2 < n) : Kept n (cleanupSocket keep env s entry) := by
  unfold SystemMap.cleanupSocket
  simp only
  split
  · exact hs.removeSocket env _ _
  · refine loop _ (fun s e _ hk => hk.cleanupTuple env entry.2 e) ?_
    split
    · exact hs.marked (.socket entry.2) hr _
    · exact hs

theorem cleanupApp (hs : Kept n s) (entry : String × Ref) : Kept n (cleanupApp s entry) := by
  unfold SystemMap.cleanupApp
  simp only
  split
  · exact ((hs.recorded _).erasedTrafficItem _).changed_of_eq rfl rfl rfl (Nat.le_refl _)
      (fun _ _ => id) fun _ _ => id
  · exact hs

/-- The loop of the cleanup over the sockets in the maps. -/
theorem cleanupSockets (hs : Kept n s) (env : TickEnv) :
    Kept n ((env.order.entries s.sockets).foldl (SystemMap.cleanupSocket keep env) s) := by
  refine mono (loop _ (fun s' e he hk => hk.cleanupSocket env ?_) hs.top) hs.next
  exact hs.older.socket e.1 e.2 (env.order.lookup_of_mem_entries _ e he)

theorem refreshAllTrafficCounters (hs : Kept n s) (env : TickEnv) :
    Kept n (refreshAllTrafficCounters keep env s) := by
  unfold SystemMap.refreshAllTrafficCounters SystemMap.cleanup
  simp only
  exact loop _ (fun s e _ hk => hk.cleanupApp e) (cleanupSockets
    (loop _ (fun s e _ hk => hk.cleanupProcess env e) (hs.refreshCounters env)) env)

/-! ### Reparenting and merging -/

theorem reparentAcceptedSocket (hs : Kept n s) {r : Ref} (hr : isSocket r s.toCounterTree) :
    Kept n (reparentAcceptedSocket keep r s) := by
  unfold isSocket at hr
  obtain ⟨h0, hid⟩ := of_decide_eq_true hr
  unfold SystemMap.reparentAcceptedSocket
  simp only
  split
  · exact hs
  · exact (hs.orphaned _ (hs.older.itemId r h0 hid)).unheard rfl

theorem forgotOrphan (hs : Kept n s) (e : Endpoint) : Kept n (modify (·.forgetOrphan e) s) := by
  refine hs.changed (CounterTree.KeepsBytes.of_eq _ rfl rfl rfl) (Nat.le_refl _) ?_
  rw [CounterTree.shape_forgetOrphan]
  exact hs.older.forgetOrphan e

theorem attachedSocket (hs : Kept n s) {r : Ref} (hr : r < s.nextItemId) (p : Ref) :
    Kept n (modify (·.attachSocket r p) s) := by
  have hb := CounterTree.KeepsBytes.modifySocket s.toCounterTree (r := r)
    (f := fun q => { q with parentProcess := p }) (fun d => by cases d <;> rfl)
    fun d => by cases d <;> rfl
  refine hs.changed (hb.trans_eq _ rfl rfl rfl) (Nat.le_refl _) ?_
  rw [CounterTree.shape_attachSocket]
  exact hs.older.attachSocket hr p

theorem reparentOrphanedSocket (hs : Kept n s) (now : Msec) (e : Endpoint) (pid : ProcessId) :
    Kept n (reparentOrphanedSocket keep now e pid s) := by
  unfold SystemMap.reparentOrphanedSocket
  split
  · exact hs
  · rename_i r hr
    have hlt : r < s.nextItemId := hs.older.orphan e r hr
    simp only
    split
    · exact hs.forgotOrphan e
    · refine recorded (forgotOrphan ?_ e) _
      have h1 : ∀ {s' : SystemMap Books} (a : Ref), Kept s.nextItemId s' → Kept s.nextItemId
          (modify (·.attachSocket r (SystemMap.findOrMapProcess keep now pid a s').1)
            (SystemMap.findOrMapProcess keep now pid a s').2) := by
        intro s' a hk
        have h2 := hk.findOrMapProcess now pid a
        exact h2.attachedSocket (Nat.lt_of_lt_of_le hlt h2.next) _
      refine mono (h1 _ ?_) hs.next
      split
      · exact hs.top
      · refine unheard (changed_of_eq hs.top ?_ ?_ ?_ ?_ ?_ ?_) rfl
        all_goals first | rfl | exact Nat.le_refl _ | exact fun _ _ => id

theorem mergeSyntheticSocket (hs : Kept n s) (o : IterOrder) (r : Ref) :
    Kept n (mergeSyntheticSocket keep o r s) := by
  unfold SystemMap.mergeSyntheticSocket
  simp only
  split
  · exact hs
  · split
    · exact hs
    · rename_i existing he
      have h1 : Kept n (modify (·.editSocket r (transferEndpoint
          (s.socket existing.2).trafficItem.socketTuple)) s) := hs.edited rfl ⟨rfl, rfl, rfl⟩
      have h2 := h1.removed (.onSocketRemoved existing.2) (.socket existing.2)
        trivial rfl
      refine recorded (changed h2 ?_ (Nat.le_refl _) ?_) _
      · exact CounterTree.KeepsBytes.of_eq _ rfl rfl rfl
      · rw [CounterTree.shape_dropSynthetic]
        exact h2.older.dropSynthetic _ existing

/-! ### Runs -/

/-- **One step keeps the books.** -/
theorem step (hs : Kept n s) (op : SystemMapOp) : Kept n (step keep s op) := by
  cases op with
  | mapSocket env cookie established pid silentFail =>
    exact hs.mapSocket env cookie established pid silentFail
  | mapSocketFromTrafficEvent env cookie d header =>
    exact (hs.mapSocketFromTrafficEvent env cookie d header).1
  | addExistingSockets env running infos => exact hs.addExistingSockets env running infos
  | processInitialApps o => exact hs.processInitialApps o
  | processSocketEvent event r =>
    simp only [SystemMap.step]
    split
    · exact hs.processSocketEvent event r
    · exact hs
  | mergeSyntheticSocket o r =>
    simp only [SystemMap.step]
    split
    · exact hs.mergeSyntheticSocket o r
    · exact hs
  | markSocketForRemoval o now cookie localPort =>
    exact hs.markSocketForRemoval o now cookie localPort
  | reparentAcceptedSocket r =>
    simp only [SystemMap.step]
    split
    · rename_i hr
      exact hs.reparentAcceptedSocket hr
    · exact hs
  | reparentOrphanedSocket now endpoint pid => exact hs.reparentOrphanedSocket now endpoint pid
  | pushIncomingTraffic env cookie bytes header =>
    exact hs.pushIncomingTraffic env cookie bytes header
  | pushOutgoingTraffic env cookie bytes header =>
    exact hs.pushOutgoingTraffic env cookie bytes header
  | refreshAllTrafficCounters env => exact hs.refreshAllTrafficCounters env
  | takeItemId =>
    exact hs.changed_of_eq (f := fun t => { t with nextItemId := t.nextItemId + 1 }) rfl rfl rfl
      (Nat.le_succ _) (fun _ _ => id) fun _ _ => id

end Kept

end SystemMap

end Waechter
