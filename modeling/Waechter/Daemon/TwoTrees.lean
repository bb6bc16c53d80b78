import Waechter.Daemon.TreeInvariant
import Waechter.Lib.Run

/-!
# The two trees in lock step

`TwoTrees` says that the maps of `WSystemMap` and the tree of items hold the same things under the
right keys. Every operation keeps the invariant that implies it but two: a merged synthetic socket
leaves the ids of its tuples in `TrafficItems`, and a reparented socket is put into its new process
under its item id, and not back into `TrafficItems`.
-/

namespace Waechter

open Lib

namespace SystemMap

variable {σ : Type} {h : Handler σ}

/-- The invariant between operations. -/
def Inv (s : SystemMap σ) : Prop := s.shape.TreeInv fun _ _ => False

theorem Inv.of_shape {s s' : SystemMap σ} (hs : s.Inv) (he : s'.shape = s.shape) : s'.Inv := by
  unfold Inv
  rw [he]
  exact hs

/-- An edit of a socket that leaves its keys alone. -/
theorem shape_editSocket {r : Ref} {f : SocketItem → SocketItem} {s : SystemMap σ}
    (hf : s.toCounterTree.KeepsSocketKeys r f) :
    (modify (·.editSocket r f) s).shape = s.shape :=
  CounterTree.shape_editSocket s.toCounterTree hf

/-! ### Mapping -/

theorem matchApp_reuse {t : CounterTree} {key appName : String} {e : String × Ref} {a : Ref}
    (hm : matchApp t key appName e = some (.reuse a)) : e.2 = a := by
  unfold matchApp at hm
  simp only at hm
  split at hm
  · simpa using hm
  · split at hm
    · split at hm
      · simpa using hm
      · exact absurd hm (by simp)
    · split at hm <;> exact absurd hm (by simp)

theorem matchApp_upgrade {t : CounterTree} {key appName existingKey : String} {e : String × Ref}
    {a : Ref} (hm : matchApp t key appName e = some (.upgrade existingKey a)) :
    e = (existingKey, a) := by
  unfold matchApp at hm
  simp only at hm
  split at hm
  · exact absurd hm (by simp)
  · split at hm
    · split at hm <;> exact absurd hm (by simp)
    · split at hm
      · simp only [Option.some.injEq, AppMatch.upgrade.injEq] at hm
        exact Prod.ext hm.1 hm.2
      · exact absurd hm (by simp)

theorem matchApp_of_findApplication {o : IterOrder} {key appName : String} {t : CounterTree}
    {found : AppMatch} (h : findApplication o key appName t = some found) :
    ∃ e ∈ o.entries t.applications, matchApp t key appName e = some found := by
  unfold findApplication at h
  split at h
  · exact List.exists_of_findSome?_eq_some h
  · exact absurd h (by simp)

/-- What `FindOrMapApplication` can do. -/
theorem findOrMapApplication_cases (o : IterOrder) (now : Msec)
    (exePath commandLine appName : String) (s : SystemMap σ) :
    let key := applicationKey exePath commandLine appName
    let out := findOrMapApplication h o now exePath commandLine appName s
    (∃ k, s.applications.lookup k = some out.1 ∧ out.2 = s) ∨
    (∃ k, s.applications.lookup k = some out.1 ∧ (s.applications.lookup key = none ∧
      findApplication o key appName s.toCounterTree = some (.upgrade k out.1)) ∧
      out.2 = notify h (.onAppFirstTimeConnected out.1)
        (modify (·.upgradeApp k key commandLine appName out.1) s)) ∨
    (s.applications.lookup key = none ∧ out.1 = s.nextItemId ∧
      out.2 = notify h (.onAppFirstTimeConnected s.nextItemId)
        (modify (·.addApp now key commandLine appName) s)) := by
  intro key out
  simp only [out]
  unfold findOrMapApplication
  simp only
  split
  · rename_i a ha
    exact Or.inl ⟨key, ha, rfl⟩
  · rename_i hnone
    split
    · rename_i a hfound
      obtain ⟨e, he, hm⟩ := matchApp_of_findApplication hfound
      refine Or.inl ⟨e.1, ?_, rfl⟩
      rw [← matchApp_reuse hm]
      exact o.lookup_of_mem_entries _ e he
    · rename_i k a hfound
      obtain ⟨e, he, hm⟩ := matchApp_of_findApplication hfound
      have hlook := o.lookup_of_mem_entries _ e he
      rw [matchApp_upgrade hm] at hlook
      exact Or.inr (Or.inl ⟨k, hlook, ⟨hnone, hfound⟩, rfl⟩)
    · exact Or.inr (Or.inr ⟨hnone, rfl, rfl⟩)

theorem Inv.findOrMapApplication {s : SystemMap σ} (hs : s.Inv) (o : IterOrder) (now : Msec)
    (exePath commandLine appName : String) :
    let out := findOrMapApplication h o now exePath commandLine appName s
    out.2.Inv ∧ ∃ k, out.2.shape.apps k = some out.1 := by
  intro out
  rcases findOrMapApplication_cases (h := h) o now exePath commandLine appName s with
    ⟨k, hk, he⟩ | ⟨k, hk, ⟨hnone, _⟩, he⟩ | ⟨hnone, h1, he⟩
  · refine ⟨he ▸ hs, k, ?_⟩
    rw [show out.2 = s from he]
    exact hk
  · have hshape : out.2.shape =
        s.shape.upgradeApp k (applicationKey exePath commandLine appName) out.1 := by
      rw [show out.2 = _ from he]
      simp [out]
    refine ⟨?_, applicationKey exePath commandLine appName, ?_⟩
    · unfold Inv
      rw [hshape]
      exact TreeShape.TreeInv.upgradeApp hs hk hnone
    · rw [hshape]
      simp [TreeShape.upgradeApp]
  · have hshape : out.2.shape =
        s.shape.addApp (applicationKey exePath commandLine appName) := by
      rw [show out.2 = _ from he]
      simp
    refine ⟨?_, applicationKey exePath commandLine appName, ?_⟩
    · unfold Inv
      rw [hshape]
      exact TreeShape.TreeInv.addApp hs hnone
    · rw [hshape, show out.1 = _ from h1]
      simp [TreeShape.addApp, TreeShape.registerApp, shape, CounterTree.shape]

theorem Inv.findOrMapProcess {s : SystemMap σ} (hs : s.Inv) (now : Msec) (pid : ProcessId)
    {a : Ref} {k : String} (ha : s.shape.apps k = some a) :
    let out := findOrMapProcess h now pid a s
    out.2.Inv ∧ out.2.shape.procs pid = some out.1 := by
  intro out
  simp only [out]
  unfold SystemMap.findOrMapProcess
  split
  · rename_i p hp
    exact ⟨hs, hp⟩
  · rename_i hp
    have hshape : (modify (·.addProcess now pid a) s).shape = s.shape.addProcess pid a := by
      simp
    simp only [Inv, shape_notify, hshape]
    refine ⟨TreeShape.TreeInv.addProcess hs ha hp, ?_⟩
    simp [TreeShape.addProcess, shape, CounterTree.shape]

theorem Inv.findOrMapSocket {s : SystemMap σ} (hs : s.Inv) (now : Msec) (cookie : SocketCookie)
    {p : Ref} {pid : ProcessId} (hp : s.shape.procs pid = some p) :
    let out := findOrMapSocket now cookie p s
    out.2.Inv ∧ out.2.shape.socks cookie = some out.1 := by
  intro out
  simp only [out]
  unfold SystemMap.findOrMapSocket
  split
  · rename_i r hr
    exact ⟨hs, hr⟩
  · rename_i hr
    have hshape : (modify (·.addSocket now cookie p) s).shape = s.shape.addSocket cookie p := by
      simp
    simp only [Inv, shape_addSocketAddition, hshape]
    refine ⟨TreeShape.TreeInv.addSocket hs hp hr, ?_⟩
    simp [TreeShape.addSocket, shape, CounterTree.shape]

theorem Inv.mapNewSocket {s : SystemMap σ} (hs : s.Inv) (env : MapEnv) (cookie : SocketCookie)
    (pid : ProcessId) :
    let out := mapNewSocket h env cookie pid s
    out.2.Inv ∧ out.2.shape.socks cookie = some out.1 := by
  unfold SystemMap.mapNewSocket
  obtain ⟨h1, k, hk⟩ := hs.findOrMapApplication (h := h) env.order env.now
    (processIdentity (env.procInfo pid)).1 (processIdentity (env.procInfo pid)).2.1
    (processIdentity (env.procInfo pid)).2.2
  obtain ⟨h2, hp⟩ := h1.findOrMapProcess (h := h) env.now pid hk
  exact h2.findOrMapSocket env.now cookie hp

theorem Inv.mapSocket {s : SystemMap σ} (hs : s.Inv) (env : MapEnv) (cookie : SocketCookie)
    (established : Bool) (pid : ProcessId) (silentFail : Bool) :
    let out := mapSocket h env cookie established pid silentFail s
    out.2.Inv ∧ ∀ r, out.1 = some r → out.2.shape.socks cookie = some r := by
  unfold SystemMap.mapSocket
  simp only
  split
  · exact ⟨hs, fun r hr => absurd hr (by simp)⟩
  · split
    · split
      · exact ⟨hs, fun r hr => hr⟩
      · exact ⟨hs, fun r hr => absurd hr (by simp)⟩
    · split
      · rename_i r hr
        exact ⟨hs, fun q hq => hr.trans hq⟩
      · obtain ⟨h1, h2⟩ := hs.mapNewSocket (h := h) env cookie pid
        exact ⟨h1, fun r hr => h2.trans hr⟩

theorem Inv.addExistingSockets {s : SystemMap σ} (hs : s.Inv) (env : MapEnv)
    (isProcessRunning : ProcessId → Bool) (infos : List ListenSocketInfo) :
    (addExistingSockets h env isProcessRunning infos s).Inv := by
  have hturn : ∀ (acc : SocketCookie × SystemMap σ) (info : ListenSocketInfo), acc.2.Inv →
      (addExistingSocket h env isProcessRunning acc info).2.Inv := by
    intro acc info hacc
    unfold addExistingSocket
    split
    · exact hacc
    · have h1 := (hacc.mapSocket (h := h) env acc.1 false info.pid false).1
      simp only
      split
      · exact h1
      · exact h1.of_shape (shape_editSocket ⟨rfl, rfl, rfl⟩)
  have hloop : ∀ (l : List ListenSocketInfo) (acc : SocketCookie × SystemMap σ), acc.2.Inv →
      (l.foldl (addExistingSocket h env isProcessRunning) acc).2.Inv := by
    intro l
    induction l with
    | nil => exact fun acc hacc => hacc
    | cons info l ih => exact fun acc hacc => ih _ (hturn acc info hacc)
  exact hloop infos _ hs

/-! ### Events and traffic -/

theorem shape_processSocketEvent (e : NetEvent) (r : Ref) (s : SystemMap σ) :
    (processSocketEvent h e r s).shape = s.shape := by
  have hedit : (modify (·.editSocket r e.apply) s).shape = s.shape :=
    shape_editSocket (apply_keys e _)
  unfold processSocketEvent
  simp only
  split <;> split <;> simp [hedit]

theorem shape_pushFilters (d : PacketDirection) (bytes : WBytes) (remote : Endpoint)
    (s : SystemMap σ) : (pushFilters h d bytes remote s).shape = s.shape := by
  unfold pushFilters
  refine shape_foldl (fun s i => ?_) _ _
  split
  · exact shape_call h _ _ s
  · rfl

theorem shape_pushTrafficForSocket (d : PacketDirection) (bytes : WBytes) (r : Ref)
    (s : SystemMap σ) : (pushTrafficForSocket h d bytes r s).shape = s.shape := by
  unfold pushTrafficForSocket
  simp only
  rw [shape_editSocket ⟨rfl, rfl, rfl⟩, shape_pushFilters]
  simp

theorem shape_closeSocket (now : Msec) (r : Ref) (s : SystemMap σ) :
    (closeSocket h now r s).shape = s.shape := by
  unfold closeSocket
  simp only [shape_call, shape_markItemForRemoval]
  rw [shape_editSocket ⟨rfl, rfl, rfl⟩, shape_call]

theorem shape_markSocketForRemoval (o : IterOrder) (now : Msec) (cookie : SocketCookie)
    (localPort : UInt32) (s : SystemMap σ) :
    (markSocketForRemoval h o now cookie localPort s).shape = s.shape := by
  unfold markSocketForRemoval
  split
  · rfl
  · simp only
    split
    · split <;> simp [shape_closeSocket]
    · simp [shape_closeSocket]

theorem Inv.pushTuple {s : SystemMap σ} (hs : s.Inv) (now : Msec) (d : PacketDirection)
    (bytes : WBytes) (remote : Endpoint) {c : SocketCookie} {r : Ref}
    (hr : s.shape.socks c = some r) : (pushTuple h now d bytes remote r s).Inv := by
  have hget : (getOrCreateUDPTupleCounter h now r remote s).2.Inv := by
    unfold getOrCreateUDPTupleCounter
    split
    · exact hs
    · rename_i hu
      simp only [Inv, shape_notify, shape_modify, CounterTree.shape_addTuple]
      exact TreeShape.TreeInv.addTuple hs hr hu
  unfold SystemMap.pushTuple
  simp only
  refine hget.of_shape ?_
  split <;> simp [shape_pushFilters]

theorem Inv.doPacketParsing {s : SystemMap σ} (hs : s.Inv) (env : TrafficEnv)
    (d : PacketDirection) (bytes : WBytes) (header : Option PacketHeader) {c : SocketCookie}
    {r : Ref} (hr : s.shape.socks c = some r) :
    (doPacketParsing h env d bytes header r s).Inv := by
  unfold SystemMap.doPacketParsing
  simp only
  split
  · exact hs
  · split
    · exact hs
    · rename_i header
      have hedit : (modify (·.editSocket r fun _ =>
          (applyPacketHeader env d header (s.socket r).trafficItem).1) s).shape = s.shape :=
        shape_editSocket ⟨rfl, rfl, rfl⟩
      have h1 := hs.of_shape hedit
      rw [← hedit] at hr
      have h2 := h1.pushTuple (h := h) env.now d bytes (header.remote d) hr
      split <;> split
      · exact h2.of_shape rfl
      · exact h1.of_shape rfl
      · exact h2
      · exact h1

theorem Inv.mapSocketFromTrafficEvent {s : SystemMap σ} (hs : s.Inv) (env : TrafficEnv)
    (cookie : SocketCookie) (d : PacketDirection) (header : Option PacketHeader) :
    let out := mapSocketFromTrafficEvent h env cookie d header s
    out.2.Inv ∧ ∀ r, out.1 = some r → out.2.shape.socks cookie = some r := by
  unfold SystemMap.mapSocketFromTrafficEvent
  split
  · exact ⟨hs, fun r hr => absurd hr (by simp)⟩
  · simp only
    split
    · exact ⟨hs, fun r hr => absurd hr (by simp)⟩
    · rename_i header hpid
      obtain ⟨h1, h2⟩ := hs.mapSocket (h := h) env.toMapEnv cookie false
        (env.endpointPID (header.local d)) false
      split
      · exact ⟨h1, fun r hr => absurd hr (by simp)⟩
      · rename_i r hr
        refine ⟨h1.of_shape (shape_editSocket ⟨rfl, rfl, rfl⟩), fun q hq => ?_⟩
        rw [shape_editSocket ⟨rfl, rfl, rfl⟩]
        exact h2 q (hr.trans hq)

theorem Inv.pushTraffic {s : SystemMap σ} (hs : s.Inv) (env : TrafficEnv) (d : PacketDirection)
    (bytes : WBytes) (header : Option PacketHeader) {c : SocketCookie} {r : Ref}
    (hr : s.shape.socks c = some r) :
    (SystemMap.doPacketParsing h env d bytes header r (pushTrafficForSocket h d bytes r s)).Inv := by
  have hshape := shape_pushTrafficForSocket (h := h) d bytes r s
  rw [← hshape] at hr
  exact (hs.of_shape hshape).doPacketParsing env d bytes header hr

theorem Inv.pushIncomingTraffic {s : SystemMap σ} (hs : s.Inv) (env : TrafficEnv)
    (cookie : SocketCookie) (bytes : WBytes) (header : Option PacketHeader) :
    (pushIncomingTraffic h env cookie bytes header s).Inv := by
  have h1 : (call h .system (.pushIncomingTraffic bytes) s).Inv := hs.of_shape (by simp)
  unfold SystemMap.pushIncomingTraffic
  simp only
  split
  · exact h1
  · rename_i r hr
    exact h1.pushTraffic env .incoming bytes header hr

theorem Inv.pushOutgoingTraffic {s : SystemMap σ} (hs : s.Inv) (env : TrafficEnv)
    (cookie : SocketCookie) (bytes : WBytes) (header : Option PacketHeader) :
    (pushOutgoingTraffic h env cookie bytes header s).Inv := by
  have h1 : (call h .system (.pushOutgoingTraffic bytes) s).Inv := hs.of_shape (by simp)
  unfold SystemMap.pushOutgoingTraffic
  simp only
  generalize call h .system (.pushOutgoingTraffic bytes) s = s1 at h1 ⊢
  cases hl : s1.sockets.lookup cookie with
  | some r => exact h1.pushTraffic env .outgoing bytes header hl
  | none =>
    obtain ⟨h2, h3⟩ := h1.mapSocketFromTrafficEvent (h := h) env cookie .outgoing header
    simp only
    split
    · exact h2
    · rename_i r hr
      exact h2.pushTraffic env .outgoing bytes header (h3 r hr)

/-! ### Refresh and cleanup -/

theorem shape_refreshTuple (env : TickEnv) (s : SystemMap σ) (u : Ref) :
    (refreshTuple h env s u).shape = s.shape := by
  unfold refreshTuple
  simp only
  split <;> simp

theorem shape_refreshSocket (env : TickEnv) (s : SystemMap σ) (r : Ref) :
    (refreshSocket h env s r).shape = s.shape := by
  unfold refreshSocket
  simp only
  rw [shape_foldl (shape_refreshTuple env)]
  simp

theorem shape_refreshFilter (env : TickEnv) (s : SystemMap σ) (i : Nat) :
    (refreshFilter h env s i).shape = s.shape := by
  unfold refreshFilter
  split <;> simp

theorem shape_refreshCounters (env : TickEnv) (s : SystemMap σ) :
    (refreshCounters h env s).shape = s.shape := by
  unfold refreshCounters
  simp only
  rw [shape_foldl (shape_refreshSocket env), shape_foldl fun s p => shape_call h _ _ s,
    shape_foldl fun s a => shape_call h _ _ s, shape_foldl (shape_refreshFilter env), shape_call]

/-- The values a loop over the tuple counters of a socket visits. -/
theorem isTuplesOf_values (o : IterOrder) (s : SystemMap σ) (r : Ref) :
    s.shape.IsTuplesOf r (o.values (s.socket r).udpPerConnectionCounters) :=
  fun u => o.mem_values _ u

theorem shape_dropProcessTuples (us : List Ref) (s : SystemMap σ) :
    (us.foldl (dropProcessTuple h) s).shape =
      s.shape.eraseTrafficItems (us.map s.shape.tupId) := by
  induction us generalizing s with
  | nil => simp [TreeShape.eraseTrafficItems]
  | cons u us ih =>
    rw [List.foldl_cons, ih, ← TreeShape.foldl_eraseTrafficItem,
      ← TreeShape.foldl_eraseTrafficItem]
    simp [dropProcessTuple, TreeShape.eraseTrafficItem]
    rfl

theorem shape_dropSocketTuples (us : List Ref) (s : SystemMap σ) :
    (us.foldl dropSocketTuple s).shape = s.shape.eraseTrafficItems (us.map s.shape.tupId) := by
  induction us generalizing s with
  | nil => simp [TreeShape.eraseTrafficItems]
  | cons u us ih =>
    rw [List.foldl_cons, ih, ← TreeShape.foldl_eraseTrafficItem,
      ← TreeShape.foldl_eraseTrafficItem]
    simp [dropSocketTuple, TreeShape.eraseTrafficItem]
    rfl

/-- One turn of the loop over the sockets of a removed process, when there is no counter under the
cookie. -/
theorem shape_dropProcessSocket_none (env : TickEnv) (acc : List Endpoint × SystemMap σ)
    {c : SocketCookie} (r : Ref) (hnone : acc.2.shape.socks c = none) :
    (dropProcessSocket h env acc (c, r)).2.shape =
      ((acc.2.shape.eraseTrafficItem (acc.2.shape.sockId r)).clearTupleItems r).eraseSocket c := by
  unfold dropProcessSocket
  have hlook : (addItemRemoval (acc.2.socket r).trafficItem.itemId
    (modify (·.eraseTrafficItem (acc.2.socket r).trafficItem.itemId) acc.2)).sockets.lookup c =
      none := hnone
  simp only [hlook, shape_modify, CounterTree.shape_eraseSocket, CounterTree.shape_clearTupleItems,
    shape_toCounterTree, shape_addItemRemoval, CounterTree.shape_eraseTrafficItem]
  rfl

/-- One turn of the loop over the sockets of a removed process, when there is a counter under the
cookie: the socket leaves the maps and stays with the item of the process. -/
theorem shape_dropProcessSocket (env : TickEnv) (acc : List Endpoint × SystemMap σ)
    {c : SocketCookie} {r q : Ref} (hq : acc.2.shape.socks c = some q) :
    let t := acc.2.shape
    let us := env.order.values (acc.2.socket q).udpPerConnectionCounters
    let dropped := ((((t.eraseTrafficItem (t.sockId r)).eraseTrafficItems
      (us.map t.tupId)).clearTupleCounters q).clearTupleItems r).eraseSocket c
    (dropProcessSocket h env acc (c, r)).2.shape = dropped ∨
      ∃ e, (dropProcessSocket h env acc (c, r)).2.shape = dropped.orphan e q := by
  intro t us dropped
  unfold dropProcessSocket
  simp only
  set s := addItemRemoval (acc.2.socket r).trafficItem.itemId
    (modify (·.eraseTrafficItem (acc.2.socket r).trafficItem.itemId) acc.2) with hs
  have hshape : s.shape = t.eraseTrafficItem (t.sockId r) := by
    rw [hs]
    simp only [shape_addItemRemoval, shape_modify, CounterTree.shape_eraseTrafficItem]
    rfl
  have hlook : s.sockets.lookup c = some q := hq
  rw [hlook]
  simp only [dropProcessCounter]
  split
  · refine Or.inr ⟨(s.socket r).trafficItem.socketTuple.localEndpoint, ?_⟩
    simp only [shape_modify, CounterTree.shape_eraseSocket, CounterTree.shape_clearTupleItems,
      shape_toCounterTree, shape_notify, CounterTree.shape_clearTupleCounters,
      shape_dropProcessTuples, CounterTree.shape_orphan, hshape]
    rfl
  · refine Or.inl ?_
    simp only [shape_modify, CounterTree.shape_eraseSocket, CounterTree.shape_clearTupleItems,
      shape_toCounterTree, shape_notify, CounterTree.shape_clearTupleCounters,
      shape_dropProcessTuples, hshape]
    rfl

/-- What the removal of a process has done when it comes to the process itself. -/
structure Dropping (t0 : TreeShape) (p : Ref) (t : TreeShape) : Prop where
  inv : t.TreeInv fun q c => q = p ∧ t.socks c = none
  procs : t.procs = t0.procs
  procSocks : t.procSocks = t0.procSocks
  procApp : t.procApp = t0.procApp
  procId : t.procId = t0.procId

theorem Dropping.dropProcessSocket {t0 : TreeShape} {pid : ProcessId} {p : Ref}
    (hp : t0.procs pid = some p) (env : TickEnv) {acc : List Endpoint × SystemMap σ}
    (hd : Dropping t0 p acc.2.shape) {c : SocketCookie} {r : Ref}
    (hheld : t0.procSocks p c = some r) (hr : acc.2.shape.socks c = some r) :
    Dropping t0 p (SystemMap.dropProcessSocket h env acc (c, r)).2.shape ∧
      ∀ d, (SystemMap.dropProcessSocket h env acc (c, r)).2.shape.socks d =
        if d = c then none else acc.2.shape.socks d := by
  have hproc : acc.2.shape.sockProc r = p := by
    rcases hd.inv.held pid p (hd.procs ▸ hp) c r (hd.procSocks ▸ hheld) with h1 | h1
    · exact absurd (h1.2.symm.trans hr) (by simp)
    · exact h1.2
  have hshape := shape_dropProcessSocket (h := h) env acc (r := r) hr
  set us := env.order.values (acc.2.socket r).udpPerConnectionCounters
  have hinv := hd.inv.dropSocket hr (isTuplesOf_values env.order acc.2 r)
  have hid := (hd.inv.socket c r hr).itemId
  have hdropped : Dropping t0 p (((((acc.2.shape.eraseTrafficItem
      (acc.2.shape.sockId r)).eraseTrafficItems (us.map acc.2.shape.tupId)).clearTupleCounters
        r).clearTupleItems r).eraseSocket c) := by
    refine ⟨hinv.mono ?_, hd.procs, hd.procSocks, hd.procApp, hd.procId⟩
    rintro q d (⟨rfl, hnone⟩ | ⟨rfl, rfl⟩)
    · refine ⟨rfl, ?_⟩
      simp only [TreeShape.eraseSocket, Function.update_apply, ite_eq_left_iff]
      exact fun _ => hnone
    · exact ⟨hproc, by simp [TreeShape.eraseSocket]⟩
  rcases hshape with he | ⟨e, he⟩
  · rw [he]
    exact ⟨hdropped, fun d => by
      simp [TreeShape.eraseSocket, Function.update_apply, TreeShape.clearTupleItems,
        TreeShape.clearTupleCounters, TreeShape.eraseTrafficItems, TreeShape.eraseTrafficItem]⟩
  · rw [he]
    refine ⟨⟨hdropped.inv.orphanSocket e hid, hdropped.procs, hdropped.procSocks,
      hdropped.procApp, hdropped.procId⟩, fun d => ?_⟩
    simp [TreeShape.eraseSocket, Function.update_apply, TreeShape.clearTupleItems,
      TreeShape.clearTupleCounters, TreeShape.eraseTrafficItems, TreeShape.eraseTrafficItem,
      TreeShape.orphan]

/-- The map when the removal of a process comes to the process itself. -/
def droppedSockets (h : Handler σ) (env : TickEnv) (p : Ref) (s : SystemMap σ) :
    List Endpoint × SystemMap σ :=
  let s1 := call h (.app (s.process p).parentApp) (.pushIncomingTraffic 0)
    (call h .system (.pushIncomingTraffic 0) s)
  (env.order.entries (s1.process p).trafficItem.sockets).foldl (dropProcessSocket h env) ([], s1)

theorem shape_removeProcess (env : TickEnv) (pid : ProcessId) (p : Ref) (s : SystemMap σ) :
    (removeProcess h env pid p s).shape =
      (((droppedSockets h env p s).2.shape.eraseAppProcess (s.shape.procApp p)
        pid).eraseTrafficItem ((droppedSockets h env p s).2.shape.procId p)).eraseProcess pid := by
  unfold removeProcess
  simp only [shape_modify, CounterTree.shape_eraseProcess, CounterTree.shape_eraseTrafficItem,
    shape_toCounterTree, shape_addItemRemoval, CounterTree.shape_eraseAppProcess, shape_notify]
  rfl

/-- **A process that is due leaves the maps with everything it holds.** -/
theorem Inv.removeProcess {s : SystemMap σ} (hs : s.Inv) (env : TickEnv) {pid : ProcessId}
    {p : Ref} (hp : s.shape.procs pid = some p) :
    (removeProcess h env pid p s).Inv ∧
      ∀ q, q ≠ pid → (SystemMap.removeProcess h env pid p s).shape.procs q = s.shape.procs q := by
  set s1 := call h (.app (s.process p).parentApp) (.pushIncomingTraffic 0)
    (call h .system (.pushIncomingTraffic 0) s) with hs1
  have hshape1 : s1.shape = s.shape := by
    rw [hs1]
    simp
  set l := env.order.entries (s1.process p).trafficItem.sockets with hl
  have hmem : ∀ c r, (c, r) ∈ l ↔ s.shape.procSocks p c = some r := by
    intro c r
    rw [hl, env.order.mem_entries, ← hshape1]
    rfl
  have hd1 : Dropping s.shape p s1.shape := by
    rw [hshape1]
    exact ⟨hs.mono fun _ _ hf => hf.elim, rfl, rfl, rfl, rfl⟩
  have hlive : ∀ e ∈ l, s1.shape.socks e.1 = some e.2 := by
    rintro ⟨c, r⟩ he
    rw [hshape1]
    rcases hs.held pid p hp c r ((hmem c r).mp he) with h1 | h1
    · exact h1.elim
    · exact h1.1
  have hturn : ∀ (acc : List Endpoint × SystemMap σ) (c : SocketCookie) (r : Ref), (c, r) ∈ l →
      Dropping s.shape p acc.2.shape → acc.2.shape.socks c = some r →
      Dropping s.shape p (SystemMap.dropProcessSocket h env acc (c, r)).2.shape ∧
        (SystemMap.dropProcessSocket h env acc (c, r)).2.shape.socks c = none ∧
        ∀ d, d ≠ c → (SystemMap.dropProcessSocket h env acc (c, r)).2.shape.socks d =
          acc.2.shape.socks d := by
    intro acc c r he hd hr
    obtain ⟨h1, h2⟩ := Dropping.dropProcessSocket (h := h) hp env hd ((hmem c r).mp he) hr
    exact ⟨h1, by rw [h2, if_pos rfl], fun d hdc => by rw [h2, if_neg hdc]⟩
  have hnodup := env.order.nodup_entries (s1.process p).trafficItem.sockets
  have hfinal := foldl_entries (fun acc => Dropping s.shape p acc.2.shape)
    (fun acc c => acc.2.shape.socks c) (SystemMap.dropProcessSocket h env) l (s := ([], s1))
    (fun acc c r he hd hr => ⟨(hturn acc c r he hd hr).1, (hturn acc c r he hd hr).2.2⟩)
    hnodup hlive hd1
  have hempty := get_foldl_entries (fun acc => Dropping s.shape p acc.2.shape)
    (fun acc c => acc.2.shape.socks c) (SystemMap.dropProcessSocket h env) l (s := ([], s1))
    hturn hnodup hlive hd1
  set dropped := l.foldl (SystemMap.dropProcessSocket h env) ([], s1) with hdropped
  have hout : (SystemMap.removeProcess h env pid p s).shape =
      ((dropped.2.shape.eraseAppProcess (dropped.2.shape.procApp p) pid).eraseTrafficItem
        (dropped.2.shape.procId p)).eraseProcess pid := by
    rw [hfinal.procApp]
    exact shape_removeProcess env pid p s
  have hnone : ∀ c r, dropped.2.shape.procSocks p c = some r → dropped.2.shape.socks c = none := by
    intro c r hc
    rw [hfinal.procSocks] at hc
    exact (hempty c).1 (List.mem_map.mpr ⟨(c, r), (hmem c r).mpr hc, rfl⟩)
  constructor
  · unfold Inv
    rw [hout]
    exact hfinal.inv.eraseProcess (hfinal.procs ▸ hp) hnone
  · intro q hq
    rw [hout]
    simp only [TreeShape.eraseProcess, TreeShape.eraseTrafficItem, TreeShape.eraseAppProcess,
      Function.update_apply, if_neg hq, hfinal.procs]

theorem Inv.cleanupProcess {s : SystemMap σ} (hs : s.Inv) (env : TickEnv) {pid : ProcessId}
    {p : Ref} (hp : s.shape.procs pid = some p) :
    (cleanupProcess h env s (pid, p)).Inv ∧
      ∀ q, q ≠ pid → (SystemMap.cleanupProcess h env s (pid, p)).shape.procs q =
        s.shape.procs q := by
  unfold SystemMap.cleanupProcess
  simp only
  set s1 := if !env.isProcessRunning pid ∧ !(s.process p).isMarkedForRemoval then
      markItemForRemoval (s.process p).trafficItem.itemId
        (call h (.process p) (.markForRemoval (env.cleanupTime (.process p))) s)
    else s with hs1
  have hshape : s1.shape = s.shape := by
    rw [hs1]
    split <;> simp
  have h1 : s1.Inv := hs.of_shape hshape
  rw [← hshape] at hp ⊢
  split
  · exact h1.removeProcess env hp
  · exact ⟨h1, fun _ _ => rfl⟩

/-- The removal notices of the tuples leave the counters alone. -/
theorem toCounterTree_notifyRemoved : ∀ (us : List Ref) (s : SystemMap σ),
    (us.foldl (fun s u => notify h (.onUDPTupleRemoved u) s) s).toCounterTree = s.toCounterTree
  | [], _ => rfl
  | _ :: us, _ => toCounterTree_notifyRemoved us _

theorem shape_removeSocket (env : TickEnv) (c : SocketCookie) (r : Ref) (s : SystemMap σ) :
    let us := env.order.values (s.socket r).udpPerConnectionCounters
    (removeSocket h env c r s).shape =
      ((((((s.shape.eraseProcessSocket (s.shape.sockProc r) c).eraseTrafficItem
        (s.shape.sockId r)).eraseTrafficItems (us.map s.shape.tupId)).clearTupleCounters
          r).clearTupleItems r).eraseSocket c) := by
  intro us
  set s1 := us.foldl (fun s u => notify h (.onUDPTupleRemoved u) s)
    (notify h (.onSocketRemoved r) s) with hs1
  set s2 := modify (·.eraseProcessSocket (s1.socket r).parentProcess c) s1 with hs2
  have hremove : removeSocket h env c r s =
      modify (·.eraseSocket c) (modify (·.clearTupleItems r) (modify (·.clearTupleCounters r)
        (us.foldl dropSocketTuple (addItemRemoval (s2.socket r).trafficItem.itemId
          (modify (·.eraseTrafficItem (s2.socket r).trafficItem.itemId) s2))))) := rfl
  have htree : s1.toCounterTree = s.toCounterTree := toCounterTree_notifyRemoved us _
  have hshape : s1.shape = s.shape := by
    unfold shape
    rw [htree]
  have hproc : (s1.socket r).parentProcess = s.shape.sockProc r := by
    rw [htree]
    rfl
  have hshape2 : s2.shape = s.shape.eraseProcessSocket (s.shape.sockProc r) c := by
    rw [hs2, shape_modify, CounterTree.shape_eraseProcessSocket, shape_toCounterTree, hshape,
      hproc]
  have hid : (s2.socket r).trafficItem.itemId = s.shape.sockId r :=
    (congrFun (congrArg TreeShape.sockId hshape2) r).trans rfl
  rw [hremove, hid]
  simp only [shape_modify, CounterTree.shape_eraseSocket, CounterTree.shape_clearTupleItems,
    shape_toCounterTree, CounterTree.shape_clearTupleCounters, shape_dropSocketTuples,
    shape_addItemRemoval, CounterTree.shape_eraseTrafficItem, hshape2]
  rfl

/-- **A socket that is due leaves the maps and the item of its process.** -/
theorem Inv.removeSocket {s : SystemMap σ} (hs : s.Inv) (env : TickEnv) {c : SocketCookie}
    {r : Ref} (hr : s.shape.socks c = some r) :
    (removeSocket h env c r s).Inv ∧
      ∀ d, d ≠ c → (SystemMap.removeSocket h env c r s).shape.socks d = s.shape.socks d := by
  set us := env.order.values (s.socket r).udpPerConnectionCounters with hus
  have htuples : s.shape.IsTuplesOf r us := isTuplesOf_values env.order s r
  have hout := shape_removeSocket (h := h) env c r s
  constructor
  · unfold Inv
    rw [hout]
    exact TreeShape.TreeInv.removeSocket hs hr htuples
  · intro d hd
    rw [hout]
    simp only [TreeShape.eraseSocket, TreeShape.clearTupleItems, TreeShape.clearTupleCounters,
      TreeShape.eraseTrafficItems, TreeShape.eraseTrafficItem, TreeShape.eraseProcessSocket,
      Function.update_apply, if_neg hd]

/-- A tuple that is due leaves the maps and the item of its socket. -/
theorem shape_cleanupTuple (env : TickEnv) (r : Ref) (s : SystemMap σ) (e : Endpoint) (u : Ref) :
    (cleanupTuple h env r s (e, u)).shape =
      if (s.tuple u).dueForRemoval (env.cleanupTime (.tuple u)) then
        (s.shape.eraseTrafficItem (s.shape.tupId u)).eraseTuple r e
      else s.shape := by
  unfold cleanupTuple
  simp only
  split
  · simp only [shape_modify, CounterTree.shape_eraseTuple, shape_toCounterTree,
      shape_addItemRemoval, CounterTree.shape_eraseTrafficItem, shape_notify]
    rfl
  · rfl

theorem Inv.cleanupTuple {s : SystemMap σ} (hs : s.Inv) (env : TickEnv) {c : SocketCookie}
    {r : Ref} (hr : s.shape.socks c = some r) {e : Endpoint} {u : Ref}
    (hu : s.shape.sockTuples r e = some u) :
    (cleanupTuple h env r s (e, u)).Inv ∧
      (SystemMap.cleanupTuple h env r s (e, u)).shape.socks = s.shape.socks ∧
      ∀ f, f ≠ e → (SystemMap.cleanupTuple h env r s (e, u)).shape.sockTuples r f =
        s.shape.sockTuples r f := by
  unfold Inv
  rw [shape_cleanupTuple]
  split
  · refine ⟨TreeShape.TreeInv.eraseTuple hs hr hu, rfl, fun f hf => ?_⟩
    simp [TreeShape.eraseTuple, TreeShape.eraseTrafficItem, hf]
  · exact ⟨hs, rfl, fun _ _ => rfl⟩

theorem Inv.cleanupSocket {s : SystemMap σ} (hs : s.Inv) (env : TickEnv) {c : SocketCookie}
    {r : Ref} (hr : s.shape.socks c = some r) :
    (cleanupSocket h env s (c, r)).Inv ∧
      ∀ d, d ≠ c → (SystemMap.cleanupSocket h env s (c, r)).shape.socks d = s.shape.socks d := by
  unfold SystemMap.cleanupSocket
  simp only
  split
  · exact hs.removeSocket env hr
  · set s1 := if isStaleSocket env r s.toCounterTree then
        call h (.socket r) (.markForRemoval (env.cleanupTime (.socket r))) s
      else s with hs1
    have hshape : s1.shape = s.shape := by
      rw [hs1]
      split <;> simp
    rw [← hshape] at hr ⊢
    have hloop := foldl_entries
      (fun s' : SystemMap σ => s'.Inv ∧ s'.shape.socks = s1.shape.socks)
      (fun s' e => s'.shape.sockTuples r e) (SystemMap.cleanupTuple h env r)
      (env.order.entries (s1.socket r).udpPerConnectionCounters) (s := s1)
      (fun s' e u _ hI hu => by
        obtain ⟨h1, h2, h3⟩ := hI.1.cleanupTuple (h := h) env (hI.2 ▸ hr) hu
        exact ⟨⟨h1, h2.trans hI.2⟩, h3⟩)
      (env.order.nodup_entries _) (env.order.lookup_of_mem_entries _)
      ⟨hs.of_shape hshape, rfl⟩
    exact ⟨hloop.1, fun d _ => congrFun hloop.2 d⟩

/-- An application without processes leaves the maps. -/
theorem shape_cleanupApp (k : String) (a : Ref) (s : SystemMap σ) :
    (∀ pid, s.shape.appProcs a pid = none) ∧
        (cleanupApp s (k, a)).shape = (s.shape.eraseTrafficItem (s.shape.appId a)).eraseApp k ∨
      cleanupApp s (k, a) = s := by
  unfold cleanupApp
  simp only
  split
  · rename_i hempty
    refine .inl ⟨fun pid => ?_, ?_⟩
    · have hnil := List.isEmpty_iff.mp hempty
      refine AList.lookup_eq_none.mpr fun hmem => ?_
      rw [AList.mem_keys, AList.keys, hnil] at hmem
      exact absurd hmem List.not_mem_nil
    · simp only [shape_modify, CounterTree.shape_eraseApp, shape_toCounterTree,
        shape_addItemRemoval, CounterTree.shape_eraseTrafficItem]
      rfl
  · exact .inr rfl

theorem Inv.cleanupApp {s : SystemMap σ} (hs : s.Inv) {k : String} {a : Ref}
    (ha : s.shape.apps k = some a) :
    (cleanupApp s (k, a)).Inv ∧
      ∀ q, q ≠ k → (SystemMap.cleanupApp s (k, a)).shape.apps q = s.shape.apps q := by
  rcases shape_cleanupApp k a s with ⟨hnone, hout⟩ | hout
  · unfold Inv
    rw [hout]
    refine ⟨TreeShape.TreeInv.eraseApp hs ha hnone, fun q hq => ?_⟩
    simp [TreeShape.eraseApp, TreeShape.eraseTrafficItem, hq]
  · rw [hout]
    exact ⟨hs, fun _ _ => rfl⟩

theorem Inv.cleanup {s : SystemMap σ} (hs : s.Inv) (env : TickEnv) : (cleanup h env s).Inv := by
  unfold SystemMap.cleanup
  simp only
  have h1 := foldl_entries (fun s : SystemMap σ => s.Inv) (fun s pid => s.shape.procs pid)
    (SystemMap.cleanupProcess h env) (env.order.entries s.processes)
    (fun s pid p _ hI hp => hI.cleanupProcess env hp) (env.order.nodup_entries _)
    (env.order.lookup_of_mem_entries _) hs
  generalize List.foldl (SystemMap.cleanupProcess h env) s (env.order.entries s.processes) = s1
    at h1 ⊢
  have h2 := foldl_entries (fun s : SystemMap σ => s.Inv) (fun s c => s.shape.socks c)
    (SystemMap.cleanupSocket h env) (env.order.entries s1.sockets)
    (fun s c r _ hI hr => hI.cleanupSocket env hr) (env.order.nodup_entries _)
    (env.order.lookup_of_mem_entries _) h1
  generalize List.foldl (SystemMap.cleanupSocket h env) s1 (env.order.entries s1.sockets) = s2
    at h2 ⊢
  exact foldl_entries (fun s : SystemMap σ => s.Inv) (fun s k => s.shape.apps k)
    SystemMap.cleanupApp (env.order.entries s2.applications) (fun s k a _ hI ha => hI.cleanupApp ha)
    (env.order.nodup_entries _) (env.order.lookup_of_mem_entries _) h2

theorem Inv.refreshAllTrafficCounters {s : SystemMap σ} (hs : s.Inv) (env : TickEnv) :
    (refreshAllTrafficCounters h env s).Inv :=
  Inv.cleanup (hs.of_shape (shape_refreshCounters env s)) env

/-! ### Reparenting and merging -/

theorem Inv.processInitialApps {s : SystemMap σ} (hs : s.Inv) (o : IterOrder) :
    (processInitialApps h o s).Inv :=
  hs.of_shape (shape_foldl (fun s _ => shape_notify h _ s) _ s)

theorem Inv.reparentAcceptedSocket {s : SystemMap σ} (hs : s.Inv) {r : Ref}
    (hr : isSocket r s.toCounterTree) : (reparentAcceptedSocket h r s).Inv := by
  unfold isSocket at hr
  unfold SystemMap.reparentAcceptedSocket
  simp only
  split
  · exact hs
  · simp only [Inv, shape_notify, shape_modify, CounterTree.shape_orphan]
    exact TreeShape.TreeInv.orphanSocket hs _ (of_decide_eq_true hr).2

/-- The orphan under an endpoint goes back where it is: its process holds it under its cookie, and
its item id is its cookie. -/
def StaysInPlace (r : Ref) (newParentProcess : ProcessId) (s : SystemMap σ) : Prop :=
  let item := (s.socket r).trafficItem
  s.sockets.lookup item.cookie = some r ∧ item.itemId = item.cookie ∧
    s.processes.lookup newParentProcess = some (s.socket r).parentProcess

theorem Inv.reparentOrphanedSocket {s : SystemMap σ} (hs : s.Inv) (now : Msec)
    (endpoint : Endpoint) (newParentProcess : ProcessId)
    (hplace : ∀ r, s.orphanedSockets.lookup endpoint = some r →
      newParentProcess = 0 ∨ StaysInPlace r newParentProcess s) :
    (reparentOrphanedSocket h now endpoint newParentProcess s).Inv := by
  unfold SystemMap.reparentOrphanedSocket
  split
  · exact hs
  · rename_i r hr
    split
    · simp only [Inv, shape_modify, CounterTree.shape_forgetOrphan]
      exact TreeShape.TreeInv.forgetOrphan hs endpoint
    · rename_i hpid
      obtain ⟨h1, h2, h3⟩ := (hplace r hr).resolve_left hpid
      have happ : (s.applications.lookup (s.app
          (s.process (s.socket r).parentProcess).parentApp).trafficItem.applicationPath).isSome :=
        Option.isSome_iff_exists.mpr ⟨_, (hs.process _ _ h3).parent⟩
      have hproc : SystemMap.findOrMapProcess h now newParentProcess
          (s.process (s.socket r).parentProcess).parentApp s =
            ((s.socket r).parentProcess, s) := by
        unfold SystemMap.findOrMapProcess
        rw [h3]
      have hstay : (s.shape.attachSocket r (s.shape.sockProc r)) = s.shape :=
        TreeShape.TreeInv.attachSocket hs h1 h2
      simp only [happ, if_true, hproc, Inv, shape_addSocketAddition, shape_modify,
        CounterTree.shape_forgetOrphan, CounterTree.shape_attachSocket, shape_toCounterTree]
      rw [show s.shape.attachSocket r (s.socket r).parentProcess = s.shape from hstay]
      exact TreeShape.TreeInv.forgetOrphan hs endpoint

/-- The synthetic socket an operation merges, if it merges one. -/
def mergeTarget (o : IterOrder) (socket : Ref) (s : SystemMap σ) : Option (SocketCookie × Ref) :=
  let item := (s.socket socket).trafficItem
  if isSynthetic item.cookie ∨ item.socketTuple.localEndpoint.port = 0 then none
  else findSynthetic o socket s.toCounterTree

theorem mergeTarget_some {o : IterOrder} {socket : Ref} {s : SystemMap σ}
    {existing : SocketCookie × Ref} (he : mergeTarget o socket s = some existing) :
    s.sockets.lookup existing.1 = some existing.2 ∧
      (s.socket existing.2).parentProcess = (s.socket socket).parentProcess := by
  unfold mergeTarget findSynthetic at he
  simp only at he
  split at he
  · exact absurd he (by simp)
  · have hmem := List.mem_of_find?_eq_some he
    have htest := List.find?_some he
    simp only [Bool.and_eq_true, decide_eq_true_eq] at htest
    exact ⟨o.lookup_of_mem_entries _ existing hmem, htest.1.2⟩

theorem Inv.mergeSyntheticSocket {s : SystemMap σ} (hs : s.Inv) (o : IterOrder) (r : Ref)
    (hempty : ∀ existing, mergeTarget o r s = some existing →
      ∀ e, (s.socket existing.2).udpPerConnectionCounters.lookup e = none) :
    (mergeSyntheticSocket h o r s).Inv := by
  have htarget : ∀ {existing}, mergeTarget o r s = some existing → _ := mergeTarget_some
  unfold mergeTarget at hempty htarget
  unfold SystemMap.mergeSyntheticSocket
  simp only at hempty htarget ⊢
  split
  · exact hs
  · rename_i hne
    split
    · exact hs
    · rename_i existing he
      rw [if_neg hne] at hempty htarget
      obtain ⟨hlook, hproc⟩ := htarget he
      have hedit : (modify (·.editSocket r (transferEndpoint
          (s.socket existing.2).trafficItem.socketTuple)) s).shape = s.shape :=
        shape_editSocket ⟨rfl, rfl, rfl⟩
      simp only [Inv, shape_markItemForRemoval, shape_modify, CounterTree.shape_dropSynthetic,
        shape_toCounterTree, shape_notify]
      have hparent : ((modify (·.editSocket r (transferEndpoint
          (s.socket existing.2).trafficItem.socketTuple)) s).socket r).parentProcess =
            s.shape.sockProc existing.2 :=
        (congrFun (congrArg TreeShape.sockProc hedit) r).trans hproc.symm
      have hdrop := TreeShape.TreeInv.dropSynthetic hs hlook (hempty existing he)
      rw [← hparent, ← hedit] at hdrop
      exact hdrop

/-! ### Runs -/

/-- The condition on a step: a reparented socket goes back where it is, and a merged synthetic
socket has no tuples. -/
def KeepsTwoTrees (s : SystemMap σ) : SystemMapOp → Prop
  | .reparentOrphanedSocket _ endpoint pid => ∀ r, s.orphanedSockets.lookup endpoint = some r →
      pid = 0 ∨ StaysInPlace r pid s
  | .mergeSyntheticSocket o r => isSocket r s.toCounterTree → ∀ existing,
      mergeTarget o r s = some existing →
        ∀ e, (s.socket existing.2).udpPerConnectionCounters.lookup e = none
  | _ => True

/-- **One step keeps the invariant.** -/
theorem Inv.step {s : SystemMap σ} (hs : s.Inv) (op : SystemMapOp) (hop : s.KeepsTwoTrees op) :
    (step h s op).Inv := by
  cases op with
  | mapSocket env cookie established pid silentFail =>
    exact (hs.mapSocket env cookie established pid silentFail).1
  | mapSocketFromTrafficEvent env cookie d header =>
    exact (hs.mapSocketFromTrafficEvent env cookie d header).1
  | addExistingSockets env running infos => exact hs.addExistingSockets env running infos
  | processInitialApps o => exact hs.processInitialApps o
  | processSocketEvent event r =>
    simp only [SystemMap.step]
    split
    · exact hs.of_shape (shape_processSocketEvent event r s)
    · exact hs
  | mergeSyntheticSocket o r =>
    simp only [SystemMap.step]
    split
    · rename_i hr
      exact hs.mergeSyntheticSocket o r (hop hr)
    · exact hs
  | markSocketForRemoval o now cookie localPort =>
    exact hs.of_shape (shape_markSocketForRemoval o now cookie localPort s)
  | reparentAcceptedSocket r =>
    simp only [SystemMap.step]
    split
    · rename_i hr
      exact hs.reparentAcceptedSocket hr
    · exact hs
  | reparentOrphanedSocket now endpoint pid => exact hs.reparentOrphanedSocket now endpoint pid hop
  | pushIncomingTraffic env cookie bytes header =>
    exact hs.pushIncomingTraffic env cookie bytes header
  | pushOutgoingTraffic env cookie bytes header =>
    exact hs.pushOutgoingTraffic env cookie bytes header
  | refreshAllTrafficCounters env => exact hs.refreshAllTrafficCounters env
  | takeItemId => exact TreeShape.TreeInv.takeItemId hs

/-- Only the system item is in `TrafficItems` at first. -/
theorem items_init (now : Msec) (hostName : String) (listeners : σ) (i : TrafficItemId)
    (ty : TrafficItemType) :
    (init now hostName listeners).shape.items i = some ty ↔ i = 0 ∧ ty = .system := by
  have hlook : (init now hostName listeners).shape.items i =
      if i = 0 then some .system else none := by
    simp only [init, shape, CounterTree.shape, UMap.lookup_insert_ite, AList.lookup_empty]
  rw [hlook]
  split
  · rename_i hi
    simp only [hi, Option.some.injEq, true_and, eq_comm]
  · rename_i hi
    simp only [hi, reduceCtorEq, false_and]

theorem Inv.init (now : Msec) (hostName : String) (listeners : σ) :
    (init now hostName listeners).Inv where
  systemApps := fun _ => rfl
  app := fun _ _ ha => nomatch ha
  process := fun _ _ hp => nomatch hp
  socket := fun _ _ hr => nomatch hr
  tuple := fun _ _ hr => nomatch hr
  traffic := fun _ _ hr => nomatch hr
  held := fun _ _ hp => nomatch hp
  items := fun i ty => by
    rw [items_init]
    cases ty <;> simp [TreeShape.Live, SystemMap.init, shape, CounterTree.shape]
  fresh := fun i ty hi => by
    rw [((items_init now hostName listeners i ty).mp hi).1]
    exact Nat.zero_lt_succ 3
  orphan := fun _ _ hr => nomatch hr

end SystemMap

/-! ## The property -/

namespace TreeShape

/-- The ids of what is in the maps, by type. -/
def Holds (t : TreeShape) : TrafficItemType → TrafficItemId → Prop
  | .system, i => i = 0
  | .application, i => ∃ k a, t.apps k = some a ∧ t.appId a = i
  | .process, i => ∃ pid p, t.procs pid = some p ∧ t.procId p = i
  | .socket, i => ∃ c r, t.socks c = some r ∧ t.sockId r = i
  | .tuple, i => ∃ c r u, t.socks c = some r ∧ u ∈ t.sockTraffic r ∧ t.tupId u = i
  | .filter, _ => False

/-- **The two trees hold the same things under the right keys.** -/
structure TwoTrees (t : TreeShape) : Prop where
  /-- The parent of a socket is a process in `Processes`. -/
  socketParent : ∀ c r, t.socks c = some r → ∃ pid, t.procs pid = some (t.sockProc r)
  /-- The item of the parent process holds the socket, under its own cookie, and nothing else
  does. -/
  socket : ∀ c r, t.socks c = some r → t.sockCookie r = c ∧ ∀ pid p, t.procs pid = some p →
    ∀ k, t.procSocks p k = some r ↔ p = t.sockProc r ∧ k = c
  process : ∀ pid p, t.procs pid = some p →
    t.appProcs (t.procApp p) pid = some p ∧ ∃ k, t.apps k = some (t.procApp p)
  applications : ∀ k, t.sysApps k = t.apps k
  applicationPath : ∀ k a, t.apps k = some a → t.appPath a = k
  trafficItems : ∀ i, (∃ ty, t.items i = some ty) ↔ ∃ ty, t.Holds ty i

theorem TreeInv.live_iff {x : Ref → SocketCookie → Prop} {t : TreeShape} (h : TreeInv x t)
    (ty : TrafficItemType) (i : TrafficItemId) : t.Live ty i ↔ t.Holds ty i := by
  cases ty with
  | system => exact Iff.rfl
  | application =>
    constructor
    · exact fun ha => ⟨_, i, ha, (h.app _ i ha).2⟩
    · rintro ⟨k, a, ha, rfl⟩
      obtain ⟨h1, h2⟩ := h.app k a ha
      simp only [Live, h2, h1, ha]
  | process =>
    constructor
    · exact fun hp => ⟨_, i, hp, (h.process _ i hp).itemId⟩
    · rintro ⟨pid, p, hp, rfl⟩
      obtain ⟨_, _, h3, h4⟩ := h.process pid p hp
      simp only [Live, h3, h4, hp]
  | socket =>
    constructor
    · exact fun hr => ⟨_, i, hr, (h.socket _ i hr).itemId⟩
    · rintro ⟨c, r, hr, rfl⟩
      obtain ⟨_, _, h3, h4⟩ := h.socket c r hr
      simp only [Live, h3, h4, hr]
  | tuple =>
    constructor
    · rintro ⟨hr, hu⟩
      exact ⟨_, _, i, hr, (h.traffic _ _ hr i).mpr ⟨_, hu⟩, (h.tuple _ _ hr _ i hu).itemId⟩
    · rintro ⟨c, r, u, hr, hmem, rfl⟩
      obtain ⟨e, hu⟩ := (h.traffic c r hr u).mp hmem
      obtain ⟨h1, h2, h3⟩ := h.tuple c r hr e u hu
      simp only [Live, h2, h1, h3, (h.socket c r hr).cookie]
      exact ⟨hr, hu⟩
  | filter => exact Iff.rfl

/-- The invariant is enough. -/
theorem TreeInv.twoTrees {t : TreeShape} (h : TreeInv (fun _ _ => False) t) : t.TwoTrees where
  socketParent := fun c r hr => ⟨_, (h.socket c r hr).parent⟩
  socket := fun c r hr => by
    refine ⟨(h.socket c r hr).cookie, fun pid p hp k => ⟨fun hk => ?_, ?_⟩⟩
    · obtain ⟨h1, h2⟩ := (h.held pid p hp k r hk).resolve_left id
      exact ⟨h2.symm, (h.socket k r h1).cookie.symm.trans (h.socket c r hr).cookie⟩
    · rintro ⟨rfl, rfl⟩
      exact (h.socket k r hr).held
  process := fun pid p hp => ⟨(h.process pid p hp).held, _, (h.process pid p hp).parent⟩
  applications := h.systemApps
  applicationPath := fun k a ha => (h.app k a ha).1
  trafficItems := fun i => by
    simp only [h.items, h.live_iff]

end TreeShape

namespace SystemMap

variable {σ : Type}

/-- The maps and the tree of items of a system map are in lock step. -/
def TwoTrees (s : SystemMap σ) : Prop := s.shape.TwoTrees

/-- **The two trees stay in lock step.** From the constructor on they do in every state of a run
whose steps all meet the condition. -/
theorem always_twoTrees (h : Handler σ) (now : Msec) (hostName : String) (listeners : σ)
    (ops : List SystemMapOp)
    (hops : AllSteps (step h) KeepsTwoTrees (init now hostName listeners) ops) :
    Always (step h) TwoTrees (init now hostName listeners) ops :=
  always_of_allSteps (I := Inv) (fun _ hs => hs.twoTrees) (fun _ op hs hop => hs.step op hop) ops
    (Inv.init now hostName listeners) hops

/-! ### An accepted socket -/

/-- Nothing is known about any process. -/
def quietEnv : MapEnv := { order := .stored, now := 0, procInfo := fun _ => {} }

/-- A connection from port 5000 is accepted on port 80 of the local host. -/
def acceptedEvent : NetEvent := .tcpSocketEstablished4 80 5000 true 0x0100007f 0x0100007f

/-- The local endpoint of the accepted socket. -/
def acceptedEndpoint : Endpoint :=
  { address := ({} : IPAddress).fromIPv4Uint32 0x0100007f, port := 80 }

/-- Process 7 accepts a connection, whose socket becomes item 6 under cookie 9, and the lookup of
the owner answers with the same process. -/
def acceptRun : List SystemMapOp :=
  [.mapSocket quietEnv 9 false 7 false, .processSocketEvent acceptedEvent 6,
   .reparentAcceptedSocket 6, .reparentOrphanedSocket 0 acceptedEndpoint 7]

/-- The same run, where the lookup does not find the owner. -/
theorem always_twoTrees_accept :
    Always (step fun _ _ (u : Unit) => u) TwoTrees (init 0 "host" ())
      (acceptRun.take 3 ++ [.reparentOrphanedSocket 0 acceptedEndpoint 0]) :=
  always_twoTrees _ 0 "host" () _ ⟨trivial, trivial, trivial, fun _ _ => Or.inl rfl, trivial⟩

/-- **The process holds the socket twice**, the second time under its item id. -/
theorem twoTrees_fails_accept : ¬ ∀ ops : List SystemMapOp,
    Always (step fun _ _ (u : Unit) => u) TwoTrees (init 0 "host" ()) ops := by
  intro hall
  have hlast : (run (step fun _ _ (u : Unit) => u) (init 0 "host" ()) acceptRun).TwoTrees :=
    (hall acceptRun).2.2.2.2
  have hsock : (run (step fun _ _ (u : Unit) => u) (init 0 "host" ()) acceptRun).shape.socks 9 =
      some 6 := by rfl
  have hproc : (run (step fun _ _ (u : Unit) => u) (init 0 "host" ()) acceptRun).shape.procs 7 =
      some 5 := by rfl
  have hheld : (run (step fun _ _ (u : Unit) => u) (init 0 "host" ())
      acceptRun).shape.procSocks 5 6 = some 6 := by rfl
  have hkey := (((hlast.socket 9 6 hsock).2 7 5 hproc 6).mp hheld).2
  exact absurd hkey (by decide)

end SystemMap

end Waechter
