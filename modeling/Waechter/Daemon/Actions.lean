import Waechter.Daemon.Books
import Waechter.Daemon.TwoTrees
import Waechter.Lib.Path

/-!
# What the operations are made of

Every operation of the system map is a path of actions (`Lib.Path`): notices, calls on counters,
records for the clients and changes of the maps and items. `Does h C K s s'` says that the calls
on the way are among `C`, the records and changes among `K`, and that every change comes in a
state it is meant for (`Change.Proper`). There is one lemma for each operation, which names the
counters it pushes to or marks and the sockets it edits. What holds of all the actions of an
operation is then one case for each kind of action (`Does.keeps`).

The calls on the counters of the system, the filters, the applications and the tuples are not told
apart (`Shared`), nor are the refreshes.
-/

namespace Waechter

open Lib

/-- A change of the maps and items. -/
inductive Change where
  | addTuple (now : Msec) (socket : Ref) (endpoint : Endpoint)
  | addSocket (now : Msec) (cookie : SocketCookie) (process : Ref)
  | addProcess (now : Msec) (pid : ProcessId) (app : Ref)
  | addApp (now : Msec) (key commandLine appName : String)
  | upgradeApp (existingKey key commandLine appName : String) (app : Ref)
  | registerApp (key : String) (app : Ref)
  | editSocket (socket : Ref) (f : SocketItem → SocketItem)
  | attachSocket (socket process : Ref)
  | forgetOrphan (endpoint : Endpoint)
  | orphan (endpoint : Endpoint) (socket : Ref)
  | dropSynthetic (process : Ref) (existing : SocketCookie × Ref)
  | eraseTrafficItem (itemId : TrafficItemId)
  | clearTupleCounters (socket : Ref)
  | clearTupleItems (socket : Ref)
  | eraseSocket (cookie : SocketCookie)
  | eraseProcessSocket (process : Ref) (cookie : SocketCookie)
  | eraseAppProcess (app : Ref) (pid : ProcessId)
  | eraseProcess (pid : ProcessId)
  | eraseTuple (socket : Ref) (endpoint : Endpoint)
  | eraseApp (key : String)
  | takeItemId

namespace Change

def apply : Change → CounterTree → CounterTree
  | addTuple now r e => CounterTree.addTuple now r e
  | addSocket now c p => CounterTree.addSocket now c p
  | addProcess now pid a => CounterTree.addProcess now pid a
  | addApp now key commandLine appName => CounterTree.addApp now key commandLine appName
  | upgradeApp existingKey key commandLine appName a =>
    CounterTree.upgradeApp existingKey key commandLine appName a
  | registerApp key a => CounterTree.registerApp key a
  | editSocket r f => CounterTree.editSocket r f
  | attachSocket r p => CounterTree.attachSocket r p
  | forgetOrphan e => CounterTree.forgetOrphan e
  | orphan e r => CounterTree.orphan e r
  | dropSynthetic p existing => CounterTree.dropSynthetic p existing
  | eraseTrafficItem i => CounterTree.eraseTrafficItem i
  | clearTupleCounters r => CounterTree.clearTupleCounters r
  | clearTupleItems r => CounterTree.clearTupleItems r
  | eraseSocket c => CounterTree.eraseSocket c
  | eraseProcessSocket p c => CounterTree.eraseProcessSocket p c
  | eraseAppProcess a pid => CounterTree.eraseAppProcess a pid
  | eraseProcess pid => CounterTree.eraseProcess pid
  | eraseTuple r e => CounterTree.eraseTuple r e
  | eraseApp key => CounterTree.eraseApp key
  | takeItemId => fun t => { t with nextItemId := t.nextItemId + 1 }

/-- What the operations have made sure of when they make a change. -/
def Proper (t : CounterTree) : Change → Prop
  | addTuple _ r e => (t.socket r).udpPerConnectionCounters.lookup e = none
  | addSocket _ c _ => t.sockets.lookup c = none
  | addProcess _ pid _ => t.processes.lookup pid = none
  | addApp _ key _ _ => t.applications.lookup key = none
  | upgradeApp existingKey key _ _ a =>
    t.applications.lookup existingKey = some a ∧ t.applications.lookup key = none
  | registerApp key a =>
    t.applications.lookup key = none ∧ (t.app a).trafficItem.applicationPath = key
  | editSocket r f => t.KeepsSocketKeys r f ∧
    (f (t.socket r).trafficItem).toTrafficItem = (t.socket r).trafficItem.toTrafficItem
  | attachSocket r _ => ∃ e, t.orphanedSockets.lookup e = some r
  | orphan _ r => (∃ c, t.sockets.lookup c = some r) ∨ SystemMap.isSocket r t
  | _ => True

/-- What the change does to the shape of the trees. -/
def onShape : Change → TreeShape → TreeShape
  | addTuple _ r e => TreeShape.addTuple r e
  | addSocket _ c p => TreeShape.addSocket c p
  | addProcess _ pid a => TreeShape.addProcess pid a
  | addApp _ key _ _ => TreeShape.addApp key
  | upgradeApp existingKey key _ _ a => TreeShape.upgradeApp existingKey key a
  | registerApp key a => TreeShape.registerApp key a
  | editSocket _ _ => id
  | attachSocket r p => TreeShape.attachSocket r p
  | forgetOrphan e => TreeShape.forgetOrphan e
  | orphan e r => TreeShape.orphan e r
  | dropSynthetic p existing => TreeShape.dropSynthetic p existing
  | eraseTrafficItem i => TreeShape.eraseTrafficItem i
  | clearTupleCounters r => TreeShape.clearTupleCounters r
  | clearTupleItems r => TreeShape.clearTupleItems r
  | eraseSocket c => TreeShape.eraseSocket c
  | eraseProcessSocket p c => TreeShape.eraseProcessSocket p c
  | eraseAppProcess a pid => TreeShape.eraseAppProcess a pid
  | eraseProcess pid => TreeShape.eraseProcess pid
  | eraseTuple r e => TreeShape.eraseTuple r e
  | eraseApp key => TreeShape.eraseApp key
  | takeItemId => TreeShape.takeItemId

theorem shape_apply {m : Change} {t : CounterTree} (hm : m.Proper t) :
    (m.apply t).shape = m.onShape t.shape := by
  cases m with
  | editSocket r f => exact t.shape_editSocket hm.1
  | takeItemId => rfl
  | _ => simp [apply, onShape]

/-- A change that mapping a socket makes. -/
def Maps : Change → Prop
  | addSocket .. => True
  | addProcess .. => True
  | addApp .. => True
  | upgradeApp .. => True
  | _ => False

/-- A change that takes something out of the maps, or remembers it as an orphan. -/
def Drops : Change → Prop
  | orphan .. => True
  | eraseTrafficItem _ => True
  | clearTupleCounters _ => True
  | clearTupleItems _ => True
  | eraseSocket _ => True
  | eraseProcessSocket .. => True
  | eraseAppProcess .. => True
  | eraseProcess _ => True
  | eraseTuple .. => True
  | eraseApp _ => True
  | _ => False

/-- No change gives a reference back. -/
theorem next_le (m : Change) (t : CounterTree) : t.nextItemId ≤ (m.apply t).nextItemId := by
  cases m <;> first | exact Nat.le_succ _ | exact Nat.le_refl _

end Change

/-- An action of the system map. -/
inductive Action where
  | notify (n : Notice)
  | call (counter : CounterId) (call : CounterCall)
  | record (c : MapChange)
  | change (m : Change)

/-- What mapping a socket does besides telling: it changes the maps and records the new socket. -/
def Action.Maps : Action → Prop
  | .change m => m.Maps
  | .record c => ∃ r, c = .addSocketAddition r
  | _ => False

/-- What dropping does besides telling: it changes the maps and records what is marked or removed.
-/
def Action.Drops : Action → Prop
  | .change m => m.Drops
  | .record c => ∃ i, c = .markItemForRemoval i ∨ c = .addItemRemoval i
  | _ => False

/-- What the clients are told of a socket that can change: its addresses, type and state. -/
def SocketItem.visible (item : SocketItem) : SocketTuple × SocketType × SocketConnectionState :=
  (item.socketTuple, item.socketType, item.connectionState)

/-- A call on a counter shows nothing new of a socket. -/
theorem CounterTree.visible_applyCall (who : CounterId) (c : CounterCall) (t : CounterTree)
    (r : Ref) : ((t.applyCall who c).socket r).trafficItem.visible =
      (t.socket r).trafficItem.visible := by
  cases who with
  | socket q =>
    simp only [applyCall, modifySocket, Function.update_apply]
    split
    · rename_i hq
      obtain ⟨b, hb, -⟩ := (t.socket q).trafficItem_call c
      rw [hq, hb]
      rfl
    · rfl
  | _ => rfl

/-- A counter that is neither a process's nor a socket's. -/
def CounterId.Shared : CounterId → Prop
  | .process _ => False
  | .socket _ => False
  | _ => True

/-- A counter that the removal of a process updates: the system's or an application's. -/
def CounterId.Above : CounterId → Prop
  | .system => True
  | .app _ => True
  | _ => False

theorem CounterId.Above.shared {who : CounterId} (hwho : who.Above) : who.Shared := by
  cases who <;> trivial

namespace SystemMap

variable {σ : Type} (h : Handler σ)

/-- Perform an action. -/
def perform (s : SystemMap σ) : Action → SystemMap σ
  | .notify n => notify h n s
  | .call who c => call h who c s
  | .record c => record (fun track m => m.record track c) s
  | .change m => modify m.apply s

variable (C : CounterId → CounterCall → Prop) (K : Action → Prop)

/-- The calls are among `C`, the records and changes among `K`. -/
def Allowed (s : SystemMap σ) : Action → Prop
  | .notify _ => True
  | .call who c => C who c
  | .record c => K (.record c)
  | .change m => m.Proper s.toCounterTree ∧ K (.change m)

/-- The second state is reached from the first one by such actions. -/
def Does : SystemMap σ → SystemMap σ → Prop := Path (perform h) (Allowed C K)

variable {h C K} {s s' : SystemMap σ}

/-! ## Single actions -/

theorem Does.refl (s : SystemMap σ) : Does h C K s s := Relation.ReflTransGen.refl

theorem Does.trans {s₁ s₂ s₃ : SystemMap σ} (h₁ : Does h C K s₁ s₂) (h₂ : Does h C K s₂ s₃) :
    Does h C K s₁ s₃ := Relation.ReflTransGen.trans h₁ h₂

theorem does_notify (n : Notice) (s : SystemMap σ) : Does h C K s (notify h n s) :=
  Path.single (a := Action.notify n) trivial

theorem does_call {who : CounterId} {c : CounterCall} (hC : C who c) (s : SystemMap σ) :
    Does h C K s (call h who c s) := Path.single (a := Action.call who c) hC

theorem does_record (c : MapChange) (hK : K (.record c)) (s : SystemMap σ) :
    Does h C K s (record (fun track m => m.record track c) s) :=
  Path.single (a := Action.record c) hK

theorem does_change (m : Change) {s : SystemMap σ} (hm : m.Proper s.toCounterTree)
    (hK : K (.change m)) :
    Does h C K s (modify m.apply s) := Path.single (a := Action.change m) ⟨hm, hK⟩

theorem does_edit {r : Ref} {f : SocketItem → SocketItem}
    (hm : (Change.editSocket r f).Proper s.toCounterTree) (hK : K (.change (.editSocket r f))) :
    Does h C K s (modify (·.editSocket r f) s) := does_change (.editSocket r f) hm hK

theorem Does.notify (n : Notice) (hs : Does h C K s s') : Does h C K s (notify h n s') :=
  hs.trans (does_notify n s')

theorem Does.call {who : CounterId} {c : CounterCall} (hs : Does h C K s s') (hC : C who c) :
    Does h C K s (SystemMap.call h who c s') := hs.trans (does_call hC s')

theorem Does.record (c : MapChange) (hs : Does h C K s s') (hK : K (.record c)) :
    Does h C K s (record (fun track m => m.record track c) s') := hs.trans (does_record c hK s')

theorem Does.change (m : Change) (hs : Does h C K s s') (hm : m.Proper s'.toCounterTree)
    (hK : K (.change m)) : Does h C K s (modify m.apply s') := hs.trans (does_change m hm hK)

theorem Does.edit {r : Ref} {f : SocketItem → SocketItem} (hs : Does h C K s s')
    (hm : (Change.editSocket r f).Proper s'.toCounterTree) (hK : K (.change (.editSocket r f))) :
    Does h C K s (modify (·.editSocket r f) s') := hs.trans (does_edit hm hK)

theorem Does.foldl {β : Type _} {body : SystemMap σ → β → SystemMap σ} (l : List β)
    {s : SystemMap σ} (hbody : ∀ s e, e ∈ l → Does h C K s (body s e)) :
    Does h C K s (l.foldl body s) := Path.foldl l hbody

theorem Does.foldl_snd {β γ : Type _} {body : γ × SystemMap σ → β → γ × SystemMap σ} (l : List β)
    {c : γ × SystemMap σ} (hbody : ∀ c e, e ∈ l → Does h C K c.2 (body c e).2) :
    Does h C K c.2 (l.foldl body c).2 := Path.foldl_proj Prod.snd l hbody

theorem Does.mono {C' : CounterId → CounterCall → Prop} {K' : Action → Prop}
    (hC : ∀ who c, C who c → C' who c) (hK : ∀ a, K a → K' a) (hs : Does h C K s s') :
    Does h C' K' s s' :=
  Path.mono (Q := Allowed C' K') (fun s a ha => by
    cases a with
    | notify n => trivial
    | call who c => exact hC who c ha
    | record c => exact hK _ ha
    | change m => exact ⟨ha.1, hK _ ha.2⟩) hs

/-- **An invariant of the actions is one of the operation.** -/
theorem Does.keeps {I : SystemMap σ → Prop} (hs : Does h C K s s')
    (hnotify : ∀ n s, I s → I (SystemMap.notify h n s))
    (hcall : ∀ who c s, C who c → I s → I (SystemMap.call h who c s))
    (hrecord : ∀ c s, K (.record c) → I s → I (SystemMap.record (fun track m => m.record track c) s))
    (hchange : ∀ m s, m.Proper s.toCounterTree → K (.change m) → I s → I (modify m.apply s))
    (h0 : I s) :
    I s' :=
  Path.keeps (fun s a hI ha => by
    cases a with
    | notify n => exact hnotify n s hI
    | call who c => exact hcall who c s ha hI
    | record c => exact hrecord c s ha hI
    | change m => exact hchange m s ha.1 ha.2 hI) hs h0

/-! ## Mapping -/

section Mapping

variable (hK : ∀ m, m.Maps → K m)

include hK

theorem does_findOrMapApplication (o : IterOrder) (now : Msec)
    (exePath commandLine appName : String) (s : SystemMap σ) :
    Does h C K s (findOrMapApplication h o now exePath commandLine appName s).2 := by
  rcases findOrMapApplication_cases (h := h) o now exePath commandLine appName s with
    ⟨_, _, he⟩ | ⟨k, hk, ⟨hnone, _⟩, he⟩ | ⟨hnone, _, he⟩
  · rw [he]
    exact .refl s
  · rw [he]
    exact (does_change (.upgradeApp _ _ _ _ _) ⟨hk, hnone⟩ (hK _ trivial)).notify _
  · rw [he]
    exact (does_change (.addApp _ _ _ _) hnone (hK _ trivial)).notify _

theorem does_findOrMapProcess (now : Msec) (pid : ProcessId) (app : Ref) (s : SystemMap σ) :
    Does h C K s (findOrMapProcess h now pid app s).2 := by
  unfold findOrMapProcess
  split
  · exact .refl s
  · rename_i hnone
    exact (does_change (.addProcess _ _ _) hnone (hK _ trivial)).notify _

theorem does_findOrMapSocket (now : Msec) (cookie : SocketCookie) (process : Ref)
    (s : SystemMap σ) : Does h C K s (findOrMapSocket now cookie process s).2 := by
  unfold findOrMapSocket
  split
  · exact .refl s
  · rename_i hnone
    exact (does_change (.addSocket now cookie process) hnone (hK _ trivial)).record
      (.addSocketAddition s.nextItemId) (hK _ ⟨_, rfl⟩)

theorem does_mapNewSocket (env : MapEnv) (cookie : SocketCookie) (pid : ProcessId)
    (s : SystemMap σ) : Does h C K s (mapNewSocket h env cookie pid s).2 :=
  ((does_findOrMapApplication hK _ _ _ _ _ s).trans (does_findOrMapProcess hK _ _ _ _)).trans
    (does_findOrMapSocket hK _ _ _ _)

theorem does_mapSocket (env : MapEnv) (cookie : SocketCookie) (established : Bool)
    (pid : ProcessId) (silentFail : Bool) (s : SystemMap σ) :
    Does h C K s (mapSocket h env cookie established pid silentFail s).2 := by
  unfold mapSocket
  split
  · exact .refl s
  · split
    · split
      · exact .refl s
      · exact .refl s
    · split
      · exact .refl s
      · exact does_mapNewSocket hK env cookie pid s

/-- The socket that is completed from the packet is the one that is returned. -/
theorem does_mapSocketFromTrafficEvent (env : TrafficEnv) (cookie : SocketCookie)
    (d : PacketDirection) (header : Option PacketHeader) (s : SystemMap σ)
    (hedit : ∀ r, (mapSocketFromTrafficEvent h env cookie d header s).1 = some r →
      ∀ f, K (.change (.editSocket r f))) :
    Does h C K s (mapSocketFromTrafficEvent h env cookie d header s).2 := by
  unfold mapSocketFromTrafficEvent at hedit ⊢
  split
  · exact .refl s
  · rename_i header
    simp only at hedit ⊢
    split
    · exact .refl s
    · rename_i hpid
      simp only [if_neg hpid] at hedit
      have hmap := does_mapSocket (h := h) (C := C) hK env.toMapEnv cookie false
        (env.endpointPID (header.local d)) false s
      split
      · exact hmap
      · rename_i r hr
        rw [hr] at hedit
        exact hmap.edit ⟨⟨rfl, rfl, rfl⟩, rfl⟩ (hedit r rfl _)

theorem does_addExistingSocket (env : MapEnv) (isProcessRunning : ProcessId → Bool)
    (hedit : ∀ r f, K (.change (.editSocket r f))) (acc : SocketCookie × SystemMap σ)
    (info : ListenSocketInfo) :
    Does h C K acc.2 (addExistingSocket h env isProcessRunning acc info).2 := by
  unfold addExistingSocket
  split
  · exact .refl _
  · have hmap := does_mapSocket (h := h) (C := C) hK env acc.1 false info.pid false acc.2
    simp only
    split
    · exact hmap
    · exact hmap.edit ⟨⟨rfl, rfl, rfl⟩, rfl⟩ (hedit _ _)

theorem does_addExistingSockets (env : MapEnv) (isProcessRunning : ProcessId → Bool)
    (hedit : ∀ r f, K (.change (.editSocket r f))) (listeningSockets : List ListenSocketInfo)
    (s : SystemMap σ) :
    Does h C K s (addExistingSockets h env isProcessRunning listeningSockets s) :=
  Does.foldl_snd (c := (syntheticCookieBase, s)) listeningSockets
    fun acc info _ => does_addExistingSocket hK env isProcessRunning hedit acc info

omit hK in
theorem orphanedSockets_findOrMapProcess (now : Msec) (pid : ProcessId) (app : Ref)
    (s : SystemMap σ) :
    (findOrMapProcess h now pid app s).2.orphanedSockets = s.orphanedSockets := by
  unfold findOrMapProcess
  split <;> rfl

theorem does_reparentOrphanedSocket (hforget : ∀ e, K (.change (.forgetOrphan e)))
    (hregister : ∀ k a, K (.change (.registerApp k a))) (hattach : ∀ r p, K (.change (.attachSocket r p)))
    (now : Msec) (endpoint : Endpoint) (pid : ProcessId) (s : SystemMap σ) :
    Does h C K s (reparentOrphanedSocket h now endpoint pid s) := by
  unfold reparentOrphanedSocket
  split
  · exact .refl s
  · rename_i r hr
    split
    · exact does_change (.forgetOrphan endpoint) trivial (hforget _)
    · simp only
      generalize hs1 : (if (s.applications.lookup _).isSome then s else _) = s1
      have h1 : Does h C K s s1 ∧ s1.orphanedSockets = s.orphanedSockets := by
        rw [← hs1]
        split
        · exact ⟨.refl s, rfl⟩
        · rename_i hnone
          refine ⟨(does_change (.registerApp _ _) ⟨?_, rfl⟩ (hregister _ _)).notify _, rfl⟩
          exact Option.not_isSome_iff_eq_none.mp hnone
      have h2 := h1.1.trans (does_findOrMapProcess hK now pid
        (s.process (s.socket r).parentProcess).parentApp s1)
      refine ((h2.change (.attachSocket r _) ⟨endpoint, ?_⟩ (hattach _ _)).change
        (.forgetOrphan endpoint) trivial (hforget _)).record (.addSocketAddition r) (hK _ ⟨_, rfl⟩)
      rw [orphanedSockets_findOrMapProcess, h1.2]
      exact hr

end Mapping

/-! ### A new socket -/

theorem findOrMapApplication_keeps (o : IterOrder) (now : Msec)
    (exePath commandLine appName : String) (s : SystemMap σ) :
    let out := (findOrMapApplication h o now exePath commandLine appName s).2
    out.sockets = s.sockets ∧ out.processes = s.processes ∧ s.nextItemId ≤ out.nextItemId := by
  unfold findOrMapApplication
  simp only
  split
  · exact ⟨rfl, rfl, Nat.le_refl _⟩
  · split
    · exact ⟨rfl, rfl, Nat.le_refl _⟩
    · exact ⟨rfl, rfl, Nat.le_refl _⟩
    · exact ⟨rfl, rfl, Nat.le_succ _⟩

/-- The process is the one under its id, or a new one. -/
theorem findOrMapProcess_keeps (now : Msec) (pid : ProcessId) (app : Ref) (s : SystemMap σ) :
    let out := findOrMapProcess h now pid app s
    out.2.sockets = s.sockets ∧ s.nextItemId ≤ out.2.nextItemId ∧
      (s.processes.lookup pid = some out.1 ∨ s.nextItemId ≤ out.1) := by
  unfold findOrMapProcess
  split
  · rename_i p hp
    exact ⟨rfl, Nat.le_refl _, .inl hp⟩
  · exact ⟨rfl, Nat.le_succ _, .inr (Nat.le_refl _)⟩

/-- A socket that `MapSocket` made for a process. -/
structure NewSocket (s : SystemMap σ) (pid : ProcessId) (cookie : SocketCookie)
    (out : Ref × SystemMap σ) : Prop where
  /-- Its reference was not given out before. -/
  new : s.nextItemId ≤ out.1
  item : (out.2.socket out.1).trafficItem = { itemId := out.1, cookie := cookie }
  process : s.processes.lookup pid = some (out.2.socket out.1).parentProcess ∨
    s.nextItemId ≤ (out.2.socket out.1).parentProcess

theorem newSocket_findOrMapSocket (now : Msec) {cookie : SocketCookie} {pid : ProcessId}
    {process : Ref × SystemMap σ} (hunknown : process.2.sockets.lookup cookie = none)
    (hnext : s.nextItemId ≤ process.2.nextItemId)
    (hprocess : s.processes.lookup pid = some process.1 ∨ s.nextItemId ≤ process.1) :
    NewSocket s pid cookie (findOrMapSocket now cookie process.1 process.2) := by
  have hmade : findOrMapSocket now cookie process.1 process.2 =
      (process.2.nextItemId, addSocketAddition process.2.nextItemId
        (modify (·.addSocket now cookie process.1) process.2)) := by
    unfold findOrMapSocket
    rw [hunknown]
  have hnew : (addSocketAddition process.2.nextItemId
      (modify (·.addSocket now cookie process.1) process.2)).socket process.2.nextItemId =
        { toTrafficCounter := .new now { itemId := process.2.nextItemId, cookie := cookie }
          parentProcess := process.1 } := Function.update_self ..
  rw [hmade]
  refine ⟨hnext, congrArg (fun c => c.trafficItem) hnew, ?_⟩
  simp only [hnew]
  exact hprocess

theorem newSocket_mapNewSocket (env : MapEnv) {cookie : SocketCookie} (pid : ProcessId)
    {s : SystemMap σ} (hunknown : s.sockets.lookup cookie = none) :
    NewSocket s pid cookie (mapNewSocket h env cookie pid s) := by
  obtain ⟨hsockets, hprocesses, hnext⟩ := findOrMapApplication_keeps (h := h) env.order env.now
    (processIdentity (env.procInfo pid)).1 (processIdentity (env.procInfo pid)).2.1
    (processIdentity (env.procInfo pid)).2.2 s
  obtain ⟨hsockets', hnext', hprocess⟩ := findOrMapProcess_keeps (h := h) env.now pid
    (findOrMapApplication h env.order env.now (processIdentity (env.procInfo pid)).1
      (processIdentity (env.procInfo pid)).2.1 (processIdentity (env.procInfo pid)).2.2 s).1
    (findOrMapApplication h env.order env.now (processIdentity (env.procInfo pid)).1
      (processIdentity (env.procInfo pid)).2.1 (processIdentity (env.procInfo pid)).2.2 s).2
  refine newSocket_findOrMapSocket env.now ?_ (hnext.trans hnext') ?_
  · rw [hsockets', hsockets]
    exact hunknown
  · rw [hprocesses] at hprocess
    exact hprocess.imp id hnext.trans

/-- An unknown socket that is mapped from a packet is a new one. -/
theorem newSocket_mapSocketFromTrafficEvent (env : TrafficEnv) {cookie : SocketCookie}
    (d : PacketDirection) (header : PacketHeader) {s : SystemMap σ} {r : Ref}
    (hunknown : s.sockets.lookup cookie = none)
    (hr : (mapSocketFromTrafficEvent h env cookie d (some header) s).1 = some r) :
    let out := (mapSocketFromTrafficEvent h env cookie d (some header) s).2
    let made := mapNewSocket h env.toMapEnv cookie (env.endpointPID (header.local d)) s
    cookie ≠ 0 ∧ 0 < env.endpointPID (header.local d) ∧ r = made.1 ∧
      NewSocket s (env.endpointPID (header.local d)) cookie made ∧
      (out.socket r).parentProcess = (made.2.socket r).parentProcess ∧
      (out.socket r).trafficItem.socketTuple.remoteEndpoint =
        (made.2.socket r).trafficItem.socketTuple.remoteEndpoint := by
  unfold mapSocketFromTrafficEvent at hr ⊢
  simp only at hr ⊢
  split at hr
  · cases hr
  · rename_i hpid
    have hpid' : 0 < env.endpointPID (header.local d) := Int.not_le.mp hpid
    unfold mapSocket at hr ⊢
    by_cases hcookie : cookie = 0
    · simp only [if_pos hcookie] at hr
      cases hr
    · have hzero : env.endpointPID (header.local d) ≠ 0 := (Int.ne_of_lt hpid').symm
      simp only [if_neg hpid, if_neg hcookie, if_neg hzero, hunknown] at hr ⊢
      cases hr
      refine ⟨hcookie, hpid', rfl, newSocket_mapNewSocket env.toMapEnv _ hunknown, ?_, ?_⟩
      all_goals
        simp only [modify, CounterTree.editSocket, CounterTree.modifySocket, Function.update_self]

theorem does_processInitialApps (o : IterOrder) (s : SystemMap σ) :
    Does h C K s (processInitialApps h o s) :=
  Does.foldl _ fun s a _ => does_notify (.onAppFirstTimeConnected a) s

theorem does_reparentAcceptedSocket {r : Ref} {s : SystemMap σ}
    (hr : isSocket r s.toCounterTree) (hK : ∀ e, K (.change (.orphan e r))) :
    Does h C K s (reparentAcceptedSocket h r s) := by
  unfold reparentAcceptedSocket
  simp only
  split
  · exact .refl s
  · exact (does_change (.orphan _ r) (.inr hr) (hK _)).notify _

theorem does_processSocketEvent (event : NetEvent) (r : Ref)
    (hK : ∀ f, K (.change (.editSocket r f))) (hlog : ∀ x, K (.record (.addStateChange x)))
    (s : SystemMap σ) : Does h C K s (processSocketEvent h event r s) := by
  unfold processSocketEvent
  simp only
  have hedit : Does h C K s (modify (·.editSocket r event.apply) s) :=
    does_edit ⟨apply_keys event _, toTrafficItem_apply event _⟩ (hK _)
  have hnotify := hedit.notify (.onSocketConnected r)
  split <;> split
  · exact hnotify
  · exact hnotify.record (.addStateChange _) (hlog _)
  · exact hedit
  · exact hedit.record (.addStateChange _) (hlog _)

theorem does_mergeSyntheticSocket (o : IterOrder) (r : Ref) (hK : ∀ f, K (.change (.editSocket r f)))
    (hdrop : ∀ p e, K (.change (.dropSynthetic p e)))
    (hlog : ∀ i, K (.record (.markItemForRemoval i))) (s : SystemMap σ) :
    Does h C K s (mergeSyntheticSocket h o r s) := by
  unfold mergeSyntheticSocket
  simp only
  split
  · exact .refl s
  · split
    · exact .refl s
    · exact (((does_edit ⟨⟨rfl, rfl, rfl⟩, rfl⟩ (hK _)).notify _).change (.dropSynthetic _ _)
        trivial (hdrop _ _)).record (.markItemForRemoval _) (hlog _)

/-! ## Traffic and close events -/

section Traffic

variable (hC : ∀ who c, who.Shared → C who c)

include hC

theorem does_pushFilters (d : PacketDirection) (bytes : WBytes) (remote : Endpoint)
    (s : SystemMap σ) : Does h C K s (pushFilters h d bytes remote s) := by
  unfold pushFilters
  refine Does.foldl _ fun s i _ => ?_
  split
  · exact does_call (hC (.filter i) _ trivial) s
  · exact .refl s

theorem does_pushTrafficForSocket (d : PacketDirection) (bytes : WBytes) (r : Ref)
    {s : SystemMap σ} (hsocket : C (.socket r) (pushCall d bytes))
    (hprocess : C (.process (s.socket r).parentProcess) (pushCall d bytes))
    (hK : K (.change (.editSocket r fun item => { item with connectionState := .connected }))) :
    Does h C K s (pushTrafficForSocket h d bytes r s) := by
  have h1 : Does h C K s (call h (.app (s.process (s.socket r).parentProcess).parentApp)
      (pushCall d bytes) (call h (.process (s.socket r).parentProcess) (pushCall d bytes)
        (call h (.socket r) (pushCall d bytes) s))) :=
    ((does_call hsocket s).call hprocess).call (hC (.app _) _ trivial)
  exact (h1.trans (does_pushFilters hC _ _ _ _)).edit ⟨⟨rfl, rfl, rfl⟩, rfl⟩ hK

theorem does_pushTuple (now : Msec) (d : PacketDirection) (bytes : WBytes) (remote : Endpoint)
    (r : Ref) (hK : K (.change (.addTuple now r remote)))
    (hlog : ∀ u, K (.record (.addTupleAddition remote u))) (s : SystemMap σ) :
    Does h C K s (pushTuple h now d bytes remote r s) := by
  have hget : Does h C K s (getOrCreateUDPTupleCounter h now r remote s).2 := by
    unfold getOrCreateUDPTupleCounter
    split
    · exact .refl s
    · rename_i hnone
      exact (does_change (.addTuple now r remote) hnone hK).notify _
  unfold pushTuple
  simp only
  have h1 := (hget.call (hC (.tuple (getOrCreateUDPTupleCounter h now r remote s).1)
    (pushCall d bytes) trivial)).trans (does_pushFilters hC d bytes remote _)
  split
  · exact h1
  · exact h1.record (.addTupleAddition remote _) (hlog _)

theorem does_doPacketParsing (env : TrafficEnv) (d : PacketDirection) (bytes : WBytes)
    (header : Option PacketHeader) (r : Ref) (hK : ∀ f, K (.change (.editSocket r f)))
    (htuple : ∀ e, K (.change (.addTuple env.now r e))) (hlog : ∀ c, K (.record c))
    (s : SystemMap σ) : Does h C K s (doPacketParsing h env d bytes header r s) := by
  unfold doPacketParsing
  simp only
  split
  · exact .refl s
  · split
    · exact .refl s
    · rename_i header
      have hedit : Does h C K s (modify (·.editSocket r fun _ =>
          (applyPacketHeader env d header (s.socket r).trafficItem).1) s) :=
        does_edit ⟨⟨rfl, rfl, rfl⟩, rfl⟩ (hK _)
      have h1 := hedit.trans
        (does_pushTuple hC env.now d bytes (header.remote d) r (htuple _) (fun _ => hlog _) _)
      split <;> split
      · exact h1.record (.addStateChange _) (hlog _)
      · exact hedit.record (.addStateChange _) (hlog _)
      · exact h1
      · exact hedit

theorem does_closeSocket (now : Msec) (r : Ref) {s : SystemMap σ}
    (hsocket : C (.socket r) (.markForRemoval now))
    (hprocess : C (.process (s.socket r).parentProcess) (.pushIncomingTraffic 0))
    (hK : ∀ f, K (.change (.editSocket r f))) (hlog : ∀ i, K (.record (.markItemForRemoval i))) :
    Does h C K s (closeSocket h now r s) := by
  have h1 : Does h C K s (modify (·.editSocket r fun item =>
      { item with connectionState := .closed }) (call h (.socket r) (.markForRemoval now) s)) :=
    (does_call hsocket s).edit ⟨⟨rfl, rfl, rfl⟩, rfl⟩ (hK _)
  exact (((h1.record (.markItemForRemoval _) (hlog _)).call hprocess).call (hC (.app _) _ trivial)).call (hC .system _ trivial)

/-- Traffic of one socket. -/
theorem does_pushSocket (env : TrafficEnv) (d : PacketDirection) (bytes : WBytes)
    (header : Option PacketHeader) (r : Ref) {s : SystemMap σ}
    (hsocket : C (.socket r) (pushCall d bytes))
    (hprocess : C (.process (s.socket r).parentProcess) (pushCall d bytes))
    (hK : ∀ f, K (.change (.editSocket r f))) (htuple : ∀ e, K (.change (.addTuple env.now r e)))
    (hlog : ∀ c, K (.record c)) :
    Does h C K s (doPacketParsing h env d bytes header r (pushTrafficForSocket h d bytes r s)) :=
  (does_pushTrafficForSocket hC d bytes r hsocket hprocess (hK _)).trans
    (does_doPacketParsing hC env d bytes header r hK htuple hlog _)

theorem does_pushIncomingTraffic (env : TrafficEnv) (cookie : SocketCookie) (bytes : WBytes)
    (header : Option PacketHeader) {s : SystemMap σ}
    (htarget : ∀ r, s.sockets.lookup cookie = some r →
      C (.socket r) (.pushIncomingTraffic bytes) ∧
        C (.process (s.socket r).parentProcess) (.pushIncomingTraffic bytes))
    (hK : ∀ r, s.sockets.lookup cookie = some r →
      (∀ f, K (.change (.editSocket r f))) ∧ ∀ e, K (.change (.addTuple env.now r e)))
    (hlog : ∀ c, K (.record c)) :
    Does h C K s (pushIncomingTraffic h env cookie bytes header s) := by
  unfold pushIncomingTraffic
  simp only
  have hsystem : Does h C K s (call h .system (.pushIncomingTraffic bytes) s) :=
    does_call (hC .system _ trivial) s
  split
  · exact hsystem
  · rename_i r hr
    exact hsystem.trans (does_pushSocket hC env .incoming bytes header r (htarget r hr).1
      (htarget r hr).2 (hK r hr).1 (hK r hr).2 hlog)

omit hC in
/-- The socket that outgoing traffic is counted for. -/
def outgoingSocket (h : Handler σ) (env : TrafficEnv) (cookie : SocketCookie)
    (header : Option PacketHeader) (s : SystemMap σ) : Option Ref × SystemMap σ :=
  match s.sockets.lookup cookie with
  | some r => (some r, s)
  | none => mapSocketFromTrafficEvent h env cookie .outgoing header s

theorem does_pushOutgoingTraffic (env : TrafficEnv) (cookie : SocketCookie) (bytes : WBytes)
    (header : Option PacketHeader) {s : SystemMap σ} (hmaps : ∀ m, m.Maps → K m)
    (htarget : ∀ r,
      let out := outgoingSocket h env cookie header (call h .system (.pushOutgoingTraffic bytes) s)
      out.1 = some r → C (.socket r) (.pushOutgoingTraffic bytes) ∧
        C (.process (out.2.socket r).parentProcess) (.pushOutgoingTraffic bytes))
    (hK : ∀ r, (outgoingSocket h env cookie header
        (call h .system (.pushOutgoingTraffic bytes) s)).1 = some r →
      (∀ f, K (.change (.editSocket r f))) ∧ ∀ e, K (.change (.addTuple env.now r e)))
    (hlog : ∀ c, K (.record c)) :
    Does h C K s (pushOutgoingTraffic h env cookie bytes header s) := by
  have hsystem : Does h C K s (call h .system (.pushOutgoingTraffic bytes) s) :=
    does_call (hC .system _ trivial) s
  have hmapped : Does h C K s (outgoingSocket h env cookie header
      (call h .system (.pushOutgoingTraffic bytes) s)).2 := by
    unfold outgoingSocket at hK ⊢
    split
    · exact hsystem
    · rename_i hunknown
      rw [hunknown] at hK
      exact hsystem.trans (does_mapSocketFromTrafficEvent hmaps env cookie .outgoing header _
        fun r hr => (hK r hr).1)
  unfold pushOutgoingTraffic
  dsimp only
  split
  · exact hmapped
  · rename_i r hr
    exact hmapped.trans (does_pushSocket hC env .outgoing bytes header r (htarget r hr).1
      (htarget r hr).2 (hK r hr).1 (hK r hr).2 hlog)

omit hC in
/-- The parents of the closed socket are touched, the other sockets are not. -/
theorem socket_closeSocket (now : Msec) (r : Ref) (s : SystemMap σ) :
    (closeSocket h now r s).socket = ((s.applyCall (.socket r) (.markForRemoval now)).editSocket r
      fun item => { item with connectionState := .closed }).socket := rfl

omit hC in
theorem parentProcess_closeSocket (now : Msec) (r q : Ref) (s : SystemMap σ) :
    ((closeSocket h now r s).socket q).parentProcess = (s.socket q).parentProcess := by
  rw [socket_closeSocket]
  by_cases hq : q = r
  · subst hq
    simp only [CounterTree.editSocket, CounterTree.applyCall, CounterTree.modifySocket,
      Function.update_self]
  · simp only [CounterTree.editSocket, CounterTree.applyCall, CounterTree.modifySocket,
      Function.update_of_ne hq]

theorem does_markSocketForRemoval (o : IterOrder) (now : Msec) (cookie : SocketCookie)
    (localPort : UInt32) {s : SystemMap σ}
    (htarget : ∀ own r, s.sockets.lookup cookie = some own →
      (r = own ∨ 0 < localPort ∧ findByLocalPort o localPort s.toCounterTree = some r) →
        C (.socket r) (.markForRemoval now) ∧
          C (.process (s.socket r).parentProcess) (.pushIncomingTraffic 0))
    (hK : ∀ r f, K (.change (.editSocket r f))) (hlog : ∀ i, K (.record (.markItemForRemoval i))) :
    Does h C K s (markSocketForRemoval h o now cookie localPort s) := by
  unfold markSocketForRemoval
  split
  · exact .refl s
  · rename_i own hown
    simp only
    obtain ⟨hsocket, hprocess⟩ := htarget own own hown (.inl rfl)
    split
    · rename_i hport
      split
      · rename_i listen hlisten
        obtain ⟨hsocket', hprocess'⟩ := htarget own listen hown (.inr ⟨hport, hlisten⟩)
        have hfirst := does_closeSocket (h := h) (K := K) hC now listen hsocket' hprocess'
          (fun f => hK listen f) hlog
        refine hfirst.trans (does_closeSocket hC now own hsocket ?_ (fun f => hK own f) hlog)
        rw [parentProcess_closeSocket]
        exact hprocess
      · exact does_closeSocket hC now own hsocket hprocess (fun f => hK own f) hlog
    · exact does_closeSocket hC now own hsocket hprocess (fun f => hK own f) hlog

end Traffic

/-! ## Refresh and cleanup -/

section Tick

variable (env : TickEnv)

section Refresh

variable (hC : ∀ who c, who.Shared → C who c) (hrefresh : ∀ who now, C who (.refresh now))

include hrefresh

theorem does_refreshFilter (i : Nat) (s : SystemMap σ) :
    Does h C K s (refreshFilter h env s i) := by
  unfold refreshFilter
  split
  · exact .refl s
  · exact (does_notify _ s).call (hrefresh _ _)

include hC

theorem does_refreshTuple (u : Ref) (s : SystemMap σ) : Does h C K s (refreshTuple h env s u) := by
  unfold refreshTuple
  have h1 : Does h C K s (call h (.tuple u) (.refresh (env.refreshTime (.tuple u))) s) :=
    does_call (hrefresh _ _) s
  simp only
  split
  · exact h1.call (hC (.tuple u) _ trivial)
  · exact h1

theorem does_refreshSocket (r : Ref) (s : SystemMap σ) :
    Does h C K s (refreshSocket h env s r) := by
  unfold refreshSocket
  exact ((does_notify _ s).call (hrefresh (.socket r) _)).trans
    (Does.foldl _ fun s u _ => does_refreshTuple env hC hrefresh u s)

theorem does_refreshCounters (s : SystemMap σ) : Does h C K s (refreshCounters h env s) := by
  unfold refreshCounters
  exact ((((does_call (hrefresh .system _) s).trans
    (Does.foldl _ fun s i _ => does_refreshFilter env hrefresh i s)).trans
    (Does.foldl _ fun s a _ => does_call (hrefresh (.app a) _) s)).trans
    (Does.foldl _ fun s p _ => does_call (hrefresh (.process p) _) s)).trans
    (Does.foldl _ fun s r _ => does_refreshSocket env hC hrefresh r s)

end Refresh

variable (hK : ∀ m, m.Drops → K m)

include hK

theorem does_dropProcessTuple (u : Ref) (s : SystemMap σ) :
    Does h C K s (dropProcessTuple h s u) :=
  ((does_change (.eraseTrafficItem _) trivial (hK _ trivial)).record (.addItemRemoval _)
    (hK _ ⟨_, .inr rfl⟩)).notify _

theorem does_dropProcessCounter (r : Ref) {counter : Ref} (acc : List Endpoint × SystemMap σ)
    (hcounter : ∃ c, acc.2.sockets.lookup c = some counter) :
    Does h C K acc.2 (dropProcessCounter h env r counter acc).2 := by
  unfold dropProcessCounter
  simp only
  have htuples (s : SystemMap σ) : Does h C K s (notify h (.onSocketRemoved counter)
      (modify (·.clearTupleCounters counter)
        ((env.order.values (s.socket counter).udpPerConnectionCounters).foldl
          (dropProcessTuple h) s))) :=
    ((Does.foldl _ fun s u _ => does_dropProcessTuple hK u s).change (.clearTupleCounters counter)
      trivial (hK _ trivial)).notify _
  split
  · exact (does_change (.orphan _ counter) (.inl hcounter) (hK _ trivial)).trans (htuples _)
  · exact htuples _

theorem does_dropProcessSocket (acc : List Endpoint × SystemMap σ) (entry : SocketCookie × Ref) :
    Does h C K acc.2 (dropProcessSocket h env acc entry).2 := by
  unfold dropProcessSocket
  simp only
  have h1 : Does h C K acc.2 (addItemRemoval (acc.2.socket entry.2).trafficItem.itemId
      (modify (·.eraseTrafficItem (acc.2.socket entry.2).trafficItem.itemId) acc.2)) :=
    (does_change (.eraseTrafficItem _) trivial (hK _ trivial)).record (.addItemRemoval _)
      (hK _ ⟨_, .inr rfl⟩)
  have hlast (s : SystemMap σ) : Does h C K s (modify (·.eraseSocket entry.1)
      (modify (·.clearTupleItems entry.2) s)) :=
    (does_change (.clearTupleItems entry.2) trivial (hK _ trivial)).change (.eraseSocket entry.1)
      trivial (hK _ trivial)
  split
  · rename_i counter hcounter
    exact (h1.trans (does_dropProcessCounter env hK entry.2 (acc.1, _)
      ⟨entry.1, hcounter⟩)).trans (hlast _)
  · exact h1.trans (hlast _)

theorem does_removeProcess (hC : ∀ who c, who.Above → C who c) (pid : ProcessId) (p : Ref)
    (s : SystemMap σ) : Does h C K s (removeProcess h env pid p s) := by
  unfold removeProcess
  simp only
  have hcalls : Does h C K s (call h (.app (s.process p).parentApp) (.pushIncomingTraffic 0)
      (call h .system (.pushIncomingTraffic 0) s)) :=
    (does_call (hC .system _ trivial) s).call (hC (.app _) _ trivial)
  have hdropped (l : List (SocketCookie × Ref)) := hcalls.trans
    (Does.foldl_snd (c := (([] : List Endpoint), _)) l fun acc e _ =>
      does_dropProcessSocket (h := h) (C := C) env hK acc e)
  exact ((((((hdropped _).notify _).notify _).change (.eraseAppProcess _ pid)
    trivial (hK _ trivial)).record (.addItemRemoval _) (hK _ ⟨_, .inr rfl⟩)).change (.eraseTrafficItem _) trivial (hK _ trivial)).change
      (.eraseProcess pid) trivial (hK _ trivial)

theorem does_cleanupProcess (hC : ∀ who c, who.Above → C who c)
    (entry : ProcessId × Ref)
    (hmark : C (.process entry.2) (.markForRemoval (env.cleanupTime (.process entry.2))))
    (s : SystemMap σ) : Does h C K s (cleanupProcess h env s entry) := by
  unfold cleanupProcess
  simp only
  have h1 := (does_call (h := h) (K := K) hmark s).record
    (.markItemForRemoval (s.process entry.2).trafficItem.itemId) (hK _ ⟨_, .inl rfl⟩)
  split <;> split
  · exact h1.trans (does_removeProcess env hK hC _ _ _)
  · exact h1
  · exact does_removeProcess env hK hC _ _ _
  · exact .refl s

theorem does_dropSocketTuple (u : Ref) (s : SystemMap σ) :
    Does h C K s (dropSocketTuple s u) := by
  unfold dropSocketTuple
  exact (does_change (.eraseTrafficItem _) trivial (hK _ trivial)).record (.addItemRemoval _)
    (hK _ ⟨_, .inr rfl⟩)

theorem does_removeSocket (cookie : SocketCookie) (r : Ref) (s : SystemMap σ) :
    Does h C K s (removeSocket h env cookie r s) := by
  unfold removeSocket
  simp only
  have hnotified (tuples : List Ref) : Does h C K s (tuples.foldl (fun s u =>
      notify h (.onUDPTupleRemoved u) s) (notify h (.onSocketRemoved r) s)) :=
    (does_notify _ s).trans (Does.foldl tuples fun s u _ => does_notify _ s)
  exact (((((((hnotified _).change (.eraseProcessSocket _ cookie) trivial (hK _ trivial)).change
    (.eraseTrafficItem _) trivial (hK _ trivial)).record (.addItemRemoval _)
      (hK _ ⟨_, .inr rfl⟩)).trans
    (Does.foldl _ fun s u _ => does_dropSocketTuple hK u s)).change (.clearTupleCounters r)
    trivial (hK _ trivial)).change (.clearTupleItems r) trivial (hK _ trivial)).change (.eraseSocket cookie)
    trivial (hK _ trivial)

theorem does_cleanupTuple (r : Ref) (entry : Endpoint × Ref) (s : SystemMap σ) :
    Does h C K s (cleanupTuple h env r s entry) := by
  unfold cleanupTuple
  simp only
  split
  · exact (((does_notify _ s).change (.eraseTrafficItem _) trivial (hK _ trivial)).record
      (.addItemRemoval _) (hK _ ⟨_, .inr rfl⟩)).change
      (.eraseTuple r entry.1) trivial (hK _ trivial)
  · exact .refl s

theorem does_cleanupSocket (entry : SocketCookie × Ref) (s : SystemMap σ)
    (hmark : isStaleSocket env entry.2 s.toCounterTree = true →
      C (.socket entry.2) (.markForRemoval (env.cleanupTime (.socket entry.2)))) :
    Does h C K s (cleanupSocket h env s entry) := by
  unfold cleanupSocket
  simp only
  split
  · exact does_removeSocket env hK _ _ s
  · split
    · rename_i hstale
      exact (does_call (hmark hstale) s).trans
        (Does.foldl _ fun s e _ => does_cleanupTuple env hK _ e s)
    · exact Does.foldl _ fun s e _ => does_cleanupTuple env hK _ e s

theorem does_cleanupApp (entry : String × Ref) (s : SystemMap σ) :
    Does h C K s (cleanupApp s entry) := by
  unfold cleanupApp
  simp only
  split
  · exact ((does_record (.addItemRemoval _) (hK _ ⟨_, .inr rfl⟩) s).change (.eraseTrafficItem _) trivial (hK _ trivial)).change
      (.eraseApp entry.1) trivial (hK _ trivial)
  · exact .refl s

theorem does_cleanup (hC : ∀ who c, who.Shared → C who c)
    (hprocess : ∀ p, C (.process p) (.markForRemoval (env.cleanupTime (.process p))))
    (hsocket : ∀ r, C (.socket r) (.markForRemoval (env.cleanupTime (.socket r))))
    (s : SystemMap σ) : Does h C K s (cleanup h env s) := by
  unfold cleanup
  exact ((Does.foldl _ fun s e _ => does_cleanupProcess env hK
    (fun who c hwho => hC who c hwho.shared) e (hprocess e.2) s).trans
    (Does.foldl _ fun s e _ => does_cleanupSocket env hK e s fun _ => hsocket e.2)).trans
    (Does.foldl _ fun s e _ => does_cleanupApp hK e s)

theorem does_refreshAllTrafficCounters (hC : ∀ who c, who.Shared → C who c)
    (hrefresh : ∀ who now, C who (.refresh now))
    (hprocess : ∀ p, C (.process p) (.markForRemoval (env.cleanupTime (.process p))))
    (hsocket : ∀ r, C (.socket r) (.markForRemoval (env.cleanupTime (.socket r))))
    (s : SystemMap σ) : Does h C K s (refreshAllTrafficCounters h env s) :=
  (does_refreshCounters env hC hrefresh s).trans (does_cleanup env hK hC hprocess hsocket _)

end Tick

/-- **Every operation is a path of actions.** -/
theorem does_step (s : SystemMap σ) (op : SystemMapOp) :
    Does h (fun _ _ => True) (fun _ => True) s (step h s op) := by
  cases op with
  | mapSocket env cookie established pid silentFail =>
    exact does_mapSocket (fun _ _ => trivial) env cookie established pid silentFail s
  | mapSocketFromTrafficEvent env cookie d header =>
    exact does_mapSocketFromTrafficEvent (fun _ _ => trivial) env cookie d header s
      fun _ _ _ => trivial
  | addExistingSockets env isProcessRunning listeningSockets =>
    exact does_addExistingSockets (fun _ _ => trivial) env isProcessRunning
      (fun _ _ => trivial) listeningSockets s
  | processInitialApps o => exact does_processInitialApps o s
  | processSocketEvent event r =>
    simp only [step]
    split
    · exact does_processSocketEvent event r (fun _ => trivial) (fun _ => trivial) s
    · exact .refl s
  | mergeSyntheticSocket o r =>
    simp only [step]
    split
    · exact does_mergeSyntheticSocket o r (fun _ => trivial) (fun _ _ => trivial) (fun _ => trivial) s
    · exact .refl s
  | markSocketForRemoval o now cookie localPort =>
    exact does_markSocketForRemoval (fun _ _ _ => trivial) o now cookie localPort
      (fun _ _ _ _ => ⟨trivial, trivial⟩) (fun _ _ => trivial) fun _ => trivial
  | reparentAcceptedSocket r =>
    simp only [step]
    split
    · rename_i hr
      exact does_reparentAcceptedSocket hr fun _ => trivial
    · exact .refl s
  | reparentOrphanedSocket now endpoint pid =>
    exact does_reparentOrphanedSocket (fun _ _ => trivial) (fun _ => trivial)
      (fun _ _ => trivial) (fun _ _ => trivial) now endpoint pid s
  | pushIncomingTraffic env cookie bytes header =>
    exact does_pushIncomingTraffic (fun _ _ _ => trivial) env cookie bytes header
      (fun _ _ => ⟨trivial, trivial⟩) (fun _ _ => ⟨fun _ => trivial, fun _ => trivial⟩)
      fun _ => trivial
  | pushOutgoingTraffic env cookie bytes header =>
    exact does_pushOutgoingTraffic (fun _ _ _ => trivial) env cookie bytes header
      (fun _ _ => trivial) (fun _ _ => ⟨trivial, trivial⟩)
      (fun _ _ => ⟨fun _ => trivial, fun _ => trivial⟩) fun _ => trivial
  | refreshAllTrafficCounters env =>
    exact does_refreshAllTrafficCounters env (fun _ _ => trivial) (fun _ _ _ => trivial)
      (fun _ _ => trivial) (fun _ => trivial) (fun _ => trivial) s
  | takeItemId => exact does_change .takeItemId trivial trivial

end SystemMap

end Waechter
