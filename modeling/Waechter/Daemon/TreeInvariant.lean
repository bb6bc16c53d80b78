import Waechter.Daemon.TreeShape

/-!
# The invariant of the two trees

`TreeInv` ties the maps of `WSystemMap` to the tree of items. Each change the system map makes to a
shape keeps it, under the conditions the operations make the change under.
-/

namespace Waechter

open Lib

namespace TreeShape

/-- What is in the maps, by type. Every item knows the key it is under. -/
def Live (t : TreeShape) : TrafficItemType → Ref → Prop
  | .system, i => i = 0
  | .application, i => t.apps (t.appPath i) = some i
  | .process, i => t.procs (t.procPid i) = some i
  | .socket, i => t.socks (t.sockCookie i) = some i
  | .tuple, i => t.socks (t.sockCookie (t.tupSock i)) = some (t.tupSock i) ∧
      t.sockTuples (t.tupSock i) (t.tupEnd i) = some i
  | .filter, _ => False

/-- A process in `Processes`. -/
structure ProcessOk (t : TreeShape) (pid : ProcessId) (p : Ref) : Prop where
  parent : t.apps (t.appPath (t.procApp p)) = some (t.procApp p)
  held : t.appProcs (t.procApp p) pid = some p
  itemId : t.procId p = p
  processId : t.procPid p = pid

/-- A socket in `Sockets`. -/
structure SocketOk (t : TreeShape) (c : SocketCookie) (r : Ref) : Prop where
  parent : t.procs (t.procPid (t.sockProc r)) = some (t.sockProc r)
  held : t.procSocks (t.sockProc r) c = some r
  itemId : t.sockId r = r
  cookie : t.sockCookie r = c

/-- A tuple of a socket. -/
structure TupleOk (t : TreeShape) (r : Ref) (e : Endpoint) (u : Ref) : Prop where
  parent : t.tupSock u = r
  itemId : t.tupId u = u
  endpoint : t.tupEnd u = e

/-- The invariant. Where `x p c`, the item of process `p` may hold something under the cookie `c`
that is not in `Sockets` any more. -/
structure TreeInv (x : Ref → SocketCookie → Prop) (t : TreeShape) : Prop where
  systemApps : ∀ k, t.sysApps k = t.apps k
  app : ∀ k a, t.apps k = some a → t.appPath a = k ∧ t.appId a = a
  process : ∀ pid p, t.procs pid = some p → t.ProcessOk pid p
  socket : ∀ c r, t.socks c = some r → t.SocketOk c r
  tuple : ∀ c r, t.socks c = some r → ∀ e u, t.sockTuples r e = some u → t.TupleOk r e u
  traffic : ∀ c r, t.socks c = some r → ∀ u, u ∈ t.sockTraffic r ↔ ∃ e, t.sockTuples r e = some u
  held : ∀ pid p, t.procs pid = some p → ∀ c r, t.procSocks p c = some r →
    x p c ∨ (t.socks c = some r ∧ t.sockProc r = p)
  items : ∀ i ty, t.items i = some ty ↔ t.Live ty i
  fresh : ∀ i ty, t.items i = some ty → i < t.next
  orphan : ∀ e r, t.orphans e = some r → t.sockId r = r

/-- A list of the tuples of a socket: their references. -/
def IsTuplesOf (t : TreeShape) (r : Ref) (us : List Ref) : Prop :=
  ∀ u, u ∈ us ↔ ∃ e, t.sockTuples r e = some u

namespace TreeInv

variable {x y : Ref → SocketCookie → Prop} {t : TreeShape}

theorem mono (h : TreeInv x t) (hxy : ∀ p c, x p c → y p c) : TreeInv y t :=
  { h with held := fun pid p hp c r hr => (h.held pid p hp c r hr).imp (hxy p c) id }

/-! ### What is in the maps is in `TrafficItems`, and older than the next reference -/

theorem items_app (h : TreeInv x t) {k : String} {a : Ref} (hk : t.apps k = some a) :
    t.items a = some .application := by
  refine (h.items a .application).mpr ?_
  simp only [Live]
  rw [(h.app k a hk).1]
  exact hk

theorem items_process (h : TreeInv x t) {pid : ProcessId} {p : Ref} (hp : t.procs pid = some p) :
    t.items p = some .process := by
  refine (h.items p .process).mpr ?_
  simp only [Live]
  rw [(h.process pid p hp).processId]
  exact hp

theorem items_socket (h : TreeInv x t) {c : SocketCookie} {r : Ref} (hr : t.socks c = some r) :
    t.items r = some .socket := by
  refine (h.items r .socket).mpr ?_
  simp only [Live]
  rw [(h.socket c r hr).cookie]
  exact hr

theorem items_tuple (h : TreeInv x t) {c : SocketCookie} {r : Ref} (hr : t.socks c = some r)
    {e : Endpoint} {u : Ref} (hu : t.sockTuples r e = some u) : t.items u = some .tuple := by
  refine (h.items u .tuple).mpr ?_
  have hok := h.tuple c r hr e u hu
  simp only [Live]
  rw [hok.parent, hok.endpoint, (h.socket c r hr).cookie]
  exact ⟨hr, hu⟩

theorem app_lt (h : TreeInv x t) {k : String} {a : Ref} (hk : t.apps k = some a) : a < t.next :=
  h.fresh _ _ (h.items_app hk)

theorem process_lt (h : TreeInv x t) {pid : ProcessId} {p : Ref} (hp : t.procs pid = some p) :
    p < t.next := h.fresh _ _ (h.items_process hp)

theorem socket_lt (h : TreeInv x t) {c : SocketCookie} {r : Ref} (hr : t.socks c = some r) :
    r < t.next := h.fresh _ _ (h.items_socket hr)

theorem tuple_lt (h : TreeInv x t) {c : SocketCookie} {r : Ref} (hr : t.socks c = some r)
    {e : Endpoint} {u : Ref} (hu : t.sockTuples r e = some u) : u < t.next :=
  h.fresh _ _ (h.items_tuple hr hu)

attribute [local grind =] Function.update_apply
attribute [local grind cases] ProcessOk SocketOk TupleOk
attribute [local grind →] app_lt process_lt socket_lt tuple_lt items_app items_process
  items_socket items_tuple

/-! ### Adding -/

theorem addSocket (h : TreeInv x t) {c : SocketCookie} {p : Ref} {pid : ProcessId}
    (hp : t.procs pid = some p) (hc : t.socks c = none) : TreeInv x (t.addSocket c p) := by
  have h1 := h.process
  have h2 := h.socket
  have h3 := h.tuple
  have h4 := h.held
  have h5 := h.fresh
  have h6 := h.orphan
  constructor <;> simp only [TreeShape.addSocket]
  · exact h.systemApps
  · exact h.app
  · intro pid p hp
    obtain ⟨j1, j2, j3, j4⟩ := h1 pid p hp
    exact ⟨j1, j2, j3, j4⟩
  · intro d r hr
    constructor <;> simp only <;> grind
  · intro d r hr e u hu
    constructor <;> simp only <;> grind
  · have := h.traffic
    grind
  · grind
  · intro i ty
    have := h.items i ty
    cases ty <;> simp only [Live] at * <;> grind
  · grind
  · grind

theorem addProcess (h : TreeInv x t) {pid : ProcessId} {a : Ref} {k : String}
    (ha : t.apps k = some a) (hp : t.procs pid = none) : TreeInv x (t.addProcess pid a) := by
  have h1 := h.process
  have h2 := h.socket
  have h4 := h.held
  have h5 := h.fresh
  have h0 := h.app
  constructor <;> simp only [TreeShape.addProcess]
  · exact h.systemApps
  · exact h.app
  · intro q p hq
    constructor <;> simp only <;> grind
  · intro c r hr
    constructor <;> simp only <;> grind
  · intro c r hr e u hu
    obtain ⟨j1, j2, j3⟩ := h.tuple c r hr e u hu
    exact ⟨j1, j2, j3⟩
  · exact h.traffic
  · grind
  · intro i ty
    have := h.items i ty
    cases ty <;> simp only [Live] at * <;> grind
  · grind
  · exact h.orphan

theorem addApp (h : TreeInv x t) {k : String} (hk : t.apps k = none) :
    TreeInv x (t.addApp k) := by
  have h0 := h.app
  have h1 := h.process
  have h5 := h.fresh
  have h6 := h.systemApps
  constructor <;> simp only [TreeShape.addApp, TreeShape.registerApp]
  · grind
  · grind
  · intro q p hq
    constructor <;> simp only <;> grind
  · intro c r hr
    obtain ⟨j1, j2, j3, j4⟩ := h.socket c r hr
    exact ⟨j1, j2, j3, j4⟩
  · intro c r hr e u hu
    obtain ⟨j1, j2, j3⟩ := h.tuple c r hr e u hu
    exact ⟨j1, j2, j3⟩
  · exact h.traffic
  · exact h.held
  · intro i ty
    have := h.items i ty
    cases ty <;> simp only [Live] at * <;> grind
  · grind
  · exact h.orphan

theorem upgradeApp (h : TreeInv x t) {existingKey key : String} {a : Ref}
    (ha : t.apps existingKey = some a) (hk : t.apps key = none) :
    TreeInv x (t.upgradeApp existingKey key a) := by
  have h0 := h.app
  have h1 := h.process
  have h6 := h.systemApps
  constructor <;> simp only [TreeShape.upgradeApp]
  · grind
  · grind
  · intro q p hq
    constructor <;> simp only <;> grind
  · intro c r hr
    obtain ⟨j1, j2, j3, j4⟩ := h.socket c r hr
    exact ⟨j1, j2, j3, j4⟩
  · intro c r hr e u hu
    obtain ⟨j1, j2, j3⟩ := h.tuple c r hr e u hu
    exact ⟨j1, j2, j3⟩
  · exact h.traffic
  · exact h.held
  · intro i ty
    have := h.items i ty
    cases ty <;> simp only [Live] at * <;> grind
  · exact h.fresh
  · exact h.orphan

theorem addTuple (h : TreeInv x t) {c : SocketCookie} {r : Ref} {e : Endpoint}
    (hr : t.socks c = some r) (he : t.sockTuples r e = none) : TreeInv x (t.addTuple r e) := by
  have h2 := h.socket
  have h3 := h.tuple
  have h5 := h.fresh
  constructor <;> simp only [TreeShape.addTuple]
  · exact h.systemApps
  · exact h.app
  · intro q p hq
    obtain ⟨j1, j2, j3, j4⟩ := h.process q p hq
    exact ⟨j1, j2, j3, j4⟩
  · intro d q hq
    obtain ⟨j1, j2, j3, j4⟩ := h.socket d q hq
    exact ⟨j1, j2, j3, j4⟩
  · intro d q hq f u hu
    constructor <;> simp only <;> grind
  · have := h.traffic
    grind
  · exact h.held
  · intro i ty
    have := h.items i ty
    cases ty <;> simp only [Live] at * <;> grind
  · grind
  · exact h.orphan

/-! ### Removing -/

/-- The ids of the tuples of a socket in the maps are their references. -/
theorem mem_map_tupId (h : TreeInv x t) {c : SocketCookie} {r : Ref} (hr : t.socks c = some r)
    {us : List Ref} (hus : IsTuplesOf t r us) (i : TrafficItemId) :
    i ∈ us.map t.tupId ↔ t.sockTuples r (t.tupEnd i) = some i := by
  rw [List.mem_map]
  constructor
  · rintro ⟨u, hu, rfl⟩
    obtain ⟨e, he⟩ := (hus u).mp hu
    obtain ⟨_, j2, j3⟩ := h.tuple c r hr e u he
    rw [j2, j3]
    exact he
  · intro hi
    exact ⟨i, (hus i).mpr ⟨_, hi⟩, (h.tuple c r hr _ i hi).itemId⟩

/-- A socket leaves the maps with its tuples, and stays with the item of its process. -/
theorem dropSocket (h : TreeInv x t) {c : SocketCookie} {r : Ref} (hr : t.socks c = some r)
    {us : List Ref} (hus : IsTuplesOf t r us) :
    TreeInv (fun p d => x p d ∨ (p = t.sockProc r ∧ d = c))
      (((((t.eraseTrafficItem (t.sockId r)).eraseTrafficItems (us.map t.tupId)).clearTupleCounters
        r).clearTupleItems r).eraseSocket c) := by
  have hids := h.mem_map_tupId hr hus
  have h2 := h.socket
  have h3 := h.tuple
  have h4 := h.held
  constructor <;> simp only [TreeShape.eraseTrafficItem, TreeShape.eraseTrafficItems,
    TreeShape.clearTupleCounters, TreeShape.clearTupleItems, TreeShape.eraseSocket]
  · exact h.systemApps
  · exact h.app
  · intro q p hq
    obtain ⟨j1, j2, j3, j4⟩ := h.process q p hq
    exact ⟨j1, j2, j3, j4⟩
  · intro d q hq
    constructor <;> simp only <;> grind
  · intro d q hq f u hu
    constructor <;> simp only <;> grind
  · have := h.traffic
    grind
  · grind
  · intro i ty
    have := h.items i ty
    have := hids i
    cases ty <;> simp only [Live] at * <;> grind
  · have := h.fresh
    grind
  · exact h.orphan

/-- A socket leaves the maps, with its tuples, and the item of its process. -/
theorem removeSocket (h : TreeInv x t) {c : SocketCookie} {r : Ref} (hr : t.socks c = some r)
    {us : List Ref} (hus : IsTuplesOf t r us) :
    TreeInv x ((((((t.eraseProcessSocket (t.sockProc r) c).eraseTrafficItem
      (t.sockId r)).eraseTrafficItems (us.map t.tupId)).clearTupleCounters r).clearTupleItems
        r).eraseSocket c) := by
  have hids := h.mem_map_tupId hr hus
  have h2 := h.socket
  have h3 := h.tuple
  have h4 := h.held
  constructor <;> simp only [TreeShape.eraseTrafficItem, TreeShape.eraseTrafficItems,
    TreeShape.clearTupleCounters, TreeShape.clearTupleItems, TreeShape.eraseSocket,
    TreeShape.eraseProcessSocket]
  · exact h.systemApps
  · exact h.app
  · intro q p hq
    obtain ⟨j1, j2, j3, j4⟩ := h.process q p hq
    exact ⟨j1, j2, j3, j4⟩
  · intro d q hq
    constructor <;> simp only <;> grind
  · intro d q hq f u hu
    constructor <;> simp only <;> grind
  · have := h.traffic
    grind
  · grind
  · intro i ty
    have := h.items i ty
    have := hids i
    cases ty <;> simp only [Live] at * <;> grind
  · have := h.fresh
    grind
  · exact h.orphan

theorem dropSynthetic (h : TreeInv x t) {c : SocketCookie} {r : Ref} (hr : t.socks c = some r)
    (hu : ∀ e, t.sockTuples r e = none) : TreeInv x (t.dropSynthetic (t.sockProc r) (c, r)) := by
  have h2 := h.socket
  have h3 := h.tuple
  have h4 := h.held
  constructor <;> simp only [TreeShape.dropSynthetic, TreeShape.eraseTrafficItem,
    TreeShape.eraseSocket, TreeShape.eraseProcessSocket]
  · exact h.systemApps
  · exact h.app
  · intro q p hq
    obtain ⟨j1, j2, j3, j4⟩ := h.process q p hq
    exact ⟨j1, j2, j3, j4⟩
  · intro d q hq
    constructor <;> simp only <;> grind
  · intro d q hq f u hu
    constructor <;> simp only <;> grind
  · have := h.traffic
    grind
  · grind
  · intro i ty
    have := h.items i ty
    cases ty <;> simp only [Live] at * <;> grind
  · have := h.fresh
    grind
  · exact h.orphan

theorem eraseTuple (h : TreeInv x t) {c : SocketCookie} {r : Ref} (hr : t.socks c = some r)
    {e : Endpoint} {u : Ref} (hu : t.sockTuples r e = some u) :
    TreeInv x ((t.eraseTrafficItem (t.tupId u)).eraseTuple r e) := by
  have h2 := h.socket
  have h3 := h.tuple
  constructor <;> simp only [TreeShape.eraseTrafficItem, TreeShape.eraseTuple]
  · exact h.systemApps
  · exact h.app
  · intro q p hq
    obtain ⟨j1, j2, j3, j4⟩ := h.process q p hq
    exact ⟨j1, j2, j3, j4⟩
  · intro d q hq
    obtain ⟨j1, j2, j3, j4⟩ := h.socket d q hq
    exact ⟨j1, j2, j3, j4⟩
  · intro d q hq f u hu
    constructor <;> simp only <;> grind
  · have := h.traffic
    grind
  · exact h.held
  · intro i ty
    have := h.items i ty
    cases ty <;> simp only [Live] at * <;> grind
  · have := h.fresh
    grind
  · exact h.orphan

/-- A process leaves the maps when nothing it holds is in `Sockets` any more. -/
theorem eraseProcess {p : Ref} (h : TreeInv (fun q c => q = p ∧ t.socks c = none) t)
    {pid : ProcessId} (hp : t.procs pid = some p)
    (hempty : ∀ c r, t.procSocks p c = some r → t.socks c = none) :
    TreeInv x (((t.eraseAppProcess (t.procApp p) pid).eraseTrafficItem (t.procId p)).eraseProcess
      pid) := by
  have h1 := h.process
  have h2 := h.socket
  have h3 := h.tuple
  have h4 := h.held
  constructor <;> simp only [TreeShape.eraseTrafficItem, TreeShape.eraseAppProcess,
    TreeShape.eraseProcess]
  · exact h.systemApps
  · exact h.app
  · intro q p hq
    constructor <;> simp only <;> grind
  · intro d q hq
    constructor <;> simp only <;> grind
  · intro d q hq f u hu
    obtain ⟨j1, j2, j3⟩ := h.tuple d q hq f u hu
    exact ⟨j1, j2, j3⟩
  · exact h.traffic
  · grind
  · intro i ty
    have := h.items i ty
    cases ty <;> simp only [Live] at * <;> grind
  · have := h.fresh
    grind
  · exact h.orphan

theorem eraseApp (h : TreeInv x t) {k : String} {a : Ref} (ha : t.apps k = some a)
    (hempty : ∀ pid, t.appProcs a pid = none) :
    TreeInv x ((t.eraseTrafficItem (t.appId a)).eraseApp k) := by
  have h0 := h.app
  have h1 := h.process
  have h6 := h.systemApps
  constructor <;> simp only [TreeShape.eraseTrafficItem, TreeShape.eraseApp]
  · grind
  · grind
  · intro q p hq
    constructor <;> simp only <;> grind
  · intro d q hq
    obtain ⟨j1, j2, j3, j4⟩ := h.socket d q hq
    exact ⟨j1, j2, j3, j4⟩
  · intro d q hq f u hu
    obtain ⟨j1, j2, j3⟩ := h.tuple d q hq f u hu
    exact ⟨j1, j2, j3⟩
  · exact h.traffic
  · exact h.held
  · intro i ty
    have := h.items i ty
    cases ty <;> simp only [Live] at * <;> grind
  · have := h.fresh
    grind
  · exact h.orphan

/-! ### Orphans and ids -/

/-- The invariant does not depend on the orphans and on the next id otherwise. -/
theorem withOrphans (h : TreeInv x t) {n : TrafficItemId} (hn : t.next ≤ n)
    {o : Endpoint → Option Ref} (ho : ∀ e r, o e = some r → t.sockId r = r) :
    TreeInv x { t with next := n, orphans := o } where
  systemApps := h.systemApps
  app := h.app
  process := fun pid p hp =>
    let ⟨j1, j2, j3, j4⟩ := h.process pid p hp
    ⟨j1, j2, j3, j4⟩
  socket := fun c r hr =>
    let ⟨j1, j2, j3, j4⟩ := h.socket c r hr
    ⟨j1, j2, j3, j4⟩
  tuple := fun c r hr e u hu =>
    let ⟨j1, j2, j3⟩ := h.tuple c r hr e u hu
    ⟨j1, j2, j3⟩
  traffic := h.traffic
  held := h.held
  items := fun i ty => by
    rw [h.items i ty]
    cases ty <;> rfl
  fresh := fun i ty hi => Nat.lt_of_lt_of_le (h.fresh i ty hi) hn
  orphan := ho

theorem orphanSocket (h : TreeInv x t) (e : Endpoint) {r : Ref} (hr : t.sockId r = r) :
    TreeInv x (t.orphan e r) := by
  refine h.withOrphans (Nat.le_refl _) fun f q hq => ?_
  rw [Function.update_apply] at hq
  split at hq
  · exact Option.some.inj hq ▸ hr
  · exact h.orphan f q hq

theorem forgetOrphan (h : TreeInv x t) (e : Endpoint) : TreeInv x (t.forgetOrphan e) := by
  refine h.withOrphans (Nat.le_refl _) fun f q hq => ?_
  rw [Function.update_apply] at hq
  split at hq
  · exact absurd hq (by simp)
  · exact h.orphan f q hq

theorem takeItemId (h : TreeInv x t) : TreeInv x t.takeItemId :=
  h.withOrphans (Nat.le_succ _) h.orphan

/-- A socket that its process holds already under its own cookie is put where it is. -/
theorem attachSocket (h : TreeInv x t) {c : SocketCookie} {r : Ref} (hr : t.socks c = some r)
    (hid : t.sockId r = t.sockCookie r) : t.attachSocket r (t.sockProc r) = t := by
  obtain ⟨_, j2, j3, j4⟩ := h.socket c r hr
  apply TreeShape.ext <;> (try funext q) <;> (try funext k) <;>
    simp only [TreeShape.attachSocket] <;> grind

end TreeInv

end TreeShape

end Waechter
