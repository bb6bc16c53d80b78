import Waechter.Daemon.Cleanup

/-!
# The shape of the two trees

`TreeShape` is what the tree of counters and the tree of items look like from outside: which
applications, processes, sockets and UDP tuples there are, who holds whom under which key, and
which ids are in `TrafficItems`. Bytes, speeds, names and connection states are left out, and a
hash map is the function its `lookup` is.

Every change the system map makes to its trees has its counterpart here (`shape_*`), so what the
operations do to the trees is read off the shapes. Counter calls and the edits of a socket's
addresses and states leave the shape alone (`shape_applyCall`, `shape_editSocket`).
-/

namespace Waechter

open Lib

/-- The shape of the two trees. -/
@[ext] structure TreeShape where
  next : TrafficItemId
  /-- `SystemItem->Applications`. -/
  sysApps : String → Option Ref
  apps : String → Option Ref
  procs : ProcessId → Option Ref
  socks : SocketCookie → Option Ref
  items : TrafficItemId → Option TrafficItemType
  orphans : Endpoint → Option Ref
  appId : Ref → TrafficItemId
  appPath : Ref → String
  appProcs : Ref → ProcessId → Option Ref
  procId : Ref → TrafficItemId
  procPid : Ref → ProcessId
  procApp : Ref → Ref
  procSocks : Ref → SocketCookie → Option Ref
  sockId : Ref → TrafficItemId
  sockCookie : Ref → SocketCookie
  sockProc : Ref → Ref
  /-- `UDPPerConnectionCounters`. -/
  sockTuples : Ref → Endpoint → Option Ref
  /-- `UDPPerConnectionTraffic`. -/
  sockTraffic : Ref → List Ref
  tupId : Ref → TrafficItemId
  tupSock : Ref → Ref
  tupEnd : Ref → Endpoint

namespace TreeShape

open Function (update)

/-! ## Changes -/

def addTuple (r : Ref) (e : Endpoint) (t : TreeShape) : TreeShape :=
  { t with
    next := t.next + 1
    items := update t.items t.next (some .tuple)
    sockTuples := fun q f => if q = r ∧ f = e then some t.next else t.sockTuples q f
    sockTraffic := update t.sockTraffic r (t.sockTraffic r ++ [t.next])
    tupId := update t.tupId t.next t.next
    tupSock := update t.tupSock t.next r
    tupEnd := update t.tupEnd t.next e }

def addSocket (c : SocketCookie) (p : Ref) (t : TreeShape) : TreeShape :=
  { t with
    next := t.next + 1
    socks := update t.socks c (some t.next)
    items := update t.items t.next (some .socket)
    procSocks := fun q k => if q = p ∧ k = c then some t.next else t.procSocks q k
    sockId := update t.sockId t.next t.next
    sockCookie := update t.sockCookie t.next c
    sockProc := update t.sockProc t.next p
    sockTuples := fun q e => if q = t.next then none else t.sockTuples q e
    sockTraffic := update t.sockTraffic t.next [] }

def addProcess (pid : ProcessId) (a : Ref) (t : TreeShape) : TreeShape :=
  { t with
    next := t.next + 1
    procs := update t.procs pid (some t.next)
    items := update t.items t.next (some .process)
    appProcs := fun q k => if q = a ∧ k = pid then some t.next else t.appProcs q k
    procId := update t.procId t.next t.next
    procPid := update t.procPid t.next pid
    procApp := update t.procApp t.next a
    procSocks := fun q k => if q = t.next then none else t.procSocks q k }

def registerApp (key : String) (a : Ref) (t : TreeShape) : TreeShape :=
  { t with
    sysApps := update t.sysApps key (some a)
    apps := update t.apps key (some a)
    items := update t.items a (some .application) }

def addApp (key : String) (t : TreeShape) : TreeShape :=
  registerApp key t.next
    { t with
      next := t.next + 1
      appId := update t.appId t.next t.next
      appPath := update t.appPath t.next key
      appProcs := fun q k => if q = t.next then none else t.appProcs q k }

def upgradeApp (existingKey key : String) (a : Ref) (t : TreeShape) : TreeShape :=
  { t with
    sysApps := fun k => if k = key then some a else if k = existingKey then none else t.sysApps k
    apps := fun k => if k = key then some a else if k = existingKey then none else t.apps k
    appPath := update t.appPath a key }

def attachSocket (r p : Ref) (t : TreeShape) : TreeShape :=
  { t with
    sockProc := update t.sockProc r p
    procSocks := fun q k => if q = p ∧ k = t.sockId r then some r else t.procSocks q k
    socks := update t.socks (t.sockCookie r) (some r) }

def forgetOrphan (e : Endpoint) (t : TreeShape) : TreeShape :=
  { t with orphans := update t.orphans e none }

def orphan (e : Endpoint) (r : Ref) (t : TreeShape) : TreeShape :=
  { t with orphans := update t.orphans e (some r) }

def eraseTrafficItem (i : TrafficItemId) (t : TreeShape) : TreeShape :=
  { t with items := update t.items i none }

/-- Erase a list of ids from `TrafficItems`. -/
def eraseTrafficItems (is : List TrafficItemId) (t : TreeShape) : TreeShape :=
  { t with items := fun i => if i ∈ is then none else t.items i }

def clearTupleCounters (r : Ref) (t : TreeShape) : TreeShape :=
  { t with sockTuples := fun q e => if q = r then none else t.sockTuples q e }

def clearTupleItems (r : Ref) (t : TreeShape) : TreeShape :=
  { t with sockTraffic := update t.sockTraffic r [] }

def eraseSocket (c : SocketCookie) (t : TreeShape) : TreeShape :=
  { t with socks := update t.socks c none }

def eraseProcessSocket (p : Ref) (c : SocketCookie) (t : TreeShape) : TreeShape :=
  { t with procSocks := fun q k => if q = p ∧ k = c then none else t.procSocks q k }

def eraseAppProcess (a : Ref) (pid : ProcessId) (t : TreeShape) : TreeShape :=
  { t with appProcs := fun q k => if q = a ∧ k = pid then none else t.appProcs q k }

def eraseProcess (pid : ProcessId) (t : TreeShape) : TreeShape :=
  { t with procs := update t.procs pid none }

def eraseTuple (r : Ref) (e : Endpoint) (t : TreeShape) : TreeShape :=
  { t with
    sockTuples := fun q f => if q = r ∧ f = e then none else t.sockTuples q f
    sockTraffic := update t.sockTraffic r ((t.sockTraffic r).filter fun u => !decide (t.tupEnd u = e)) }

def eraseApp (key : String) (t : TreeShape) : TreeShape :=
  { t with sysApps := update t.sysApps key none, apps := update t.apps key none }

def dropSynthetic (p : Ref) (existing : SocketCookie × Ref) (t : TreeShape) : TreeShape :=
  eraseSocket existing.1 (eraseTrafficItem (t.sockId existing.2)
    (eraseProcessSocket p existing.1 t))

def takeItemId (t : TreeShape) : TreeShape := { t with next := t.next + 1 }

end TreeShape

/-! ## The shape of a counter tree -/

namespace CounterTree

/-- The shape of the trees. -/
def shape (t : CounterTree) : TreeShape :=
  { next := t.nextItemId
    sysApps := fun k => t.systemApplications.lookup k
    apps := fun k => t.applications.lookup k
    procs := fun pid => t.processes.lookup pid
    socks := fun c => t.sockets.lookup c
    items := fun i => t.trafficItems.lookup i
    orphans := fun e => t.orphanedSockets.lookup e
    appId := fun a => (t.app a).trafficItem.itemId
    appPath := fun a => (t.app a).trafficItem.applicationPath
    appProcs := fun a pid => (t.app a).trafficItem.processes.lookup pid
    procId := fun p => (t.process p).trafficItem.itemId
    procPid := fun p => (t.process p).trafficItem.processId
    procApp := fun p => (t.process p).parentApp
    procSocks := fun p c => (t.process p).trafficItem.sockets.lookup c
    sockId := fun r => (t.socket r).trafficItem.itemId
    sockCookie := fun r => (t.socket r).trafficItem.cookie
    sockProc := fun r => (t.socket r).parentProcess
    sockTuples := fun r e => (t.socket r).udpPerConnectionCounters.lookup e
    sockTraffic := fun r => (t.socket r).trafficItem.udpPerConnectionTraffic
    tupId := fun u => (t.tuple u).trafficItem.itemId
    tupSock := fun u => (t.tuple u).parentSocket
    tupEnd := fun u => (t.tuple u).trafficItem.endpoint }

variable (t : CounterTree)

section Shape

attribute [local simp] shape Function.update_apply UMap.lookup_insert_ite UMap.lookup_erase_ite
  modifyApp modifyProcess modifySocket modifyTuple editApp editProcess editSocket
  editSystemApplications systemApplications TrafficCounter.new

@[simp] theorem shape_addTuple (now : Msec) (r : Ref) (e : Endpoint) :
    (t.addTuple now r e).shape = t.shape.addTuple r e := by
  apply TreeShape.ext <;> (try funext x) <;> (try funext y) <;>
    simp [addTuple, TreeShape.addTuple] <;> split_ifs <;> simp_all

@[simp] theorem shape_addSocket (now : Msec) (c : SocketCookie) (p : Ref) :
    (t.addSocket now c p).shape = t.shape.addSocket c p := by
  apply TreeShape.ext <;> (try funext x) <;> (try funext y) <;>
    simp [addSocket, TreeShape.addSocket] <;> split_ifs <;> simp_all

@[simp] theorem shape_addProcess (now : Msec) (pid : ProcessId) (a : Ref) :
    (t.addProcess now pid a).shape = t.shape.addProcess pid a := by
  apply TreeShape.ext <;> (try funext x) <;> (try funext y) <;>
    simp [addProcess, TreeShape.addProcess] <;> split_ifs <;> simp_all

@[simp] theorem shape_registerApp (key : String) (a : Ref) :
    (t.registerApp key a).shape = t.shape.registerApp key a := by
  apply TreeShape.ext <;> (try funext x) <;> (try funext y) <;>
    simp [registerApp, TreeShape.registerApp]

@[simp] theorem shape_addApp (now : Msec) (key commandLine appName : String) :
    (t.addApp now key commandLine appName).shape = t.shape.addApp key := by
  apply TreeShape.ext <;> (try funext x) <;> (try funext y) <;>
    simp [addApp, registerApp, TreeShape.addApp, TreeShape.registerApp] <;> split_ifs <;> simp_all

@[simp] theorem shape_upgradeApp (existingKey key commandLine appName : String) (a : Ref) :
    (t.upgradeApp existingKey key commandLine appName a).shape = t.shape.upgradeApp existingKey key a := by
  apply TreeShape.ext <;> (try funext x) <;> (try funext y) <;>
    simp [upgradeApp, TreeShape.upgradeApp] <;> split_ifs <;> simp_all

@[simp] theorem shape_attachSocket (r p : Ref) :
    (t.attachSocket r p).shape = t.shape.attachSocket r p := by
  apply TreeShape.ext <;> (try funext x) <;> (try funext y) <;>
    simp [attachSocket, TreeShape.attachSocket] <;> split_ifs <;> simp_all

@[simp] theorem shape_forgetOrphan (e : Endpoint) :
    (t.forgetOrphan e).shape = t.shape.forgetOrphan e := by
  apply TreeShape.ext <;> (try funext x) <;> (try funext y) <;>
    simp [forgetOrphan, TreeShape.forgetOrphan]

@[simp] theorem shape_orphan (e : Endpoint) (r : Ref) :
    (t.orphan e r).shape = t.shape.orphan e r := by
  apply TreeShape.ext <;> (try funext x) <;> (try funext y) <;>
    simp [orphan, TreeShape.orphan]

@[simp] theorem shape_eraseTrafficItem (i : TrafficItemId) :
    (t.eraseTrafficItem i).shape = t.shape.eraseTrafficItem i := by
  apply TreeShape.ext <;> (try funext x) <;> (try funext y) <;>
    simp [eraseTrafficItem, TreeShape.eraseTrafficItem]

@[simp] theorem shape_clearTupleCounters (r : Ref) :
    (t.clearTupleCounters r).shape = t.shape.clearTupleCounters r := by
  apply TreeShape.ext <;> (try funext x) <;> (try funext y) <;>
    simp [clearTupleCounters, TreeShape.clearTupleCounters] <;> split_ifs <;> simp_all

@[simp] theorem shape_clearTupleItems (r : Ref) :
    (t.clearTupleItems r).shape = t.shape.clearTupleItems r := by
  apply TreeShape.ext <;> (try funext x) <;> (try funext y) <;>
    simp [clearTupleItems, TreeShape.clearTupleItems] <;> split_ifs <;> simp_all

@[simp] theorem shape_eraseSocket (c : SocketCookie) :
    (t.eraseSocket c).shape = t.shape.eraseSocket c := by
  apply TreeShape.ext <;> (try funext x) <;> (try funext y) <;>
    simp [eraseSocket, TreeShape.eraseSocket]

@[simp] theorem shape_eraseProcessSocket (p : Ref) (c : SocketCookie) :
    (t.eraseProcessSocket p c).shape = t.shape.eraseProcessSocket p c := by
  apply TreeShape.ext <;> (try funext x) <;> (try funext y) <;>
    simp [eraseProcessSocket, TreeShape.eraseProcessSocket] <;> split_ifs <;> simp_all

@[simp] theorem shape_eraseAppProcess (a : Ref) (pid : ProcessId) :
    (t.eraseAppProcess a pid).shape = t.shape.eraseAppProcess a pid := by
  apply TreeShape.ext <;> (try funext x) <;> (try funext y) <;>
    simp [eraseAppProcess, TreeShape.eraseAppProcess] <;> split_ifs <;> simp_all

@[simp] theorem shape_eraseProcess (pid : ProcessId) :
    (t.eraseProcess pid).shape = t.shape.eraseProcess pid := by
  apply TreeShape.ext <;> (try funext x) <;> (try funext y) <;>
    simp [eraseProcess, TreeShape.eraseProcess]

@[simp] theorem shape_eraseTuple (r : Ref) (e : Endpoint) :
    (t.eraseTuple r e).shape = t.shape.eraseTuple r e := by
  apply TreeShape.ext <;> (try funext x) <;> (try funext y) <;>
    simp [eraseTuple, TreeShape.eraseTuple] <;> split_ifs <;> simp_all
  rfl

@[simp] theorem shape_eraseApp (key : String) :
    (t.eraseApp key).shape = t.shape.eraseApp key := by
  apply TreeShape.ext <;> (try funext x) <;> (try funext y) <;>
    simp [eraseApp, TreeShape.eraseApp]

@[simp] theorem shape_dropSynthetic (p : Ref) (existing : SocketCookie × Ref) :
    (t.dropSynthetic p existing).shape = t.shape.dropSynthetic p existing := by
  apply TreeShape.ext <;> (try funext x) <;> (try funext y) <;>
    simp [dropSynthetic, TreeShape.dropSynthetic, TreeShape.eraseSocket,
      TreeShape.eraseTrafficItem, TreeShape.eraseProcessSocket] <;> split_ifs <;> simp_all

@[simp] theorem shape_takeItemId :
    ({ t with nextItemId := t.nextItemId + 1 } : CounterTree).shape = t.shape.takeItemId := rfl

/-- A call on a counter leaves the shape alone. -/
@[simp] theorem shape_applyCall (who : CounterId) (c : CounterCall) :
    (t.applyCall who c).shape = t.shape := by
  cases who with
  | system =>
    obtain ⟨b, hb, _⟩ := t.systemCounter.trafficItem_call c
    simp [applyCall, hb, IsTrafficItem.setBase]
  | filter i => rfl
  | app r =>
    obtain ⟨b, hb, hi⟩ := (t.app r).trafficItem_call c
    apply TreeShape.ext <;> (try funext x) <;> (try funext y) <;>
      simp [applyCall] <;> split_ifs <;> simp_all [IsTrafficItem.setBase, IsTrafficItem.base]
  | process r =>
    obtain ⟨b, hb, hi⟩ := (t.process r).trafficItem_call c
    apply TreeShape.ext <;> (try funext x) <;> (try funext y) <;>
      simp [applyCall] <;> split_ifs <;> simp_all [IsTrafficItem.setBase, IsTrafficItem.base]
  | socket r =>
    obtain ⟨b, hb, hi⟩ := (t.socket r).trafficItem_call c
    apply TreeShape.ext <;> (try funext x) <;> (try funext y) <;>
      simp [applyCall] <;> split_ifs <;> simp_all [IsTrafficItem.setBase, IsTrafficItem.base]
  | tuple r =>
    obtain ⟨b, hb, hi⟩ := (t.tuple r).trafficItem_call c
    apply TreeShape.ext <;> (try funext x) <;> (try funext y) <;>
      simp [applyCall] <;> split_ifs <;> simp_all [IsTrafficItem.setBase, IsTrafficItem.base]

/-- The edits of a socket item that leave its id, its cookie and its tuples alone. -/
def KeepsSocketKeys (r : Ref) (f : SocketItem → SocketItem) : Prop :=
  let item := (t.socket r).trafficItem
  (f item).itemId = item.itemId ∧ (f item).cookie = item.cookie ∧
    (f item).udpPerConnectionTraffic = item.udpPerConnectionTraffic

theorem shape_editSocket {r : Ref} {f : SocketItem → SocketItem} (h : t.KeepsSocketKeys r f) :
    (t.editSocket r f).shape = t.shape := by
  obtain ⟨h1, h2, h3⟩ := h
  apply TreeShape.ext <;> (try funext x) <;> (try funext y) <;>
    simp <;> split_ifs <;> simp_all

end Shape

end CounterTree

/-- An event leaves the keys of the socket item alone. -/
theorem apply_keys (e : NetEvent) (item : SocketItem) :
    (e.apply item).itemId = item.itemId ∧ (e.apply item).cookie = item.cookie ∧
      (e.apply item).udpPerConnectionTraffic = item.udpPerConnectionTraffic := by
  have hconnect : ∀ protocol userPort address,
      (NetEvent.connect protocol userPort address item).itemId = item.itemId ∧
        (NetEvent.connect protocol userPort address item).cookie = item.cookie ∧
        (NetEvent.connect protocol userPort address item).udpPerConnectionTraffic =
          item.udpPerConnectionTraffic := by
    intro protocol userPort address
    unfold NetEvent.connect
    split <;> exact ⟨rfl, rfl, rfl⟩
  cases e with
  | socketConnect4 => exact hconnect _ _ _
  | socketConnect6 => exact hconnect _ _ _
  | _ => simp [NetEvent.apply, NetEvent.bind, NetEvent.established, NetEvent.accept]

namespace TreeShape

/-- Erasing ids one by one. -/
theorem foldl_eraseTrafficItem (f : Ref → TrafficItemId) : ∀ (us : List Ref) (t : TreeShape),
    us.foldl (fun t u => t.eraseTrafficItem (f u)) t = t.eraseTrafficItems (us.map f)
  | [], t => by simp [eraseTrafficItems]
  | u :: us, t => by
    rw [List.foldl_cons, foldl_eraseTrafficItem f us]
    apply TreeShape.ext <;> (try rfl)
    funext i
    simp only [eraseTrafficItems, eraseTrafficItem, List.map_cons, List.mem_cons,
      Function.update_apply]
    by_cases h1 : i ∈ us.map f <;> by_cases h2 : i = f u <;> simp [h1, h2]

end TreeShape

namespace SystemMap

variable {σ : Type} (h : Handler σ)

/-- The shape of the trees. -/
def shape (s : SystemMap σ) : TreeShape := s.toCounterTree.shape

@[simp] theorem shape_toCounterTree (s : SystemMap σ) : s.toCounterTree.shape = s.shape := rfl

@[simp] theorem shape_notify (n : Notice) (s : SystemMap σ) : (notify h n s).shape = s.shape := rfl

@[simp] theorem shape_record (f : Bool → MapUpdate → MapUpdate) (s : SystemMap σ) :
    (record f s).shape = s.shape := rfl

@[simp] theorem shape_modify (f : CounterTree → CounterTree) (s : SystemMap σ) :
    (modify f s).shape = (f s.toCounterTree).shape := rfl

@[simp] theorem shape_call (who : CounterId) (c : CounterCall) (s : SystemMap σ) :
    (call h who c s).shape = s.shape := by
  unfold call shape
  exact CounterTree.shape_applyCall _ _ _

/-- A loop whose turns leave the shape alone. -/
theorem shape_foldl {α : Type} {f : SystemMap σ → α → SystemMap σ}
    (hf : ∀ s a, (f s a).shape = s.shape) : ∀ (l : List α) (s : SystemMap σ),
    (l.foldl f s).shape = s.shape
  | [], _ => rfl
  | a :: l, s => by rw [List.foldl_cons, shape_foldl hf l, hf]

@[simp] theorem shape_addItemRemoval (i : TrafficItemId) (s : SystemMap σ) :
    (addItemRemoval i s).shape = s.shape := rfl

@[simp] theorem shape_markItemForRemoval (i : TrafficItemId) (s : SystemMap σ) :
    (markItemForRemoval i s).shape = s.shape := rfl

@[simp] theorem shape_addStateChange (c : TrafficTreeSocketStateChange) (s : SystemMap σ) :
    (addStateChange c s).shape = s.shape := rfl

@[simp] theorem shape_addSocketAddition (r : Ref) (s : SystemMap σ) :
    (addSocketAddition r s).shape = s.shape := rfl

@[simp] theorem shape_addTupleAddition (e : Endpoint) (u : Ref) (s : SystemMap σ) :
    (addTupleAddition e u s).shape = s.shape := rfl

end SystemMap

end Waechter
