import Waechter.Daemon.SocketHome

/-!
# What keeps the kernel in step with the rules

For every operation of the daemon that matters to the rules, what it relies on in the state before
(`EventCovers`, `ChangeCovers`, `OrphanCovers`, `RemovalCovers`), and that it then keeps `Synced`.

* `Quiet`: the steps that leave the rules alone and let the trees forget at most.
* `Synced.mappedCovers`: what an event relies on, in the state its socket is mapped in.
* `Synced.updateData`: one event. A new socket is announced and reached by the recomputation, or
  the rules over the place it is put in are those under its cookie.
* `Synced.changed`, `Synced.reparentOrphanedSocket`: rule changes and reparented sockets.
* `Synced.refreshAllTrafficCounters`: a tick. `Drops` and `Removes` say what the removals before a
  process leave of the condition on its own removal.
-/

namespace Waechter

open Lib

namespace SystemMap

open RuleManager (InSync Covers LoadCovers Announces listener)

/-! ## What the steps rely on -/

/-- The kernel has the effective rules of the socket under the cookie, if there is one. -/
def HoldsAlready (c : SocketCookie) (s : SystemMap RuleManager) : Prop :=
  ∀ r, s.shape.socks c = some r → s.listeners.kernelValue c = s.listeners.effective s.shape r

/-- A rule that is loaded for an application that gets its path reaches the sockets it has. -/
def UpgradeCovers (loads : CounterTree → Ref → RuleManager → Prop) (env : MapEnv)
    (pid : ProcessId) (s : SystemMap RuleManager) : Prop :=
  let identity := processIdentity (env.procInfo pid)
  let key := applicationKey identity.1 identity.2.1 identity.2.2
  ∀ k a, s.applications.lookup key = none →
    findApplication env.order key identity.2.2 s.toCounterTree = some (.upgrade k a) →
    loads (s.toCounterTree.upgradeApp k key identity.2.1 identity.2.2 a) a s.listeners

/-- The same for what `MapSocket` does. -/
def MapCovers (loads : CounterTree → Ref → RuleManager → Prop) (env : MapEnv)
    (cookie : SocketCookie) (pid : ProcessId) (s : SystemMap RuleManager) : Prop :=
  cookie ≠ 0 → pid ≠ 0 → s.sockets.lookup cookie = none → UpgradeCovers loads env pid s

/-- The socket is held by its process, and the process is in `Processes`. -/
structure Placed (t : TreeShape) (c : SocketCookie) (r : Ref) : Prop where
  live : t.socks c = some r
  process : ∃ pid, t.procs pid = some (t.sockProc r)
  held : t.procSocks (t.sockProc r) c = some r

/-- What the mapping needs of a handler: it deals with the notices of new items. -/
structure Handles (h : Handler RuleManager) (loads : CounterTree → Ref → RuleManager → Prop) :
    Prop where
  created : ∀ p t m, h (.onProcessCreated p) t m = m
  loaded : ∀ {x s a}, Synced x s → loads s.toCounterTree a s.listeners →
    Synced x (notify h (.onAppFirstTimeConnected a) s)
  newApp : ∀ {x s}, Synced x s → ∀ now key commandLine appName,
    loads (s.toCounterTree.addApp now key commandLine appName) s.nextItemId s.listeners

theorem handles_listener (env : RuleEnv) : Handles (listener env) (LoadCovers env) where
  created := fun _ _ _ => rfl
  loaded := fun hs hload => hs.loaded hload
  newApp := fun hs now key commandLine appName => hs.loadCovers_addApp now key commandLine appName

/-- Before the handlers are registered nothing is told to anyone. -/
def unheard : Handler RuleManager := fun _ _ m => m

theorem handles_unheard : Handles unheard fun _ _ _ => True where
  created := fun _ _ _ => rfl
  loaded := fun hs _ => hs
  newApp := fun _ _ _ _ _ => trivial

namespace Synced

variable {h : Handler RuleManager} {loads : CounterTree → Ref → RuleManager → Prop}
  {x : SocketCookie → Prop} {s : SystemMap RuleManager}

/-! ## Mapping -/

theorem findOrMapApplication (hs : Synced x s) (hh : Handles h loads) (env : MapEnv)
    (pid : ProcessId) (hload : UpgradeCovers loads env pid s) :
    let identity := processIdentity (env.procInfo pid)
    let out := findOrMapApplication h env.order env.now identity.1 identity.2.1 identity.2.2 s
    Synced x out.2 ∧ out.1 < out.2.nextItemId := by
  intro identity out
  rcases findOrMapApplication_cases (h := h) env.order env.now identity.1 identity.2.1
    identity.2.2 s with ⟨k, hk, he⟩ | ⟨k, hk, ⟨hnone, hfound⟩, he⟩ | ⟨hnone, h1, he⟩
  · rw [show out.2 = s from he]
    exact ⟨hs, hs.sound.app k _ hk⟩
  · rw [show out.2 = _ from he]
    have hf : s.shape.Forgets (s.toCounterTree.upgradeApp k
        (applicationKey identity.1 identity.2.1 identity.2.2) identity.2.1 identity.2.2
          out.1).shape := by
      rw [CounterTree.shape_upgradeApp]
      exact TreeShape.Forgets.upgradeApp hk _
    exact ⟨hh.loaded (hs.forget hf) (hload k out.1 hnone hfound), hs.sound.app k _ hk⟩
  · rw [show out.2 = _ from he, show out.1 = _ from h1]
    exact ⟨hh.loaded (hs.addApp ..) (hh.newApp hs ..), Nat.lt_succ_self _⟩

theorem findOrMapProcess (hs : Synced x s) (hh : Handles h loads) (now : Msec) (pid : ProcessId)
    {a : Ref} (ha : a < s.nextItemId) :
    let out := findOrMapProcess h now pid a s
    Synced x out.2 ∧ out.2.shape.procs pid = some out.1 := by
  intro out
  simp only [out]
  unfold SystemMap.findOrMapProcess
  split
  · rename_i p hp
    exact ⟨hs, hp⟩
  · have hadd := hs.addProcess now pid ha
    refine ⟨hadd.quiet rfl (hh.created _ _ _), ?_⟩
    simp only [shape_notify, shape_modify, CounterTree.shape_addProcess]
    exact Function.update_self ..

theorem socks_findOrMapApplication (o : IterOrder) (now : Msec)
    (exePath commandLine appName : String) (s : SystemMap RuleManager) :
    (SystemMap.findOrMapApplication h o now exePath commandLine appName s).2.shape.socks =
      s.shape.socks := by
  rcases findOrMapApplication_cases (h := h) o now exePath commandLine appName s with
    ⟨k, hk, he⟩ | ⟨k, hk, -, he⟩ | ⟨-, -, he⟩
  · rw [he]
  · rw [he, shape_notify, shape_modify, CounterTree.shape_upgradeApp]
    rfl
  · rw [he, shape_notify, shape_modify, CounterTree.shape_addApp]
    rfl

theorem sockets_findOrMapProcess (now : Msec) (pid : ProcessId) (a : Ref)
    (s : SystemMap RuleManager) :
    let t := (SystemMap.findOrMapProcess h now pid a s).2.shape
    t.socks = s.shape.socks ∧ t.sockId = s.shape.sockId ∧ t.sockCookie = s.shape.sockCookie := by
  unfold SystemMap.findOrMapProcess
  split
  · exact ⟨rfl, rfl, rfl⟩
  · rw [shape_notify, shape_modify, CounterTree.shape_addProcess]
    exact ⟨rfl, rfl, rfl⟩

/-- **A new socket is mapped.** The kernel need not have its rules. -/
theorem mapNewSocket (hs : Synced x s) (hh : Handles h loads) (env : MapEnv)
    {cookie : SocketCookie} (hc : cookie ≠ 0) (hnone : s.sockets.lookup cookie = none)
    (pid : ProcessId) (hload : UpgradeCovers loads env pid s) :
    let out := mapNewSocket h env cookie pid s
    Synced (fun d => x d ∨ d = cookie) out.2 ∧ Placed out.2.shape cookie out.1 := by
  intro out
  set app := SystemMap.findOrMapApplication h env.order env.now
    (processIdentity (env.procInfo pid)).1 (processIdentity (env.procInfo pid)).2.1
    (processIdentity (env.procInfo pid)).2.2 s with happ
  set process := SystemMap.findOrMapProcess h env.now pid app.1 app.2 with hprocess
  have hout : out = findOrMapSocket env.now cookie process.1 process.2 := rfl
  obtain ⟨hsapp, ha⟩ := hs.findOrMapApplication hh env pid hload
  obtain ⟨hsprocess, hp⟩ := hsapp.findOrMapProcess hh env.now pid ha
  have hsocks : process.2.shape.socks = s.shape.socks :=
    (sockets_findOrMapProcess env.now pid app.1 app.2).1.trans
      (socks_findOrMapApplication _ _ _ _ _ s)
  have hnone' : process.2.sockets.lookup cookie = none := (congrFun hsocks cookie).trans hnone
  have hlt : process.1 < process.2.nextItemId := (hsprocess.sound.process pid _ hp).1
  have hshape : (modify (·.addSocket env.now cookie process.1) process.2).shape =
      process.2.shape.addSocket cookie process.1 := by simp
  rw [hout]
  unfold findOrMapSocket
  rw [hnone']
  refine ⟨(hsprocess.addSocket env.now hc hlt).quiet rfl rfl, ?_⟩
  rw [shape_addSocketAddition, hshape]
  refine ⟨Function.update_self .., ⟨pid, ?_⟩, ?_⟩
  · simp only [TreeShape.addSocket, shape, CounterTree.shape, Function.update_self]
    exact hp
  · simp [TreeShape.addSocket, shape, CounterTree.shape]

/-- `MapSocket` for a process and a cookie that is not known. -/
theorem mapSocket_new (env : MapEnv) {cookie : SocketCookie} (established : Bool) {pid : ProcessId}
    (silentFail : Bool) (hc : cookie ≠ 0) (hpid : pid ≠ 0)
    (hnone : s.sockets.lookup cookie = none) :
    SystemMap.mapSocket h env cookie established pid silentFail s =
      (some (SystemMap.mapNewSocket h env cookie pid s).1,
        (SystemMap.mapNewSocket h env cookie pid s).2) := by
  unfold SystemMap.mapSocket
  rw [if_neg hc, if_neg hpid, hnone]

/-- What `MapSocket` can do. -/
theorem mapSocket_cases (env : MapEnv) (cookie : SocketCookie) (established : Bool)
    (pid : ProcessId) (silentFail : Bool) (s : SystemMap RuleManager) :
    let out := SystemMap.mapSocket h env cookie established pid silentFail s
    (out.2 = s ∧ ∀ r, out.1 = some r →
      s.shape.socks cookie = some r ∧ (pid ≠ 0 ∨ established = true)) ∨
    (cookie ≠ 0 ∧ pid ≠ 0 ∧ s.sockets.lookup cookie = none ∧
      out.1 = some (SystemMap.mapNewSocket h env cookie pid s).1 ∧
        out.2 = (SystemMap.mapNewSocket h env cookie pid s).2) := by
  unfold SystemMap.mapSocket
  split
  · exact .inl ⟨rfl, nofun⟩
  · rename_i hc
    split
    · split
      · rename_i hknown
        exact .inl ⟨rfl, fun r hr => ⟨hr, .inr hknown.2⟩⟩
      · exact .inl ⟨rfl, nofun⟩
    · rename_i hpid
      split
      · rename_i r hr
        exact .inl ⟨rfl, fun q hq => ⟨hr.trans hq, .inl hpid⟩⟩
      · rename_i hnone
        exact .inr ⟨hc, hpid, hnone, rfl, rfl⟩

/-- **`MapSocket`**: nothing changes, or a new socket is mapped. -/
theorem mapSocket (hs : Synced x s) (hh : Handles h loads) (env : MapEnv) (cookie : SocketCookie)
    (established : Bool) (pid : ProcessId) (silentFail : Bool)
    (hload : MapCovers loads env cookie pid s) :
    let out := mapSocket h env cookie established pid silentFail s
    (out.2 = s ∧ ∀ r, out.1 = some r → s.shape.socks cookie = some r) ∨
      s.sockets.lookup cookie = none ∧ Synced (fun d => x d ∨ d = cookie) out.2 ∧
        ∃ r, out.1 = some r ∧ Placed out.2.shape cookie r := by
  rcases mapSocket_cases (h := h) env cookie established pid silentFail s with
    ⟨he, hr⟩ | ⟨hc, hpid, hnone, hr, he⟩
  · exact .inl ⟨he, fun r hq => (hr r hq).1⟩
  · obtain ⟨h1, h2⟩ := hs.mapNewSocket hh env hc hnone pid (hload hc hpid hnone)
    exact .inr ⟨hnone, he ▸ h1, _, hr, he ▸ h2⟩

/-- A socket that is mapped while the kernel has its rules already. -/
theorem mapSocket_holds (hs : Synced x s) (hh : Handles h loads) (env : MapEnv)
    (cookie : SocketCookie) (established : Bool) (pid : ProcessId) (silentFail : Bool)
    (hload : MapCovers loads env cookie pid s)
    (hholds : s.sockets.lookup cookie = none →
      HoldsAlready cookie (SystemMap.mapSocket h env cookie established pid silentFail s).2) :
    let out := SystemMap.mapSocket h env cookie established pid silentFail s
    Synced x out.2 ∧ ∀ r, out.1 = some r → out.2.shape.socks cookie = some r := by
  intro out
  rcases hs.mapSocket hh env cookie established pid silentFail hload with
    ⟨he, hr⟩ | ⟨hnone, hsout, r, hr, hplaced⟩
  · rw [show out.2 = s from he]
    exact ⟨hs, hr⟩
  · refine ⟨hsout.holds (hholds hnone), fun q hq => ?_⟩
    obtain rfl := Option.some.inj (hr.symm.trans hq)
    exact hplaced.live

/-- The rule an application gets with its path reaches its sockets. -/
theorem upgradeCovers {env : RuleEnv} {menv : MapEnv} {pid : ProcessId}
    (h : (homeOf env menv pid s).mapped.Covered s.shape s.listeners) :
    UpgradeCovers (LoadCovers env) menv pid s := by
  intro k a hnone hfound
  rw [homeOf, mapped_place] at h
  unfold SystemMap.appHome at h
  simp only [hnone, hfound] at h
  refine h.loadCovers ?_ ?_ fun m' hm => ?_
  · rw [CounterTree.shape_upgradeApp]
    rfl
  · rw [CounterTree.shape_upgradeApp]
    simp only [TreeShape.upgradeApp, Function.update_self]
  · rw [CounterTree.shape_upgradeApp]
    exact hm.upgradeApp _ _ _

/-- **A new socket whose rules are known** has them in the kernel once it is mapped. -/
theorem holdsAlready_mapSocket (hs : Synced x s) (env : RuleEnv) (menv : MapEnv)
    {cookie : SocketCookie} (established : Bool) {pid : ProcessId} (silentFail : Bool)
    (hnone : s.sockets.lookup cookie = none)
    (hknown : cookie ≠ 0 → pid ≠ 0 →
      (homeOf env menv pid s).Known cookie s.shape s.listeners) :
    HoldsAlready cookie
      (SystemMap.mapSocket (listener env) menv cookie established pid silentFail s).2 := by
  rcases mapSocket_cases (h := listener env) menv cookie established pid silentFail s with
    ⟨he, -⟩ | ⟨hc, hpid, -, -, he⟩
  · rw [he]
    exact fun r hr => absurd (hnone.symm.trans hr) (by simp)
  · rw [he]
    obtain ⟨hputs, hhouses⟩ := hs.mapNewSocket_home env menv hnone pid
    intro r hr
    obtain rfl := Option.some.inj (hhouses.live.symm.trans hr)
    exact (hknown hc hpid).holds hc hputs hhouses.toUnder

/-! ## What leaves the rules alone -/

end Synced

/-- The rules are the same, and the trees forget at most. -/
structure Quiet (s s' : SystemMap RuleManager) : Prop where
  forgets : s.shape.Forgets s'.shape
  listeners : s'.listeners = s.listeners

namespace Quiet

variable {s s' s'' : SystemMap RuleManager} {x : SocketCookie → Prop} (env : RuleEnv)

theorem refl (s : SystemMap RuleManager) : Quiet s s := ⟨.refl _, rfl⟩

theorem trans (h : Quiet s s') (h' : Quiet s' s'') : Quiet s s'' :=
  ⟨h.forgets.trans h'.forgets, h'.listeners.trans h.listeners⟩

theorem synced (h : Quiet s s') (hs : Synced x s) : Synced x s' :=
  ⟨hs.sound.forget h.forgets, h.listeners ▸ hs.clean, by
    rw [h.listeners]
    exact hs.inSync.forget h.forgets⟩

theorem of_shape (hshape : s'.shape = s.shape) (hrules : s'.listeners = s.listeners) :
    Quiet s s' := ⟨hshape ▸ .refl _, hrules⟩

theorem modify {f : CounterTree → CounterTree} (hf : s.shape.Forgets (f s.toCounterTree).shape) :
    Quiet s (modify f s) := ⟨hf, rfl⟩

theorem call (who : CounterId) (c : CounterCall) (s : SystemMap RuleManager) :
    Quiet s (call (listener env) who c s) := .of_shape (shape_call _ _ _ _) rfl

theorem foldl {α : Type} {f : SystemMap RuleManager → α → SystemMap RuleManager}
    (hf : ∀ s a, Quiet s (f s a)) : ∀ (l : List α) (s : SystemMap RuleManager),
    Quiet s (l.foldl f s)
  | [], s => refl s
  | a :: l, s => (hf s a).trans (foldl hf l (f s a))

theorem editSocket {r : Ref} {f : SocketItem → SocketItem}
    (hf : s.toCounterTree.KeepsSocketKeys r f) : Quiet s (SystemMap.modify (·.editSocket r f) s) :=
  .of_shape (shape_editSocket hf) rfl

theorem pushFilters (d : PacketDirection) (bytes : WBytes) (remote : Endpoint)
    (s : SystemMap RuleManager) : Quiet s (pushFilters (listener env) d bytes remote s) := by
  unfold SystemMap.pushFilters
  refine foldl (fun s i => ?_) _ _
  split
  · exact call env _ _ s
  · exact refl s

theorem pushTrafficForSocket (d : PacketDirection) (bytes : WBytes) (r : Ref)
    (s : SystemMap RuleManager) :
    Quiet s (pushTrafficForSocket (listener env) d bytes r s) := by
  unfold SystemMap.pushTrafficForSocket
  simp only
  exact ((((call env _ _ s).trans (call env _ _ _)).trans (call env _ _ _)).trans
    (pushFilters env d bytes _ _)).trans (editSocket ⟨rfl, rfl, rfl⟩)

theorem pushTuple (now : Msec) (d : PacketDirection) (bytes : WBytes) (remote : Endpoint)
    (r : Ref) (s : SystemMap RuleManager) :
    Quiet s (pushTuple (listener env) now d bytes remote r s) := by
  have hget : Quiet s (getOrCreateUDPTupleCounter (listener env) now r remote s).2 := by
    unfold getOrCreateUDPTupleCounter
    split
    · exact refl s
    · refine ⟨?_, rfl⟩
      simp only [shape_notify, shape_modify, CounterTree.shape_addTuple]
      exact TreeShape.Forgets.addTuple _ _ _
  unfold SystemMap.pushTuple
  simp only
  set s1 := (getOrCreateUDPTupleCounter (listener env) now r remote s).2
  set s2 := SystemMap.call (listener env) (.tuple
    (getOrCreateUDPTupleCounter (listener env) now r remote s).1) (pushCall d bytes) s1
  have hpush : Quiet s (SystemMap.pushFilters (listener env) d bytes remote s2) :=
    (hget.trans (call env _ _ s1)).trans (pushFilters env d bytes remote s2)
  split
  · exact hpush
  · exact hpush.trans (.of_shape rfl rfl)

theorem doPacketParsing (tenv : TrafficEnv) (d : PacketDirection) (bytes : WBytes)
    (header : Option PacketHeader) (r : Ref) (s : SystemMap RuleManager) :
    Quiet s (doPacketParsing (listener env) tenv d bytes header r s) := by
  unfold SystemMap.doPacketParsing
  simp only
  split
  · exact refl s
  · split
    · exact refl s
    · rename_i header
      have hedit : Quiet s (SystemMap.modify (·.editSocket r fun _ =>
          (applyPacketHeader tenv d header (s.socket r).trafficItem).1) s) :=
        editSocket ⟨rfl, rfl, rfl⟩
      have htuple := hedit.trans (pushTuple env tenv.now d bytes (header.remote d) r _)
      split <;> split
      · exact htuple.trans (.of_shape rfl rfl)
      · exact hedit.trans (.of_shape rfl rfl)
      · exact htuple
      · exact hedit

theorem closeSocket (now : Msec) (r : Ref) (s : SystemMap RuleManager) :
    Quiet s (closeSocket (listener env) now r s) := by
  unfold SystemMap.closeSocket
  have hclosed := (call env (.socket r) (.markForRemoval now) s).trans
    (editSocket (r := r) (f := fun item => { item with connectionState := .closed })
      ⟨rfl, rfl, rfl⟩)
  refine trans (trans (trans ?_ (call env _ _ _)) (call env _ _ _)) (call env _ _ _)
  exact hclosed.trans (of_shape rfl rfl)

theorem markSocketForRemoval (o : IterOrder) (now : Msec) (cookie : SocketCookie)
    (localPort : UInt32) (s : SystemMap RuleManager) :
    Quiet s (markSocketForRemoval (listener env) o now cookie localPort s) := by
  unfold SystemMap.markSocketForRemoval
  split
  · exact refl s
  · simp only
    split
    · split
      · exact (closeSocket env now _ s).trans (closeSocket env now _ _)
      · exact closeSocket env now _ s
    · exact closeSocket env now _ s

end Quiet

/-! ## Events -/

/-- The application whose rules are recomputed for a socket. -/
def rootApp (t : TreeShape) (r : Ref) : TrafficItemId × TrafficItemType :=
  (t.procApp (t.sockProc r), .application)

/-- The event recomputes the rules of the application of the socket. -/
def Recomputes (event : NetEvent) (r : Ref) (s : SystemMap RuleManager) : Prop :=
  event.signalsConnected = true ∧ Announces s.toCounterTree (s.shape.sockProc r) s.listeners

/-- How `UpdateData` maps the socket of an event. -/
def mapEvent (env : RuleEnv) (tenv : TrafficEnv) (event : SocketEvent)
    (s : SystemMap RuleManager) : Option Ref × SystemMap RuleManager :=
  mapSocket (listener env) tenv.toMapEnv event.cookie event.data.isEstablished event.pid
    event.data.silentFail s

/-- What outgoing traffic needs when it maps its socket: the kernel has its rules. -/
def TrafficCovers (env : RuleEnv) (tenv : TrafficEnv) (cookie : SocketCookie)
    (d : PacketDirection) (header : PacketHeader) (s : SystemMap RuleManager) : Prop :=
  let pid := tenv.endpointPID (header.local d)
  s.sockets.lookup cookie = none → 0 < pid →
    MapCovers (LoadCovers env) tenv.toMapEnv cookie pid s ∧
      HoldsAlready cookie (mapSocket (listener env) tenv.toMapEnv cookie false pid false s).2

/-- The process the new socket of an event is mapped for: that of the event, and for an outgoing
packet without one that of its local endpoint. -/
def newSocketPid (tenv : TrafficEnv) (event : SocketEvent) (s : SystemMap RuleManager) :
    Option ProcessId :=
  if event.cookie = 0 ∨ (s.sockets.lookup event.cookie).isSome then none
  else if event.pid ≠ 0 then some event.pid
  else match event.data with
    | .traffic .outgoing _ (some header) =>
      let pid := tenv.endpointPID (header.local .outgoing)
      if pid ≤ 0 then none else some pid
    | _ => none

/-- What an event relies on. A socket that is announced is reached with its rules, and the rules of
a new one that is not are known already. -/
structure EventCovers (env : RuleEnv) (tenv : TrafficEnv) (event : SocketEvent)
    (s : SystemMap RuleManager) : Prop where
  connected : ∀ r, s.sockets.lookup event.cookie = some r →
    (event.pid ≠ 0 ∨ event.data.isEstablished = true) → Recomputes event.data r s →
      Covers s.shape (rootApp s.shape r) s.listeners s.listeners
  loaded : ∀ pid, newSocketPid tenv event s = some pid →
    (homeOf env tenv.toMapEnv pid s).mapped.Covered s.shape s.listeners
  announced : ∀ pid, newSocketPid tenv event s = some pid → event.data.signalsConnected = true →
    (homeOf env tenv.toMapEnv pid s).Announces s.listeners →
      (homeOf env tenv.toMapEnv pid s).Announced event.cookie s.shape s.listeners
  unannounced : ∀ pid, newSocketPid tenv event s = some pid →
    ¬ (event.data.signalsConnected = true ∧
      (homeOf env tenv.toMapEnv pid s).Announces s.listeners) →
        (homeOf env tenv.toMapEnv pid s).Known event.cookie s.shape s.listeners

/-- What an event needs of the state its socket is mapped in. -/
structure MappedCovers (env : RuleEnv) (tenv : TrafficEnv) (event : SocketEvent)
    (s : SystemMap RuleManager) : Prop where
  mapped : MapCovers (LoadCovers env) tenv.toMapEnv event.cookie event.pid s
  announced : ∀ r, (mapEvent env tenv event s).1 = some r →
    Recomputes event.data r (mapEvent env tenv event s).2 →
      let out := (mapEvent env tenv event s).2
      Covers out.shape (rootApp out.shape r) out.listeners out.listeners
  unannounced : s.sockets.lookup event.cookie = none →
    (∀ r, (mapEvent env tenv event s).1 = some r →
      ¬ Recomputes event.data r (mapEvent env tenv event s).2) →
        HoldsAlready event.cookie (mapEvent env tenv event s).2
  traffic : ∀ bytes header, event.data = .traffic .outgoing bytes (some header) →
    TrafficCovers env tenv event.cookie .outgoing header
      (call (listener env) .system (.pushOutgoingTraffic bytes) (mapEvent env tenv event s).2)

namespace Synced

variable {env : RuleEnv} {x : SocketCookie → Prop} {s : SystemMap RuleManager}

theorem processSocketEvent (hs : Synced x s) (event : NetEvent) (r : Ref)
    (hcovers : Recomputes event r s →
      Covers s.shape (rootApp s.shape r) s.listeners s.listeners) :
    Synced (fun c => x c ∧ (Recomputes event r s →
        ∀ a p q, ¬ s.shape.Reached (rootApp s.shape r) c a p q))
      (processSocketEvent (listener env) event r s) := by
  set s1 := modify (·.editSocket r event.apply) s with hs1
  have hshape : s1.shape = s.shape := shape_editSocket (apply_keys event _)
  have hsynced : Synced x s1 := hs.quiet hshape rfl
  have hannounces : Announces s1.toCounterTree (s1.shape.sockProc r) s1.listeners ↔
      Announces s.toCounterTree (s.shape.sockProc r) s.listeners := by
    unfold Announces
    rw [RuleManager.effectiveProcRules_shape, RuleManager.effectiveProcRules_shape,
      shape_toCounterTree, shape_toCounterTree, hshape]
    exact Iff.rfl
  set s2 := if event.signalsConnected then
    notify (listener env) (.onSocketConnected r) s1 else s1 with hs2
  have htold : Synced (fun c => x c ∧ (Recomputes event r s →
      ∀ a p q, ¬ s.shape.Reached (rootApp s.shape r) c a p q)) s2 := by
    rw [hs2]
    split
    · rename_i hsignals
      refine (hsynced.connected r fun h => ?_).mono fun c hc => ⟨hc.1, fun h => ?_⟩
      · rw [hshape]
        exact hcovers ⟨hsignals, hannounces.mp h⟩
      · have hreached := hc.2 (hannounces.mpr h.2)
        rwa [hshape] at hreached
    · rename_i hsignals
      exact hsynced.mono fun c hc => ⟨hc, fun h => absurd h.1 hsignals⟩
  unfold SystemMap.processSocketEvent
  simp only [← hs1, ← hs2]
  split
  · exact htold
  · exact htold.quiet rfl rfl

/-- The synthetic socket is dropped, with its rules. -/
theorem mergeSyntheticSocket (env : RuleEnv) (hs : Synced x s) (o : IterOrder) (r : Ref) :
    Synced x (mergeSyntheticSocket (listener env) o r s) := by
  unfold SystemMap.mergeSyntheticSocket
  simp only
  split
  · exact hs
  · split
    · exact hs
    · rename_i existing he
      have hlook : s.shape.socks existing.1 = some existing.2 :=
        o.lookup_of_mem_entries _ existing (List.mem_of_find?_eq_some he)
      set s1 := modify (·.editSocket r
        (transferEndpoint (s.socket existing.2).trafficItem.socketTuple)) s with hs1
      have hshape : s1.shape = s.shape := shape_editSocket ⟨rfl, rfl, rfl⟩
      have hsynced : Synced x s1 := hs.quiet hshape rfl
      obtain ⟨hsocket, hcookie⟩ := hsynced.sound.socket existing.1 existing.2 (hshape ▸ hlook)
      have hremoved := hsynced.removed env hsocket
      rw [hcookie] at hremoved
      set s2 := notify (listener env) (.onSocketRemoved existing.2) s1 with hs2
      have hdropped : Synced (fun d => x d ∨ d = existing.1)
          (modify (·.dropSynthetic (s2.socket r).parentProcess existing) s2) := by
        refine hremoved.forget ?_
        rw [CounterTree.shape_dropSynthetic]
        exact TreeShape.Forgets.dropSynthetic _ _ _
      refine Synced.quiet (hdropped.gone ?_) rfl rfl
      simp only [shape_modify, CounterTree.shape_dropSynthetic, TreeShape.dropSynthetic,
        TreeShape.eraseSocket, Function.update_self]

theorem forgets_mergeSyntheticSocket (o : IterOrder) (r : Ref) (s : SystemMap RuleManager) :
    s.shape.Forgets (SystemMap.mergeSyntheticSocket (listener env) o r s).shape := by
  unfold SystemMap.mergeSyntheticSocket
  simp only
  split
  · exact .refl _
  · split
    · exact .refl _
    · simp only [shape_markItemForRemoval, shape_modify, CounterTree.shape_dropSynthetic,
        shape_toCounterTree, shape_notify]
      rw [CounterTree.shape_editSocket _ ⟨rfl, rfl, rfl⟩]
      exact TreeShape.Forgets.dropSynthetic _ _ _

theorem reparentAcceptedSocket (hs : Synced x s) {r : Ref} (hr : s.shape.IsSocket r) :
    Synced x (reparentAcceptedSocket (listener env) r s) := by
  unfold SystemMap.reparentAcceptedSocket
  simp only
  split
  · exact hs
  · exact Synced.quiet (hs.orphan _ hr) rfl rfl

theorem mapSocketFromTrafficEvent (hs : Synced x s) (tenv : TrafficEnv) (cookie : SocketCookie)
    (d : PacketDirection) (header : Option PacketHeader) (hnone : s.sockets.lookup cookie = none)
    (hcovers : ∀ h, header = some h → TrafficCovers env tenv cookie d h s) :
    Synced x (mapSocketFromTrafficEvent (listener env) tenv cookie d header s).2 := by
  unfold SystemMap.mapSocketFromTrafficEvent
  cases header with
  | none => exact hs
  | some header =>
    simp only
    split
    · exact hs
    · rename_i hpid
      obtain ⟨hload, hholds⟩ := hcovers header rfl hnone (not_le.mp hpid)
      have hmapped := (hs.mapSocket_holds (handles_listener env) tenv.toMapEnv cookie false
        (tenv.endpointPID (header.local d)) false hload fun _ => hholds).1
      split
      · exact hmapped
      · exact (Quiet.editSocket ⟨rfl, rfl, rfl⟩).synced hmapped

theorem pushIncomingTraffic (hs : Synced x s) (tenv : TrafficEnv) (cookie : SocketCookie)
    (bytes : WBytes) (header : Option PacketHeader) :
    Synced x (pushIncomingTraffic (listener env) tenv cookie bytes header s) := by
  have hcall := (Quiet.call env .system (.pushIncomingTraffic bytes) s).synced hs
  unfold SystemMap.pushIncomingTraffic
  simp only
  split
  · exact hcall
  · exact ((Quiet.pushTrafficForSocket env _ _ _ _).trans
      (Quiet.doPacketParsing env tenv _ _ _ _ _)).synced hcall

theorem pushOutgoingTraffic (hs : Synced x s) (tenv : TrafficEnv) (cookie : SocketCookie)
    (bytes : WBytes) (header : Option PacketHeader)
    (hcovers : ∀ h, header = some h → TrafficCovers env tenv cookie .outgoing h
      (call (listener env) .system (.pushOutgoingTraffic bytes) s)) :
    Synced x (pushOutgoingTraffic (listener env) tenv cookie bytes header s) := by
  have hcall := (Quiet.call env .system (.pushOutgoingTraffic bytes) s).synced hs
  unfold SystemMap.pushOutgoingTraffic
  simp only
  generalize call (listener env) .system (.pushOutgoingTraffic bytes) s = s1 at hcall hcovers ⊢
  have hpush : ∀ (r : Ref) {s2 : SystemMap RuleManager}, Synced x s2 →
      Synced x (doPacketParsing (listener env) tenv .outgoing bytes header r
        (pushTrafficForSocket (listener env) .outgoing bytes r s2)) := fun r s2 hs2 =>
    ((Quiet.pushTrafficForSocket env _ _ _ _).trans
      (Quiet.doPacketParsing env tenv _ _ _ _ _)).synced hs2
  cases hl : s1.sockets.lookup cookie with
  | some r => exact hpush r hcall
  | none =>
    have hmapped := hcall.mapSocketFromTrafficEvent tenv cookie .outgoing header hl hcovers
    simp only
    split
    · exact hmapped
    · exact hpush _ hmapped

/-- A packet whose socket is still not known after `MapSocket` is mapped from its endpoint: nothing
has changed, and the event has no process. -/
theorem mapEvent_unknown (hs : Synced x s) (env : RuleEnv) (tenv : TrafficEnv)
    (event : SocketEvent)
    (hnone : (mapEvent env tenv event s).2.sockets.lookup event.cookie = none) :
    (mapEvent env tenv event s).2 = s ∧ (event.cookie ≠ 0 → event.pid = 0) := by
  rcases mapSocket_cases (h := listener env) tenv.toMapEnv event.cookie event.data.isEstablished
    event.pid event.data.silentFail s with ⟨he, hknown⟩ | ⟨hc, hpid, hnone', -, he⟩
  · have heq : (mapEvent env tenv event s).2 = s := he
    rw [heq] at hnone
    refine ⟨heq, fun hc => by_contra fun hpid => ?_⟩
    have hnew := mapSocket_new (h := listener env) tenv.toMapEnv event.data.isEstablished
      event.data.silentFail hc hpid hnone
    exact absurd (hnone.symm.trans (hknown _ (congrArg Prod.fst hnew)).1) (by simp)
  · rw [show (mapEvent env tenv event s).2 = _ from he] at hnone
    obtain ⟨-, hhouses⟩ := hs.mapNewSocket_home env tenv.toMapEnv hnone' event.pid
    exact absurd (hhouses.live.symm.trans hnone) (by simp)

/-- What is asked of the state before is what is needed once the socket is mapped. -/
theorem mappedCovers (hs : Synced x s) (tenv : TrafficEnv) (event : SocketEvent)
    (hcovers : EventCovers env tenv event s) : MappedCovers env tenv event s := by
  obtain ⟨hconnected, hloaded, hannounced, hunannounced⟩ := hcovers
  have hown : event.cookie ≠ 0 → event.pid ≠ 0 → s.sockets.lookup event.cookie = none →
      newSocketPid tenv event s = some event.pid := by
    intro hc hpid hnone
    unfold newSocketPid
    rw [if_neg (by simp [hc, hnone]), if_pos hpid]
  have hnew : event.cookie ≠ 0 → event.pid ≠ 0 → s.sockets.lookup event.cookie = none →
      mapEvent env tenv event s =
        (some (SystemMap.mapNewSocket (listener env) tenv.toMapEnv event.cookie event.pid s).1,
          (SystemMap.mapNewSocket (listener env) tenv.toMapEnv event.cookie event.pid s).2) :=
    fun hc hpid hnone => mapSocket_new tenv.toMapEnv _ _ hc hpid hnone
  refine ⟨fun hc hpid hnone => upgradeCovers (hloaded _ (hown hc hpid hnone)),
    fun r hr hrec => ?_, fun hnone hrec => ?_, fun bytes header hdata hlook hpos => ?_⟩
  · rcases mapSocket_cases (h := listener env) tenv.toMapEnv event.cookie event.data.isEstablished
      event.pid event.data.silentFail s with ⟨he, hknown⟩ | ⟨hc, hpid, hnone, hr', he⟩
    · rw [show (mapEvent env tenv event s).2 = s from he] at hrec ⊢
      exact hconnected r (hknown r hr).1 (hknown r hr).2 hrec
    · obtain rfl := Option.some.inj (hr'.symm.trans hr)
      rw [show (mapEvent env tenv event s).2 = _ from he] at hrec ⊢
      obtain ⟨hputs, hhouses⟩ := hs.mapNewSocket_home env tenv.toMapEnv hnone event.pid
      have hann := hannounced _ (hown hc hpid hnone) hrec.1
        ((announces_iff hhouses.toUnder hputs.sameRules).mp hrec.2)
      intro out
      have hroot : rootApp out.shape _ = (_, .application) :=
        congrArg (·, TrafficItemType.application)
          ((congrArg _ hhouses.process).trans hhouses.app)
      rw [hroot]
      exact hann.covers hputs.sameRules hhouses
  · refine hs.holdsAlready_mapSocket env tenv.toMapEnv _ _ hnone fun hc hpid => ?_
    refine hunannounced _ (hown hc hpid hnone) fun ⟨hsignals, hann⟩ => ?_
    obtain ⟨hputs, hhouses⟩ := hs.mapNewSocket_home env tenv.toMapEnv hnone event.pid
    refine hrec _ (congrArg Prod.fst (hnew hc hpid hnone)) ⟨hsignals, ?_⟩
    rw [hnew hc hpid hnone]
    exact (announces_iff hhouses.toUnder hputs.sameRules).mpr hann
  · obtain ⟨heq, hpid⟩ := hs.mapEvent_unknown env tenv event hlook
    rw [heq] at hlook ⊢
    have hnone : s.sockets.lookup event.cookie = none := hlook
    set s1 := call (listener env) .system (.pushOutgoingTraffic bytes) s with hs1
    have hshape : s1.shape = s.shape := shape_call ..
    have hrules : s1.listeners = s.listeners := rfl
    have hhome : ∀ pid, homeOf env tenv.toMapEnv pid s1 = homeOf env tenv.toMapEnv pid s :=
      fun pid => homeOf_call ..
    have hpacket : event.cookie ≠ 0 →
        newSocketPid tenv event s = some (tenv.endpointPID (header.local .outgoing)) := by
      intro hc
      unfold newSocketPid
      rw [if_neg (by simp [hc, hnone]), if_neg (not_not.mpr (hpid hc)), hdata]
      exact if_neg (not_le.mpr hpos)
    have hsynced : Synced x s1 := (Quiet.call env .system _ s).synced hs
    refine ⟨fun hc _ _ => upgradeCovers ?_,
      hsynced.holdsAlready_mapSocket env tenv.toMapEnv _ _ hlook fun hc _ => ?_⟩
    · rw [hshape, hrules, hhome]
      exact hloaded _ (hpacket hc)
    · rw [hshape, hrules, hhome]
      refine hunannounced _ (hpacket hc) fun h => ?_
      rw [hdata] at h
      exact Bool.false_ne_true h.1

/-- **One event.** -/
theorem updateData (hs : Synced x s) (tenv : TrafficEnv) (event : SocketEvent)
    (hcovers : EventCovers env tenv event s) :
    Synced x (updateData (listener env) tenv event s) := by
  obtain ⟨hmap, hannounced, hunannounced, htraffic⟩ := hs.mappedCovers tenv event hcovers
  set mapped := mapEvent env tenv event s with hmapped
  -- the socket is announced, or the kernel has the rules of every socket once it is mapped
  have hcases : (Synced x mapped.2 ∧ ∀ r, mapped.1 = some r →
        mapped.2.shape.socks event.cookie = some r) ∨
      Synced (fun d => x d ∨ d = event.cookie) mapped.2 ∧ ∃ r, mapped.1 = some r ∧
        Placed mapped.2.shape event.cookie r ∧ Recomputes event.data r mapped.2 := by
    rcases hs.mapSocket (handles_listener env) tenv.toMapEnv event.cookie
      event.data.isEstablished event.pid event.data.silentFail hmap with
      ⟨he, hr⟩ | ⟨hnone, hsout, r, hr, hplaced⟩
    · have heq : mapped.2 = s := he
      rw [heq]
      exact .inl ⟨hs, hr⟩
    · by_cases hrec : Recomputes event.data r mapped.2
      · exact .inr ⟨hsout, r, hr, hplaced, hrec⟩
      · have hsome : mapped.1 = some r := hr
        refine .inl ⟨Synced.holds hsout (hunannounced hnone fun q hq => ?_), fun q hq => ?_⟩
        · obtain rfl := Option.some.inj (hsome.symm.trans hq)
          exact hrec
        · obtain rfl := Option.some.inj (hsome.symm.trans hq)
          exact hplaced.live
  have hquiet : event.data.signalsConnected = false → Synced x mapped.2 := by
    intro hsignals
    rcases hcases with h | ⟨_, r, _, _, hrec⟩
    · exact h.1
    · exact absurd (hrec.1.symm.trans hsignals) (by decide)
  have hsocket : ∀ r, mapped.1 = some r → mapped.2.shape.IsSocket r ∧
      Synced x (SystemMap.processSocketEvent (listener env) event.data r mapped.2) := by
    intro r hr
    rcases hcases with ⟨hsynced, hlive⟩ | ⟨hsynced, q, hq, hplaced, hrec⟩
    · refine ⟨(hsynced.sound.socket _ r (hlive r hr)).1, ?_⟩
      exact (hsynced.processSocketEvent event.data r (hannounced r hr)).mono fun _ hc => hc.1
    · obtain rfl := Option.some.inj (hq.symm.trans hr)
      refine ⟨(hsynced.sound.socket _ q hplaced.live).1, ?_⟩
      refine (hsynced.processSocketEvent event.data q (hannounced q hr)).mono fun c hc => ?_
      refine hc.1.resolve_right fun hcookie => ?_
      obtain ⟨pid, hproc⟩ := hplaced.process
      have hheld := (hsynced.sound.process pid _ hproc).2
      exact hc.2 hrec _ _ q ⟨rfl, ⟨pid, hheld⟩, hcookie ▸ hplaced.held⟩
  have hdata : ∀ data, data = event.data → data.signalsConnected = false → Synced x mapped.2 :=
    fun data he h => hquiet (he ▸ h)
  unfold SystemMap.updateData
  simp only
  split
  · rename_i bytes header he
    exact (hdata _ he.symm rfl).pushIncomingTraffic tenv event.cookie bytes header
  · rename_i bytes header he
    refine (hdata _ he.symm rfl).pushOutgoingTraffic tenv event.cookie bytes header fun h hh => ?_
    exact htraffic bytes h (hh ▸ he)
  · rename_i localPort he
    exact (Quiet.markSocketForRemoval env _ _ _ _ _).synced (hdata _ he.symm rfl)
  · split
    · rename_i hnone
      rcases hcases with h | ⟨_, r, hr, _⟩
      · exact h.1
      · exact absurd (hnone.symm.trans hr) (by simp)
    · rename_i r hr
      obtain ⟨hrsocket, hevent⟩ := hsocket r hr
      have hmerged := hevent.mergeSyntheticSocket env tenv.order r
      split
      · refine hmerged.reparentAcceptedSocket ?_
        refine (forgets_mergeSyntheticSocket tenv.order r _).isSocket ?_
        rw [shape_processSocketEvent]
        exact hrsocket
      · exact hmerged

end Synced

/-! ## Rules and orphans -/

/-- A rule change names an application whose recomputation covers it. -/
def ChangeCovers (env : RuleEnv) (update : RuleUpdate) (s : SystemMap RuleManager) : Prop :=
  ∀ ty root, s.trafficItems.lookup update.trafficItemId = some ty →
    RuleManager.cacheRoot s.toCounterTree update ty = some root →
      Covers s.shape root s.listeners (s.listeners.store ty update.trafficItemId
        (RuleManager.withMarks env update.trafficItemId update.rules))

/-- The system rule that is loaded reaches every socket. -/
def SystemCovers (env : RuleEnv) (s : SystemMap RuleManager) : Prop :=
  ∀ row, env.dbRule "system" = some row → (RuleManager.loadedRules env 0 row).isDefault = false →
    Covers s.shape (0, .system) s.listeners
      { s.listeners with systemRules := RuleManager.loadedRules env 0 row }

/-- The rules that are loaded for the applications reach their sockets, one after the other. -/
def InitialCovers (env : RuleEnv) (o : IterOrder) (s : SystemMap RuleManager) : Prop :=
  AllSteps (fun s a => notify (listener env) (.onAppFirstTimeConnected a) s)
    (fun s a => LoadCovers env s.toCounterTree a s.listeners) s (o.values s.applications)

/-- What a reparented socket relies on: the rules over its new place are known already. -/
structure OrphanCovers (env : RuleEnv) (endpoint : Endpoint) (pid : ProcessId)
    (s : SystemMap RuleManager) : Prop where
  loaded : ∀ r, s.orphanedSockets.lookup endpoint = some r → pid ≠ 0 →
    (orphanHome env pid r s).mapped.Covered s.shape s.listeners
  known : ∀ r, s.orphanedSockets.lookup endpoint = some r → pid ≠ 0 →
    (orphanHome env pid r s).Known (s.shape.sockCookie r) s.shape s.listeners

theorem covers_congr {t : TreeShape} {root : TrafficItemId × TrafficItemType}
    {m m' m'' : RuleManager} (h : RuleManager.SameRules m' m'') (hcovers : Covers t root m m') :
    Covers t root m m'' := by
  intro c r hr
  obtain ⟨h1, h2⟩ := hcovers c r hr
  refine ⟨fun a p q hq => ?_, fun hnone => ?_⟩
  · exact (h.inForce t a p q).trans ((h1 a p q hq).trans (h.inForce t _ _ r).symm)
  · exact (h.inForce t _ _ r).trans (h2 hnone)

namespace Synced

variable {env : RuleEnv} {x : SocketCookie → Prop} {s : SystemMap RuleManager}

/-- **A rule change.** -/
theorem changed (hs : Synced x s) (update : RuleUpdate) (hcovers : ChangeCovers env update s) :
    Synced x (withRules
      (RuleManager.handleRuleChange env s.toCounterTree update s.listeners).1 s) := by
  unfold RuleManager.handleRuleChange
  split
  · exact hs
  · rename_i ty hty
    split
    · exact hs
    · rename_i root hroot
      simp only
      set m := if ty = .system then
          { s.listeners with kernel := s.listeners.kernel.insert 0 update.rules.asBase }
        else s.listeners with hm
      set rules := RuleManager.withMarks env update.trafficItemId update.rules with hrules
      set stored := m.store ty update.trafficItemId rules with hstored
      have hcookies : stored.socketCookieRules = s.listeners.socketCookieRules := by
        rw [hstored, hm]
        cases ty <;> rfl
      have hsame : RuleManager.SameRules (s.listeners.store ty update.trafficItemId rules)
          stored := by
        rw [hstored, hm]
        cases ty <;> exact ⟨rfl, rfl, rfl, fun _ => rfl⟩
      -- only the entry under cookie 0, which is no socket's, is written past the cache
      have hkernel : ∀ c, c ≠ 0 → stored.kernelValue c = s.listeners.kernelValue c := by
        intro c hc
        unfold RuleManager.kernelValue
        rw [hstored, hm]
        cases ty with
        | system => simp only [RuleManager.store, UMap.lookup_insert_ite, if_neg hc, if_true]
        | _ => rfl
      have hclean : stored.Clean := by
        intro c e h0 he
        rw [hcookies] at he
        rw [hkernel c h0]
        exact hs.clean c e h0 he
      have hsynced := hs.recompute hclean hkernel (covers_congr hsame (hcovers ty root hty hroot))
        env.order env.order
      exact ⟨hs.sound, hsynced.clean.removeEmptyRules,
        (hsynced.inSync.mono fun _ hc => hc.1).removeEmptyRules⟩

theorem systemLoaded (hs : Synced x s) (hcovers : SystemCovers env s) :
    Synced x (withRules (RuleManager.loadSystemRule env s.toCounterTree s.listeners) s) := by
  unfold RuleManager.loadSystemRule
  split
  · exact hs
  · rename_i row hrow
    simp only
    split
    · exact hs
    · rename_i hd
      have hclean : RuleManager.Clean
          { s.listeners with systemRules := RuleManager.loadedRules env 0 row } := hs.clean
      exact (hs.recompute hclean (fun _ _ => rfl) (hcovers row hrow (Bool.eq_false_iff.mpr hd))
        env.order env.order).mono fun _ hc => hc.1

theorem processInitialApps (hs : Synced x s) (o : IterOrder) (hcovers : InitialCovers env o s) :
    Synced x (processInitialApps (listener env) o s) :=
  run_of_allSteps (fun _ _ hs hload => hs.loaded hload) _ hs hcovers

variable (env) in
/-- A socket goes to the process of a PID in an application. -/
theorem reparented (hs : Synced x s) (now : Msec) (endpoint : Endpoint) (pid : ProcessId)
    {app r : Ref} (happ : app < s.nextItemId) (hr : s.shape.IsSocket r) :
    let process := SystemMap.findOrMapProcess (listener env) now pid app s
    Synced (fun c => x c ∨ c = s.shape.sockCookie r)
      (addSocketAddition r (modify (·.forgetOrphan endpoint)
        (modify (·.attachSocket r process.1) process.2))) := by
  obtain ⟨hsynced, hproc⟩ := hs.findOrMapProcess (handles_listener env) now pid happ
  obtain ⟨-, hid, hcookies⟩ := sockets_findOrMapProcess (h := listener env) now pid app s
  intro process
  have hcookie : process.2.shape.sockCookie r = s.shape.sockCookie r := congrFun hcookies r
  have hsocket : process.2.shape.IsSocket r :=
    ⟨hr.ne_zero, (congrFun hid r).trans hr.itemId, hcookie ▸ hr.cookie⟩
  have hattached := hsynced.attachSocket hsocket (hsynced.sound.process pid _ hproc).1
  rw [hcookie] at hattached
  refine Synced.quiet (hattached.forget (f := (·.forgetOrphan endpoint)) ?_) rfl rfl
  rw [CounterTree.shape_forgetOrphan]
  exact TreeShape.Forgets.forgetOrphan _ _

/-- The application of a socket that is reparented is registered again where it is missing. -/
theorem registered (hs : Synced x s) {app : Ref} (appKey : String) (happ : app < s.nextItemId)
    (hload : (s.applications.lookup appKey).isSome = false →
      LoadCovers env (s.toCounterTree.registerApp appKey app) app s.listeners) :
    let s' := if (s.applications.lookup appKey).isSome then s
      else notify (listener env) (.onAppFirstTimeConnected app)
        (modify (·.registerApp appKey app) s)
    Synced x s' ∧ s.shape.Forgets s'.shape := by
  intro s'
  simp only [s']
  split
  · exact ⟨hs, .refl _⟩
  · rename_i hnone
    have hf : s.shape.Forgets (s.toCounterTree.registerApp appKey app).shape := by
      rw [CounterTree.shape_registerApp]
      exact TreeShape.Forgets.registerApp _ _ happ
    exact ⟨(hs.forget hf).loaded (hload (Bool.eq_false_iff.mpr hnone)), hf⟩

/-- The rule of an application that is registered again reaches its sockets. -/
theorem loadCovers_registerApp {pid : ProcessId} {r : Ref}
    (h : (SystemMap.orphanHome env pid r s).mapped.Covered s.shape s.listeners) :
    let app := s.shape.procApp (s.shape.sockProc r)
    let appKey := s.shape.appPath app
    (s.applications.lookup appKey).isSome = false →
      LoadCovers env (s.toCounterTree.registerApp appKey app) app s.listeners := by
  intro app appKey hnone
  have hmapped : (SystemMap.orphanHome env pid r s).mapped = SystemMap.orphanApp env r s :=
    mapped_place _ _ _
  rw [hmapped] at h
  refine h.loadCovers ?_ ?_ fun m' hm => ?_
  · rw [CounterTree.shape_registerApp]
    rfl
  · rw [CounterTree.shape_registerApp]
    exact if_neg (Bool.eq_false_iff.mp hnone)
  · rw [CounterTree.shape_registerApp]
    exact hm.registerApp _ _

/-- **A socket is reparented.** -/
theorem reparentOrphanedSocket (hs : Synced x s) (now : Msec) (endpoint : Endpoint)
    (pid : ProcessId) (hcovers : OrphanCovers env endpoint pid s) :
    Synced x (reparentOrphanedSocket (listener env) now endpoint pid s) := by
  obtain ⟨hloaded, hknown⟩ := hcovers
  have hholds : ∀ r, s.orphanedSockets.lookup endpoint = some r → pid ≠ 0 →
      HoldsAlready (s.shape.sockCookie r)
        (SystemMap.reparentOrphanedSocket (listener env) now endpoint pid s) := by
    intro r hr hpid q hq
    obtain ⟨hputs, hunder, hlive⟩ := hs.orphanHome env now hpid hr
    obtain rfl := Option.some.inj (hlive.symm.trans hq)
    exact (hknown r hr hpid).holds (hs.sound.orphan endpoint r hr).cookie hputs hunder
  unfold SystemMap.reparentOrphanedSocket at hholds ⊢
  split
  · exact hs
  · rename_i r hr
    rw [hr] at hholds
    simp only at hholds ⊢
    split
    · refine hs.forget ?_
      rw [CounterTree.shape_forgetOrphan]
      exact TreeShape.Forgets.forgetOrphan _ _
    · rename_i hpid
      have hholds := hholds r rfl hpid
      rw [if_neg hpid] at hholds
      have happ : (s.process (s.socket r).parentProcess).parentApp < s.nextItemId :=
        (hs.sound.older _).2.2.2.1
      obtain ⟨hsynced, hforgets⟩ := hs.registered
        (s.app (s.process (s.socket r).parentProcess).parentApp).trafficItem.applicationPath
        happ (loadCovers_registerApp (hloaded r hr hpid))
      have hreparented := hsynced.reparented env now endpoint pid
        (Nat.lt_of_lt_of_le happ hforgets.next)
        (hforgets.isSocket (hs.sound.orphan endpoint r hr))
      rw [hforgets.sockCookie] at hreparented
      exact hreparented.holds hholds

end Synced

/-! ## Removing processes -/

/-- Where a process that is due has a rule, it holds every live socket of it under its cookie. -/
def RemovalCovers (env : TickEnv) (s : SystemMap RuleManager) : Prop :=
  ∀ pid p, s.processes.lookup pid = some p →
    (s.process p).dueForRemoval (env.cleanupTime (.process p)) = true →
      (rulesOf s.listeners.processRules (s.shape.procId p)).isDefault = true ∨
        ∀ c r, s.shape.socks c = some r → s.shape.procId (s.shape.sockProc r) = s.shape.procId p →
          ∃ q, s.shape.procSocks p c = some q

/-- What the removal of the sockets of a process leaves alone. -/
structure Drops (s s' : SystemMap RuleManager) : Prop where
  items : s.shape.SameItems s'.shape
  socks : ∀ c r, s'.shape.socks c = some r → s.shape.socks c = some r
  process : s'.process = s.process
  rules : s'.listeners.processRules = s.listeners.processRules

namespace Drops

variable {s s' s'' : SystemMap RuleManager}

theorem refl (s : SystemMap RuleManager) : Drops s s := ⟨.refl _, fun _ _ => id, rfl, rfl⟩

theorem trans (h : Drops s s') (h' : Drops s' s'') : Drops s s'' :=
  ⟨h.items.trans h'.items, fun c r hr => h.socks c r (h'.socks c r hr),
    h'.process.trans h.process, h'.rules.trans h.rules⟩

theorem of_quiet (h : Quiet s s') (hprocess : s'.process = s.process) : Drops s s' :=
  ⟨h.forgets.toSameItems, h.forgets.socket, hprocess, h.listeners ▸ rfl⟩

end Drops

namespace Quiet

variable (env : RuleEnv)

theorem eraseTrafficItem (i : TrafficItemId) (s : SystemMap RuleManager) :
    Quiet s (SystemMap.modify (·.eraseTrafficItem i) s) := by
  refine modify ?_
  rw [CounterTree.shape_eraseTrafficItem]
  exact TreeShape.Forgets.eraseTrafficItem _ _

theorem clearTupleCounters (r : Ref) (s : SystemMap RuleManager) :
    Quiet s (SystemMap.modify (·.clearTupleCounters r) s) := by
  refine modify ?_
  rw [CounterTree.shape_clearTupleCounters]
  exact TreeShape.Forgets.clearTupleCounters _ _

theorem clearTupleItems (r : Ref) (s : SystemMap RuleManager) :
    Quiet s (SystemMap.modify (·.clearTupleItems r) s) := by
  refine modify ?_
  rw [CounterTree.shape_clearTupleItems]
  exact TreeShape.Forgets.clearTupleItems _ _

theorem eraseSocket (c : SocketCookie) (s : SystemMap RuleManager) :
    Quiet s (SystemMap.modify (·.eraseSocket c) s) := by
  refine modify ?_
  rw [CounterTree.shape_eraseSocket]
  exact TreeShape.Forgets.eraseSocket _ _

theorem dropProcessTuple (s : SystemMap RuleManager) (u : Ref) :
    Quiet s (dropProcessTuple (listener env) s u) :=
  (eraseTrafficItem _ s).trans (of_shape rfl rfl)

end Quiet

/-- The process counters through the loop over the tuples. -/
theorem process_dropProcessTuples (env : RuleEnv) : ∀ (us : List Ref) (s : SystemMap RuleManager),
    (us.foldl (dropProcessTuple (listener env)) s).process = s.process
  | [], _ => rfl
  | _ :: us, _ => process_dropProcessTuples env us _

/-- A socket of a removed process, under the cookie it is in `Sockets` with. -/
theorem Synced.dropProcessCounter {x : SocketCookie → Prop} (env : RuleEnv) (tick : TickEnv)
    (acc : List Endpoint × SystemMap RuleManager) (hs : Synced x acc.2) (r : Ref)
    {c : SocketCookie} {counter : Ref} (hc : acc.2.shape.socks c = some counter) :
    let out := (dropProcessCounter (listener env) tick r counter acc).2
    Synced (fun d => x d ∨ d = c) out ∧ Drops acc.2 out := by
  obtain ⟨hsocket, hcookie⟩ := hs.sound.socket c counter hc
  unfold SystemMap.dropProcessCounter
  simp only
  set s1 := if (acc.2.socket r).trafficItem.connectionState ≠ .closed then
      modify (·.orphan (acc.2.socket r).trafficItem.socketTuple.localEndpoint counter) acc.2
    else acc.2 with hs1
  have horphaned : Synced x s1 ∧ Drops acc.2 s1 := by
    rw [hs1]
    split
    · exact ⟨hs.orphan _ hsocket, ⟨rfl, rfl, rfl, rfl, rfl, rfl⟩, fun _ _ => id, rfl, rfl⟩
    · exact ⟨hs, .refl _⟩
  obtain ⟨hsynced1, hdrops1⟩ := horphaned
  set us := tick.order.values (s1.socket counter).udpPerConnectionCounters
  set s2 := modify (·.clearTupleCounters counter)
    (us.foldl (dropProcessTuple (listener env)) s1) with hs2
  have hquiet : Quiet s1 s2 :=
    (Quiet.foldl (Quiet.dropProcessTuple env) us s1).trans (Quiet.clearTupleCounters _ _)
  have hdrops2 : Drops s1 s2 := .of_quiet hquiet (process_dropProcessTuples env us s1)
  have hitems := hdrops1.items.trans hdrops2.items
  have hremoved := (hquiet.synced hsynced1).removed env (hitems.isSocket hsocket)
  rw [hitems.sockCookie, hcookie] at hremoved
  exact ⟨hremoved, (hdrops1.trans hdrops2).trans ⟨.refl _, fun _ _ => id, rfl, rfl⟩⟩

/-- One turn of the loop over the sockets of a removed process. -/
theorem Synced.dropProcessSocket {x : SocketCookie → Prop} (env : RuleEnv) (tick : TickEnv)
    {acc : List Endpoint × SystemMap RuleManager} (hs : Synced x acc.2)
    (entry : SocketCookie × Ref) :
    let out := (dropProcessSocket (listener env) tick acc entry).2
    Synced x out ∧ Drops acc.2 out ∧ out.shape.socks entry.1 = none := by
  unfold SystemMap.dropProcessSocket
  simp only
  set s1 := addItemRemoval (acc.2.socket entry.2).trafficItem.itemId
    (modify (·.eraseTrafficItem (acc.2.socket entry.2).trafficItem.itemId) acc.2) with hs1
  have hquiet : Quiet acc.2 s1 := (Quiet.eraseTrafficItem _ acc.2).trans (.of_shape rfl rfl)
  have hdrops : Drops acc.2 s1 := .of_quiet hquiet rfl
  have hrest : ∀ s2 : SystemMap RuleManager, Synced (fun d => x d ∨ d = entry.1) s2 →
      Drops acc.2 s2 →
      let out := modify (·.eraseSocket entry.1) (modify (·.clearTupleItems entry.2) s2)
      Synced x out ∧ Drops acc.2 out ∧ out.shape.socks entry.1 = none := by
    intro s2 hsynced hdrops2 out
    have hlast : Quiet s2 out :=
      (Quiet.clearTupleItems entry.2 s2).trans (Quiet.eraseSocket entry.1 _)
    have hnone : out.shape.socks entry.1 = none := by
      simp [out, TreeShape.eraseSocket]
    exact ⟨Synced.gone (hlast.synced hsynced) hnone, hdrops2.trans (.of_quiet hlast rfl), hnone⟩
  split
  · rename_i counter hcounter
    obtain ⟨hsynced, hdrops2⟩ := Synced.dropProcessCounter env tick (acc.1, s1)
      (hquiet.synced hs) entry.2 hcounter
    exact hrest _ hsynced (hdrops.trans hdrops2)
  · exact hrest _ ((hquiet.synced hs).mono fun _ hd => .inl hd) hdrops

/-- The loop over the sockets of a removed process. -/
theorem Synced.dropProcessSockets {x : SocketCookie → Prop} (env : RuleEnv) (tick : TickEnv) :
    ∀ (l : List (SocketCookie × Ref)) (acc : List Endpoint × SystemMap RuleManager),
      Synced x acc.2 →
      let out := (l.foldl (SystemMap.dropProcessSocket (listener env) tick) acc).2
      Synced x out ∧ Drops acc.2 out ∧ ∀ e ∈ l, out.shape.socks e.1 = none
  | [], acc, hs => ⟨hs, .refl _, nofun⟩
  | e :: l, acc, hs => by
    obtain ⟨h1, h2, h3⟩ := hs.dropProcessSocket env tick e
    obtain ⟨i1, i2, i3⟩ := Synced.dropProcessSockets env tick l _ h1
    refine ⟨i1, h2.trans i2, List.forall_mem_cons.mpr ⟨?_, i3⟩⟩
    refine Option.eq_none_iff_forall_ne_some.mpr fun r hr => ?_
    exact absurd (h3.symm.trans (i2.socks e.1 r hr)) (by simp)

/-- A counter is due for removal when it was, whatever is called but a mark at that time. -/
theorem dueForRemoval_call {T : Type} [IsTrafficItem T] {c : TrafficCounter T} {cc : CounterCall}
    {now : Msec} (hmark : ∀ t, cc = .markForRemoval t → t = now)
    (hdue : (c.call cc).dueForRemoval now = true) : c.dueForRemoval now = true := by
  unfold TrafficCounter.dueForRemoval at hdue ⊢
  rw [decide_eq_true_eq] at hdue ⊢
  cases cc with
  | pushOutgoingTraffic b | pushIncomingTraffic b =>
    exact absurd (show CounterState.active = .pendingRemoval from hdue.1) (by decide)
  | refresh t =>
    simp only [TrafficCounter.call, TrafficCounter.refresh] at hdue
    split at hdue
    · exact hdue
    · rename_i hopen
      split at hdue
      · have hstate := hdue.1
        simp only [TrafficCounter.closeWindow] at hstate
        split_ifs at hstate <;> exact absurd hstate hopen
      · exact hdue
  | markForRemoval t =>
    simp only [TrafficCounter.call, TrafficCounter.markForRemoval] at hdue
    split at hdue
    · exact hdue
    · have hlate : t + 5000 ≤ now := hdue.2
      rw [hmark t rfl] at hlate
      exact absurd hlate (Int.not_le.mpr (Int.lt_add_of_pos_right now (by decide)))

/-- What `RefreshAllTrafficCounters` does before `Cleanup` are refreshes, notices the rule manager
ignores, and marks on tuples. -/
theorem refreshCounters_rel {env : RuleEnv} {tick : TickEnv}
    {R : SystemMap RuleManager → SystemMap RuleManager → Prop} (hrefl : ∀ s, R s s)
    (htrans : ∀ s s' s'', R s s' → R s' s'' → R s s'')
    (hrefresh : ∀ who t s, R s (call (listener env) who (.refresh t) s))
    (hmark : ∀ u t s, R s (call (listener env) (.tuple u) (.markForRemoval t) s))
    (htold : ∀ n s, (notify (listener env) n s).listeners = s.listeners →
      R s (notify (listener env) n s)) (s : SystemMap RuleManager) :
    R s (refreshCounters (listener env) tick s) := by
  have hloop : ∀ {α : Type} {f : SystemMap RuleManager → α → SystemMap RuleManager},
      (∀ s a, R s (f s a)) → ∀ (l : List α) (s : SystemMap RuleManager), R s (l.foldl f s) :=
    fun hf l s => List.foldlRecOn (motive := R s) _ _ (hrefl s)
      fun s' hs' a _ => htrans _ _ _ hs' (hf s' a)
  unfold refreshCounters
  simp only
  refine htrans _ _ _ (htrans _ _ _ (htrans _ _ _ (htrans _ _ _ (hrefresh _ _ s)
    (hloop (fun s i => ?_) _ _)) (hloop (fun s a => hrefresh _ _ s) _ _))
      (hloop (fun s p => hrefresh _ _ s) _ _)) (hloop (fun s r => ?_) _ _)
  · unfold refreshFilter
    split
    · exact hrefl s
    · exact htrans _ _ _ (htold _ s rfl) (hrefresh _ _ _)
  · unfold refreshSocket
    simp only
    refine htrans _ _ _ (htrans _ _ _ (htold _ s rfl) (hrefresh _ _ _)) (hloop (fun s u => ?_) _ _)
    unfold refreshTuple
    simp only
    split
    · exact htrans _ _ _ (hrefresh _ _ s) (hmark _ _ _)
    · exact hrefresh _ _ s

/-- What a refresh or a cleanup has done before it comes to a process. -/
structure Removes (tick : TickEnv) (s s' : SystemMap RuleManager) : Prop where
  items : s.shape.SameItems s'.shape
  socks : ∀ c r, s'.shape.socks c = some r → s.shape.socks c = some r
  held : s'.shape.procSocks = s.shape.procSocks
  rules : ∀ i, rulesOf s'.listeners.processRules i = rulesOf s.listeners.processRules i ∨
    rulesOf s'.listeners.processRules i = {}
  due : ∀ p, (s'.process p).dueForRemoval (tick.cleanupTime (.process p)) = true →
    (s.process p).dueForRemoval (tick.cleanupTime (.process p)) = true

namespace Removes

variable {tick : TickEnv} {s s' s'' : SystemMap RuleManager}

theorem refl (s : SystemMap RuleManager) : Removes tick s s :=
  ⟨.refl _, fun _ _ => id, rfl, fun _ => .inl rfl, fun _ => id⟩

theorem trans (h : Removes tick s s') (h' : Removes tick s' s'') : Removes tick s s'' where
  items := h.items.trans h'.items
  socks c r hr := h.socks c r (h'.socks c r hr)
  held := h'.held.trans h.held
  rules i := by
    rcases h'.rules i with he | he
    · rw [he]
      exact h.rules i
    · exact .inr he
  due p hp := h.due p (h'.due p hp)

theorem of_drops (h : Drops s s') : Removes tick s s' where
  items := h.items
  socks := h.socks
  held := by
    funext p c
    exact congrArg (fun f => (f p).trafficItem.sockets.lookup c) h.process
  rules i := .inl (by rw [h.rules])
  due p hp := by rwa [h.process] at hp

theorem call (env : RuleEnv) (who : CounterId) (cc : CounterCall)
    (hmark : ∀ p t, who = .process p → cc = .markForRemoval t →
      t = tick.cleanupTime (.process p)) (s : SystemMap RuleManager) :
    Removes tick s (call (listener env) who cc s) := by
  have hshape : (SystemMap.call (listener env) who cc s).shape = s.shape := shape_call _ _ _ _
  refine ⟨hshape ▸ .refl _, fun c r hr => hshape ▸ hr, by rw [hshape], fun _ => .inl rfl,
    fun p hp => ?_⟩
  cases who with
  | process q =>
    by_cases hq : p = q
    · subst hq
      have hprocess : (SystemMap.call (listener env) (.process p) cc s).process p =
          { s.process p with toTrafficCounter := (s.process p).toTrafficCounter.call cc } :=
        Function.update_self ..
      rw [hprocess] at hp
      exact dueForRemoval_call (fun t ht => hmark p t rfl ht) hp
    · have hprocess : (SystemMap.call (listener env) (.process q) cc s).process p = s.process p :=
        Function.update_of_ne hq _ _
      rwa [hprocess] at hp
  | _ => exact hp

theorem refreshCounters (env : RuleEnv) (s : SystemMap RuleManager) :
    Removes tick s (refreshCounters (listener env) tick s) := by
  refine refreshCounters_rel refl (fun _ _ _ => trans) (fun who t s => ?_) (fun u t s => ?_)
    (fun n s hn => of_drops ⟨.refl _, fun _ _ => id, rfl, by rw [hn]⟩) s
  · exact call env who (.refresh t) (fun _ _ _ h => nomatch h) s
  · exact call env (.tuple u) (.markForRemoval t) (fun _ _ h => nomatch h) s

end Removes

theorem RemovalCovers.removes {tick : TickEnv} {s s' : SystemMap RuleManager}
    (h : RemovalCovers tick s) (hr : Removes tick s s') {pid : ProcessId} {p : Ref}
    (hp : s.processes.lookup pid = some p)
    (hdue : (s'.process p).dueForRemoval (tick.cleanupTime (.process p)) = true) :
    (rulesOf s'.listeners.processRules (s'.shape.procId p)).isDefault = true ∨
      ∀ c r, s'.shape.socks c = some r →
        s'.shape.procId (s'.shape.sockProc r) = s'.shape.procId p →
          ∃ q, s'.shape.procSocks p c = some q := by
  rw [hr.items.procId, hr.items.sockProc, hr.held]
  rcases h pid p hp (hr.due p hdue) with hdefault | hheld
  · refine .inl ?_
    rcases hr.rules (s.shape.procId p) with he | he
    · rw [he]
      exact hdefault
    · rw [he]
      rfl
  · exact .inr fun c r hc => hheld c r (hr.socks c r hc)

/-- Dropping the rule of a process that says nothing, or of one without live sockets, changes no
effective rules. -/
theorem effective_onProcessRemoved {s : SystemMap RuleManager} {p r : Ref}
    (h : (rulesOf s.listeners.processRules (s.shape.procId p)).isDefault = true ∨
      s.shape.procId (s.shape.sockProc r) ≠ s.shape.procId p) :
    (s.listeners.onProcessRemoved s.toCounterTree p).effective s.shape r =
      s.listeners.effective s.shape r := by
  by_cases hid : s.shape.procId (s.shape.sockProc r) = s.shape.procId p
  · have hdefault := h.resolve_right (not_not.mpr hid)
    have hnone : rulesOf (s.listeners.processRules.erase (s.shape.procId p))
        (s.shape.procId p) = {} := by
      unfold rulesOf
      rw [UMap.lookup_erase_ite, if_pos rfl]
      rfl
    have hdrop : RuleManager.dropDefault
        (rulesOf s.listeners.processRules (s.shape.procId p)) = {} := if_pos hdefault
    unfold RuleManager.effective RuleManager.inForce
    rw [hid]
    change (effectiveSocketRules _ _ (rulesOf (s.listeners.processRules.erase (s.shape.procId p))
      (s.shape.procId p)) _).asBase = _
    rw [hnone, ← hdrop]
    exact ((RuleManager.sameButType_dropDefault ⟨rfl, rfl, rfl⟩ _).getEffectiveRules _).base
  · have hrules := rulesOf_erase_of_ne s.listeners.processRules hid
    exact congrArg (fun rules => (effectiveSocketRules _ _ rules _).asBase) hrules

/-- **A process is removed** with the sockets its item holds. -/
theorem Synced.removeProcess {s : SystemMap RuleManager} (hs : Synced (fun _ => False) s)
    (env : RuleEnv) (tick : TickEnv) (pid : ProcessId) {p : Ref}
    (hcovers : (rulesOf s.listeners.processRules (s.shape.procId p)).isDefault = true ∨
      ∀ c r, s.shape.socks c = some r → s.shape.procId (s.shape.sockProc r) = s.shape.procId p →
        ∃ q, s.shape.procSocks p c = some q) :
    Synced (fun _ => False) (removeProcess (listener env) tick pid p s) ∧
      Removes tick s (SystemMap.removeProcess (listener env) tick pid p s) := by
  set app := (s.process p).parentApp with happ
  set s1 := call (listener env) (.app app) (.pushIncomingTraffic 0)
    (call (listener env) .system (.pushIncomingTraffic 0) s) with hs1
  have hquiet1 : Quiet s s1 := (Quiet.call env _ _ s).trans (Quiet.call env _ _ _)
  have hdrops1 : Drops s s1 := .of_quiet hquiet1 rfl
  set l := tick.order.entries (s1.process p).trafficItem.sockets with hl
  set dropped := l.foldl (SystemMap.dropProcessSocket (listener env) tick) ([], s1) with hdropped
  obtain ⟨hsynced2, hdrops2, hgone⟩ := Synced.dropProcessSockets env tick l ([], s1)
    (hquiet1.synced hs)
  have hdrops : Drops s dropped.2 := hdrops1.trans hdrops2
  set s2 := notify (listener env) (.sendLookupMessage dropped.1) dropped.2 with hs2
  have hsynced : Synced (fun _ => False) s2 := hsynced2
  have hkeep : ∀ c r, s2.shape.socks c = some r →
      (s2.listeners.onProcessRemoved s2.toCounterTree p).effective s2.shape r =
        s2.listeners.effective s2.shape r := by
    intro c r hr
    have hr2 : dropped.2.shape.socks c = some r := hr
    refine effective_onProcessRemoved ?_
    rw [show s2.shape = dropped.2.shape from rfl, hdrops.items.procId, hdrops.items.sockProc,
      show s2.listeners.processRules = s.listeners.processRules from hdrops.rules]
    rcases hcovers with hdefault | hheld
    · exact .inl hdefault
    · refine .inr fun hid => ?_
      obtain ⟨q, hq⟩ := hheld c r (hdrops.socks c r hr2) hid
      have hmem : (c, q) ∈ l := by
        rw [hl, tick.order.mem_entries]
        exact hq
      exact absurd ((hgone _ hmem).symm.trans hr2) (by simp)
  have hremoved := hsynced.processRemoved env fun c r hr _ => hkeep c r hr
  set s3 := notify (listener env) (.onProcessRemoved p) s2 with hs3
  have hforgets : s3.shape.Forgets
      (SystemMap.removeProcess (listener env) tick pid p s).shape := by
    have hout : (SystemMap.removeProcess (listener env) tick pid p s).shape =
        ((s3.shape.eraseAppProcess app pid).eraseTrafficItem
          (s3.shape.procId p)).eraseProcess pid := by
      unfold SystemMap.removeProcess
      simp only [← happ, ← hs1, ← hl, ← hdropped, ← hs2, ← hs3]
      simp only [shape_modify, CounterTree.shape_eraseProcess,
        CounterTree.shape_eraseTrafficItem, shape_toCounterTree, shape_addItemRemoval,
        CounterTree.shape_eraseAppProcess]
      rfl
    rw [hout]
    exact TreeShape.Forgets.eraseProcess _ _ _ _
  have hlast : Quiet s3 (SystemMap.removeProcess (listener env) tick pid p s) := ⟨hforgets, rfl⟩
  refine ⟨hlast.synced hremoved, (Removes.of_drops hdrops).trans ?_⟩
  refine ⟨hforgets.toSameItems, hforgets.socket, rfl, fun i => ?_, fun q hq => hq⟩
  change rulesOf (s2.listeners.processRules.erase _) i = _ ∨
    rulesOf (s2.listeners.processRules.erase _) i = _
  by_cases hi : i = (s2.process p).trafficItem.itemId
  · refine .inr ?_
    unfold rulesOf
    rw [UMap.lookup_erase_ite, if_pos hi]
    rfl
  · exact .inl (rulesOf_erase_of_ne _ hi)

/-- One turn of the loop over the processes. -/
theorem Synced.cleanupProcess {s : SystemMap RuleManager} (hs : Synced (fun _ => False) s)
    (env : RuleEnv) (tick : TickEnv) (pid : ProcessId) (p : Ref)
    (hcovers : ∀ s', Removes tick s s' →
      (s'.process p).dueForRemoval (tick.cleanupTime (.process p)) = true →
        (rulesOf s'.listeners.processRules (s'.shape.procId p)).isDefault = true ∨
          ∀ c r, s'.shape.socks c = some r →
            s'.shape.procId (s'.shape.sockProc r) = s'.shape.procId p →
              ∃ q, s'.shape.procSocks p c = some q) :
    Synced (fun _ => False) (cleanupProcess (listener env) tick s (pid, p)) ∧
      Removes tick s (SystemMap.cleanupProcess (listener env) tick s (pid, p)) := by
  unfold SystemMap.cleanupProcess
  simp only
  set s1 := if !tick.isProcessRunning pid ∧ !(s.process p).isMarkedForRemoval then
      markItemForRemoval (s.process p).trafficItem.itemId
        (call (listener env) (.process p) (.markForRemoval (tick.cleanupTime (.process p))) s)
    else s with hs1
  have hmarked : Synced (fun _ => False) s1 ∧ Removes tick s s1 := by
    rw [hs1]
    split
    · have hcall := Quiet.call env (.process p)
        (.markForRemoval (tick.cleanupTime (.process p))) s
      refine ⟨Synced.quiet (hcall.synced hs) rfl rfl, ?_⟩
      refine (Removes.call env _ _ (fun q t hq ht => ?_) s).trans
        (.of_drops ⟨.refl _, fun _ _ => id, rfl, rfl⟩)
      cases hq
      cases ht
      rfl
    · exact ⟨hs, .refl _⟩
  split
  · rename_i hdue
    obtain ⟨h1, h2⟩ := hmarked.1.removeProcess env tick pid (hcovers s1 hmarked.2 hdue)
    exact ⟨h1, hmarked.2.trans h2⟩
  · exact hmarked

/-! ## Removing sockets and applications -/

namespace Quiet

variable (env : RuleEnv) (tick : TickEnv)

theorem cleanupTuple (r : Ref) (s : SystemMap RuleManager) (entry : Endpoint × Ref) :
    Quiet s (cleanupTuple (listener env) tick r s entry) := by
  unfold SystemMap.cleanupTuple
  simp only
  split
  · set s1 := addItemRemoval (s.tuple entry.2).trafficItem.itemId (SystemMap.modify
      (·.eraseTrafficItem (s.tuple entry.2).trafficItem.itemId)
        (notify (listener env) (.onUDPTupleRemoved entry.2) s)) with hs1
    have hitem : Quiet s s1 := (eraseTrafficItem _ s).trans (.of_shape rfl rfl)
    refine hitem.trans (modify ?_)
    rw [CounterTree.shape_eraseTuple]
    exact TreeShape.Forgets.eraseTuple _ _ _
  · exact refl s

theorem dropSocketTuple (s : SystemMap RuleManager) (u : Ref) : Quiet s (dropSocketTuple s u) :=
  (eraseTrafficItem _ s).trans (.of_shape rfl rfl)

theorem cleanupApp (s : SystemMap RuleManager) (entry : String × Ref) :
    Quiet s (cleanupApp s entry) := by
  unfold SystemMap.cleanupApp
  simp only
  split
  · set itemId := (s.app entry.2).trafficItem.itemId
    have hitem : Quiet s (SystemMap.modify (·.eraseTrafficItem itemId)
        (addItemRemoval itemId s)) :=
      (Quiet.of_shape rfl rfl : Quiet s (addItemRemoval itemId s)).trans (eraseTrafficItem _ _)
    refine hitem.trans (modify ?_)
    rw [CounterTree.shape_eraseApp]
    exact TreeShape.Forgets.eraseApp _ _
  · exact refl s

end Quiet

/-- **A socket is removed.** -/
theorem Synced.removeSocket {s : SystemMap RuleManager} {x : SocketCookie → Prop}
    (hs : Synced x s) (env : RuleEnv) (tick : TickEnv) {c : SocketCookie} {r : Ref}
    (hr : s.shape.IsSocket r) (hc : s.shape.sockCookie r = c) :
    Synced x (removeSocket (listener env) tick c r s) ∧
      s.shape.SameItems (SystemMap.removeSocket (listener env) tick c r s).shape := by
  set s1 := notify (listener env) (.onSocketRemoved r) s with hs1
  have hremoved := hs.removed env hr
  rw [hc, ← hs1] at hremoved
  set us := tick.order.values (s1.socket r).udpPerConnectionCounters with hus
  set s2 := us.foldl (fun s u => notify (listener env) (.onUDPTupleRemoved u) s) s1 with hs2
  have htold : Quiet s1 s2 := Quiet.foldl (fun s u => .of_shape rfl rfl) us s1
  set s3 := modify (·.eraseProcessSocket (s2.socket r).parentProcess c) s2 with hs3
  have hheld : Quiet s2 s3 := by
    refine Quiet.modify ?_
    rw [CounterTree.shape_eraseProcessSocket]
    exact TreeShape.Forgets.eraseProcessSocket _ _ _
  set s4 := addItemRemoval (s3.socket r).trafficItem.itemId
    (modify (·.eraseTrafficItem (s3.socket r).trafficItem.itemId) s3) with hs4
  have hitem : Quiet s3 s4 := (Quiet.eraseTrafficItem _ s3).trans (.of_shape rfl rfl)
  set s5 := us.foldl SystemMap.dropSocketTuple s4 with hs5
  have htuples : Quiet s4 s5 := Quiet.foldl Quiet.dropSocketTuple us s4
  have hlast : Quiet s5 (SystemMap.removeSocket (listener env) tick c r s) :=
    ((Quiet.clearTupleCounters r s5).trans (Quiet.clearTupleItems r _)).trans
      (Quiet.eraseSocket c _)
  have hquiet := (((htold.trans hheld).trans hitem).trans htuples).trans hlast
  refine ⟨Synced.gone (hquiet.synced hremoved) ?_, hquiet.forgets.toSameItems⟩
  unfold SystemMap.removeSocket
  simp [TreeShape.eraseSocket]

/-- One turn of the loop over the sockets. -/
theorem Synced.cleanupSocket {s : SystemMap RuleManager} {x : SocketCookie → Prop}
    (hs : Synced x s) (env : RuleEnv) (tick : TickEnv) {c : SocketCookie} {r : Ref}
    (hr : s.shape.IsSocket r) (hc : s.shape.sockCookie r = c) :
    Synced x (cleanupSocket (listener env) tick s (c, r)) ∧
      s.shape.SameItems (SystemMap.cleanupSocket (listener env) tick s (c, r)).shape := by
  unfold SystemMap.cleanupSocket
  simp only
  split
  · exact hs.removeSocket env tick hr hc
  · set s1 := if isStaleSocket tick r s.toCounterTree then
        call (listener env) (.socket r) (.markForRemoval (tick.cleanupTime (.socket r))) s
      else s with hs1
    have hmarked : Quiet s s1 := by
      rw [hs1]
      split
      · exact Quiet.call env _ _ s
      · exact .refl s
    have hquiet := hmarked.trans (Quiet.foldl (Quiet.cleanupTuple env tick r)
      (tick.order.entries (s1.socket r).udpPerConnectionCounters) s1)
    exact ⟨hquiet.synced hs, hquiet.forgets.toSameItems⟩

/-- **`RefreshAllTrafficCounters`.** -/
theorem Synced.refreshAllTrafficCounters {s : SystemMap RuleManager}
    (hs : Synced (fun _ => False) s) (env : RuleEnv) (tick : TickEnv)
    (hcovers : RemovalCovers tick s) :
    Synced (fun _ => False) (refreshAllTrafficCounters (listener env) tick s) := by
  set s1 := refreshCounters (listener env) tick s with hs1
  have hremoves1 : Removes tick s s1 := Removes.refreshCounters env s
  have hshape1 : s1.shape = s.shape := shape_refreshCounters tick s
  have hquiet1 : Quiet s s1 := refreshCounters_rel Quiet.refl (fun _ _ _ => Quiet.trans)
    (fun who t s => Quiet.call env who _ s) (fun u t s => Quiet.call env (.tuple u) _ s)
    (fun n s hn => .of_shape rfl hn) s
  have hsynced1 : Synced (fun _ => False) s1 := hquiet1.synced hs
  -- the loop over the processes
  set l := tick.order.entries s1.processes with hl
  set s2 := l.foldl (SystemMap.cleanupProcess (listener env) tick) s1 with hs2
  have hprocesses : Synced (fun _ => False) s2 ∧ Removes tick s1 s2 := by
    refine List.foldlRecOn (motive := fun s' => Synced (fun _ => False) s' ∧ Removes tick s1 s')
      _ _ ⟨hsynced1, .refl _⟩ fun s' hs' entry hentry => ?_
    have hlook : s.processes.lookup entry.1 = some entry.2 :=
      (congrFun (congrArg TreeShape.procs hshape1) entry.1).symm.trans
        (tick.order.lookup_of_mem_entries _ entry hentry)
    obtain ⟨h1, h2⟩ := hs'.1.cleanupProcess env tick entry.1 entry.2
      fun s'' hr hdue => hcovers.removes ((hremoves1.trans hs'.2).trans hr) hlook hdue
    exact ⟨h1, hs'.2.trans h2⟩
  -- the loop over the sockets
  set s3 := (tick.order.entries s2.sockets).foldl (SystemMap.cleanupSocket (listener env) tick) s2
    with hs3
  have hsockets : Synced (fun _ => False) s3 ∧ s2.shape.SameItems s3.shape := by
    refine List.foldlRecOn (motive := fun s' => Synced (fun _ => False) s' ∧
      s2.shape.SameItems s'.shape) _ _ ⟨hprocesses.1, .refl _⟩ fun s' hs' entry hentry => ?_
    obtain ⟨hsocket, hcookie⟩ := hprocesses.1.sound.socket entry.1 entry.2
      (tick.order.lookup_of_mem_entries _ entry hentry)
    obtain ⟨h1, h2⟩ := hs'.1.cleanupSocket env tick (c := entry.1) (hs'.2.isSocket hsocket)
      (hs'.2.sockCookie ▸ hcookie)
    exact ⟨h1, hs'.2.trans h2⟩
  exact (Quiet.foldl Quiet.cleanupApp (tick.order.entries s3.applications) s3).synced hsockets.1

end SystemMap

end Waechter
