import Waechter.Daemon.StateChanges

/-!
# The tree of items

`InTree`: the ids of the tree under `SystemItem`, which is what a client gets when it joins. It is
read from the top: the applications under their keys, the processes each of them holds, the sockets
each process holds, and the UDP tuples of each socket. The maps of `WSystemMap` may hold more or
less.

`Rooted` is the part of `TreeInv` that holds whatever is reparented or merged. `Extends` says that
nothing leaves the tree or `TrafficItems`: mapping a socket, packets and reparenting only add, as
long as no socket is put where the process holds another one (`Vacant`).
-/

namespace Waechter

open Lib

namespace TreeShape

variable {t t' t'' : TreeShape}

/-! ## What the tree holds -/

def HasApp (t : TreeShape) (a : Ref) : Prop := ∃ k, t.sysApps k = some a

def HasProcess (t : TreeShape) (p : Ref) : Prop :=
  ∃ a pid, t.HasApp a ∧ t.appProcs a pid = some p

def HasSocket (t : TreeShape) (r : Ref) : Prop :=
  ∃ p c, t.HasProcess p ∧ t.procSocks p c = some r

def HasTuple (t : TreeShape) (u : Ref) : Prop := ∃ r, t.HasSocket r ∧ u ∈ t.sockTraffic r

/-- The ids of the tree. -/
def InTree (t : TreeShape) (i : TrafficItemId) : Prop :=
  (∃ a, t.HasApp a ∧ t.appId a = i) ∨ (∃ p, t.HasProcess p ∧ t.procId p = i) ∨
    (∃ r, t.HasSocket r ∧ t.sockId r = i) ∨ ∃ u, t.HasTuple u ∧ t.tupId u = i

/-- What the tree refers to: items older than the next reference, and the processes of the maps. -/
structure Rooted (t : TreeShape) : Prop where
  systemApps : ∀ k, t.sysApps k = t.apps k
  held : ∀ a pid p, t.appProcs a pid = some p → t.procs pid = some p ∧ t.procApp p = a
  app : ∀ k a, t.apps k = some a → a < t.next
  process : ∀ pid p, t.procs pid = some p → p < t.next
  socket : ∀ p c r, t.procSocks p c = some r → r < t.next
  tuple : ∀ r u, u ∈ t.sockTraffic r → u < t.next
  parent : ∀ p, t.procApp p < t.next

namespace Rooted

theorem lt_of_hasApp (ht : t.Rooted) {a : Ref} (ha : t.HasApp a) : a < t.next := by
  obtain ⟨k, hk⟩ := ha
  exact ht.app k a (ht.systemApps k ▸ hk)

theorem lt_of_hasProcess (ht : t.Rooted) {p : Ref} (hp : t.HasProcess p) : p < t.next := by
  obtain ⟨a, pid, -, hp⟩ := hp
  exact ht.process pid p (ht.held a pid p hp).1

theorem lt_of_hasSocket (ht : t.Rooted) {r : Ref} (hr : t.HasSocket r) : r < t.next := by
  obtain ⟨p, c, -, hr⟩ := hr
  exact ht.socket p c r hr

theorem lt_of_hasTuple (ht : t.Rooted) {u : Ref} (hu : t.HasTuple u) : u < t.next := by
  obtain ⟨r, -, hu⟩ := hu
  exact ht.tuple r u hu

end Rooted

/-! ## Nothing leaves -/

/-- What is in the tree stays there with its id, and what is in `TrafficItems` stays. -/
structure Extends (t t' : TreeShape) : Prop where
  rooted : t'.Rooted
  app : ∀ a, t.HasApp a → t'.HasApp a ∧ t'.appId a = t.appId a
  process : ∀ p, t.HasProcess p → t'.HasProcess p ∧ t'.procId p = t.procId p
  socket : ∀ r, t.HasSocket r → t'.HasSocket r ∧ t'.sockId r = t.sockId r
  tuple : ∀ u, t.HasTuple u → t'.HasTuple u ∧ t'.tupId u = t.tupId u
  items : ∀ i, t.items i ≠ none → t'.items i ≠ none

namespace Extends

theorem refl (ht : t.Rooted) : Extends t t :=
  ⟨ht, fun _ h => ⟨h, rfl⟩, fun _ h => ⟨h, rfl⟩, fun _ h => ⟨h, rfl⟩, fun _ h => ⟨h, rfl⟩,
    fun _ => id⟩

theorem trans (h : Extends t t') (h' : Extends t' t'') : Extends t t'' where
  rooted := h'.rooted
  app a ha := ⟨(h'.app a (h.app a ha).1).1, (h'.app a (h.app a ha).1).2.trans (h.app a ha).2⟩
  process p hp :=
    ⟨(h'.process p (h.process p hp).1).1, (h'.process p (h.process p hp).1).2.trans (h.process p hp).2⟩
  socket r hr :=
    ⟨(h'.socket r (h.socket r hr).1).1, (h'.socket r (h.socket r hr).1).2.trans (h.socket r hr).2⟩
  tuple u hu :=
    ⟨(h'.tuple u (h.tuple u hu).1).1, (h'.tuple u (h.tuple u hu).1).2.trans (h.tuple u hu).2⟩
  items i hi := h'.items i (h.items i hi)

/-- **Nothing leaves the tree.** -/
theorem inTree (h : Extends t t') {i : TrafficItemId} (hi : t.InTree i) : t'.InTree i := by
  rcases hi with ⟨a, ha, rfl⟩ | ⟨p, hp, rfl⟩ | ⟨r, hr, rfl⟩ | ⟨u, hu, rfl⟩
  · exact .inl ⟨a, h.app a ha⟩
  · exact .inr (.inl ⟨p, h.process p hp⟩)
  · exact .inr (.inr (.inl ⟨r, h.socket r hr⟩))
  · exact .inr (.inr (.inr ⟨u, h.tuple u hu⟩))

/-- Every holder keeps what it holds, under any key. -/
theorem of_holders (ht : t.Rooted) (ht' : t'.Rooted)
    (happ : ∀ k a, t.sysApps k = some a → ∃ k', t'.sysApps k' = some a)
    (hprocess : ∀ a pid p, a < t.next → t.appProcs a pid = some p → t'.appProcs a pid = some p)
    (hsocket : ∀ p c r, p < t.next → t.procSocks p c = some r → t'.procSocks p c = some r)
    (htuple : ∀ r u, r < t.next → u ∈ t.sockTraffic r → u ∈ t'.sockTraffic r)
    (hid : ∀ x, x < t.next → t'.appId x = t.appId x ∧ t'.procId x = t.procId x ∧
      t'.sockId x = t.sockId x ∧ t'.tupId x = t.tupId x)
    (hitems : ∀ i, t.items i ≠ none → t'.items i ≠ none) : Extends t t' := by
  have hasApp (a : Ref) (ha : t.HasApp a) : t'.HasApp a := ha.elim fun k hk => happ k a hk
  have hasProcess (p : Ref) (hp : t.HasProcess p) : t'.HasProcess p := by
    obtain ⟨a, pid, ha, hp⟩ := hp
    exact ⟨a, pid, hasApp a ha, hprocess a pid p (ht.lt_of_hasApp ha) hp⟩
  have hasSocket (r : Ref) (hr : t.HasSocket r) : t'.HasSocket r := by
    obtain ⟨p, c, hp, hr⟩ := hr
    exact ⟨p, c, hasProcess p hp, hsocket p c r (ht.lt_of_hasProcess hp) hr⟩
  refine ⟨ht', fun a ha => ⟨hasApp a ha, (hid a (ht.lt_of_hasApp ha)).1⟩,
    fun p hp => ⟨hasProcess p hp, (hid p (ht.lt_of_hasProcess hp)).2.1⟩,
    fun r hr => ⟨hasSocket r hr, (hid r (ht.lt_of_hasSocket hr)).2.2.1⟩, fun u hu => ?_, hitems⟩
  refine ⟨?_, (hid u (ht.lt_of_hasTuple hu)).2.2.2⟩
  obtain ⟨r, hr, hu⟩ := hu
  exact ⟨r, hasSocket r hr, htuple r u (ht.lt_of_hasSocket hr) hu⟩

end Extends

/-! ## Changes -/

section Changes

attribute [local grind =] Function.update_apply
attribute [local grind cases] Rooted

theorem extends_addTuple (ht : t.Rooted) (r : Ref) (e : Endpoint) :
    Extends t (t.addTuple r e) := by
  have hrooted : (t.addTuple r e).Rooted := by
    constructor <;> simp only [addTuple] <;> grind
  refine .of_holders ht hrooted ?_ ?_ ?_ ?_ ?_ ?_ <;> simp only [addTuple] <;> grind

theorem extends_addSocket (ht : t.Rooted) {c : SocketCookie} {p : Ref}
    (hfree : t.procSocks p c = none) : Extends t (t.addSocket c p) := by
  have hrooted : (t.addSocket c p).Rooted := by
    constructor <;> simp only [addSocket] <;> grind
  refine .of_holders ht hrooted ?_ ?_ ?_ ?_ ?_ ?_ <;> simp only [addSocket] <;> grind

theorem extends_addProcess (ht : t.Rooted) {pid : ProcessId} {a : Ref} (ha : a < t.next)
    (hnone : t.procs pid = none) : Extends t (t.addProcess pid a) := by
  have hfree : ∀ a', t.appProcs a' pid = none := fun a' => by
    rw [Option.eq_none_iff_forall_ne_some]
    exact fun p hp => absurd (ht.held a' pid p hp).1 (by simp [hnone])
  have hrooted : (t.addProcess pid a).Rooted := by
    constructor <;> simp only [addProcess] <;> grind
  refine .of_holders ht hrooted ?_ ?_ ?_ ?_ ?_ ?_ <;> simp only [addProcess] <;> grind

theorem extends_registerApp (ht : t.Rooted) {k : String} {a : Ref} (ha : a < t.next)
    (hnone : t.apps k = none) : Extends t (t.registerApp k a) := by
  have hrooted : (t.registerApp k a).Rooted := by
    constructor <;> simp only [registerApp] <;> grind
  refine .of_holders ht hrooted (fun k' a' hk => ⟨k', ?_⟩) ?_ ?_ ?_ ?_ ?_ <;>
    simp only [registerApp] <;> grind

theorem extends_addApp (ht : t.Rooted) {k : String} (hnone : t.apps k = none) :
    Extends t (t.addApp k) := by
  have hrooted : (t.addApp k).Rooted := by
    constructor <;> simp only [addApp, registerApp] <;> grind
  refine .of_holders ht hrooted (fun k' a' hk => ⟨k', ?_⟩) ?_ ?_ ?_ ?_ ?_ <;>
    simp only [addApp, registerApp] <;> grind

theorem extends_upgradeApp (ht : t.Rooted) {existingKey key : String} {a : Ref}
    (hk : t.apps existingKey = some a) (hnone : t.apps key = none) :
    Extends t (t.upgradeApp existingKey key a) := by
  have hrooted : (t.upgradeApp existingKey key a).Rooted := by
    constructor <;> simp only [upgradeApp] <;> grind
  refine .of_holders ht hrooted (fun k' a' hk' => ?_) ?_ ?_ ?_ ?_ ?_
  · by_cases he : k' = existingKey
    · exact ⟨key, by simp only [upgradeApp]; grind⟩
    · exact ⟨k', by simp only [upgradeApp]; grind⟩
  all_goals
    simp only [upgradeApp]
    grind

/-- The socket may be there already. -/
theorem extends_attachSocket (ht : t.Rooted) {r p : Ref} (hr : r < t.next)
    (hfree : ∀ q, t.procSocks p (t.sockId r) = some q → q = r) :
    Extends t (t.attachSocket r p) := by
  have hrooted : (t.attachSocket r p).Rooted := by
    constructor <;> simp only [attachSocket] <;> grind
  refine .of_holders ht hrooted ?_ ?_ ?_ ?_ ?_ ?_ <;> simp only [attachSocket] <;> grind

theorem extends_orphan (ht : t.Rooted) (e : Endpoint) (r : Ref) : Extends t (t.orphan e r) := by
  have hrooted : (t.orphan e r).Rooted := { ht with }
  refine .of_holders ht hrooted ?_ ?_ ?_ ?_ ?_ ?_ <;> simp only [orphan] <;> grind

theorem extends_forgetOrphan (ht : t.Rooted) (e : Endpoint) : Extends t (t.forgetOrphan e) := by
  have hrooted : (t.forgetOrphan e).Rooted := { ht with }
  refine .of_holders ht hrooted ?_ ?_ ?_ ?_ ?_ ?_ <;> simp only [forgetOrphan] <;> grind

theorem extends_takeItemId (ht : t.Rooted) : Extends t t.takeItemId := by
  have hrooted : t.takeItemId.Rooted := by
    constructor <;> simp only [takeItemId] <;> grind
  refine .of_holders ht hrooted ?_ ?_ ?_ ?_ ?_ ?_ <;> simp only [takeItemId] <;> grind

/-- A synthetic socket that is neither in the tree nor in `TrafficItems`. -/
theorem extends_dropSynthetic (ht : t.Rooted) {p : Ref} {existing : SocketCookie × Ref}
    (hfree : t.procSocks p existing.1 = none) (hitem : t.items (t.sockId existing.2) = none) :
    Extends t (t.dropSynthetic p existing) := by
  have hrooted : (t.dropSynthetic p existing).Rooted := by
    constructor <;>
      simp only [dropSynthetic, eraseSocket, eraseTrafficItem, eraseProcessSocket] <;> grind
  refine .of_holders ht hrooted ?_ ?_ ?_ ?_ ?_ ?_ <;>
    simp only [dropSynthetic, eraseSocket, eraseTrafficItem, eraseProcessSocket] <;> grind

end Changes

/-! ## Where a new socket goes -/

/-- When a new socket is mapped to a process that is there, the process holds nothing under the
cookie. -/
def Vacant (cookie : SocketCookie) (pid : ProcessId) (t : TreeShape) : Prop :=
  cookie ≠ 0 → pid ≠ 0 → t.socks cookie = none →
    ∀ p, t.procs pid = some p → t.procSocks p cookie = none

/-- The processes hold the sockets they held, and those that are new hold none. -/
def SameHeld (t t' : TreeShape) : Prop :=
  t'.socks = t.socks ∧ ∀ pid p, t'.procs pid = some p →
    (t.procs pid = some p ∧ t'.procSocks p = t.procSocks p) ∨ ∀ c, t'.procSocks p c = none

theorem SameHeld.trans (h : SameHeld t t') (h' : SameHeld t' t'') : SameHeld t t'' := by
  refine ⟨h'.1.trans h.1, fun pid p hp => ?_⟩
  rcases h'.2 pid p hp with ⟨hp', hsame⟩ | hnone
  · rw [hsame]
    exact h.2 pid p hp'
  · exact .inr hnone

theorem SameHeld.vacant (h : SameHeld t t') {cookie : SocketCookie} {pid : ProcessId}
    (hfree : t.Vacant cookie pid) : t'.Vacant cookie pid := by
  intro hcookie hpid hnone p hp
  rw [h.1] at hnone
  rcases h.2 pid p hp with ⟨hp', hsame⟩ | hempty
  · rw [hsame]
    exact hfree hcookie hpid hnone p hp'
  · exact hempty cookie

/-- A new socket takes its own place only. -/
theorem Vacant.addSocket {cookie c : SocketCookie} {pid : ProcessId} (h : t.Vacant cookie pid)
    (hne : cookie ≠ c) (p : Ref) : (t.addSocket c p).Vacant cookie pid := by
  intro hcookie hpid hnone q hq
  simp only [TreeShape.addSocket, Function.update_of_ne hne] at hnone
  simp only [TreeShape.addSocket, hne, and_false, if_false]
  exact h hcookie hpid hnone q hq

end TreeShape

/-- The actions that take nothing out of the tree wherever they happen. -/
def Action.Grows : Action → Prop
  | .change (.addTuple ..) => True
  | .change (.editSocket ..) => True
  | .change (.orphan ..) => True
  | .change (.forgetOrphan _) => True
  | .change .takeItemId => True
  | .record _ => True
  | _ => False

namespace SystemMap

open TreeShape

variable {σ : Type} {h : Handler σ} {C : CounterId → CounterCall → Prop} {K : Action → Prop}
  {s s' : SystemMap σ}

/-! ## Operations -/

theorem Does.extends (hs : Does h C K s s') (hK : ∀ a, K a → a.Grows) (ht : s.shape.Rooted) :
    Extends s.shape s'.shape := by
  refine hs.keeps (I := fun s' => Extends s.shape s'.shape) (fun _ _ hI => hI)
    (fun who c s' _ hI => by rw [shape_call]; exact hI) (fun _ _ _ hI => hI)
    (fun m s' hm hm' hI => ?_) (.refl ht)
  have hgrows := hK _ hm'
  rw [shape_modify, Change.shape_apply hm]
  refine hI.trans ?_
  cases m with
  | addTuple now r e => exact extends_addTuple hI.rooted r e
  | editSocket r f => exact .refl hI.rooted
  | orphan e r => exact extends_orphan hI.rooted e r
  | forgetOrphan e => exact extends_forgetOrphan hI.rooted e
  | takeItemId => exact extends_takeItemId hI.rooted
  | _ => exact absurd hgrows id

theorem extends_findOrMapApplication (ht : s.shape.Rooted) (o : IterOrder) (now : Msec)
    (exePath commandLine appName : String) :
    let out := findOrMapApplication h o now exePath commandLine appName s
    Extends s.shape out.2.shape ∧ out.1 < out.2.nextItemId ∧ SameHeld s.shape out.2.shape := by
  intro out
  rcases findOrMapApplication_cases (h := h) o now exePath commandLine appName s with
    ⟨k, hk, he⟩ | ⟨k, hk, ⟨hnone, -⟩, he⟩ | ⟨hnone, h1, he⟩
  · rw [show out.2 = s from he]
    exact ⟨.refl ht, ht.app k _ hk, rfl, fun _ _ hp => .inl ⟨hp, rfl⟩⟩
  · have hshape : out.2.shape =
        s.shape.upgradeApp k (applicationKey exePath commandLine appName) out.1 := by
      rw [show out.2 = _ from he]
      simp [out]
    have hnext : out.2.nextItemId = s.nextItemId := congrArg TreeShape.next hshape
    rw [hshape, hnext]
    exact ⟨extends_upgradeApp ht hk hnone, ht.app k _ hk, rfl, fun _ _ hp => .inl ⟨hp, rfl⟩⟩
  · have hshape : out.2.shape =
        s.shape.addApp (applicationKey exePath commandLine appName) := by
      rw [show out.2 = _ from he]
      simp
    have hnext : out.2.nextItemId = s.nextItemId + 1 := congrArg TreeShape.next hshape
    rw [hshape, hnext, show out.1 = _ from h1]
    exact ⟨extends_addApp ht hnone, Nat.lt_succ_self _, rfl, fun _ _ hp => .inl ⟨hp, rfl⟩⟩

theorem extends_findOrMapProcess (ht : s.shape.Rooted) (now : Msec) (pid : ProcessId) {a : Ref}
    (ha : a < s.nextItemId) :
    let out := findOrMapProcess h now pid a s
    Extends s.shape out.2.shape ∧ out.2.shape.procs pid = some out.1 ∧
      SameHeld s.shape out.2.shape := by
  unfold findOrMapProcess
  split
  · rename_i p hp
    exact ⟨.refl ht, hp, rfl, fun _ _ hp => .inl ⟨hp, rfl⟩⟩
  · rename_i hnone
    have hshape : (modify (·.addProcess now pid a) s).shape = s.shape.addProcess pid a := by
      simp
    simp only [shape_notify, hshape]
    refine ⟨extends_addProcess ht ha hnone, Function.update_self .., rfl, fun q p hp => ?_⟩
    by_cases hnew : p = s.nextItemId
    · exact .inr fun c => if_pos hnew
    · refine .inl ⟨?_, funext fun c => if_neg hnew⟩
      simp only [TreeShape.addProcess, Function.update_apply] at hp
      split at hp
      · exact absurd (Option.some.inj hp).symm hnew
      · exact hp

/-- A socket is mapped where nothing is held under its cookie. -/
theorem extends_mapSocket (ht : s.shape.Rooted) (env : MapEnv) (cookie : SocketCookie)
    (established : Bool) (pid : ProcessId) (silentFail : Bool)
    (hfree : s.shape.Vacant cookie pid) :
    let out := mapSocket h env cookie established pid silentFail s
    Extends s.shape out.2.shape ∧ ∀ c q, c ≠ cookie → s.shape.Vacant c q →
      out.2.shape.Vacant c q := by
  have hsame : Extends s.shape s.shape ∧ ∀ c q, c ≠ cookie → s.shape.Vacant c q →
      s.shape.Vacant c q := ⟨.refl ht, fun _ _ _ => id⟩
  unfold mapSocket
  split
  · exact hsame
  · rename_i hcookie
    split
    · split
      · exact hsame
      · exact hsame
    · rename_i hpid
      split
      · exact hsame
      · rename_i hnone
        unfold mapNewSocket
        simp only
        obtain ⟨h1, ha, hheld1⟩ := extends_findOrMapApplication (h := h) ht env.order env.now
          (processIdentity (env.procInfo pid)).1 (processIdentity (env.procInfo pid)).2.1
          (processIdentity (env.procInfo pid)).2.2
        obtain ⟨h2, hp, hheld2⟩ := extends_findOrMapProcess (h := h) h1.rooted env.now pid ha
        generalize findOrMapProcess h env.now pid _ _ = process at h2 hp hheld2 ⊢
        have h3 := h1.trans h2
        have hheld := hheld1.trans hheld2
        have hnone' : process.2.shape.socks cookie = none := (congrFun hheld.1 cookie).trans hnone
        have hmade : findOrMapSocket env.now cookie process.1 process.2 =
            (process.2.nextItemId, addSocketAddition process.2.nextItemId
              (modify (·.addSocket env.now cookie process.1) process.2)) := by
          unfold findOrMapSocket
          rw [show process.2.sockets.lookup cookie = none from hnone']
        simp only [hmade, shape_addSocketAddition, shape_modify, CounterTree.shape_addSocket,
          shape_toCounterTree]
        exact ⟨h3.trans (extends_addSocket h2.rooted
          (hheld.vacant hfree hcookie hpid hnone' process.1 hp)),
          fun c q hc hvacant => (hheld.vacant hvacant).addSocket hc process.1⟩

theorem extends_mapSocketFromTrafficEvent (ht : s.shape.Rooted) (env : TrafficEnv)
    (cookie : SocketCookie) (d : PacketDirection) (header : Option PacketHeader)
    (hfree : ∀ packet, header = some packet → 0 < env.endpointPID (packet.local d) →
      s.shape.Vacant cookie (env.endpointPID (packet.local d))) :
    Extends s.shape (mapSocketFromTrafficEvent h env cookie d header s).2.shape := by
  unfold mapSocketFromTrafficEvent
  split
  · exact .refl ht
  · rename_i packet
    simp only
    split
    · exact .refl ht
    · rename_i hpid
      have hmap := (extends_mapSocket (h := h) ht env.toMapEnv cookie false
        (env.endpointPID (packet.local d)) false (hfree packet rfl (Int.not_le.mp hpid))).1
      split
      · exact hmap
      · rw [shape_editSocket ⟨rfl, rfl, rfl⟩]
        exact hmap

/-- The n-th socket that is mapped gets the n-th cookie. -/
theorem extends_addExistingSockets (ht : s.shape.Rooted) (env : MapEnv)
    (isProcessRunning : ProcessId → Bool) (listeningSockets : List ListenSocketInfo)
    (hfree : ∀ (n : Nat) info, (listeningSockets.filter (isMapped isProcessRunning))[n]? = some info →
      s.shape.Vacant (syntheticCookieBase + n) info.pid) :
    Extends s.shape (addExistingSockets h env isProcessRunning listeningSockets s).shape := by
  have hloop : ∀ (l : List ListenSocketInfo) (acc : SocketCookie × SystemMap σ),
      acc.2.shape.Rooted →
      (∀ (n : Nat) info, (l.filter (isMapped isProcessRunning))[n]? = some info →
        acc.2.shape.Vacant (acc.1 + n) info.pid) →
        Extends acc.2.shape (l.foldl (addExistingSocket h env isProcessRunning) acc).2.shape := by
    intro l
    induction l with
    | nil => exact fun acc hr _ => .refl hr
    | cons info l ih =>
      intro acc hr hrest
      rw [List.foldl_cons]
      by_cases hmapped : isMapped isProcessRunning info = true
      · rw [List.filter_cons_of_pos hmapped] at hrest
        obtain ⟨hmap, hlater⟩ := extends_mapSocket (h := h) hr env acc.1 false info.pid false
          (hrest 0 info rfl)
        have hturn : addExistingSocket h env isProcessRunning acc info =
            (acc.1 + 1, (addExistingSocket h env isProcessRunning acc info).2) ∧
            (addExistingSocket h env isProcessRunning acc info).2.shape =
              (mapSocket h env acc.1 false info.pid false acc.2).2.shape := by
          have hrun : ¬(info.pid ≤ 0 ∨ (!isProcessRunning info.pid) = true) := by
            simp only [isMapped, Bool.and_eq_true, decide_eq_true_eq] at hmapped
            simp [hmapped.1, hmapped.2]
          unfold addExistingSocket
          rw [if_neg hrun]
          simp only
          split
          · exact ⟨rfl, rfl⟩
          · exact ⟨rfl, shape_editSocket ⟨rfl, rfl, rfl⟩⟩
        rw [hturn.1]
        refine Extends.trans (hturn.2 ▸ hmap) (ih _ (hturn.2 ▸ hmap.rooted) fun n info' hn => ?_)
        rw [hturn.2, Nat.add_assoc, Nat.add_comm 1 n]
        exact hlater _ _ (Nat.ne_of_gt (Nat.lt_add_of_pos_right (Nat.succ_pos n)))
          (hrest (n + 1) info' hn)
      · rw [List.filter_cons_of_neg hmapped] at hrest
        have hturn : addExistingSocket h env isProcessRunning acc info = acc := by
          unfold addExistingSocket
          refine if_pos ?_
          simp only [isMapped, Bool.and_eq_true, decide_eq_true_eq, not_and, Bool.not_eq_true]
            at hmapped
          by_cases hpid : 0 < info.pid
          · exact .inr (by simp [hmapped hpid])
          · exact .inl (Int.not_lt.mp hpid)
        rw [hturn]
        exact ih acc hr hrest
  exact hloop listeningSockets (syntheticCookieBase, s) ht hfree

theorem extends_pushSocket (ht : s.shape.Rooted) (env : TrafficEnv) (d : PacketDirection)
    (bytes : WBytes) (header : Option PacketHeader) (r : Ref) :
    Extends s.shape
      (doPacketParsing h env d bytes header r (pushTrafficForSocket h d bytes r s)).shape :=
  Does.extends (C := fun _ _ => True) (K := Action.Grows)
    (does_pushSocket (fun _ _ _ => trivial) env d bytes header r trivial trivial
      (fun _ => trivial) (fun _ => trivial) fun _ => trivial) (fun _ => id) ht

theorem extends_pushOutgoingTraffic (ht : s.shape.Rooted) (env : TrafficEnv)
    (cookie : SocketCookie) (bytes : WBytes) (header : Option PacketHeader)
    (hfree : ∀ packet, header = some packet → 0 < env.endpointPID (packet.local .outgoing) →
      s.shape.Vacant cookie (env.endpointPID (packet.local .outgoing))) :
    Extends s.shape (pushOutgoingTraffic h env cookie bytes header s).shape := by
  unfold pushOutgoingTraffic
  simp only
  have hsystem : (call h .system (.pushOutgoingTraffic bytes) s).shape = s.shape := shape_call ..
  rw [← hsystem] at ht hfree ⊢
  generalize call h .system (.pushOutgoingTraffic bytes) s = s1 at ht hfree ⊢
  have hsocket : Extends s1.shape (outgoingSocket h env cookie header s1).2.shape := by
    unfold outgoingSocket
    split
    · exact .refl ht
    · exact extends_mapSocketFromTrafficEvent ht env cookie .outgoing header hfree
  split
  · exact hsocket
  · exact hsocket.trans (extends_pushSocket hsocket.rooted env .outgoing bytes header _)

/-- A socket is reparented to a process that holds no other one under its item id. -/
theorem extends_reparentOrphanedSocket (ht : s.shape.Rooted) (now : Msec) (endpoint : Endpoint)
    (pid : ProcessId) (hold : ∀ r, s.shape.orphans endpoint = some r → r < s.nextItemId)
    (hfree : ∀ r, s.shape.orphans endpoint = some r → pid ≠ 0 → ∀ p, s.shape.procs pid = some p →
      ∀ q, s.shape.procSocks p (s.shape.sockId r) = some q → q = r) :
    Extends s.shape (reparentOrphanedSocket h now endpoint pid s).shape := by
  unfold reparentOrphanedSocket
  split
  · exact .refl ht
  · rename_i r hr
    split
    · rw [shape_modify, CounterTree.shape_forgetOrphan]
      exact extends_forgetOrphan ht endpoint
    · rename_i hpid
      simp only
      have hparent : (s.process (s.socket r).parentProcess).parentApp < s.nextItemId := ht.parent _
      generalize hs1 : (if (s.applications.lookup _).isSome then s else _) = s1
      have h1 : Extends s.shape s1.shape ∧ s1.nextItemId = s.nextItemId ∧
          s1.shape.sockId = s.shape.sockId ∧ SameHeld s.shape s1.shape := by
        rw [← hs1]
        split
        · exact ⟨.refl ht, rfl, rfl, rfl, fun _ _ hp => .inl ⟨hp, rfl⟩⟩
        · rename_i hnone
          simp only [shape_notify, shape_modify, CounterTree.shape_registerApp]
          exact ⟨extends_registerApp ht hparent (Option.not_isSome_iff_eq_none.mp hnone), rfl, rfl,
            rfl, fun _ _ hp => .inl ⟨hp, rfl⟩⟩
      obtain ⟨h2, hp, hheld⟩ := extends_findOrMapProcess (h := h) h1.1.rooted now pid
        (h1.2.1.symm ▸ hparent)
      have hids : (findOrMapProcess h now pid (s.process (s.socket r).parentProcess).parentApp
          s1).2.shape.sockId = s.shape.sockId ∧ s.nextItemId ≤ (findOrMapProcess h now pid
            (s.process (s.socket r).parentProcess).parentApp s1).2.nextItemId := by
        rw [← h1.2.2.1, ← h1.2.1]
        unfold findOrMapProcess
        split
        · exact ⟨rfl, Nat.le_refl _⟩
        · simp only [shape_notify, shape_modify, CounterTree.shape_addProcess]
          exact ⟨rfl, Nat.le_succ _⟩
      generalize findOrMapProcess h now pid _ s1 = process at h2 hp hheld hids ⊢
      have h3 := h1.1.trans h2
      have hheld3 := h1.2.2.2.trans hheld
      simp only [shape_addSocketAddition, shape_modify, CounterTree.shape_forgetOrphan,
        CounterTree.shape_attachSocket, shape_toCounterTree]
      have hattach := extends_attachSocket h3.rooted (r := r) (p := process.1)
        ((hold r hr).trans_le hids.2) fun q hq => by
          rw [hids.1] at hq
          rcases hheld3.2 pid process.1 hp with ⟨hp', hsame⟩ | hempty
          · exact hfree r hr hpid process.1 hp' q (hsame ▸ hq)
          · rw [hempty] at hq
            cases hq
      exact (h3.trans hattach).trans (extends_forgetOrphan hattach.rooted endpoint)

/-- A synthetic socket that is merged is neither in the tree nor in `TrafficItems`. -/
theorem extends_mergeSyntheticSocket (ht : s.shape.Rooted) (o : IterOrder) (r : Ref)
    (hfree : ∀ e, mergeTarget o r s = some e → s.shape.items (s.shape.sockId e.2) = none ∧
      s.shape.procSocks (s.shape.sockProc r) e.1 = none) :
    Extends s.shape (mergeSyntheticSocket h o r s).shape := by
  unfold mergeSyntheticSocket
  unfold mergeTarget at hfree
  simp only at hfree ⊢
  split
  · exact .refl ht
  · rename_i hne
    rw [if_neg hne] at hfree
    split
    · exact .refl ht
    · rename_i e he
      have hedit : (modify (·.editSocket r (transferEndpoint
          (s.socket e.2).trafficItem.socketTuple)) s).shape = s.shape :=
        shape_editSocket ⟨rfl, rfl, rfl⟩
      have hparent : ((modify (·.editSocket r (transferEndpoint
          (s.socket e.2).trafficItem.socketTuple)) s).socket r).parentProcess =
            s.shape.sockProc r := congrFun (congrArg TreeShape.sockProc hedit) r
      have hout : (markItemForRemoval (s.socket e.2).trafficItem.itemId
          (modify (·.dropSynthetic (s.shape.sockProc r) e) (notify h (.onSocketRemoved e.2)
            (modify (·.editSocket r (transferEndpoint
              (s.socket e.2).trafficItem.socketTuple)) s)))).shape =
            s.shape.dropSynthetic (s.shape.sockProc r) e := by
        rw [shape_markItemForRemoval, shape_modify, CounterTree.shape_dropSynthetic,
          shape_toCounterTree, shape_notify, hedit]
      have hdrop := extends_dropSynthetic ht (hfree e he).2 (hfree e he).1
      rw [← hout, ← hparent] at hdrop
      exact hdrop

/-- The operation overwrites nothing in the tree, and merges nothing that is in it. -/
def AddsOnly (s : SystemMap σ) : SystemMapOp → Prop
  | .mapSocket _ cookie _ pid _ => s.shape.Vacant cookie pid
  | .mapSocketFromTrafficEvent env cookie d header => ∀ packet, header = some packet →
    0 < env.endpointPID (packet.local d) → s.shape.Vacant cookie (env.endpointPID (packet.local d))
  | .addExistingSockets _ isProcessRunning listeningSockets => ∀ (n : Nat) info,
    (listeningSockets.filter (isMapped isProcessRunning))[n]? = some info →
      s.shape.Vacant (syntheticCookieBase + n) info.pid
  | .mergeSyntheticSocket o r => isSocket r s.toCounterTree → ∀ e, mergeTarget o r s = some e →
    s.shape.items (s.shape.sockId e.2) = none ∧
      s.shape.procSocks (s.shape.sockProc r) e.1 = none
  | .reparentOrphanedSocket _ endpoint pid => ∀ r, s.shape.orphans endpoint = some r → pid ≠ 0 →
    ∀ p, s.shape.procs pid = some p →
      ∀ q, s.shape.procSocks p (s.shape.sockId r) = some q → q = r
  | .pushOutgoingTraffic env cookie _ header => ∀ packet, header = some packet →
    0 < env.endpointPID (packet.local .outgoing) →
      s.shape.Vacant cookie (env.endpointPID (packet.local .outgoing))
  | _ => True

/-- **Nothing leaves the tree but on a tick**, when an operation adds only. -/
theorem extends_step (ht : s.shape.Rooted) (hold : s.shape.Older) {op : SystemMapOp}
    (hop : s.AddsOnly op) (htick : ∀ env, op ≠ .refreshAllTrafficCounters env) :
    Extends s.shape (step h s op).shape := by
  have hgrows {s' : SystemMap σ} (hs : Does h (fun _ _ => True) Action.Grows s s') :
      Extends s.shape s'.shape := hs.extends (fun _ => id) ht
  cases op with
  | mapSocket env cookie established pid silentFail =>
    exact (extends_mapSocket ht env cookie established pid silentFail hop).1
  | mapSocketFromTrafficEvent env cookie d header =>
    exact extends_mapSocketFromTrafficEvent ht env cookie d header hop
  | addExistingSockets env isProcessRunning listeningSockets =>
    exact extends_addExistingSockets ht env isProcessRunning listeningSockets hop
  | processInitialApps o => exact hgrows (does_processInitialApps o s)
  | processSocketEvent event r =>
    simp only [step]
    split
    · exact hgrows (does_processSocketEvent event r (fun _ => trivial) (fun _ => trivial) s)
    · exact .refl ht
  | mergeSyntheticSocket o r =>
    simp only [step]
    split
    · rename_i hr
      exact extends_mergeSyntheticSocket ht o r (hop hr)
    · exact .refl ht
  | markSocketForRemoval o now cookie localPort =>
    exact hgrows (does_markSocketForRemoval (fun _ _ _ => trivial) o now cookie localPort
      (fun _ _ _ _ => ⟨trivial, trivial⟩) (fun _ _ => trivial) fun _ => trivial)
  | reparentAcceptedSocket r =>
    simp only [step]
    split
    · rename_i hr
      exact hgrows (does_reparentAcceptedSocket hr fun _ => trivial)
    · exact .refl ht
  | reparentOrphanedSocket now endpoint pid =>
    exact extends_reparentOrphanedSocket ht now endpoint pid (hold.orphan endpoint) hop
  | pushIncomingTraffic env cookie bytes header =>
    exact hgrows (does_pushIncomingTraffic (fun _ _ _ => trivial) env cookie bytes header
      (fun _ _ => ⟨trivial, trivial⟩) (fun _ _ => ⟨fun _ => trivial, fun _ => trivial⟩)
      fun _ => trivial)
  | pushOutgoingTraffic env cookie bytes header =>
    exact extends_pushOutgoingTraffic ht env cookie bytes header hop
  | refreshAllTrafficCounters env => exact absurd rfl (htick env)
  | takeItemId => exact hgrows (does_change .takeItemId trivial trivial)

end SystemMap

end Waechter
