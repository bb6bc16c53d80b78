import Waechter.Daemon.RuleCache

/-!
# The kernel in step with the rules

`Synced x`: every socket in `Sockets` but those of `x` has its effective rules in the kernel. Each
change the system map makes to its trees and each notice the rule manager handles has a lemma here
that says which sockets it puts into `x` or takes out of it.

* `Forgets`: the changes that keep every item as it is. They keep `Synced x`.
* `Synced.connected`, `Synced.loaded`: the notices that recompute rules, where the recomputation
  covers what it should.
* `Synced.removed`, `Synced.processRemoved`: the notices that drop rules.
-/

namespace Waechter

open Lib

namespace TreeShape

/-! ## What the maps refer to -/

/-- The reference is a socket: it has its own id, and a cookie. -/
structure IsSocket (t : TreeShape) (r : Ref) : Prop where
  ne_zero : r ≠ 0
  itemId : t.sockId r = r
  cookie : t.sockCookie r ≠ 0

/-- What the maps refer to, in every run: items older than the next reference, sockets under their
cookies, and processes that their application holds. What holds a process, and what a process
holds, is older too. -/
structure Sound (t : TreeShape) : Prop where
  app : ∀ k a, t.apps k = some a → a < t.next
  process : ∀ pid p, t.procs pid = some p → p < t.next ∧ t.appProcs (t.procApp p) pid = some p
  socket : ∀ c r, t.socks c = some r → t.IsSocket r ∧ t.sockCookie r = c
  orphan : ∀ e r, t.orphans e = some r → t.IsSocket r
  appHolds : ∀ a pid p, t.appProcs a pid = some p → a < t.next
  procHolds : ∀ p c r, t.procSocks p c = some r → r < t.next
  older : ∀ q, t.appId q < t.next ∧ t.procId q < t.next ∧ t.sockId q < t.next ∧
    t.procApp q < t.next ∧ t.sockProc q < t.next

/-- The items and their parents are the same. -/
structure SameItems (t t' : TreeShape) : Prop where
  appId : t'.appId = t.appId
  procId : t'.procId = t.procId
  procApp : t'.procApp = t.procApp
  sockId : t'.sockId = t.sockId
  sockCookie : t'.sockCookie = t.sockCookie
  sockProc : t'.sockProc = t.sockProc

/-- The changes that keep every item as it is and put no process, socket or orphan into the maps
that was not there. -/
structure Forgets (t t' : TreeShape) : Prop extends SameItems t t' where
  next : t.next ≤ t'.next
  app : (∀ k a, t.apps k = some a → a < t.next) → ∀ k a, t'.apps k = some a → a < t'.next
  process : ∀ pid p, t'.procs pid = some p → t.procs pid = some p ∧
    t'.appProcs (t.procApp p) pid = t.appProcs (t.procApp p) pid
  socket : ∀ c r, t'.socks c = some r → t.socks c = some r
  orphan : ∀ e r, t'.orphans e = some r → t.orphans e = some r
  appHolds : ∀ a pid p, t'.appProcs a pid = some p → t.appProcs a pid = some p
  procHolds : ∀ p c r, t'.procSocks p c = some r → t.procSocks p c = some r

namespace SameItems

variable {t t' t'' : TreeShape}

theorem refl (t : TreeShape) : SameItems t t := ⟨rfl, rfl, rfl, rfl, rfl, rfl⟩

theorem trans (h : SameItems t t') (h' : SameItems t' t'') : SameItems t t'' :=
  ⟨h'.appId.trans h.appId, h'.procId.trans h.procId, h'.procApp.trans h.procApp,
    h'.sockId.trans h.sockId, h'.sockCookie.trans h.sockCookie, h'.sockProc.trans h.sockProc⟩

theorem isSocket (h : SameItems t t') {r : Ref} (hr : t.IsSocket r) : t'.IsSocket r :=
  ⟨hr.ne_zero, h.sockId ▸ hr.itemId, h.sockCookie ▸ hr.cookie⟩

end SameItems

namespace Forgets

variable {t t' t'' : TreeShape}

theorem refl (t : TreeShape) : Forgets t t :=
  ⟨.refl t, Nat.le_refl _, id, fun _ _ h => ⟨h, rfl⟩, fun _ _ => id, fun _ _ => id,
    fun _ _ _ => id, fun _ _ _ => id⟩

theorem trans (h : Forgets t t') (h' : Forgets t' t'') : Forgets t t'' where
  toSameItems := h.toSameItems.trans h'.toSameItems
  next := h.next.trans h'.next
  app := fun ha => h'.app (h.app ha)
  process := fun pid p hp => by
    obtain ⟨h1, h2⟩ := h'.process pid p hp
    obtain ⟨h3, h4⟩ := h.process pid p h1
    rw [h.procApp] at h2
    exact ⟨h3, h2.trans h4⟩
  socket := fun c r hr => h.socket c r (h'.socket c r hr)
  orphan := fun e r hr => h.orphan e r (h'.orphan e r hr)
  appHolds := fun a pid p hp => h.appHolds a pid p (h'.appHolds a pid p hp)
  procHolds := fun p c r hr => h.procHolds p c r (h'.procHolds p c r hr)

attribute [local grind =] Function.update_apply

theorem addTuple (t : TreeShape) (r : Ref) (e : Endpoint) : Forgets t (t.addTuple r e) := by
  refine ⟨⟨rfl, rfl, rfl, rfl, rfl, rfl⟩, ?_, ?_, ?_, ?_, ?_, ?_, ?_⟩ <;>
    simp only [TreeShape.addTuple] <;> grind

theorem takeItemId (t : TreeShape) : Forgets t t.takeItemId := by
  refine ⟨⟨rfl, rfl, rfl, rfl, rfl, rfl⟩, ?_, ?_, ?_, ?_, ?_, ?_, ?_⟩ <;>
    simp only [TreeShape.takeItemId] <;> grind

theorem eraseTrafficItem (t : TreeShape) (i : TrafficItemId) : Forgets t (t.eraseTrafficItem i) :=
  { refl t with }

theorem eraseProcessSocket (t : TreeShape) (p : Ref) (c : SocketCookie) :
    Forgets t (t.eraseProcessSocket p c) :=
  { refl t with
    procHolds := fun q d r hr => by
      simp only [TreeShape.eraseProcessSocket] at hr
      grind }

theorem clearTupleCounters (t : TreeShape) (r : Ref) : Forgets t (t.clearTupleCounters r) :=
  { refl t with }

theorem clearTupleItems (t : TreeShape) (r : Ref) : Forgets t (t.clearTupleItems r) :=
  { refl t with }

theorem eraseTuple (t : TreeShape) (r : Ref) (e : Endpoint) : Forgets t (t.eraseTuple r e) :=
  { refl t with }

theorem eraseSocket (t : TreeShape) (c : SocketCookie) : Forgets t (t.eraseSocket c) := by
  refine ⟨⟨rfl, rfl, rfl, rfl, rfl, rfl⟩, ?_, ?_, ?_, ?_, ?_, ?_, ?_⟩ <;>
    simp only [TreeShape.eraseSocket] <;> grind

theorem dropSynthetic (t : TreeShape) (p : Ref) (existing : SocketCookie × Ref) :
    Forgets t (t.dropSynthetic p existing) :=
  ((eraseProcessSocket t p existing.1).trans (eraseTrafficItem _ _)).trans (eraseSocket _ _)

theorem eraseApp (t : TreeShape) (k : String) : Forgets t (t.eraseApp k) := by
  refine ⟨⟨rfl, rfl, rfl, rfl, rfl, rfl⟩, ?_, ?_, ?_, ?_, ?_, ?_, ?_⟩ <;>
    simp only [TreeShape.eraseApp] <;> grind

theorem forgetOrphan (t : TreeShape) (e : Endpoint) : Forgets t (t.forgetOrphan e) := by
  refine ⟨⟨rfl, rfl, rfl, rfl, rfl, rfl⟩, ?_, ?_, ?_, ?_, ?_, ?_, ?_⟩ <;>
    simp only [TreeShape.forgetOrphan] <;> grind

theorem registerApp (t : TreeShape) (k : String) {a : Ref} (ha : a < t.next) :
    Forgets t (t.registerApp k a) := by
  refine ⟨⟨rfl, rfl, rfl, rfl, rfl, rfl⟩, ?_, ?_, ?_, ?_, ?_, ?_, ?_⟩ <;>
    simp only [TreeShape.registerApp] <;> grind

theorem upgradeApp {k : String} {a : Ref} (ha : t.apps k = some a) (key : String) :
    Forgets t (t.upgradeApp k key a) := by
  refine ⟨⟨rfl, rfl, rfl, rfl, rfl, rfl⟩, ?_, ?_, ?_, ?_, ?_, ?_, ?_⟩ <;>
    simp only [TreeShape.upgradeApp] <;> grind

/-- The process leaves the maps and its application. -/
theorem eraseProcess (t : TreeShape) (a : Ref) (i : TrafficItemId) (pid : ProcessId) :
    Forgets t (((t.eraseAppProcess a pid).eraseTrafficItem i).eraseProcess pid) := by
  refine ⟨⟨rfl, rfl, rfl, rfl, rfl, rfl⟩, ?_, ?_, ?_, ?_, ?_, ?_, ?_⟩ <;>
    simp only [TreeShape.eraseAppProcess, TreeShape.eraseTrafficItem, TreeShape.eraseProcess] <;>
    grind

end Forgets

namespace Sound

variable {t t' : TreeShape}

theorem socket_ne_zero (h : Sound t) {c : SocketCookie} {r : Ref} (hr : t.socks c = some r) :
    c ≠ 0 := by
  obtain ⟨hsocket, hc⟩ := h.socket c r hr
  exact hc ▸ hsocket.cookie

theorem lt_of_isSocket (h : Sound t) {r : Ref} (hr : t.IsSocket r) : r < t.next := by
  have hlt := (h.older r).2.2.1
  rwa [hr.itemId] at hlt

theorem forget (h : Sound t) (hf : Forgets t t') : Sound t' where
  app := hf.app h.app
  process := fun pid p hp => by
    obtain ⟨hp', hheld⟩ := hf.process pid p hp
    obtain ⟨hlt, hp''⟩ := h.process pid p hp'
    rw [hf.procApp]
    exact ⟨Nat.lt_of_lt_of_le hlt hf.next, hheld.trans hp''⟩
  socket := fun c r hr => by
    obtain ⟨hsocket, hc⟩ := h.socket c r (hf.socket c r hr)
    exact ⟨hf.isSocket hsocket, hf.sockCookie ▸ hc⟩
  orphan := fun e r hr => hf.isSocket (h.orphan e r (hf.orphan e r hr))
  appHolds := fun a pid p hp =>
    Nat.lt_of_lt_of_le (h.appHolds a pid p (hf.appHolds a pid p hp)) hf.next
  procHolds := fun p c r hr =>
    Nat.lt_of_lt_of_le (h.procHolds p c r (hf.procHolds p c r hr)) hf.next
  older := fun q => by
    obtain ⟨h1, h2, h3, h4, h5⟩ := h.older q
    rw [hf.appId, hf.procId, hf.sockId, hf.procApp, hf.sockProc]
    exact ⟨Nat.lt_of_lt_of_le h1 hf.next, Nat.lt_of_lt_of_le h2 hf.next,
      Nat.lt_of_lt_of_le h3 hf.next, Nat.lt_of_lt_of_le h4 hf.next, Nat.lt_of_lt_of_le h5 hf.next⟩

attribute [local grind =] Function.update_apply
attribute [local grind cases] IsSocket
attribute [local grind →] socket_ne_zero lt_of_isSocket

theorem addSocket (h : Sound t) {c : SocketCookie} {p : Ref} (hc : c ≠ 0) (hp : p < t.next) :
    Sound (t.addSocket c p) := by
  have hold : ∀ r, t.IsSocket r → (t.addSocket c p).IsSocket r := by
    intro r hr
    have := h.lt_of_isSocket hr
    refine ⟨hr.ne_zero, ?_, ?_⟩ <;>
    simp only [TreeShape.addSocket] <;> grind
  have hnew : (t.addSocket c p).IsSocket t.next := by
    refine ⟨Nat.ne_zero_of_lt hp, ?_, ?_⟩ <;>
    simp only [TreeShape.addSocket] <;> grind
  obtain ⟨h1, h2, h3, h4, h5, h6, h7⟩ := id h
  constructor
  · simp only [TreeShape.addSocket]
    grind
  · simp only [TreeShape.addSocket]
    grind
  · intro d r hr
    simp only [TreeShape.addSocket, Function.update_apply] at hr ⊢
    split at hr
    · cases Option.some.inj hr
      exact ⟨hnew, by grind⟩
    · obtain ⟨j1, j2⟩ := h3 d r hr
      have := h.lt_of_isSocket j1
      exact ⟨hold r j1, by grind⟩
  · exact fun e r hr => hold r (h4 e r hr)
  · simp only [TreeShape.addSocket]
    grind
  · simp only [TreeShape.addSocket]
    grind
  · simp only [TreeShape.addSocket]
    grind

theorem addProcess (h : Sound t) (pid : ProcessId) {a : Ref} (ha : a < t.next) :
    Sound (t.addProcess pid a) := by
  have hold : ∀ r, t.IsSocket r → (t.addProcess pid a).IsSocket r :=
    fun r ⟨j1, j2, j3⟩ => ⟨j1, j2, j3⟩
  obtain ⟨h1, h2, h3, h4, h5, h6, h7⟩ := id h
  constructor
  · simp only [TreeShape.addProcess]
    grind
  · simp only [TreeShape.addProcess]
    grind
  · exact fun c r hr => ⟨hold r (h3 c r hr).1, (h3 c r hr).2⟩
  · exact fun e r hr => hold r (h4 e r hr)
  · simp only [TreeShape.addProcess]
    grind
  · simp only [TreeShape.addProcess]
    grind
  · simp only [TreeShape.addProcess]
    grind

theorem addApp (h : Sound t) (key : String) : Sound (t.addApp key) := by
  have hold : ∀ r, t.IsSocket r → (t.addApp key).IsSocket r :=
    fun r ⟨j1, j2, j3⟩ => ⟨j1, j2, j3⟩
  obtain ⟨h1, h2, h3, h4, h5, h6, h7⟩ := id h
  constructor
  · simp only [TreeShape.addApp, TreeShape.registerApp]
    grind
  · simp only [TreeShape.addApp, TreeShape.registerApp]
    grind
  · exact fun c r hr => ⟨hold r (h3 c r hr).1, (h3 c r hr).2⟩
  · exact fun e r hr => hold r (h4 e r hr)
  · simp only [TreeShape.addApp, TreeShape.registerApp]
    grind
  · simp only [TreeShape.addApp, TreeShape.registerApp]
    grind
  · simp only [TreeShape.addApp, TreeShape.registerApp]
    grind

theorem attachSocket (h : Sound t) {r p : Ref} (hr : t.IsSocket r) (hp : p < t.next) :
    Sound (t.attachSocket r p) := by
  have hold : ∀ q, t.IsSocket q → (t.attachSocket r p).IsSocket q :=
    fun q ⟨j1, j2, j3⟩ => ⟨j1, j2, j3⟩
  obtain ⟨h1, h2, h3, h4, h5, h6, h7⟩ := id h
  constructor
  · exact h1
  · exact h2
  · intro c q hq
    simp only [TreeShape.attachSocket, Function.update_apply] at hq ⊢
    split at hq
    · rename_i hc
      cases Option.some.inj hq
      exact ⟨hold r hr, hc.symm⟩
    · exact ⟨hold q (h3 c q hq).1, (h3 c q hq).2⟩
  · exact fun e q hq => hold q (h4 e q hq)
  · exact h5
  · have := h.lt_of_isSocket hr
    simp only [TreeShape.attachSocket]
    grind
  · simp only [TreeShape.attachSocket]
    grind

theorem orphanSocket (h : Sound t) {r : Ref} (hr : t.IsSocket r) (e : Endpoint) :
    Sound (t.orphan e r) := by
  have hold : ∀ q, t.IsSocket q → (t.orphan e r).IsSocket q :=
    fun q ⟨j1, j2, j3⟩ => ⟨j1, j2, j3⟩
  refine ⟨h.app, h.process, fun c q hq => ?_, fun f q hq => hold q ?_,
    h.appHolds, h.procHolds, h.older⟩
  · exact ⟨hold q (h.socket c q hq).1, (h.socket c q hq).2⟩
  · simp only [TreeShape.orphan, Function.update_apply] at hq
    split at hq
    · cases Option.some.inj hq
      exact hr
    · exact h.orphan f q hq

end Sound

end TreeShape

/-! ## Rules that change -/

theorem rulesOf_insert_of_ne (map : UMap TrafficItemId TrafficItemRules) {i j : TrafficItemId}
    (r : TrafficItemRules) (hj : j ≠ i) : rulesOf (map.insert i r) j = rulesOf map j := by
  unfold rulesOf
  rw [UMap.lookup_insert_ite, if_neg hj]

theorem rulesOf_erase_of_ne (map : UMap TrafficItemId TrafficItemRules) {i j : TrafficItemId}
    (hj : j ≠ i) : rulesOf (map.erase i) j = rulesOf map j := by
  unfold rulesOf
  rw [UMap.lookup_erase_ite, if_neg hj]

namespace RuleManager

theorem effective_sameItems {t t' : TreeShape} (h : t.SameItems t') (m : RuleManager) (r : Ref) :
    m.effective t' r = m.effective t r := by
  unfold effective inForce
  rw [h.sockProc, h.procApp, h.appId, h.procId, h.sockId]

theorem InSync.mono {x y : SocketCookie → Prop} {t : TreeShape} {m : RuleManager}
    (h : InSync x t m) (hxy : ∀ c, x c → y c) : InSync y t m :=
  fun c r hr hy => h c r hr fun hx => hy (hxy c hx)

theorem InSync.forget {x : SocketCookie → Prop} {t t' : TreeShape} {m : RuleManager}
    (h : InSync x t m) (hf : t.Forgets t') : InSync x t' m := by
  intro c r hr hx
  rw [effective_sameItems hf.toSameItems]
  exact h c r (hf.socket c r hr) hx

/-- The rules with that of an application. -/
def withAppRule (i : TrafficItemId) (rules : TrafficItemRules) (m : RuleManager) : RuleManager :=
  { m with applicationRules := m.applicationRules.insert i rules }

/-- The rule that is loaded for an item under a path, when it says something. -/
def loadedRule (env : RuleEnv) (i : TrafficItemId) (path : String) : Option TrafficItemRules :=
  ((env.dbRule path).map (loadedRules env i)).filter fun rules => !rules.isDefault

/-- `OnAppFirstTimeConnected` with the rule that is loaded. -/
theorem onAppFirstTimeConnected_eq (env : RuleEnv) (t : CounterTree) (a : Ref) (m : RuleManager) :
    m.onAppFirstTimeConnected env t a =
      let item := (t.app a).trafficItem
      match loadedRule env item.itemId item.applicationPath with
      | none => m
      | some rules => syncRules env.order (updateRuleCache env.order t (a, .application)
          (m.withAppRule item.itemId rules)) := by
  unfold onAppFirstTimeConnected loadedRule
  simp only
  cases env.dbRule (t.app a).trafficItem.applicationPath with
  | none => rfl
  | some row =>
    rw [Option.map_some, Option.filter_some]
    by_cases hd : (loadedRules env (t.app a).trafficItem.itemId row).isDefault = true
    · simp [hd]
    · simp [hd, withAppRule]

/-- A rule that is loaded for an application reaches its sockets. -/
def LoadCovers (env : RuleEnv) (t : CounterTree) (a : Ref) (m : RuleManager) : Prop :=
  let item := (t.app a).trafficItem
  ∀ rules, loadedRule env item.itemId item.applicationPath = some rules →
    Covers t.shape (a, .application) m (m.withAppRule item.itemId rules)

/-- A new socket of the process is announced: its process has rules that say something. -/
def Announces (t : CounterTree) (p : Ref) (m : RuleManager) : Prop :=
  (m.effectiveProcRules t p).isDefault = false

/-- The rules of the items depend on the shape only. -/
theorem effectiveProcRules_shape (t : CounterTree) (p : Ref) (m : RuleManager) :
    m.effectiveProcRules t p = getEffectiveRules (getEffectiveRules m.systemRules
      (rulesOf m.applicationRules (t.shape.appId (t.shape.procApp p))))
        (rulesOf m.processRules (t.shape.procId p)) := rfl

end RuleManager

namespace SystemMap

open RuleManager (InSync Covers LoadCovers Announces listener)

/-- The system map with the rules of another manager. -/
def withRules (m : RuleManager) (s : SystemMap RuleManager) : SystemMap RuleManager :=
  { s with listeners := m }

@[simp] theorem shape_withRules (m : RuleManager) (s : SystemMap RuleManager) :
    (withRules m s).shape = s.shape := rfl

/-- **The kernel is in step with the rules**, but for the sockets of `x`. -/
structure Synced (x : SocketCookie → Prop) (s : SystemMap RuleManager) : Prop where
  sound : s.shape.Sound
  clean : s.listeners.Clean
  inSync : InSync x s.shape s.listeners

namespace Synced

variable {env : RuleEnv} {x : SocketCookie → Prop} {s s' : SystemMap RuleManager}

/-! ### Changes of the trees -/

theorem mono {y : SocketCookie → Prop} (hs : Synced x s) (hxy : ∀ c, x c → y c) : Synced y s :=
  { hs with inSync := hs.inSync.mono hxy }

/-- What leaves the shape and the rules alone. -/
theorem quiet (hs : Synced x s) (hshape : s'.shape = s.shape)
    (hrules : s'.listeners = s.listeners) : Synced x s' :=
  ⟨hshape ▸ hs.sound, hrules ▸ hs.clean, by rw [hshape, hrules]; exact hs.inSync⟩

/-- A change that forgets. -/
theorem forget (hs : Synced x s) {f : CounterTree → CounterTree}
    (hf : s.shape.Forgets (f s.toCounterTree).shape) : Synced x (modify f s) :=
  ⟨hs.sound.forget hf, hs.clean, hs.inSync.forget hf⟩

/-- A socket whose rules need not be in the kernel any more: it is not in `Sockets`. -/
theorem gone {c : SocketCookie} (hs : Synced (fun d => x d ∨ d = c) s)
    (hc : s.shape.socks c = none) : Synced x s := by
  refine { hs with inSync := fun d r hr hx => hs.inSync d r hr fun hd => ?_ }
  rcases hd with hd | hd
  · exact hx hd
  · rw [hd, hc] at hr
    exact absurd hr (by simp)

theorem addSocket (hs : Synced x s) (now : Msec) {c : SocketCookie} {p : Ref} (hc : c ≠ 0)
    (hp : p < s.nextItemId) :
    Synced (fun d => x d ∨ d = c) (modify (·.addSocket now c p) s) := by
  have hshape : (modify (·.addSocket now c p) s).shape = s.shape.addSocket c p := by simp
  refine ⟨by rw [hshape]; exact hs.sound.addSocket hc hp, hs.clean, fun d r hr hx => ?_⟩
  rw [not_or] at hx
  rw [hshape] at hr ⊢
  simp only [TreeShape.addSocket, Function.update_apply, if_neg hx.2] at hr
  have hr0 : r ≠ s.shape.next :=
    Nat.ne_of_lt (hs.sound.lt_of_isSocket (hs.sound.socket d r hr).1)
  have heff : s.listeners.effective (s.shape.addSocket c p) r =
      s.listeners.effective s.shape r := by
    unfold RuleManager.effective RuleManager.inForce
    simp only [TreeShape.addSocket, Function.update_apply, if_neg hr0]
  exact (hs.inSync d r hr hx.1).trans heff.symm

theorem addProcess (hs : Synced x s) (now : Msec) (pid : ProcessId) {a : Ref}
    (ha : a < s.nextItemId) : Synced x (modify (·.addProcess now pid a) s) := by
  have hshape : (modify (·.addProcess now pid a) s).shape = s.shape.addProcess pid a := by simp
  refine ⟨by rw [hshape]; exact hs.sound.addProcess pid ha, hs.clean, fun d r hr hx => ?_⟩
  rw [hshape] at hr ⊢
  have hp : s.shape.sockProc r ≠ s.shape.next := Nat.ne_of_lt (hs.sound.older r).2.2.2.2
  have heff : s.listeners.effective (s.shape.addProcess pid a) r =
      s.listeners.effective s.shape r := by
    unfold RuleManager.effective RuleManager.inForce
    simp only [TreeShape.addProcess, Function.update_apply, if_neg hp]
  exact (hs.inSync d r hr hx).trans heff.symm

theorem addApp (hs : Synced x s) (now : Msec) (key commandLine appName : String) :
    Synced x (modify (·.addApp now key commandLine appName) s) := by
  have hshape : (modify (·.addApp now key commandLine appName) s).shape = s.shape.addApp key := by
    simp
  refine ⟨by rw [hshape]; exact hs.sound.addApp key, hs.clean, fun d r hr hx => ?_⟩
  rw [hshape] at hr ⊢
  have ha : s.shape.procApp (s.shape.sockProc r) ≠ s.shape.next :=
    Nat.ne_of_lt (hs.sound.older _).2.2.2.1
  have heff : s.listeners.effective (s.shape.addApp key) r = s.listeners.effective s.shape r := by
    unfold RuleManager.effective RuleManager.inForce
    simp only [TreeShape.addApp, TreeShape.registerApp, Function.update_apply, if_neg ha]
  exact (hs.inSync d r hr hx).trans heff.symm

theorem attachSocket (hs : Synced x s) {r p : Ref} (hr : s.shape.IsSocket r)
    (hp : p < s.nextItemId) :
    Synced (fun d => x d ∨ d = s.shape.sockCookie r) (modify (·.attachSocket r p) s) := by
  have hshape : (modify (·.attachSocket r p) s).shape = s.shape.attachSocket r p := by simp
  refine ⟨by rw [hshape]; exact hs.sound.attachSocket hr hp, hs.clean, fun d q hq hx => ?_⟩
  rw [not_or] at hx
  rw [hshape] at hq ⊢
  simp only [TreeShape.attachSocket, Function.update_apply, if_neg hx.2] at hq
  have hne : q ≠ r := fun h => hx.2 (h ▸ (hs.sound.socket d q hq).2.symm)
  have heff : s.listeners.effective (s.shape.attachSocket r p) q =
      s.listeners.effective s.shape q := by
    unfold RuleManager.effective RuleManager.inForce
    simp only [TreeShape.attachSocket, Function.update_apply, if_neg hne]
  exact (hs.inSync d q hq hx.1).trans heff.symm

theorem orphan (hs : Synced x s) (e : Endpoint) {r : Ref} (hr : s.shape.IsSocket r) :
    Synced x (modify (·.orphan e r) s) := by
  have hshape : (modify (·.orphan e r) s).shape = s.shape.orphan e r := by simp
  exact ⟨by rw [hshape]; exact hs.sound.orphanSocket hr e, hs.clean,
    by rw [hshape]; exact hs.inSync⟩

/-! ### Notices -/

/-- A recomputation that covers a change of the rules. -/
theorem recompute (hs : Synced x s) {root : TrafficItemId × TrafficItemType} {m : RuleManager}
    (hclean : m.Clean) (hkernel : ∀ c, c ≠ 0 → m.kernelValue c = s.listeners.kernelValue c)
    (hcovers : Covers s.shape root s.listeners m) (o o' : IterOrder) :
    Synced (fun c => x c ∧ ∀ a p q, ¬ s.shape.Reached root c a p q)
      (withRules (RuleManager.syncRules o'
        (RuleManager.updateRuleCache o s.toCounterTree root m)) s) := by
  obtain ⟨h1, h2⟩ := RuleManager.inSync_recompute (fun c r hr => hs.sound.socket_ne_zero hr)
    hs.inSync hclean hkernel hcovers o o'
  exact ⟨hs.sound, h1, h2⟩

/-- **A socket is announced.** Its rules, and those of the sockets of its application, reach the
kernel, unless its process has none. -/
theorem connected (hs : Synced x s) (r : Ref)
    (hcovers : Announces s.toCounterTree (s.shape.sockProc r) s.listeners →
      Covers s.shape (s.shape.procApp (s.shape.sockProc r), .application) s.listeners s.listeners) :
    Synced (fun c => x c ∧ (Announces s.toCounterTree (s.shape.sockProc r) s.listeners →
        ∀ a p q, ¬ s.shape.Reached (s.shape.procApp (s.shape.sockProc r), .application) c a p q))
      (notify (listener env) (.onSocketConnected r) s) := by
  by_cases hd : Announces s.toCounterTree (s.shape.sockProc r) s.listeners
  · have h := hs.recompute hs.clean (fun _ _ => rfl) (hcovers hd) env.order env.order
    have hout : notify (listener env) (.onSocketConnected r) s =
        withRules (RuleManager.syncRules env.order (RuleManager.updateRuleCache env.order
          s.toCounterTree (s.shape.procApp (s.shape.sockProc r), .application) s.listeners)) s := by
      unfold notify listener RuleManager.onSocketConnected
      simp only
      rw [if_pos (by rw [Bool.not_eq_true']; exact hd)]
      rfl
    rw [hout]
    exact h.mono fun c hc => ⟨hc.1, fun _ => hc.2⟩
  · have hout : (notify (listener env) (.onSocketConnected r) s).listeners = s.listeners := by
      unfold notify listener RuleManager.onSocketConnected
      simp only
      rw [if_neg (by rw [Bool.not_eq_true']; exact hd)]
    exact (hs.quiet (shape_notify _ _ s) hout).mono fun c hc => ⟨hc, fun h => absurd h hd⟩

/-- **The rule of an application is loaded.** -/
theorem loaded (hs : Synced x s) {a : Ref} (hload : LoadCovers env s.toCounterTree a s.listeners) :
    Synced x (notify (listener env) (.onAppFirstTimeConnected a) s) := by
  unfold notify listener
  simp only [RuleManager.onAppFirstTimeConnected_eq]
  split
  · exact hs
  · rename_i rules hrules
    have hclean : (s.listeners.withAppRule (s.app a).trafficItem.itemId rules).Clean := hs.clean
    exact (hs.recompute hclean (fun _ _ => rfl) (hload rules hrules) env.order env.order).mono
      fun c hc => hc.1

/-- A new application has no socket its rule could reach. -/
theorem loadCovers_addApp (hs : Synced x s) (now : Msec) (key commandLine appName : String) :
    LoadCovers env (s.toCounterTree.addApp now key commandLine appName) s.nextItemId
      s.listeners := by
  unfold LoadCovers
  intro item rules _ c r hr
  rw [CounterTree.shape_addApp] at hr ⊢
  have hproc : ∀ pid, (s.shape.addApp key).appProcs s.nextItemId pid = none := by
    intro pid
    simp [TreeShape.addApp, TreeShape.registerApp, shape, CounterTree.shape]
  constructor
  · rintro a p q ⟨rfl, ⟨pid, hp⟩, _⟩
    exact absurd ((hproc pid).symm.trans hp) (by simp)
  · intro _
    have hid : item.itemId = s.shape.next :=
      (congrFun (congrArg TreeShape.appId
        (CounterTree.shape_addApp s.toCounterTree now key commandLine appName)) s.nextItemId).trans
        (Function.update_self ..)
    have happ : s.shape.procApp (s.shape.sockProc r) ≠ s.shape.next :=
      Nat.ne_of_lt (hs.sound.older _).2.2.2.1
    have hold : (s.shape.addApp key).appId ((s.shape.addApp key).procApp
        ((s.shape.addApp key).sockProc r)) ≠ item.itemId := by
      rw [hid]
      simp only [TreeShape.addApp, TreeShape.registerApp, Function.update_apply, if_neg happ]
      exact Nat.ne_of_lt (hs.sound.older _).1
    have hrules := rulesOf_insert_of_ne s.listeners.applicationRules rules hold
    exact congrArg (fun rules => (effectiveSocketRules s.listeners.systemRules rules _ _).asBase)
      hrules

/-- The rules a removed socket leaves behind are its own. -/
theorem removed (env : RuleEnv) (hs : Synced x s) {r : Ref} (hr : s.shape.IsSocket r) :
    Synced (fun d => x d ∨ d = s.shape.sockCookie r)
      (notify (listener env) (.onSocketRemoved r) s) := by
  refine ⟨hs.sound, fun c e h0 he => ?_, fun d q hq hx => ?_⟩
  · simp only [notify, listener, RuleManager.onSocketRemoved, UMap.lookup_erase_ite] at he
    split at he
    · exact absurd he (by simp)
    · exact hs.clean c e h0 he
  · rw [not_or] at hx
    obtain ⟨hsocket, hd⟩ := hs.sound.socket d q hq
    have hne : s.shape.sockId q ≠ s.shape.sockId r := by
      rw [hsocket.itemId, hr.itemId]
      exact fun h => hx.2 (h ▸ hd.symm)
    have heff : (s.listeners.onSocketRemoved s.toCounterTree r).effective s.shape q =
        s.listeners.effective s.shape q := by
      unfold RuleManager.effective RuleManager.inForce
      rw [← rulesOf_erase_of_ne s.listeners.socketRules hne]
      rfl
    exact (hs.inSync d q hq hx.1).trans heff.symm

/-- The rule of a process is dropped where no socket in the kernel has it. -/
theorem processRemoved (env : RuleEnv) (hs : Synced x s) {p : Ref}
    (hkeep : ∀ c r, s.shape.socks c = some r → ¬ x c →
      (s.listeners.onProcessRemoved s.toCounterTree p).effective s.shape r =
        s.listeners.effective s.shape r) :
    Synced x (notify (listener env) (.onProcessRemoved p) s) :=
  ⟨hs.sound, hs.clean, fun c r hr hx => (hs.inSync c r hr hx).trans (hkeep c r hr hx).symm⟩

/-- A socket whose rules the kernel has already. -/
theorem holds {c : SocketCookie} (hs : Synced (fun d => x d ∨ d = c) s)
    (hc : ∀ r, s.shape.socks c = some r →
      s.listeners.kernelValue c = s.listeners.effective s.shape r) : Synced x s := by
  refine { hs with inSync := fun d r hr hx => ?_ }
  by_cases hd : d = c
  · rw [hd] at hr ⊢
    exact hc r hr
  · exact hs.inSync d r hr fun h => h.elim hx hd

end Synced

end SystemMap

end Waechter
