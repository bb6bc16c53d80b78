import Waechter.Daemon.SyncInvariant
import Waechter.Daemon.TwoTrees

/-!
# Where a socket is put

`MapSocket` puts a new socket under an application and a process, and `ReparentOrphanedSocket` puts
an orphan there. Both may load the rule of an application on the way. An `AppHome` is the
application with that rule, a `SocketHome` the item the socket is put under; both are read off the
state before.

* `appHome`, `orphanApp`: the application of a new socket, and of an orphan.
* `Known`: the entry the kernel has under the cookie of the socket is what the rules over its new
  place come to, or the rule that is loaded brings it.
* `Announced`: when the socket is announced, what is computed for the sockets of its application
  are their rules.
* `Puts`, `Grows`, `Houses`: what the way there does to the rules and to the trees.
* `Known.holds`, `Announced.covers`: what the two conditions say once the socket is there.
-/

namespace Waechter

open Lib

/-- The application a socket is mapped to. -/
structure AppHome where
  app : Ref
  itemId : TrafficItemId
  /-- The next item id once the application is there. -/
  next : TrafficItemId
  /-- The rule that is loaded for it on the way. -/
  loaded : Option TrafficItemRules

/-- Where a socket is put. -/
structure SocketHome where
  mapped : AppHome
  /-- The application of the process: a process that is known keeps its own. -/
  app : Ref
  process : Ref
  appId : TrafficItemId
  procId : TrafficItemId
  sockId : TrafficItemId

namespace AppHome

/-- The rules once that of the application is loaded. -/
def rules (home : AppHome) (m : RuleManager) : RuleManager :=
  match home.loaded with
  | none => m
  | some rules => m.withAppRule home.itemId rules

/-- The rule that is loaded is computed for an item held under the cookie. -/
def Recomputed (home : AppHome) (t : TreeShape) (c : SocketCookie) (a p r : Ref) : Prop :=
  home.loaded.isSome = true ∧ t.Reached (home.app, .application) c a p r

/-- The rule that is loaded reaches the sockets it changes the rules of. -/
def Covered (home : AppHome) (t : TreeShape) (m : RuleManager) : Prop :=
  home.loaded.isSome = true → RuleManager.Covers t (home.app, .application) m (home.rules m)

/-- The place of a new socket of a process, which is created where it is not known. -/
def place (home : AppHome) (t : TreeShape) (pid : ProcessId) : SocketHome :=
  match t.procs pid with
  | some p =>
    { mapped := home, app := t.procApp p, process := p, appId := t.appId (t.procApp p)
      procId := t.procId p, sockId := home.next }
  | none =>
    { mapped := home, app := home.app, process := home.next, appId := home.itemId
      procId := home.next, sockId := home.next + 1 }

end AppHome

namespace SocketHome

/-- The rules over the process the socket is put under. -/
def procRules (home : SocketHome) (m : RuleManager) : TrafficItemRules :=
  getEffectiveRules (getEffectiveRules m.systemRules (rulesOf m.applicationRules home.appId))
    (rulesOf m.processRules home.procId)

/-- The rules in force for the socket there. -/
def inForce (home : SocketHome) (m : RuleManager) : TrafficItemRulesBase :=
  (getEffectiveRules (home.procRules m) (rulesOf m.socketRules home.sockId)).asBase

/-- The process has rules that say something, so that a socket of it is announced. -/
def Announces (home : SocketHome) (m : RuleManager) : Prop :=
  (home.procRules (home.mapped.rules m)).isDefault = false

/-- **The rules over the place are what is under the cookie.** Where the rule that is loaded on the
way is computed for something held under the cookie, they are what is computed there; elsewhere
they are the kernel's entry. -/
structure Known (home : SocketHome) (c : SocketCookie) (t : TreeShape) (m : RuleManager) :
    Prop where
  kept : (∀ a p r, ¬ home.mapped.Recomputed t c a p r) →
    m.kernelValue c = home.inForce (home.mapped.rules m)
  computed : ∀ a p r, home.mapped.Recomputed t c a p r →
    (home.mapped.rules m).inForce t a p r = home.inForce (home.mapped.rules m)

/-- What is computed when the socket is announced are the rules of the sockets of its application,
and nothing else is computed under its own cookie. -/
structure Announced (home : SocketHome) (c : SocketCookie) (t : TreeShape) (m : RuleManager) :
    Prop where
  others : RuleManager.Covers t (home.app, .application) (home.mapped.rules m)
    (home.mapped.rules m)
  own : ∀ a p r, t.Reached (home.app, .application) c a p r → p ≠ home.process →
    (home.mapped.rules m).inForce t a p r = home.inForce (home.mapped.rules m)

end SocketHome

namespace SystemMap

open RuleManager (loadedRule)

/-- The application `FindOrMapApplication` finds or creates for a process. -/
def appHome (env : RuleEnv) (menv : MapEnv) (pid : ProcessId) (s : SystemMap RuleManager) :
    AppHome :=
  let identity := processIdentity (menv.procInfo pid)
  let key := applicationKey identity.1 identity.2.1 identity.2.2
  let known (a : Ref) (loaded : Option TrafficItemRules) : AppHome :=
    { app := a, itemId := s.shape.appId a, next := s.nextItemId, loaded }
  match s.applications.lookup key with
  | some a => known a none
  | none =>
    match findApplication menv.order key identity.2.2 s.toCounterTree with
    | some (.reuse a) => known a none
    | some (.upgrade _ a) => known a (loadedRule env (s.shape.appId a) key)
    | none =>
      { app := s.nextItemId, itemId := s.nextItemId, next := s.nextItemId + 1
        loaded := loadedRule env s.nextItemId key }

/-- Whatever process it goes to, the socket is mapped to the application. -/
theorem mapped_place (home : AppHome) (t : TreeShape) (pid : ProcessId) :
    (home.place t pid).mapped = home := by
  unfold AppHome.place
  split <;> rfl

/-- The place of a new socket of a process. -/
def homeOf (env : RuleEnv) (menv : MapEnv) (pid : ProcessId) (s : SystemMap RuleManager) :
    SocketHome :=
  (appHome env menv pid s).place s.shape pid

/-- The application of an orphan: its rule is loaded where it is registered again. -/
def orphanApp (env : RuleEnv) (r : Ref) (s : SystemMap RuleManager) : AppHome :=
  let app := s.shape.procApp (s.shape.sockProc r)
  let key := s.shape.appPath app
  { app, itemId := s.shape.appId app, next := s.nextItemId
    loaded := if (s.applications.lookup key).isSome then none
      else loadedRule env (s.shape.appId app) key }

/-- The place of an orphan that goes to a process. -/
def orphanHome (env : RuleEnv) (pid : ProcessId) (r : Ref) (s : SystemMap RuleManager) :
    SocketHome :=
  { (orphanApp env r s).place s.shape pid with sockId := s.shape.sockId r }

theorem findApplication_call (h : Handler RuleManager) (o : IterOrder) (key appName : String)
    (c : CounterCall) (s : SystemMap RuleManager) :
    findApplication o key appName (call h .system c s).toCounterTree =
      findApplication o key appName s.toCounterTree := rfl

/-- A call on the counter of the system changes no place. -/
theorem homeOf_call (env : RuleEnv) (menv : MapEnv) (pid : ProcessId) (h : Handler RuleManager)
    (c : CounterCall) (s : SystemMap RuleManager) :
    homeOf env menv pid (call h .system c s) = homeOf env menv pid s := by
  have happs : (call h .system c s).applications = s.applications := rfl
  have hnext : (call h .system c s).nextItemId = s.nextItemId := rfl
  unfold homeOf appHome
  simp only [shape_call, findApplication_call, happs, hnext]

/-- No rule is loaded from an empty table. -/
theorem loaded_homeOf {env : RuleEnv} (hnone : ∀ path, env.dbRule path = none) (menv : MapEnv)
    (pid : ProcessId) (s : SystemMap RuleManager) :
    (homeOf env menv pid s).mapped.loaded = none := by
  have hloaded : ∀ i path, loadedRule env i path = none := by
    intro i path
    unfold RuleManager.loadedRule
    rw [hnone]
    rfl
  rw [homeOf, mapped_place]
  unfold appHome
  simp only [hloaded]
  split
  · rfl
  · split <;> rfl

end SystemMap

/-! ## The rules on the way -/

namespace RuleManager.Covers

variable {t : TreeShape} {a : Ref} {m m' : RuleManager}

theorem upgradeApp (h : Covers t (a, .application) m m') (k key : String) (b : Ref) :
    Covers (t.upgradeApp k key b) (a, .application) m m' := h

theorem registerApp (h : Covers t (a, .application) m m') (key : String) (b : Ref) :
    Covers (t.registerApp key b) (a, .application) m m' := h

end RuleManager.Covers

namespace AppHome

variable {home : AppHome} {t : TreeShape} {m m' : RuleManager}

/-- The way to an application: its rule is loaded and the entries of its sockets are written. -/
structure Puts (home : AppHome) (t : TreeShape) (m m' : RuleManager) : Prop where
  sameRules : RuleManager.SameRules (home.rules m) m'
  kept : ∀ c, c ≠ 0 → (∀ a p r, ¬ home.Recomputed t c a p r) → m'.kernelValue c = m.kernelValue c
  computed : ∀ c rules, c ≠ 0 → (∃ a p r, home.Recomputed t c a p r) →
    (∀ a p r, home.Recomputed t c a p r → (home.rules m).inForce t a p r = rules) →
      m'.kernelValue c = rules

theorem rules_of_none (hnone : home.loaded = none) : home.rules m = m := by
  unfold AppHome.rules
  rw [hnone]

theorem rules_of_some {rules : TrafficItemRules} (hsome : home.loaded = some rules) :
    home.rules m = m.withAppRule home.itemId rules := by
  unfold AppHome.rules
  rw [hsome]

theorem puts_refl (hnone : home.loaded = none) : home.Puts t m m := by
  refine ⟨rules_of_none hnone ▸ .refl m, fun _ _ _ => rfl, fun c rules _ ⟨a, p, r, h⟩ _ => ?_⟩
  exact absurd h.1 (by simp [hnone])

/-- What is computed from an application depends on what it holds. -/
theorem puts_loaded {env : RuleEnv} {t' : CounterTree} (hclean : m.Clean)
    (hid : t'.shape.appId home.app = home.itemId)
    (hloaded : home.loaded =
      RuleManager.loadedRule env home.itemId (t'.shape.appPath home.app))
    (hreached : ∀ c a p r, t'.shape.Reached (home.app, .application) c a p r ↔
      t.Reached (home.app, .application) c a p r)
    (hinForce : ∀ (m : RuleManager) c a p r, t.Reached (home.app, .application) c a p r →
      m.inForce t'.shape a p r = m.inForce t a p r) :
    home.Puts t m (m.onAppFirstTimeConnected env t' home.app) := by
  have hrule : RuleManager.loadedRule env (t'.app home.app).trafficItem.itemId
      (t'.app home.app).trafficItem.applicationPath = home.loaded := by
    rw [hloaded, ← hid]
    rfl
  have heq := RuleManager.onAppFirstTimeConnected_eq env t' home.app m
  simp only [hrule] at heq
  rw [heq]
  cases hl : home.loaded with
  | none => exact puts_refl hl
  | some rules =>
    have hm : home.rules m = m.withAppRule home.itemId rules := rules_of_some hl
    have hm' : m.withAppRule (t'.app home.app).trafficItem.itemId rules = home.rules m := by
      rw [hm, ← hid]
      rfl
    have hclean' : (home.rules m).Clean := by
      rw [hm]
      exact hclean
    have hkernel : ∀ c, (home.rules m).kernelValue c = m.kernelValue c := by
      intro c
      rw [hm]
      rfl
    have hrecomputed : ∀ c a p r, home.Recomputed t c a p r ↔
        t'.shape.Reached (home.app, .application) c a p r := by
      intro c a p r
      rw [hreached]
      exact and_iff_right (by rw [hl]; rfl)
    simp only [hm']
    refine ⟨(RuleManager.sameRules_updateRuleCache _ _ _ _).trans
      (RuleManager.sameRules_syncRules _ _), fun c hc hnone => ?_, fun c rules hc hsome h => ?_⟩
    · rw [RuleManager.kernelValue_of_not_reached hclean' _ _ _ _ hc
        fun a p r hr => hnone a p r ((hrecomputed c a p r).mpr hr), hkernel]
    · obtain ⟨a, p, r, hr⟩ := hsome
      refine RuleManager.kernelValue_of_reached hclean' _ _ _ _ hc
        ⟨a, p, r, (hrecomputed c a p r).mp hr⟩ fun a p r hr => ?_
      rw [hinForce _ c a p r ((hreached c a p r).mp hr)]
      exact h a p r ((hrecomputed c a p r).mpr hr)

/-- A rule that reaches what it should does so in the tree it is loaded in. -/
theorem Covered.loadCovers {env : RuleEnv} {t' : CounterTree} (h : home.Covered t m)
    (hid : t'.shape.appId home.app = home.itemId)
    (hloaded : home.loaded =
      RuleManager.loadedRule env home.itemId (t'.shape.appPath home.app))
    (hcovers : ∀ m', RuleManager.Covers t (home.app, .application) m m' →
      RuleManager.Covers t'.shape (home.app, .application) m m') :
    RuleManager.LoadCovers env t' home.app m := by
  intro rules hrules
  have hsome : home.loaded = some rules := by
    rw [hloaded, ← hid]
    exact hrules
  have hm : home.rules m = m.withAppRule (t'.app home.app).trafficItem.itemId rules := by
    rw [rules_of_some hsome, ← hid]
    rfl
  rw [← hm]
  exact hcovers _ (h (by rw [hsome]; rfl))

end AppHome

/-! ## The trees on the way -/

/-- The way to an application leaves everything else as it is. -/
structure AppHome.Grows (home : AppHome) (t t' : TreeShape) : Prop where
  next : t'.next = home.next
  appId : t'.appId home.app = home.itemId
  lt : home.app < home.next
  le : t.next ≤ home.next
  procs : t'.procs = t.procs
  procApp : t'.procApp = t.procApp
  procId : t'.procId = t.procId
  socks : t'.socks = t.socks
  sockId : t'.sockId = t.sockId
  sockCookie : t'.sockCookie = t.sockCookie
  sockProc : t'.sockProc = t.sockProc
  procSocks : t'.procSocks = t.procSocks
  appIds : ∀ a, a < t.next → t'.appId a = t.appId a
  appProcs : ∀ a pid p, t'.appProcs a pid = some p → t.appProcs a pid = some p

namespace SocketHome

variable {home : SocketHome} {t t' : TreeShape} {c : SocketCookie} {r : Ref}

/-- The socket is in its place. -/
structure Under (home : SocketHome) (t : TreeShape) (r : Ref) : Prop where
  process : t.sockProc r = home.process
  app : t.procApp home.process = home.app
  appId : t.appId home.app = home.appId
  procId : t.procId home.process = home.procId
  sockId : t.sockId r = home.sockId

/-- A new socket is in its place, and the other sockets are where they were. -/
structure Houses (home : SocketHome) (c : SocketCookie) (t t' : TreeShape) (r : Ref) : Prop
    extends home.Under t' r where
  live : t'.socks c = some r
  others : ∀ d q, t'.socks d = some q → d ≠ c →
    t.socks d = some q ∧ ∀ m : RuleManager, m.effective t' q = m.effective t q
  reached : ∀ d a p q, t'.Reached (home.app, .application) d a p q →
    d = c ∧ p = home.process ∧ q = r ∧ a = home.app ∨ (d = c → p ≠ home.process) ∧
      t.Reached (home.app, .application) d a p q ∧
        ∀ m : RuleManager, m.inForce t' a p q = m.inForce t a p q

theorem Under.effective (h : home.Under t r) (m : RuleManager) :
    m.effective t r = home.inForce m := by
  unfold RuleManager.effective RuleManager.inForce
  rw [h.process, h.app, h.appId, h.procId, h.sockId]
  rfl

theorem inForce_sameRules {m m' : RuleManager} (h : RuleManager.SameRules m m') :
    home.inForce m' = home.inForce m := by
  unfold inForce procRules
  rw [h.systemRules, h.applicationRules, h.processRules, h.socketRules]

/-- Where no rule is loaded, the entry of the kernel counts. -/
theorem known_of_loaded_none {m : RuleManager} (hnone : home.mapped.loaded = none)
    (hkernel : m.kernelValue c = home.inForce m) : home.Known c t m := by
  have hrules : home.mapped.rules m = m := AppHome.rules_of_none hnone
  refine ⟨fun _ => hrules.symm ▸ hkernel, fun a p r h => ?_⟩
  exact absurd h.1 (by simp [hnone])

/-- **The kernel has the rules of the socket** once it is in its place. -/
theorem Known.holds {m m' : RuleManager} (hknown : home.Known c t m) (hc : c ≠ 0)
    (hputs : home.mapped.Puts t m m') (hunder : home.Under t' r) :
    m'.kernelValue c = m'.effective t' r := by
  rw [hunder.effective, inForce_sameRules hputs.sameRules]
  by_cases h : ∃ a p r, home.mapped.Recomputed t c a p r
  · exact hputs.computed c _ hc h hknown.computed
  · have hnone : ∀ a p r, ¬ home.mapped.Recomputed t c a p r := fun a p r hr => h ⟨a, p, r, hr⟩
    exact (hputs.kept c hc hnone).trans (hknown.kept hnone)

/-- **What is computed for the application are the rules of its sockets** once the socket is in its
place. -/
theorem Announced.covers {m m' : RuleManager} (hann : home.Announced c t m)
    (hsame : RuleManager.SameRules (home.mapped.rules m) m') (hhouses : home.Houses c t t' r) :
    RuleManager.Covers t' (home.app, .application) m' m' := by
  refine fun d q hq => ⟨fun a p e hreached => ?_, fun _ => rfl⟩
  by_cases hd : d = c
  · subst hd
    obtain rfl : q = r := Option.some.inj (hq.symm.trans hhouses.live)
    rcases hhouses.reached d a p e hreached with ⟨-, rfl, rfl, rfl⟩ | ⟨hp, hold, hrules⟩
    · unfold RuleManager.effective
      rw [hhouses.process, hhouses.app]
    · rw [hhouses.toUnder.effective, inForce_sameRules hsame, hrules, hsame.inForce]
      exact hann.own a p e hold (hp rfl)
  · obtain ⟨hq', heff⟩ := hhouses.others d q hq hd
    rcases hhouses.reached d a p e hreached with ⟨hc, -⟩ | ⟨-, hold, hrules⟩
    · exact absurd hc hd
    · rw [heff, hrules, hsame.inForce]
      exact ((hann.others d q hq').1 a p e hold).trans (hsame.inForce t _ _ q).symm

end SocketHome

namespace TreeShape

/-- `FindOrMapProcess` on the shape. -/
def mapProcess (pid : ProcessId) (a : Ref) (t : TreeShape) : Ref × TreeShape :=
  match t.procs pid with
  | some p => (p, t)
  | none => (t.next, t.addProcess pid a)

/-- Applications and processes are added, and what was there before is as it was. -/
structure Adds (t t' : TreeShape) : Prop where
  next : t.next ≤ t'.next
  socks : t'.socks = t.socks
  sockId : t'.sockId = t.sockId
  sockCookie : t'.sockCookie = t.sockCookie
  sockProc : t'.sockProc = t.sockProc
  appId : ∀ a, a < t.next → t'.appId a = t.appId a
  procApp : ∀ p, p < t.next → t'.procApp p = t.procApp p
  procId : ∀ p, p < t.next → t'.procId p = t.procId p
  procSocks : ∀ p c r, t'.procSocks p c = some r →
    t.procSocks p c = some r ∧ t'.procId p = t.procId p
  appProcs : ∀ a k p, t'.appProcs a k = some p →
    t.appProcs a k = some p ∨ ∀ c, t'.procSocks p c = none

end TreeShape

namespace AppHome

variable {home : AppHome} {t t' : TreeShape}

attribute [local grind =] Function.update_apply

/-- The process of the place is found or created. -/
theorem Grows.mapProcess (hg : home.Grows t t') (hs : t.Sound) (pid : ProcessId) :
    let place := home.place t pid
    let out := t'.mapProcess pid home.app
    out.1 = place.process ∧ out.2.procApp place.process = place.app ∧
      out.2.appId place.app = place.appId ∧ out.2.procId place.process = place.procId ∧
        out.2.next = place.sockId := by
  simp only [place, TreeShape.mapProcess, hg.procs]
  cases hp : t.procs pid with
  | some p =>
    refine ⟨rfl, congrFun hg.procApp p, hg.appIds _ (hs.older p).2.2.2.1, congrFun hg.procId p,
      hg.next⟩
  | none =>
    simp only [TreeShape.addProcess, hg.next, Function.update_self]
    exact ⟨trivial, trivial, hg.appId, trivial, trivial⟩

/-- What was there before is as it was. -/
theorem Grows.mapProcess_adds (hg : home.Grows t t') (pid : ProcessId) :
    TreeShape.Adds t (t'.mapProcess pid home.app).2 := by
  obtain ⟨h1, h2, h3, h4, h5, h6, h7, h8, h9, h10, h11, h12, h13, h14⟩ := hg
  simp only [TreeShape.mapProcess]
  split
  · constructor <;> simp only [h6, h7, h8, h9, h10, h11, h12] <;> grind
  · constructor <;> simp only [TreeShape.addProcess, h6, h7, h8, h9, h10, h11, h12] <;> grind

/-- **A new socket is in its place**, and the others are where they were. -/
theorem Grows.houses (hg : home.Grows t t') (hs : t.Sound) (pid : ProcessId) (c : SocketCookie) :
    let process := t'.mapProcess pid home.app
    (home.place t pid).Houses c t (process.2.addSocket c process.1) process.2.next := by
  intro process
  obtain ⟨h1, h2, h3, h4, h5⟩ := hg.mapProcess hs pid
  have hadds := hg.mapProcess_adds pid
  rw [show process.1 = (home.place t pid).process from h1]
  change TreeShape.Adds t process.2 at hadds
  have hnew : ∀ q, q < t.next → q ≠ process.2.next :=
    fun q hq => Nat.ne_of_lt (Nat.lt_of_lt_of_le hq hadds.next)
  refine ⟨⟨?_, h2, h3, h4, ?_⟩, ?_, fun d q hq hd => ?_, fun d a p q ⟨ha, ⟨k, hp⟩, hq⟩ => ?_⟩
  · exact Function.update_self ..
  · exact (Function.update_self ..).trans h5
  · exact Function.update_self ..
  · have hq' : t.socks d = some q :=
      (congrFun hadds.socks d).symm.trans ((Function.update_of_ne hd _ _).symm.trans hq)
    refine ⟨hq', fun m => ?_⟩
    have hq0 := hnew q (hs.lt_of_isSocket (hs.socket d q hq').1)
    have hp := (hs.older q).2.2.2.2
    unfold RuleManager.effective RuleManager.inForce
    simp only [TreeShape.addSocket, Function.update_apply, if_neg hq0, hadds.sockProc,
      hadds.sockId, hadds.procApp _ hp, hadds.procId _ hp,
      hadds.appId _ (hs.older (t.sockProc q)).2.2.2.1]
  · simp only [TreeShape.addSocket] at hq
    split at hq
    · rename_i hpc
      exact .inl ⟨hpc.2, hpc.1, (Option.some.inj hq).symm, ha⟩
    · rename_i hpc
      obtain ⟨hheld, hid⟩ := hadds.procSocks p d q hq
      have hin : t.appProcs a k = some p := by
        rcases hadds.appProcs a k p hp with hin | hempty
        · exact hin
        · exact absurd ((hempty d).symm.trans hq) (by simp)
      refine .inr ⟨fun hd hp => hpc ⟨hp, hd⟩, ⟨ha, ⟨k, hin⟩, hheld⟩, fun m => ?_⟩
      have hq0 := hnew q (hs.procHolds p d q hheld)
      unfold RuleManager.inForce
      simp only [TreeShape.addSocket, Function.update_apply, if_neg hq0, hadds.sockId, hid,
        hadds.appId a (hs.appHolds a k p hin)]

end AppHome

/-! ## Mapping -/

namespace SystemMap

open RuleManager (listener)

namespace Synced

variable {x : SocketCookie → Prop} {s : SystemMap RuleManager}

/-- An application that is there is where it is. -/
theorem grows_known (hs : Synced x s) {k : String} {a : Ref} (hk : s.applications.lookup k = some a)
    (loaded : Option TrafficItemRules) :
    ({ app := a, itemId := s.shape.appId a, next := s.nextItemId, loaded } : AppHome).Grows s.shape
      s.shape :=
  ⟨rfl, rfl, hs.sound.app k a hk, Nat.le_refl _, rfl, rfl, rfl, rfl, rfl, rfl, rfl, rfl,
    fun _ _ => rfl, fun _ _ _ => id⟩

/-- The application gets its path, and the rule under it. -/
theorem upgraded (hs : Synced x s) (env : RuleEnv) {k : String} {a : Ref}
    (hk : s.applications.lookup k = some a) (key commandLine appName : String) :
    let home : AppHome := { app := a, itemId := s.shape.appId a, next := s.nextItemId
                            loaded := RuleManager.loadedRule env (s.shape.appId a) key }
    let out := notify (listener env) (.onAppFirstTimeConnected a)
      (modify (·.upgradeApp k key commandLine appName a) s)
    home.Puts s.shape s.listeners out.listeners ∧ home.Grows s.shape out.shape := by
  intro home out
  have hshape : (modify (·.upgradeApp k key commandLine appName a) s).toCounterTree.shape =
      s.shape.upgradeApp k key a := CounterTree.shape_upgradeApp ..
  refine ⟨AppHome.puts_loaded hs.clean ?_ ?_ (fun c b p r => ?_) (fun m c b p r _ => ?_), ?_⟩
  · rw [hshape]
    rfl
  · rw [hshape]
    simp only [TreeShape.upgradeApp, Function.update_self, home]
  · rw [hshape]
    exact Iff.rfl
  · rw [hshape]
    rfl
  · rw [show out.shape = _ from hshape]
    exact { hs.grows_known hk (RuleManager.loadedRule env (s.shape.appId a) key) with }

/-- A new application, with the rule under its key. -/
theorem added (hs : Synced x s) (env : RuleEnv) (now : Msec) (key commandLine appName : String) :
    let home : AppHome := { app := s.nextItemId, itemId := s.nextItemId, next := s.nextItemId + 1
                            loaded := RuleManager.loadedRule env s.nextItemId key }
    let out := notify (listener env) (.onAppFirstTimeConnected s.nextItemId)
      (modify (·.addApp now key commandLine appName) s)
    home.Puts s.shape s.listeners out.listeners ∧ home.Grows s.shape out.shape := by
  intro home out
  have hshape : (modify (·.addApp now key commandLine appName) s).toCounterTree.shape =
      s.shape.addApp key := CounterTree.shape_addApp ..
  -- nothing is held by it yet
  have hnone : ∀ c b p r, ¬ s.shape.Reached (home.app, .application) c b p r := by
    rintro c b p r ⟨rfl, ⟨k, hp⟩, -⟩
    exact absurd (hs.sound.appHolds _ k p hp) (Nat.lt_irrefl _)
  have hnone' : ∀ c b p r, ¬ (s.shape.addApp key).Reached (home.app, .application) c b p r := by
    rintro c b p r ⟨rfl, ⟨k, hp⟩, -⟩
    simp only [TreeShape.addApp, TreeShape.registerApp] at hp
    exact absurd ((if_pos rfl).symm.trans hp) (by simp)
  refine ⟨AppHome.puts_loaded hs.clean ?_ ?_ (fun c b p r => ?_)
    (fun m c b p r hr => absurd hr (hnone c b p r)), ?_⟩
  · rw [hshape]
    exact Function.update_self ..
  · rw [hshape]
    have hpath : (s.shape.addApp key).appPath s.nextItemId = key := Function.update_self ..
    exact congrArg (RuleManager.loadedRule env s.nextItemId) hpath.symm
  · rw [hshape]
    exact iff_of_false (hnone' c b p r) (hnone c b p r)
  · rw [show out.shape = _ from hshape]
    refine ⟨rfl, Function.update_self .., Nat.lt_succ_self _, Nat.le_succ _, rfl, rfl, rfl, rfl,
      rfl, rfl, rfl, rfl, fun a ha => Function.update_of_ne (Nat.ne_of_lt ha) _ _,
      fun a k p hp => ?_⟩
    simp only [TreeShape.addApp, TreeShape.registerApp] at hp
    split at hp
    · exact absurd hp (by simp)
    · exact hp

/-- **`FindOrMapApplication`** finds or creates the application, and may load its rule. -/
theorem appHome (hs : Synced x s) (env : RuleEnv) (menv : MapEnv) (pid : ProcessId) :
    let identity := processIdentity (menv.procInfo pid)
    let out := SystemMap.findOrMapApplication (listener env) menv.order menv.now identity.1
      identity.2.1 identity.2.2 s
    let home := SystemMap.appHome env menv pid s
    out.1 = home.app ∧ home.Puts s.shape s.listeners out.2.listeners ∧
      home.Grows s.shape out.2.shape := by
  intro identity
  unfold SystemMap.findOrMapApplication SystemMap.appHome
  simp only
  cases hlook : s.applications.lookup (applicationKey identity.1 identity.2.1 identity.2.2) with
  | some a => exact ⟨rfl, AppHome.puts_refl rfl, hs.grows_known hlook none⟩
  | none =>
    simp only
    cases hfound : findApplication menv.order
      (applicationKey identity.1 identity.2.1 identity.2.2) identity.2.2 s.toCounterTree with
    | none => exact ⟨rfl, hs.added env ..⟩
    | some found =>
      obtain ⟨e, he, hm⟩ := matchApp_of_findApplication hfound
      have hlive := menv.order.lookup_of_mem_entries _ e he
      cases found with
      | reuse a =>
        rw [matchApp_reuse hm] at hlive
        exact ⟨rfl, AppHome.puts_refl rfl, hs.grows_known hlive none⟩
      | upgrade k a =>
        rw [matchApp_upgrade hm] at hlive
        exact ⟨rfl, hs.upgraded env hlive ..⟩

end Synced

/-- A new socket is announced when the rules over its place say something. -/
theorem announces_iff {home : SocketHome} {m : RuleManager} {s : SystemMap RuleManager} {r : Ref}
    (hunder : home.Under s.shape r)
    (hsame : RuleManager.SameRules (home.mapped.rules m) s.listeners) :
    RuleManager.Announces s.toCounterTree (s.shape.sockProc r) s.listeners ↔ home.Announces m := by
  unfold RuleManager.Announces SocketHome.Announces SocketHome.procRules
  rw [RuleManager.effectiveProcRules_shape, shape_toCounterTree, hunder.process, hunder.app,
    hunder.appId, hunder.procId, hsame.systemRules, hsame.applicationRules, hsame.processRules]

theorem findOrMapProcess_eq (env : RuleEnv) (now : Msec) (pid : ProcessId) (a : Ref)
    (s : SystemMap RuleManager) :
    let out := findOrMapProcess (listener env) now pid a s
    (out.1, out.2.shape) = s.shape.mapProcess pid a ∧ out.2.listeners = s.listeners := by
  unfold findOrMapProcess TreeShape.mapProcess
  have hlook : s.shape.procs pid = s.processes.lookup pid := rfl
  rw [hlook]
  cases s.processes.lookup pid with
  | some p => exact ⟨rfl, rfl⟩
  | none =>
    simp only [shape_notify, shape_modify, CounterTree.shape_addProcess, shape_toCounterTree]
    exact ⟨rfl, rfl⟩

/-- **`MapSocket`** puts a new socket into its place. -/
theorem Synced.mapNewSocket_home {x : SocketCookie → Prop} {s : SystemMap RuleManager}
    (hs : Synced x s) (env : RuleEnv) (menv : MapEnv) {cookie : SocketCookie}
    (hnone : s.sockets.lookup cookie = none) (pid : ProcessId) :
    let out := mapNewSocket (listener env) menv cookie pid s
    let home := homeOf env menv pid s
    home.mapped.Puts s.shape s.listeners out.2.listeners ∧
      home.Houses cookie s.shape out.2.shape out.1 := by
  obtain ⟨happ, hputs, hgrows⟩ := hs.appHome env menv pid
  have hhouses := hgrows.houses hs.sound pid cookie
  rw [← happ] at hhouses
  unfold mapNewSocket
  simp only
  generalize findOrMapApplication (listener env) menv.order menv.now _ _ _ s = app
    at happ hputs hgrows hhouses ⊢
  obtain ⟨hprocess, hrules⟩ := findOrMapProcess_eq env menv.now pid app.1 app.2
  generalize findOrMapProcess (listener env) menv.now pid app.1 app.2 = process
    at hprocess hrules ⊢
  rw [← hprocess] at hhouses
  have hnone' : process.2.sockets.lookup cookie = none := by
    have hsocks := (hgrows.mapProcess_adds pid).socks
    rw [← happ, ← hprocess] at hsocks
    exact (congrFun hsocks cookie).trans hnone
  unfold findOrMapSocket
  rw [hnone']
  have hmapped : (homeOf env menv pid s).mapped = SystemMap.appHome env menv pid s :=
    mapped_place _ _ _
  rw [hmapped]
  refine ⟨?_, ?_⟩
  · rw [← hrules] at hputs
    exact hputs
  · simp only [shape_addSocketAddition, shape_modify, CounterTree.shape_addSocket]
    exact hhouses

/-- The application of an orphan is there again, with its rule. -/
theorem Synced.orphanApp {x : SocketCookie → Prop} {s : SystemMap RuleManager} (hs : Synced x s)
    (env : RuleEnv) (r : Ref) :
    let app := s.shape.procApp (s.shape.sockProc r)
    let key := s.shape.appPath app
    let out := if (s.applications.lookup key).isSome then s
      else notify (listener env) (.onAppFirstTimeConnected app) (modify (·.registerApp key app) s)
    let home := SystemMap.orphanApp env r s
    home.Puts s.shape s.listeners out.listeners ∧ home.Grows s.shape out.shape := by
  intro app key out home
  have hlt : app < s.shape.next := (hs.sound.older _).2.2.2.1
  have hgrows : home.Grows s.shape s.shape :=
    ⟨rfl, rfl, hlt, Nat.le_refl _, rfl, rfl, rfl, rfl, rfl, rfl, rfl, rfl, fun _ _ => rfl,
      fun _ _ _ => id⟩
  by_cases hk : (s.applications.lookup key).isSome = true
  · rw [show out = s from if_pos hk]
    exact ⟨AppHome.puts_refl (if_pos hk), hgrows⟩
  · rw [show out = _ from if_neg hk]
    have hshape : (modify (·.registerApp key app) s).toCounterTree.shape =
        s.shape.registerApp key app := CounterTree.shape_registerApp ..
    refine ⟨AppHome.puts_loaded hs.clean ?_ ?_ (fun c b p q => ?_) (fun m c b p q _ => ?_), ?_⟩
    · rw [hshape]
      rfl
    · rw [hshape]
      exact if_neg hk
    · rw [hshape]
      exact Iff.rfl
    · rw [hshape]
      rfl
    · change home.Grows s.shape (modify (·.registerApp key app) s).toCounterTree.shape
      rw [hshape]
      exact { hgrows with }

/-- **`ReparentOrphanedSocket`** puts an orphan into its place. -/
theorem Synced.orphanHome {x : SocketCookie → Prop} {s : SystemMap RuleManager} (hs : Synced x s)
    (env : RuleEnv) (now : Msec) {endpoint : Endpoint} {pid : ProcessId} (hpid : pid ≠ 0) {r : Ref}
    (hr : s.orphanedSockets.lookup endpoint = some r) :
    let out := reparentOrphanedSocket (listener env) now endpoint pid s
    let home := SystemMap.orphanHome env pid r s
    home.mapped.Puts s.shape s.listeners out.listeners ∧ home.Under out.shape r ∧
      out.shape.socks (s.shape.sockCookie r) = some r := by
  obtain ⟨hputs, hgrows⟩ := hs.orphanApp env r
  have hattach : ∀ s' : SystemMap RuleManager,
      (SystemMap.orphanApp env r s).Puts s.shape s.listeners s'.listeners →
      (SystemMap.orphanApp env r s).Grows s.shape s'.shape →
      let process := findOrMapProcess (listener env) now pid
        (s.shape.procApp (s.shape.sockProc r)) s'
      let out := addSocketAddition r (modify (·.forgetOrphan endpoint)
        (modify (·.attachSocket r process.1) process.2))
      let home := SystemMap.orphanHome env pid r s
      home.mapped.Puts s.shape s.listeners out.listeners ∧ home.Under out.shape r ∧
        out.shape.socks (s.shape.sockCookie r) = some r := by
    intro s' hputs hgrows process out home
    obtain ⟨hprocess, hrules⟩ : (process.1, process.2.shape) =
        s'.shape.mapProcess pid (SystemMap.orphanApp env r s).app ∧
          process.2.listeners = s'.listeners := findOrMapProcess_eq ..
    clear_value process
    have hin := hgrows.mapProcess hs.sound pid
    have hadds := hgrows.mapProcess_adds pid
    rw [← hprocess] at hin hadds
    obtain ⟨h1, h2, h3, h4, -⟩ := hin
    have hmapped : home.mapped = SystemMap.orphanApp env r s := mapped_place _ _ _
    have hshape : out.shape = (process.2.shape.attachSocket r process.1).forgetOrphan endpoint := by
      simp only [out, shape_addSocketAddition, shape_modify, CounterTree.shape_forgetOrphan,
        CounterTree.shape_attachSocket, shape_toCounterTree]
    refine ⟨?_, ?_, ?_⟩
    · rw [hmapped, show out.listeners = s'.listeners from hrules]
      exact hputs
    · rw [hshape]
      exact ⟨(Function.update_self ..).trans h1, h2, h3, h4, congrFun hadds.sockId r⟩
    · rw [hshape, ← congrFun hadds.sockCookie r]
      exact Function.update_self ..
  unfold reparentOrphanedSocket
  rw [hr]
  simp only [if_neg hpid]
  exact hattach _ hputs hgrows

end SystemMap

end Waechter
