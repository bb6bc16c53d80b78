import Waechter.Daemon.SyncSteps

/-!
# When the kernel follows the rules

The runs of the daemon that matter to the rules: rule changes, the rules that are loaded, socket
events, sockets that are mapped from traffic, reparented sockets and the periodic cleanup.

The kernel follows the rules through the recomputations only. A socket that is mapped without being
announced, or that moves to another process, gets what the kernel happens to have under its cookie;
a recomputation reaches the sockets of one application, under the cookies its items have them.

* `Reaches`: the condition on a step, on the state before it: where it recomputes rules, the
  recomputation covers what changes; where it puts a socket somewhere without being announced, the
  rules over that place are those the kernel has under the cookie.
* `always_kernelFollows`: a run whose steps all meet it keeps the kernel in step with the rules.
* `kernelFollows_fails_created`: a process that is blocked gets a socket the kernel knows nothing
  about.
-/

namespace Waechter

open Lib

/-- An operation of the daemon, with what it reads from outside. -/
inductive RuleOp : Type 1 where
  | loadSystemRule (env : RuleEnv)
  | processInitialApps (env : RuleEnv) (o : IterOrder)
  | handleRuleChange (env : RuleEnv) (update : RuleUpdate)
  | updateData (env : RuleEnv) (tenv : SystemMap.TrafficEnv) (event : SocketEvent)
  | reparentOrphanedSocket (env : RuleEnv) (now : Msec) (endpoint : Endpoint)
      (newParentProcess : ProcessId)
  | refreshAllTrafficCounters (env : RuleEnv) (tick : SystemMap.TickEnv)
  | takeItemId

namespace SystemMap

open RuleManager (listener)

/-! ## Runs -/

/-- Perform an operation. -/
def ruleStep (s : SystemMap RuleManager) : RuleOp → SystemMap RuleManager
  | .loadSystemRule env =>
    withRules (RuleManager.loadSystemRule env s.toCounterTree s.listeners) s
  | .processInitialApps env o => processInitialApps (listener env) o s
  | .handleRuleChange env update =>
    withRules (RuleManager.handleRuleChange env s.toCounterTree update s.listeners).1 s
  | .updateData env tenv event => updateData (listener env) tenv event s
  | .reparentOrphanedSocket env now endpoint pid =>
    reparentOrphanedSocket (listener env) now endpoint pid s
  | .refreshAllTrafficCounters env tick => refreshAllTrafficCounters (listener env) tick s
  | .takeItemId => takeItemId s

/-- The daemon once the sockets that exist already are mapped, which is before the rule manager
hears of anything. There are no rules, and the kernel's map is empty. -/
def started (now : Msec) (hostName : String) (env : MapEnv) (isProcessRunning : ProcessId → Bool)
    (listeningSockets : List ListenSocketInfo) : SystemMap RuleManager :=
  addExistingSockets unheard env isProcessRunning listeningSockets (init now hostName {})

/-- **The kernel follows the rules**: what it has under the cookie of a socket in `Sockets` are the
effective rules of the socket. -/
def KernelFollows (s : SystemMap RuleManager) : Prop :=
  ∀ c r, s.shape.socks c = some r → s.listeners.kernelValue c = s.listeners.effective s.shape r

/-- The condition on a step: what the operation relies on in the state before it. -/
def Reaches (s : SystemMap RuleManager) : RuleOp → Prop
  | .loadSystemRule env => SystemCovers env s
  | .processInitialApps env o => InitialCovers env o s
  | .handleRuleChange env update => ChangeCovers env update s
  | .updateData env tenv event => EventCovers env tenv event s
  | .reparentOrphanedSocket env _ endpoint pid => OrphanCovers env endpoint pid s
  | .refreshAllTrafficCounters _ tick => RemovalCovers tick s
  | .takeItemId => True

theorem Synced.kernelFollows {s : SystemMap RuleManager} (hs : Synced (fun _ => False) s) :
    KernelFollows s := fun c r hr => hs.inSync c r hr id

/-- **One step keeps the kernel in step.** -/
theorem Synced.ruleStep {s : SystemMap RuleManager} (hs : Synced (fun _ => False) s) {op : RuleOp}
    (hop : Reaches s op) : Synced (fun _ => False) (ruleStep s op) := by
  cases op with
  | loadSystemRule env => exact hs.systemLoaded hop
  | processInitialApps env o => exact hs.processInitialApps o hop
  | handleRuleChange env update => exact hs.changed update hop
  | updateData env tenv event => exact hs.updateData tenv event hop
  | reparentOrphanedSocket env now endpoint pid =>
    exact hs.reparentOrphanedSocket now endpoint pid hop
  | refreshAllTrafficCounters env tick => exact hs.refreshAllTrafficCounters env tick hop
  | takeItemId =>
    refine Synced.forget hs (f := fun t => { t with nextItemId := t.nextItemId + 1 }) ?_
    rw [CounterTree.shape_takeItemId]
    exact TreeShape.Forgets.takeItemId _

/-! ### The start -/

theorem listeners_mapSocket (env : MapEnv) (cookie : SocketCookie) (established : Bool)
    (pid : ProcessId) (silentFail : Bool) (s : SystemMap RuleManager) :
    (mapSocket unheard env cookie established pid silentFail s).2.listeners = s.listeners := by
  have happ : ∀ exePath commandLine appName,
      (findOrMapApplication unheard env.order env.now exePath commandLine appName s).2.listeners =
        s.listeners := by
    intro exePath commandLine appName
    rcases findOrMapApplication_cases (h := unheard) env.order env.now exePath commandLine appName s
      with ⟨k, hk, he⟩ | ⟨k, hk, -, he⟩ | ⟨-, -, he⟩
    · rw [he]
    · rw [he]
      rfl
    · rw [he]
      rfl
  have hprocess : ∀ (a : Ref) (s : SystemMap RuleManager),
      (findOrMapProcess unheard env.now pid a s).2.listeners = s.listeners := by
    intro a s
    unfold findOrMapProcess
    split <;> rfl
  have hsocket : ∀ (p : Ref) (s : SystemMap RuleManager),
      (findOrMapSocket env.now cookie p s).2.listeners = s.listeners := by
    intro p s
    unfold findOrMapSocket
    split <;> rfl
  unfold mapSocket
  split
  · rfl
  · split
    · split <;> rfl
    · split
      · rfl
      · exact (hsocket _ _).trans ((hprocess _ _).trans (happ _ _ _))

/-- Without rules the empty map says what the rules say. -/
theorem synced_started (now : Msec) (hostName : String) (env : MapEnv)
    (isProcessRunning : ProcessId → Bool) (listeningSockets : List ListenSocketInfo) :
    Synced (fun _ => False) (started now hostName env isProcessRunning listeningSockets) := by
  have hturn : ∀ (acc : SocketCookie × SystemMap RuleManager) (info : ListenSocketInfo),
      Synced (fun _ => True) acc.2 ∧ acc.2.listeners = {} →
      Synced (fun _ => True) (addExistingSocket unheard env isProcessRunning acc info).2 ∧
        (addExistingSocket unheard env isProcessRunning acc info).2.listeners = {} := by
    rintro acc info ⟨hs, hrules⟩
    unfold addExistingSocket
    split
    · exact ⟨hs, hrules⟩
    · have hmapped : Synced (fun _ => True)
          (mapSocket unheard env acc.1 false info.pid false acc.2).2 := by
        rcases hs.mapSocket handles_unheard env acc.1 false info.pid false
          (fun _ _ _ _ _ _ _ => trivial) with ⟨he, -⟩ | ⟨-, hsout, -⟩
        · rw [he]
          exact hs
        · exact hsout.mono fun _ _ => trivial
      have hempty := (listeners_mapSocket env acc.1 false info.pid false acc.2).trans hrules
      simp only
      split
      · exact ⟨hmapped, hempty⟩
      · exact ⟨(Quiet.editSocket ⟨rfl, rfl, rfl⟩).synced hmapped, hempty⟩
  have hinit : Synced (fun _ => True) (init now hostName ({} : RuleManager)) := by
    refine ⟨⟨nofun, nofun, nofun, nofun, nofun, nofun, fun q => ?_⟩, nofun, nofun⟩
    exact ⟨Nat.zero_lt_succ 3, Nat.zero_lt_succ 3, Nat.zero_lt_succ 3, Nat.zero_lt_succ 3,
      Nat.zero_lt_succ 3⟩
  obtain ⟨hs, hrules⟩ : Synced (fun _ => True)
      (started now hostName env isProcessRunning listeningSockets) ∧
      (started now hostName env isProcessRunning listeningSockets).listeners = {} :=
    List.foldlRecOn (motive := fun acc : SocketCookie × SystemMap RuleManager =>
      Synced (fun _ => True) acc.2 ∧ acc.2.listeners = {}) _ _ ⟨hinit, rfl⟩
      fun acc hacc info _ => hturn acc info hacc
  refine { hs with inSync := fun c r hr _ => ?_ }
  rw [hrules]
  rfl

/-- **The kernel always follows the rules** in a run whose steps all meet the condition. -/
theorem always_kernelFollows (now : Msec) (hostName : String) (env : MapEnv)
    (isProcessRunning : ProcessId → Bool) (listeningSockets : List ListenSocketInfo)
    (ops : List RuleOp)
    (hops : AllSteps ruleStep Reaches
      (started now hostName env isProcessRunning listeningSockets) ops) :
    Always ruleStep KernelFollows
      (started now hostName env isProcessRunning listeningSockets) ops :=
  always_of_allSteps (fun _ hs => hs.kernelFollows) (fun _ _ hs hop => hs.ruleStep hop) ops
    (synced_started now hostName env isProcessRunning listeningSockets) hops

/-! ### A socket nobody announces -/

/-- Nothing is in the database, and no limit gets a mark. -/
def noRules : RuleEnv :=
  { order := .stored, downloadMark := fun _ _ => 0, uploadMark := fun _ _ => 0
    dbRule := fun _ => none }

/-- Nothing is known about any process or endpoint. -/
def unknownTraffic : TrafficEnv :=
  { quietEnv with endpointPID := fun _ => 0, determineSocketType := fun _ _ _ => .unknown }

/-- Process 7 creates a UDP socket. -/
def created (cookie : SocketCookie) : RuleOp :=
  .updateData noRules unknownTraffic
    { cookie := cookie, pid := 7, data := .socketCreate 17 AF_INET }

/-- A client blocks application 4, which is the one of process 7. -/
def blocked : RuleOp :=
  .handleRuleChange noRules
    { rules := { uploadSwitch := .block, downloadSwitch := .block, ruleType := .explicit }
      trafficItemId := 4, parentAppId := 4 }

/-- The daemon without sockets. -/
def idle : SystemMap RuleManager := started 0 "host" quietEnv (fun _ => false) []

/-- Process 7 binds a UDP socket. -/
def boundSocket (cookie : SocketCookie) : RuleOp :=
  .updateData noRules unknownTraffic
    { cookie := cookie, pid := 7, data := .socketBind4 80 false 0 }

/-- Application 4 has one process, and that has one socket. -/
structure OneSocket (s : SystemMap RuleManager) : Prop where
  sockets : s.sockets = (∅ : UMap SocketCookie Ref).insert 9 6
  processes : (s.app 4).trafficItem.processes = (∅ : UMap ProcessId Ref).insert 7 5
  held : (s.process 5).trafficItem.sockets = (∅ : UMap SocketCookie Ref).insert 9 6
  parents : s.shape.sockProc 6 = 5 ∧ s.shape.procApp 5 = 4

theorem OneSocket.of_reached {s : SystemMap RuleManager} (h : OneSocket s) {c : SocketCookie}
    {a p q : Ref} (hreached : s.shape.Reached (4, .application) c a p q) :
    c = 9 ∧ a = 4 ∧ p = 5 ∧ q = 6 := by
  obtain ⟨rfl, ⟨pid, hp⟩, hq⟩ := hreached
  have hprocess : (s.app 4).trafficItem.processes.lookup pid = some p := hp
  obtain ⟨-, rfl⟩ := UMap.lookup_single rfl (h.processes ▸ hprocess)
  have hsocket : (s.process 5).trafficItem.sockets.lookup c = some q := hq
  obtain ⟨rfl, rfl⟩ := UMap.lookup_single rfl (h.held ▸ hsocket)
  exact ⟨rfl, rfl, rfl, rfl⟩

/-- A recomputation for the application covers every change of its rules. -/
theorem OneSocket.covers {s : SystemMap RuleManager} (h : OneSocket s) (m m' : RuleManager) :
    RuleManager.Covers s.shape (4, .application) m m' := by
  intro c r hr
  have hlive : s.sockets.lookup c = some r := hr
  obtain ⟨rfl, rfl⟩ := UMap.lookup_single rfl (h.sockets ▸ hlive)
  refine ⟨fun a p q hreached => ?_, fun hnone => ?_⟩
  · obtain ⟨-, rfl, rfl, rfl⟩ := h.of_reached hreached
    unfold RuleManager.effective
    rw [h.parents.1, h.parents.2]
  · have hprocess : s.shape.appProcs 4 7 = some 5 :=
      (congrArg (·.lookup 7) h.processes).trans (by rfl)
    have hheld : s.shape.procSocks 5 9 = some 6 :=
      (congrArg (·.lookup 9) h.held).trans (by rfl)
    exact absurd ⟨rfl, ⟨7, hprocess⟩, hheld⟩ (hnone 4 5 6)

/-- The first socket is mapped without rules, the block reaches it, and the second one is announced
under its process. -/
theorem always_kernelFollows_blocked :
    Always ruleStep KernelFollows (started 0 "host" quietEnv (fun _ => false) [])
      [created 9, blocked, boundSocket 10] := by
  have hloaded := loaded_homeOf (show ∀ path, noRules.dbRule path = none from fun _ => rfl)
  have hcovered : ∀ menv pid s, (homeOf noRules menv pid s).mapped.Covered s.shape s.listeners :=
    fun menv pid s hsome => absurd hsome (by simp [hloaded])
  refine always_kernelFollows 0 "host" quietEnv (fun _ => false) [] _ ⟨?_, ?_, ?_, trivial⟩
  · refine ⟨fun r hr => (nomatch hr), fun pid _ => hcovered _ pid _,
      fun _ _ hsignals => absurd hsignals (by decide), fun pid hpid _ => ?_⟩
    obtain rfl : 7 = pid := Option.some.inj hpid
    exact SocketHome.known_of_loaded_none (hloaded ..) rfl
  · set s := ruleStep (started 0 "host" quietEnv (fun _ => false) []) (created 9) with hs
    have hone : OneSocket s := ⟨by rfl, by rfl, by rfl, by rfl, by rfl⟩
    have hitem : s.trafficItems.lookup 4 = some .application := by rfl
    intro ty root hty hroot
    obtain rfl : ty = .application := Option.some.inj (hty.symm.trans hitem)
    obtain rfl : root = (4, .application) := by
      simpa [RuleManager.cacheRoot, hitem, eq_comm] using hroot
    exact hone.covers _ _
  · set s := ruleStep (ruleStep (started 0 "host" quietEnv (fun _ => false) []) (created 9))
      blocked with hs
    have hone : OneSocket s := ⟨by rfl, by rfl, by rfl, by rfl, by rfl⟩
    have hnone : s.sockets.lookup 10 = none := by rfl
    have happ : (homeOf noRules unknownTraffic.toMapEnv 7 s).app = 4 := by rfl
    have hann : (homeOf noRules unknownTraffic.toMapEnv 7 s).Announces s.listeners := by rfl
    refine ⟨fun r hr => absurd (hnone.symm.trans hr) (by simp), fun pid _ => hcovered _ pid _,
      fun pid hpid _ _ => ?_, fun pid hpid hquiet => ?_⟩
    · obtain rfl : 7 = pid := Option.some.inj hpid
      refine ⟨?_, fun a p r hreached _ => ?_⟩
      · rw [happ]
        exact hone.covers _ _
      · rw [happ] at hreached
        exact absurd (hone.of_reached hreached).1 (by decide)
    · obtain rfl : 7 = pid := Option.some.inj hpid
      exact absurd ⟨by rfl, hann⟩ hquiet

/-- **The second socket is not blocked**: the kernel has nothing under its cookie. -/
theorem kernelFollows_fails_created : ¬ ∀ (now : Msec) (hostName : String) (env : MapEnv)
    (isProcessRunning : ProcessId → Bool) (listeningSockets : List ListenSocketInfo)
    (ops : List RuleOp), Always ruleStep KernelFollows
      (started now hostName env isProcessRunning listeningSockets) ops := by
  intro hall
  have hlast := (hall 0 "host" quietEnv (fun _ => false) []
    [created 9, blocked, created 10]).last
  have hsock : (run ruleStep idle [created 9, blocked, created 10]).shape.socks 10 = some 7 := by
    rfl
  have hkernel : (run ruleStep idle [created 9, blocked, created 10]).listeners.kernelValue 10 =
      {} := by rfl
  have heffective : ((run ruleStep idle [created 9, blocked, created 10]).listeners.effective
      (run ruleStep idle [created 9, blocked, created 10]).shape 7).uploadSwitch = .block := by rfl
  have hfollows := congrArg TrafficItemRulesBase.uploadSwitch
    (hkernel.symm.trans (hlast 10 7 hsock))
  exact absurd (hfollows.trans heffective) (by decide)

end SystemMap

end Waechter
