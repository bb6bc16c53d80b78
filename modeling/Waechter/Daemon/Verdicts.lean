import Waechter.Daemon.Actions
import Waechter.Daemon.KernelSync
import Waechter.Daemon.SystemRule
import Waechter.EBPF.Traffic
import Waechter.Lib.Fifo

/-!
# From the rules to the packets

What the traffic programs do with the packets of a socket, over the runs of the daemon in which the
kernel follows the rules. Cookie 0 is no socket's: `MapSocket` maps nothing under it, so the entry
of the system is what the last change of the system rule wrote there, whatever happens to the
sockets.

* `TreeShape.Keyed`: no process holds a socket under cookie 0. An operation that maps sockets and
  one that drops sockets keep it for different reasons (`Does.zeroEntry_of_keepsSockets`,
  `Does.zeroEntry_of_givesNone`).
* `zeroEntry_run`: the entry of the system over a run.
* `verdict_iff`: a packet of a socket is dropped exactly when the last change of the system rule
  blocks its direction, or the most specific rule over the socket does.
-/

namespace Waechter

open Lib

/-! ## Cookie 0 -/

namespace TreeShape

/-- No process holds a socket under cookie 0. -/
def Keyed (t : TreeShape) : Prop := ∀ p c r, t.procSocks p c = some r → c ≠ 0

/-- An orphan that is attached again is held under its own id. -/
structure Fills (t : TreeShape) : Prop where
  keyed : t.Keyed
  next : t.next ≠ 0
  orphan : ∀ e r, t.orphans e = some r → t.sockId r ≠ 0

theorem Sound.fills {t : TreeShape} (h : Sound t) (hkeyed : t.Keyed) : t.Fills where
  keyed := hkeyed
  next := Nat.ne_zero_of_lt (h.older 0).1
  orphan := fun e r hr => by
    have hsocket := h.orphan e r hr
    rw [hsocket.itemId]
    exact hsocket.ne_zero

end TreeShape

namespace Change

/-- A change that takes no socket out of the maps and remembers none as an orphan. -/
def KeepsSockets : Change → Prop
  | orphan .. => False
  | dropSynthetic .. => False
  | eraseSocket _ => False
  | _ => True

/-- A change that gives no process a socket. -/
def GivesNone : Change → Prop
  | addSocket .. => False
  | attachSocket .. => False
  | _ => True

attribute [local grind =] Function.update_apply

theorem socks_zero_onShape {m : Change} (hg : m.KeepsSockets) {t : TreeShape} {r : Ref}
    (hr : t.socks 0 = some r) : ∃ q, (m.onShape t).socks 0 = some q := by
  cases m with
  | addSocket now c p =>
    simp only [onShape, TreeShape.addSocket]
    grind
  | attachSocket q p =>
    simp only [onShape, TreeShape.attachSocket]
    grind
  | orphan => exact hg.elim
  | dropSynthetic => exact hg.elim
  | eraseSocket => exact hg.elim
  | _ => exact ⟨r, hr⟩

/-- No process comes to hold a socket at all. -/
theorem keyed_onShape {m : Change} {t : TreeShape} (hc : m.GivesNone) (h : t.Keyed) :
    (m.onShape t).Keyed := by
  intro q k r hr
  cases m with
  | addSocket => exact hc.elim
  | attachSocket => exact hc.elim
  | addProcess now pid a =>
    simp only [onShape, TreeShape.addProcess] at hr
    split at hr
    · cases hr
    · exact h q k r hr
  | eraseProcessSocket p c =>
    simp only [onShape, TreeShape.eraseProcessSocket] at hr
    split at hr
    · cases hr
    · exact h q k r hr
  | dropSynthetic p existing =>
    simp only [onShape, TreeShape.dropSynthetic, TreeShape.eraseSocket,
      TreeShape.eraseTrafficItem, TreeShape.eraseProcessSocket] at hr
    split at hr
    · cases hr
    · exact h q k r hr
  | _ => exact h q k r hr

/-- As long as no socket has cookie 0, no process comes to hold one under it. -/
theorem fills_onShape {m : Change} {t : CounterTree} (hm : m.Proper t) (hg : m.KeepsSockets)
    (h : t.shape.Fills) :
    (∃ r, (m.onShape t.shape).socks 0 = some r) ∨ (m.onShape t.shape).Fills := by
  obtain ⟨hkeyed, hnext, horphan⟩ := h
  cases m with
  | addSocket now c p =>
    by_cases hc : c = 0
    · subst hc
      have hnew : ((addSocket now 0 p).onShape t.shape).socks =
          Function.update t.shape.socks 0 (some t.shape.next) := rfl
      exact .inl ⟨t.shape.next, hnew ▸ Function.update_self ..⟩
    · refine .inr ⟨fun q k r hr => ?_, Nat.succ_ne_zero _, fun e r hr => ?_⟩
      · simp only [onShape, TreeShape.addSocket] at hr
        split at hr
        · rename_i hq
          exact hq.2 ▸ hc
        · exact hkeyed q k r hr
      · have hold := horphan e r hr
        simp only [onShape, TreeShape.addSocket]
        grind
  | attachSocket r p =>
    obtain ⟨e, he⟩ := hm
    refine .inr ⟨fun q k x hx => ?_, hnext, horphan⟩
    simp only [onShape, TreeShape.attachSocket] at hx
    split at hx
    · rename_i hq
      exact hq.2 ▸ horphan e r he
    · exact hkeyed q k x hx
  | addProcess now pid a =>
    exact .inr ⟨keyed_onShape (m := addProcess now pid a) trivial hkeyed, Nat.succ_ne_zero _,
      horphan⟩
  | eraseProcessSocket p c =>
    exact .inr ⟨keyed_onShape (m := eraseProcessSocket p c) trivial hkeyed, hnext, horphan⟩
  | forgetOrphan e =>
    refine .inr ⟨hkeyed, hnext, fun f r hr => ?_⟩
    simp only [onShape, TreeShape.forgetOrphan, Function.update_apply] at hr
    split at hr
    · cases hr
    · exact horphan f r hr
  | orphan => exact hg.elim
  | dropSynthetic => exact hg.elim
  | eraseSocket => exact hg.elim
  | addTuple => exact .inr ⟨hkeyed, Nat.succ_ne_zero _, horphan⟩
  | addApp => exact .inr ⟨hkeyed, Nat.succ_ne_zero _, horphan⟩
  | takeItemId => exact .inr ⟨hkeyed, Nat.succ_ne_zero _, horphan⟩
  | _ => exact .inr ⟨hkeyed, hnext, horphan⟩

end Change

/-- An action that is no change that takes a socket out of the maps. -/
def Action.KeepsSockets : Action → Prop
  | .change m => m.KeepsSockets
  | _ => True

/-- An action that is no change that gives a process a socket. -/
def Action.GivesNone : Action → Prop
  | .change m => m.GivesNone
  | _ => True

theorem Action.Maps.keepsSockets {a : Action} (h : a.Maps) : a.KeepsSockets := by
  cases a with
  | change m => cases m <;> first | exact h.elim | trivial
  | _ => trivial

theorem Action.Drops.givesNone {a : Action} (h : a.Drops) : a.GivesNone := by
  cases a with
  | change m => cases m <;> first | exact h.elim | trivial
  | _ => trivial

namespace SystemMap

open RuleManager (UnderZero listener)

/-- The tree as one without a socket under cookie 0. -/
def keyedTree (s : SystemMap RuleManager) (h : s.shape.Keyed) : KeyedTree := ⟨s.toCounterTree, h⟩

/-- A handler that leaves cookie 0 alone. -/
def LeavesZero (h : Handler RuleManager) : Prop :=
  ∀ v n (t : KeyedTree) m, UnderZero v m → UnderZero v (h n t.toCounterTree m)

theorem leavesZero_listener (env : RuleEnv) : LeavesZero (listener env) :=
  fun _ n t _ h => h.listener env t n

theorem leavesZero_unheard : LeavesZero unheard := fun _ _ _ _ h => h

/-- The kernel has `v` under cookie 0, which is no socket's. -/
structure ZeroEntry (v : Option TrafficItemRulesBase) (s : SystemMap RuleManager) : Prop where
  keyed : s.shape.Keyed
  under : UnderZero v s.listeners

variable {h : Handler RuleManager} {C : CounterId → CounterCall → Prop} {K : Action → Prop}
  {v : Option TrafficItemRulesBase} {s s' : SystemMap RuleManager}

/-- **An operation that gives no process a socket** leaves the entry alone. -/
theorem Does.zeroEntry_of_givesNone (hs : Does h C Action.GivesNone s s') (hh : LeavesZero h)
    (h0 : ZeroEntry v s) : ZeroEntry v s' := by
  refine hs.keeps (fun n s hI => ?_) (fun who c s _ hI => ?_) (fun c s _ hI => ?_)
    (fun m s hm hK hI => ?_) h0
  · exact ⟨hI.keyed, hh v n (keyedTree s hI.keyed) _ hI.under⟩
  · refine ⟨?_, hh v (.call who c) (keyedTree s hI.keyed) _ hI.under⟩
    rw [shape_call]
    exact hI.keyed
  · exact ⟨hI.keyed, hI.under⟩
  · refine ⟨?_, hI.under⟩
    rw [shape_modify, Change.shape_apply hm]
    exact Change.keyed_onShape hK hI.keyed

/-- **An operation that takes no socket out of the maps** leaves the entry alone, when no socket
has cookie 0 after it: one that came to have it on the way would still have it. -/
theorem Does.zeroEntry_of_keepsSockets (hs : Does h C Action.KeepsSockets s s') (hh : LeavesZero h)
    (hfills : s.shape.Fills) (hsound : s'.shape.Sound) (h0 : UnderZero v s.listeners) :
    ZeroEntry v s' := by
  have hpath : (∃ r, s'.shape.socks 0 = some r) ∨ s'.shape.Fills ∧ UnderZero v s'.listeners := by
    refine hs.keeps (I := fun s => (∃ r, s.shape.socks 0 = some r) ∨
      s.shape.Fills ∧ UnderZero v s.listeners) (fun n s hI => ?_) (fun who c s _ hI => ?_)
      (fun c s _ hI => hI) (fun m s hm hK hI => ?_) (.inr ⟨hfills, h0⟩)
    · exact hI.imp id fun ⟨hf, hu⟩ => ⟨hf, hh v n (keyedTree s hf.keyed) _ hu⟩
    · rw [shape_call]
      exact hI.imp id fun ⟨hf, hu⟩ => ⟨hf, hh v (.call who c) (keyedTree s hf.keyed) _ hu⟩
    · rw [shape_modify, Change.shape_apply hm]
      rcases hI with hzero | ⟨hf, hu⟩
      · exact .inl (Change.socks_zero_onShape hK hzero.choose_spec)
      · exact (Change.fills_onShape hm hK hf).imp id fun hf => ⟨hf, hu⟩
  rcases hpath with ⟨r, hr⟩ | ⟨hf, hu⟩
  · exact absurd rfl (hsound.socket_ne_zero hr)
  · exact ⟨hf.keyed, hu⟩

namespace ZeroEntry

variable {env : RuleEnv}

/-- The notice of a socket that is orphaned touches no rules. -/
theorem reparentAcceptedSocket (hz : ZeroEntry v s) (r : Ref) :
    ZeroEntry v (reparentAcceptedSocket (listener env) r s) := by
  unfold SystemMap.reparentAcceptedSocket
  simp only
  split
  · exact hz
  · exact ⟨hz.keyed, hz.under⟩

/-- **One event.** -/
theorem updateData (hz : ZeroEntry v s) (hs : Synced (fun _ => False) s) (tenv : TrafficEnv)
    (event : SocketEvent) (hcovers : EventCovers env tenv event s) :
    ZeroEntry v (updateData (listener env) tenv event s) := by
  have hh := leavesZero_listener env
  have hsound : (SystemMap.updateData (listener env) tenv event s).shape.Sound :=
    (hs.updateData tenv event hcovers).sound
  have hmaps : ∀ a : Action, a.Maps → a.KeepsSockets := fun _ => Action.Maps.keepsSockets
  set mapped := mapSocket (listener env) tenv.toMapEnv event.cookie event.data.isEstablished
    event.pid event.data.silentFail s with hmapped
  have hsmapped : mapped.2.shape.Sound := by
    rcases hs.mapSocket (handles_listener env) tenv.toMapEnv event.cookie
      event.data.isEstablished event.pid event.data.silentFail
      (hs.mappedCovers tenv event hcovers).mapped with
      ⟨he, -⟩ | ⟨-, hsout, -⟩
    · exact he ▸ hs.sound
    · exact hsout.sound
  have hzmapped : ZeroEntry v mapped.2 :=
    Does.zeroEntry_of_keepsSockets (C := fun _ _ => True) (does_mapSocket hmaps _ _ _ _ _ s) hh
      (hs.sound.fills hz.keyed) hsmapped hz.under
  have hfills : mapped.2.shape.Fills := hsmapped.fills hzmapped.keyed
  revert hsound
  unfold SystemMap.updateData
  simp only [← hmapped]
  split
  · intro _
    exact Does.zeroEntry_of_givesNone (C := fun _ _ => True) (does_pushIncomingTraffic
      (fun _ _ _ => trivial) tenv event.cookie _ _ (fun _ _ => ⟨trivial, trivial⟩)
      (fun _ _ => ⟨fun _ => trivial, fun _ => trivial⟩) fun _ => trivial) hh hzmapped
  · intro hsound
    exact Does.zeroEntry_of_keepsSockets (C := fun _ _ => True) (does_pushOutgoingTraffic
      (fun _ _ _ => trivial) tenv event.cookie _ _ hmaps (fun _ _ => ⟨trivial, trivial⟩)
      (fun _ _ => ⟨fun _ => trivial, fun _ => trivial⟩) fun _ => trivial) hh hfills hsound
      hzmapped.under
  · intro _
    exact Does.zeroEntry_of_givesNone (C := fun _ _ => True) (does_markSocketForRemoval
      (fun _ _ _ => trivial) tenv.order tenv.now event.cookie _
      (fun _ _ _ _ => ⟨trivial, trivial⟩) (fun _ _ => trivial) fun _ => trivial) hh hzmapped
  · intro _
    split
    · exact hzmapped
    · rename_i r hr
      have hevent := Does.zeroEntry_of_givesNone (C := fun _ _ => True) (does_processSocketEvent
        event.data r (fun _ => trivial) (fun _ => trivial) mapped.2) hh hzmapped
      have hmerged := Does.zeroEntry_of_givesNone (C := fun _ _ => True) (does_mergeSyntheticSocket
        tenv.order r (fun _ => trivial) (fun _ _ => trivial) (fun _ => trivial) _) hh hevent
      split
      · exact hmerged.reparentAcceptedSocket r
      · exact hmerged

/-- **A socket is reparented.** -/
theorem reparentOrphanedSocket (hz : ZeroEntry v s) (hs : Synced (fun _ => False) s) (now : Msec)
    (endpoint : Endpoint) (pid : ProcessId) (hcovers : OrphanCovers env endpoint pid s) :
    ZeroEntry v (reparentOrphanedSocket (listener env) now endpoint pid s) :=
  Does.zeroEntry_of_keepsSockets (C := fun _ _ => True)
    (does_reparentOrphanedSocket (fun _ => Action.Maps.keepsSockets) (fun _ => trivial)
      (fun _ _ => trivial) (fun _ _ => trivial) now endpoint pid s)
    (leavesZero_listener env) (hs.sound.fills hz.keyed)
    (hs.reparentOrphanedSocket now endpoint pid hcovers).sound hz.under

/-- **A tick.** -/
theorem refreshAllTrafficCounters (hz : ZeroEntry v s) (env : RuleEnv) (tick : TickEnv) :
    ZeroEntry v (refreshAllTrafficCounters (listener env) tick s) :=
  Does.zeroEntry_of_givesNone (C := fun _ _ => True)
    (does_refreshAllTrafficCounters tick (fun _ => Action.Drops.givesNone) (fun _ _ _ => trivial)
      (fun _ _ => trivial) (fun _ => trivial) (fun _ => trivial) s)
    (leavesZero_listener env) hz

end ZeroEntry

/-! ## The entry of the system -/

/-- The rules of the system that an operation puts into the kernel. -/
def systemChange (s : SystemMap RuleManager) : RuleOp → List TrafficItemRulesBase
  | .handleRuleChange _ update =>
    if s.trafficItems.lookup update.trafficItemId = some .system then [update.rules.asBase] else []
  | _ => []

/-- **One step writes the entry of the system** when it changes the system rule, and only then. -/
theorem ZeroEntry.ruleStep (hz : ZeroEntry v s) (hs : Synced (fun _ => False) s) {op : RuleOp}
    (hop : Reaches s op) : ZeroEntry ((systemChange s op).getLast?.or v) (ruleStep s op) := by
  cases op with
  | loadSystemRule env =>
    exact ⟨hz.keyed, hz.under.loadSystemRule env (keyedTree s hz.keyed)⟩
  | processInitialApps env o =>
    exact Does.zeroEntry_of_givesNone (C := fun _ _ => True) (does_processInitialApps o s)
      (leavesZero_listener env) hz
  | handleRuleChange env update =>
    have hchanged := hz.under.handleRuleChange env (keyedTree s hz.keyed) update
    have hentry : (systemChange s (.handleRuleChange env update)).getLast?.or v =
        if s.trafficItems.lookup update.trafficItemId = some .system then
          some update.rules.asBase else v := by
      simp only [systemChange]
      split <;> rfl
    exact ⟨hz.keyed, hentry ▸ hchanged⟩
  | updateData env tenv event => exact hz.updateData hs tenv event hop
  | reparentOrphanedSocket env now endpoint pid =>
    exact hz.reparentOrphanedSocket hs now endpoint pid hop
  | refreshAllTrafficCounters env tick => exact hz.refreshAllTrafficCounters env tick
  | takeItemId => exact ⟨hz.keyed, hz.under⟩

theorem zeroEntry_started (now : Msec) (hostName : String) (env : MapEnv)
    (isProcessRunning : ProcessId → Bool) (listeningSockets : List ListenSocketInfo) :
    ZeroEntry none (started now hostName env isProcessRunning listeningSockets) := by
  have hfills : (init now hostName ({} : RuleManager)).shape.Fills := ⟨nofun, nofun, nofun⟩
  exact Does.zeroEntry_of_keepsSockets (C := fun _ _ => True)
    (does_addExistingSockets (fun _ => Action.Maps.keepsSockets) env isProcessRunning
      (fun _ _ => trivial) listeningSockets _)
    leavesZero_unheard hfills
    (synced_started now hostName env isProcessRunning listeningSockets).sound ⟨rfl, rfl⟩

/-- **The entry of the system over a run** is what the last change of the system rule set. -/
theorem zeroEntry_run : ∀ (ops : List RuleOp) {v : Option TrafficItemRulesBase}
    {s : SystemMap RuleManager}, Synced (fun _ => False) s → ZeroEntry v s →
    AllSteps ruleStep Reaches s ops →
      Synced (fun _ => False) (run ruleStep s ops) ∧
        ZeroEntry ((collect ruleStep systemChange s ops).getLast?.or v) (run ruleStep s ops)
  | [], _, _, hs, hz, _ => ⟨hs, hz⟩
  | op :: ops, v, s, hs, hz, hops => by
    obtain ⟨hsrun, hzrun⟩ := zeroEntry_run ops (hs.ruleStep hops.1) (hz.ruleStep hs hops.1) hops.2
    refine ⟨hsrun, ?_⟩
    rw [collect_cons, List.getLast?_append, Option.or_assoc]
    exact hzrun

/-! ## The verdict -/

/-- The rules over a socket below those of the system, the most specific one last. -/
def chain (s : SystemMap RuleManager) (r : Ref) : List TrafficItemRules :=
  let t := s.shape
  let p := t.sockProc r
  [rulesOf s.listeners.applicationRules (t.appId (t.procApp p)),
    rulesOf s.listeners.processRules (t.procId p), rulesOf s.listeners.socketRules (t.sockId r)]

/-- The switch of the most specific explicit rule over a socket, else that of the system. -/
def decided (s : SystemMap RuleManager) (d : PacketDirection) (r : Ref) : SwitchState :=
  ((chain s r).filterMap (explicitSwitch d)).getLast?.getD (s.listeners.systemRules.switch d)

/-- A packet of a socket that has its effective rules in the kernel. -/
theorem drop_iff_decided (hs : Synced (fun _ => False) s) (hz : ZeroEntry v s)
    (d : PacketDirection) (timestamp : Nat) (reserved : Bool) {skb : SkBuff} (hip : skb.isIP)
    {r : Ref} (hr : s.shape.socks skb.cookie = some r) :
    (program d s.listeners.kernel timestamp reserved skb).1 = .drop ↔
      (∃ rules, v = some rules ∧ rules.switch d = .block) ∨ decided s d r = .block := by
  have hprogram : program d s.listeners.kernel timestamp reserved skb =
      cgskb d s.listeners.kernel timestamp reserved skb := by
    cases d <;> rfl
  have hzero : blocks s.listeners.kernel 0 d = true ↔
      ∃ rules, v = some rules ∧ rules.switch d = .block := by
    rw [blocks, hz.under.kernel, Option.any_eq_true]
    exact exists_congr fun rules => and_congr Iff.rfl decide_eq_true_iff
  have hswitch : (s.listeners.kernelValue skb.cookie).switch d = decided s d r := by
    rw [hs.inSync skb.cookie r hr id]
    exact foldl_switch d (chain s r) s.listeners.systemRules
  have hown : blocks s.listeners.kernel skb.cookie d = true ↔ decided s d r = .block := by
    rw [← hswitch]
    unfold blocks RuleManager.kernelValue
    cases s.listeners.kernel.lookup skb.cookie with
    | none => cases d <;> simp [TrafficItemRulesBase.switch]
    | some rules => simp
  rw [hprogram, cgskb_drop_iff, hzero, hown]
  exact and_iff_right hip

/-- **What the rules say is what the packets suffer**, after every run in which the kernel follows
the rules. A packet of a socket is dropped exactly when the last change of the system rule blocks
its direction, or the most specific explicit rule over the socket does. -/
theorem verdict_iff (now : Msec) (hostName : String) (env : MapEnv)
    (isProcessRunning : ProcessId → Bool) (listeningSockets : List ListenSocketInfo)
    (ops : List RuleOp)
    (hops : AllSteps ruleStep Reaches
      (started now hostName env isProcessRunning listeningSockets) ops)
    (d : PacketDirection) (timestamp : Nat) (reserved : Bool) {skb : SkBuff} (hip : skb.isIP) :
    let s₀ := started now hostName env isProcessRunning listeningSockets
    let s := run ruleStep s₀ ops
    ∀ r, s.shape.socks skb.cookie = some r →
      ((program d s.listeners.kernel timestamp reserved skb).1 = .drop ↔
        (∃ rules, (collect ruleStep systemChange s₀ ops).getLast? = some rules ∧
          rules.switch d = .block) ∨ decided s d r = .block) := by
  intro s₀ s r hr
  obtain ⟨hs, hz⟩ := zeroEntry_run ops
    (synced_started now hostName env isProcessRunning listeningSockets)
    (zeroEntry_started now hostName env isProcessRunning listeningSockets) hops
  rw [Option.or_none] at hz
  exact drop_iff_decided hs hz d timestamp reserved hip hr

/-- A client blocks all downloads. -/
def downloadsBlocked : RuleOp :=
  .handleRuleChange noRules
    { rules := { downloadSwitch := .block, ruleType := .explicit }, trafficItemId := 0,
      parentAppId := 0 }

/-- The socket of process 7 is created before the downloads are blocked. -/
theorem verdict_iff_downloadsBlocked :
    let s := run ruleStep (started 0 "host" quietEnv (fun _ => false) [])
      [created 11, downloadsBlocked]
    (program .incoming s.listeners.kernel 0 true
      { protocol := ETH_P_IPV6, cookie := 11, len := 0, data := [] }).1 = .drop := by
  have hops : AllSteps ruleStep Reaches (started 0 "host" quietEnv (fun _ => false) [])
      [created 11, downloadsBlocked] := by
    have hloaded := loaded_homeOf (show ∀ path, noRules.dbRule path = none from fun _ => rfl)
    refine ⟨⟨fun r hr => (nomatch hr), fun pid _ hsome => ?_,
      fun _ _ hsignals => absurd hsignals (by decide), fun pid hpid _ => ?_⟩, ?_, trivial⟩
    · exact absurd hsome (by simp [hloaded])
    · obtain rfl : 7 = pid := Option.some.inj hpid
      exact SocketHome.known_of_loaded_none (hloaded ..) rfl
    · set s := ruleStep (started 0 "host" quietEnv (fun _ => false) []) (created 11) with hs
      have hsockets : s.sockets.entries = [⟨11, 6⟩] := rfl
      have happs : s.systemApplications.entries = [⟨_, 4⟩] := rfl
      have happ : (s.app 4).trafficItem.processes.entries = [⟨7, 5⟩] := rfl
      have hprocess : (s.process 5).trafficItem.sockets.entries = [⟨11, 6⟩] := rfl
      have hitem : s.trafficItems.lookup 0 = some .system := rfl
      intro ty root hty hroot
      obtain rfl : ty = .system := Option.some.inj (hty.symm.trans hitem)
      obtain rfl : root = (0, .system) := (Option.some.inj hroot).symm
      intro c r hr
      obtain ⟨rfl, rfl⟩ := UMap.lookup_single hsockets hr
      refine ⟨fun a p q hreached => ?_, fun hnone => ?_⟩
      · obtain ⟨⟨k, ha⟩, ⟨pid, hp⟩, hq⟩ := hreached
        obtain ⟨-, rfl⟩ := UMap.lookup_single happs ha
        obtain ⟨-, rfl⟩ := UMap.lookup_single happ hp
        have hheld : (s.process 5).trafficItem.sockets.lookup 11 = some q := hq
        obtain ⟨-, rfl⟩ := UMap.lookup_single hprocess hheld
        rfl
      · exact absurd ⟨⟨_, UMap.lookup_of_single happs⟩, ⟨7, UMap.lookup_of_single happ⟩,
          UMap.lookup_of_single hprocess⟩ (hnone 4 5 6)
  exact (verdict_iff 0 "host" quietEnv (fun _ => false) [] _ hops .incoming 0 true (.inr rfl) 6
    rfl).mpr (.inl ⟨_, rfl, rfl⟩)

end SystemMap

end Waechter
