import Waechter.Daemon.TwoTrees
import Waechter.Util.SpeedTiming

/-!
# Counters and their gates

Clients hear of a tick only when the counter of the system is active (`HasNewData`), and of a UDP
tuple only with a socket that is active (`GetUpdates`). `Timed` says that every counter in the maps
is gated by the one of the system, and every tuple by the counter of its socket.

* `Timed.push`, `Timed.mark`, `Timed.carried`: calls on counters and changes of the maps keep it. A
  push has to come after one on the gates.
* `carries_mapSocket`: mapping a socket only adds new counters.
* `timed_updateData`: a traffic event keeps it, since the bytes are pushed on the system first, then
  on the socket, and then on everything else.
-/

namespace Waechter

open Lib

open TrafficCounter (WellTimed GatedBy JustPushed)

namespace CounterTree

variable (t : CounterTree)

/-- A counter by its name. -/
def counter : CounterId → TrafficCounter TrafficItem
  | .system => t.systemCounter.plain
  | .filter i => (t.filterCounters[i]?.getD default).plain
  | .app r => (t.app r).plain
  | .process r => (t.process r).plain
  | .socket r => (t.socket r).plain
  | .tuple r => (t.tuple r).plain

/-- The tuple is one of a socket in `Sockets`. -/
def TupleOf (r u : Ref) : Prop :=
  (∃ c, t.shape.socks c = some r) ∧ ∃ e, t.shape.sockTuples r e = some u

/-- The counter is in the maps. -/
def Mapped : CounterId → Prop
  | .system => True
  | .filter i => i < t.filterCounters.length
  | .app r => ∃ k, t.shape.apps k = some r
  | .process r => ∃ pid, t.shape.procs pid = some r
  | .socket r => ∃ c, t.shape.socks c = some r
  | .tuple u => ∃ r, t.TupleOf r u

/-- What a counter needs to be active to be heard of. -/
inductive Gates : CounterId → CounterId → Prop
  | system {who : CounterId} (hw : t.Mapped who) (hne : who ≠ .system) : Gates who .system
  | socket {r u : Ref} (h : t.TupleOf r u) : Gates (.tuple u) (.socket r)

/-- The counters are well timed, and every one is gated. -/
structure Timed (now : Msec) : Prop where
  system : (t.counter .system).state ≠ .pendingRemoval
  wellTimed : ∀ who, (t.counter who).WellTimed
  started : ∀ who, t.Mapped who → (t.counter who).timeWindowStart ≤ now
  gated : ∀ who gate, t.Gates who gate → GatedBy (t.counter who) (t.counter gate)

/-- The counter was just created. -/
def Fresh (now : Msec) (c : TrafficCounter TrafficItem) : Prop :=
  ∃ itemId, c = .new now { itemId := itemId }

/-- The counters of `t'` are those of `t`, as they were, or new. -/
structure Carries (now : Msec) (t' : CounterTree) : Prop where
  system : t'.counter .system = t.counter .system
  counter : ∀ who, t'.counter who = t.counter who ∨ Fresh now (t'.counter who)
  mapped : ∀ who, t'.Mapped who → t.Mapped who ∧ t'.counter who = t.counter who ∨
    Fresh now (t'.counter who)
  tuples : ∀ r u, t'.TupleOf r u → t.TupleOf r u ∧ t'.counter (.tuple u) = t.counter (.tuple u) ∧
    t'.counter (.socket r) = t.counter (.socket r) ∨ Fresh now (t'.counter (.tuple u))

variable {t}

/-! ## Calls -/

theorem counter_applyCall (who : CounterId)
    (hw : ∀ i, who = .filter i → i < t.filterCounters.length) (cc : CounterCall) (q : CounterId) :
    (t.applyCall who cc).counter q =
      if q = who then (t.counter who).call cc else t.counter q := by
  cases who with
  | system =>
    cases q with
    | system => exact TrafficCounter.plain_call _ cc
    | _ => rfl
  | filter i =>
    cases q with
    | filter j =>
      have hi := hw i rfl
      simp only [applyCall, counter, List.getElem?_modify, CounterId.filter.injEq]
      by_cases hij : i = j
      · subst hij
        simp only [List.getElem?_eq_getElem hi]
        exact TrafficCounter.plain_call _ cc
      · simp [hij, Ne.symm hij]
    | _ => rfl
  | app r | process r | socket r | tuple r =>
    cases q <;> simp [applyCall, counter, modifyApp, modifyProcess, modifySocket, modifyTuple,
      Function.update_apply]
    split
    · exact TrafficCounter.plain_call _ cc
    · rfl

theorem length_filters_applyCall (who : CounterId) (cc : CounterCall) :
    (t.applyCall who cc).filterCounters.length = t.filterCounters.length := by
  cases who <;> simp [applyCall, modifyApp, modifyProcess, modifySocket, modifyTuple]

theorem mapped_applyCall (who q : CounterId) (cc : CounterCall) :
    (t.applyCall who cc).Mapped q ↔ t.Mapped q := by
  cases q <;> simp [Mapped, TupleOf, length_filters_applyCall]

theorem gates_applyCall {who q gate : CounterId} {cc : CounterCall}
    (h : (t.applyCall who cc).Gates q gate) : t.Gates q gate := by
  cases h with
  | system hw hne => exact .system ((mapped_applyCall who q cc).mp hw) hne
  | socket hu =>
    refine .socket ?_
    unfold TupleOf at hu ⊢
    rwa [shape_applyCall] at hu

theorem Gates.ne {q gate : CounterId} (h : t.Gates q gate) : q ≠ gate := by
  cases h with
  | system hw hne => exact hne
  | socket hu => nofun

theorem Gates.mapped {q gate : CounterId} (h : t.Gates q gate) : t.Mapped q := by
  cases h with
  | system hw hne => exact hw
  | socket hu => exact ⟨_, hu⟩

/-- A push, after one on the gates. -/
theorem Timed.push {now : Msec} (ht : t.Timed now) {who : CounterId} (hw : t.Mapped who)
    {bytes pushed : WBytes} {cc : CounterCall} (hcc : cc.IsPush bytes)
    (hbytes : bytes ≠ 0 → pushed ≠ 0)
    (hgates : ∀ gate, t.Gates who gate → (t.counter gate).JustPushed pushed) :
    (t.applyCall who cc).Timed now := by
  have hcounter := counter_applyCall (t := t) who (by rintro i rfl; exact hw) cc
  refine ⟨?_, fun q => ?_, fun q hq => ?_, fun q gate hgate => ?_⟩
  · rw [hcounter]
    split
    · cases hcc <;> nofun
    · exact ht.system
  · rw [hcounter]
    split
    · exact (ht.wellTimed who).call cc
    · exact ht.wellTimed q
  · rw [hcounter]
    split
    · rw [(TrafficCounter.hasRecent_push hcc).2]
      exact ht.started who hw
    · exact ht.started q ((mapped_applyCall who q cc).mp hq)
  · have hold := gates_applyCall hgate
    rw [hcounter, hcounter]
    by_cases hq : q = who
    · rw [if_pos hq, if_neg (hq ▸ hold.ne.symm)]
      exact (hq ▸ ht.gated q gate hold).push (hgates gate (hq ▸ hold)) hcc hbytes
    · rw [if_neg hq]
      split
      · rename_i hg
        exact (hg ▸ ht.gated q gate hold).push_gate hcc
      · exact ht.gated q gate hold

/-- A mark for removal. -/
theorem Timed.mark {now : Msec} (ht : t.Timed now) {who : CounterId} (hw : t.Mapped who)
    (hne : .system ≠ who) (time : Msec) : (t.applyCall who (.markForRemoval time)).Timed now := by
  have hcounter := counter_applyCall (t := t) who (by rintro i rfl; exact hw)
    (.markForRemoval time)
  refine ⟨?_, fun q => ?_, fun q hq => ?_, fun q gate hgate => ?_⟩
  · rw [hcounter, if_neg hne]
    exact ht.system
  · rw [hcounter]
    split
    · exact (ht.wellTimed who).call _
    · exact ht.wellTimed q
  · rw [hcounter]
    split
    · change ((t.counter who).markForRemoval time).timeWindowStart ≤ now
      rw [(TrafficCounter.recent_mark time).2.1]
      exact ht.started who hw
    · exact ht.started q ((mapped_applyCall who q _).mp hq)
  · have hold := gates_applyCall hgate
    rw [hcounter, hcounter]
    by_cases hq : q = who
    · rw [if_pos hq, if_neg (hq ▸ hold.ne.symm)]
      exact (hq ▸ ht.gated q gate hold).mark time
    · rw [if_neg hq]
      split
      · rename_i hg
        exact (hg ▸ ht.gated q gate hold).mark_gate time
      · exact ht.gated q gate hold

/-! ## Changes of the tree -/

theorem Fresh.wellTimed {now : Msec} {c : TrafficCounter TrafficItem} (h : Fresh now c) :
    c.WellTimed := by
  obtain ⟨itemId, rfl⟩ := h
  exact .new now rfl rfl

theorem Fresh.started {now : Msec} {c : TrafficCounter TrafficItem} (h : Fresh now c) :
    c.timeWindowStart = now := by
  obtain ⟨itemId, rfl⟩ := h
  rfl

theorem Fresh.gatedBy {now : Msec} {c : TrafficCounter TrafficItem} (h : Fresh now c)
    (g : TrafficCounter TrafficItem) : GatedBy c g := by
  obtain ⟨itemId, rfl⟩ := h
  refine .of_quiet (TrafficCounter.not_hasRecent_new now _) ?_
  rintro (hspeed | hspeed) <;> exact hspeed rfl

/-- Carrying counters over keeps them timed. -/
theorem Timed.carried {now time : Msec} {t' : CounterTree} (ht : t.Timed now) (hnow : now ≤ time)
    (h : t.Carries time t') : t'.Timed time := by
  refine ⟨h.system ▸ ht.system, fun who => ?_, fun who hw => ?_, fun who gate hgate => ?_⟩
  · rcases h.counter who with he | hfresh
    · rw [he]
      exact ht.wellTimed who
    · exact hfresh.wellTimed
  · rcases h.mapped who hw with ⟨hw', he⟩ | hfresh
    · rw [he]
      exact Int.le_trans (ht.started who hw') hnow
    · exact Int.le_of_eq hfresh.started
  · cases hgate with
    | system hw hne =>
      rcases h.mapped who hw with ⟨hw', he⟩ | hfresh
      · rw [he, h.system]
        exact ht.gated who .system (.system hw' hne)
      · exact hfresh.gatedBy _
    | socket hu =>
      rcases h.tuples _ _ hu with ⟨hu', he, he'⟩ | hfresh
      · rw [he, he']
        exact ht.gated _ _ (.socket hu')
      · exact hfresh.gatedBy _

theorem Carries.refl (now : Msec) (t : CounterTree) : t.Carries now t where
  system := rfl
  counter _ := .inl rfl
  mapped _ hw := .inl ⟨hw, rfl⟩
  tuples _ _ hu := .inl ⟨hu, rfl, rfl⟩

theorem Carries.trans {now : Msec} {t₁ t₂ : CounterTree} (h₁ : t.Carries now t₁)
    (h₂ : t₁.Carries now t₂) : t.Carries now t₂ where
  system := h₂.system.trans h₁.system
  counter who := by
    rcases h₂.counter who with he | hfresh
    · rw [he]
      exact h₁.counter who
    · exact .inr hfresh
  mapped who hw := by
    rcases h₂.mapped who hw with ⟨hw', he⟩ | hfresh
    · rw [he]
      exact h₁.mapped who hw'
    · exact .inr hfresh
  tuples r u hu := by
    rcases h₂.tuples r u hu with ⟨hu', he, he'⟩ | hfresh
    · rw [he, he']
      exact h₁.tuples r u hu'
    · exact .inr hfresh

/-- The maps lose entries, the counters stay as they are. -/
theorem Carries.of_counter_eq {t' : CounterTree} (now : Msec)
    (hcounter : t'.counter = t.counter) (hmapped : ∀ who, t'.Mapped who → t.Mapped who)
    (htuples : ∀ r u, t'.TupleOf r u → t.TupleOf r u) : t.Carries now t' where
  system := by rw [hcounter]
  counter who := .inl (by rw [hcounter])
  mapped who hw := .inl ⟨hmapped who hw, by rw [hcounter]⟩
  tuples r u hu := .inl ⟨htuples r u hu, by rw [hcounter], by rw [hcounter]⟩

/-- One counter is new, and the others stay as they are. -/
theorem Carries.of_new {now : Msec} {t' : CounterTree} (new : CounterId) (hnew : new ≠ .system)
    (hfresh : Fresh now (t'.counter new))
    (hcounter : ∀ who, who ≠ new → t'.counter who = t.counter who)
    (hmapped : ∀ who, who ≠ new → t'.Mapped who → t.Mapped who)
    (htuples : ∀ r u, .tuple u ≠ new → t'.TupleOf r u → t.TupleOf r u ∧ .socket r ≠ new) :
    t.Carries now t' where
  system := hcounter _ hnew.symm
  counter who := by
    by_cases h : who = new
    · exact .inr (h ▸ hfresh)
    · exact .inl (hcounter who h)
  mapped who hw := by
    by_cases h : who = new
    · exact .inr (h ▸ hfresh)
    · exact .inl ⟨hmapped who h hw, hcounter who h⟩
  tuples r u hu := by
    by_cases h : .tuple u = new
    · exact .inr (h ▸ hfresh)
    · obtain ⟨hu', hr⟩ := htuples r u h hu
      exact .inl ⟨hu', hcounter _ h, hcounter _ hr⟩

/-- A change of an application that leaves its counter alone. -/
theorem counter_modifyApp {r : Ref} {f : AppCounter → AppCounter}
    (hf : (f (t.app r)).plain = (t.app r).plain) : (t.modifyApp r f).counter = t.counter := by
  funext who
  cases who with
  | app q =>
    simp only [counter, modifyApp, Function.update_apply]
    split
    · rename_i hq
      rw [hq, hf]
    · rfl
  | _ => rfl

theorem counter_modifyProcess {r : Ref} {f : ProcessCounter → ProcessCounter}
    (hf : (f (t.process r)).plain = (t.process r).plain) :
    (t.modifyProcess r f).counter = t.counter := by
  funext who
  cases who with
  | process q =>
    simp only [counter, modifyProcess, Function.update_apply]
    split
    · rename_i hq
      rw [hq, hf]
    · rfl
  | _ => rfl

theorem counter_modifySocket {r : Ref} {f : SocketCounter → SocketCounter}
    (hf : (f (t.socket r)).plain = (t.socket r).plain) :
    (t.modifySocket r f).counter = t.counter := by
  funext who
  cases who with
  | socket q =>
    simp only [counter, modifySocket, Function.update_apply]
    split
    · rename_i hq
      rw [hq, hf]
    · rfl
  | _ => rfl

/-- What a map holds besides a new entry it held before. -/
theorem lookup_of_update {K : Type} [DecidableEq K] {f : K → Option Ref} {k q : K} {new r : Ref}
    (h : Function.update f k (some new) q = some r) (hne : r ≠ new) : f q = some r := by
  rw [Function.update_apply] at h
  split at h
  · exact absurd (Option.some.inj h).symm hne
  · exact h

theorem counter_addApp (now : Msec) (key commandLine appName : String) {who : CounterId}
    (hne : who ≠ .app t.nextItemId) :
    (t.addApp now key commandLine appName).counter who = t.counter who := by
  cases who <;> simp_all [counter, addApp, registerApp, editSystemApplications]
  rfl

theorem carries_addApp (now : Msec) (key commandLine appName : String) :
    t.Carries now (t.addApp now key commandLine appName) := by
  refine .of_new (.app t.nextItemId) nofun ⟨t.nextItemId, ?_⟩
    (fun who hne => counter_addApp now key commandLine appName hne)
    (fun who hne hw => ?_) (fun r u _ hu => ⟨?_, nofun⟩)
  · simp [counter, addApp, registerApp, editSystemApplications]
    rfl
  · cases who with
    | app r =>
      obtain ⟨k, hk⟩ := hw
      rw [shape_addApp] at hk
      exact ⟨k, lookup_of_update hk fun h => hne (by rw [h]; rfl)⟩
    | system | filter _ => exact hw
    | _ => simpa [Mapped, TupleOf, TreeShape.addApp, TreeShape.registerApp] using hw
  · simpa [TupleOf, TreeShape.addApp, TreeShape.registerApp] using hu

theorem counter_upgradeApp (existingKey key commandLine appName : String) (a : Ref) :
    (t.upgradeApp existingKey key commandLine appName a).counter = t.counter := by
  have hedit := counter_modifyApp (t := t.editSystemApplications (·.erase existingKey)) (r := a)
    (f := fun app => { app with trafficItem := { app.trafficItem with
      applicationPath := key
      applicationCommandLine := if commandLine = "" then app.trafficItem.applicationCommandLine
        else commandLine
      applicationName := if appName = "" then app.trafficItem.applicationName else appName } }) rfl
  funext who
  have he := congrFun hedit who
  cases who <;> exact he

theorem carries_upgradeApp (now : Msec) {existingKey : String} (key commandLine appName : String)
    {a : Ref} (ha : t.shape.apps existingKey = some a) :
    t.Carries now (t.upgradeApp existingKey key commandLine appName a) := by
  refine .of_counter_eq now (counter_upgradeApp existingKey key commandLine appName a)
    (fun who hw => ?_) (fun r u hu => ?_)
  · cases who with
    | app r =>
      obtain ⟨k, hk⟩ := hw
      rw [shape_upgradeApp] at hk
      simp only [TreeShape.upgradeApp] at hk
      split at hk
      · exact ⟨existingKey, ha.trans hk⟩
      · split at hk
        · cases hk
        · exact ⟨k, hk⟩
    | system | filter _ => exact hw
    | _ => simpa [Mapped, TupleOf, TreeShape.upgradeApp] using hw
  · simpa [TupleOf, TreeShape.upgradeApp] using hu

theorem counter_addProcess (now : Msec) (pid : ProcessId) (a : Ref) {who : CounterId}
    (hne : who ≠ .process t.nextItemId) : (t.addProcess now pid a).counter who = t.counter who := by
  have he := congrFun (counter_modifyApp (t := t) (r := a) (f := fun app => { app with
    trafficItem := { app.trafficItem with
      processes := app.trafficItem.processes.insert pid t.nextItemId } }) rfl) who
  cases who with
  | process r =>
    refine Eq.trans (congrArg (fun p : ProcessCounter => p.plain) ?_) he
    exact Function.update_of_ne (fun h => hne (congrArg CounterId.process h)) _ _
  | _ => exact he

theorem carries_addProcess (now : Msec) (pid : ProcessId) (a : Ref) :
    t.Carries now (t.addProcess now pid a) := by
  refine .of_new (.process t.nextItemId) nofun ⟨t.nextItemId, ?_⟩
    (fun who hne => counter_addProcess now pid a hne)
    (fun who hne hw => ?_) (fun r u _ hu => ⟨?_, nofun⟩)
  · simp [counter, addProcess, editApp, modifyApp]
    rfl
  · cases who with
    | process r =>
      obtain ⟨q, hq⟩ := hw
      rw [shape_addProcess] at hq
      exact ⟨q, lookup_of_update hq fun h => hne (by rw [h]; rfl)⟩
    | system | filter _ => exact hw
    | _ => simpa [Mapped, TupleOf, TreeShape.addProcess] using hw
  · simpa [TupleOf, TreeShape.addProcess] using hu

theorem counter_addSocket (now : Msec) (c : SocketCookie) (p : Ref) {who : CounterId}
    (hne : who ≠ .socket t.nextItemId) : (t.addSocket now c p).counter who = t.counter who := by
  have he := congrFun (counter_modifyProcess (t := t) (r := p) (f := fun process =>
    { process with trafficItem := { process.trafficItem with
      sockets := process.trafficItem.sockets.insert c t.nextItemId } }) rfl) who
  cases who with
  | socket r =>
    refine Eq.trans (congrArg (fun q : SocketCounter => q.plain) ?_) he
    exact Function.update_of_ne (fun h => hne (congrArg CounterId.socket h)) _ _
  | _ => exact he

theorem carries_addSocket (now : Msec) (c : SocketCookie) (p : Ref) :
    t.Carries now (t.addSocket now c p) := by
  have htuple : ∀ r u, (t.addSocket now c p).TupleOf r u →
      t.TupleOf r u ∧ CounterId.socket r ≠ .socket t.nextItemId := by
    rintro r u ⟨⟨d, hd⟩, e, he⟩
    rw [shape_addSocket] at hd he
    simp only [TreeShape.addSocket] at hd he
    have hne : r ≠ t.nextItemId := fun h => absurd he (by simp [h, shape])
    have he' : t.shape.sockTuples r e = some u := by
      split at he
      · cases he
      · exact he
    exact ⟨⟨⟨d, lookup_of_update hd hne⟩, e, he'⟩, fun h => hne (CounterId.socket.inj h)⟩
  refine .of_new (.socket t.nextItemId) (by rintro ⟨⟩) ⟨t.nextItemId, ?_⟩
    (fun who hne => counter_addSocket now c p hne)
    (fun who hne hw => ?_) (fun r u _ hu => htuple r u hu)
  · simp [counter, addSocket, editProcess, modifyProcess]
    rfl
  · cases who with
    | socket r =>
      obtain ⟨d, hd⟩ := hw
      rw [shape_addSocket] at hd
      exact ⟨d, lookup_of_update hd fun h => hne (by rw [h]; rfl)⟩
    | tuple u =>
      obtain ⟨r, hu⟩ := hw
      exact ⟨r, (htuple r u hu).1⟩
    | system | filter _ => exact hw
    | _ => simpa [Mapped, TreeShape.addSocket] using hw

theorem counter_addTuple (now : Msec) (r : Ref) (e : Endpoint) {who : CounterId}
    (hne : who ≠ .tuple t.nextItemId) : (t.addTuple now r e).counter who = t.counter who := by
  have he := congrFun (counter_modifySocket (t := t) (r := r) (f := fun socket => { socket with
    udpPerConnectionCounters := socket.udpPerConnectionCounters.insert e t.nextItemId
    trafficItem := { socket.trafficItem with
      udpPerConnectionTraffic := socket.trafficItem.udpPerConnectionTraffic ++
        [t.nextItemId] } }) rfl) who
  cases who with
  | tuple u =>
    refine Eq.trans (congrArg (fun q : TupleCounter => q.plain) ?_) he
    exact Function.update_of_ne (fun h => hne (congrArg CounterId.tuple h)) _ _
  | _ => exact he

theorem carries_addTuple (now : Msec) (r : Ref) (e : Endpoint) :
    t.Carries now (t.addTuple now r e) := by
  have htuple : ∀ q u, u ≠ t.nextItemId → (t.addTuple now r e).TupleOf q u → t.TupleOf q u := by
    rintro q u hne ⟨hq, f, hf⟩
    rw [shape_addTuple] at hq hf
    simp only [TreeShape.addTuple] at hq hf
    split at hf
    · exact absurd (Option.some.inj hf).symm hne
    · exact ⟨hq, f, hf⟩
  refine .of_new (.tuple t.nextItemId) (by rintro ⟨⟩) ⟨t.nextItemId, ?_⟩
    (fun who hne => counter_addTuple now r e hne)
    (fun who hne hw => ?_)
    (fun q u hne hu => ⟨htuple q u (fun h => hne (h ▸ rfl)) hu, by rintro ⟨⟩⟩)
  · simp [counter, addTuple, modifySocket]
    rfl
  · cases who with
    | tuple u =>
      obtain ⟨q, hu⟩ := hw
      exact ⟨q, htuple q u (fun h => hne (h ▸ rfl)) hu⟩
    | system | filter _ => exact hw
    | _ => simpa [Mapped, TreeShape.addTuple] using hw

/-- An edit of a socket that leaves its keys and its bytes alone. -/
theorem counter_editSocket {r : Ref} {f : SocketItem → SocketItem}
    (hf : (f (t.socket r).trafficItem).toTrafficItem = (t.socket r).trafficItem.toTrafficItem) :
    (t.editSocket r f).counter = t.counter := by
  refine counter_modifySocket ?_
  unfold TrafficCounter.plain
  simp only [IsTrafficItem.base, hf]

theorem carries_editSocket (now : Msec) {r : Ref} {f : SocketItem → SocketItem}
    (hf : (f (t.socket r).trafficItem).toTrafficItem = (t.socket r).trafficItem.toTrafficItem)
    (hkeys : t.KeepsSocketKeys r f) : t.Carries now (t.editSocket r f) := by
  have hshape := shape_editSocket t hkeys
  refine .of_counter_eq now (counter_editSocket hf) (fun who hw => ?_) (fun q u hu => ?_)
  · cases who with
    | system | filter _ => exact hw
    | _ =>
      simp only [Mapped, TupleOf] at hw ⊢
      rwa [hshape] at hw
  · unfold TupleOf at hu ⊢
    rwa [hshape] at hu

end CounterTree

namespace SystemMap

variable {σ : Type} {h : Handler σ} {s : SystemMap σ} {now : Msec}

/-! ## Mapping -/

theorem carries_findOrMapApplication (o : IterOrder) (now : Msec)
    (exePath commandLine appName : String) (s : SystemMap σ) :
    s.Carries now (findOrMapApplication h o now exePath commandLine appName s).2.toCounterTree := by
  rcases findOrMapApplication_cases (h := h) o now exePath commandLine appName s with
    ⟨k, hk, he⟩ | ⟨k, hk, -, he⟩ | ⟨-, -, he⟩
  · rw [he]
    exact .refl now _
  · rw [he]
    exact CounterTree.carries_upgradeApp now _ commandLine appName hk
  · rw [he]
    exact CounterTree.carries_addApp now _ commandLine appName

theorem carries_findOrMapProcess (now : Msec) (pid : ProcessId) (a : Ref) (s : SystemMap σ) :
    s.Carries now (findOrMapProcess h now pid a s).2.toCounterTree := by
  unfold findOrMapProcess
  split
  · exact .refl now _
  · exact CounterTree.carries_addProcess now pid a

theorem carries_findOrMapSocket (now : Msec) (cookie : SocketCookie) (p : Ref) (s : SystemMap σ) :
    s.Carries now (findOrMapSocket now cookie p s).2.toCounterTree := by
  unfold findOrMapSocket
  split
  · exact .refl now _
  · exact CounterTree.carries_addSocket now cookie p

/-- **Mapping a socket leaves the counters that are there alone.** -/
theorem carries_mapSocket (env : MapEnv) (cookie : SocketCookie) (established : Bool)
    (pid : ProcessId) (silentFail : Bool) (s : SystemMap σ) :
    s.Carries env.now
      (mapSocket h env cookie established pid silentFail s).2.toCounterTree := by
  unfold mapSocket
  split
  · exact .refl _ _
  · split
    · split <;> exact .refl _ _
    · split
      · exact .refl _ _
      · have happ := carries_findOrMapApplication (h := h) env.order env.now
          (processIdentity (env.procInfo pid)).1 (processIdentity (env.procInfo pid)).2.1
          (processIdentity (env.procInfo pid)).2.2 s
        exact (happ.trans (carries_findOrMapProcess env.now pid _ _)).trans
          (carries_findOrMapSocket env.now cookie _ _)

theorem carries_editSocket (now : Msec) {r : Ref} {f : SocketItem → SocketItem} {s : SystemMap σ}
    (hf : (f (s.socket r).trafficItem).toTrafficItem = (s.socket r).trafficItem.toTrafficItem)
    (hkeys : s.toCounterTree.KeepsSocketKeys r f) :
    s.Carries now (modify (·.editSocket r f) s).toCounterTree :=
  CounterTree.carries_editSocket now hf hkeys

theorem carries_mapSocketFromTrafficEvent (env : TrafficEnv) (cookie : SocketCookie)
    (d : PacketDirection) (header : Option PacketHeader) (s : SystemMap σ) :
    s.Carries env.now (mapSocketFromTrafficEvent h env cookie d header s).2.toCounterTree := by
  unfold mapSocketFromTrafficEvent
  split
  · exact .refl _ _
  · simp only
    split
    · exact .refl _ _
    · rename_i header hpid
      have hmapped := carries_mapSocket (h := h) env.toMapEnv cookie false
        (env.endpointPID (header.local d)) false s
      split
      · exact hmapped
      · exact hmapped.trans (carries_editSocket env.now rfl ⟨rfl, rfl, rfl⟩)

/-! ## Traffic -/

/-- Bytes are pushed, and the system and the socket have got them already. -/
structure Pushing (now : Msec) (bytes : WBytes) (r : Ref) (s : SystemMap σ) : Prop where
  inv : s.Inv
  timed : s.Timed now
  mapped : s.Mapped (.socket r)
  system : (s.counter .system).JustPushed bytes
  socket : (s.counter (.socket r)).JustPushed bytes

theorem isPush_pushCall (d : PacketDirection) (bytes : WBytes) :
    (pushCall d bytes).IsPush bytes := by
  cases d with
  | incoming => exact .incoming
  | outgoing => exact .outgoing

theorem toCounterTree_call (who : CounterId) (cc : CounterCall) (s : SystemMap σ) :
    (call h who cc s).toCounterTree = s.applyCall who cc := rfl

/-- What a push leaves of a push. -/
theorem justPushed_applyCall {who q : CounterId} (hw : s.Mapped who) {d : PacketDirection}
    {bytes : WBytes} (hq : q ≠ who → (s.counter q).JustPushed bytes) :
    ((s.applyCall who (pushCall d bytes)).counter q).JustPushed bytes := by
  rw [CounterTree.counter_applyCall _ (by rintro i rfl; exact hw)]
  split
  · exact TrafficCounter.justPushed_call (isPush_pushCall d bytes)
  · rename_i hne
    exact hq hne

/-- The push on the system comes first. -/
theorem timed_pushSystem (ht : s.Timed now) (d : PacketDirection) (bytes : WBytes) :
    (call h .system (pushCall d bytes) s).Timed now :=
  ht.push (show s.Mapped .system from trivial) (isPush_pushCall d bytes)
    (id : bytes ≠ 0 → bytes ≠ 0) fun _ hgate => by
    cases hgate with
    | system hw hne => exact absurd rfl hne

/-- Then the one on the socket. -/
theorem pushing_socket (hs : s.Inv) (ht : s.Timed now) {bytes : WBytes}
    (hsystem : (s.counter .system).JustPushed bytes) {r : Ref} (hr : s.Mapped (.socket r))
    (d : PacketDirection) : Pushing now bytes r (call h (.socket r) (pushCall d bytes) s) where
  inv := hs.of_shape (shape_call h _ _ s)
  timed := ht.push hr (isPush_pushCall d bytes) id fun gate hgate => by
    cases hgate with
    | system hw hne => exact hsystem
  mapped := (CounterTree.mapped_applyCall _ _ _).mpr hr
  system := justPushed_applyCall hr fun _ => hsystem
  socket := justPushed_applyCall hr fun hne => absurd rfl hne

/-- **Every other push comes after them.** A tuple is gated by its own socket only. -/
theorem Pushing.call {bytes : WBytes} {r : Ref} (hp : Pushing now bytes r s) (who : CounterId)
    (hw : s.Mapped who) (hgates : ∀ q, s.Gates who (.socket q) → q = r) (d : PacketDirection) :
    Pushing now bytes r (call h who (pushCall d bytes) s) where
  inv := hp.inv.of_shape (shape_call h _ _ s)
  timed := hp.timed.push hw (isPush_pushCall d bytes) id fun gate hgate => by
    cases hgate with
    | system hw hne => exact hp.system
    | socket hu => exact (hgates _ (.socket hu)) ▸ hp.socket
  mapped := (CounterTree.mapped_applyCall _ _ _).mpr hp.mapped
  system := justPushed_applyCall hw fun _ => hp.system
  socket := justPushed_applyCall hw fun _ => hp.socket

theorem Pushing.pushFilters {bytes : WBytes} {r : Ref} (hp : Pushing now bytes r s)
    (d : PacketDirection) (remote : Endpoint) :
    Pushing now bytes r (pushFilters h d bytes remote s) := by
  unfold SystemMap.pushFilters
  refine (List.foldlRecOn (motive := fun s' : SystemMap σ => Pushing now bytes r s' ∧
    s'.filterCounters.length = s.filterCounters.length) _ _ ⟨hp, rfl⟩ ?_).1
  rintro s' ⟨hp', hlength⟩ i hi
  split
  · refine ⟨hp'.call (.filter i) ?_ nofun d, ?_⟩
    · change i < s'.filterCounters.length
      rw [hlength]
      exact List.mem_range.mp hi
    · rw [toCounterTree_call, CounterTree.length_filters_applyCall, hlength]
  · exact ⟨hp', hlength⟩

theorem Pushing.editSocket {bytes : WBytes} {r q : Ref} {f : SocketItem → SocketItem}
    (hp : Pushing now bytes r s)
    (hf : (f (s.socket q).trafficItem).toTrafficItem = (s.socket q).trafficItem.toTrafficItem)
    (hkeys : s.toCounterTree.KeepsSocketKeys q f) :
    Pushing now bytes r (modify (·.editSocket q f) s) := by
  have hshape := shape_editSocket hkeys
  have hcounter : (modify (·.editSocket q f) s).counter = s.counter :=
    CounterTree.counter_editSocket hf
  obtain ⟨c, hc⟩ := hp.mapped
  refine ⟨hp.inv.of_shape hshape, hp.timed.carried (Int.le_refl now)
    (carries_editSocket now hf hkeys), ⟨c, ?_⟩, ?_, ?_⟩
  · exact (congrFun (congrArg TreeShape.socks hshape) c).trans hc
  · rw [hcounter]
    exact hp.system
  · rw [hcounter]
    exact hp.socket

/-- The socket, its process and its application get the bytes. -/
theorem pushing_pushTrafficForSocket (hs : s.Inv) (ht : s.Timed now) {bytes : WBytes}
    (hsystem : (s.counter .system).JustPushed bytes) {r : Ref} (hr : s.Mapped (.socket r))
    (d : PacketDirection) : Pushing now bytes r (pushTrafficForSocket h d bytes r s) := by
  obtain ⟨c, hc⟩ := hr
  have hparent := (hs.socket c r hc).parent
  have happ := (hs.process _ _ hparent).parent
  have hsocket := pushing_socket (h := h) hs ht hsystem ⟨c, hc⟩ d
  have hprocess := hsocket.call (h := h) (.process (s.socket r).parentProcess)
    ⟨_, by rw [shape_toCounterTree, shape_call]; exact hparent⟩ nofun d
  have hpushed := hprocess.call (h := h) (.app (s.process (s.socket r).parentProcess).parentApp)
    ⟨_, by rw [shape_toCounterTree, shape_call, shape_call]; exact happ⟩ nofun d
  unfold pushTrafficForSocket
  exact (hpushed.pushFilters d _).editSocket rfl ⟨rfl, rfl, rfl⟩

theorem Pushing.getOrCreateUDPTupleCounter {bytes : WBytes} {r : Ref} (hp : Pushing now bytes r s)
    (endpoint : Endpoint) :
    let out := getOrCreateUDPTupleCounter h now r endpoint s
    Pushing now bytes r out.2 ∧ out.2.TupleOf r out.1 := by
  obtain ⟨c, hc⟩ := hp.mapped
  unfold SystemMap.getOrCreateUDPTupleCounter
  split
  · rename_i u hu
    exact ⟨hp, ⟨c, hc⟩, endpoint, hu⟩
  · rename_i hnone
    have hcounter (who : CounterId) (hne : who ≠ .tuple s.nextItemId) :=
      CounterTree.counter_addTuple now r endpoint hne
    have hshape : (modify (·.addTuple now r endpoint) s).shape = s.shape.addTuple r endpoint :=
      CounterTree.shape_addTuple _ _ _ _
    have hinv : (modify (·.addTuple now r endpoint) s).Inv := by
      unfold Inv
      rw [hshape]
      exact TreeShape.TreeInv.addTuple hp.inv hc hnone
    have hmapped : (modify (·.addTuple now r endpoint) s).Mapped (.socket r) :=
      ⟨c, (congrFun (congrArg TreeShape.socks hshape) c).trans hc⟩
    refine ⟨⟨hinv, hp.timed.carried (Int.le_refl now) (CounterTree.carries_addTuple now r endpoint),
      hmapped, ?_, ?_⟩, hmapped, endpoint, ?_⟩
    · exact (hcounter .system nofun) ▸ hp.system
    · exact (hcounter (.socket r) nofun) ▸ hp.socket
    · change (modify (·.addTuple now r endpoint) s).shape.sockTuples r endpoint = _
      rw [hshape]
      exact if_pos ⟨rfl, rfl⟩

/-- The socket of a tuple in the maps. -/
theorem Inv.tupleOf_unique (hs : s.Inv) {r q u : Ref} (hr : s.TupleOf r u) (hq : s.TupleOf q u) :
    q = r := by
  obtain ⟨⟨c, hc⟩, e, he⟩ := hr
  obtain ⟨⟨d, hd⟩, f, hf⟩ := hq
  rw [← (hs.tuple c r hc e u he).parent, ← (hs.tuple d q hd f u hf).parent]

theorem Pushing.pushTuple {bytes : WBytes} {r : Ref} (hp : Pushing now bytes r s)
    (d : PacketDirection) (remote : Endpoint) :
    Pushing now bytes r (pushTuple h now d bytes remote r s) := by
  obtain ⟨hcreated, hu⟩ := hp.getOrCreateUDPTupleCounter (h := h) remote
  have htuple := hcreated.call (h := h) (.tuple _) ⟨r, hu⟩ (fun q hgate => by
    cases hgate with
    | socket hq => exact hcreated.inv.tupleOf_unique hu hq) d
  have hpushed := htuple.pushFilters (h := h) d remote
  unfold SystemMap.pushTuple
  simp only
  split
  · exact hpushed
  · exact ⟨hpushed.inv, hpushed.timed, hpushed.mapped, hpushed.system, hpushed.socket⟩

theorem timed_doPacketParsing {env : TrafficEnv} {bytes : WBytes} {r : Ref}
    (hp : Pushing env.now bytes r s) (d : PacketDirection) (header : Option PacketHeader) :
    (doPacketParsing h env d bytes header r s).Timed env.now := by
  unfold doPacketParsing
  simp only
  split
  · exact hp.timed
  · split
    · exact hp.timed
    · rename_i header
      have hedit : Pushing env.now bytes r (modify (·.editSocket r fun _ =>
          (applyPacketHeader env d header (s.socket r).trafficItem).1) s) :=
        hp.editSocket rfl ⟨rfl, rfl, rfl⟩
      have htuple := hedit.pushTuple (h := h) d (header.remote d)
      split <;> split
      · exact htuple.timed
      · exact hedit.timed
      · exact htuple.timed
      · exact hedit.timed

/-- The bytes of an event, for a socket that is mapped. -/
theorem timed_pushTraffic (hs : s.Inv) {env : TrafficEnv} (ht : s.Timed env.now) {bytes : WBytes}
    (hsystem : (s.counter .system).JustPushed bytes) {cookie : SocketCookie} {r : Ref}
    (hr : s.shape.socks cookie = some r) (d : PacketDirection) (header : Option PacketHeader) :
    (doPacketParsing h env d bytes header r (pushTrafficForSocket h d bytes r s)).Timed env.now :=
  timed_doPacketParsing (pushing_pushTrafficForSocket hs ht hsystem ⟨cookie, hr⟩ d) d header

/-- The system after its push. -/
theorem pushedSystem (hs : s.Inv) (ht : s.Timed now) (d : PacketDirection) (bytes : WBytes) :
    (call h .system (pushCall d bytes) s).Inv ∧ (call h .system (pushCall d bytes) s).Timed now ∧
      ((call h .system (pushCall d bytes) s).counter .system).JustPushed bytes :=
  ⟨hs.of_shape (shape_call h _ _ s), timed_pushSystem ht d bytes,
    justPushed_applyCall (show s.Mapped .system from trivial) fun hne => absurd rfl hne⟩

theorem timed_pushIncomingTraffic (hs : s.Inv) (env : TrafficEnv) (ht : s.Timed env.now)
    (cookie : SocketCookie) (bytes : WBytes) (header : Option PacketHeader) :
    (pushIncomingTraffic h env cookie bytes header s).Timed env.now := by
  obtain ⟨hinv, htimed, hsystem⟩ := pushedSystem (h := h) hs ht .incoming bytes
  unfold pushIncomingTraffic
  simp only
  split
  · exact htimed
  · rename_i r hr
    exact timed_pushTraffic hinv htimed hsystem hr .incoming header

theorem timed_pushOutgoingTraffic (hs : s.Inv) (env : TrafficEnv) (ht : s.Timed env.now)
    (cookie : SocketCookie) (bytes : WBytes) (header : Option PacketHeader) :
    (pushOutgoingTraffic h env cookie bytes header s).Timed env.now := by
  obtain ⟨hinv, htimed, hsystem⟩ := pushedSystem (h := h) hs ht .outgoing bytes
  unfold pushOutgoingTraffic
  simp only [pushCall] at hinv htimed hsystem ⊢
  generalize call h .system (.pushOutgoingTraffic bytes) s = s1 at hinv htimed hsystem ⊢
  cases hl : s1.sockets.lookup cookie with
  | some r => exact timed_pushTraffic hinv htimed hsystem hl .outgoing header
  | none =>
    obtain ⟨hinv2, hlook⟩ := hinv.mapSocketFromTrafficEvent (h := h) env cookie .outgoing header
    have hcarries := carries_mapSocketFromTrafficEvent (h := h) env cookie .outgoing header s1
    have htimed2 := htimed.carried (Int.le_refl _) hcarries
    simp only
    split
    · exact htimed2
    · rename_i r hr
      exact timed_pushTraffic hinv2 htimed2 (hcarries.system ▸ hsystem) (hlook r hr) .outgoing
        header

/-- **A traffic event keeps the counters gated.** -/
theorem timed_updateData (hs : s.Inv) (env : TrafficEnv) (ht : s.Timed env.now)
    (cookie : SocketCookie) (pid : ProcessId) (d : PacketDirection) (bytes : WBytes)
    (header : Option PacketHeader) :
    let event : SocketEvent := { cookie := cookie, pid := pid, data := .traffic d bytes header }
    (updateData h env event s).Inv ∧ (updateData h env event s).Timed env.now := by
  have hinv := (hs.mapSocket (h := h) env.toMapEnv cookie false pid true).1
  have htimed := ht.carried (Int.le_refl _)
    (carries_mapSocket (h := h) env.toMapEnv cookie false pid true s)
  cases d with
  | incoming => exact ⟨hinv.pushIncomingTraffic env cookie bytes header,
      timed_pushIncomingTraffic hinv env htimed cookie bytes header⟩
  | outgoing => exact ⟨hinv.pushOutgoingTraffic env cookie bytes header,
      timed_pushOutgoingTraffic hinv env htimed cookie bytes header⟩

end SystemMap

end Waechter
