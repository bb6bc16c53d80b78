import Waechter.Daemon.GatedCounters

/-!
# Speed changes reach the clients

Once a second `PeriodicUpdatesThreadFunction` calls `RefreshAllTrafficCounters`, and when
`HasNewData` then says so the clients get what `GetUpdates` makes of the active counters.

* `refreshed_refreshCounters`: the loops refresh every counter in the maps, and no other one.
* `Cleaned.cleanup`: what was active stays active in `Cleanup`, unless it is marked or removed.
* `speeds_published`: when a tick changes a speed of an item that is still there, the clients get
  it.
* `speeds_missed_stopped`: an application that is removed on that tick is not reported.
-/

namespace Waechter

open Lib

open TrafficCounter (WellTimed GatedBy JustPushed)

namespace SystemMap

variable {σ : Type} {h : Handler σ} {s : SystemMap σ} {now : Msec}

/-! ## Refresh -/

/-- What a refresh at `now` makes of a counter: `WTupleCounter` also marks a tuple that is quiet. -/
def ticked (now : Msec) : CounterId → TrafficCounter TrafficItem → TrafficCounter TrafficItem
  | .tuple _, c =>
    let c := c.refresh now
    if c.state ≠ .pendingRemoval ∧ 5 ≤ c.inactiveCounter then c.markForRemoval now else c
  | _, c => c.refresh now

theorem ticked_ticked (now : Msec) (q : CounterId) (c : TrafficCounter TrafficItem) :
    ticked now q (ticked now q c) = ticked now q c := by
  cases q with
  | tuple u =>
    simp only [ticked]
    split
    · rename_i hquiet
      have hpending := (TrafficCounter.recent_mark (c := c.refresh now) now).2.2
      rw [TrafficCounter.refresh_markForRemoval hquiet.1, if_neg fun hopen => hopen.1 hpending]
    · rename_i hquiet
      rw [TrafficCounter.refresh_refresh, if_neg hquiet]
  | _ => exact TrafficCounter.refresh_refresh c now

/-- Exactly the counters in `A` are refreshed. -/
structure Refreshed (now : Msec) (A : CounterId → Prop) (s s' : SystemMap σ) : Prop where
  shape : s'.shape = s.shape
  filters : s'.filterCounters.length = s.filterCounters.length
  refreshed : ∀ q, A q → s'.counter q = ticked now q (s.counter q)
  left : ∀ q, ¬A q → s'.counter q = s.counter q

theorem Refreshed.trans {A B : CounterId → Prop} {s₁ s₂ s₃ : SystemMap σ}
    (hA : Refreshed now A s₁ s₂) (hB : Refreshed now B s₂ s₃) :
    Refreshed now (fun q => A q ∨ B q) s₁ s₃ where
  shape := hB.shape.trans hA.shape
  filters := hB.filters.trans hA.filters
  refreshed q hq := by
    by_cases hb : B q
    · rw [hB.refreshed q hb]
      by_cases ha : A q
      · rw [hA.refreshed q ha, ticked_ticked]
      · rw [hA.left q ha]
    · rw [hB.left q hb, hA.refreshed q (hq.resolve_right hb)]
  left q hq := by
    rw [hB.left q fun hb => hq (.inr hb), hA.left q fun ha => hq (.inl ha)]

theorem Refreshed.congr {A B : CounterId → Prop} {s₁ s₂ : SystemMap σ}
    (hA : Refreshed now A s₁ s₂) (hAB : ∀ q, A q ↔ B q) : Refreshed now B s₁ s₂ where
  shape := hA.shape
  filters := hA.filters
  refreshed q hq := hA.refreshed q ((hAB q).mpr hq)
  left q hq := hA.left q fun ha => hq ((hAB q).mp ha)

/-- A loop refreshes what its turns refresh. -/
theorem Refreshed.foldl {α : Type} {f : SystemMap σ → α → SystemMap σ}
    {A : α → CounterId → Prop} : ∀ (l : List α) (s : SystemMap σ),
    (∀ a ∈ l, ∀ s' : SystemMap σ, s'.shape = s.shape →
      s'.filterCounters.length = s.filterCounters.length → Refreshed now (A a) s' (f s' a)) →
    Refreshed now (fun q => ∃ a ∈ l, A a q) s (l.foldl f s)
  | [], s, _ => ⟨rfl, rfl, fun _ ⟨_, ha, _⟩ => absurd ha List.not_mem_nil, fun _ _ => rfl⟩
  | a :: l, s, hf => by
    have hfirst := hf a List.mem_cons_self s rfl rfl
    have hrest := Refreshed.foldl l (f s a) fun b hb s' hshape hfilters =>
      hf b (List.mem_cons_of_mem a hb) s' (hshape.trans hfirst.shape)
        (hfilters.trans hfirst.filters)
    exact (hfirst.trans hrest).congr fun q => by simp

theorem Refreshed.notified {A : CounterId → Prop} {n : Notice} {s' : SystemMap σ}
    (hA : Refreshed now A (notify h n s) s') : Refreshed now A s s' :=
  ⟨hA.shape, hA.filters, hA.refreshed, hA.left⟩

/-- The counters of applications, processes, sockets and filters, and the one of the system. -/
theorem refreshed_call (who : CounterId) (hw : ∀ i, who = .filter i → i < s.filterCounters.length)
    (hne : ∀ u, who ≠ .tuple u) :
    Refreshed now (fun q => who = q) s (call h who (.refresh now) s) where
  shape := shape_call h _ _ s
  filters := CounterTree.length_filters_applyCall _ _
  refreshed q hq := by
    subst hq
    rw [toCounterTree_call, CounterTree.counter_applyCall who hw, if_pos rfl]
    cases who with
    | tuple u => exact absurd rfl (hne u)
    | _ => rfl
  left q hq := by
    rw [toCounterTree_call, CounterTree.counter_applyCall who hw, if_neg (Ne.symm hq)]

section Refresh

variable (env : TickEnv) (henv : env.refreshTime = fun _ => now)

include henv

theorem refreshed_refreshTuple (u : Ref) (s : SystemMap σ) :
    Refreshed now (fun q => .tuple u = q) s (refreshTuple h env s u) := by
  have hcounter (s' : SystemMap σ) (cc : CounterCall) (q : CounterId) :=
    s'.toCounterTree.counter_applyCall (.tuple u) nofun cc q
  have hfilters (s' : SystemMap σ) (cc : CounterCall) :=
    CounterTree.length_filters_applyCall (t := s'.toCounterTree) (.tuple u) cc
  unfold refreshTuple
  simp only [henv]
  set s1 := call h (.tuple u) (.refresh now) s with hs1
  have hrefreshed : s1.counter (.tuple u) = (s.counter (.tuple u)).refresh now := by
    rw [hs1, toCounterTree_call, hcounter, if_pos rfl]
    rfl
  have hleft (q : CounterId) (hq : ¬CounterId.tuple u = q) : s1.counter q = s.counter q := by
    rw [hs1, toCounterTree_call, hcounter, if_neg (Ne.symm hq)]
  split
  · rename_i hquiet
    change (s1.counter (.tuple u)).state ≠ .pendingRemoval ∧
      5 ≤ (s1.counter (.tuple u)).inactiveCounter at hquiet
    refine ⟨(shape_call h _ _ _).trans (shape_call h _ _ _), (hfilters s1 _).trans (hfilters s _),
      fun q hq => ?_, fun q hq => ?_⟩
    · subst hq
      rw [toCounterTree_call, hcounter, if_pos rfl, hrefreshed]
      rw [hrefreshed] at hquiet
      exact (if_pos hquiet).symm
    · rw [toCounterTree_call, hcounter, if_neg (Ne.symm hq), hleft q hq]
  · rename_i hquiet
    change ¬((s1.counter (.tuple u)).state ≠ .pendingRemoval ∧
      5 ≤ (s1.counter (.tuple u)).inactiveCounter) at hquiet
    refine ⟨shape_call h _ _ _, hfilters s _, fun q hq => ?_, hleft⟩
    subst hq
    rw [hrefreshed] at hquiet
    rw [hrefreshed]
    exact (if_neg hquiet).symm

theorem refreshed_refreshSocket (r : Ref) (s : SystemMap σ) :
    Refreshed now (fun q => .socket r = q ∨ ∃ u, (∃ e, s.shape.sockTuples r e = some u) ∧
      .tuple u = q) s (refreshSocket h env s r) := by
  unfold refreshSocket
  simp only [henv]
  set s1 := notify h (.updateAppStats r
    (s.app (s.process (s.socket r).parentProcess).parentApp).trafficItem.itemId
    (s.app (s.process (s.socket r).parentProcess).parentApp).trafficItem.applicationPath
    (s.socket r).trafficItem.socketTuple.remoteEndpoint.address (s.socket r).recentDownload
    (s.socket r).recentUpload) s with hs1
  have hcall : Refreshed now (fun q => .socket r = q) s (call h (.socket r) (.refresh now) s1) :=
    Refreshed.notified (refreshed_call (.socket r) nofun nofun)
  set s2 := call h (.socket r) (.refresh now) s1 with hs2
  have htuples := Refreshed.foldl (f := refreshTuple h env)
    (env.order.values (s2.socket r).udpPerConnectionCounters) s2
    fun u _ s' _ _ => refreshed_refreshTuple env henv u s'
  refine (hcall.trans htuples).congr fun q => ?_
  have hmem (u : Ref) : u ∈ env.order.values (s2.socket r).udpPerConnectionCounters ↔
      ∃ e, s.shape.sockTuples r e = some u := by
    rw [← hcall.shape]
    exact isTuplesOf_values env.order s2 r u
  simp only [hmem]

theorem refreshed_refreshFilter {i : Nat} {s : SystemMap σ} (hi : i < s.filterCounters.length) :
    Refreshed now (fun q => .filter i = q) s (refreshFilter h env s i) := by
  unfold refreshFilter
  rw [List.getElem?_eq_getElem hi]
  simp only [henv]
  refine Refreshed.notified (refreshed_call (.filter i) ?_ nofun)
  rintro j hj
  cases hj
  exact hi

/-- **A refresh of the map refreshes every counter in it**, and no other one. -/
theorem refreshed_refreshCounters (s : SystemMap σ) :
    Refreshed now s.Mapped s (refreshCounters h env s) := by
  have hsystem : Refreshed now (fun q => .system = q) s (call h .system (.refresh now) s) :=
    refreshed_call .system nofun nofun
  unfold refreshCounters
  simp only [henv]
  set s1 := call h .system (.refresh now) s with hs1
  have hfilters := hsystem.trans (Refreshed.foldl (A := fun i q => .filter i = q)
    (f := refreshFilter h env) (List.range s1.filterCounters.length) s1 fun i hi s' _ hlength =>
      refreshed_refreshFilter env henv (hlength ▸ List.mem_range.mp hi))
  set s2 := (List.range s1.filterCounters.length).foldl (refreshFilter h env) s1 with hs2
  have happs := hfilters.trans (Refreshed.foldl (A := fun a q => .app a = q)
    (f := fun s a => call h (.app a) (.refresh now) s) (env.order.values s2.applications) s2
      fun a _ s' _ _ => refreshed_call (.app a) nofun nofun)
  set s3 := (env.order.values s2.applications).foldl
    (fun s a => call h (.app a) (.refresh now) s) s2 with hs3
  have hprocs := happs.trans (Refreshed.foldl (A := fun p q => .process p = q)
    (f := fun s p => call h (.process p) (.refresh now) s) (env.order.values s3.processes) s3
      fun p _ s' _ _ => refreshed_call (.process p) nofun nofun)
  set s4 := (env.order.values s3.processes).foldl
    (fun s p => call h (.process p) (.refresh now) s) s3 with hs4
  have hsocks := hprocs.trans (Refreshed.foldl (A := fun r q => .socket r = q ∨
      ∃ u, (∃ e, s.shape.sockTuples r e = some u) ∧ .tuple u = q)
    (f := refreshSocket h env) (env.order.values s4.sockets) s4 fun r _ s' hshape _ => by
      rw [← hprocs.shape, ← hshape]
      exact refreshed_refreshSocket env henv r s')
  refine hsocks.congr fun q => ?_
  have hlength : s1.filterCounters.length = s.filterCounters.length := hsystem.filters
  have happ (r : Ref) : r ∈ env.order.values s2.applications ↔ ∃ k, s.shape.apps k = some r := by
    rw [← hfilters.shape]
    exact env.order.mem_values _ r
  have hproc (r : Ref) : r ∈ env.order.values s3.processes ↔ ∃ k, s.shape.procs k = some r := by
    rw [← happs.shape]
    exact env.order.mem_values _ r
  have hsock (r : Ref) : r ∈ env.order.values s4.sockets ↔ ∃ k, s.shape.socks k = some r := by
    rw [← hprocs.shape]
    exact env.order.mem_values _ r
  cases q <;> simp [CounterTree.Mapped, CounterTree.TupleOf, hlength, happ, hproc, hsock]

end Refresh

theorem Refreshed.mapped_iff {A : CounterId → Prop} {s s' : SystemMap σ}
    (hA : Refreshed now A s s') (q : CounterId) : s'.Mapped q ↔ s.Mapped q := by
  have hshape : s'.toCounterTree.shape = s.toCounterTree.shape := hA.shape
  cases q <;> simp only [CounterTree.Mapped, CounterTree.TupleOf, hshape, hA.filters]

theorem Refreshed.tupleOf_iff {A : CounterId → Prop} {s s' : SystemMap σ}
    (hA : Refreshed now A s s') (r u : Ref) : s'.TupleOf r u ↔ s.TupleOf r u := by
  have hshape : s'.toCounterTree.shape = s.toCounterTree.shape := hA.shape
  simp only [CounterTree.TupleOf, hshape]

theorem wellTimed_ticked {c : TrafficCounter TrafficItem} (hc : c.WellTimed) (now : Msec)
    (q : CounterId) : (ticked now q c).WellTimed := by
  have hrefresh : (c.refresh now).WellTimed := hc.call (.refresh now)
  cases q with
  | tuple u =>
    simp only [ticked]
    split
    · exact hrefresh.call (.markForRemoval now)
    · exact hrefresh
  | _ => exact hrefresh

theorem start_ticked_le {c : TrafficCounter TrafficItem} (hnow : c.timeWindowStart ≤ now)
    (q : CounterId) : (ticked now q c).timeWindowStart ≤ now := by
  have hrefresh := TrafficCounter.start_refresh_le hnow
  cases q with
  | tuple u =>
    simp only [ticked]
    split
    · rw [(TrafficCounter.recent_mark now).2.1]
      exact hrefresh
    · exact hrefresh
  | _ => exact hrefresh

theorem gatedBy_ticked {c g : TrafficCounter TrafficItem} (hgated : GatedBy c g) (hc : c.WellTimed)
    (hg : g.WellTimed) (hnow : c.timeWindowStart ≤ now) (q : CounterId) :
    GatedBy (ticked now q c) (g.refresh now) := by
  have hrefresh := hgated.refreshed hc hg hnow
  cases q with
  | tuple u =>
    simp only [ticked]
    split
    · exact hrefresh.mark now
    · exact hrefresh
  | _ => exact hrefresh

/-- The published speeds differ. -/
def SpeedsDiffer (c c' : TrafficCounter TrafficItem) : Prop :=
  c'.trafficItem.downloadSpeed ≠ c.trafficItem.downloadSpeed ∨
    c'.trafficItem.uploadSpeed ≠ c.trafficItem.uploadSpeed

/-- A tuple whose speeds change is not quiet, so it is not marked. -/
theorem speedsChange_of_ticked {c : TrafficCounter TrafficItem} (hc : c.WellTimed) {q : CounterId}
    (hdiffer : SpeedsDiffer c (ticked now q c)) :
    c.SpeedsChange now ∧ ticked now q c = c.refresh now := by
  cases q with
  | tuple u =>
    have hsame : ticked now (.tuple u) c = c.refresh now := by
      refine if_neg fun hquiet => ?_
      have hmarked : ticked now (.tuple u) c = (c.refresh now).markForRemoval now := if_pos hquiet
      have hspeed : ¬c.HasSpeed := fun hspeed =>
        absurd (UInt8.le_trans hquiet.2 (hc.counter_refresh_le hspeed now)) (by decide)
      have hspeed' : ¬(ticked now (.tuple u) c).HasSpeed := by
        refine (wellTimed_ticked hc now _).pending ?_
        rw [hmarked]
        exact (TrafficCounter.recent_mark now).2.2
      obtain ⟨hdown, hup⟩ := not_or.mp hspeed
      obtain ⟨hdown', hup'⟩ := not_or.mp hspeed'
      rcases hdiffer with hne | hne
      · exact hne ((not_not.mp hdown').trans (not_not.mp hdown).symm)
      · exact hne ((not_not.mp hup').trans (not_not.mp hup).symm)
    rw [hsame] at hdiffer
    exact ⟨hdiffer, hsame⟩
  | _ => exact ⟨hdiffer, rfl⟩

/-- **A refresh keeps the counters gated.** -/
theorem Refreshed.timed {s s' : SystemMap σ} {time : Msec} (ht : s.Timed time) (hnow : time ≤ now)
    (hrefreshed : Refreshed now s.Mapped s s') : s'.Timed now := by
  have hstart (q : CounterId) (hq : s.Mapped q) : (s.counter q).timeWindowStart ≤ now :=
    Int.le_trans (ht.started q hq) hnow
  have hgate {q gate : CounterId} (hgate : s'.Gates q gate) : s.Gates q gate ∧ s.Mapped gate ∧
      ∀ c : TrafficCounter TrafficItem, ticked now gate c = c.refresh now := by
    cases hgate with
    | system hw hne => exact ⟨.system ((hrefreshed.mapped_iff q).mp hw) hne, trivial, fun _ => rfl⟩
    | socket hu =>
      have hu' := (hrefreshed.tupleOf_iff _ _).mp hu
      exact ⟨.socket hu', hu'.1, fun _ => rfl⟩
  refine ⟨?_, fun q => ?_, fun q hq => ?_, fun q gate hg => ?_⟩
  · rw [hrefreshed.refreshed .system trivial]
    exact TrafficCounter.state_refresh_ne ht.system now
  · by_cases hq : s.Mapped q
    · rw [hrefreshed.refreshed q hq]
      exact wellTimed_ticked (ht.wellTimed q) now q
    · rw [hrefreshed.left q hq]
      exact ht.wellTimed q
  · have hq' := (hrefreshed.mapped_iff q).mp hq
    rw [hrefreshed.refreshed q hq']
    exact start_ticked_le (hstart q hq') q
  · obtain ⟨hg', hmapped, hsame⟩ := hgate hg
    rw [hrefreshed.refreshed q hg'.mapped, hrefreshed.refreshed gate hmapped, hsame]
    exact gatedBy_ticked (ht.gated q gate hg') (ht.wellTimed q) (ht.wellTimed gate)
      (hstart q hg'.mapped) q

/-- **When a refresh changes a speed, the counter is active and so is the one of the system.** -/
theorem Refreshed.active {s s' : SystemMap σ} {time : Msec} (ht : s.Timed time)
    (hrefreshed : Refreshed now s.Mapped s s') {q : CounterId} (hq : s.Mapped q)
    (hdiffer : SpeedsDiffer (s.counter q) (s'.counter q)) :
    (s'.counter q).state = .active ∧ (s'.counter .system).state = .active := by
  rw [hrefreshed.refreshed q hq] at hdiffer
  obtain ⟨hchange, hsame⟩ := speedsChange_of_ticked (ht.wellTimed q) hdiffer
  have hactive := (ht.wellTimed q).active_of_speedsChange hchange
  refine ⟨by rw [hrefreshed.refreshed q hq, hsame, hactive], ?_⟩
  rw [hrefreshed.refreshed .system trivial]
  by_cases hne : q = .system
  · rw [hne] at hactive
    exact hactive
  · exact (ht.gated q .system (.system hq hne)).active_of_speedsChange (ht.wellTimed q)
      (ht.wellTimed .system) ht.system hchange

/-- The socket of a tuple is active with it, if it is not pending removal. -/
theorem Refreshed.active_socket {s s' : SystemMap σ} {time : Msec} (ht : s.Timed time)
    (hrefreshed : Refreshed now s.Mapped s s') {r u : Ref} (hu : s.TupleOf r u)
    (hopen : (s'.counter (.socket r)).state ≠ .pendingRemoval)
    (hdiffer : SpeedsDiffer (s.counter (.tuple u)) (s'.counter (.tuple u))) :
    (s'.counter (.socket r)).state = .active := by
  rw [hrefreshed.refreshed (.tuple u) ⟨r, hu⟩] at hdiffer
  obtain ⟨hchange, -⟩ := speedsChange_of_ticked (ht.wellTimed _) hdiffer
  rw [hrefreshed.refreshed (.socket r) hu.1] at hopen ⊢
  refine (ht.gated (.tuple u) (.socket r) (.socket hu)).active_of_speedsChange (ht.wellTimed _)
    (ht.wellTimed _) (fun hp => hopen ?_) hchange
  exact (TrafficCounter.recent_refresh_pending hp now).2.2

end SystemMap

/-! ## Cleanup -/

namespace CounterTree

/-- The maps lose entries, and the counters stay as they are. -/
structure Shrinks (t t' : CounterTree) : Prop where
  counter : t'.counter = t.counter
  filters : t'.filterCounters = t.filterCounters
  apps : ∀ k a, t'.shape.apps k = some a → t.shape.apps k = some a
  procs : ∀ pid p, t'.shape.procs pid = some p → t.shape.procs pid = some p
  socks : ∀ c r, t'.shape.socks c = some r → t.shape.socks c = some r
  tuples : ∀ r e u, t'.shape.sockTuples r e = some u → t.shape.sockTuples r e = some u

theorem Shrinks.refl (t : CounterTree) : t.Shrinks t :=
  ⟨rfl, rfl, fun _ _ => id, fun _ _ => id, fun _ _ => id, fun _ _ _ => id⟩

theorem Shrinks.trans {t₁ t₂ t₃ : CounterTree} (h₁ : t₁.Shrinks t₂) (h₂ : t₂.Shrinks t₃) :
    t₁.Shrinks t₃ where
  counter := h₂.counter.trans h₁.counter
  filters := h₂.filters.trans h₁.filters
  apps k a h := h₁.apps k a (h₂.apps k a h)
  procs pid p h := h₁.procs pid p (h₂.procs pid p h)
  socks c r h := h₁.socks c r (h₂.socks c r h)
  tuples r e u h := h₁.tuples r e u (h₂.tuples r e u h)

theorem Shrinks.tupleOf {t t' : CounterTree} (h : t.Shrinks t') (r u : Ref)
    (hu : t'.TupleOf r u) : t.TupleOf r u := by
  obtain ⟨⟨c, hc⟩, e, he⟩ := hu
  exact ⟨⟨c, h.socks c r hc⟩, e, h.tuples r e u he⟩

theorem Shrinks.mapped {t t' : CounterTree} (h : t.Shrinks t') (q : CounterId)
    (hq : t'.Mapped q) : t.Mapped q := by
  cases q with
  | system => trivial
  | filter i =>
    change i < t.filterCounters.length
    rw [← h.filters]
    exact hq
  | app a => exact hq.imp fun k hk => h.apps k a hk
  | process p => exact hq.imp fun pid hp => h.procs pid p hp
  | socket r => exact hq.imp fun c hc => h.socks c r hc
  | tuple u => exact hq.imp fun r hr => h.tupleOf r u hr

theorem shrinks_eraseTrafficItem (i : TrafficItemId) (t : CounterTree) :
    t.Shrinks (t.eraseTrafficItem i) :=
  ⟨rfl, rfl, fun _ _ => id, fun _ _ => id, fun _ _ => id, fun _ _ _ => id⟩

theorem shrinks_orphan (e : Endpoint) (r : Ref) (t : CounterTree) : t.Shrinks (t.orphan e r) :=
  ⟨rfl, rfl, fun _ _ => id, fun _ _ => id, fun _ _ => id, fun _ _ _ => id⟩

theorem shrinks_eraseSocket (c : SocketCookie) (t : CounterTree) : t.Shrinks (t.eraseSocket c) := by
  refine ⟨rfl, rfl, ?_, ?_, ?_, ?_⟩ <;> simp [TreeShape.eraseSocket, Function.update_apply]

theorem shrinks_eraseProcess (pid : ProcessId) (t : CounterTree) :
    t.Shrinks (t.eraseProcess pid) := by
  refine ⟨rfl, rfl, ?_, ?_, ?_, ?_⟩ <;> simp [TreeShape.eraseProcess, Function.update_apply]

theorem shrinks_eraseApp (key : String) (t : CounterTree) : t.Shrinks (t.eraseApp key) := by
  refine ⟨?_, rfl, ?_, ?_, ?_, ?_⟩
  · funext who
    cases who <;> rfl
  all_goals simp [TreeShape.eraseApp, Function.update_apply]

theorem shrinks_eraseAppProcess (a : Ref) (pid : ProcessId) (t : CounterTree) :
    t.Shrinks (t.eraseAppProcess a pid) := by
  refine ⟨counter_modifyApp rfl, rfl, ?_, ?_, ?_, ?_⟩ <;> simp [TreeShape.eraseAppProcess]

theorem shrinks_eraseProcessSocket (p : Ref) (c : SocketCookie) (t : CounterTree) :
    t.Shrinks (t.eraseProcessSocket p c) := by
  refine ⟨counter_modifyProcess rfl, rfl, ?_, ?_, ?_, ?_⟩ <;> simp [TreeShape.eraseProcessSocket]

theorem shrinks_clearTupleCounters (r : Ref) (t : CounterTree) :
    t.Shrinks (t.clearTupleCounters r) := by
  refine ⟨counter_modifySocket rfl, rfl, ?_, ?_, ?_, ?_⟩ <;> simp [TreeShape.clearTupleCounters]

theorem shrinks_clearTupleItems (r : Ref) (t : CounterTree) : t.Shrinks (t.clearTupleItems r) := by
  refine ⟨counter_modifySocket rfl, rfl, ?_, ?_, ?_, ?_⟩ <;> simp [TreeShape.clearTupleItems]

theorem shrinks_eraseTuple (r : Ref) (e : Endpoint) (t : CounterTree) :
    t.Shrinks (t.eraseTuple r e) := by
  refine ⟨counter_modifySocket rfl, rfl, ?_, ?_, ?_, ?_⟩ <;> simp [TreeShape.eraseTuple]

end CounterTree

namespace SystemMap

variable {σ : Type} {h : Handler σ} {s : SystemMap σ} {now : Msec}

open CounterTree (Shrinks)

/-- A loop whose turns only lose entries. -/
theorem shrinks_foldl {α : Type} {f : SystemMap σ → α → SystemMap σ}
    (hf : ∀ (s : SystemMap σ) (a : α), s.Shrinks (f s a).toCounterTree) :
    ∀ (l : List α) (s : SystemMap σ), s.Shrinks (l.foldl f s).toCounterTree
  | [], _ => .refl _
  | a :: l, s => (hf s a).trans (shrinks_foldl hf l (f s a))

theorem shrinks_dropProcessTuple (s : SystemMap σ) (u : Ref) :
    s.Shrinks (dropProcessTuple h s u).toCounterTree :=
  CounterTree.shrinks_eraseTrafficItem _ _

theorem shrinks_dropSocketTuple (s : SystemMap σ) (u : Ref) :
    s.Shrinks (dropSocketTuple s u).toCounterTree :=
  CounterTree.shrinks_eraseTrafficItem _ _

theorem shrinks_dropProcessCounter (env : TickEnv) (r counter : Ref)
    (acc : List Endpoint × SystemMap σ) :
    acc.2.Shrinks (dropProcessCounter h env r counter acc).2.toCounterTree := by
  unfold dropProcessCounter
  simp only
  set s1 := if (acc.2.socket r).trafficItem.connectionState ≠ .closed then
    modify (·.orphan (acc.2.socket r).trafficItem.socketTuple.localEndpoint counter) acc.2
    else acc.2 with hs1
  have horphan : acc.2.Shrinks s1.toCounterTree := by
    rw [hs1]
    split
    · exact CounterTree.shrinks_orphan _ _ _
    · exact .refl _
  exact (horphan.trans (shrinks_foldl shrinks_dropProcessTuple _ s1)).trans
    (CounterTree.shrinks_clearTupleCounters _ _)

theorem shrinks_dropProcessSocket (env : TickEnv) (acc : List Endpoint × SystemMap σ)
    (entry : SocketCookie × Ref) :
    acc.2.Shrinks (dropProcessSocket h env acc entry).2.toCounterTree := by
  unfold dropProcessSocket
  simp only
  set s1 := addItemRemoval (acc.2.socket entry.2).trafficItem.itemId
    (modify (·.eraseTrafficItem (acc.2.socket entry.2).trafficItem.itemId) acc.2) with hs1
  have hitem : acc.2.Shrinks s1.toCounterTree := CounterTree.shrinks_eraseTrafficItem _ _
  have hrest (s2 : SystemMap σ) : s2.Shrinks (modify (·.eraseSocket entry.1)
      (modify (·.clearTupleItems entry.2) s2)).toCounterTree :=
    (CounterTree.shrinks_clearTupleItems entry.2 _).trans (CounterTree.shrinks_eraseSocket _ _)
  split
  · exact (hitem.trans (shrinks_dropProcessCounter env entry.2 _ (acc.1, s1))).trans (hrest _)
  · exact hitem.trans (hrest _)

theorem shrinks_removeSocket (env : TickEnv) (cookie : SocketCookie) (r : Ref) (s : SystemMap σ) :
    s.Shrinks (removeSocket h env cookie r s).toCounterTree := by
  unfold removeSocket
  simp only
  set tuples := env.order.values
    ((notify h (.onSocketRemoved r) s).socket r).udpPerConnectionCounters
  set s1 := tuples.foldl (fun s u => notify h (.onUDPTupleRemoved u) s)
    (notify h (.onSocketRemoved r) s) with hs1
  have htree : s1.toCounterTree = s.toCounterTree := toCounterTree_notifyRemoved tuples _
  set s2 := modify (·.eraseProcessSocket (s1.socket r).parentProcess cookie) s1 with hs2
  have hfirst : s.Shrinks s2.toCounterTree := by
    rw [← htree]
    exact CounterTree.shrinks_eraseProcessSocket _ _ _
  set s3 := addItemRemoval (s2.socket r).trafficItem.itemId
    (modify (·.eraseTrafficItem (s2.socket r).trafficItem.itemId) s2) with hs3
  have hitem : s.Shrinks s3.toCounterTree :=
    hfirst.trans (CounterTree.shrinks_eraseTrafficItem _ _)
  have htuples := hitem.trans (shrinks_foldl shrinks_dropSocketTuple tuples s3)
  exact ((htuples.trans (CounterTree.shrinks_clearTupleCounters r _)).trans
    (CounterTree.shrinks_clearTupleItems r _)).trans (CounterTree.shrinks_eraseSocket cookie _)

theorem shrinks_cleanupTuple (env : TickEnv) (r : Ref) (s : SystemMap σ) (entry : Endpoint × Ref) :
    s.Shrinks (cleanupTuple h env r s entry).toCounterTree := by
  unfold cleanupTuple
  simp only
  split
  · exact (CounterTree.shrinks_eraseTrafficItem _ _).trans (CounterTree.shrinks_eraseTuple r _ _)
  · exact .refl _

theorem shrinks_cleanupApp (s : SystemMap σ) (entry : String × Ref) :
    s.Shrinks (cleanupApp s entry).toCounterTree := by
  unfold cleanupApp
  simp only
  split
  · exact (CounterTree.shrinks_eraseTrafficItem _ _).trans (CounterTree.shrinks_eraseApp _ _)
  · exact .refl _

/-- What a cleanup leaves of a counter. The system and applications get pushes without bytes, and
processes and sockets may be marked. -/
def KeptBy : CounterId → TrafficCounter TrafficItem → TrafficCounter TrafficItem → Prop
  | .system, c, c' => c'.trafficItem = c.trafficItem ∧ (c.state = .active → c'.state = .active)
  | .app _, c, c' => c'.trafficItem = c.trafficItem ∧ (c.state = .active → c'.state = .active)
  | .process _, c, c' => c' = c ∨ c'.state = .pendingRemoval
  | .socket _, c, c' => c' = c ∨ c'.state = .pendingRemoval
  | .filter _, c, c' => c' = c
  | .tuple _, c, c' => c' = c

theorem KeptBy.refl (q : CounterId) (c : TrafficCounter TrafficItem) : KeptBy q c c := by
  cases q with
  | system | app a => exact ⟨rfl, id⟩
  | process p | socket r => exact .inl rfl
  | filter i | tuple u => rfl

theorem KeptBy.open {q : CounterId} {c c' : TrafficCounter TrafficItem} (hkept : KeptBy q c c')
    (hopen : c'.state ≠ .pendingRemoval) :
    c'.trafficItem = c.trafficItem ∧ (c.state = .active → c'.state = .active) := by
  cases q with
  | system | app a => exact hkept
  | process p | socket r =>
    obtain rfl := hkept.resolve_right hopen
    exact ⟨rfl, id⟩
  | filter i | tuple u =>
    obtain rfl := hkept
    exact ⟨rfl, id⟩

/-- What a cleanup of `s` has left so far. -/
structure Cleaned (now : Msec) (s s' : SystemMap σ) : Prop where
  timed : s'.Timed now
  mapped : ∀ q, s'.Mapped q → s.Mapped q
  tuples : ∀ r u, s'.TupleOf r u → s.TupleOf r u
  kept : ∀ q, KeptBy q (s.counter q) (s'.counter q)

theorem Cleaned.refl (ht : s.Timed now) : Cleaned now s s :=
  ⟨ht, fun _ => id, fun _ _ => id, fun q => .refl q _⟩

theorem Cleaned.shrinks {s₁ s₂ : SystemMap σ} (hc : Cleaned now s s₁)
    (hs : s₁.Shrinks s₂.toCounterTree) : Cleaned now s s₂ where
  timed := hc.timed.carried (Int.le_refl now) (.of_counter_eq now hs.counter hs.mapped hs.tupleOf)
  mapped q hq := hc.mapped q (hs.mapped q hq)
  tuples r u hu := hc.tuples r u (hs.tupleOf r u hu)
  kept q := hs.counter ▸ hc.kept q

/-- A push without bytes on the system or on an application. -/
theorem Cleaned.push {s₁ : SystemMap σ} (hc : Cleaned now s s₁) {who : CounterId}
    (hwho : who = .system ∨ ∃ a, who = .app a) (hw : s₁.Mapped who)
    (hgates : ∀ gate, s₁.Gates who gate → (s₁.counter gate).JustPushed 0) :
    Cleaned now s (call h who (.pushIncomingTraffic 0) s₁) where
  timed := hc.timed.push hw .incoming id hgates
  mapped q hq := hc.mapped q ((CounterTree.mapped_applyCall _ _ _).mp hq)
  tuples r u hu := by
    refine hc.tuples r u ?_
    unfold CounterTree.TupleOf at hu ⊢
    rwa [toCounterTree_call, CounterTree.shape_applyCall] at hu
  kept q := by
    rw [toCounterTree_call, CounterTree.counter_applyCall who (by rintro i rfl; exact hw)]
    split
    · rename_i hq
      subst hq
      have hkept := hc.kept q
      rcases hwho with rfl | ⟨a, rfl⟩
      · exact ⟨hkept.1, fun _ => rfl⟩
      · exact ⟨hkept.1, fun _ => rfl⟩
    · exact hc.kept q

/-- A mark on a process or on a socket. -/
theorem Cleaned.mark {s₁ : SystemMap σ} (hc : Cleaned now s s₁) {who : CounterId}
    (hwho : (∃ p, who = .process p) ∨ ∃ r, who = .socket r) (hw : s₁.Mapped who) (time : Msec) :
    Cleaned now s (call h who (.markForRemoval time) s₁) where
  timed := hc.timed.mark hw (by rcases hwho with ⟨p, rfl⟩ | ⟨r, rfl⟩ <;> nofun) time
  mapped q hq := hc.mapped q ((CounterTree.mapped_applyCall _ _ _).mp hq)
  tuples r u hu := by
    refine hc.tuples r u ?_
    unfold CounterTree.TupleOf at hu ⊢
    rwa [toCounterTree_call, CounterTree.shape_applyCall] at hu
  kept q := by
    rw [toCounterTree_call, CounterTree.counter_applyCall who (by rintro i rfl; exact hw)]
    split
    · rename_i hq
      subst hq
      have hmarked := (TrafficCounter.recent_mark (c := s₁.counter q) time).2.2
      rcases hwho with ⟨p, rfl⟩ | ⟨r, rfl⟩ <;> exact .inr hmarked
    · exact hc.kept q

theorem Cleaned.removeProcess {s₁ : SystemMap σ} (hc : Cleaned now s s₁) (hs : s₁.Inv)
    (env : TickEnv) {pid : ProcessId} {p : Ref} (hp : s₁.shape.procs pid = some p) :
    Cleaned now s (removeProcess h env pid p s₁) := by
  set app := (s₁.process p).parentApp with happ
  set s2 := call h .system (.pushIncomingTraffic 0) s₁ with hs2
  set s3 := call h (.app app) (.pushIncomingTraffic 0) s2 with hs3
  have hsystem : Cleaned now s s2 := hc.push (.inl rfl) trivial fun gate hgate => by
    cases hgate with
    | system hw hne => exact absurd rfl hne
  have hmapped : s2.Mapped (.app app) := by
    refine ⟨s₁.shape.appPath app, ?_⟩
    rw [shape_toCounterTree, hs2, shape_call]
    exact (hs.process pid p hp).parent
  have hpushed : Cleaned now s s3 := hsystem.push (.inr ⟨app, rfl⟩) hmapped fun gate hgate => by
    cases hgate with
    | system hw hne =>
      exact justPushed_applyCall (d := .incoming) (show s₁.Mapped .system from trivial)
        fun hne => absurd rfl hne
  set dropped := (env.order.entries (s3.process p).trafficItem.sockets).foldl
    (dropProcessSocket h env) ([], s3) with hdropped
  have hdrop : s3.Shrinks dropped.2.toCounterTree :=
    List.foldlRecOn (motive := fun acc : List Endpoint × SystemMap σ =>
      s3.Shrinks acc.2.toCounterTree) _ _ (.refl _)
      fun acc hacc entry _ => hacc.trans (shrinks_dropProcessSocket env acc entry)
  unfold SystemMap.removeProcess
  simp only
  refine hpushed.shrinks (hdrop.trans ?_)
  exact ((CounterTree.shrinks_eraseAppProcess app pid _).trans
    (CounterTree.shrinks_eraseTrafficItem _ _)).trans (CounterTree.shrinks_eraseProcess pid _)

theorem Cleaned.cleanupProcess {s₁ : SystemMap σ} (hc : Cleaned now s s₁) (hs : s₁.Inv)
    (env : TickEnv) {pid : ProcessId} {p : Ref} (hp : s₁.shape.procs pid = some p) :
    Cleaned now s (cleanupProcess h env s₁ (pid, p)) := by
  unfold SystemMap.cleanupProcess
  simp only
  set s2 := if !env.isProcessRunning pid ∧ !(s₁.process p).isMarkedForRemoval then
      markItemForRemoval (s₁.process p).trafficItem.itemId
        (call h (.process p) (.markForRemoval (env.cleanupTime (.process p))) s₁)
    else s₁ with hs2
  have hmarked : Cleaned now s s2 ∧ s2.shape = s₁.shape := by
    rw [hs2]
    split
    · have hm := hc.mark (h := h) (.inl ⟨p, rfl⟩) ⟨pid, hp⟩ (env.cleanupTime (.process p))
      exact ⟨⟨hm.timed, hm.mapped, hm.tuples, hm.kept⟩, shape_call h _ _ _⟩
    · exact ⟨hc, rfl⟩
  split
  · exact hmarked.1.removeProcess (hs.of_shape hmarked.2) env (hmarked.2 ▸ hp)
  · exact hmarked.1

theorem Cleaned.cleanupSocket {s₁ : SystemMap σ} (hc : Cleaned now s s₁) (env : TickEnv)
    {c : SocketCookie} {r : Ref} (hr : s₁.shape.socks c = some r) :
    Cleaned now s (cleanupSocket h env s₁ (c, r)) := by
  unfold SystemMap.cleanupSocket
  simp only
  split
  · exact hc.shrinks (shrinks_removeSocket env c r s₁)
  · set s2 := if isStaleSocket env r s₁.toCounterTree then
        call h (.socket r) (.markForRemoval (env.cleanupTime (.socket r))) s₁
      else s₁ with hs2
    have hmarked : Cleaned now s s2 := by
      rw [hs2]
      split
      · exact hc.mark (.inr ⟨r, rfl⟩) ⟨c, hr⟩ _
      · exact hc
    exact hmarked.shrinks (shrinks_foldl (shrinks_cleanupTuple env r) _ s2)

/-- **A cleanup keeps what is active active**, unless it removes or marks it. -/
theorem Cleaned.cleanup (hs : s.Inv) (ht : s.Timed now) (env : TickEnv) :
    Cleaned now s (cleanup h env s) := by
  unfold SystemMap.cleanup
  simp only
  have h1 := foldl_entries (fun s' : SystemMap σ => s'.Inv ∧ Cleaned now s s')
    (fun s pid => s.shape.procs pid) (SystemMap.cleanupProcess h env)
    (env.order.entries s.processes)
    (fun s pid p _ hI hp => by
      obtain ⟨hinv, hget⟩ := hI.1.cleanupProcess (h := h) env hp
      exact ⟨⟨hinv, hI.2.cleanupProcess hI.1 env hp⟩, hget⟩)
    (env.order.nodup_entries _) (env.order.lookup_of_mem_entries _) ⟨hs, .refl ht⟩
  generalize List.foldl (SystemMap.cleanupProcess h env) s (env.order.entries s.processes) = s1
    at h1 ⊢
  have h2 := foldl_entries (fun s' : SystemMap σ => s'.Inv ∧ Cleaned now s s')
    (fun s c => s.shape.socks c) (SystemMap.cleanupSocket h env) (env.order.entries s1.sockets)
    (fun s c r _ hI hr => by
      obtain ⟨hinv, hget⟩ := hI.1.cleanupSocket (h := h) env hr
      exact ⟨⟨hinv, hI.2.cleanupSocket env hr⟩, hget⟩)
    (env.order.nodup_entries _) (env.order.lookup_of_mem_entries _) h1
  exact h2.2.shrinks (shrinks_foldl shrinks_cleanupApp _ _)

/-! ## Ticks -/

/-- `HasNewData`. -/
def hasNewData (s : SystemMap σ) : Bool :=
  s.systemCounter.isActive || s.mapUpdate.hasUpdates

/-- `BroadcastTrafficUpdate`, when `BroadcastUpdates` comes to it: the log is cleared. -/
def broadcastTrafficUpdate (o : IterOrder) (s : SystemMap σ) :
    Option TrafficTreeUpdates × SystemMap σ :=
  if s.hasClients ∧ s.hasNewData then
    let updates := s.mapUpdate.getUpdates o s.toCounterTree
    (some updates.1, { s with mapUpdate := updates.2 })
  else (none, s)

/-- A traffic event that `UpdateData` handles, or a tick on which every counter is refreshed at the
same time. -/
inductive TrafficOp : Type 1 where
  | traffic (env : TrafficEnv) (cookie : SocketCookie) (pid : ProcessId) (d : PacketDirection)
      (bytes : WBytes) (header : Option PacketHeader)
  | tick (env : TickEnv) (now : Msec)

/-- What the clock says. -/
def TrafficOp.time : TrafficOp → Msec
  | .traffic env .. => env.now
  | .tick _ now => now

/-- The system map, and what the clock said last. -/
structure Clocked (σ : Type) where
  now : Msec
  map : SystemMap σ

variable (h)

/-- `RefreshAllTrafficCounters` at `now`. -/
def refreshAllAt (env : TickEnv) (now : Msec) (s : SystemMap σ) : SystemMap σ :=
  refreshAllTrafficCounters h { env with refreshTime := fun _ => now } s

/-- Handle an event, or refresh the counters and tell the clients. -/
def Clocked.step (s : Clocked σ) (op : TrafficOp) : Clocked σ where
  now := op.time
  map := match op with
    | .traffic env cookie pid d bytes header =>
      updateData h env { cookie := cookie, pid := pid, data := .traffic d bytes header } s.map
    | .tick env now => (broadcastTrafficUpdate env.order (refreshAllAt h env now s.map)).2

variable {h}

/-- The clock does not run backwards. -/
def Clocked.Advances (s : Clocked σ) (op : TrafficOp) : Prop := s.now ≤ op.time

instance (s : Clocked σ) (op : TrafficOp) : Decidable (s.Advances op) :=
  inferInstanceAs (Decidable (_ ≤ _))

/-- The item is not pending removal; a tuple is one of a UDP socket that is not. -/
def Reportable (t : CounterTree) : CounterId → Prop
  | .tuple u => ∃ r, t.TupleOf r u ∧ (t.counter (.socket r)).state ≠ .pendingRemoval ∧
      (t.socket r).trafficItem.socketTuple.protocol = .udp
  | q => (t.counter q).state ≠ .pendingRemoval

/-- If a speed of the item changed, there is new data and `GetUpdates` has the item with its new
speeds. -/
def Reported (before after : SystemMap σ) (q : CounterId) : Prop :=
  Reportable after.toCounterTree q → SpeedsDiffer (before.counter q) (after.counter q) →
    after.hasNewData ∧ ∀ o, TrafficTreeTrafficUpdate.ofItem (after.counter q).trafficItem ∈
      (after.mapUpdate.getUpdates o after.toCounterTree).1.updatedItems

variable (h) in
/-- A tick reports every change of an item that is there before it. -/
def Clocked.ReportsEvery (s : Clocked σ) : TrafficOp → Prop
  | .traffic .. => True
  | .tick env now => ∀ q, s.map.Mapped q → Reported s.map (refreshAllAt h env now s.map) q

variable (h) in
/-- A tick reports every change of an item that is there after it. -/
def Clocked.ReportsPresent (s : Clocked σ) : TrafficOp → Prop
  | .traffic .. => True
  | .tick env now => ∀ q, (refreshAllAt h env now s.map).Mapped q →
      Reported s.map (refreshAllAt h env now s.map) q

/-- Inactive counters have no speeds and no recent bytes. -/
def InactiveIsQuiet (t : CounterTree) : Prop :=
  ∀ q, (t.counter q).state = .inactive →
    (t.counter q).trafficItem.downloadSpeed = 0 ∧ (t.counter q).trafficItem.uploadSpeed = 0 ∧
      (t.counter q).recentDownload = 0 ∧ (t.counter q).recentUpload = 0

theorem inactiveIsQuiet_of_timed {t : CounterTree} (ht : t.Timed now) : InactiveIsQuiet t := by
  intro q hstate
  obtain ⟨hrecent, hspeed⟩ := (ht.wellTimed q).inactive hstate
  unfold TrafficCounter.HasRecent at hrecent
  unfold TrafficCounter.HasSpeed at hspeed
  push Not at hrecent hspeed
  exact ⟨hspeed.1, hspeed.2, hrecent.1, hrecent.2⟩

/-- `GetUpdates` has the active items; the UDP tuples come with an active socket. -/
theorem mem_updatedItems {t : CounterTree} {q : CounterId} (hq : t.Mapped q)
    (hactive : (t.counter q).state = .active)
    (htuple : ∀ u, q = .tuple u → ∃ r, t.TupleOf r u ∧ (t.counter (.socket r)).state = .active ∧
      (t.socket r).trafficItem.socketTuple.protocol = .udp) (o : IterOrder) :
    TrafficTreeTrafficUpdate.ofItem (t.counter q).trafficItem ∈ MapUpdate.updatedItems o t := by
  unfold MapUpdate.updatedItems
  simp only [List.mem_append]
  cases q with
  | system =>
    refine .inl (.inl (.inl (.inl ?_)))
    rw [if_pos (show t.systemCounter.isActive = true from decide_eq_true hactive)]
    exact List.mem_singleton.mpr rfl
  | app r =>
    exact .inl (.inl (.inl (.inr (List.mem_map.mpr
      ⟨r, List.mem_filter.mpr ⟨(o.mem_values _ r).mpr hq, decide_eq_true hactive⟩, rfl⟩))))
  | process r =>
    exact .inl (.inl (.inr (List.mem_map.mpr
      ⟨r, List.mem_filter.mpr ⟨(o.mem_values _ r).mpr hq, decide_eq_true hactive⟩, rfl⟩)))
  | filter i =>
    have hi : i < t.filterCounters.length := hq
    have hcounter : t.counter (.filter i) = t.filterCounters[i].plain := by
      simp only [CounterTree.counter, List.getElem?_eq_getElem hi, Option.getD_some]
    rw [hcounter] at hactive ⊢
    exact .inl (.inr (List.mem_map.mpr ⟨t.filterCounters[i],
      List.mem_filter.mpr ⟨List.getElem_mem hi, decide_eq_true hactive⟩, rfl⟩))
  | socket r =>
    exact .inr (List.mem_flatMap.mpr
      ⟨r, List.mem_filter.mpr ⟨(o.mem_values _ r).mpr hq, decide_eq_true hactive⟩,
        List.mem_cons_self⟩)
  | tuple u =>
    obtain ⟨r, ⟨hr, hu⟩, hsocket, hudp⟩ := htuple u rfl
    refine .inr (List.mem_flatMap.mpr
      ⟨r, List.mem_filter.mpr ⟨(o.mem_values _ r).mpr hr, decide_eq_true hsocket⟩,
        List.mem_cons_of_mem _ ?_⟩)
    rw [if_pos hudp]
    exact List.mem_map.mpr
      ⟨u, List.mem_filter.mpr ⟨(o.mem_values _ u).mpr hu, decide_eq_true hactive⟩, rfl⟩

/-- A tick is a refresh and a cleanup. -/
theorem refreshed_cleaned (hs : s.Inv) {time : Msec} (ht : s.Timed time) (hnow : time ≤ now)
    (env : TickEnv) : ∃ s₁, Refreshed now s.Mapped s s₁ ∧
      Cleaned now s₁ (refreshAllAt h env now s) := by
  have hrefreshed := refreshed_refreshCounters (h := h) { env with refreshTime := fun _ => now } rfl s
  exact ⟨_, hrefreshed, .cleanup (hs.of_shape hrefreshed.shape) (hrefreshed.timed ht hnow) _⟩

/-- **A tick reports what it changes.** -/
theorem reported_refreshAllAt (hs : s.Inv) {time : Msec} (ht : s.Timed time) (hnow : time ≤ now)
    (env : TickEnv) {q : CounterId} (hq : (refreshAllAt h env now s).Mapped q) :
    Reported s (refreshAllAt h env now s) q := by
  intro hreportable hdiffer
  obtain ⟨s1, hrefreshed, hcleaned⟩ := refreshed_cleaned (h := h) hs ht hnow env
  set s2 := refreshAllAt h env now s with hs2
  have hmapped : s.Mapped q := (hrefreshed.mapped_iff q).mp (hcleaned.mapped q hq)
  have hkept : (s2.counter q).trafficItem = (s1.counter q).trafficItem ∧
      ((s1.counter q).state = .active → (s2.counter q).state = .active) := by
    have hq := hcleaned.kept q
    cases q with
    | tuple u =>
      have hsame : s2.counter (.tuple u) = s1.counter (.tuple u) := hq
      rw [hsame]
      exact ⟨rfl, id⟩
    | _ => exact hq.open hreportable
  have hchanged : SpeedsDiffer (s.counter q) (s1.counter q) := by
    unfold SpeedsDiffer at hdiffer ⊢
    rwa [hkept.1] at hdiffer
  obtain ⟨hactive, hsystem⟩ := hrefreshed.active ht hmapped hchanged
  refine ⟨?_, mem_updatedItems hq (hkept.2 hactive) ?_⟩
  · have hactive : s2.systemCounter.isActive = true :=
      decide_eq_true ((hcleaned.kept .system).2 hsystem)
    unfold hasNewData
    rw [hactive, Bool.true_or]
  · rintro u rfl
    obtain ⟨r, hu, hopen, hudp⟩ := hreportable
    have hsame := (hcleaned.kept (.socket r)).resolve_right hopen
    refine ⟨r, hu, ?_, hudp⟩
    rw [hsame] at hopen ⊢
    exact hrefreshed.active_socket ht ((hrefreshed.tupleOf_iff r u).mp (hcleaned.tuples r u hu))
      hopen hchanged

/-- The invariant of a run. -/
structure Clocked.Ok (s : Clocked σ) : Prop where
  inv : s.map.Inv
  timed : s.map.Timed s.now

theorem Clocked.Ok.step {s : Clocked σ} (hs : s.Ok) {op : TrafficOp} (hop : s.Advances op) :
    (s.step h op).Ok := by
  cases op with
  | traffic env cookie pid d bytes header =>
    have htimed : s.map.Timed env.now := hs.timed.carried hop (.refl _ _)
    obtain ⟨hinv, htimed⟩ := timed_updateData (h := h) hs.inv env htimed cookie pid d bytes header
    exact ⟨hinv, htimed⟩
  | tick env now =>
    obtain ⟨s1, -, hcleaned⟩ := refreshed_cleaned (h := h) hs.inv hs.timed hop env
    have hinv : (refreshAllAt h env now s.map).Inv := hs.inv.refreshAllTrafficCounters _
    have htimed : (refreshAllAt h env now s.map).Timed now := hcleaned.timed
    simp only [Clocked.step, TrafficOp.time]
    generalize refreshAllAt h env now s.map = s2 at hinv htimed
    unfold broadcastTrafficUpdate
    split <;> exact ⟨hinv, htimed⟩

/-- At first every counter that is there is new. -/
theorem fresh_init (now : Msec) (hostName : String) (listeners : σ) (q : CounterId) :
    let t := (init now hostName listeners).toCounterTree
    CounterTree.Fresh now (t.counter q) ∨ CounterTree.Fresh 0 (t.counter q) ∧ ¬t.Mapped q := by
  intro t
  cases q with
  | system => exact .inl ⟨0, rfl⟩
  | filter i =>
    rcases i with _ | _ | _ | i
    · exact .inl ⟨1, rfl⟩
    · exact .inl ⟨2, rfl⟩
    · exact .inl ⟨3, rfl⟩
    · refine .inr ⟨⟨0, rfl⟩, fun hi => ?_⟩
      simp [t, CounterTree.Mapped, init, defaultFilters] at hi
      omega
  | app r | process r | socket r =>
    refine .inr ⟨⟨0, rfl⟩, ?_⟩
    rintro ⟨_, hr⟩
    cases hr
  | tuple u =>
    refine .inr ⟨⟨0, rfl⟩, ?_⟩
    rintro ⟨_, ⟨_, hr⟩, _⟩
    cases hr

theorem Clocked.Ok.init (now : Msec) (hostName : String) (listeners : σ) :
    (⟨now, init now hostName listeners⟩ : Clocked σ).Ok := by
  have hfresh := fresh_init now hostName listeners
  refine ⟨Inv.init now hostName listeners, nofun, fun q => ?_, fun q hq => ?_, fun q gate hg => ?_⟩
  · exact (hfresh q).elim (·.wellTimed) (·.1.wellTimed)
  · exact Int.le_of_eq ((hfresh q).resolve_right fun hr => hr.2 hq).started
  · exact ((hfresh q).resolve_right fun hr => hr.2 hg.mapped).gatedBy _

/-- **No change of a speed is missed.** In every run of traffic events and ticks over which the
clock does not run backwards, each tick reports every change of an item that is there after it, and
inactive counters have no speeds and no recent bytes at any time. -/
theorem speeds_published (h : Handler σ) (now : Msec) (hostName : String) (listeners : σ)
    (ops : List TrafficOp)
    (hclock : AllSteps (Clocked.step h) Clocked.Advances ⟨now, init now hostName listeners⟩ ops) :
    AllSteps (Clocked.step h) (Clocked.ReportsPresent h) ⟨now, init now hostName listeners⟩ ops ∧
      Always (Clocked.step h) (fun s => InactiveIsQuiet s.map.toCounterTree)
        ⟨now, init now hostName listeners⟩ ops := by
  have hinit := Clocked.Ok.init now hostName listeners
  have hstep (s : Clocked σ) (op : TrafficOp) (hs : s.Ok) (hop : s.Advances op) :
      (s.step h op).Ok := hs.step hop
  refine ⟨hclock.imp hstep (fun s op hs hop => ?_) hinit,
    always_of_allSteps (fun s hs => inactiveIsQuiet_of_timed hs.timed) hstep ops hinit hclock⟩
  cases op with
  | traffic env cookie pid d bytes header => trivial
  | tick env now => exact fun q hq => reported_refreshAllAt hs.inv hs.timed hop env hq

/-! ### A removed application -/

/-- Nothing is known about any process, and no packet is parsed. -/
def quietTrafficEnv : TrafficEnv :=
  { order := .stored, now := 0, procInfo := fun _ => {}, endpointPID := fun _ => 0
    determineSocketType := fun _ _ _ => .unknown }

/-- On this tick no process runs. -/
def stoppedEnv (now : Msec) : TickEnv :=
  { order := .stored, refreshTime := fun _ => now, cleanupTime := fun _ => now
    isProcessRunning := fun _ => false, isUsedPort := fun _ => true }

/-- Process 7 sends a hundred bytes and stops. The first tick publishes them and marks the process,
and the second one removes it, and its application with it. -/
def stoppedRun : List TrafficOp :=
  [.traffic quietTrafficEnv 9 7 .outgoing 100 none, .tick (stoppedEnv 10000) 10000,
   .tick (stoppedEnv 20000) 20000]

theorem stoppedRun_advances :
    AllSteps (Clocked.step fun _ _ (u : Unit) => u) Clocked.Advances ⟨0, init 0 "host" ()⟩
      stoppedRun :=
  ⟨by decide, by decide, by decide, trivial⟩

/-- The run with what it reports. -/
theorem speeds_published_stopped :
    AllSteps (Clocked.step fun _ _ (u : Unit) => u)
        (Clocked.ReportsPresent fun _ _ (u : Unit) => u) ⟨0, init 0 "host" ()⟩ stoppedRun ∧
      Always (Clocked.step fun _ _ (u : Unit) => u) (fun s => InactiveIsQuiet s.map.toCounterTree)
        ⟨0, init 0 "host" ()⟩ stoppedRun :=
  speeds_published _ 0 "host" () stoppedRun stoppedRun_advances

/-- **The change of a speed on the tick that removes the application is not reported.** -/
theorem speeds_missed_stopped : ¬ ∀ ops : List TrafficOp,
    AllSteps (Clocked.step fun _ _ (u : Unit) => u) Clocked.Advances ⟨0, init 0 "host" ()⟩ ops →
      AllSteps (Clocked.step fun _ _ (u : Unit) => u)
        (Clocked.ReportsEvery fun _ _ (u : Unit) => u) ⟨0, init 0 "host" ()⟩ ops := by
  intro hall
  have hreported := (hall stoppedRun stoppedRun_advances).2.2.1 (.app 4)
    ⟨"unknown", by decide +kernel⟩
  have hupdate := (hreported (by unfold Reportable; decide +kernel)
    (.inr (by decide +kernel))).2 IterOrder.stored
  exact absurd hupdate (by decide +kernel)

end SystemMap

end Waechter
