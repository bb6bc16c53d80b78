import Waechter.Daemon.Removals

/-!
# Removals are recorded

`Cleanup` (`Daemon/Data/SystemMap.cpp`) removes processes, sockets, tuples and applications in three
loops, and `MergeSyntheticSocket` a socket that was found at the start. Clients hear of a removal
through `AddItemRemoval` and of a mark through `MarkItemForRemoval` (`Daemon/Data/MapUpdate.hpp`).

* `Swept`: what has left the tree and the maps since a cleanup started is recorded, and every turn
  of its loops keeps that (`Swept.turn`).
* `TellsMarks`: the marks on processes and sockets are recorded. A stale socket is marked without a
  record.
* `records_of_orderly`: every removal and mark is recorded in a run whose operations overwrite or
  merge nothing in the tree and whose ticks find the sockets in order (`TickOrder`).
* `records_fails_merged`: the item of a merged socket leaves `TrafficItems` and is marked only.
-/

namespace Waechter

open Lib

/-- A tree that lost something, where the maps and the items of applications and processes still
match. -/
theorem TreeShape.Rooted.within {t t' : TreeShape} (ht : t.Rooted) (hwithin : t.Within t')
    (hsys : ∀ k, t'.sysApps k = t'.apps k)
    (hheld : ∀ a pid p, t'.appProcs a pid = some p → t'.procs pid = some p) : t'.Rooted where
  systemApps := hsys
  held a pid p hp :=
    ⟨hheld a pid p hp, hwithin.procApp ▸ (ht.held a pid p (hwithin.appProcs a pid p hp)).2⟩
  app k a ha := hwithin.next ▸ ht.app k a (hwithin.apps k a ha)
  process pid p hp := hwithin.next ▸ ht.process pid p (hwithin.procs pid p hp)
  socket p c r hr := hwithin.next ▸ ht.socket p c r (hwithin.procSocks p c r hr)
  tuple r u hu := hwithin.next ▸ ht.tuple r u (hwithin.sockTraffic r u hu)
  parent p := hwithin.next ▸ hwithin.procApp ▸ ht.parent p

namespace TreeShape

/-- The applications and processes in the maps, and the processes that applications hold, are the
same. -/
def SameOwners (t t' : TreeShape) : Prop :=
  t'.sysApps = t.sysApps ∧ t'.apps = t.apps ∧ t'.procs = t.procs ∧ t'.appProcs = t.appProcs

theorem Rooted.sameOwners {t t' : TreeShape} (ht : t.Rooted)
    (hwithin : t.Within t') (hsame : SameOwners t t') : t'.Rooted := by
  obtain ⟨hsys, happs, hprocs, happProcs⟩ := hsame
  refine ht.within hwithin (fun k => ?_) fun a pid p hp => ?_
  · rw [hsys, happs]
    exact ht.systemApps k
  · rw [happProcs] at hp
    rw [hprocs]
    exact (ht.held a pid p hp).1

/-- The id of a process or of a socket. -/
def idOf (t : TreeShape) : CounterId → TrafficItemId
  | .process p => t.procId p
  | .socket r => t.sockId r
  | _ => 0

theorem idOf_of_within {t t' : TreeShape} (hwithin : t.Within t') (q : CounterId) :
    t'.idOf q = t.idOf q := by
  cases q with
  | process p => exact congrFun hwithin.procId p
  | socket r => exact congrFun hwithin.sockId r
  | _ => rfl

/-- The invariant of the runs. -/
structure TreeKept (t : TreeShape) : Prop where
  rooted : t.Rooted
  tuples : t.TupleInv
  known : t.Known

end TreeShape

namespace SystemMap

open TreeShape

variable {σ : Type} {h : Handler σ} {s₀ s s' : SystemMap σ} {E : Ref → Prop}

/-! ## The removals of a cleanup -/

/-- What has left the tree and the maps since the cleanup started is recorded, and so are the tuples
of the sockets among it. -/
structure Swept (s₀ s : SystemMap σ) : Prop where
  told : ∃ E l, Logs s₀ s l ∧ Told E l s₀.shape s.shape ∧
    ∀ r, E r → ∀ u ∈ s₀.shape.sockTraffic r, s₀.shape.tupId u ∈ l
  within : Within s₀.shape s.shape
  rooted : s.shape.Rooted

namespace Swept

theorem refl (hs : s.shape.Rooted) : Swept s s :=
  ⟨⟨fun _ => False, [], .refl s, .refl _, fun _ hE => hE.elim⟩, .refl _, hs⟩

/-- **A turn of a loop.** A socket that loses tuples leaves `Sockets`, or had none. -/
theorem turn (hs : Swept s₀ s) (hinv : s₀.shape.TupleInv) (hturn : TellsRemovals E s s')
    (hwithin : Within s.shape s'.shape) (hrooted : s'.shape.Rooted)
    (hE : ∀ r, E r → s₀.shape.sockTraffic r = [] ∨
      ∃ c, s₀.shape.socks c = some r ∧ s'.shape.socks c = none) : Swept s₀ s' := by
  obtain ⟨E₀, l₀, hlog₀, htold₀, hE₀⟩ := hs.told
  obtain ⟨l, hlog, htold⟩ := hturn
  have hpath := (htold₀.widen fun r hr => (Or.inl hr : E₀ r ∨ E r)).trans
    (htold.widen fun r hr => Or.inr hr)
  refine ⟨⟨_, _, hlog₀.trans hlog, hpath, fun r hr u hu => ?_⟩, hs.within.trans hwithin, hrooted⟩
  rcases hr with hr | hr
  · exact List.mem_append_left l (hE₀ r hr u hu)
  · rcases hE r hr with hempty | ⟨c, hc, hnone⟩
    · rw [hempty] at hu
      exact absurd hu List.not_mem_nil
    · obtain ⟨e, he⟩ := (hinv.traffic r u).mp hu
      rcases hpath.socks c r hc with hsome | hall
      · exact nomatch hnone.symm.trans hsome
      · exact hall e u he

/-- A step that changes neither the shape nor the log. -/
theorem of_same (hs : Swept s₀ s) (hshape : s'.shape = s.shape)
    (hlog : s'.mapUpdate.removedItems = s.mapUpdate.removedItems)
    (hclients : s'.hasClients = s.hasClients) : Swept s₀ s' := by
  obtain ⟨E, l, hlogs, htold, hE⟩ := hs.told
  exact ⟨⟨E, l, hlogs.and_then (.of_same hlog hclients), hshape ▸ htold, hE⟩, hshape ▸ hs.within,
    hshape ▸ hs.rooted⟩

end Swept

/-- The calls of a cleanup when it finds no stale socket. -/
def SweepCall (env : TickEnv) (who : CounterId) (c : CounterCall) : Prop :=
  MarksProcess env who c ∧ ∀ r, who ≠ .socket r

theorem Does.sweep_isDue {env : TickEnv} (hdoes : Does h (SweepCall env) Action.Drops s s') {p : Ref}
    (hdue : IsDue env s' p) : IsDue env s p :=
  (hdoes.mono (fun _ _ hc => hc.1) fun _ => id).isDue hdue

theorem does_sweepProcess (env : TickEnv) (entry : ProcessId × Ref) (s : SystemMap σ) :
    Does h (SweepCall env) Action.Drops s (cleanupProcess h env s entry) := by
  refine does_cleanupProcess env (fun _ => id) (fun _ _ habove => ⟨fun p hp => (hp ▸ habove).elim,
    fun r hr => (hr ▸ habove).elim⟩) entry ⟨fun p hp => ?_, fun r hr => nomatch hr⟩ s
  exact CounterId.process.inj hp ▸ rfl

theorem removedItems_markItemForRemoval (i : TrafficItemId) (s : SystemMap σ) :
    (markItemForRemoval i s).mapUpdate.removedItems = s.mapUpdate.removedItems := by
  simp only [markItemForRemoval, record, MapUpdate.markItemForRemoval]
  split <;> rfl

/-- **The turn of a process.** -/
theorem swept_cleanupProcess (env : TickEnv) (hinv : s₀.shape.TupleInv)
    (hright : ∀ k r, DueHolds env s₀ k r → s₀.shape.HeldRight k r) (hs : Swept s₀ s)
    (hdoes : Does h (SweepCall env) Action.Drops s₀ s) {pid : ProcessId} {p : Ref}
    (hp : s₀.processes.lookup pid = some p) : Swept s₀ (cleanupProcess h env s (pid, p)) := by
  have hturn : Does h (SweepCall env) Action.Drops s (cleanupProcess h env s (pid, p)) :=
    does_sweepProcess env (pid, p) s
  unfold cleanupProcess at hturn ⊢
  simp only at hturn ⊢
  set s₁ := if !env.isProcessRunning pid ∧ !(s.process p).isMarkedForRemoval then
      markItemForRemoval (s.process p).trafficItem.itemId
        (call h (.process p) (.markForRemoval (env.cleanupTime (.process p))) s)
    else s with hs₁
  have hmarked : Swept s₀ s₁ ∧ Does h (SweepCall env) Action.Drops s s₁ := by
    rw [hs₁]
    split
    · refine ⟨hs.of_same ?_ (removedItems_markItemForRemoval _ _) rfl, ?_⟩
      · rw [shape_markItemForRemoval, shape_call]
      · refine (does_call ⟨fun q hq => ?_, fun r hr => nomatch hr⟩ s).record
          (.markItemForRemoval _) ⟨_, .inl rfl⟩
        exact CounterId.process.inj hq ▸ rfl
    · exact ⟨hs, .refl s⟩
  split
  · rename_i hdue
    have hdue₀ : IsDue env s₀ p := (hdoes.trans hmarked.2).sweep_isDue hdue
    obtain ⟨htells, hgone, hprocs, happProcs, hsys, happs⟩ := tells_removeProcess (h := h) env pid p
      s₁ (E := fun r => ∃ c, s₁.shape.procSocks p c = some r) (fun c r hr => ⟨c, hr⟩) fun q hq => by
        -- under the PID there is the process itself
        have hpid := hmarked.1.within.procs pid q (hmarked.1.rooted.held _ pid q hq).1
        exact Option.some.inj (hpid.symm.trans hp)
    have hdrops : Does h (fun _ _ => True) Action.Drops s₁ (removeProcess h env pid p s₁) :=
      does_removeProcess env (fun _ => id) (fun _ _ _ => trivial) pid p s₁
    have hwithin := hdrops.within fun _ => id
    refine hmarked.1.turn hinv htells hwithin (hmarked.1.rooted.within hwithin (fun k => ?_)
      fun a q x hx => ?_) fun r ⟨c, hr⟩ => ?_
    · rw [hsys, happs]
      exact hmarked.1.rooted.systemApps k
    · obtain ⟨hne, hx⟩ := happProcs a q x hx
      obtain ⟨hproc, hparent⟩ := hmarked.1.rooted.held a q x hx
      have hq : q ≠ pid := by
        rintro rfl
        have hxp : x = p := Option.some.inj ((hmarked.1.within.procs _ _ hproc).symm.trans hp)
        exact hne ⟨(hxp ▸ hparent).symm, rfl⟩
      rw [hprocs, Function.update_of_ne hq]
      exact hproc
    · have hr₀ := hmarked.1.within.procSocks p c r hr
      rcases hright c r ⟨pid, p, hp, hdue₀, hr₀⟩ with hsock | ⟨hempty, -⟩
      · exact .inr ⟨c, hsock, hgone c r hr⟩
      · exact .inl hempty
  · exact hmarked.1

/-! ## The sockets -/

/-- The sweep leaves the counters of the sockets, and what is shown of them, as they were. -/
theorem Does.sweep_socket {env : TickEnv} (hdoes : Does h (SweepCall env) Action.Drops s s') {r : Ref}
    (hr : r < s.nextItemId) :
    s'.counter (.socket r) = s.counter (.socket r) ∧ s'.view r = s.view r := by
  refine ⟨?_, DoesBeside.view_eq (hdoes.mono (fun _ _ _ => trivial) fun _ => Action.Spares.of_drops) hr⟩
  refine hdoes.keeps (I := fun s' => s'.counter (.socket r) = s.counter (.socket r)) (fun _ _ hI => hI)
    (fun who c s' hc hI => ?_) (fun _ _ _ hI => hI) (fun m s' hm hK hI => ?_) rfl
  · change (s'.applyCall who c).counter (.socket r) = _
    rw [CounterTree.counter_call id, if_neg fun heq => hc.2 r heq.symm]
    exact hI
  · change (m.apply s'.toCounterTree).counter (.socket r) = _
    rw [CounterTree.counter_change hm]
    · exact hI
    · cases m <;> first | exact absurd hK id | exact nofun

/-- A socket that is due or stale was so before. -/
theorem Does.sweep_due {env : TickEnv} (hdoes : Does h (SweepCall env) Action.Drops s s') {r : Ref}
    (hr : r < s.nextItemId) (now : Msec) :
    (s'.socket r).dueForRemoval now = (s.socket r).dueForRemoval now ∧
      isStaleSocket env r s'.toCounterTree = isStaleSocket env r s.toCounterTree := by
  obtain ⟨hcounter, hview⟩ := hdoes.sweep_socket hr
  have hplain : (s'.socket r).plain = (s.socket r).plain := hcounter
  have hstate : (s'.socket r).state = (s.socket r).state :=
    congrArg (fun c : TrafficCounter TrafficItem => c.state) hplain
  have htime : (s'.socket r).removalTimeStamp = (s.socket r).removalTimeStamp :=
    congrArg (fun c : TrafficCounter TrafficItem => c.removalTimeStamp) hplain
  have hinactive : (s'.socket r).inactiveCounter = (s.socket r).inactiveCounter :=
    congrArg (fun c : TrafficCounter TrafficItem => c.inactiveCounter) hplain
  have htuple := congrArg Prod.fst hview
  have htype := congrArg (fun v => v.2.1) hview
  have hconnection := congrArg (fun v => v.2.2) hview
  simp only [view, SocketItem.visible] at htuple htype hconnection
  constructor
  · simp only [TrafficCounter.dueForRemoval, hstate, htime]
  · simp only [isStaleSocket, TrafficCounter.isMarkedForRemoval, hstate, hinactive, htuple, htype,
      hconnection]
    congr

/-- The loop over the tuples of a socket that stays. -/
theorem tells_cleanupTuples (env : TickEnv) (r : Ref) {s : SystemMap σ} (hs : s.shape.TupleInv) :
    let out := (env.order.entries (s.socket r).udpPerConnectionCounters).foldl
      (cleanupTuple h env r) s
    TellsRemovals (fun _ => False) s out ∧ SameOwners s.shape out.shape := by
  refine (foldl_entries (fun s' : SystemMap σ => s'.shape.TupleInv ∧
      TellsRemovals (fun _ => False) s s' ∧ SameOwners s.shape s'.shape)
    (fun s' e => s'.shape.sockTuples r e) (cleanupTuple h env r)
    (env.order.entries (s.socket r).udpPerConnectionCounters) (s := s)
    (fun s' e u _ hI hu => ?_) (env.order.nodup_entries _) (env.order.lookup_of_mem_entries _)
    ⟨hs, .refl s, rfl, rfl, rfl, rfl⟩).2
  have htells := tells_cleanupTuple (h := h) (E := fun _ => False) env hI.1 hu
  have hshape := shape_cleanupTuple (h := h) env r s' e u
  split at hshape
  · refine ⟨⟨hshape ▸ hI.1.eraseTuple hu, hI.2.1.trans htells, ?_⟩, fun f hf => ?_⟩
    · rw [hshape]
      exact hI.2.2
    · rw [hshape]
      simp only [TreeShape.eraseTuple, TreeShape.eraseTrafficItem, true_and, if_neg hf]
  · refine ⟨⟨hshape ▸ hI.1, hI.2.1.trans htells, ?_⟩, fun f _ => ?_⟩
    · rw [hshape]
      exact hI.2.2
    · rw [hshape]

/-- **The turn of a socket** that is not stale. -/
theorem swept_cleanupSocket (env : TickEnv) (hinv₀ : s₀.shape.TupleInv) (hinv : s.shape.TupleInv)
    (hs : Swept s₀ s) {c : SocketCookie} {r : Ref} (hr : s₀.shape.socks c = some r)
    (hplace : (s.socket r).dueForRemoval (env.cleanupTime (.socket r)) = true →
      ∀ q, s₀.shape.procSocks (s₀.shape.sockProc r) c = some q → q = r)
    (hstale : isStaleSocket env r s.toCounterTree = false) :
    Swept s₀ (cleanupSocket h env s (c, r)) := by
  have hdoes : Does h (fun _ _ => True) Action.Drops s (cleanupSocket h env s (c, r)) :=
    does_cleanupSocket env (fun _ => id) (c, r) s fun _ => trivial
  have hwithin := hdoes.within fun _ => id
  have howners : SameOwners s.shape (cleanupSocket h env s (c, r)).shape := by
    unfold cleanupSocket
    simp only
    split
    · rw [shape_removeSocket]
      exact ⟨rfl, rfl, rfl, rfl⟩
    · rw [hstale]
      exact (tells_cleanupTuples env r hinv).2
  unfold cleanupSocket at hwithin howners ⊢
  simp only at hwithin howners ⊢
  split at hwithin
  · rename_i hdue
    rw [if_pos hdue] at howners ⊢
    refine hs.turn hinv₀ (tells_removeSocket env s (fun q hq => ?_) fun q hq => ?_) hwithin
      (hs.rooted.sameOwners hwithin howners) fun q hq => ?_
    · refine hplace hdue q (hs.within.procSocks _ _ _ ?_)
      rw [← hs.within.sockProc]
      exact hq
    · exact Option.some.inj ((hs.within.socks c q hq).symm.trans hr)
    · refine .inr ⟨c, hq ▸ hr, ?_⟩
      rw [shape_removeSocket]
      exact Function.update_self ..
  · rename_i hdue
    rw [if_neg hdue] at howners ⊢
    rw [hstale] at hwithin howners ⊢
    exact hs.turn hinv₀ (tells_cleanupTuples env r hinv).1 hwithin
      (hs.rooted.sameOwners hwithin howners) fun q hq => hq.elim

/-! ## The applications -/

theorem swept_cleanupApp (hinv₀ : s₀.shape.TupleInv) (hs : Swept s₀ s) {k : String} {a : Ref}
    (ha : ∀ b, s.shape.apps k = some b → b = a) : Swept s₀ (cleanupApp s (k, a)) := by
  have hdoes : Does (fun _ _ l => l) (fun _ _ => True) Action.Drops s (cleanupApp s (k, a)) :=
    does_cleanupApp (fun _ => id) (k, a) s
  have hwithin := hdoes.within fun _ => id
  refine hs.turn (E := fun _ => False) hinv₀ (tells_cleanupApp fun b hb => ha b ?_) hwithin ?_
    fun r hr => hr.elim
  · exact (hs.rooted.systemApps k).symm.trans hb
  · rcases shape_cleanupApp k a s with ⟨-, hshape⟩ | hsame
    · refine hs.rooted.within hwithin (fun k' => ?_) fun b pid p hp => ?_
      · rw [hshape]
        simp only [TreeShape.eraseApp, TreeShape.eraseTrafficItem, Function.update_apply,
          hs.rooted.systemApps]
      · rw [hshape] at hp ⊢
        exact (hs.rooted.held b pid p hp).1
    · rw [hsame]
      exact hs.rooted

/-! ## A tick -/

/-- The condition on a tick, on the state after the refresh: no socket is stale, what a process that
is due holds is in `Sockets` under the same key, and nothing else has the place of a socket that is
due. -/
structure TickOrder (env : TickEnv) (s : SystemMap σ) : Prop where
  right : ∀ k r, DueHolds env s k r → s.shape.HeldRight k r
  place : ∀ c r, s.sockets.lookup c = some r →
    (s.socket r).dueForRemoval (env.cleanupTime (.socket r)) = true →
      ∀ q, s.shape.procSocks (s.socket r).parentProcess c = some q → q = r
  fresh : ∀ c r, s.sockets.lookup c = some r → isStaleSocket env r s.toCounterTree = false

/-- **The cleanup records what leaves.** -/
theorem swept_cleanup (env : TickEnv) {s : SystemMap σ} (hrooted : s.shape.Rooted)
    (hinv : s.shape.TupleInv) (hknown : s.shape.Known) (hs : TickOrder env s) :
    Swept s (cleanup h env s) := by
  have hprocesses := List.foldlRecOn (motive := fun s' : SystemMap σ =>
      Swept s s' ∧ Does h (SweepCall env) Action.Drops s s')
    (env.order.entries s.processes) (cleanupProcess h env) ⟨.refl hrooted, .refl s⟩
    fun s' ⟨hswept, hdoes⟩ (pid, p) hentry => ⟨swept_cleanupProcess env hinv hs.right hswept hdoes
      ((env.order.mem_entries _ pid p).mp hentry), hdoes.trans (does_sweepProcess env (pid, p) s')⟩
  have hinv₁ := tupleInv_cleanedProcesses (h := h) env hinv hs.right
  set s₁ := (env.order.entries s.processes).foldl (cleanupProcess h env) s with hs₁
  have hsockets := List.foldlRecOn (motive := fun s' : SystemMap σ =>
      Swept s s' ∧ s'.shape.TupleInv ∧ Does h (SweepCall env) Action.Drops s s')
    (env.order.entries s₁.sockets) (cleanupSocket h env) ⟨hprocesses.1, hinv₁, hprocesses.2⟩
    fun s' ⟨hswept, hinv', hdoes⟩ (c, r) hentry => ?_
  · set s₂ := (env.order.entries s₁.sockets).foldl (cleanupSocket h env) s₁ with hs₂
    have happs := List.foldlRecOn (motive := fun s' : SystemMap σ =>
        Swept s s' ∧ Within s₂.shape s'.shape)
      (env.order.entries s₂.applications) cleanupApp ⟨hsockets.1, .refl _⟩
      fun s' ⟨hswept, hwithin⟩ (k, a) hentry => ?_
    · exact happs.1
    · have ha : s₂.shape.apps k = some a := (env.order.mem_entries _ k a).mp hentry
      refine ⟨swept_cleanupApp hinv hswept fun b hb => ?_, hwithin.trans
        ((does_cleanupApp (h := h) (C := fun _ _ => True) (fun _ => id) (k, a) s').within
          fun _ => id)⟩
      exact Option.some.inj ((hwithin.apps k b hb).symm.trans ha)
  · have hr : s.shape.socks c = some r :=
      hprocesses.1.within.socks c r ((env.order.mem_entries _ c r).mp hentry)
    obtain ⟨hdue, hstale⟩ := hdoes.sweep_due (hknown.older.socket c r hr)
      (env.cleanupTime (.socket r))
    have hfresh := hstale.trans (hs.fresh c r hr)
    refine ⟨swept_cleanupSocket env hinv hinv' hswept hr (fun hdue' => ?_) hfresh,
      tupleInv_cleanupSocket env hinv' (c, r), hdoes.trans ?_⟩
    · exact hs.place c r hr (hdue ▸ hdue')
    · refine does_cleanupSocket env (fun _ => id) (c, r) s' fun hstale' => ?_
      exact nomatch hfresh.symm.trans hstale'

/-! ## Marks -/

/-- The log only grows. -/
theorem Does.log_grows {C : CounterId → CounterCall → Prop} {K : Action → Prop}
    (hdoes : Does h C K s s') : s'.hasClients = s.hasClients ∧
      s.mapUpdate.removedItems <+: s'.mapUpdate.removedItems ∧
        s.mapUpdate.markedForRemovalItems <+: s'.mapUpdate.markedForRemovalItems := by
  refine hdoes.keeps (I := fun s' : SystemMap σ => s'.hasClients = s.hasClients ∧
      s.mapUpdate.removedItems <+: s'.mapUpdate.removedItems ∧
        s.mapUpdate.markedForRemovalItems <+: s'.mapUpdate.markedForRemovalItems)
    (fun _ _ hI => hI) (fun _ _ _ _ hI => hI) (fun c s' _ hI => ⟨hI.1, hI.2.1.trans ?_, hI.2.2.trans ?_⟩)
    (fun _ _ _ _ hI => hI) ⟨rfl, List.prefix_rfl, List.prefix_rfl⟩
  all_goals
    cases c <;> cases hclients : s'.hasClients <;>
      simp [SystemMap.record, MapUpdate.record, MapUpdate.markItemForRemoval, MapUpdate.addItemRemoval,
        MapUpdate.addStateChange, MapUpdate.addSocketAddition, MapUpdate.addTupleAddition, hclients]

/-- From the first state to the second one, every mark on a process or on a socket is recorded. -/
def TellsMarks (s s' : SystemMap σ) : Prop :=
  s'.hasClients = s.hasClients ∧ ∃ l,
    (s.hasClients = true →
      s'.mapUpdate.markedForRemovalItems = s.mapUpdate.markedForRemovalItems ++ l) ∧
    ∀ q : CounterId, ¬q.Shared → (s'.counter q).state = .pendingRemoval →
      (s.counter q).state = .pendingRemoval ∨ s'.shape.idOf q ∈ l

theorem TellsMarks.refl (s : SystemMap σ) : TellsMarks s s :=
  ⟨rfl, [], fun _ => (List.append_nil _).symm, fun _ _ hpending => .inl hpending⟩

theorem TellsMarks.trans {s'' : SystemMap σ} (hs : TellsMarks s s') (hs' : TellsMarks s' s'')
    (hid : s''.shape.idOf = s'.shape.idOf) : TellsMarks s s'' := by
  obtain ⟨hclients, l, hlog, hmarks⟩ := hs
  obtain ⟨hclients', l', hlog', hmarks'⟩ := hs'
  refine ⟨hclients'.trans hclients, l ++ l', fun htrack => ?_, fun q hq hpending => ?_⟩
  · rw [hlog' (hclients.trans htrack), hlog htrack, List.append_assoc]
  · rcases hmarks' q hq hpending with hold | hl
    · refine (hmarks q hq hold).imp_right fun hl => List.mem_append_left _ ?_
      rw [hid]
      exact hl
    · exact .inr (List.mem_append_right _ hl)

/-- Actions that mark nothing. -/
theorem Does.tellsMarks {C : CounterId → CounterCall → Prop} {K : Action → Prop}
    (hdoes : Does h C K s s') (hC : ∀ q t, ¬q.Shared → ¬C q (.markForRemoval t)) :
    TellsMarks s s' := by
  obtain ⟨hclients, -, l, hl⟩ := hdoes.log_grows
  refine ⟨hclients, l, fun _ => hl.symm, fun q hq hpending => .inl ?_⟩
  by_contra hopen
  -- a counter that is not pending removal is bounded by any time
  have hbounded := hdoes.bounded (x := (s'.counter q).removalTimeStamp - 1) hq
    (fun t ht => absurd ht (hC q t hq)) fun hp => absurd hp hopen
  exact absurd (hbounded hpending) (Int.not_le.mpr (sub_one_lt _))

/-- **A close event records what it marks.** -/
theorem tellsMarks_closeSocket (now : Msec) (r : Ref) (s : SystemMap σ) :
    TellsMarks s (closeSocket h now r s) := by
  set s₁ := modify (·.editSocket r fun item => { item with connectionState := .closed })
    (call h (.socket r) (.markForRemoval now) s) with hs₁
  have hid : s₁.shape = s.shape := by
    rw [hs₁, shape_editSocket ⟨rfl, rfl, rfl⟩, shape_call]
  set s₂ := markItemForRemoval (s₁.socket r).trafficItem.itemId s₁ with hs₂
  have hid₂ : s₂.shape = s.shape := by rw [hs₂, shape_markItemForRemoval, hid]
  have hmark : TellsMarks s s₂ := by
    refine ⟨rfl, [(s₁.socket r).trafficItem.itemId], fun htrack => ?_, fun q hq hpending => ?_⟩
    · have hclients : s₁.hasClients = true := htrack
      simp only [hs₂, markItemForRemoval, record, MapUpdate.markItemForRemoval, hclients, if_true]
      rfl
    · have hcounter : s₂.counter q =
          if q = .socket r then (s.counter q).call (.markForRemoval now) else s.counter q := by
        refine Eq.trans ?_ (CounterTree.counter_call hq (.socket r) (.markForRemoval now))
        exact congrFun (CounterTree.counter_editSocket (t := s.applyCall (.socket r)
          (.markForRemoval now)) (r := r) rfl) q
      rw [hcounter] at hpending
      split at hpending
      · rename_i hqr
        rw [hqr, hid₂]
        refine .inr (List.mem_singleton.mpr ?_)
        exact congrFun (congrArg TreeShape.sockId hid.symm) r
      · exact .inl hpending
  have hrest : TellsMarks s₂ (closeSocket h now r s) := by
    refine Does.tellsMarks (C := fun _ c => ∀ t, c ≠ .markForRemoval t) (K := fun _ => False)
      (((does_call ?_ s₂).call ?_).call ?_) fun q t _ hC => hC t rfl
    all_goals rintro t ⟨⟩
  refine hmark.trans hrest ?_
  rw [hid₂]
  have hshape : (closeSocket h now r s).shape = s.shape := by
    unfold closeSocket
    simp only [shape_call, shape_markItemForRemoval]
    exact hid
  rw [hshape]

theorem tellsMarks_markSocketForRemoval (o : IterOrder) (now : Msec) (cookie : SocketCookie)
    (localPort : UInt32) (s : SystemMap σ) :
    TellsMarks s (markSocketForRemoval h o now cookie localPort s) := by
  have htwice (q r : Ref) : TellsMarks s (closeSocket h now r (closeSocket h now q s)) := by
    refine (tellsMarks_closeSocket now q s).trans (tellsMarks_closeSocket now r _) ?_
    rw [shape_closeSocket]
  unfold markSocketForRemoval
  split
  · exact .refl s
  · rename_i r _
    simp only
    split
    · split
      · exact htwice _ r
      · exact tellsMarks_closeSocket now r s
    · exact tellsMarks_closeSocket now r s

/-- The turn of a process. -/
theorem tellsMarks_cleanupProcess (env : TickEnv) (entry : ProcessId × Ref) (s : SystemMap σ) :
    TellsMarks s (cleanupProcess h env s entry) := by
  obtain ⟨pid, p⟩ := entry
  set s₁ := if !env.isProcessRunning pid ∧ !(s.process p).isMarkedForRemoval then
      markItemForRemoval (s.process p).trafficItem.itemId
        (call h (.process p) (.markForRemoval (env.cleanupTime (.process p))) s)
    else s with hs₁
  have hmark : TellsMarks s s₁ := by
    rw [hs₁]
    split
    · refine ⟨rfl, [(s.process p).trafficItem.itemId], fun htrack => ?_, fun q hq hpending => ?_⟩
      · simp only [markItemForRemoval, record, MapUpdate.markItemForRemoval]
        rw [if_pos (show (call h (.process p) _ s).hasClients = true from htrack)]
        rfl
      · have hcounter : (markItemForRemoval (s.process p).trafficItem.itemId (call h (.process p)
            (.markForRemoval (env.cleanupTime (.process p))) s)).counter q =
              if q = .process p then
                (s.counter q).call (.markForRemoval (env.cleanupTime (.process p)))
              else s.counter q :=
          CounterTree.counter_call hq (.process p) (.markForRemoval _)
        rw [hcounter] at hpending
        split at hpending
        · rename_i hqp
          rw [hqp, shape_markItemForRemoval, shape_call]
          exact .inr (List.mem_singleton.mpr rfl)
        · exact .inl hpending
    · exact .refl s
  have hout : cleanupProcess h env s (pid, p) =
      if (s₁.process p).dueForRemoval (env.cleanupTime (.process p)) then removeProcess h env pid p s₁
      else s₁ := rfl
  rw [hout]
  split
  · have hremove : Does h (fun who _ => who.Above) Action.Drops s₁ (removeProcess h env pid p s₁) :=
      does_removeProcess env (fun _ => id) (fun _ _ => id) pid p s₁
    have hwithin := hremove.within fun _ => id
    refine hmark.trans (hremove.tellsMarks fun q t hq habove => hq habove.shared) (funext fun q => ?_)
    exact idOf_of_within hwithin q
  · exact hmark

/-- **A tick records what it marks** when it finds no stale socket. -/
theorem tellsMarks_cleanup (env : TickEnv) {s : SystemMap σ} (hknown : s.shape.Known)
    (hfresh : ∀ c r, s.sockets.lookup c = some r → isStaleSocket env r s.toCounterTree = false) :
    TellsMarks s (cleanup h env s) := by
  have hturn {s' s'' : SystemMap σ} (hs : TellsMarks s s') (hs' : TellsMarks s' s'')
      {C : CounterId → CounterCall → Prop} (hdoes : Does h C Action.Drops s' s'') :
      TellsMarks s s'' :=
    hs.trans hs' (funext (idOf_of_within (hdoes.within fun _ => id)))
  have hprocesses := List.foldlRecOn (motive := fun s' : SystemMap σ =>
      TellsMarks s s' ∧ Does h (SweepCall env) Action.Drops s s')
    (env.order.entries s.processes) (cleanupProcess h env) ⟨.refl s, .refl s⟩
    fun s' ⟨hmarks, hdoes⟩ entry _ =>
      have hsweep := does_sweepProcess env entry s'
      ⟨hturn hmarks (tellsMarks_cleanupProcess env entry s') hsweep, hdoes.trans hsweep⟩
  set s₁ := (env.order.entries s.processes).foldl (cleanupProcess h env) s with hs₁
  have hsockets := List.foldlRecOn (motive := fun s' : SystemMap σ =>
      TellsMarks s s' ∧ Does h (SweepCall env) Action.Drops s s')
    (env.order.entries s₁.sockets) (cleanupSocket h env) hprocesses
    fun s' ⟨hmarks, hdoes⟩ (c, r) hentry => ?_
  · refine List.foldlRecOn (motive := fun s' : SystemMap σ => TellsMarks s s') _ cleanupApp hsockets.1
      fun s' hmarks entry _ => ?_
    have hdoes : Does h (fun _ _ => False) Action.Drops s' (cleanupApp s' entry) :=
      does_cleanupApp (fun _ => id) entry s'
    exact hturn hmarks (hdoes.tellsMarks fun _ _ _ => id) hdoes
  · have hr : s.shape.socks c = some r :=
      (hprocesses.2.within fun _ => id).socks c r ((env.order.mem_entries _ c r).mp hentry)
    have hstale := (hdoes.sweep_due (hknown.older.socket c r hr) 0).2.trans (hfresh c r hr)
    have hsocket : Does h (fun _ _ => False) Action.Drops s' (cleanupSocket h env s' (c, r)) :=
      does_cleanupSocket env (fun _ => id) (c, r) s' fun hstale' => nomatch hstale.symm.trans hstale'
    exact ⟨hturn hmarks (hsocket.tellsMarks fun _ _ _ => id) hsocket,
      hdoes.trans (hsocket.mono (fun _ _ hf => hf.elim) fun _ => id)⟩

/-! ## Operations -/

/-- **What an operation removes and marks is recorded.** -/
structure RecordsRemovals (s s' : SystemMap σ) : Prop where
  removed : ∃ l, s'.mapUpdate.removedItems = s.mapUpdate.removedItems ++ l ∧
    (∀ i, s.shape.InTree i → s'.shape.InTree i ∨ i ∈ l) ∧
      ∀ i, s.trafficItems.lookup i ≠ none → s'.trafficItems.lookup i ≠ none ∨ i ∈ l
  marked : ∃ l, s'.mapUpdate.markedForRemovalItems = s.mapUpdate.markedForRemovalItems ++ l ∧
    (∀ p, (s'.process p).isMarkedForRemoval = true →
      (s.process p).isMarkedForRemoval = true ∨ (s'.process p).trafficItem.itemId ∈ l) ∧
      ∀ r, (s'.socket r).isMarkedForRemoval = true →
        (s.socket r).isMarkedForRemoval = true ∨ (s'.socket r).trafficItem.itemId ∈ l

/-- The condition on an operation: nothing in the tree is overwritten or merged, and a tick finds
the sockets in order. -/
def KeepsOrder (h : Handler σ) (s : SystemMap σ) : SystemMapOp → Prop
  | .refreshAllTrafficCounters env => TickOrder env (refreshCounters h env s)
  | op => s.AddsOnly op

theorem tellsMarks_step (hknown : s.shape.Known) {op : SystemMapOp} (hop : KeepsOrder h s op) :
    TellsMarks s (step h s op) := by
  have hcalls := does_step_calls (h := h) s op
  have hquiet (hreads : ∀ q t, ¬op.Reads q t) : TellsMarks s (step h s op) :=
    hcalls.tellsMarks fun q t hq hC => (hC.2 t rfl).elim hq (hreads q t)
  cases op with
  | markSocketForRemoval o now cookie localPort =>
    exact tellsMarks_markSocketForRemoval o now cookie localPort s
  | refreshAllTrafficCounters env =>
    have hrefresh : Does h (fun who c => who.Shared ∨ ∀ t, c ≠ .markForRemoval t) Action.Drops s
        (refreshCounters h env s) :=
      does_refreshCounters env (fun _ _ hwho => .inl hwho) (fun _ _ => .inr fun _ => nofun) s
    have hshape := shape_refreshCounters (h := h) env s
    have hfirst := hrefresh.tellsMarks fun q t hq hC => hC.elim hq fun hne => hne t rfl
    have hsecond := tellsMarks_cleanup (h := h) env (hshape.symm ▸ hknown) hop.fresh
    have hcleanup := ((tick_cleanedProcesses env _).trans (tick_cleanedSockets env _)).trans
      (tick_cleanedApps (h := h) env s)
    exact hfirst.trans hsecond (funext (idOf_of_within (hcleanup.within fun _ => id)))
  | _ => exact hquiet fun _ _ => id

/-- **A tick.** -/
theorem swept_refreshAllTrafficCounters (env : TickEnv) (hs : s.shape.TreeKept)
    (hop : TickOrder env (refreshCounters h env s)) :
    ∃ s₀ : SystemMap σ, s₀.shape = s.shape ∧ s₀.mapUpdate = s.mapUpdate ∧
      s₀.hasClients = s.hasClients ∧ Swept s₀ (refreshAllTrafficCounters h env s) := by
  have hshape := shape_refreshCounters (h := h) env s
  have hsame : Does h (fun _ _ => True) (fun _ => False) s (refreshCounters h env s) :=
    does_refreshCounters env (fun _ _ _ => trivial) (fun _ _ => trivial) s
  obtain ⟨hlog, hclients⟩ := hsame.keeps
    (I := fun s' : SystemMap σ => s'.mapUpdate = s.mapUpdate ∧ s'.hasClients = s.hasClients)
    (fun _ _ hI => hI) (fun _ _ _ _ hI => hI) (fun _ _ hK _ => hK.elim) (fun _ _ _ _ hI => hI)
    ⟨rfl, rfl⟩
  exact ⟨refreshCounters h env s, hshape, hlog, hclients, swept_cleanup env (hshape.symm ▸ hs.rooted)
    (hshape.symm ▸ hs.tuples) (hshape.symm ▸ hs.known) hop⟩

/-- **One operation keeps the invariant.** -/
theorem treeKept_step (hs : s.shape.TreeKept) {op : SystemMapOp} (hop : KeepsOrder h s op) :
    (step h s op).shape.TreeKept := by
  have hknown := (does_step_calls (h := h) s op).known hs.known
  by_cases htick : ∃ env, op = .refreshAllTrafficCounters env
  · obtain ⟨env, rfl⟩ := htick
    obtain ⟨_, -, -, -, hswept⟩ := swept_refreshAllTrafficCounters env hs hop
    have hshape := shape_refreshCounters (h := h) env s
    exact ⟨hswept.rooted, tupleInv_step hs.tuples _ fun k r hk => hshape ▸ hop.right k r hk, hknown⟩
  · have hnot : ∀ env, op ≠ .refreshAllTrafficCounters env := fun env he => htick ⟨env, he⟩
    have hadds : s.AddsOnly op := by
      cases op with
      | refreshAllTrafficCounters env => exact absurd rfl (hnot env)
      | _ => exact hop
    exact ⟨(extends_step hs.rooted hs.known.older hadds hnot).rooted,
      (does_notCleanup s op hnot).tupleInv hs.tuples, hknown⟩

/-- **One operation records what it removes and marks**, when a client is there. -/
theorem recordsRemovals_step (hs : s.shape.TreeKept) {op : SystemMapOp} (hop : KeepsOrder h s op)
    (hclients : s.hasClients = true) : RecordsRemovals s (step h s op) := by
  refine ⟨?_, ?_⟩
  · by_cases htick : ∃ env, op = .refreshAllTrafficCounters env
    · obtain ⟨env, rfl⟩ := htick
      obtain ⟨s₀, hshape, hlog, hclients₀, hswept⟩ := swept_refreshAllTrafficCounters env hs hop
      obtain ⟨E, l, hlogs, htold, hE⟩ := hswept.told
      refine ⟨l, hlog ▸ hlogs.2 (hclients₀.trans hclients), fun i hi => ?_, fun i hi => ?_⟩
      · exact htold.inTree (fun r _ => hE r) (hshape.symm ▸ hi)
      · exact htold.items i (hshape.symm ▸ hi)
    · have hnot : ∀ env, op ≠ .refreshAllTrafficCounters env := fun env he => htick ⟨env, he⟩
      have hadds : s.AddsOnly op := by
        cases op with
        | refreshAllTrafficCounters env => exact absurd rfl (hnot env)
        | _ => exact hop
      have hextends := extends_step (h := h) hs.rooted hs.known.older hadds hnot
      obtain ⟨-, ⟨l, hl⟩, -⟩ := (does_step_calls (h := h) s op).log_grows
      exact ⟨l, hl.symm, fun i hi => .inl (hextends.inTree hi), fun i hi => .inl (hextends.items i hi)⟩
  · obtain ⟨-, l, hlog, hmarks⟩ := tellsMarks_step hs.known hop
    refine ⟨l, hlog hclients, fun p hp => ?_, fun r hr => ?_⟩
    · exact (hmarks (.process p) id (of_decide_eq_true hp)).imp_left decide_eq_true
    · exact (hmarks (.socket r) id (of_decide_eq_true hr)).imp_left decide_eq_true

end SystemMap

/-! ## Runs with clients -/

/-- An operation, an update for the clients, or clients connect or leave. -/
inductive TrackedOp : Type 1 where
  | operation (op : SystemMapOp)
  | getUpdates (o : IterOrder)
  | clients (connected : Bool)

namespace TrackedOp

variable {σ : Type} (h : Handler σ)

/-- `BroadcastTrafficUpdate` takes the updates when a client is connected. -/
def step (s : SystemMap σ) : TrackedOp → SystemMap σ
  | .operation op => SystemMap.step h s op
  | .getUpdates o =>
    if s.hasClients then
      { s with mapUpdate := (s.mapUpdate.getUpdates o s.toCounterTree).2 }
    else s
  | .clients connected => { s with hasClients := connected }

/-- An operation with a client records what it removes and marks. -/
def Records (s : SystemMap σ) : TrackedOp → Prop
  | .operation op => s.hasClients = true → SystemMap.RecordsRemovals s (SystemMap.step h s op)
  | _ => True

/-- The condition on a step. -/
def Orderly (s : SystemMap σ) : TrackedOp → Prop
  | .operation op => SystemMap.KeepsOrder h s op
  | _ => True

variable {h}

theorem treeKept_step {s : SystemMap σ} (hs : s.shape.TreeKept) (op : TrackedOp)
    (hop : Orderly h s op) : (step h s op).shape.TreeKept := by
  cases op with
  | operation op => exact SystemMap.treeKept_step hs hop
  | getUpdates o =>
    simp only [step]
    split
    · exact hs
    · exact hs
  | clients connected => exact hs

theorem treeKept_init (now : Msec) (hostName : String) (listeners : σ) :
    (SystemMap.init now hostName listeners).shape.TreeKept where
  rooted := ⟨fun _ => rfl, nofun, nofun, nofun, nofun, nofun, fun _ => Nat.zero_lt_succ _⟩
  tuples := SystemMap.tupleInv_init now hostName listeners
  known := (MarkRun.inv_init now hostName listeners).known

/-- **Every removal is recorded** in a run whose operations keep the order. -/
theorem records_of_orderly (h : Handler σ) (now : Msec) (hostName : String) (listeners : σ)
    (ops : List TrackedOp)
    (hops : AllSteps (step h) (Orderly h) (SystemMap.init now hostName listeners) ops) :
    AllSteps (step h) (Records h) (SystemMap.init now hostName listeners) ops := by
  refine AllSteps.imp (I := fun s : SystemMap σ => s.shape.TreeKept) (G := Orderly h)
    (fun s op hs hop => treeKept_step hs op hop) (fun s op hs hop => ?_)
    (treeKept_init now hostName listeners) hops
  cases op with
  | operation op => exact SystemMap.recordsRemovals_step hs hop
  | _ => trivial

/-! ### A client watches -/

open SystemMap in
/-- Process 7 sends a datagram and exits; a tick later it is removed. -/
def watched : List TrackedOp :=
  [.clients true, .operation (.mapSocket quietTraffic.toMapEnv 9 false 7 false),
   .operation (.pushOutgoingTraffic quietTraffic 9 100 (some nameQuery)), .getUpdates .stored,
   .operation (.refreshAllTrafficCounters (stoppedAt 0)),
   .operation (.refreshAllTrafficCounters (stoppedAt 5000))]

/-- The process, its socket and the tuple are recorded. -/
theorem records_of_orderly_watched :
    AllSteps (step fun _ _ (u : Unit) => u) (Records fun _ _ (u : Unit) => u)
      (SystemMap.init 0 "host" ()) watched := by
  have hmapped : ∀ {env : SystemMap.TickEnv} {s : SystemMap Unit},
      s.processes.entries = [⟨7, 5⟩] → (s.process 5).trafficItem.sockets.entries = [⟨9, 6⟩] →
      s.sockets.entries = [⟨9, 6⟩] → (s.socket 6).parentProcess = 5 →
      SystemMap.isStaleSocket env 6 s.toCounterTree = false → SystemMap.TickOrder env s := by
    intro env s hprocesses hheld hsockets hparent hfresh
    have hsock : s.shape.socks 9 = some 6 := UMap.lookup_of_single hsockets
    refine ⟨fun k r ⟨pid, p, hp, _, hk⟩ => ?_, fun c r hr _ q hq => ?_, fun c r hr => ?_⟩
    · obtain ⟨-, rfl⟩ := UMap.lookup_single hprocesses hp
      obtain ⟨rfl, rfl⟩ := UMap.lookup_single hheld hk
      exact .inl hsock
    · obtain ⟨rfl, rfl⟩ := UMap.lookup_single hsockets hr
      rw [hparent] at hq
      exact (UMap.lookup_single hheld hq).2
    · obtain ⟨rfl, rfl⟩ := UMap.lookup_single hsockets hr
      exact hfresh
  refine records_of_orderly _ 0 "host" () _ ⟨trivial, fun _ _ _ _ hp => (nomatch hp),
    fun packet _ hpid => absurd hpid (Int.lt_irrefl 0), trivial, ?_, ?_, trivial⟩
  · exact hmapped (by decide +kernel) (by decide +kernel) (by decide +kernel) (by decide +kernel)
      (by decide +kernel)
  · exact hmapped (by decide +kernel) (by decide +kernel) (by decide +kernel) (by decide +kernel)
      (by decide +kernel)

open SystemMap in
/-- A socket is bound to a port on which the process was found listening at the start. -/
def bound : List TrackedOp :=
  [.operation (.addExistingSockets quietEnv (fun _ => true)
    [{ localEndpoint := { port := 4000 }, protocol := .tcp, pid := 7 }]),
   .clients true, .operation (.mapSocket quietEnv 9 false 7 false),
   .operation (.processSocketEvent (.socketBind4 4000 false 0) 7)]

/-- The daemon when the socket is bound. -/
def boundMap : SystemMap Unit := run (step fun _ _ (u : Unit) => u) (SystemMap.init 0 "host" ()) bound

/-- **The item of the socket found at the start leaves `TrafficItems` unannounced.** -/
theorem records_fails_merged : ¬∀ ops : List TrackedOp,
    AllSteps (step fun _ _ (u : Unit) => u) (Records fun _ _ (u : Unit) => u)
      (SystemMap.init 0 "host" ()) ops := by
  intro hall
  have hlast : Records (fun _ _ (u : Unit) => u) boundMap
      (.operation (.mergeSyntheticSocket .stored 7)) := (hall (bound ++ [_])).last
  obtain ⟨l, hlog, -, hitems⟩ := (hlast (by decide +kernel)).removed
  have hnone : l = [] := by
    have hempty : (SystemMap.step (fun _ _ (u : Unit) => u) boundMap
      (.mergeSyntheticSocket .stored 7)).mapUpdate.removedItems = [] := by decide +kernel
    rw [hempty] at hlog
    exact (List.append_eq_nil_iff.mp hlog.symm).2
  subst hnone
  rcases hitems 6 (by decide +kernel) with hitem | hmem
  · exact absurd (by decide +kernel) hitem
  · exact absurd hmem List.not_mem_nil

end TrackedOp

end Waechter
