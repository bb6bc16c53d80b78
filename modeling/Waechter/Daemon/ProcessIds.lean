import Mathlib.Data.Set.Insert
import Waechter.Daemon.TwoTrees

/-!
# The PIDs of the system map

Which PIDs are keys of `Processes` after an operation of `WSystemMap`. `AddExistingSockets` and
`MapSocketFromTrafficEvent` reject a PID that is not positive, `MapSocket` and
`ReparentOrphanedSocket` only 0.

* `pids_mapSocket`, `pids_reparentOrphanedSocket`: what these two do to the set of PIDs.
* `grows_updateData`: what else an event adds is positive.
* `pids_refreshAllTrafficCounters`: the cleanup only loses PIDs.
-/

namespace Waechter

open Lib

namespace SystemMap

variable {σ : Type} {h : Handler σ}

/-- The keys of `Processes`. -/
def pids (s : SystemMap σ) : Set ProcessId := { q | (s.shape.procs q).isSome }

theorem pids_of_shape {s s' : SystemMap σ} (he : s'.shape = s.shape) : s'.pids = s.pids := by
  unfold pids
  rw [he]

/-- Only positive PIDs are added, and none is lost. -/
structure Grows (s s' : SystemMap σ) : Prop where
  kept : s.pids ⊆ s'.pids
  new : ∀ q ∈ s'.pids, q ∈ s.pids ∨ 0 < q

namespace Grows

variable {s s' s'' : SystemMap σ}

theorem of_eq (he : s'.pids = s.pids) : Grows s s' :=
  ⟨fun _ hq => he ▸ hq, fun _ hq => .inl (he ▸ hq)⟩

theorem of_shape (he : s'.shape = s.shape) : Grows s s' := of_eq (pids_of_shape he)

theorem refl (s : SystemMap σ) : Grows s s := of_eq rfl

theorem trans (h₁ : Grows s s') (h₂ : Grows s' s'') : Grows s s'' where
  kept := h₁.kept.trans h₂.kept
  new := by
    intro q hq
    rcases h₂.new q hq with hq | hq
    · exact h₁.new q hq
    · exact .inr hq

end Grows

/-! ## Mapping -/

theorem pids_findOrMapApplication (o : IterOrder) (now : Msec) (exePath commandLine appName : String)
    (s : SystemMap σ) :
    (findOrMapApplication h o now exePath commandLine appName s).2.pids = s.pids := by
  rcases findOrMapApplication_cases (h := h) o now exePath commandLine appName s with
    ⟨k, -, he⟩ | ⟨k, -, -, he⟩ | ⟨-, -, he⟩
  · rw [he]
  · rw [he]
    simp [pids, TreeShape.upgradeApp]
  · rw [he]
    simp [pids, TreeShape.addApp, TreeShape.registerApp]

/-- A new process of the PID, and its key. -/
theorem pids_addProcess (now : Msec) (pid : ProcessId) (app : Ref) (s : SystemMap σ) :
    (modify (·.addProcess now pid app) s).pids = insert pid s.pids := by
  ext q
  simp only [pids, shape_modify, CounterTree.shape_addProcess, TreeShape.addProcess,
    Function.update_apply, Set.mem_insert_iff, Set.mem_ofPred_eq, shape_toCounterTree]
  split
  · rename_i hq
    simp [hq]
  · rename_i hq
    simp [hq]

theorem pids_findOrMapProcess (now : Msec) (pid : ProcessId) (app : Ref) (s : SystemMap σ) :
    (findOrMapProcess h now pid app s).2.pids = insert pid s.pids := by
  unfold findOrMapProcess
  split
  · rename_i p hp
    have hmem : pid ∈ s.pids := by
      change (s.processes.lookup pid).isSome
      rw [hp]
      rfl
    rw [Set.insert_eq_of_mem hmem]
  · exact (pids_of_shape (shape_notify h _ _)).trans (pids_addProcess now pid app s)

theorem pids_findOrMapSocket (now : Msec) (cookie : SocketCookie) (process : Ref)
    (s : SystemMap σ) : (findOrMapSocket now cookie process s).2.pids = s.pids := by
  unfold findOrMapSocket
  split
  · rfl
  · simp [pids, TreeShape.addSocket]

theorem pids_mapNewSocket (env : MapEnv) (cookie : SocketCookie) (pid : ProcessId)
    (s : SystemMap σ) : (mapNewSocket h env cookie pid s).2.pids = insert pid s.pids := by
  unfold mapNewSocket
  simp only
  rw [pids_findOrMapSocket, pids_findOrMapProcess, pids_findOrMapApplication]

/-- `MapSocket` creates what is missing: it got a cookie and a PID other than 0, and does not know
the socket. -/
def Creates (cookie : SocketCookie) (pid : ProcessId) (s : SystemMap σ) : Prop :=
  cookie ≠ 0 ∧ pid ≠ 0 ∧ s.sockets.lookup cookie = none

instance (cookie : SocketCookie) (pid : ProcessId) (s : SystemMap σ) :
    Decidable (s.Creates cookie pid) :=
  inferInstanceAs (Decidable (_ ∧ _ ∧ _))

/-- **`MapSocket` adds the PID it is called with** when it creates something. -/
theorem pids_mapSocket (env : MapEnv) (cookie : SocketCookie) (established : Bool)
    (pid : ProcessId) (silentFail : Bool) (s : SystemMap σ) :
    (mapSocket h env cookie established pid silentFail s).2.pids =
      if s.Creates cookie pid then insert pid s.pids else s.pids := by
  unfold mapSocket
  by_cases hcookie : cookie = 0
  · have hnot : ¬s.Creates cookie pid := fun hc => hc.1 hcookie
    rw [if_pos hcookie, if_neg hnot]
  · rw [if_neg hcookie]
    by_cases hpid : pid = 0
    · have hnot : ¬s.Creates cookie pid := fun hc => hc.2.1 hpid
      rw [if_pos hpid, if_neg hnot]
      split <;> rfl
    · rw [if_neg hpid]
      cases hsocket : s.sockets.lookup cookie with
      | some r =>
        have hnot : ¬s.Creates cookie pid := fun hc =>
          Option.some_ne_none r (hsocket.symm.trans hc.2.2)
        rw [if_neg hnot]
      | none =>
        rw [if_pos ⟨hcookie, hpid, hsocket⟩]
        exact pids_mapNewSocket env cookie pid s

theorem grows_mapSocket (env : MapEnv) (cookie : SocketCookie) (established : Bool)
    {pid : ProcessId} (hpid : 0 < pid) (silentFail : Bool) (s : SystemMap σ) :
    Grows s (mapSocket h env cookie established pid silentFail s).2 := by
  have he := pids_mapSocket (h := h) env cookie established pid silentFail s
  split at he
  · refine ⟨fun q hq => he ▸ Set.mem_insert_of_mem pid hq, fun q hq => ?_⟩
    rw [he] at hq
    rcases Set.mem_insert_iff.mp hq with rfl | hq
    · exact .inr hpid
    · exact .inl hq
  · exact .of_eq he

theorem grows_addExistingSockets (env : MapEnv) (isProcessRunning : ProcessId → Bool)
    (infos : List ListenSocketInfo) (s : SystemMap σ) :
    Grows s (addExistingSockets h env isProcessRunning infos s) := by
  have hturn : ∀ (acc : SocketCookie × SystemMap σ) (info : ListenSocketInfo),
      Grows acc.2 (addExistingSocket h env isProcessRunning acc info).2 := by
    intro acc info
    unfold addExistingSocket
    split
    · exact .refl _
    · rename_i hrejected
      have hpid : 0 < info.pid := Int.not_le.mp fun hle => hrejected (.inl hle)
      have hmap := grows_mapSocket (h := h) env acc.1 false hpid false acc.2
      simp only
      split
      · exact hmap
      · exact hmap.trans (.of_shape (shape_editSocket ⟨rfl, rfl, rfl⟩))
  have hloop : ∀ (l : List ListenSocketInfo) (acc : SocketCookie × SystemMap σ),
      Grows acc.2 (l.foldl (addExistingSocket h env isProcessRunning) acc).2 := by
    intro l
    induction l with
    | nil => exact fun acc => .refl _
    | cons info l ih => exact fun acc => (hturn acc info).trans (ih _)
  exact hloop infos (syntheticCookieBase, s)

/-! ## Traffic -/

theorem grows_mapSocketFromTrafficEvent (env : TrafficEnv) (cookie : SocketCookie)
    (d : PacketDirection) (header : Option PacketHeader) (s : SystemMap σ) :
    Grows s (mapSocketFromTrafficEvent h env cookie d header s).2 := by
  unfold mapSocketFromTrafficEvent
  split
  · exact .refl s
  · simp only
    split
    · exact .refl s
    · rename_i hpid
      have hmap := grows_mapSocket (h := h) env.toMapEnv cookie false (Int.not_le.mp hpid) false s
      split
      · exact hmap
      · exact hmap.trans (.of_shape (shape_editSocket ⟨rfl, rfl, rfl⟩))

theorem grows_pushTuple (now : Msec) (d : PacketDirection) (bytes : WBytes) (remote : Endpoint)
    (socket : Ref) (s : SystemMap σ) : Grows s (pushTuple h now d bytes remote socket s) := by
  have htuple : (getOrCreateUDPTupleCounter h now socket remote s).2.pids = s.pids := by
    unfold getOrCreateUDPTupleCounter
    split
    · rfl
    · simp [pids, TreeShape.addTuple]
  refine .of_eq (Eq.trans ?_ htuple)
  unfold pushTuple
  simp only
  have hshape := (shape_pushFilters (h := h) d bytes remote
    (call h (.tuple (getOrCreateUDPTupleCounter h now socket remote s).1) (pushCall d bytes)
      (getOrCreateUDPTupleCounter h now socket remote s).2)).trans (shape_call h _ _ _)
  split
  · exact pids_of_shape hshape
  · exact pids_of_shape ((shape_addTupleAddition _ _ _).trans hshape)

theorem grows_doPacketParsing (env : TrafficEnv) (d : PacketDirection) (bytes : WBytes)
    (header : Option PacketHeader) (socket : Ref) (s : SystemMap σ) :
    Grows s (doPacketParsing h env d bytes header socket s) := by
  unfold doPacketParsing
  simp only
  split
  · exact .refl s
  · split
    · exact .refl s
    · rename_i header
      have hedit : Grows s (modify (·.editSocket socket fun _ =>
          (applyPacketHeader env d header (s.socket socket).trafficItem).1) s) :=
        .of_shape (shape_editSocket ⟨rfl, rfl, rfl⟩)
      have hpush : Grows s (if header.l4Proto = .udp ∧ !(header.remote d).address.isZero then
          pushTuple h env.now d bytes (header.remote d) socket
            (modify (·.editSocket socket fun _ =>
              (applyPacketHeader env d header (s.socket socket).trafficItem).1) s)
        else modify (·.editSocket socket fun _ =>
          (applyPacketHeader env d header (s.socket socket).trafficItem).1) s) := by
        split
        · exact hedit.trans (grows_pushTuple _ d bytes _ socket _)
        · exact hedit
      split
      · exact hpush.trans (.of_shape (shape_addStateChange _ _))
      · exact hpush

theorem grows_pushIncomingTraffic (env : TrafficEnv) (cookie : SocketCookie) (bytes : WBytes)
    (header : Option PacketHeader) (s : SystemMap σ) :
    Grows s (pushIncomingTraffic h env cookie bytes header s) := by
  have hcall : Grows s (call h .system (.pushIncomingTraffic bytes) s) :=
    .of_shape (shape_call h _ _ s)
  unfold pushIncomingTraffic
  simp only
  split
  · exact hcall
  · exact hcall.trans ((Grows.of_shape (shape_pushTrafficForSocket _ bytes _ _)).trans
      (grows_doPacketParsing env _ bytes header _ _))

theorem grows_pushOutgoingTraffic (env : TrafficEnv) (cookie : SocketCookie) (bytes : WBytes)
    (header : Option PacketHeader) (s : SystemMap σ) :
    Grows s (pushOutgoingTraffic h env cookie bytes header s) := by
  have hcall : Grows s (call h .system (.pushOutgoingTraffic bytes) s) :=
    .of_shape (shape_call h _ _ s)
  have hpush (r : Ref) (s : SystemMap σ) : Grows s (doPacketParsing h env .outgoing bytes header r
      (pushTrafficForSocket h .outgoing bytes r s)) :=
    (Grows.of_shape (shape_pushTrafficForSocket _ bytes _ _)).trans
      (grows_doPacketParsing env _ bytes header _ _)
  unfold pushOutgoingTraffic
  simp only
  cases hlookup : (call h .system (.pushOutgoingTraffic bytes) s).sockets.lookup cookie with
  | some r => exact hcall.trans (hpush r _)
  | none =>
    have hmapped : Grows s (mapSocketFromTrafficEvent h env cookie .outgoing header
        (call h .system (.pushOutgoingTraffic bytes) s)).2 :=
      hcall.trans (grows_mapSocketFromTrafficEvent env cookie .outgoing header _)
    simp only
    split
    · exact hmapped
    · exact hmapped.trans (hpush _ _)

/-! ## Events -/

theorem pids_mergeSyntheticSocket (o : IterOrder) (r : Ref) (s : SystemMap σ) :
    (mergeSyntheticSocket h o r s).pids = s.pids := by
  unfold mergeSyntheticSocket
  simp only
  split
  · rfl
  · split
    · rfl
    · rename_i existing hfound
      have hedit := shape_editSocket (r := r)
        (f := transferEndpoint (s.socket existing.2).trafficItem.socketTuple) (s := s)
        ⟨rfl, rfl, rfl⟩
      simp only [pids, shape_markItemForRemoval, shape_modify, shape_toCounterTree,
        CounterTree.shape_dropSynthetic, TreeShape.dropSynthetic, TreeShape.eraseSocket,
        TreeShape.eraseTrafficItem, TreeShape.eraseProcessSocket, shape_notify] at hedit ⊢
      rw [hedit]

theorem pids_reparentAcceptedSocket (r : Ref) (s : SystemMap σ) :
    (reparentAcceptedSocket h r s).pids = s.pids := by
  unfold reparentAcceptedSocket
  simp only
  split
  · rfl
  · simp [pids, TreeShape.orphan]

/-- After an event is mapped, handling it only adds positive PIDs. -/
theorem grows_updateData (env : TrafficEnv) (event : SocketEvent) (s : SystemMap σ) :
    Grows (mapSocket h env.toMapEnv event.cookie event.data.isEstablished event.pid
      event.data.silentFail s).2 (updateData h env event s) := by
  have hmerged (data : NetEvent) (r : Ref) (s : SystemMap σ) :
      (mergeSyntheticSocket h env.order r (processSocketEvent h data r s)).pids = s.pids :=
    (pids_mergeSyntheticSocket env.order r _).trans
      (pids_of_shape (shape_processSocketEvent data r s))
  unfold updateData
  cases event.data with
  | traffic d bytes header =>
    cases d with
    | incoming => exact grows_pushIncomingTraffic env _ bytes header _
    | outgoing => exact grows_pushOutgoingTraffic env _ bytes header _
  | socketClosed localPort =>
    exact .of_shape (shape_markSocketForRemoval env.order env.now _ localPort _)
  | _ =>
    dsimp only
    split
    · exact .refl _
    · split
      · exact .of_eq ((pids_reparentAcceptedSocket _ _).trans (hmerged _ _ _))
      · exact .of_eq (hmerged _ _ _)

/-- **`ReparentOrphanedSocket` adds the PID it is called with** when a socket waits for it and the
PID is not 0. -/
theorem pids_reparentOrphanedSocket (now : Msec) (endpoint : Endpoint) (pid : ProcessId)
    (s : SystemMap σ) :
    (reparentOrphanedSocket h now endpoint pid s).pids =
      if (s.orphanedSockets.lookup endpoint).isSome ∧ pid ≠ 0 then insert pid s.pids
      else s.pids := by
  unfold reparentOrphanedSocket
  cases horphan : s.orphanedSockets.lookup endpoint with
  | none => simp
  | some r =>
    by_cases hpid : pid = 0
    · simp [hpid, pids, TreeShape.forgetOrphan]
    · rw [if_pos ⟨rfl, hpid⟩]
      simp only [if_neg hpid]
      -- whether or not the application was cleaned up, and is registered again
      have hregistered : ∀ s' : SystemMap σ, s'.pids = s.pids →
          ∀ app, (addSocketAddition r (modify (·.forgetOrphan endpoint)
            (modify (·.attachSocket r (findOrMapProcess h now pid app s').1)
              (findOrMapProcess h now pid app s').2))).pids = insert pid s.pids := by
        intro s' hs' app
        have hattach : (addSocketAddition r (modify (·.forgetOrphan endpoint)
            (modify (·.attachSocket r (findOrMapProcess h now pid app s').1)
              (findOrMapProcess h now pid app s').2))).pids =
            (findOrMapProcess h now pid app s').2.pids := by
          simp [pids, TreeShape.forgetOrphan, TreeShape.attachSocket]
        rw [hattach, pids_findOrMapProcess, hs']
      split
      · exact hregistered s rfl _
      · refine hregistered _ ?_ _
        simp [pids, TreeShape.registerApp]

/-- **A socket that `ReparentOrphanedSocket` attaches** gets the process of the PID as its parent;
with the PID 0 it keeps the old one. -/
theorem parent_reparentOrphanedSocket (now : Msec) {endpoint : Endpoint} {r : Ref}
    (pid : ProcessId) {s : SystemMap σ} (horphan : s.orphanedSockets.lookup endpoint = some r) :
    pid = 0 ∧ ((reparentOrphanedSocket h now endpoint pid s).socket r).parentProcess =
        (s.socket r).parentProcess ∨
      pid ≠ 0 ∧ (reparentOrphanedSocket h now endpoint pid s).processes.lookup pid =
        some ((reparentOrphanedSocket h now endpoint pid s).socket r).parentProcess := by
  have hprocess : ∀ (app : Ref) (s : SystemMap σ),
      (findOrMapProcess h now pid app s).2.shape.procs pid =
        some (findOrMapProcess h now pid app s).1 := by
    intro app s
    unfold findOrMapProcess
    split
    · assumption
    · rw [shape_notify, shape_modify, CounterTree.shape_addProcess]
      exact Function.update_self pid _ _
  have hattach : ∀ out : Ref × SystemMap σ, out.2.shape.procs pid = some out.1 →
      (addSocketAddition r (modify (·.forgetOrphan endpoint)
          (modify (·.attachSocket r out.1) out.2))).shape.procs pid =
        some ((addSocketAddition r (modify (·.forgetOrphan endpoint)
          (modify (·.attachSocket r out.1) out.2))).shape.sockProc r) := by
    intro out hout
    rw [shape_addSocketAddition, shape_modify, CounterTree.shape_forgetOrphan, shape_toCounterTree,
      shape_modify, CounterTree.shape_attachSocket, shape_toCounterTree]
    refine hout.trans (congrArg some ?_)
    exact (Function.update_self r out.1 out.2.shape.sockProc).symm
  unfold reparentOrphanedSocket
  rw [horphan]
  simp only
  split
  · rename_i hpid
    exact .inl ⟨hpid, rfl⟩
  · rename_i hpid
    exact .inr ⟨hpid, hattach _ (hprocess _ _)⟩

/-! ## Cleanup -/

/-- A loop whose turns keep the PIDs. -/
theorem pids_foldl {α : Type} {f : SystemMap σ → α → SystemMap σ}
    (hf : ∀ s x, (f s x).pids = s.pids) :
    ∀ (l : List α) (s : SystemMap σ), (l.foldl f s).pids = s.pids
  | [], _ => rfl
  | x :: l, s => (pids_foldl hf l (f s x)).trans (hf s x)

theorem pids_dropProcessCounter (env : TickEnv) (r counter : Ref)
    (acc : List Endpoint × SystemMap σ) :
    (dropProcessCounter h env r counter acc).2.pids = acc.2.pids := by
  unfold dropProcessCounter
  simp only
  split <;> simp [pids, shape_dropProcessTuples, TreeShape.clearTupleCounters,
    TreeShape.eraseTrafficItems, TreeShape.orphan]

theorem pids_dropProcessSocket (env : TickEnv) (acc : List Endpoint × SystemMap σ)
    (entry : SocketCookie × Ref) : (dropProcessSocket h env acc entry).2.pids = acc.2.pids := by
  have herased : ∀ i, (addItemRemoval i (modify (·.eraseTrafficItem i) acc.2)).pids =
      acc.2.pids := by
    intro i
    simp [pids, TreeShape.eraseTrafficItem]
  have hout : ∀ s : SystemMap σ,
      (modify (·.eraseSocket entry.1) (modify (·.clearTupleItems entry.2) s)).pids = s.pids := by
    intro s
    simp [pids, TreeShape.eraseSocket, TreeShape.clearTupleItems]
  unfold dropProcessSocket
  simp only
  rw [hout]
  split
  · exact (pids_dropProcessCounter env _ _ _).trans (herased _)
  · exact herased _

theorem pids_removeProcess (env : TickEnv) (pid : ProcessId) (p : Ref) (s : SystemMap σ) :
    (removeProcess h env pid p s).pids ⊆ s.pids := by
  set s1 := call h (.app (s.process p).parentApp) (.pushIncomingTraffic 0)
    (call h .system (.pushIncomingTraffic 0) s) with hs1
  have hcalls : s1.pids = s.pids := by
    rw [hs1]
    simp [pids]
  have hloop : ∀ (l : List (SocketCookie × Ref)) (acc : List Endpoint × SystemMap σ),
      (l.foldl (dropProcessSocket h env) acc).2.pids = acc.2.pids := by
    intro l
    induction l with
    | nil => exact fun acc => rfl
    | cons entry l ih => exact fun acc => (ih _).trans (pids_dropProcessSocket env acc entry)
  have hdropped := (hloop (env.order.entries (s1.process p).trafficItem.sockets)
    ([], s1)).trans hcalls
  intro q hq
  rw [← hdropped]
  unfold removeProcess at hq
  simp only [← hs1] at hq
  simp only [pids, shape_modify, CounterTree.shape_eraseProcess, TreeShape.eraseProcess,
    CounterTree.shape_eraseTrafficItem, TreeShape.eraseTrafficItem, shape_toCounterTree,
    shape_addItemRemoval, CounterTree.shape_eraseAppProcess, TreeShape.eraseAppProcess,
    shape_notify, Function.update_apply, Set.mem_ofPred_eq] at hq ⊢
  split at hq
  · cases hq
  · exact hq

theorem pids_cleanupProcess (env : TickEnv) (s : SystemMap σ) (entry : ProcessId × Ref) :
    (cleanupProcess h env s entry).pids ⊆ s.pids := by
  unfold cleanupProcess
  simp only
  set s1 := if !env.isProcessRunning entry.1 ∧ !(s.process entry.2).isMarkedForRemoval then
      markItemForRemoval (s.process entry.2).trafficItem.itemId
        (call h (.process entry.2) (.markForRemoval (env.cleanupTime (.process entry.2))) s)
    else s with hs1
  have hmarked : s1.pids = s.pids := by
    rw [hs1]
    split <;> simp [pids]
  rw [← hmarked]
  split
  · exact pids_removeProcess env _ _ s1
  · exact Set.Subset.refl _

theorem pids_removeSocket (env : TickEnv) (cookie : SocketCookie) (r : Ref) (s : SystemMap σ) :
    (removeSocket h env cookie r s).pids = s.pids := by
  have hnotify : ∀ us : List Ref, (us.foldl (fun s u => notify h (.onUDPTupleRemoved u) s)
      (notify h (.onSocketRemoved r) s)).pids = s.pids :=
    fun us => (pids_foldl (fun s u => pids_of_shape (shape_notify h _ s)) us _).trans
      (pids_of_shape (shape_notify h _ s))
  unfold removeSocket
  simp only
  refine Eq.trans ?_ (hnotify (env.order.values
    ((notify h (.onSocketRemoved r) s).socket r).udpPerConnectionCounters))
  simp [pids, shape_dropSocketTuples, TreeShape.eraseSocket, TreeShape.clearTupleItems,
    TreeShape.clearTupleCounters, TreeShape.eraseTrafficItems, TreeShape.eraseTrafficItem,
    TreeShape.eraseProcessSocket]

theorem pids_cleanupTuple (env : TickEnv) (r : Ref) (s : SystemMap σ) (entry : Endpoint × Ref) :
    (cleanupTuple h env r s entry).pids = s.pids := by
  unfold cleanupTuple
  simp only
  split
  · simp [pids, TreeShape.eraseTuple, TreeShape.eraseTrafficItem]
  · rfl

theorem pids_cleanupSocket (env : TickEnv) (s : SystemMap σ) (entry : SocketCookie × Ref) :
    (cleanupSocket h env s entry).pids = s.pids := by
  unfold cleanupSocket
  simp only
  split
  · exact pids_removeSocket env _ _ s
  · rw [pids_foldl (pids_cleanupTuple env entry.2)]
    split <;> simp [pids]

theorem pids_cleanupApp (s : SystemMap σ) (entry : String × Ref) :
    (cleanupApp s entry).pids = s.pids := by
  unfold cleanupApp
  simp only
  split
  · simp [pids, TreeShape.eraseApp, TreeShape.eraseTrafficItem]
  · rfl

/-- Refresh and cleanup only lose PIDs. -/
theorem pids_refreshAllTrafficCounters (env : TickEnv) (s : SystemMap σ) :
    (refreshAllTrafficCounters h env s).pids ⊆ s.pids := by
  have hprocesses : ∀ (l : List (ProcessId × Ref)) (s : SystemMap σ),
      (l.foldl (cleanupProcess h env) s).pids ⊆ s.pids := by
    intro l
    induction l with
    | nil => exact fun s => Set.Subset.refl _
    | cons entry l ih => exact fun s => (ih _).trans (pids_cleanupProcess env s entry)
  unfold refreshAllTrafficCounters cleanup
  simp only
  rw [pids_foldl pids_cleanupApp, pids_foldl (pids_cleanupSocket env),
    ← pids_of_shape (shape_refreshCounters env s)]
  exact hprocesses _ _

end SystemMap

end Waechter
