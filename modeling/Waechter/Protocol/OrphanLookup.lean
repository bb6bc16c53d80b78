import Waechter.Daemon.ByteAccounting
import Waechter.Daemon.SocketStateParser
import Waechter.Daemon.TwoTrees
import Waechter.Lib.Waiting

/-!
# Looking up the owners of orphaned sockets

The daemon does not run as root, so it asks the helper process who has a socket open: `Cleanup` when
the process of an open socket exits, `ReparentAcceptedSocket` for a socket that was accepted. The
socket waits in `OrphanedSockets` under its local endpoint. The helper answers with one PID for each
endpoint (`LookupEndpoints`), and `OnDataReceived` hands the answers to `ReparentOrphanedSocket` one
after the other.

Messages come in the order they are sent, so an answer belongs to the oldest lookup without one.
What the daemon does not have is the socket of that lookup: it takes whatever waits under the
endpoint.

* `waits_step_iff`: when a step leaves every socket that is looked up waiting.
* `resolves_step`: if they all wait, the next answer goes to the socket it is for.
* `always_waits_iff`: the exact condition on the steps of a run.
* `acceptedTwice_lost`: of two connections to one port the first is never resolved.
-/

namespace Waechter

open Lib

/-- The messages to the helper that it has not handled, oldest first. -/
abbrev LookupMessages := List (List Endpoint)

/-- `SendLookupMessage`. -/
def sendLookupMessage : Handler LookupMessages := fun n _ messages =>
  match n with
  | .sendLookupMessage endpoints => messages ++ [endpoints]
  | _ => messages

namespace SystemMap

/-! ## What an operation asks for -/

section Queued

variable {σ : Type} (h : Handler σ)

/-- The socket of an accept event, with the local endpoint it is looked up by. -/
def queuedByEvent (env : TrafficEnv) (event : SocketEvent) (s : SystemMap σ) :
    List (Endpoint × Ref) :=
  let mapped := mapSocket h env.toMapEnv event.cookie event.data.isEstablished event.pid
    event.data.silentFail s
  match mapped.1 with
  | none => []
  | some r =>
    let s := mergeSyntheticSocket h env.order r (processSocketEvent h event.data r mapped.2)
    let endpoint := (s.socket r).trafficItem.socketTuple.localEndpoint
    if event.data.isAccept ∧ endpoint.port ≠ 0 then [(endpoint, r)] else []

variable (env : TickEnv)

/-- A socket of a process that is removed: it is looked up when it was not closed. -/
def queuedCounter (r counter : Ref) (s : SystemMap σ) : List (Endpoint × Ref) :=
  let item := (s.socket r).trafficItem
  if item.connectionState ≠ .closed then [(item.socketTuple.localEndpoint, counter)] else []

/-- It must still be in `Sockets`. -/
def queuedSocket (entry : SocketCookie × Ref) (s : SystemMap σ) : List (Endpoint × Ref) :=
  match s.sockets.lookup entry.1 with
  | none => []
  | some counter => queuedCounter entry.2 counter s

/-- The sockets of a process that is removed. -/
def queuedByProcess : List (SocketCookie × Ref) → SystemMap σ → List (Endpoint × Ref)
  | [], _ => []
  | entry :: entries, s =>
    queuedSocket entry s ++ queuedByProcess entries (dropProcessSocket h env ([], s) entry).2

/-- A process that is not running is marked first. -/
def markExited (entry : ProcessId × Ref) (s : SystemMap σ) : SystemMap σ :=
  if !env.isProcessRunning entry.1 ∧ !(s.process entry.2).isMarkedForRemoval then
    markItemForRemoval (s.process entry.2).trafficItem.itemId
      (call h (.process entry.2) (.markForRemoval (env.cleanupTime (.process entry.2))) s)
  else s

/-- What waits when the loop of `Cleanup` is at a process. -/
def queuedByTurn (entry : ProcessId × Ref) (s : SystemMap σ) : List (Endpoint × Ref) :=
  let s := markExited h env entry s
  if (s.process entry.2).dueForRemoval (env.cleanupTime (.process entry.2)) then
    let app := (s.process entry.2).parentApp
    let s := call h (.app app) (.pushIncomingTraffic 0) (call h .system (.pushIncomingTraffic 0) s)
    queuedByProcess h env (env.order.entries (s.process entry.2).trafficItem.sockets) s
  else []

/-- The loop of `Cleanup` over the processes. -/
def queuedByCleanup : List (ProcessId × Ref) → SystemMap σ → List (Endpoint × Ref)
  | [], _ => []
  | entry :: entries, s =>
    queuedByTurn h env entry s ++ queuedByCleanup entries (cleanupProcess h env s entry)

end Queued

/-- From `s` to `s'` exactly `new` is put into `OrphanedSockets` and exactly `sent` is sent. -/
structure Asks (s s' : SystemMap LookupMessages) (new : List (Endpoint × Ref))
    (sent : List Endpoint) : Prop where
  waiting : s'.shape.orphans = request s.shape.orphans new
  messages : s'.listeners.flatten = s.listeners.flatten ++ sent

namespace Asks

variable {s s' s'' : SystemMap LookupMessages} {new new' : List (Endpoint × Ref)}
  {sent sent' : List Endpoint}

/-! ## One operation -/

theorem refl (s : SystemMap LookupMessages) : Asks s s [] [] := ⟨rfl, (List.append_nil _).symm⟩

theorem trans (h₁ : Asks s s' new sent) (h₂ : Asks s' s'' new' sent') :
    Asks s s'' (new ++ new') (sent ++ sent') where
  waiting := by rw [h₂.waiting, h₁.waiting, request_append]
  messages := by rw [h₂.messages, h₁.messages, List.append_assoc]

theorem notified (h : Asks s s' new sent) {n : Notice}
    (hn : sendLookupMessage n s'.toCounterTree s'.listeners = s'.listeners) :
    Asks s (notify sendLookupMessage n s') new sent :=
  ⟨h.waiting, (congrArg List.flatten hn).trans h.messages⟩

theorem modified (h : Asks s s' new sent) {f : CounterTree → CounterTree}
    (hf : (f s'.toCounterTree).orphanedSockets = s'.orphanedSockets) :
    Asks s (modify f s') new sent := by
  refine ⟨Eq.trans ?_ h.waiting, h.messages⟩
  change (fun e => (f s'.toCounterTree).orphanedSockets.lookup e) = _
  rw [hf]
  rfl

theorem recorded (h : Asks s s' new sent) (f : Bool → MapUpdate → MapUpdate) :
    Asks s (record f s') new sent := ⟨h.waiting, h.messages⟩

theorem called (h : Asks s s' new sent) (who : CounterId) (c : CounterCall) :
    Asks s (call sendLookupMessage who c s') new sent := by
  have hcall : (s'.toCounterTree.applyCall who c).orphanedSockets = s'.orphanedSockets := by
    cases who <;> rfl
  exact (h.notified (n := .call who c) rfl).modified hcall

theorem orphaned (h : Asks s s' new sent) (e : Endpoint) (r : Ref) :
    Asks s (modify (·.orphan e r) s') (new ++ [(e, r)]) sent := by
  refine ⟨?_, h.messages⟩
  rw [shape_modify, CounterTree.shape_orphan, request_append, ← h.waiting]
  rfl

theorem lookedUp (h : Asks s s' new sent) (endpoints : List Endpoint) :
    Asks s (notify sendLookupMessage (.sendLookupMessage endpoints) s') new
      (sent ++ endpoints) := by
  refine ⟨h.waiting, ?_⟩
  refine (List.flatten_concat (l := endpoints)).trans ?_
  rw [h.messages, List.append_assoc]

/-- A loop whose turns ask for nothing. -/
theorem loop {α : Type} {f : SystemMap LookupMessages → α → SystemMap LookupMessages}
    (hf : ∀ s a, Asks s (f s a) [] []) :
    ∀ (l : List α) {s' : SystemMap LookupMessages}, Asks s s' new sent →
      Asks s (l.foldl f s') new sent
  | [], _, h => h
  | a :: l, s', h => loop hf l (by simpa using h.trans (hf s' a))

/-! ### Mapping -/

theorem findOrMapApplication (hs : Asks s s' new sent) (o : IterOrder) (now : Msec)
    (exePath commandLine appName : String) :
    Asks s (findOrMapApplication sendLookupMessage o now exePath commandLine appName s').2 new
      sent := by
  unfold SystemMap.findOrMapApplication
  simp only
  split
  · exact hs
  · split
    · exact hs
    · exact (hs.modified rfl).notified rfl
    · exact (hs.modified rfl).notified rfl

theorem findOrMapProcess (hs : Asks s s' new sent) (now : Msec) (pid : ProcessId) (a : Ref) :
    Asks s (findOrMapProcess sendLookupMessage now pid a s').2 new sent := by
  unfold SystemMap.findOrMapProcess
  split
  · exact hs
  · exact (hs.modified rfl).notified rfl

theorem findOrMapSocket (hs : Asks s s' new sent) (now : Msec) (cookie : SocketCookie) (p : Ref) :
    Asks s (findOrMapSocket now cookie p s').2 new sent := by
  unfold SystemMap.findOrMapSocket
  split
  · exact hs
  · exact (hs.modified (f := (·.addSocket now cookie p)) rfl).recorded
      fun track => MapUpdate.addSocketAddition track s'.nextItemId

theorem mapSocket (hs : Asks s s' new sent) (env : MapEnv) (cookie : SocketCookie)
    (established : Bool) (pid : ProcessId) (silentFail : Bool) :
    Asks s (mapSocket sendLookupMessage env cookie established pid silentFail s').2 new sent := by
  unfold SystemMap.mapSocket
  split
  · exact hs
  · split
    · split <;> exact hs
    · split
      · exact hs
      · exact ((hs.findOrMapApplication ..).findOrMapProcess ..).findOrMapSocket ..

theorem addExistingSockets (hs : Asks s s' new sent) (env : MapEnv)
    (isProcessRunning : ProcessId → Bool) (infos : List ListenSocketInfo) :
    Asks s (addExistingSockets sendLookupMessage env isProcessRunning infos s') new sent := by
  have hloop : ∀ (l : List ListenSocketInfo) (acc : SocketCookie × SystemMap LookupMessages),
      Asks s acc.2 new sent →
        Asks s (l.foldl (addExistingSocket sendLookupMessage env isProcessRunning) acc).2 new
          sent := by
    intro l
    induction l with
    | nil => exact fun acc hacc => hacc
    | cons info l ih =>
      intro acc hacc
      refine ih _ ?_
      unfold addExistingSocket
      split
      · exact hacc
      · have hmapped := hacc.mapSocket env acc.1 false info.pid false
        simp only
        split
        · exact hmapped
        · exact hmapped.modified rfl
  exact hloop infos _ hs

/-! ### Events and traffic -/

theorem processSocketEvent (hs : Asks s s' new sent) (e : NetEvent) (r : Ref) :
    Asks s (processSocketEvent sendLookupMessage e r s') new sent := by
  have hevent : Asks s (modify (·.editSocket r e.apply) s') new sent := hs.modified rfl
  unfold SystemMap.processSocketEvent
  simp only
  split
  · split
    · exact hevent.notified rfl
    · exact (hevent.notified rfl).recorded _
  · split
    · exact hevent
    · exact hevent.recorded _

theorem mergeSyntheticSocket (hs : Asks s s' new sent) (o : IterOrder) (r : Ref) :
    Asks s (mergeSyntheticSocket sendLookupMessage o r s') new sent := by
  unfold SystemMap.mergeSyntheticSocket
  simp only
  split
  · exact hs
  · split
    · exact hs
    · exact (((hs.modified rfl).notified rfl).modified rfl).recorded _

theorem pushFilters (hs : Asks s s' new sent) (d : PacketDirection) (bytes : WBytes)
    (remote : Endpoint) : Asks s (pushFilters sendLookupMessage d bytes remote s') new sent := by
  unfold SystemMap.pushFilters
  refine loop (fun s i => ?_) _ hs
  split
  · exact (refl s).called _ _
  · exact refl s

theorem pushTrafficForSocket (hs : Asks s s' new sent) (d : PacketDirection) (bytes : WBytes)
    (r : Ref) :
    Asks s (pushTrafficForSocket sendLookupMessage d bytes r s') new sent := by
  unfold SystemMap.pushTrafficForSocket
  simp only
  exact ((((hs.called _ _).called _ _).called _ _).pushFilters d bytes _).modified rfl

theorem doPacketParsing (hs : Asks s s' new sent) (env : TrafficEnv) (d : PacketDirection)
    (bytes : WBytes) (header : Option PacketHeader) (r : Ref) :
    Asks s (doPacketParsing sendLookupMessage env d bytes header r s') new sent := by
  unfold SystemMap.doPacketParsing
  simp only
  split
  · exact hs
  · split
    · exact hs
    · rename_i header
      have hedited : Asks s (modify (·.editSocket r fun _ =>
          (applyPacketHeader env d header (s'.socket r).trafficItem).1) s') new sent :=
        hs.modified rfl
      have htuple : Asks s (pushTuple sendLookupMessage env.now d bytes (header.remote d) r
          (modify (·.editSocket r fun _ =>
            (applyPacketHeader env d header (s'.socket r).trafficItem).1) s')) new sent := by
        unfold pushTuple getOrCreateUDPTupleCounter
        simp only
        split <;> split
        · exact (hedited.called _ _).pushFilters d bytes _
        · exact (((hedited.modified rfl).notified rfl).called _ _).pushFilters d bytes _
        · exact ((hedited.called _ _).pushFilters d bytes _).recorded _
        · exact ((((hedited.modified rfl).notified rfl).called _ _).pushFilters d bytes _).recorded
            _
      split <;> split
      · exact htuple.recorded _
      · exact hedited.recorded _
      · exact htuple
      · exact hedited

theorem pushIncomingTraffic (hs : Asks s s' new sent) (env : TrafficEnv) (cookie : SocketCookie)
    (bytes : WBytes) (header : Option PacketHeader) :
    Asks s (pushIncomingTraffic sendLookupMessage env cookie bytes header s') new sent := by
  have hcalled : Asks s (call sendLookupMessage .system (.pushIncomingTraffic bytes) s') new sent :=
    hs.called _ _
  unfold SystemMap.pushIncomingTraffic
  simp only
  split
  · exact hcalled
  · exact (hcalled.pushTrafficForSocket ..).doPacketParsing ..

theorem mapSocketFromTrafficEvent (hs : Asks s s' new sent) (env : TrafficEnv)
    (cookie : SocketCookie) (d : PacketDirection) (header : Option PacketHeader) :
    Asks s (mapSocketFromTrafficEvent sendLookupMessage env cookie d header s').2 new sent := by
  unfold SystemMap.mapSocketFromTrafficEvent
  split
  · exact hs
  · simp only
    split
    · exact hs
    · split
      · exact hs.mapSocket ..
      · exact (hs.mapSocket ..).modified rfl

theorem pushOutgoingTraffic (hs : Asks s s' new sent) (env : TrafficEnv) (cookie : SocketCookie)
    (bytes : WBytes) (header : Option PacketHeader) :
    Asks s (pushOutgoingTraffic sendLookupMessage env cookie bytes header s') new sent := by
  have hcalled : Asks s (call sendLookupMessage .system (.pushOutgoingTraffic bytes) s') new sent :=
    hs.called _ _
  unfold SystemMap.pushOutgoingTraffic
  simp only
  generalize call sendLookupMessage .system (.pushOutgoingTraffic bytes) s' = s1 at hcalled ⊢
  cases s1.sockets.lookup cookie with
  | some r => exact (hcalled.pushTrafficForSocket ..).doPacketParsing ..
  | none =>
    simp only
    split
    · exact hcalled.mapSocketFromTrafficEvent ..
    · exact ((hcalled.mapSocketFromTrafficEvent ..).pushTrafficForSocket ..).doPacketParsing ..

theorem closeSocket (hs : Asks s s' new sent) (now : Msec) (r : Ref) :
    Asks s (closeSocket sendLookupMessage now r s') new sent := by
  unfold SystemMap.closeSocket
  simp only
  exact (((((hs.called _ _).modified rfl).recorded _).called _ _).called _ _).called _ _

theorem markSocketForRemoval (hs : Asks s s' new sent) (o : IterOrder) (now : Msec)
    (cookie : SocketCookie) (localPort : UInt32) :
    Asks s (markSocketForRemoval sendLookupMessage o now cookie localPort s') new sent := by
  unfold SystemMap.markSocketForRemoval
  split
  · exact hs
  · simp only
    split
    · split
      · exact (hs.closeSocket ..).closeSocket ..
      · exact hs.closeSocket ..
    · exact hs.closeSocket ..

/-- An accepted socket waits, and its endpoint is looked up. -/
theorem reparentAcceptedSocket (hs : Asks s s' new sent) (r : Ref) :
    let endpoint := (s'.socket r).trafficItem.socketTuple.localEndpoint
    Asks s (reparentAcceptedSocket sendLookupMessage r s')
      (new ++ if endpoint.port = 0 then [] else [(endpoint, r)])
      (sent ++ if endpoint.port = 0 then [] else [endpoint]) := by
  unfold SystemMap.reparentAcceptedSocket
  simp only
  split
  · simpa using hs
  · exact (hs.orphaned _ r).lookedUp _

/-- **What an event asks for.** -/
theorem updateData (env : TrafficEnv) (event : SocketEvent) (s : SystemMap LookupMessages) :
    Asks s (updateData sendLookupMessage env event s)
      (queuedByEvent sendLookupMessage env event s)
      ((queuedByEvent sendLookupMessage env event s).map Prod.fst) := by
  have hmapped := (refl s).mapSocket env.toMapEnv event.cookie event.data.isEstablished event.pid
    event.data.silentFail
  have hquiet (hdata : event.data.isAccept = false) :
      queuedByEvent sendLookupMessage env event s = [] := by
    unfold queuedByEvent
    simp only [hdata]
    split <;> simp
  have hevent (data : NetEvent) (hdata : event.data = data) :
      Asks s (match (SystemMap.mapSocket sendLookupMessage env.toMapEnv event.cookie
          event.data.isEstablished event.pid event.data.silentFail s).1 with
        | none => (SystemMap.mapSocket sendLookupMessage env.toMapEnv event.cookie
          event.data.isEstablished event.pid event.data.silentFail s).2
        | some r =>
          let s := SystemMap.mergeSyntheticSocket sendLookupMessage env.order r
            (SystemMap.processSocketEvent sendLookupMessage data r
              (SystemMap.mapSocket sendLookupMessage env.toMapEnv event.cookie
                event.data.isEstablished event.pid event.data.silentFail s).2)
          if data.isAccept then SystemMap.reparentAcceptedSocket sendLookupMessage r s else s)
        (queuedByEvent sendLookupMessage env event s)
        ((queuedByEvent sendLookupMessage env event s).map Prod.fst) := by
    unfold queuedByEvent
    subst hdata
    simp only
    split
    · exact hmapped
    · rename_i r _
      have hmerged := (hmapped.processSocketEvent event.data r).mergeSyntheticSocket env.order r
      by_cases haccept : event.data.isAccept
      · have hqueued := hmerged.reparentAcceptedSocket r
        simp only [haccept, true_and, ite_not, if_true]
        split
        · rename_i hport
          simpa [hport] using hqueued
        · rename_i hport
          simpa [hport] using hqueued
      · simpa [haccept] using hmerged
  unfold SystemMap.updateData
  cases hdata : event.data with
  | traffic d bytes header =>
    rw [hquiet (by rw [hdata]; rfl)]
    rw [hdata] at hmapped
    cases d with
    | incoming => exact hmapped.pushIncomingTraffic ..
    | outgoing => exact hmapped.pushOutgoingTraffic ..
  | socketClosed localPort =>
    rw [hquiet (by rw [hdata]; rfl)]
    rw [hdata] at hmapped
    exact hmapped.markSocketForRemoval ..
  | _ =>
    have hall := hevent _ hdata
    rw [hdata] at hall
    exact hall

/-! ### Refresh and cleanup -/

theorem refreshCounters (hs : Asks s s' new sent) (env : TickEnv) :
    Asks s (refreshCounters sendLookupMessage env s') new sent := by
  unfold SystemMap.refreshCounters
  simp only
  refine loop (fun s r => ?_) _ (loop (fun s p => ?_) _ (loop (fun s a => ?_) _
    (loop (fun s i => ?_) _ (hs.called _ _))))
  · unfold refreshSocket
    simp only
    refine loop (fun s u => ?_) _ (((refl s).notified rfl).called _ _)
    unfold refreshTuple
    simp only
    split
    · exact ((refl s).called _ _).called _ _
    · exact (refl s).called _ _
  · exact (refl s).called _ _
  · exact (refl s).called _ _
  · unfold refreshFilter
    split
    · exact refl s
    · exact ((refl s).notified rfl).called _ _

theorem dropProcessTuples (hs : Asks s s' new sent) (us : List Ref) :
    Asks s (us.foldl (dropProcessTuple sendLookupMessage) s') new sent := by
  refine loop (fun s u => ?_) us hs
  unfold dropProcessTuple
  exact (((refl s).modified (f := (·.eraseTrafficItem _)) rfl).recorded _).notified rfl

/-- A socket of a removed process waits when it was not closed. -/
theorem dropProcessCounter (hs : Asks s s' new sent) (env : TickEnv) (r counter : Ref)
    (endpoints : List Endpoint) :
    Asks s (dropProcessCounter sendLookupMessage env r counter (endpoints, s')).2
      (new ++ queuedCounter r counter s') sent := by
  unfold SystemMap.dropProcessCounter queuedCounter
  simp only
  refine (Asks.modified (f := (·.clearTupleCounters counter)) (dropProcessTuples ?_ _) rfl).notified
    rfl
  split
  · exact hs.orphaned _ counter
  · rw [List.append_nil]
    exact hs

theorem dropProcessSocket (hs : Asks s s' new sent) (env : TickEnv) (endpoints : List Endpoint)
    (entry : SocketCookie × Ref) :
    Asks s (dropProcessSocket sendLookupMessage env (endpoints, s') entry).2
      (new ++ queuedSocket entry s') sent := by
  have herased : Asks s (addItemRemoval (s'.socket entry.2).trafficItem.itemId
      (modify (·.eraseTrafficItem (s'.socket entry.2).trafficItem.itemId) s')) new sent :=
    (hs.modified rfl).recorded _
  unfold SystemMap.dropProcessSocket queuedSocket
  simp only
  refine (Asks.modified (f := (·.clearTupleItems entry.2)) ?_ rfl).modified rfl
  cases hc : s'.sockets.lookup entry.1 with
  | some counter =>
    rw [show (addItemRemoval (s'.socket entry.2).trafficItem.itemId (modify (·.eraseTrafficItem
      (s'.socket entry.2).trafficItem.itemId) s')).sockets.lookup entry.1 = some counter from hc]
    exact herased.dropProcessCounter env entry.2 counter endpoints
  | none =>
    rw [show (addItemRemoval (s'.socket entry.2).trafficItem.itemId (modify (·.eraseTrafficItem
      (s'.socket entry.2).trafficItem.itemId) s')).sockets.lookup entry.1 = none from hc,
      List.append_nil]
    exact herased

end Asks

section Endpoints

variable {h : Handler LookupMessages}

theorem dropProcessCounter_eq (env : TickEnv) (r counter : Ref) (endpoints : List Endpoint)
    (s : SystemMap LookupMessages) :
    dropProcessCounter h env r counter (endpoints, s) =
      (endpoints ++ (queuedCounter r counter s).map Prod.fst,
        (dropProcessCounter h env r counter ([], s)).2) := by
  unfold dropProcessCounter queuedCounter
  simp only
  split <;> simp

/-- The endpoints that are collected are those of the sockets that wait. -/
theorem dropProcessSocket_eq (env : TickEnv) (endpoints : List Endpoint)
    (s : SystemMap LookupMessages) (entry : SocketCookie × Ref) :
    dropProcessSocket h env (endpoints, s) entry =
      (endpoints ++ (queuedSocket entry s).map Prod.fst,
        (dropProcessSocket h env ([], s) entry).2) := by
  unfold dropProcessSocket queuedSocket
  simp only
  cases hc : s.sockets.lookup entry.1 with
  | some counter =>
    rw [show (addItemRemoval (s.socket entry.2).trafficItem.itemId (modify (·.eraseTrafficItem
      (s.socket entry.2).trafficItem.itemId) s)).sockets.lookup entry.1 = some counter from hc]
    simp only
    rw [dropProcessCounter_eq]
    rfl
  | none =>
    rw [show (addItemRemoval (s.socket entry.2).trafficItem.itemId (modify (·.eraseTrafficItem
      (s.socket entry.2).trafficItem.itemId) s)).sockets.lookup entry.1 = none from hc]
    simp

end Endpoints

namespace Asks

variable {s s' : SystemMap LookupMessages} {new : List (Endpoint × Ref)} {sent : List Endpoint}

/-- The loop over the sockets. -/
theorem dropProcessSockets (env : TickEnv) :
    ∀ (entries : List (SocketCookie × Ref)) {new : List (Endpoint × Ref)}
      {s' : SystemMap LookupMessages} (endpoints : List Endpoint), Asks s s' new sent →
      let out := entries.foldl (SystemMap.dropProcessSocket sendLookupMessage env) (endpoints, s')
      let queued := queuedByProcess sendLookupMessage env entries s'
      out.1 = endpoints ++ queued.map Prod.fst ∧ Asks s out.2 (new ++ queued) sent := by
  intro entries
  induction entries with
  | nil =>
    intro new s' endpoints hs
    simpa [queuedByProcess] using hs
  | cons entry entries ih =>
    intro new s' endpoints hs
    simp only [List.foldl_cons, queuedByProcess]
    rw [dropProcessSocket_eq]
    obtain ⟨hendpoints, hasks⟩ := ih (endpoints ++ (queuedSocket entry s').map Prod.fst)
      (hs.dropProcessSocket env [] entry)
    simp only [hendpoints, List.map_append, List.append_assoc, true_and]
    rw [List.append_assoc] at hasks
    exact hasks

/-- One message asks for all of them. -/
theorem removeProcess (hs : Asks s s' new sent) (env : TickEnv) (pid : ProcessId) (p : Ref) :
    let app := (s'.process p).parentApp
    let called := call sendLookupMessage (.app app) (.pushIncomingTraffic 0)
      (call sendLookupMessage .system (.pushIncomingTraffic 0) s')
    let queued := queuedByProcess sendLookupMessage env
      (env.order.entries (called.process p).trafficItem.sockets) called
    Asks s (removeProcess sendLookupMessage env pid p s') (new ++ queued)
      (sent ++ queued.map Prod.fst) := by
  intro app called queued
  have hcalled : Asks s called new sent := (hs.called _ _).called _ _
  obtain ⟨hendpoints, hasks⟩ := hcalled.dropProcessSockets env
    (env.order.entries (called.process p).trafficItem.sockets) []
  have hsent := hasks.lookedUp (queued.map Prod.fst)
  unfold SystemMap.removeProcess
  simp only
  change Asks s (modify (·.eraseProcess pid) (modify _ (addItemRemoval _ (modify
    (·.eraseAppProcess app pid) (notify _ (.onProcessRemoved p) (notify _ (.sendLookupMessage
      ((env.order.entries (called.process p).trafficItem.sockets).foldl
        (SystemMap.dropProcessSocket sendLookupMessage env) ([], called)).1) _)))))) _ _
  rw [hendpoints, List.nil_append]
  have hnotified := hsent.notified (n := .onProcessRemoved p) rfl
  have herased := hnotified.modified (f := (·.eraseAppProcess app pid)) rfl
  exact ((herased.recorded _).modified (f := (·.eraseTrafficItem _)) rfl).modified
    (f := (·.eraseProcess pid)) rfl

/-- What waits when the loop of `Cleanup` was at a process. -/
theorem cleanupProcess (hs : Asks s s' new sent) (env : TickEnv) (entry : ProcessId × Ref) :
    let queued := queuedByTurn sendLookupMessage env entry s'
    Asks s (cleanupProcess sendLookupMessage env s' entry) (new ++ queued)
      (sent ++ queued.map Prod.fst) := by
  have hmarked : Asks s (markExited sendLookupMessage env entry s') new sent := by
    unfold markExited
    split
    · exact (hs.called _ _).recorded _
    · exact hs
  unfold SystemMap.cleanupProcess queuedByTurn
  simp only
  rw [show (if (!env.isProcessRunning entry.1) = true ∧
      (!(s'.process entry.2).isMarkedForRemoval) = true then
        markItemForRemoval (s'.process entry.2).trafficItem.itemId
          (call sendLookupMessage (.process entry.2)
            (.markForRemoval (env.cleanupTime (.process entry.2))) s')
      else s') = markExited sendLookupMessage env entry s' from rfl]
  generalize markExited sendLookupMessage env entry s' = s1 at hmarked ⊢
  split
  · exact hmarked.removeProcess env entry.1 entry.2
  · simpa using hmarked

theorem cleanupProcesses (env : TickEnv) :
    ∀ (entries : List (ProcessId × Ref)) {new : List (Endpoint × Ref)} {sent : List Endpoint}
      {s' : SystemMap LookupMessages}, Asks s s' new sent →
      let queued := queuedByCleanup sendLookupMessage env entries s'
      Asks s (entries.foldl (SystemMap.cleanupProcess sendLookupMessage env) s') (new ++ queued)
        (sent ++ queued.map Prod.fst) := by
  intro entries
  induction entries with
  | nil =>
    intro new sent s' hs
    simpa [queuedByCleanup] using hs
  | cons entry entries ih =>
    intro new sent s' hs
    simpa [queuedByCleanup] using ih (hs.cleanupProcess env entry)

theorem removeSocket (hs : Asks s s' new sent) (env : TickEnv) (c : SocketCookie) (r : Ref) :
    Asks s (removeSocket sendLookupMessage env c r s') new sent := by
  unfold SystemMap.removeSocket
  simp only
  refine Asks.modified (f := (·.eraseSocket c)) (Asks.modified (f := (·.clearTupleItems r))
    (Asks.modified (f := (·.clearTupleCounters r)) (loop (fun s u => ?_) _ (Asks.recorded
      (Asks.modified (f := (·.eraseTrafficItem _)) (Asks.modified
        (f := (·.eraseProcessSocket _ c)) (loop (fun s u => ?_) _ (hs.notified rfl)) rfl) rfl) _))
          rfl) rfl) rfl
  · unfold dropSocketTuple
    exact ((refl s).modified (f := (·.eraseTrafficItem _)) rfl).recorded _
  · exact (refl s).notified rfl

theorem cleanupSocket (hs : Asks s s' new sent) (env : TickEnv) (entry : SocketCookie × Ref) :
    Asks s (cleanupSocket sendLookupMessage env s' entry) new sent := by
  unfold SystemMap.cleanupSocket
  simp only
  split
  · exact hs.removeSocket env _ _
  · refine loop (fun s e => ?_) _ ?_
    · unfold cleanupTuple
      simp only
      split
      · exact Asks.modified (f := (·.eraseTuple entry.2 e.1)) (Asks.recorded (Asks.modified
          (f := (·.eraseTrafficItem _)) ((refl s).notified rfl) rfl) _) rfl
      · exact refl s
    · split
      · exact hs.called _ _
      · exact hs

/-- **What the refresh and the cleanup ask for.** -/
theorem refreshAllTrafficCounters (env : TickEnv) (s : SystemMap LookupMessages) :
    let refreshed := SystemMap.refreshCounters sendLookupMessage env s
    let queued := queuedByCleanup sendLookupMessage env
      (env.order.entries refreshed.processes) refreshed
    Asks s (refreshAllTrafficCounters sendLookupMessage env s) queued
      (queued.map Prod.fst) := by
  intro refreshed queued
  have hprocesses : Asks s _ queued _ := ((refl s).refreshCounters env).cleanupProcesses env
    (env.order.entries refreshed.processes)
  unfold SystemMap.refreshAllTrafficCounters SystemMap.cleanup
  simp only
  refine loop (fun s e => ?_) _ (loop (fun s e => ?_) _ hprocesses)
  · unfold cleanupApp
    simp only
    split
    · exact Asks.modified (f := (·.eraseApp e.1)) (Asks.modified (f := (·.eraseTrafficItem _))
        ((refl s).recorded _) rfl) rfl
    · exact refl s
  · exact (refl s).cleanupSocket env e

end Asks

/-! ## The answer -/

/-- The socket is in the process of the PID, and in the maps. -/
structure Attached (s : SystemMap LookupMessages) (pid : ProcessId) (r : Ref) : Prop where
  process : s.processes.lookup pid = some (s.socket r).parentProcess
  held : (s.process (s.socket r).parentProcess).trafficItem.sockets.lookup
    (s.socket r).trafficItem.itemId = some r
  live : s.sockets.lookup (s.socket r).trafficItem.cookie = some r

theorem attached_attachSocket {s : SystemMap LookupMessages} {pid : ProcessId} {p : Ref}
    (hp : s.processes.lookup pid = some p) (r : Ref) (endpoint : Endpoint) :
    Attached (addSocketAddition r (modify (·.forgetOrphan endpoint)
      (modify (·.attachSocket r p) s))) pid r := by
  have hparent : (addSocketAddition r (modify (·.forgetOrphan endpoint)
      (modify (·.attachSocket r p) s))).socket r = { s.socket r with parentProcess := p } :=
    Function.update_self r _ _
  have hprocess : (addSocketAddition r (modify (·.forgetOrphan endpoint)
      (modify (·.attachSocket r p) s))).process p =
      { s.process p with trafficItem :=
          { (s.process p).trafficItem with
            sockets := (s.process p).trafficItem.sockets.insert
              (s.socket r).trafficItem.itemId r } } :=
    Function.update_self p _ _
  refine ⟨?_, ?_, ?_⟩
  · rw [hparent]
    exact hp
  · rw [hparent, hprocess]
    exact AList.lookup_insert _
  · rw [hparent]
    exact AList.lookup_insert _

theorem lookup_findOrMapProcess (now : Msec) (pid : ProcessId) (app : Ref)
    (s : SystemMap LookupMessages) :
    let out := findOrMapProcess sendLookupMessage now pid app s
    out.2.processes.lookup pid = some out.1 := by
  unfold findOrMapProcess
  split
  · assumption
  · exact AList.lookup_insert _

theorem forgotten {s s' : SystemMap LookupMessages} (hs : Asks s s' [] []) (endpoint : Endpoint) :
    (modify (·.forgetOrphan endpoint) s').shape.orphans =
        Function.update s.shape.orphans endpoint none ∧
      (modify (·.forgetOrphan endpoint) s').listeners.flatten = s.listeners.flatten := by
  refine ⟨?_, hs.messages.trans (List.append_nil _)⟩
  rw [shape_modify, CounterTree.shape_forgetOrphan]
  change Function.update s'.shape.orphans endpoint none = _
  rw [hs.waiting, request_nil]

/-- The socket goes to the process of the answer, once the application of its parent is there. -/
theorem attached_answer (now : Msec) {s registered : SystemMap LookupMessages}
    (hregistered : Asks s registered [] []) (endpoint : Endpoint) (pid : ProcessId) (app r : Ref) :
    let process := findOrMapProcess sendLookupMessage now pid app registered
    let s' := addSocketAddition r (modify (·.forgetOrphan endpoint)
      (modify (·.attachSocket r process.1) process.2))
    s'.shape.orphans = Function.update s.shape.orphans endpoint none ∧
      s'.listeners.flatten = s.listeners.flatten ∧ Attached s' pid r := by
  have hmapped := hregistered.findOrMapProcess now pid app
  have hlookup := lookup_findOrMapProcess now pid app registered
  intro process s'
  have hattached := hmapped.modified (f := (·.attachSocket r process.1)) rfl
  exact ⟨(forgotten hattached endpoint).1, (forgotten hattached endpoint).2,
    attached_attachSocket hlookup r endpoint⟩

/-- **What `ReparentOrphanedSocket` does to the socket that waits.** -/
theorem reparentOrphanedSocket_answer (now : Msec) {s : SystemMap LookupMessages}
    {endpoint : Endpoint} (pid : ProcessId) {r : Ref}
    (hr : s.orphanedSockets.lookup endpoint = some r) :
    let s' := reparentOrphanedSocket sendLookupMessage now endpoint pid s
    s'.shape.orphans = Function.update s.shape.orphans endpoint none ∧
      s'.listeners.flatten = s.listeners.flatten ∧
      if pid = 0 then s'.socket r = s.socket r else Attached s' pid r := by
  unfold reparentOrphanedSocket
  rw [hr]
  simp only
  by_cases hpid : pid = 0
  · rw [if_pos hpid, if_pos hpid]
    exact ⟨(forgotten (Asks.refl s) endpoint).1, (forgotten (Asks.refl s) endpoint).2, rfl⟩
  · rw [if_neg hpid, if_neg hpid]
    refine attached_answer now ?_ endpoint pid (s.process (s.socket r).parentProcess).parentApp r
    split
    · exact Asks.refl s
    · exact ((Asks.refl s).modified rfl).notified rfl

end SystemMap

/-! ## The daemon and its helper -/

namespace OrphanLookup

open SystemMap

/-- The system map with the messages to the helper, and the answers on their way back. -/
structure State where
  map : SystemMap LookupMessages
  /-- The results the daemon has not handled, oldest first. -/
  results : List (Endpoint × ProcessId) := []
  /-- The lookups that are not answered, oldest first, with the socket each is for. -/
  lookups : List (Endpoint × Ref) := []

/-- What the daemon and its helper process do. -/
inductive Op : Type 1 where
  | updateData (env : TrafficEnv) (event : SocketEvent)
  | addExistingSockets (env : MapEnv) (isProcessRunning : ProcessId → Bool)
      (listeningSockets : List ListenSocketInfo)
  | processInitialApps (o : IterOrder)
  | refreshAllTrafficCounters (env : TickEnv)
  | takeItemId
  /-- The helper handles a message, with the tables it reads in `/proc`. -/
  | lookupEndpoints (tables : ProcTables)
  /-- The daemon handles a result. -/
  | onDataReceived (now : Msec)

namespace State

/-- The lookups that are queued by a step. -/
def queued (s : State) : Op → List (Endpoint × Ref)
  | .updateData env event => queuedByEvent sendLookupMessage env event s.map
  | .refreshAllTrafficCounters env =>
    let refreshed := refreshCounters sendLookupMessage env s.map
    queuedByCleanup sendLookupMessage env (env.order.entries refreshed.processes) refreshed
  | _ => []

def step (s : State) (op : Op) : State :=
  let lookups := s.lookups ++ s.queued op
  match op with
  | .updateData env event =>
    { s with map := updateData sendLookupMessage env event s.map, lookups := lookups }
  | .addExistingSockets env isProcessRunning listeningSockets =>
    { s with map :=
        addExistingSockets sendLookupMessage env isProcessRunning listeningSockets s.map }
  | .processInitialApps o => { s with map := processInitialApps sendLookupMessage o s.map }
  | .refreshAllTrafficCounters env =>
    { s with map := refreshAllTrafficCounters sendLookupMessage env s.map, lookups := lookups }
  | .takeItemId => { s with map := takeItemId s.map }
  | .lookupEndpoints tables =>
    match s.map.listeners with
    | [] => s
    | endpoints :: messages =>
      let results := endpoints.map fun e =>
        (e, SocketStateParser.lookupEndpoint (SocketStateParser.parseData tables) e)
      { s with map := { s.map with listeners := messages }, results := s.results ++ results }
  | .onDataReceived now =>
    match s.results with
    | [] => s
    | result :: results =>
      { map := reparentOrphanedSocket sendLookupMessage now result.1 result.2 s.map
        results := results
        lookups := s.lookups.tail }

/-- The system map as the daemon constructs it. -/
def init (now : Msec) (hostName : String) : State := { map := SystemMap.init now hostName [] }

/-! ## What should hold -/

/-- Every socket whose lookup is not answered waits for the answer. -/
def AllWait (s : State) : Prop := Waits s.map.shape.orphans s.lookups

/-- A result is for the oldest lookup, and decides about its socket: it is attached to the process
that was found, or dropped. -/
def Resolves (s : State) : Op → Prop
  | .onDataReceived now => ∀ result ∈ s.results.head?, ∃ r,
      s.lookups.head? = some (result.1, r) ∧
        let s' := s.step (.onDataReceived now)
        s'.map.orphanedSockets.lookup result.1 = none ∧
          if result.2 = 0 then s'.map.socket r = s.map.socket r
          else s'.map.Attached result.2 r
  | _ => True

/-- Two lookups for one endpoint are for one socket. -/
def QueuesApart (s : State) (op : Op) : Prop :=
  ∀ l ∈ s.lookups ++ s.queued op, ∀ l' ∈ s.queued op, l.1 = l'.1 → l.2 = l'.2

/-- The condition on a step. A lookup is queued for an endpoint that no other socket is looked up
by, and when a result is handled no other lookup is for its endpoint. -/
def Respects (s : State) : Op → Prop
  | .onDataReceived _ =>
    s.results ≠ [] → ∀ l ∈ s.lookups.head?, ∀ l' ∈ s.lookups.tail, l'.1 ≠ l.1
  | op => s.QueuesApart op

instance (s : State) (op : Op) : Decidable (s.QueuesApart op) :=
  inferInstanceAs (Decidable (∀ l ∈ s.lookups ++ s.queued op, ∀ l' ∈ s.queued op, _))

instance (s : State) : (op : Op) → Decidable (s.Respects op)
  | .onDataReceived _ => inferInstanceAs (Decidable (_ → ∀ l ∈ s.lookups.head?, _))
  | .updateData .. | .addExistingSockets .. | .processInitialApps .. |
    .refreshAllTrafficCounters .. | .takeItemId | .lookupEndpoints .. =>
    inferInstanceAs (Decidable (s.QueuesApart _))

/-- What is on its way is what is not answered, in the same order. -/
def InOrder (s : State) : Prop :=
  s.results.map Prod.fst ++ s.map.listeners.flatten = s.lookups.map Prod.fst

/-! ## One step -/

variable {s : State}

/-- What a step asks for, before the answers. -/
theorem asks_step (s : State) {op : Op}
    (hop : ∀ now, op ≠ .onDataReceived now) (hop' : ∀ tables, op ≠ .lookupEndpoints tables) :
    Asks s.map (s.step op).map (s.queued op) ((s.queued op).map Prod.fst) ∧
      (s.step op).results = s.results ∧ (s.step op).lookups = s.lookups ++ s.queued op := by
  cases op with
  | updateData env event => exact ⟨Asks.updateData env event s.map, rfl, rfl⟩
  | addExistingSockets env isProcessRunning infos =>
    exact ⟨(Asks.refl s.map).addExistingSockets env isProcessRunning infos, rfl,
      (List.append_nil _).symm⟩
  | processInitialApps o =>
    exact ⟨Asks.loop (fun s a => (Asks.refl s).notified rfl) _ (Asks.refl s.map), rfl,
      (List.append_nil _).symm⟩
  | refreshAllTrafficCounters env =>
    exact ⟨Asks.refreshAllTrafficCounters env s.map, rfl, rfl⟩
  | takeItemId =>
    exact ⟨(Asks.refl s.map).modified
      (f := fun t => { t with nextItemId := t.nextItemId + 1 }) rfl, rfl, (List.append_nil _).symm⟩
  | lookupEndpoints tables => exact absurd rfl (hop' tables)
  | onDataReceived now => exact absurd rfl (hop now)

/-- The helper reads a message and sends its results. -/
theorem step_lookupEndpoints (s : State) (tables : ProcTables) :
    let s' := s.step (.lookupEndpoints tables)
    s'.map.shape = s.map.shape ∧ s'.lookups = s.lookups ∧
      s'.results.map Prod.fst ++ s'.map.listeners.flatten =
        s.results.map Prod.fst ++ s.map.listeners.flatten := by
  simp only [step]
  split
  · exact ⟨rfl, rfl, rfl⟩
  · rename_i endpoints messages hmessages
    refine ⟨rfl, rfl, ?_⟩
    have hsame : (endpoints.map fun e => (e, SocketStateParser.lookupEndpoint
        (SocketStateParser.parseData tables) e)).map Prod.fst = endpoints := by
      rw [List.map_map]
      exact List.map_id endpoints
    rw [hmessages, List.map_append, hsame, List.flatten_cons, List.append_assoc]

/-- The next result is for the oldest lookup. -/
theorem InOrder.oldest (ho : s.InOrder) {result : Endpoint × ProcessId}
    {results : List (Endpoint × ProcessId)} (hr : s.results = result :: results) :
    ∃ r lookups, s.lookups = (result.1, r) :: lookups := by
  unfold InOrder at ho
  rw [hr, List.map_cons, List.cons_append] at ho
  obtain ⟨l, lookups, hl, hkey, -⟩ := List.map_eq_cons_iff.mp ho.symm
  exact ⟨l.2, lookups, hl.trans (by rw [← hkey])⟩

/-- The next result decides about the socket of the oldest lookup. -/
theorem step_onDataReceived (hs : s.AllWait) (ho : s.InOrder) (now : Msec)
    {result : Endpoint × ProcessId} {results : List (Endpoint × ProcessId)}
    (hr : s.results = result :: results) :
    let s' := s.step (.onDataReceived now)
    ∃ r lookups, s.lookups = (result.1, r) :: lookups ∧ s'.lookups = lookups ∧
      s'.results = results ∧
      s'.map.shape.orphans = Function.update s.map.shape.orphans result.1 none ∧
      s'.map.listeners.flatten = s.map.listeners.flatten ∧
      if result.2 = 0 then s'.map.socket r = s.map.socket r else s'.map.Attached result.2 r := by
  obtain ⟨r, lookups, hl⟩ := ho.oldest hr
  have hwaits : s.map.orphanedSockets.lookup result.1 = some r :=
    hs (result.1, r) (hl ▸ List.mem_cons_self)
  obtain ⟨hwaiting, hmessages, hsocket⟩ :=
    reparentOrphanedSocket_answer now result.2 hwaits
  refine ⟨r, lookups, hl, ?_⟩
  simp only [step, hr, true_and]
  exact ⟨congrArg List.tail hl, hwaiting, hmessages, hsocket⟩

/-- **A step keeps the messages in order.** -/
theorem inOrder_step (hs : s.AllWait) (ho : s.InOrder) (op : Op) : (s.step op).InOrder := by
  have hasked (hop : ∀ now, op ≠ .onDataReceived now)
      (hop' : ∀ tables, op ≠ .lookupEndpoints tables) :
      (s.step op).InOrder := by
    obtain ⟨hasks, hresults, hlookups⟩ := asks_step s hop hop'
    unfold InOrder
    rw [hresults, hlookups, hasks.messages, List.map_append, ← ho, List.append_assoc]
  cases op with
  | lookupEndpoints tables =>
    obtain ⟨-, hlookups, hflight⟩ := step_lookupEndpoints s tables
    unfold InOrder
    rw [hflight, hlookups]
    exact ho
  | onDataReceived now =>
    cases hr : s.results with
    | nil =>
      have hsame : s.step (.onDataReceived now) = s := by
        simp only [step, hr]
      rw [hsame]
      exact ho
    | cons result results =>
      obtain ⟨r, lookups, hl, hlookups, hresults, -, hmessages, -⟩ :=
        step_onDataReceived hs ho now hr
      unfold InOrder at ho ⊢
      rw [hr, hl] at ho
      rw [hresults, hlookups, hmessages]
      exact List.tail_eq_of_cons_eq ho
  | _ => exact hasked (fun _ => nofun) fun _ => nofun

/-- **When a step leaves every socket that is looked up waiting.** -/
theorem waits_step_iff (hs : s.AllWait) (ho : s.InOrder) (op : Op) :
    (s.step op).AllWait ↔ s.Respects op := by
  have hasked (hop : ∀ now, op ≠ .onDataReceived now)
      (hop' : ∀ tables, op ≠ .lookupEndpoints tables) :
      (s.step op).AllWait ↔ s.QueuesApart op := by
    obtain ⟨hasks, -, hlookups⟩ := asks_step s hop hop'
    unfold AllWait
    rw [hlookups, hasks.waiting]
    exact waits_request_iff hs
  cases op with
  | lookupEndpoints tables =>
    obtain ⟨hshape, hlookups, -⟩ := step_lookupEndpoints s tables
    unfold AllWait
    rw [hshape, hlookups]
    exact iff_of_true hs fun _ _ l' hl' => absurd hl' List.not_mem_nil
  | onDataReceived now =>
    cases hr : s.results with
    | nil =>
      have hsame : s.step (.onDataReceived now) = s := by
        simp only [step, hr]
      rw [hsame]
      exact iff_of_true hs fun hne => absurd hr hne
    | cons result results =>
      obtain ⟨r, lookups, hl, hlookups, -, hwaiting, -, -⟩ := step_onDataReceived hs ho now hr
      have hcons : Waits s.map.shape.orphans ((result.1, r) :: lookups) := hl ▸ hs
      unfold AllWait Respects
      rw [hlookups, hwaiting, hr, hl]
      refine (waits_answer_iff hcons).trans ⟨fun hother _ l hmem => ?_, fun hother => ?_⟩
      · rw [← Option.some.inj hmem]
        exact hother
      · exact hother (List.cons_ne_nil _ _) (result.1, r) rfl
  | _ => exact hasked (fun _ => nofun) fun _ => nofun

/-- If everything waits, the next result goes to the socket it is for. -/
theorem resolves_step (hs : s.AllWait) (ho : s.InOrder) (op : Op) : s.Resolves op := by
  cases op with
  | onDataReceived now =>
    intro result hhead
    obtain ⟨results, hr⟩ := List.head?_eq_some_iff.mp hhead
    obtain ⟨r, lookups, hl, -, -, hwaiting, -, hsocket⟩ := step_onDataReceived hs ho now hr
    refine ⟨r, by rw [hl]; rfl, ?_, hsocket⟩
    exact (congrFun hwaiting result.1).trans (Function.update_self _ _ _)
  | _ => trivial

/-! ## Runs -/

/-- **No socket is lost exactly when no two lookups of different sockets, and no two answers, meet
at one endpoint.** -/
theorem always_waits_iff (now : Msec) (hostName : String) (ops : List Op) :
    (Always step AllWait (init now hostName) ops ∧ AllSteps step Resolves (init now hostName) ops) ↔
      AllSteps step Respects (init now hostName) ops := by
  have hinit : (init now hostName).AllWait ∧ (init now hostName).InOrder :=
    ⟨fun l hl => absurd hl List.not_mem_nil, rfl⟩
  have hkeep : ∀ s op, AllWait s ∧ InOrder s → Respects s op →
      AllWait (step s op) ∧ InOrder (step s op) := fun s op hs hop =>
    ⟨(waits_step_iff hs.1 hs.2 op).mpr hop, inOrder_step hs.1 hs.2 op⟩
  have hwait := always_iff_allSteps (fun s hs => hs.1) hkeep
    (fun s op hs hs' => (waits_step_iff hs.1 hs.2 op).mp hs') ops hinit
  refine ⟨fun hall => hwait.mp hall.1, fun hall => ⟨hwait.mpr hall, ?_⟩⟩
  exact hall.imp hkeep (fun s op hs _ => resolves_step hs.1 hs.2 op) hinit

/-! ### Two connections to one port -/

/-- The worker 8 has the port of the accepted sockets open. -/
def workerTables : ProcTables :=
  { fds := [(8, 5)]
    tcp := [
      { localAddress := "0100007F"
        localPort := 80
        remoteAddress := "0100007F:1388"
        state := 1
        inode := 5 }] }

/-- A connection is accepted, for the process that called `bind`. -/
def acceptOne (cookie : SocketCookie) : Op :=
  .updateData quietTraffic
    { cookie := cookie
      pid := 7
      data := .socketAccept4 80 5000 SOCK_STREAM 0x0100007f 0x0100007f }

/-- One connection is accepted, and the worker is found. -/
def acceptedOnce : List Op := [acceptOne 9, .lookupEndpoints workerTables, .onDataReceived 0]

example : AllSteps step Respects (init 0 "host") acceptedOnce := by decide +kernel

/-- Two connections are accepted before the first answer. -/
def acceptedTwice : List Op :=
  [acceptOne 9, acceptOne 10, .lookupEndpoints workerTables, .lookupEndpoints workerTables,
   .onDataReceived 0, .onDataReceived 0]

/-- **Only the second socket is found again.** Both lookups are answered with the worker, and the
first socket stays with the process that called `bind`. -/
theorem acceptedTwice_lost :
    ¬Always step AllWait (init 0 "host") acceptedTwice ∧
      let s := run step (init 0 "host") acceptedTwice
      s.lookups = [] ∧ s.map.orphanedSockets.lookup acceptedEndpoint = none ∧
        s.map.processes.lookup 8 = some (s.map.socket 7).parentProcess ∧
        s.map.processes.lookup 7 = some (s.map.socket 6).parentProcess := by
  refine ⟨fun hall => ?_, ?_⟩
  · have hfirst := hall.2.2.head (acceptedEndpoint, 6) (by decide +kernel)
    revert hfirst
    change AList.lookup _ _ ≠ _
    decide +kernel
  · decide +kernel

end State

end OrphanLookup

end Waechter
