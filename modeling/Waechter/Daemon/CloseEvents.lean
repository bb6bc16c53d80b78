import Waechter.Daemon.Actions
import Waechter.Daemon.ByteAccounting
import Waechter.Daemon.TwoTrees

/-!
# Close events

What `WSystemMap::MarkSocketForRemoval` (`Daemon/Data/SystemMap.hpp`) does to the sockets of the
map, and what `WWaechterEbpf::UpdateData` (`Daemon/EBPF/WaechterEbpf.cpp`) does with a close or an
incoming packet of a socket the map does not have.

* `closesOnly_iff`: whatever the order of the map, a close event leaves the other sockets alone
  exactly when none of them but a synthetic or closed one has the local port of the event.
* `closesOnly_fails_accepted`: of two connections that a server has accepted on one port, the
  close of one closes the other as well.
-/

namespace Waechter

open Lib

namespace SystemMap

variable {σ : Type} (h : Handler σ)

/-! ## What a close event closes -/

/-- The socket is closed and marked. -/
def IsClosed (t : CounterTree) (r : Ref) : Prop :=
  (t.socket r).state = .pendingRemoval ∧ (t.socket r).trafficItem.connectionState = .closed

/-- An entry that `AddExistingSockets` made. -/
def IsSyntheticEntry (t : CounterTree) (r : Ref) : Prop :=
  ∃ c, t.sockets.lookup c = some r ∧ isSynthetic c = true

/-- The close event of a cookie leaves every other socket alone, but for a synthetic one on its
local port. -/
def ClosesOnly (o : IterOrder) (now : Msec) (cookie : SocketCookie) (localPort : UInt32)
    (s : SystemMap σ) : Prop :=
  ∀ c r, s.sockets.lookup c = some r → s.sockets.lookup cookie ≠ some r →
    ¬ (IsSyntheticEntry s.toCounterTree r ∧
      (s.socket r).trafficItem.socketTuple.localEndpoint.port.toUInt32 = localPort) →
    (markSocketForRemoval h o now cookie localPort s).socket r = s.socket r

/-- Where the event closes a socket, no other one with its local port is open. -/
def PortIsOwn (cookie : SocketCookie) (localPort : UInt32) (t : CounterTree) : Prop :=
  (∃ r, t.sockets.lookup cookie = some r) → 0 < localPort →
    ∀ c r, t.sockets.lookup c = some r →
      (t.socket r).trafficItem.socketTuple.localEndpoint.port.toUInt32 = localPort →
      t.sockets.lookup cookie = some r ∨ IsSyntheticEntry t r ∨ IsClosed t r

variable {h}

theorem socket_closeSocket_of_ne {now : Msec} {r q : Ref} (hq : q ≠ r) (s : SystemMap σ) :
    (closeSocket h now r s).socket q = s.socket q := by
  rw [socket_closeSocket]
  simp only [CounterTree.editSocket, CounterTree.applyCall, CounterTree.modifySocket,
    Function.update_of_ne hq]

theorem isClosed_closeSocket (now : Msec) (r : Ref) (s : SystemMap σ) :
    IsClosed (closeSocket h now r s).toCounterTree r := by
  rw [IsClosed, socket_closeSocket]
  simp only [CounterTree.editSocket, CounterTree.applyCall, CounterTree.modifySocket,
    Function.update_self, TrafficCounter.call, TrafficCounter.markForRemoval]
  split
  · rename_i hp
    exact ⟨hp, trivial⟩
  · exact ⟨rfl, trivial⟩

/-- A socket that is closed already is left as it is. -/
theorem socket_closeSocket_of_closed {now : Msec} {r : Ref} {s : SystemMap σ}
    (hr : IsClosed s.toCounterTree r) : (closeSocket h now r s).socket = s.socket := by
  have hmark : (s.socket r).toTrafficCounter.call (.markForRemoval now) =
      (s.socket r).toTrafficCounter := if_pos hr.1
  rw [socket_closeSocket]
  simp only [CounterTree.editSocket, CounterTree.applyCall, CounterTree.modifySocket,
    Function.update_self, hmark, Function.update_idem, ← hr.2]
  exact Function.update_eq_self r s.socket

variable (h)

/-- **A close event closes only its own socket**, in every order of the map, exactly when no other
one has its port. -/
theorem closesOnly_iff (s : SystemMap σ) (now : Msec) (cookie : SocketCookie) (localPort : UInt32) :
    (∀ o, ClosesOnly h o now cookie localPort s) ↔ PortIsOwn cookie localPort s.toCounterTree := by
  constructor
  · intro hall hown hport c r hr hrport
    by_contra hother
    simp only [not_or] at hother
    obtain ⟨hne, hsynthetic, hopen⟩ := hother
    obtain ⟨own, hown⟩ := hown
    obtain ⟨o, rest, hfirst⟩ := IterOrder.exists_first s.sockets hr
    have hfind : findByLocalPort o localPort s.toCounterTree = some r := by
      rw [findByLocalPort, IterOrder.values, hfirst, List.map_cons]
      exact List.find?_cons_of_pos (decide_eq_true hrport)
    have hkept := hall o c r hr hne fun h => hsynthetic h.1
    simp only [markSocketForRemoval, hown, if_pos hport, hfind] at hkept
    rw [socket_closeSocket_of_ne (by rintro rfl; exact hne hown)] at hkept
    have hclosed := isClosed_closeSocket (h := h) now r s
    rw [IsClosed, hkept] at hclosed
    exact hopen hclosed
  · intro hport o c r hr hne hsynthetic
    rw [markSocketForRemoval]
    cases hown : s.sockets.lookup cookie with
    | none => rfl
    | some own =>
      have hro : r ≠ own := by
        rintro rfl
        exact hne hown
      simp only []
      rw [socket_closeSocket_of_ne hro]
      split
      · rename_i hpos
        cases hfind : findByLocalPort o localPort s.toCounterTree with
        | none => rfl
        | some listen =>
          by_cases hrl : r = listen
          · subst hrl
            have hrport := of_decide_eq_true (List.find?_some (p := fun r => decide
              ((s.socket r).trafficItem.socketTuple.localEndpoint.port.toUInt32 = localPort)) hfind)
            rcases hport ⟨own, hown⟩ hpos c r hr hrport with h₁ | h₁ | h₁
            · exact absurd h₁ hne
            · exact absurd ⟨h₁, hrport⟩ hsynthetic
            · exact congrFun (socket_closeSocket_of_closed h₁) r
          · exact socket_closeSocket_of_ne hrl s
      · rfl

/-! ### Two accepted connections -/

/-- Process 7 accepts two connections on port 80, under the cookies 9 and 10. -/
def twoAccepted : List SystemMapOp :=
  [.mapSocket quietEnv 9 false 7 false, .processSocketEvent acceptedEvent 6,
   .mapSocket quietEnv 10 false 7 false, .processSocketEvent acceptedEvent 7]

/-- The first connection is closed, and the order of the map comes to the second one before it. -/
theorem closesOnly_fails_accepted : ¬ ∀ (ops : List SystemMapOp) (o : IterOrder) (now : Msec)
    (cookie : SocketCookie) (localPort : UInt32),
      ClosesOnly (fun _ _ (u : Unit) => u) o now cookie localPort
        (run (step fun _ _ (u : Unit) => u) (init 0 "host" ()) ops) := by
  intro hall
  have hkept := hall twoAccepted .stored 0 9 80 10 7 (by decide) (by decide) ?_
  · exact absurd (congrArg (fun c => c.state) hkept) (by decide)
  · rintro ⟨⟨c, hc, hsynthetic⟩, -⟩
    have hreal : ∀ e ∈ IterOrder.stored.entries
        (run (step fun _ _ (u : Unit) => u) (init 0 "host" ()) twoAccepted).sockets,
          isSynthetic e.1 = false := by decide
    rw [hreal _ ((IterOrder.stored.mem_entries _ c 7).mpr hc)] at hsynthetic
    cases hsynthetic

/-! ## Close and traffic events of unknown sockets -/

/-- The maps and the item tree are the same. -/
structure SameTree (t t' : CounterTree) : Prop where
  applications : t'.applications = t.applications
  processes : t'.processes = t.processes
  sockets : t'.sockets = t.sockets
  trafficItems : t'.trafficItems = t.trafficItems
  root : t'.systemCounter.trafficItem = t.systemCounter.trafficItem
  app : ∀ r, (t'.app r).trafficItem = (t.app r).trafficItem
  process : ∀ r, (t'.process r).trafficItem = (t.process r).trafficItem
  socket : ∀ r, (t'.socket r).trafficItem = (t.socket r).trafficItem
  tuple : ∀ r, (t'.tuple r).trafficItem = (t.tuple r).trafficItem

theorem SameTree.refl (t : CounterTree) : SameTree t t :=
  ⟨rfl, rfl, rfl, rfl, rfl, fun _ => rfl, fun _ => rfl, fun _ => rfl, fun _ => rfl⟩

/-- A close event, or an incoming packet. -/
def isCloseOrIncoming : NetEvent → Bool
  | .socketClosed _ => true
  | .traffic .incoming .. => true
  | _ => false

variable {h}

theorem socks_pushTuple (now : Msec) (d : PacketDirection) (bytes : WBytes) (remote : Endpoint)
    (r : Ref) (s : SystemMap σ) : (pushTuple h now d bytes remote r s).shape.socks = s.shape.socks := by
  have hget : (getOrCreateUDPTupleCounter h now r remote s).2.shape.socks = s.shape.socks := by
    unfold getOrCreateUDPTupleCounter
    split
    · rfl
    · simp only [shape_notify, shape_modify, CounterTree.shape_addTuple]
      rfl
  unfold pushTuple
  simp only
  split <;> simpa [shape_pushFilters] using hget

/-- Parsing a packet maps no socket. -/
theorem socks_doPacketParsing (env : TrafficEnv) (d : PacketDirection) (bytes : WBytes)
    (header : Option PacketHeader) (r : Ref) (s : SystemMap σ) :
    (doPacketParsing h env d bytes header r s).shape.socks = s.shape.socks := by
  unfold doPacketParsing
  simp only
  split
  · rfl
  · split
    · rfl
    · rename_i header
      have hedit : (modify (·.editSocket r fun _ =>
          (applyPacketHeader env d header (s.socket r).trafficItem).1) s).shape = s.shape :=
        shape_editSocket ⟨rfl, rfl, rfl⟩
      have hsocks := congrArg TreeShape.socks hedit
      split <;> split
      · exact (socks_pushTuple _ _ _ _ _ _).trans hsocks
      · exact hsocks
      · exact (socks_pushTuple _ _ _ _ _ _).trans hsocks
      · exact hsocks

theorem lookup_mapNewSocket (env : MapEnv) (cookie : SocketCookie) (pid : ProcessId)
    (s : SystemMap σ) : ∃ r, (mapNewSocket h env cookie pid s).2.sockets.lookup cookie = some r := by
  unfold mapNewSocket findOrMapSocket
  simp only
  split
  · exact ⟨_, ‹_›⟩
  · exact ⟨_, AList.lookup_insert _⟩

variable (h)

/-- **An event of a socket that the map does not have** creates nothing exactly when it names no
process or no socket. -/
theorem updateData_creates_nothing_iff (env : TrafficEnv) (event : SocketEvent) (s : SystemMap σ)
    (hevent : isCloseOrIncoming event.data = true)
    (hunknown : s.sockets.lookup event.cookie = none) :
    SameTree s.toCounterTree (updateData h env event s).toCounterTree ↔
      event.cookie = 0 ∨ event.pid = 0 := by
  obtain ⟨cookie, pid, data⟩ := event
  constructor
  · intro hsame
    by_contra hnames
    rw [not_or] at hnames
    have hmapped : (mapSocket h env.toMapEnv cookie data.isEstablished pid data.silentFail s).2 =
        (mapNewSocket h env.toMapEnv cookie pid s).2 := by
      simp only [mapSocket, if_neg hnames.1, if_neg hnames.2, hunknown]
    obtain ⟨r, hr⟩ := lookup_mapNewSocket (h := h) env.toMapEnv cookie pid s
    have hlast : (updateData h env ⟨cookie, pid, data⟩ s).shape.socks cookie = some r := by
      have hr' : (mapNewSocket h env.toMapEnv cookie pid s).2.shape.socks cookie = some r := hr
      cases data with
      | socketClosed localPort =>
        simp only [updateData]
        rw [shape_markSocketForRemoval, ← hr']
        exact congrArg (fun s => s.shape.socks cookie) hmapped
      | traffic d bytes header =>
        cases d with
        | outgoing => cases hevent
        | incoming =>
          simp only [updateData]
          rw [hmapped, pushIncomingTraffic]
          split
          · rw [shape_call]
            exact hr'
          · rw [socks_doPacketParsing, shape_pushTrafficForSocket, shape_call]
            exact hr'
      | _ => cases hevent
    have hsocks : (updateData h env ⟨cookie, pid, data⟩ s).shape.socks cookie = none :=
      (congrArg (fun m => AList.lookup cookie m) hsame.sockets).trans hunknown
    rw [hsocks] at hlast
    cases hlast
  · intro hnames
    have hmapped : (mapSocket h env.toMapEnv cookie data.isEstablished pid data.silentFail s).2 =
        s := by
      unfold mapSocket
      split
      · rfl
      · rename_i hcookie
        rw [if_pos (hnames.resolve_left hcookie)]
        split <;> rfl
    cases data with
    | socketClosed localPort =>
      simp only [updateData]
      rw [hmapped, markSocketForRemoval, hunknown]
      exact .refl _
    | traffic d bytes header =>
      cases d with
      | outgoing => cases hevent
      | incoming =>
        simp only [updateData]
        rw [hmapped, pushIncomingTraffic]
        have hunknown' : (call h .system (.pushIncomingTraffic bytes) s).sockets.lookup cookie =
          none := hunknown
        simp only [hunknown']
        exact ⟨rfl, rfl, rfl, rfl, rfl, fun _ => rfl, fun _ => rfl, fun _ => rfl, fun _ => rfl⟩
    | _ => cases hevent

/-- A socket that was there before the daemon is closed, and the event names no process. -/
theorem updateData_creates_nothing_unowned :
    SameTree (init 0 "host" ()).toCounterTree
        (updateData (fun _ _ (u : Unit) => u) quietTraffic ⟨9, 0, .socketClosed 80⟩
          (init 0 "host" ())).toCounterTree ↔
      (9 : SocketCookie) = 0 ∨ (0 : ProcessId) = 0 :=
  updateData_creates_nothing_iff _ quietTraffic ⟨9, 0, .socketClosed 80⟩ (init 0 "host" ()) rfl rfl

/-- **The close of an unknown socket creates it** when the event names the process that closed it.
-/
theorem updateData_creates_closed : ¬ ∀ (env : TrafficEnv) (event : SocketEvent)
    (ops : List SystemMapOp), isCloseOrIncoming event.data = true →
      (run (step fun _ _ (u : Unit) => u) (init 0 "host" ()) ops).sockets.lookup event.cookie = none →
      SameTree (run (step fun _ _ (u : Unit) => u) (init 0 "host" ()) ops).toCounterTree
        (updateData (fun _ _ (u : Unit) => u) env event
          (run (step fun _ _ (u : Unit) => u) (init 0 "host" ()) ops)).toCounterTree := by
  intro hall
  have hsame := hall quietTraffic ⟨9, 7, .socketClosed 80⟩ [] rfl rfl
  exact absurd (congrArg (fun m => AList.lookup 9 m) hsame.sockets) (by decide)

end SystemMap

end Waechter
