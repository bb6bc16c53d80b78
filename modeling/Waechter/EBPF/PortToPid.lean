import Waechter.Lib.Run
import Waechter.Lib.UMap
import Waechter.Util.TrafficItem

/-!
# Whose port it is

`port_to_pid` (`EBPFInternal.h`), the map from a local port to the process the programs attribute
its connections to, and the hooks that write it: `socket_bind` (`EBPFBind.h`), the tracepoint
`inet_sock_set_state` and `on_tcp_set_state` (`EBPFConnect.h`), `EmitIfBound` (`EBPFUdp.h`), and
from the daemon `WIPLink::OnDataReceived` and `WWaechterEbpf::PrePopulatePortToPid`. The map has
room for every port.

What the hooks read of the kernel is an argument: the current process, the socket, whether the ring
buffer has room for an event, what `shared_socket_data_map` holds under the address of the socket.
Beside the map the state follows which TCP sockets listen, who was resolved as an owner of a TCP
port, and what was reported of every established connection.

* `owned_write_iff`, `owned_listen_iff`, `owned_close_iff`: when a write, a new listener and a
  closed one leave every listening port with one of its owners.
* `always_attributed_iff`: the exact condition on the events of a run.
-/

namespace Waechter

open Lib

/-- `port_to_pid`. -/
abbrev PortToPid := UMap UInt16 UInt32

/-- The flags of `bpf_map_update_elem`. -/
inductive UpdateFlag where
  | any
  | noExist

namespace PortToPid

/-- `bpf_map_update_elem(&port_to_pid, ...)`. -/
def update (m : PortToPid) (port : UInt16) (pid : UInt32) : UpdateFlag → PortToPid
  | .any => m.insert port pid
  | .noExist => if (m.lookup port).isSome then m else m.insert port pid

/-! ## The hooks -/

/-- `socket_bind`, for a stream or datagram socket and an IPv4 or IPv6 address. It runs before the
kernel binds the socket, whether or not that succeeds. -/
def socketBind (m : PortToPid) (reserved : Bool) (pid : UInt32) (port : UInt16) : PortToPid :=
  if reserved ∧ port ≠ 0 then m.update port pid .any else m

/-- `WSharedSocketData`. -/
structure SharedSocketData where
  pid : UInt32
  cookie : SocketCookie

/-- `tracepoint__inet_sock_set_state` for a TCP socket that enters `TCP_LISTEN`. -/
def inetSockSetState (m : PortToPid) (shared : Option SharedSocketData) (lport : UInt16) :
    PortToPid :=
  match shared with
  | none => m
  | some data => if lport ≠ 0 ∧ data.pid ≠ 0 then m.update lport data.pid .any else m

/-- What `on_tcp_set_state` reports of an established connection. -/
structure EstablishedEvent where
  pid : UInt32
  isAccept : Bool
  deriving DecidableEq

/-- `on_tcp_set_state` with `TCP_CLOSE`. -/
def onTcpClose (m : PortToPid) (wasListening : Bool) (lport : UInt16) : PortToPid :=
  if wasListening ∧ lport ≠ 0 then m.erase lport else m

/-- `on_tcp_set_state` with `TCP_LISTEN`. -/
def onTcpListen (m : PortToPid) (pid : UInt32) (lport : UInt16) : PortToPid :=
  if lport ≠ 0 ∧ pid ≠ 0 then m.update lport pid .any else m

/-- `OwnerPid` of `on_tcp_set_state`. -/
def ownerPid (m : PortToPid) (lport : UInt16) : Option UInt32 :=
  if lport ≠ 0 then m.lookup lport else none

/-- `on_tcp_set_state` with `TCP_ESTABLISHED`; `pid` is the process that is current when the hook
runs. -/
def onTcpEstablished (m : PortToPid) (reserved : Bool) (pid : UInt32) (lport : UInt16) :
    PortToPid × Option EstablishedEvent :=
  let owner := m.ownerPid lport
  let m' := if owner.isNone ∧ lport ≠ 0 then m.update lport pid .noExist else m
  let reported := match owner with
    | some o => if o ≠ 0 then o else pid
    | none => pid
  (m', if reserved then some { pid := reported, isAccept := owner.isSome } else none)

/-- The process `sock_graft` (`EBPFAccept.h`) reports an accepted connection with. -/
def sockGraft (m : PortToPid) (pid : UInt32) (lport : UInt16) : UInt32 :=
  match m.lookup lport with
  | some owner => if owner ≠ 0 then owner else pid
  | none => pid

/-- `EmitIfBound`, after a datagram was sent or received. -/
def emitIfBound (m : PortToPid) (pid : UInt32) (sport : UInt16) : PortToPid :=
  if sport = 0 then m else m.update sport pid .any

/-- The part of `WIPLink::OnDataReceived` that writes the map. -/
def onDataReceived (m : PortToPid) (port : UInt16) (pid : ProcessId) : PortToPid :=
  if 0 < pid ∧ port ≠ 0 then m.update port (UInt32.ofInt pid) .any else m

/-- The turn of the loop of `PrePopulatePortToPid` for one listening socket. -/
def prePopulate (m : PortToPid) (port : UInt16) (pid : ProcessId) : PortToPid :=
  m.update port (UInt32.ofInt pid) .any

end PortToPid

/-! ## Runs -/

namespace Attribution

open PortToPid

/-- A listening TCP socket, with its port and the process that listens. -/
structure Listener where
  sk : Nat
  port : UInt16
  pid : UInt32
  port_ne : port ≠ 0

/-- An established connection: the process it should be reported with, when it was outgoing and its
local port had no listening socket, and the event. -/
structure Report where
  expected : Option UInt32
  event : Option EstablishedEvent
  deriving DecidableEq

structure State where
  portToPid : PortToPid := ∅
  listeners : List Listener := []
  /-- The processes that were resolved as owners of a TCP port. -/
  owners : List (UInt16 × UInt32) := []
  reports : List Report := []

/-- What happens in the kernel, and the two writes of the daemon. -/
inductive Event where
  | bind (reserved : Bool) (pid : UInt32) (port : UInt16)
  /-- A socket starts to listen. Its port may not be known yet when the state changes (`bound`), and
  the kernel may set the state without `tcp_set_state` (`setState`). -/
  | listen (l : Listener) (bound setState : Bool) (shared : Option SharedSocketData)
  /-- A connection is established, by the process that connects when it is outgoing. -/
  | established (reserved : Bool) (current : UInt32) (connecting : Option UInt32) (port : UInt16)
  /-- A TCP socket is closed. -/
  | close (sk : Nat) (port : UInt16)
  /-- A datagram is sent or received. -/
  | datagram (pid : UInt32) (port : UInt16)
  /-- The owner of an endpoint was looked up, that of a TCP socket when `tcp`. -/
  | resolved (port : UInt16) (pid : ProcessId) (tcp : Bool)
  /-- A socket that listened when the programs were loaded, with its looked up owner. -/
  | existing (l : Listener) (pid : ProcessId)
  /-- The same for a UDP socket. -/
  | existingUdp (port : UInt16) (pid : ProcessId)

namespace State

/-- A TCP socket listens on the port. -/
def Listening (s : State) (port : UInt16) : Prop := ∃ l ∈ s.listeners, l.port = port

/-- The process listens on the port or was resolved as its owner. -/
def Owns (s : State) (port : UInt16) (pid : UInt32) : Prop :=
  (∃ l ∈ s.listeners, l.port = port ∧ l.pid = pid) ∨ (port, pid) ∈ s.owners

instance (s : State) (port : UInt16) : Decidable (s.Listening port) :=
  inferInstanceAs (Decidable (∃ l ∈ s.listeners, l.port = port))

instance (s : State) (port : UInt16) (pid : UInt32) : Decidable (s.Owns port pid) :=
  inferInstanceAs (Decidable ((∃ l ∈ s.listeners, l.port = port ∧ l.pid = pid) ∨ _))

/-- The socket listens already. -/
def IsListener (s : State) (sk : Nat) : Prop := ∃ l ∈ s.listeners, l.sk = sk

instance (s : State) (sk : Nat) : Decidable (s.IsListener sk) :=
  inferInstanceAs (Decidable (∃ l ∈ s.listeners, l.sk = sk))

/-- The map after a socket started to listen. -/
def listenMap (s : State) (l : Listener) (bound setState : Bool)
    (shared : Option SharedSocketData) : PortToPid :=
  let lport := if bound then l.port else 0
  -- `fentry` runs before the body of `tcp_set_state`, which holds the tracepoint
  inetSockSetState (if setState then onTcpListen s.portToPid l.pid lport else s.portToPid) shared
    lport

def step (s : State) : Event → State
  | .bind reserved pid port => { s with portToPid := socketBind s.portToPid reserved pid port }
  | .listen l bound setState shared =>
    if s.IsListener l.sk then s
    else { s with
      portToPid := s.listenMap l bound setState shared
      listeners := s.listeners ++ [l] }
  | .established reserved current connecting port =>
    let result := onTcpEstablished s.portToPid reserved current port
    { s with
      portToPid := result.1
      reports := s.reports ++ [
        { expected := if s.Listening port then none else connecting, event := result.2 }] }
  | .close sk port =>
    match s.listeners.find? (·.sk = sk) with
    | none => { s with portToPid := onTcpClose s.portToPid false port }
    | some l => { s with
        portToPid := onTcpClose s.portToPid true l.port
        listeners := s.listeners.filter (·.sk ≠ sk) }
  | .datagram pid port => { s with portToPid := emitIfBound s.portToPid pid port }
  | .resolved port pid tcp => { s with
      portToPid := onDataReceived s.portToPid port pid
      owners := if tcp ∧ 0 < pid then s.owners ++ [(port, UInt32.ofInt pid)] else s.owners }
  | .existing l pid =>
    if s.IsListener l.sk then s
    else { s with
      portToPid := prePopulate s.portToPid l.port pid
      listeners := s.listeners ++ [l]
      owners := if 0 < pid then s.owners ++ [(l.port, UInt32.ofInt pid)] else s.owners }
  | .existingUdp port pid => { s with portToPid := prePopulate s.portToPid port pid }

/-- While a socket listens on a port, the entry of the port is one of its owners. -/
def Owned (s : State) : Prop :=
  ∀ l ∈ s.listeners, ∃ pid, s.portToPid.lookup l.port = some pid ∧ s.Owns l.port pid

/-- Every outgoing connection from a port without a listening socket was reported with the process
that connected, as an outgoing one. -/
def Reported (s : State) : Prop :=
  ∀ r ∈ s.reports, ∀ pid, r.expected = some pid → r.event = some { pid, isAccept := false }

/-- Connections and ports are attributed to the right processes. -/
def Attributed (s : State) : Prop := s.Owned ∧ s.Reported

/-- A socket listens once. -/
def Distinct (s : State) : Prop :=
  ∀ l ∈ s.listeners, ∀ l' ∈ s.listeners, l.sk = l'.sk → l = l'

/-- A process may be written for a port: no TCP socket listens on it, or the process owns it. -/
def MayTake (s : State) (port : UInt16) (pid : UInt32) : Prop :=
  s.Listening port → s.Owns port pid

/-- The process that the hooks write for a new listener: the one that created the socket, else the
one that listens. -/
def listenPid (l : Listener) (bound setState : Bool) (shared : Option SharedSocketData) :
    Option UInt32 :=
  let current := if setState ∧ l.pid ≠ 0 then some l.pid else none
  match bound, shared with
  | false, _ => none
  | true, none => current
  | true, some data => if data.pid ≠ 0 then some data.pid else current

/-- The condition on an event. -/
def Respects (s : State) : Event → Prop
  | .bind reserved pid port => reserved ∧ port ≠ 0 → s.MayTake port pid
  | .listen l bound setState shared =>
    s.IsListener l.sk ∨
      ∃ pid, (listenPid l bound setState shared).or (s.portToPid.lookup l.port) = some pid ∧
        (l.pid = pid ∨ s.Owns l.port pid)
  | .established reserved current connecting port =>
    ∀ pid, connecting = some pid → ¬s.Listening port →
      reserved = true ∧ ownerPid s.portToPid port = none ∧ current = pid
  | .close sk _ =>
    ∀ l ∈ s.listeners, l.sk = sk → ∀ l' ∈ s.listeners, l'.port = l.port → l'.sk = sk
  | .datagram pid port => port ≠ 0 → s.MayTake port pid
  | .resolved port pid tcp =>
    0 < pid ∧ port ≠ 0 → tcp = true ∨ s.MayTake port (UInt32.ofInt pid)
  | .existing l pid =>
    s.IsListener l.sk ∨ 0 < pid ∨ l.pid = UInt32.ofInt pid ∨ s.Owns l.port (UInt32.ofInt pid)
  | .existingUdp port pid => s.MayTake port (UInt32.ofInt pid)

/-! ## One event -/

section Step

variable {s : State}

/-- Writing a process for a port. -/
theorem owned_write_iff (h : s.Owned) (port : UInt16) (pid : UInt32) :
    ({ s with portToPid := s.portToPid.insert port pid } : State).Owned ↔ s.MayTake port pid := by
  constructor
  · rintro hs' ⟨l, hl, rfl⟩
    obtain ⟨q, hq, howns⟩ := hs' l hl
    rw [AList.lookup_insert, Option.some.injEq] at hq
    subst hq
    exact howns
  · intro htake l hl
    by_cases hport : l.port = port
    · refine ⟨pid, ?_, hport ▸ htake ⟨l, hl, hport⟩⟩
      rw [hport]
      exact AList.lookup_insert _
    · obtain ⟨q, hq, howns⟩ := h l hl
      refine ⟨q, ?_, howns⟩
      rw [← hq]
      exact AList.lookup_insert_ne hport

/-- A new listener. -/
theorem owned_listen_iff (h : s.Owned) {m : PortToPid} {l : Listener}
    (hm : ∀ port, port ≠ l.port → m.lookup port = s.portToPid.lookup port) :
    ({ s with portToPid := m, listeners := s.listeners ++ [l] } : State).Owned ↔
      ∃ pid, m.lookup l.port = some pid ∧ (l.pid = pid ∨ s.Owns l.port pid) := by
  have howns : ∀ port pid,
      ({ s with portToPid := m, listeners := s.listeners ++ [l] } : State).Owns port pid ↔
        (l.port = port ∧ l.pid = pid) ∨ s.Owns port pid := by
    intro port pid
    unfold Owns
    simp only [List.mem_append, List.mem_singleton, or_and_right, exists_or, exists_eq_left]
    constructor
    · rintro ((h | h) | h)
      · exact .inr (.inl h)
      · exact .inl h
      · exact .inr (.inr h)
    · rintro (h | h | h)
      · exact .inl (.inr h)
      · exact .inl (.inl h)
      · exact .inr h
  constructor
  · intro hs'
    obtain ⟨pid, hpid, ho⟩ := hs' l (List.mem_append_right _ (List.mem_singleton_self l))
    refine ⟨pid, hpid, ?_⟩
    rcases (howns _ _).mp ho with ⟨-, hl⟩ | ho
    · exact .inl hl
    · exact .inr ho
  · rintro ⟨pid, hpid, ho⟩ l' hl'
    by_cases hport : l'.port = l.port
    · rw [hport]
      refine ⟨pid, hpid, (howns _ _).mpr ?_⟩
      rcases ho with hl | ho
      · exact .inl ⟨rfl, hl⟩
      · exact .inr ho
    · have hmem : l' ∈ s.listeners := by
        rcases List.mem_append.mp hl' with hl' | hl'
        · exact hl'
        · exact absurd (congrArg Listener.port (List.mem_singleton.mp hl')) hport
      obtain ⟨q, hq, ho⟩ := h l' hmem
      exact ⟨q, (hm _ hport).trans hq, (howns _ _).mpr (.inr ho)⟩

/-- A listener that is closed. -/
theorem owned_close_iff (h : s.Owned) (hdistinct : s.Distinct) {l : Listener}
    (hl : l ∈ s.listeners) :
    ({ s with
        portToPid := s.portToPid.erase l.port
        listeners := s.listeners.filter (·.sk ≠ l.sk) } : State).Owned ↔
      ∀ l' ∈ s.listeners, l'.port = l.port → l'.sk = l.sk := by
  constructor
  · intro hs' l' hl' hport
    by_contra hsk
    obtain ⟨q, hq, -⟩ := hs' l' (List.mem_filter.mpr ⟨hl', decide_eq_true hsk⟩)
    have hnone : (s.portToPid.erase l.port).lookup l'.port = none := by
      rw [hport]
      exact AList.lookup_erase _ _
    cases hnone.symm.trans hq
  · intro hlast l' hl'
    obtain ⟨hl', hsk⟩ := List.mem_filter.mp hl'
    have hport : l'.port ≠ l.port := fun hport => of_decide_eq_true hsk (hlast l' hl' hport)
    obtain ⟨q, hq, ho⟩ := h l' hl'
    refine ⟨q, ?_, ?_⟩
    · rw [← hq]
      exact AList.lookup_erase_ne hport
    · rcases ho with ⟨o, ho, hoport, hopid⟩ | ho
      · refine .inl ⟨o, List.mem_filter.mpr ⟨ho, decide_eq_true fun hosk => ?_⟩, hoport, hopid⟩
        exact hport (hoport.symm.trans (congrArg Listener.port (hdistinct o ho l hl hosk)))
      · exact .inr ho

theorem Distinct.listen (h : s.Distinct) {l : Listener} (hl : ¬s.IsListener l.sk)
    {m : PortToPid} {owners : List (UInt16 × UInt32)} :
    ({ s with portToPid := m, listeners := s.listeners ++ [l], owners := owners } :
      State).Distinct := by
  intro a ha b hb hab
  rcases List.mem_append.mp ha with ha | ha <;> rcases List.mem_append.mp hb with hb | hb
  · exact h a ha b hb hab
  · rw [List.mem_singleton] at hb
    exact absurd ⟨a, ha, hab.trans (congrArg Listener.sk hb)⟩ hl
  · rw [List.mem_singleton] at ha
    exact absurd ⟨b, hb, hab.symm.trans (congrArg Listener.sk ha)⟩ hl
  · rw [List.mem_singleton] at ha hb
    exact ha.trans hb.symm

/-- The hooks of a new listener write no other port. -/
theorem lookup_listenMap (l : Listener) (bound setState : Bool)
    (shared : Option SharedSocketData) {port : UInt16} (hport : port ≠ l.port) :
    (s.listenMap l bound setState shared).lookup port = s.portToPid.lookup port := by
  have htrace : ∀ m : PortToPid, ∀ lport, lport = l.port ∨ lport = 0 →
      (inetSockSetState m shared lport).lookup port = m.lookup port := by
    intro m lport hlport
    unfold inetSockSetState
    cases shared with
    | none => rfl
    | some data =>
      simp only
      split
      · rename_i hne
        rcases hlport with rfl | rfl
        · exact AList.lookup_insert_ne hport
        · exact absurd rfl hne.1
      · rfl
  have hset : ∀ lport, lport = l.port ∨ lport = 0 →
      (onTcpListen s.portToPid l.pid lport).lookup port = s.portToPid.lookup port := by
    intro lport hlport
    unfold onTcpListen
    split
    · rename_i hne
      rcases hlport with rfl | rfl
      · exact AList.lookup_insert_ne hport
      · exact absurd rfl hne.1
    · rfl
  have hlport : (if bound then l.port else 0) = l.port ∨ (if bound then l.port else 0) = 0 := by
    cases bound
    · exact .inr rfl
    · exact .inl rfl
  unfold listenMap
  rw [htrace _ _ hlport]
  split
  · exact hset _ hlport
  · rfl

/-- What the port of a new listener holds after its hooks. -/
theorem lookup_listenMap_self (l : Listener) (bound setState : Bool)
    (shared : Option SharedSocketData) :
    (s.listenMap l bound setState shared).lookup l.port =
      (listenPid l bound setState shared).or (s.portToPid.lookup l.port) := by
  have hset : (if setState then onTcpListen s.portToPid l.pid l.port else s.portToPid).lookup
      l.port = (if setState ∧ l.pid ≠ 0 then some l.pid else none).or
        (s.portToPid.lookup l.port) := by
    unfold onTcpListen
    cases setState with
    | false => simp
    | true =>
      by_cases hpid : l.pid = 0
      · simp [hpid]
      · rw [if_pos rfl, if_pos ⟨l.port_ne, hpid⟩, if_pos ⟨rfl, hpid⟩]
        exact AList.lookup_insert _
  unfold listenMap listenPid inetSockSetState
  cases bound with
  | false => cases shared <;> simp [onTcpListen]
  | true =>
    cases shared with
    | none => exact hset
    | some data =>
      simp only [if_true]
      by_cases hdata : data.pid = 0
      · have hskip : ¬(l.port ≠ 0 ∧ data.pid ≠ 0) := fun h => h.2 hdata
        have hcurrent : ¬data.pid ≠ 0 := fun h => h hdata
        rw [if_neg hskip, if_neg hcurrent]
        exact hset
      · rw [if_pos ⟨l.port_ne, hdata⟩, if_pos hdata]
        exact AList.lookup_insert _

/-- A connection that is established leaves the ports of the listeners alone. -/
theorem owned_established (h : s.Owned) (reserved : Bool) (current : UInt32) (port : UInt16)
    (reports : List Report) :
    ({ s with portToPid := (onTcpEstablished s.portToPid reserved current port).1,
              reports := reports } : State).Owned := by
  intro l hl
  obtain ⟨q, hq, ho⟩ := h l hl
  refine ⟨q, ?_, ho⟩
  unfold onTcpEstablished
  simp only
  split
  · rename_i hnone
    obtain ⟨hnone, hport⟩ := hnone
    rw [ownerPid, if_pos hport] at hnone
    have hne : l.port ≠ port := by
      rintro rfl
      rw [hq] at hnone
      exact absurd hnone (by simp)
    unfold update
    simp only
    split
    · exact hq
    · rw [← hq]
      exact AList.lookup_insert_ne hne
  · exact hq

/-- The report of an outgoing connection is right exactly when it finds no entry for its port, runs
in the process that connects and gets a place in the ring buffer. -/
theorem reported_established_iff (h : s.Reported) (reserved : Bool) (current : UInt32)
    (connecting : Option UInt32) (port : UInt16) :
    (s.step (.established reserved current connecting port)).Reported ↔
      s.Respects (.established reserved current connecting port) := by
  have hevent : ∀ pid,
      (onTcpEstablished s.portToPid reserved current port).2 = some { pid, isAccept := false } ↔
        reserved = true ∧ ownerPid s.portToPid port = none ∧ current = pid := by
    intro pid
    unfold onTcpEstablished
    cases reserved <;> cases ownerPid s.portToPid port <;> simp
  have hsplit : (s.step (.established reserved current connecting port)).Reported ↔
      ∀ pid, (if s.Listening port then none else connecting) = some pid →
        (onTcpEstablished s.portToPid reserved current port).2 =
          some { pid, isAccept := false } := by
    constructor
    · intro hs'
      exact hs' _ (List.mem_append_right _ (List.mem_singleton_self _))
    · intro hnew r hr
      rcases List.mem_append.mp hr with hr | hr
      · exact h r hr
      · rw [List.mem_singleton.mp hr]
        exact hnew
  rw [hsplit]
  unfold Respects
  constructor
  · intro hs' pid hpid hport
    exact (hevent pid).mp (hs' pid (by rw [if_neg hport]; exact hpid))
  · intro hrespects pid hpid
    split at hpid
    · cases hpid
    · rename_i hport
      exact (hevent pid).mpr (hrespects pid hpid hport)

/-- Another owner of a port. -/
theorem Owned.resolve (h : s.Owned) (owner : UInt16 × UInt32) :
    ({ s with owners := s.owners ++ [owner] } : State).Owned := by
  intro l hl
  obtain ⟨q, hq, ho⟩ := h l hl
  refine ⟨q, hq, ?_⟩
  rcases ho with ho | ho
  · exact .inl ho
  · exact .inr (List.mem_append_left _ ho)

/-- One event leaves the attribution right exactly when it meets the condition. -/
theorem attributed_step_iff (h : s.Attributed) (hdistinct : s.Distinct) (e : Event) :
    (s.step e).Attributed ↔ s.Respects e := by
  obtain ⟨howned, hreported⟩ := h
  have hsame : ∀ {s' : State}, s'.reports = s.reports → (s'.Attributed ↔ s'.Owned) := by
    intro s' hs'
    refine and_iff_left ?_
    unfold Reported
    rw [hs']
    exact hreported
  cases e with
  | bind reserved pid port =>
    refine Iff.trans (hsame (by rfl)) ?_
    unfold step socketBind Respects
    simp only
    split
    · rename_i hwrites
      rw [imp_iff_right hwrites]
      exact owned_write_iff howned port pid
    · rename_i hwrites
      exact iff_of_true howned fun hw => absurd hw hwrites
  | listen l bound setState shared =>
    unfold step Respects
    simp only
    split
    · rename_i hlistens
      exact iff_of_true ⟨howned, hreported⟩ (.inl hlistens)
    · rename_i hlistens
      rw [or_iff_right hlistens]
      refine Iff.trans (hsame (by rfl)) ?_
      rw [owned_listen_iff howned fun port hport => lookup_listenMap l bound setState shared hport,
        lookup_listenMap_self]
  | established reserved current connecting port =>
    rw [← reported_established_iff hreported]
    exact and_iff_right (owned_established howned reserved current port _)
  | close sk port =>
    unfold step Respects
    simp only
    split
    · rename_i hnone
      refine iff_of_true ⟨howned, hreported⟩ fun l hl hsk => ?_
      have hne := List.find?_eq_none.mp hnone l hl
      exact absurd (decide_eq_true hsk) hne
    · rename_i l hfind
      have hl := List.mem_of_find?_eq_some hfind
      have hsk : l.sk = sk := by simpa using List.find?_some hfind
      refine Iff.trans (hsame (by rfl)) ?_
      subst hsk
      have hclose : onTcpClose s.portToPid true l.port = s.portToPid.erase l.port :=
        if_pos ⟨rfl, l.port_ne⟩
      rw [hclose, owned_close_iff howned hdistinct hl]
      constructor
      · intro hlast o ho hosk
        rw [hdistinct o ho l hl hosk]
        exact hlast
      · intro hlast
        exact hlast l hl rfl
  | datagram pid port =>
    refine Iff.trans (hsame (by rfl)) ?_
    unfold step emitIfBound Respects
    simp only
    split
    · rename_i hport
      exact iff_of_true howned fun hne => absurd hport hne
    · rename_i hport
      rw [imp_iff_right hport]
      exact owned_write_iff howned port pid
  | resolved port pid tcp =>
    refine Iff.trans (hsame (by rfl)) ?_
    unfold step onDataReceived Respects
    simp only
    by_cases hwrites : 0 < pid ∧ port ≠ 0
    · rw [if_pos hwrites, imp_iff_right hwrites]
      cases tcp with
      | true =>
        rw [if_pos ⟨rfl, hwrites.1⟩]
        refine iff_of_true ?_ (.inl rfl)
        exact (owned_write_iff (howned.resolve _) port _).mpr fun _ =>
          .inr (List.mem_append_right _ (List.mem_singleton_self _))
      | false =>
        rw [if_neg (fun h => Bool.noConfusion h.1), or_iff_right Bool.false_ne_true]
        exact owned_write_iff howned port (UInt32.ofInt pid)
    · rw [if_neg hwrites]
      refine iff_of_true ?_ fun hw => absurd hw hwrites
      split
      · exact howned.resolve _
      · exact howned
  | existing l pid =>
    unfold step Respects
    simp only
    split
    · rename_i hlistens
      exact iff_of_true ⟨howned, hreported⟩ (.inl hlistens)
    · rename_i hlistens
      rw [or_iff_right hlistens]
      refine Iff.trans (hsame (by rfl)) ?_
      have hlookup : (prePopulate s.portToPid l.port pid).lookup l.port =
          some (UInt32.ofInt pid) := AList.lookup_insert _
      have hother : ∀ port, port ≠ l.port →
          (prePopulate s.portToPid l.port pid).lookup port = s.portToPid.lookup port :=
        fun port hport => AList.lookup_insert_ne hport
      split
      · rename_i hfound
        refine iff_of_true ?_ (.inl hfound)
        exact (owned_listen_iff (howned.resolve _) hother).mpr
          ⟨_, hlookup, .inr (.inr (List.mem_append_right _ (List.mem_singleton_self _)))⟩
      · rename_i hfound
        rw [or_iff_right hfound, owned_listen_iff howned hother, hlookup]
        simp
  | existingUdp port pid =>
    refine Iff.trans (hsame (by rfl)) ?_
    exact owned_write_iff howned port (UInt32.ofInt pid)

/-- A socket goes on listening once. -/
theorem Distinct.step (h : s.Distinct) (e : Event) : (s.step e).Distinct := by
  cases e with
  | listen l bound setState shared =>
    unfold State.step
    simp only
    split
    · exact h
    · rename_i hlistens
      exact h.listen hlistens
  | existing l pid =>
    unfold State.step
    simp only
    split
    · exact h
    · rename_i hlistens
      exact h.listen hlistens
  | close sk port =>
    unfold State.step
    simp only
    split
    · exact h
    · intro l hl l' hl'
      exact h l (List.mem_filter.mp hl).1 l' (List.mem_filter.mp hl').1
  | bind | established | datagram | resolved | existingUdp => exact h

end Step

/-! ## Runs -/

/-- **Connections and ports are attributed to the right processes in every state of a run exactly
when every event of it meets the condition.** -/
theorem always_attributed_iff (events : List Event) :
    Always step Attributed {} events ↔ AllSteps step Respects {} events := by
  refine always_iff_allSteps (I := fun s : State => s.Attributed ∧ s.Distinct) (fun _ h => h.1)
    (fun s e h he => ⟨(attributed_step_iff h.1 h.2 e).mpr he, h.2.step e⟩)
    (fun s e h hs' => (attributed_step_iff h.1 h.2 e).mp hs') events ?_
  refine ⟨⟨fun l hl => ?_, fun r hr => ?_⟩, fun l hl => ?_⟩
  · exact absurd hl List.not_mem_nil
  · exact absurd hr List.not_mem_nil
  · exact absurd hl List.not_mem_nil

/-- Process 100 connects from port 40000 and closes the connection; later process 200 connects from
the same port. -/
def portReuse : List Event :=
  [.established true 100 (some 100) 40000,
   .close 1 40000,
   .established true 200 (some 200) 40000]

/-- The entry of the first connection is never deleted: the second one is reported as an accepted
one of process 100. -/
theorem portReuse_misattributed : ¬Always step Attributed {} portReuse := by
  intro h
  have hreport := h.last.2 { expected := some 200, event := some { pid := 100, isAccept := true } }
    (by decide +kernel) 200 rfl
  exact absurd hreport (by decide)

end State

end Attribution

end Waechter
