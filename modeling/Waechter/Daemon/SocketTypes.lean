import Waechter.Daemon.ProcNet
import Waechter.Daemon.SocketEvents

/-!
# The type of a socket from `/proc/net`

`WSocketStateParser::DetermineSocketType` (`Util/Data/SocketStateParser.cpp`) on the lines of the
tables, and its call in `DoPacketParsing` (`Daemon/Data/SystemMap.cpp`).

The caller passes the remote endpoint of the packet, and a line whose remote endpoint is another one
is passed over before its type is looked at. The line of an unconnected UDP socket has no remote
endpoint, so it is always passed over, and the branch for it is never reached.

* `determineSocketType_ne_listen`: whatever the tables say, no UDP socket with a peer is found to be
  listening.
* `unconnected_unknown`: the type of an unconnected UDP socket stays unknown.
-/

namespace Waechter

open Lib.Hex

namespace ProcNet

/-! ## The tables -/

/-- The columns of a line that are read. -/
structure SocketRow where
  localAddr : Text
  remAddr : Text
  state : UInt32

/-- The lines below the headers. A file that cannot be opened has none. -/
structure SocketTables where
  tcp : List SocketRow := []
  tcp6 : List SocketRow := []
  udp : List SocketRow := []
  udp6 : List SocketRow := []

/-- A loop over the lines of a file: the first type that is found is returned. -/
def firstResult (parse : SocketRow → Except StoulError (Option SocketType)) :
    List SocketRow → Except StoulError (Option SocketType)
  | [] => .ok none
  | row :: rows => do
    match ← parse row with
    | some type => return some type
    | none => firstResult parse rows

/-- `DetermineSocketType`: one file is read after the other. -/
def determineSocketType (p : SocketStateParser) (tables : SocketTables) (local_ : Endpoint)
    (protocol : Protocol) (remote : Option Endpoint) : Except StoulError SocketType :=
  match protocol with
  | .tcp => do
    let found ← firstResult
      (fun row => parseTcpLine p row.localAddr row.remAddr row.state local_ remote)
      (tables.tcp ++ tables.tcp6)
    return found.getD .unknown
  | .udp => do
    let found ← firstResult (fun row => parseUdpLine p row.localAddr row.remAddr local_ remote)
      (tables.udp ++ tables.udp6)
    return found.getD .unknown
  | _ => .ok .unknown

/-! ## Lines with another peer -/

/-- The endpoint that a packet has a peer with. -/
def IsPeer (remote : Endpoint) : Prop := ¬(remote.address.isZero = true ∧ remote.port = 0)

theorem otherRemote_of_ne {parsed remote : Endpoint} (hpeer : IsPeer remote)
    (hne : parsed ≠ remote) : otherRemote parsed (some remote) = true := by
  unfold otherRemote
  simp only [Bool.and_eq_true, Bool.or_eq_true, Bool.not_eq_true', bne_iff_ne, ne_eq]
  refine ⟨?_, hne⟩
  by_contra hnone
  rw [not_or, Bool.not_eq_false, not_not] at hnone
  exact hpeer hnone

/-- **No line is one of a listening socket** when a peer is asked for. -/
theorem parseUdpLine_ne_listen (p : SocketStateParser) (localAddr remAddr : Text)
    (target : Endpoint) {remote : Endpoint} (hpeer : IsPeer remote) :
    parseUdpLine p localAddr remAddr target (some remote) ≠ .ok (some .listen) := by
  unfold parseUdpLine
  cases lineLocalEndpoint localAddr with
  | error e => nofun
  | ok parsed =>
    cases parsed with
    | none => nofun
    | some parsed =>
      simp only [bind, Except.bind, pure, Except.pure]
      split
      · nofun
      · cases lineRemoteEndpoint localAddr remAddr with
        | error e => nofun
        | ok parsedRemote =>
          cases parsedRemote with
          | none => nofun
          | some parsedRemote =>
            simp only
            split
            · nofun
            · rename_i hother
              -- the remote endpoint of the line is the peer, which is not zero
              have hsame : parsedRemote = remote := by
                by_contra hne
                exact hother (otherRemote_of_ne hpeer hne)
              rw [if_neg (by simpa [hsame, IsPeer] using hpeer)]
              unfold connectedType
              split <;> exact fun h => absurd (Option.some.inj (Except.ok.inj h)) (by decide)

theorem firstResult_mem {parse : SocketRow → Except StoulError (Option SocketType)}
    {type : SocketType} : ∀ {rows : List SocketRow}, firstResult parse rows = .ok (some type) →
      ∃ row ∈ rows, parse row = .ok (some type)
  | row :: rows, h => by
    simp only [firstResult, bind, Except.bind, pure, Except.pure] at h
    cases hrow : parse row with
    | error e => rw [hrow] at h; nomatch h
    | ok found =>
      cases found with
      | some found =>
        rw [hrow] at h
        exact ⟨row, List.mem_cons_self, hrow.trans h⟩
      | none =>
        rw [hrow] at h
        obtain ⟨r, hr, hparse⟩ := firstResult_mem h
        exact ⟨r, List.mem_cons_of_mem row hr, hparse⟩

/-- **No UDP socket is found to be listening** when a peer is asked for, whatever the tables say. -/
theorem determineSocketType_ne_listen (p : SocketStateParser) (tables : SocketTables)
    (local_ : Endpoint) {remote : Endpoint} (hpeer : IsPeer remote) :
    determineSocketType p tables local_ .udp (some remote) ≠ .ok .listen := by
  simp only [determineSocketType, bind, Except.bind, pure, Except.pure]
  split
  · nofun
  · rename_i found hfound
    intro h
    obtain rfl : found = some .listen := by
      cases found with
      | none => exact absurd (Except.ok.inj h) (by decide)
      | some type => exact congrArg some (Except.ok.inj h)
    obtain ⟨row, -, hrow⟩ := firstResult_mem hfound
    exact parseUdpLine_ne_listen p row.localAddr row.remAddr local_ hpeer hrow

/-! ## What the kernel writes -/

/-- A line as the kernel writes it. -/
structure KernelRow where
  local_ : RawAddress
  localPort : UInt16
  remote : RawAddress
  remotePort : UInt16
  state : UInt32

namespace KernelRow

/-- The columns of the line. -/
def row (r : KernelRow) : SocketRow :=
  { localAddr := procText r.local_ r.localPort
    remAddr := procText r.remote r.remotePort
    state := r.state }

def localEndpoint (r : KernelRow) : Endpoint := endpoint r.local_ r.localPort

def remoteEndpoint (r : KernelRow) : Endpoint := endpoint r.remote r.remotePort

/-- The line of an unconnected socket. -/
def IsUnconnected (r : KernelRow) : Prop :=
  r.remoteEndpoint.address.isZero = true ∧ r.remotePort = 0

end KernelRow

/-- A line whose remote endpoint is another one is passed over. -/
theorem parseUdpLine_row (p : SocketStateParser) (r : KernelRow) (target : Endpoint)
    {remote : Endpoint} (hpeer : IsPeer remote) (hne : r.remoteEndpoint ≠ remote) :
    parseUdpLine p r.row.localAddr r.row.remAddr target (some remote) = .ok none := by
  unfold parseUdpLine lineLocalEndpoint lineRemoteEndpoint
  simp only [KernelRow.row, isIPv6_procText, parseAddressPort_procText, bind, Except.bind, pure,
    Except.pure]
  cases hlocal : r.local_.isIPv4 with
  | false => rfl
  | true =>
    simp only [if_true]
    split
    · rfl
    · cases hremote : r.remote.isIPv4 with
      | false => rfl
      | true =>
        simp only [if_true]
        exact if_pos (otherRemote_of_ne hpeer hne)

theorem firstResult_none {parse : SocketRow → Except StoulError (Option SocketType)} :
    ∀ {rows : List SocketRow}, (∀ row ∈ rows, parse row = .ok none) →
      firstResult parse rows = .ok none
  | [], _ => rfl
  | row :: rows, h => by
    rw [List.forall_mem_cons] at h
    rw [firstResult, h.1]
    exact firstResult_none h.2

/-! ## Unconnected sockets -/

/-- The UDP tables as the kernel writes them. -/
structure UdpTables where
  udp : List KernelRow
  udp6 : List KernelRow

namespace UdpTables

def rows (tables : UdpTables) : List KernelRow := tables.udp ++ tables.udp6

/-- The text of the tables, with any TCP tables. -/
def written (tables : UdpTables) (tcp tcp6 : List SocketRow) : SocketTables :=
  { tcp := tcp, tcp6 := tcp6, udp := tables.udp.map (·.row), udp6 := tables.udp6.map (·.row) }

/-- A socket with the local endpoint, or with the wildcard address of its family and its port, is
unconnected, and no socket has the peer. -/
structure Unconnected (tables : UdpTables) (local_ remote : Endpoint) : Prop where
  peer : IsPeer remote
  bound : ∃ r ∈ tables.rows, matchesLocalEndpoint r.localEndpoint local_ = true ∧ r.IsUnconnected
  others : ∀ r ∈ tables.rows, r.remoteEndpoint ≠ remote

end UdpTables

/-- What `DoPacketParsing` reads when the tables have this text. A number that cannot be read ends
the daemon, which is left out. -/
def readsTables (p : SocketStateParser) (tables : SocketTables) (env : SystemMap.TrafficEnv) :
    SystemMap.TrafficEnv :=
  { env with
    determineSocketType := fun local_ protocol remote =>
      (determineSocketType p tables local_ protocol (some remote)).toOption.getD .unknown }

/-- **An unconnected UDP socket is never found to be listening**: no line has the peer, so its type
stays unknown, and that is what `DoPacketParsing` gives to a socket whose type is not known. -/
theorem unconnected_unknown (p : SocketStateParser) (tables : UdpTables) (tcp tcp6 : List SocketRow)
    (env : SystemMap.TrafficEnv) (d : PacketDirection) (header : PacketHeader) (local_ : Endpoint)
    (hu : tables.Unconnected local_ (header.remote d)) :
    determineSocketType p (tables.written tcp tcp6) local_ .udp (some (header.remote d)) =
        .ok .unknown ∧
      ∀ item : SocketItem, header.l4Proto = .udp → item.socketType = .unknown →
        (SystemMap.applyPacketHeader (readsTables p (tables.written tcp tcp6) env) d header
          item).1.socketType ≠ .listen := by
  have hunknown : ∀ target, determineSocketType p (tables.written tcp tcp6) target .udp
      (some (header.remote d)) = .ok .unknown := by
    intro target
    have hrows : firstResult
        (fun row => parseUdpLine p row.localAddr row.remAddr target (some (header.remote d)))
        ((tables.written tcp tcp6).udp ++ (tables.written tcp tcp6).udp6) = .ok none := by
      refine firstResult_none fun row hrow => ?_
      simp only [UdpTables.written, ← List.map_append, List.mem_map] at hrow
      obtain ⟨r, hr, rfl⟩ := hrow
      exact parseUdpLine_row p r target hu.peer (hu.others r hr)
    simp only [determineSocketType, hrows]
    rfl
  refine ⟨hunknown local_, fun item hudp htype => ?_⟩
  have hdetermined : (SystemMap.applyPacketHeader (readsTables p (tables.written tcp tcp6) env) d
      header item).1.socketType = .unknown := by
    unfold SystemMap.applyPacketHeader
    simp only [htype, hudp, readsTables, hunknown]
    rfl
  rw [hdetermined]
  decide

/-- One socket is bound to port 53 on every address, and connected to nobody. -/
def nameServer : UdpTables :=
  { udp := [{ local_ := .ipv4 #v[0, 0, 0, 0], localPort := 53
              remote := .ipv4 #v[0, 0, 0, 0], remotePort := 0, state := 7 }]
    udp6 := [] }

/-- A query to the name server. -/
def query : PacketHeader :=
  { src := endpoint (.ipv4 (quad 10 0 0 2)) 4000, dst := endpoint (.ipv4 (quad 10 0 0 1)) 53
    l4Proto := .udp }

theorem nameServer_unconnected : nameServer.Unconnected (query.local .incoming)
    (query.remote .incoming) := by
  refine ⟨by unfold IsPeer; decide, ⟨_, List.mem_singleton.mpr rfl, ?_, ?_, rfl⟩, fun r hr => ?_⟩
  · decide
  · decide
  · obtain rfl := List.mem_singleton.mp hr
    decide

/-- The name server is not found to be listening. -/
theorem unconnected_unknown_nameServer :
    determineSocketType {} (nameServer.written [] []) (query.local .incoming) .udp
        (some (query.remote .incoming)) = .ok .unknown ∧
      ∀ item : SocketItem, query.l4Proto = .udp → item.socketType = .unknown →
        (SystemMap.applyPacketHeader (readsTables {} (nameServer.written [] [])
          { order := .stored, now := 0, procInfo := fun _ => {}, endpointPID := fun _ => 0
            determineSocketType := fun _ _ _ => .unknown }) .incoming query
          item).1.socketType ≠ .listen :=
  unconnected_unknown {} nameServer [] [] _ .incoming query _ nameServer_unconnected

/-- **The branch for a listening socket is not reached.** -/
theorem listen_fails_nameServer : ¬ ∀ (p : SocketStateParser) (tables : UdpTables)
    (tcp tcp6 : List SocketRow) (local_ remote : Endpoint), tables.Unconnected local_ remote →
      determineSocketType p (tables.written tcp tcp6) local_ .udp (some remote) = .ok .listen := by
  intro hall
  have hlisten := hall {} nameServer [] [] _ _ nameServer_unconnected
  exact absurd hlisten (by decide)

end ProcNet

end Waechter
