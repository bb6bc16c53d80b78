import Waechter.Daemon.SystemMap

/-!
# The sockets in `/proc`

`WSocketStateParser` (`Util/Data/SocketStateParser.cpp`): who owns which local endpoint, from the
tables `/proc/net/{tcp,tcp6,udp,udp6}` and the socket links under `/proc/<pid>/fd`, and
`LookupEndpoints` of the helper process (`Net/IPLinkProc/IPLinkProc.cpp`).

A line is what the stream extraction makes of it. The kernel writes one colon into an address, so
`bIsIPv6` is never set and an IPv6 address is left out of the endpoint.

An endpoint that is not in a table is looked up as 0, or as -1 for the daemon itself; one whose
inode nobody has open is stored with the PID -1 (`lookupEndpoint_cases`).
-/

namespace Waechter

open Lib

/-- A line of a table: the hexadecimal digits of the local address before the colon, and the remote
address. -/
structure ProcNetLine where
  localAddress : String
  localPort : UInt16
  remoteAddress : String
  state : UInt32
  inode : Nat

/-- The tables, and the sockets under `/proc/<pid>/fd` in the order they are visited. -/
structure ProcTables where
  fds : List (ProcessId × Nat) := []
  tcp : List ProcNetLine := []
  tcp6 : List ProcNetLine := []
  udp : List ProcNetLine := []
  udp6 : List ProcNetLine := []

/-- The state of the parser after `ParseData`. -/
structure SocketStateParser where
  knownUsedPorts : List UInt16 := []
  knownListeningPorts : UMap UInt16 ProcessId := ∅
  knownUsedEndpoints : UMap Endpoint ProcessId := ∅
  knownListeningSockets : List SystemMap.ListenSocketInfo := []

namespace SocketStateParser

def TCP_LISTEN : UInt32 := 0x0A

/-- A hexadecimal digit. -/
def hexDigit (c : Char) : Nat :=
  if c.isDigit then c.toNat - '0'.toNat else c.toUpper.toNat - 'A'.toNat + 10

/-- `ParseAddressPort` without `bIsIPv6`: the address of eight digits. -/
def parseAddress (digits : String) : Option IPAddress :=
  let cs := digits.toList
  if cs.length ≠ 8 then none
  else some (({} : IPAddress).fromIPv4Uint32
    (UInt32.ofNat (cs.foldl (fun n c => 16 * n + hexDigit c) 0)))

/-- The local endpoint of a line. -/
def localEndpoint (line : ProcNetLine) : Endpoint :=
  { address := (parseAddress line.localAddress).getD {}, port := line.localPort }

/-- The map from an inode to the first process that has it open. -/
def inodePidMap (fds : List (ProcessId × Nat)) : UMap Nat ProcessId :=
  fds.foldl (fun m e =>
    if e.1 ≤ 0 ∨ (m.lookup e.2).isSome then m else m.insert e.2 e.1) ∅

/-- `Pid` of a line. -/
def pidOf (inodes : UMap Nat ProcessId) (line : ProcNetLine) : ProcessId :=
  (inodes.lookup line.inode).getD (-1)

/-- A turn of the loop of `ParseTcpFile`. -/
def parseTcp (inodes : UMap Nat ProcessId) (p : SocketStateParser) (line : ProcNetLine) :
    SocketStateParser :=
  let pid := pidOf inodes line
  let endpoint := localEndpoint line
  let p := { p with
    knownUsedPorts := line.localPort :: p.knownUsedPorts
    knownUsedEndpoints := p.knownUsedEndpoints.insert endpoint pid }
  if line.state = TCP_LISTEN then
    { p with
      knownListeningPorts := p.knownListeningPorts.insert line.localPort pid
      knownListeningSockets := p.knownListeningSockets ++
        [{ localEndpoint := endpoint, protocol := .tcp, pid := pid }] }
  else p

/-- The remote address of an unconnected UDP socket. -/
def isUnconnected (line : ProcNetLine) : Bool :=
  "00000000:0000".toList.isPrefixOf line.remoteAddress.toList ||
    "00000000000000000000000000000000:0000".toList.isPrefixOf line.remoteAddress.toList

/-- A turn of the loop of `ParseUdpFile`: unbound sockets are ignored. -/
def parseUdp (inodes : UMap Nat ProcessId) (p : SocketStateParser) (line : ProcNetLine) :
    SocketStateParser :=
  if line.localPort = 0 then p
  else
    let pid := pidOf inodes line
    let endpoint := localEndpoint line
    let p := { p with
      knownUsedPorts := line.localPort :: p.knownUsedPorts
      knownUsedEndpoints := p.knownUsedEndpoints.insert endpoint pid }
    if isUnconnected line then
      { p with
        knownListeningPorts := p.knownListeningPorts.insert line.localPort pid
        knownListeningSockets := p.knownListeningSockets ++
          [{ localEndpoint := endpoint, protocol := .udp, pid := pid }] }
    else p

/-- `ParseData`. -/
def parseData (tables : ProcTables) : SocketStateParser :=
  let inodes := inodePidMap tables.fds
  let p := tables.tcp.foldl (parseTcp inodes) {}
  let p := tables.tcp6.foldl (parseTcp inodes) p
  let p := tables.udp.foldl (parseUdp inodes) p
  tables.udp6.foldl (parseUdp inodes) p

/-- `IsUsedPort`. -/
def isUsedPort (p : SocketStateParser) (port : UInt16) : Bool :=
  port = 0 || p.knownUsedPorts.contains port

/-- The result of `LookupEndpoints` for one endpoint. -/
def lookupEndpoint (p : SocketStateParser) (endpoint : Endpoint) : ProcessId :=
  (p.knownUsedEndpoints.lookup endpoint).getD 0

/-! ## Owners -/

end SocketStateParser

namespace ProcTables

/-- The lines of all tables. -/
def lines (tables : ProcTables) : List ProcNetLine :=
  tables.tcp ++ tables.tcp6 ++ tables.udp ++ tables.udp6

/-- The process has a socket with that local endpoint open. -/
def Owns (tables : ProcTables) (endpoint : Endpoint) (pid : ProcessId) : Prop :=
  0 < pid ∧ ∃ line ∈ tables.lines,
    SocketStateParser.localEndpoint line = endpoint ∧ (pid, line.inode) ∈ tables.fds

/-- The lines that are not ignored, in the order they are read. -/
def bound (tables : ProcTables) : List ProcNetLine :=
  tables.tcp ++ tables.tcp6 ++ (tables.udp ++ tables.udp6).filter (·.localPort ≠ 0)

/-- The line that counts for an endpoint: the last one. -/
def lineOf (tables : ProcTables) (endpoint : Endpoint) : Option ProcNetLine :=
  tables.bound.reverse.find? (SocketStateParser.localEndpoint · = endpoint)

/-- No process has the socket of the endpoint open. -/
def Ownerless (tables : ProcTables) (endpoint : Endpoint) : Prop :=
  ∃ line, tables.lineOf endpoint = some line ∧ ∀ e ∈ tables.fds, e.2 = line.inode → e.1 ≤ 0

theorem mem_lines_of_mem_bound {tables : ProcTables} {line : ProcNetLine}
    (h : line ∈ tables.bound) : line ∈ tables.lines := by
  simp only [bound, lines, List.mem_append, List.mem_filter] at h ⊢
  tauto

theorem lineOf_spec {tables : ProcTables} {endpoint : Endpoint} {line : ProcNetLine}
    (h : tables.lineOf endpoint = some line) :
    line ∈ tables.lines ∧ SocketStateParser.localEndpoint line = endpoint := by
  have hmem := List.mem_reverse.mp (List.mem_of_find?_eq_some h)
  have hendpoint := List.find?_some h
  exact ⟨mem_lines_of_mem_bound hmem, of_decide_eq_true hendpoint⟩

end ProcTables

namespace SocketStateParser

/-- The turn of the loops over the links: the first process that has an inode open stays. -/
theorem lookup_inodePidMap_foldl (inode : Nat) : ∀ (fds : List (ProcessId × Nat))
    (m : UMap Nat ProcessId),
    (fds.foldl (fun m e => if e.1 ≤ 0 ∨ (m.lookup e.2).isSome then m else m.insert e.2 e.1)
      m).lookup inode =
      (m.lookup inode).or ((fds.find? fun e => 0 < e.1 ∧ e.2 = inode).map Prod.fst)
  | [], m => by simp
  | e :: fds, m => by
    rw [List.foldl_cons, lookup_inodePidMap_foldl inode fds, List.find?_cons]
    split
    · rename_i hskip
      rcases hskip with hpid | hknown
      · rw [decide_eq_false fun h => absurd h.1 (Int.not_lt.mpr hpid)]
      · by_cases hinode : e.2 = inode
        · obtain ⟨pid, hpid⟩ := Option.isSome_iff_exists.mp (hinode ▸ hknown)
          simp [hpid]
        · rw [decide_eq_false fun h => hinode h.2]
    · rename_i hnew
      rw [not_or, Int.not_le, Bool.not_eq_true, Option.isSome_eq_false_iff,
        Option.isNone_iff_eq_none] at hnew
      rw [UMap.lookup_insert_ite]
      split
      · rename_i hinode
        subst hinode
        rw [decide_eq_true ⟨hnew.1, rfl⟩, hnew.2]
        rfl
      · rename_i hinode
        rw [decide_eq_false fun h => hinode h.2.symm]

/-- An inode belongs to the first process that has it open. -/
theorem lookup_inodePidMap (fds : List (ProcessId × Nat)) (inode : Nat) :
    (inodePidMap fds).lookup inode =
      (fds.find? fun e => 0 < e.1 ∧ e.2 = inode).map Prod.fst := by
  unfold inodePidMap
  rw [lookup_inodePidMap_foldl]
  rfl

/-- The PID of a line is -1 or that of a process that has the socket open. -/
theorem pidOf_cases (fds : List (ProcessId × Nat)) (line : ProcNetLine) :
    (pidOf (inodePidMap fds) line = -1 ∧ ∀ e ∈ fds, e.2 = line.inode → e.1 ≤ 0) ∨
      0 < pidOf (inodePidMap fds) line ∧ (pidOf (inodePidMap fds) line, line.inode) ∈ fds := by
  unfold pidOf
  rw [lookup_inodePidMap]
  cases hfind : fds.find? fun e => 0 < e.1 ∧ e.2 = line.inode with
  | none =>
    refine .inl ⟨rfl, fun e he hinode => ?_⟩
    have hnot := List.find?_eq_none.mp hfind e he
    exact Int.not_lt.mp fun hpos => hnot (decide_eq_true ⟨hpos, hinode⟩)
  | some e =>
    have hfound := List.find?_some hfind
    obtain ⟨hpos, hinode⟩ := of_decide_eq_true hfound
    refine .inr ⟨hpos, ?_⟩
    rw [← hinode]
    exact List.mem_of_find?_eq_some hfind

/-- What a table adds to the endpoints. -/
theorem lookup_usedEndpoints_foldl (inodes : UMap Nat ProcessId) (endpoint : Endpoint) :
    ∀ (lines : List ProcNetLine) (m : UMap Endpoint ProcessId),
      (lines.foldl (fun m line => m.insert (localEndpoint line) (pidOf inodes line)) m).lookup
        endpoint =
        ((lines.reverse.find? (localEndpoint · = endpoint)).map (pidOf inodes)).or
          (m.lookup endpoint)
  | [], m => rfl
  | line :: lines, m => by
    rw [List.foldl_cons, lookup_usedEndpoints_foldl inodes endpoint lines, List.reverse_cons,
      List.find?_append, UMap.lookup_insert_ite]
    cases lines.reverse.find? (localEndpoint · = endpoint) with
    | some line' => rfl
    | none => by_cases he : localEndpoint line = endpoint <;> simp [he, eq_comm (a := endpoint)]

theorem usedEndpoints_parseTcp (inodes : UMap Nat ProcessId) :
    ∀ (lines : List ProcNetLine) (p : SocketStateParser),
      (lines.foldl (parseTcp inodes) p).knownUsedEndpoints =
        lines.foldl (fun m line => m.insert (localEndpoint line) (pidOf inodes line))
          p.knownUsedEndpoints
  | [], _ => rfl
  | line :: lines, p => by
    rw [List.foldl_cons, usedEndpoints_parseTcp inodes lines, List.foldl_cons]
    unfold parseTcp
    simp only
    split <;> rfl

theorem usedEndpoints_parseUdp (inodes : UMap Nat ProcessId) :
    ∀ (lines : List ProcNetLine) (p : SocketStateParser),
      (lines.foldl (parseUdp inodes) p).knownUsedEndpoints =
        (lines.filter (·.localPort ≠ 0)).foldl
          (fun m line => m.insert (localEndpoint line) (pidOf inodes line)) p.knownUsedEndpoints
  | [], _ => rfl
  | line :: lines, p => by
    rw [List.foldl_cons, usedEndpoints_parseUdp inodes lines]
    unfold parseUdp
    by_cases hport : line.localPort = 0
    · simp [hport]
    · rw [List.filter_cons_of_pos (by simpa using hport), List.foldl_cons, if_neg hport]
      simp only
      split <;> rfl

/-- **The PID of an endpoint is that of the last line with it.** -/
theorem lookup_knownUsedEndpoints (tables : ProcTables) (endpoint : Endpoint) :
    (parseData tables).knownUsedEndpoints.lookup endpoint =
      (tables.lineOf endpoint).map (pidOf (inodePidMap tables.fds)) := by
  have hbound : (parseData tables).knownUsedEndpoints = tables.bound.foldl
      (fun m line => m.insert (localEndpoint line) (pidOf (inodePidMap tables.fds) line)) ∅ := by
    unfold parseData
    simp only [usedEndpoints_parseUdp, usedEndpoints_parseTcp, ProcTables.bound, List.foldl_append,
      List.filter_append]
  rw [hbound, lookup_usedEndpoints_foldl]
  exact Option.or_none

/-- **A lookup answers with 0 for an endpoint that is in no table, with -1 for one that nobody has
open, and else with an owner.** -/
theorem lookupEndpoint_cases (tables : ProcTables) (endpoint : Endpoint) :
    lookupEndpoint (parseData tables) endpoint = 0 ∧ ¬tables.Ownerless endpoint ∨
      lookupEndpoint (parseData tables) endpoint = -1 ∧ tables.Ownerless endpoint ∨
      tables.Owns endpoint (lookupEndpoint (parseData tables) endpoint) ∧
        ¬tables.Ownerless endpoint := by
  unfold lookupEndpoint ProcTables.Ownerless
  rw [lookup_knownUsedEndpoints]
  cases hline : tables.lineOf endpoint with
  | none => exact .inl ⟨rfl, fun ⟨line, hsome, _⟩ => nomatch hsome⟩
  | some line =>
    refine .inr ?_
    simp only [Option.map_some, Option.getD_some, Option.some.injEq, exists_eq_left']
    obtain ⟨hmem, hendpoint⟩ := ProcTables.lineOf_spec hline
    rcases pidOf_cases tables.fds line with hnone | ⟨hpos, hfd⟩
    · exact .inl hnone
    · refine .inr ⟨⟨hpos, line, hmem, hendpoint, hfd⟩, fun hall => ?_⟩
      exact absurd hpos (Int.not_lt.mpr (hall _ hfd rfl))

end SocketStateParser

end Waechter
