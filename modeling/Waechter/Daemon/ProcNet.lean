import Waechter.Lib.Hex
import Waechter.Daemon.AddressForms
import Waechter.Daemon.SocketStateParser

/-!
# The text of `/proc/net`

How `WSocketStateParser` reads the addresses of `/proc/net/{tcp,tcp6,udp,udp6}`
(`Util/Data/SocketStateParser.cpp`): `ParseAddressPort` and its callers, on the columns of a line.
The kernel writes an address as the words of its bytes, eight digits each, with a colon before the
port.

* `parseAddressPort_procText`: an IPv4 address is read back; one of an IPv6 address is refused,
  since the text has one colon and `bIsIPv6` takes two.
* `decodes_iff`: all callers obtain the right endpoints exactly when the addresses are IPv4.
-/

namespace Waechter

open Lib.Hex

namespace ProcNet

/-- The columns of a line are texts. -/
abbrev Text := List Char

def TCP_ESTABLISHED : UInt32 := 0x01

/-! ## The parser -/

/-- `find(':')`. -/
def findColon (s : Text) : Option Nat := s.findIdx? (· = ':')

/-- `rfind(':')`. -/
def rfindColon (s : Text) : Option Nat :=
  (s.reverse.findIdx? (· = ':')).map fun i => s.length - 1 - i

/-- `bIsIPv6`: the first colon is not the last one. -/
def isIPv6 (s : Text) : Bool := findColon s != rfindColon s

/-- `static_cast<uint32_t>(std::stoul(…, nullptr, 16))`. -/
def parseWord (s : Text) : Except StoulError UInt32 := UInt32.ofNat <$> stoul s

/-- `static_cast<uint16_t>(std::stoul(…, nullptr, 16))`. -/
def parsePort (s : Text) : Except StoulError UInt16 := UInt16.ofNat <$> stoul s

/-- `ParseAddressPort`: `none` is the return value false. -/
def parseAddressPort (s : Text) (isIPv6 : Bool) : Except StoulError (Option Endpoint) :=
  match findColon s with
  | none => .ok none
  | some colonPos => do
    let addr := s.take colonPos
    let port ← parsePort (s.drop (colonPos + 1))
    if isIPv6 then
      if addr.length ≠ 32 then return none
      else
        let quad0 ← parseWord (addr.take 8)
        let quad1 ← parseWord ((addr.drop 8).take 8)
        let quad2 ← parseWord ((addr.drop 16).take 8)
        let quad3 ← parseWord ((addr.drop 24).take 8)
        return some {
          address := ({} : IPAddress).setBytes
            (wordBytes quad0 ++ wordBytes quad1 ++ wordBytes quad2 ++ wordBytes quad3) .ipv6
          port := port }
    else
      if addr.length ≠ 8 then return none
      else
        let addr4 ← parseWord addr
        return some { address := ({} : IPAddress).setBytes (wordBytes addr4) .ipv4, port := port }

/-- The local endpoint of a line of `ParseTcpFile`. Without an address it keeps its port. -/
def tcpFileEndpoint (localAddr : Text) : Except StoulError (Option Endpoint) :=
  match findColon localAddr with
  | none => .ok none
  | some colonPos => do
    let port ← parsePort (localAddr.drop (colonPos + 1))
    let parsed ← parseAddressPort localAddr (isIPv6 localAddr)
    return some { address := (parsed.map (·.address)).getD {}, port := port }

/-- The local endpoint of a line of `ParseUdpFile`: that of `KnownUsedEndpoints`, and the same of
`KnownListeningSockets`. Unbound sockets are ignored. -/
def udpFileEndpoint (localAddr : Text) : Except StoulError (Option Endpoint) :=
  match findColon localAddr with
  | none => .ok none
  | some colonPos => do
    let port ← parsePort (localAddr.drop (colonPos + 1))
    if port = 0 then return none
    else
      let parsed ← parseAddressPort localAddr (isIPv6 localAddr)
      return some { address := (parsed.map (·.address)).getD {}, port := port }

/-- `MatchesLocalEndpoint`. -/
def matchesLocalEndpoint (parsed target : Endpoint) : Bool :=
  parsed.port = target.port && (parsed.address = target.address ||
    (parsed.address.isZero && parsed.address.family = target.address.family))

/-- The target has a remote endpoint, and the line another one. -/
def otherRemote (parsed : Endpoint) (remote : Option Endpoint) : Bool :=
  match remote with
  | none => false
  | some target => (!target.address.isZero || target.port != 0) && parsed != target

/-- The guess for a socket that is connected. -/
def connectedType (p : SocketStateParser) (localPort : UInt16) : SocketType :=
  if (p.knownListeningPorts.lookup localPort).isSome ∨ localPort < 1024 then .accept else .connect

/-- The local endpoint of a line of `ParseTcpLine` and `ParseUdpLine`. -/
def lineLocalEndpoint (localAddr : Text) : Except StoulError (Option Endpoint) :=
  parseAddressPort localAddr (isIPv6 localAddr)

/-- The remote endpoint of a line of `ParseTcpLine` and `ParseUdpLine`: the local address tells
`bIsIPv6`. -/
def lineRemoteEndpoint (localAddr remAddr : Text) : Except StoulError (Option Endpoint) :=
  parseAddressPort remAddr (isIPv6 localAddr)

/-- `ParseTcpLine`. -/
def parseTcpLine (p : SocketStateParser) (localAddr remAddr : Text) (state : UInt32)
    (target : Endpoint) (remote : Option Endpoint) : Except StoulError (Option SocketType) := do
  match ← lineLocalEndpoint localAddr with
  | none => return none
  | some parsed =>
    if !matchesLocalEndpoint parsed target then return none
    else
      let parsedRemote ←
        if remote.isSome then lineRemoteEndpoint localAddr remAddr else pure (some {})
      match parsedRemote with
      | none => return none
      | some parsedRemote =>
        if otherRemote parsedRemote remote then return none
        else if state = SocketStateParser.TCP_LISTEN then return some .listen
        else if state = TCP_ESTABLISHED then return some (connectedType p parsed.port)
        else return none

/-- `ParseUdpLine`. -/
def parseUdpLine (p : SocketStateParser) (localAddr remAddr : Text) (target : Endpoint)
    (remote : Option Endpoint) : Except StoulError (Option SocketType) := do
  match ← lineLocalEndpoint localAddr with
  | none => return none
  | some parsed =>
    if !matchesLocalEndpoint parsed target then return none
    else
      match ← lineRemoteEndpoint localAddr remAddr with
      | none => return none
      | some parsedRemote =>
        if otherRemote parsedRemote remote then return none
        else if parsedRemote.address.isZero && parsedRemote.port = 0 then return some .listen
        else return some (connectedType p parsed.port)

/-! ## What the kernel writes -/

/-- The digits of an address. -/
def procAddress (raw : RawAddress) : Text := raw.words.flatMap fun word => digits 8 word.toNat

/-- A column of a line: the address, a colon, and four digits for the port. -/
def procText (raw : RawAddress) (port : UInt16) : Text :=
  procAddress raw ++ ':' :: digits 4 port.toNat

/-- The endpoint that is meant. -/
def endpoint (raw : RawAddress) (port : UInt16) : Endpoint := { address := raw.address, port := port }

/-! ## Colons -/

theorem findIdx_colon {a b : Text} (ha : ':' ∉ a) :
    (a ++ ':' :: b).findIdx? (· = ':') = some a.length := by
  have hnone : a.findIdx? (· = ':') = none :=
    List.findIdx?_eq_none_iff.mpr fun c hc => decide_eq_false fun he => ha (he ▸ hc)
  rw [List.findIdx?_append, hnone, List.findIdx?_cons]
  simp

/-- The first colon is the last one. -/
theorem isIPv6_eq_false {a b : Text} (ha : ':' ∉ a) (hb : ':' ∉ b) :
    isIPv6 (a ++ ':' :: b) = false := by
  have hreverse : (a ++ ':' :: b).reverse = b.reverse ++ ':' :: a.reverse := by simp
  have hlast : rfindColon (a ++ ':' :: b) = some a.length := by
    unfold rfindColon
    rw [hreverse, findIdx_colon (by simpa using hb)]
    simp
  unfold isIPv6 findColon
  rw [findIdx_colon ha, hlast]
  exact bne_self_eq_false _

theorem colon_not_mem_digits (k n : Nat) : ':' ∉ digits k n := by
  intro h
  obtain ⟨d, hd⟩ := mem_digits h
  exact (digitChar_spec d).2.2.2.2.2.2 hd.symm

theorem colon_not_mem_procAddress (raw : RawAddress) : ':' ∉ procAddress raw := by
  unfold procAddress
  rw [List.mem_flatMap]
  rintro ⟨word, -, hcolon⟩
  exact colon_not_mem_digits 8 _ hcolon

theorem length_procAddress (raw : RawAddress) :
    (procAddress raw).length = if raw.isIPv4 then 8 else 32 := by
  cases raw <;> simp [procAddress, RawAddress.words, RawAddress.isIPv4]

theorem procAddress_ipv4 (a : Vector UInt8 4) :
    procAddress (.ipv4 a) = digits 8 (ipv4Word a).toNat := List.append_nil _

/-- `bIsIPv6` is never set. -/
theorem isIPv6_procText (raw : RawAddress) (port : UInt16) : isIPv6 (procText raw port) = false :=
  isIPv6_eq_false (colon_not_mem_procAddress raw) (colon_not_mem_digits 4 _)

/-! ## Reading back -/

theorem parsePort_digits (port : UInt16) : parsePort (digits 4 port.toNat) = .ok port := by
  unfold parsePort
  rw [stoul_digits (by decide) (by decide) port.toNat_lt]
  exact congrArg Except.ok port.ofNat_toNat

theorem parseWord_digits (w : UInt32) : parseWord (digits 8 w.toNat) = .ok w := by
  unfold parseWord
  rw [stoul_digits (by decide) (by decide) w.toNat_lt]
  exact congrArg Except.ok w.ofNat_toNat

theorem drop_procText (raw : RawAddress) (port : UInt16) :
    (procText raw port).drop ((procAddress raw).length + 1) = digits 4 port.toNat := by
  unfold procText
  simp

/-- **An IPv4 address is read back**, an IPv6 address is refused. -/
theorem parseAddressPort_procText (raw : RawAddress) (port : UInt16) :
    parseAddressPort (procText raw port) false =
      .ok (if raw.isIPv4 then some (endpoint raw port) else none) := by
  have hcolon : findColon (procText raw port) = some (procAddress raw).length :=
    findIdx_colon (colon_not_mem_procAddress raw)
  have haddr : (procText raw port).take (procAddress raw).length = procAddress raw := List.take_left
  unfold parseAddressPort
  rw [hcolon]
  simp only [haddr, drop_procText, parsePort_digits, bind, Except.bind, Bool.false_eq_true, if_false]
  cases raw with
  | ipv4 a =>
    have hlength : (procAddress (.ipv4 a)).length = 8 := length_procAddress _
    rw [if_neg (not_not.mpr hlength), procAddress_ipv4, parseWord_digits]
    dsimp only
    rw [wordBytes_ipv4, IPAddress.setBytes_ipv4]
    rfl
  | ipv6 a =>
    have hlength : (procAddress (.ipv6 a)).length = 32 := length_procAddress _
    rw [if_pos (by rw [hlength]; decide)]
    rfl

/-- What `ParseTcpFile` takes the address of a line for. -/
theorem parsed_address (raw : RawAddress) (port : UInt16) :
    ((if raw.isIPv4 then some (endpoint raw port) else none).map (·.address)).getD {} =
      if raw.isIPv4 then raw.address else {} := by
  cases raw <;> rfl

/-- The local endpoint of a line of `ParseTcpFile`: that of an IPv6 address has no address. -/
theorem tcpFileEndpoint_procText (raw : RawAddress) (port : UInt16) :
    tcpFileEndpoint (procText raw port) =
      .ok (some { address := if raw.isIPv4 then raw.address else {}, port := port }) := by
  have hcolon : findColon (procText raw port) = some (procAddress raw).length :=
    findIdx_colon (colon_not_mem_procAddress raw)
  unfold tcpFileEndpoint
  rw [hcolon]
  simp only [drop_procText, parsePort_digits, isIPv6_procText, parseAddressPort_procText, bind,
    Except.bind, parsed_address]
  rfl

theorem udpFileEndpoint_procText (raw : RawAddress) (port : UInt16) :
    udpFileEndpoint (procText raw port) = .ok (if port = 0 then none else
      some { address := if raw.isIPv4 then raw.address else {}, port := port }) := by
  have hcolon : findColon (procText raw port) = some (procAddress raw).length :=
    findIdx_colon (colon_not_mem_procAddress raw)
  unfold udpFileEndpoint
  rw [hcolon]
  simp only [drop_procText, parsePort_digits, isIPv6_procText, parseAddressPort_procText, bind,
    Except.bind, parsed_address]
  split <;> rfl

/-! ## The callers -/

/-- The callers obtain the endpoints of a line, the local one of `ParseUdpFile` when it is bound. -/
structure Decodes (local_ remote : RawAddress) (localPort remotePort : UInt16) : Prop where
  tcpFile : tcpFileEndpoint (procText local_ localPort) = .ok (some (endpoint local_ localPort))
  udpFile : udpFileEndpoint (procText local_ localPort) =
    .ok (if localPort = 0 then none else some (endpoint local_ localPort))
  lineLocal : lineLocalEndpoint (procText local_ localPort) = .ok (some (endpoint local_ localPort))
  lineRemote : lineRemoteEndpoint (procText local_ localPort) (procText remote remotePort) =
    .ok (some (endpoint remote remotePort))

/-- **The endpoints of `/proc/net`** are obtained exactly when the addresses are IPv4. -/
theorem decodes_iff (local_ remote : RawAddress) (localPort remotePort : UInt16) :
    Decodes local_ remote localPort remotePort ↔ local_.isIPv4 = true ∧ remote.isIPv4 = true := by
  constructor
  · intro h
    -- a column with an IPv6 address is refused as the local and as the remote one
    have hlocal := h.lineLocal
    have hremote := h.lineRemote
    rw [lineLocalEndpoint, isIPv6_procText, parseAddressPort_procText] at hlocal
    rw [lineRemoteEndpoint, isIPv6_procText, parseAddressPort_procText] at hremote
    constructor
    · by_contra hne
      rw [if_neg hne] at hlocal
      cases hlocal
    · by_contra hne
      rw [if_neg hne] at hremote
      cases hremote
  · rintro ⟨hlocal, hremote⟩
    refine ⟨?_, ?_, ?_, ?_⟩
    · rw [tcpFileEndpoint_procText, if_pos hlocal]
      rfl
    · rw [udpFileEndpoint_procText, if_pos hlocal]
      rfl
    · rw [lineLocalEndpoint, isIPv6_procText, parseAddressPort_procText, if_pos hlocal]
    · rw [lineRemoteEndpoint, isIPv6_procText, parseAddressPort_procText, if_pos hremote]

/-- The listening socket [::1]:8080 is entered without its address. -/
theorem loopback_not_decoded : ¬Decodes (.ipv6 (Vector.ofFn fun k => if k = 15 then 1 else 0))
    (.ipv6 (Vector.replicate 16 0)) 8080 0 := by
  intro h
  have htcp := h.tcpFile
  rw [tcpFileEndpoint_procText] at htcp
  exact absurd (congrArg Endpoint.address (Option.some.inj (Except.ok.inj htcp))) (by decide)

/-! ## The tables -/

theorem fromIPv4Uint32_eq (w : UInt32) :
    ({} : IPAddress).fromIPv4Uint32 w = ({} : IPAddress).setBytes (wordBytes w) .ipv4 := by
  unfold IPAddress.fromIPv4Uint32 IPAddress.setBytes
  rw [IPAddress.mk.injEq]
  refine ⟨Vector.ext fun k hk => ?_, rfl⟩
  rcases k with _ | _ | _ | _ | k <;> simp [wordBytes]

theorem hexDigit_digitChar : ∀ d : Fin 16, SocketStateParser.hexDigit (digitChar d) = d.val := by
  decide

theorem foldl_hexDigit (k n : Nat) :
    (digits k n).foldl (fun n c => 16 * n + SocketStateParser.hexDigit c) 0 = value (digits k n) := by
  refine List.foldl_ext _ _ _ fun acc c hc => ?_
  obtain ⟨d, rfl⟩ := mem_digits hc
  rw [hexDigit_digitChar, (digitChar_spec d).1, Option.getD_some]

/-- **The local endpoint of a line** in the tables of the parser is that of its text. -/
theorem tcpFileEndpoint_eq_localEndpoint (raw : RawAddress) (line : ProcNetLine)
    (hline : line.localAddress.toList = procAddress raw) :
    tcpFileEndpoint (procText raw line.localPort) =
      .ok (some (SocketStateParser.localEndpoint line)) := by
  have haddress : (SocketStateParser.parseAddress line.localAddress).getD {} =
      if raw.isIPv4 then raw.address else {} := by
    unfold SocketStateParser.parseAddress
    simp only [hline]
    cases raw with
    | ipv4 a =>
      have hlength : (procAddress (.ipv4 a)).length = 8 := length_procAddress _
      rw [if_neg (not_not.mpr hlength), procAddress_ipv4, foldl_hexDigit,
        value_digits (UInt32.toNat_lt _), UInt32.ofNat_toNat, fromIPv4Uint32_eq, wordBytes_ipv4, IPAddress.setBytes_ipv4]
      rfl
    | ipv6 a =>
      have hlength : (procAddress (.ipv6 a)).length = 32 := length_procAddress _
      rw [if_pos (by rw [hlength]; decide)]
      rfl
  rw [tcpFileEndpoint_procText, SocketStateParser.localEndpoint, haddress]

end ProcNet

end Waechter
