import Waechter.Daemon.PacketParser

/-!
# Well-formed packets

The bytes of IPv4 and IPv6 packets, with options and extension headers, and what `ParsePacketL3`
makes of them.

* `parseIPv4_bytes`, `parseIPv6_bytes`: the addresses, and where the upper layer starts. The
  protocol at the end of a chain of IPv6 extension headers is not stored.
* `reports_iff`: a well-formed packet is parsed right exactly when it is an IPv4 packet.
-/

namespace Waechter

open Lib.Buffer PacketHeader

/-! ## Well-formed packets -/

/-- The bytes of a number in network byte order. -/
def networkBytes (n : UInt16) : List UInt8 := [(n >>> 8).toUInt8, n.toUInt8]

/-- A TCP segment: the ports, the sequence numbers, the data offset, the flags up to the urgent
pointer, the options and the data. -/
structure TcpSegment where
  srcPort : UInt16
  dstPort : UInt16
  numbers : Vector UInt8 8
  optionWords : Fin 11
  reserved : Fin 16
  flags : Vector UInt8 7
  options : Vector UInt8 (4 * optionWords.val)
  data : List UInt8

def TcpSegment.bytes (s : TcpSegment) : List UInt8 :=
  networkBytes s.srcPort ++ networkBytes s.dstPort ++ s.numbers.toList ++
    [.ofNat (16 * (5 + s.optionWords) + s.reserved)] ++ s.flags.toList ++ s.options.toList ++ s.data

/-- A UDP datagram: the ports, the length and the checksum, and the data. -/
structure UdpDatagram where
  srcPort : UInt16
  dstPort : UInt16
  lengthAndChecksum : Vector UInt8 4
  data : List UInt8

def UdpDatagram.bytes (d : UdpDatagram) : List UInt8 :=
  networkBytes d.srcPort ++ networkBytes d.dstPort ++ d.lengthAndChecksum.toList ++ d.data

/-- What follows the IP headers. -/
inductive UpperLayer where
  | tcp (s : TcpSegment)
  | udp (d : UdpDatagram)
  | other (number : UInt8) (data : List UInt8) (h : number ≠ 6 ∧ number ≠ 17)

namespace UpperLayer

def number : UpperLayer → UInt8
  | .tcp _ => 6
  | .udp _ => 17
  | .other number .. => number

def bytes : UpperLayer → List UInt8
  | .tcp s => s.bytes
  | .udp d => d.bytes
  | .other _ data _ => data

/-- The source and the destination port. -/
def ports : UpperLayer → Option (UInt16 × UInt16)
  | .tcp s => some (s.srcPort, s.dstPort)
  | .udp d => some (d.srcPort, d.dstPort)
  | .other .. => none

end UpperLayer

/-- An IPv4 packet with its options. What the parser does not look at is arbitrary: the fields from
the type of service to the time to live, and the checksum. -/
structure IPv4Packet where
  optionWords : Fin 11
  fields : Vector UInt8 8
  checksum : Vector UInt8 2
  src : Vector UInt8 4
  dst : Vector UInt8 4
  options : Vector UInt8 (4 * optionWords.val)
  upperLayer : UpperLayer

def IPv4Packet.bytes (p : IPv4Packet) : List UInt8 :=
  .ofNat (0x45 + p.optionWords) :: p.fields.toList ++ [p.upperLayer.number] ++ p.checksum.toList ++
    p.src.toList ++ p.dst.toList ++ p.options.toList ++ p.upperLayer.bytes

/-- An extension header without its first byte, the number of the next header. -/
inductive ExtensionHeader where
  /-- The headers with a length in units of eight bytes. -/
  | options (number units : UInt8) (data : Vector UInt8 (8 * (units.toNat + 1) - 2))
    (h : number ∈ [HOP_BY_HOP, ROUTING, DESTINATION_OPTS, MOBILITY, HOST_IDENTITY, SHIM6])
  | fragment (data : Vector UInt8 7)
  | authentication (words : UInt8) (data : Vector UInt8 (4 * (words.toNat + 2) - 2))

namespace ExtensionHeader

def number : ExtensionHeader → UInt8
  | .options number .. => number
  | .fragment _ => FRAGMENT
  | .authentication .. => AH

def bytes (next : UInt8) : ExtensionHeader → List UInt8
  | .options _ units data _ => next :: units :: data.toList
  | .fragment data => next :: data.toList
  | .authentication words data => next :: words :: data.toList

/-- The number of the first header of a chain. -/
def first (upperLayer : UInt8) : List ExtensionHeader → UInt8
  | [] => upperLayer
  | h :: _ => h.number

/-- The bytes of a chain. -/
def chainBytes (upperLayer : UInt8) : List ExtensionHeader → List UInt8
  | [] => []
  | h :: hs => h.bytes (first upperLayer hs) ++ chainBytes upperLayer hs

end ExtensionHeader

/-- An IPv6 packet with its extension headers. -/
structure IPv6Packet where
  trafficClass : Fin 16
  fields : Vector UInt8 5
  hopLimit : UInt8
  src : Vector UInt8 16
  dst : Vector UInt8 16
  headers : List ExtensionHeader
  upperLayer : UpperLayer
  /-- TCP, UDP or ICMPv6. -/
  known : upperLayer.number ∈ [6, 17, 58]

def IPv6Packet.bytes (p : IPv6Packet) : List UInt8 :=
  .ofNat (0x60 + p.trafficClass) :: p.fields.toList ++
    [ExtensionHeader.first p.upperLayer.number p.headers, p.hopLimit] ++
    p.src.toList ++ p.dst.toList ++ ExtensionHeader.chainBytes p.upperLayer.number p.headers ++
    p.upperLayer.bytes

/-- A well-formed packet. -/
inductive Packet where
  | ipv4 (p : IPv4Packet)
  | ipv6 (p : IPv6Packet)

namespace Packet

def bytes : Packet → List UInt8
  | .ipv4 p => p.bytes
  | .ipv6 p => p.bytes

def src : Packet → RawAddress
  | .ipv4 p => .ipv4 p.src
  | .ipv6 p => .ipv6 p.src

def dst : Packet → RawAddress
  | .ipv4 p => .ipv4 p.dst
  | .ipv6 p => .ipv6 p.dst

def upperLayer : Packet → UpperLayer
  | .ipv4 p => p.upperLayer
  | .ipv6 p => p.upperLayer

def isIPv4 : Packet → Bool
  | .ipv4 _ => true
  | .ipv6 _ => false

end Packet

/-- The parser returned true with what the packet says. -/
structure Reports (p : Packet) (result : Bool × PacketHeader) : Prop where
  ok : result.1 = true
  src : result.2.src.address = p.src.address
  dst : result.2.dst.address = p.dst.address
  l4Proto : result.2.l4Proto = .ofNumber p.upperLayer.number.toUInt32
  ports : ∀ ports ∈ p.upperLayer.ports, (result.2.src.port, result.2.dst.port) = ports


namespace PacketHeader

variable {buffer rest : List UInt8}

/-! ## The upper layer -/

@[simp] theorem length_networkBytes (n : UInt16) : (networkBytes n).length = 2 := rfl

theorem or_networkBytes (n : UInt16) :
    (n >>> 8).toUInt8.toUInt16 <<< 8 ||| n.toUInt8.toUInt16 = n := by
  apply UInt16.toNat_inj.mp
  have hn := n.toNat_lt
  have hhigh : n.toNat >>> 8 = n.toNat / 256 := Nat.shiftRight_eq_div_pow _ _
  have hfits : n.toNat / 256 % 2 ^ 8 = n.toNat / 256 := Nat.mod_eq_of_lt (by omega)
  have hword : (n.toNat / 256) <<< 8 % 2 ^ 16 = (n.toNat / 256) <<< 8 := by
    rw [Nat.shiftLeft_eq]
    exact Nat.mod_eq_of_lt (by omega)
  have hor := Nat.shiftLeft_add_eq_or_of_lt (Nat.mod_lt n.toNat (by decide : 0 < 2 ^ 8))
    (n.toNat / 256)
  simp only [UInt16.toNat_or, UInt16.toNat_shiftLeft, UInt8.toNat_toUInt16, UInt16.toNat_toUInt8,
    UInt16.toNat_shiftRight, UInt16.reduceToNat, Nat.reduceMod, hhigh, hfits, hword]
  rw [← hor, Nat.shiftLeft_eq]
  omega

/-- A port in the bytes of the buffer. -/
theorem run_read16 {offset : Nat} {n : UInt16} (h : buffer.drop offset = networkBytes n ++ rest) :
    (read16 offset).run buffer = some n := by
  have h0 : (Reader.byte offset).run buffer = some (n >>> 8).toUInt8 :=
    Reader.run_byte_add (i := 0) h
  have h1 : (Reader.byte (offset + 1)).run buffer = some n.toUInt8 := Reader.run_byte_add h
  simp only [read16, Reader.run_bind, h0, h1, Option.bind_some, Reader.run_pure, or_networkBytes]

/-- The ports that are stored, if there are any. -/
def setPorts (out : PacketHeader) : Option (UInt16 × UInt16) → PacketHeader
  | none => out
  | some (srcPort, dstPort) => { out with src.port := srcPort, dst.port := dstPort }

theorem dataOffset_toNat : ∀ (words : Fin 11) (reserved : Fin 16),
    ((UInt8.ofNat (16 * (5 + words.val) + reserved.val) >>> 4) * 4).toNat = 20 + 4 * words.val := by
  decide

/-- The ports at the start of the upper layer. -/
theorem parseL4_bytes {out : PacketHeader} {offset : Nat} (u : UpperLayer)
    (hproto : out.l4Proto = .ofNumber u.number.toUInt32)
    (h : buffer.drop offset = u.bytes ++ rest) :
    (parseL4 buffer.length out offset).run buffer = some (true, setPorts out u.ports) := by
  have hlength := congrArg List.length h
  rw [List.length_drop, List.length_append] at hlength
  cases u with
  | tcp s =>
    have hsize : s.bytes.length = 20 + 4 * s.optionWords.val + s.data.length := by
      simp [TcpSegment.bytes]
      omega
    have hx : (Reader.byte (offset + 12)).run buffer =
        some (.ofNat (16 * (5 + s.optionWords.val) + s.reserved.val)) := by
      rw [Reader.run_byte_add h]
      simp [UpperLayer.bytes, TcpSegment.bytes, networkBytes]
    have htcp : out.l4Proto = .tcp := hproto
    change buffer.length - offset = s.bytes.length + rest.length at hlength
    simp only [UpperLayer.bytes, TcpSegment.bytes, List.append_assoc] at h
    have hsrc := run_read16 h
    have hdst := run_read16 (Reader.drop_add (n := 2) h rfl)
    have hfits : ¬buffer.length < offset + (20 + 4 * s.optionWords.val) := by omega
    have hwords : ¬UInt8.ofNat (16 * (5 + s.optionWords.val) + s.reserved.val) >>> 4 * 4 < 20 := by
      rw [UInt8.lt_iff_toNat_lt, dataOffset_toNat]
      exact Nat.not_lt.mpr (Nat.le_add_right _ _)
    unfold parseL4
    rw [if_pos htcp, if_neg (by omega)]
    simp only [Reader.run_bind, Reader.run_pure, Option.bind_some, hsrc, hdst, hx, dataOffset_toNat,
      hwords, hfits]
    rfl
  | udp d =>
    have hsize : d.bytes.length = 8 + d.data.length := by
      simp [UdpDatagram.bytes]
      omega
    have hudp : out.l4Proto = .udp := hproto
    change buffer.length - offset = d.bytes.length + rest.length at hlength
    simp only [UpperLayer.bytes, UdpDatagram.bytes, List.append_assoc] at h
    have hsrc := run_read16 h
    have hdst := run_read16 (Reader.drop_add (n := 2) h rfl)
    unfold parseL4
    rw [if_neg (by rw [hudp]; decide), if_pos hudp, if_neg (by omega)]
    simp only [Reader.run_bind, Reader.run_pure, Option.bind_some, hsrc, hdst]
    rfl
  | other number data hnumber =>
    rw [UpperLayer.number] at hproto
    unfold parseL4
    rw [if_neg fun he => hnumber.1 (Protocol.ofNumber_eq_tcp.mp (hproto ▸ he)),
      if_neg fun he => hnumber.2 (Protocol.ofNumber_eq_udp.mp (hproto ▸ he))]
    rfl

/-! ## IPv4 -/

theorem ihl_toNat : ∀ words : Fin 11, UInt8.ofNat (0x45 + words.val) >>> 4 = 4 ∧
    ((UInt8.ofNat (0x45 + words.val) &&& 0x0F) * 4).toNat = 20 + 4 * words.val := by
  decide

/-- **An IPv4 packet**: the addresses, the protocol, and where the upper layer starts. -/
theorem parseIPv4_bytes (p : IPv4Packet) :
    (parseIPv4 (p.bytes ++ rest).length {}).run (p.bytes ++ rest) = some {
      ok := true
      out := {
        l4Proto := .ofNumber p.upperLayer.number.toUInt32
        src := { address := .ipv4 p.src }
        dst := { address := .ipv4 p.dst } }
      l4Offset := 20 + 4 * p.optionWords.val } := by
  have hsize : p.bytes.length = 20 + 4 * p.optionWords.val + p.upperLayer.bytes.length := by
    simp [IPv4Packet.bytes]
    omega
  have hlength : (p.bytes ++ rest).length = p.bytes.length + rest.length := List.length_append
  have h0 : (Reader.byte 0).run (p.bytes ++ rest) = some (.ofNat (0x45 + p.optionWords.val)) := by
    simp [IPv4Packet.bytes]
  have h9 : (Reader.byte 9).run (p.bytes ++ rest) = some p.upperLayer.number := by
    simp [IPv4Packet.bytes]
  have h12 : (p.bytes ++ rest).drop 12 = p.src.toList ++
      (p.dst.toList ++ (p.options.toList ++ (p.upperLayer.bytes ++ rest))) := by
    simp [IPv4Packet.bytes, List.drop_append]
  have hsrc := Reader.run_bytes_append (n := 4) h12 (by simp)
  have hdst := Reader.run_bytes_append (n := 4) (Reader.drop_add (n := 4) h12 (by simp)) (by simp)
  obtain ⟨hversion, hihl⟩ := ihl_toNat p.optionWords
  have hihl20 : ¬(UInt8.ofNat (0x45 + p.optionWords.val) &&& 0x0F) * 4 < 20 := by
    rw [UInt8.lt_iff_toNat_lt, hihl]
    exact Nat.not_lt.mpr (Nat.le_add_right _ _)
  have hfits : ¬(p.bytes ++ rest).length < 20 + 4 * p.optionWords.val := by omega
  unfold parseIPv4
  rw [if_neg (by omega)]
  simp only [Reader.run_bind, Reader.run_pure, Option.bind_some, h0, h9, hsrc, hdst, hversion,
    hihl, hihl20, hfits, ne_eq, not_true_eq_false, if_false, or_false, IPAddress.setBytes_ipv4]

/-! ## IPv6 -/

/-- **A turn of the loop** steps over one extension header. -/
theorem parseExtensionHeader_bytes {offset : Nat} (h : ExtensionHeader) {next : UInt8}
    (hdrop : buffer.drop offset = h.bytes next ++ rest) :
    (parseExtensionHeader buffer.length (h.number, offset)).run buffer =
      some (.inl (next, offset + (h.bytes next).length)) := by
  have hlength := congrArg List.length hdrop
  rw [List.length_drop, List.length_append] at hlength
  have hnext : (Reader.byte offset).run buffer = some next := by
    cases h <;> exact Reader.run_byte_add (i := 0) hdrop
  rw [parseExtensionHeader]
  cases h with
  | options number units data hnumber =>
    have hkind : isIPv6ExtensionHeader number = true ∧ number ≠ NO_NEXT_HEADER ∧ number ≠ FRAGMENT ∧
        number ≠ AH ∧ number ≠ ESP := by
      simp only [List.mem_cons, List.not_mem_nil, or_false] at hnumber
      rcases hnumber with rfl | rfl | rfl | rfl | rfl | rfl <;> decide
    have hunits : (Reader.byte (offset + 1)).run buffer = some units := Reader.run_byte_add hdrop
    have hsize : 2 + (8 * (units.toNat + 1) - 2) = (units.toNat + 1) * 8 := by omega
    simp only [ExtensionHeader.bytes, List.length_cons, Vector.length_toList] at hlength ⊢
    rw [ExtensionHeader.number, if_neg (by simp [hkind]), if_neg hkind.2.1, if_neg hkind.2.2.1,
      if_neg hkind.2.2.2.1, if_neg hkind.2.2.2.2, if_neg (by omega), Reader.run_bind, hunits,
      Option.bind_some, if_neg (by omega), Reader.run_bind, hnext, Option.bind_some]
    rw [Reader.run_pure]
    congr 4
    omega
  | fragment data =>
    simp only [ExtensionHeader.bytes, List.length_cons, Vector.length_toList] at hlength ⊢
    rw [ExtensionHeader.number, if_neg (by decide), if_neg (by decide), if_pos rfl,
      if_neg (by omega), Reader.run_bind, hnext]
    rfl
  | authentication words data =>
    have hwords : (Reader.byte (offset + 1)).run buffer = some words := Reader.run_byte_add hdrop
    simp only [ExtensionHeader.bytes, List.length_cons, Vector.length_toList] at hlength ⊢
    rw [ExtensionHeader.number, if_neg (by decide), if_neg (by decide), if_neg (by decide),
      if_pos rfl, if_neg (by omega), Reader.run_bind, hwords,
      Option.bind_some, if_neg (by omega), Reader.run_bind, hnext, Option.bind_some]
    rw [Reader.run_pure]
    congr 4
    omega

/-- **The loop** ends behind the last extension header. -/
theorem run_loop_chain {upperLayer : UInt8} (hupper : isIPv6ExtensionHeader upperLayer = false) :
    ∀ (hs : List ExtensionHeader) {turns offset : Nat}, hs.length < turns →
      buffer.drop offset = ExtensionHeader.chainBytes upperLayer hs ++ rest →
      (Reader.loop (parseExtensionHeader buffer.length) turns
        (ExtensionHeader.first upperLayer hs, offset)).run buffer =
        some (some (.upperLayer (offset + (ExtensionHeader.chainBytes upperLayer hs).length)))
  | _, 0, _, hturns, _ => absurd hturns (Nat.not_lt_zero _)
  | [], turns + 1, offset, _, _ => by
    rw [Reader.loop, Reader.run_bind, ExtensionHeader.first, parseExtensionHeader, hupper]
    rfl
  | h :: hs, turns + 1, offset, hturns, hdrop => by
    rw [ExtensionHeader.chainBytes, List.append_assoc] at hdrop
    rw [Reader.loop, Reader.run_bind, ExtensionHeader.first, parseExtensionHeader_bytes h hdrop,
      Option.bind_some]
    have hrest := run_loop_chain hupper hs (Nat.lt_of_succ_lt_succ hturns)
      (Reader.drop_add hdrop rfl)
    rw [hrest, ExtensionHeader.chainBytes, List.length_append, Nat.add_assoc]

theorem length_le_chainBytes (upperLayer : UInt8) : ∀ hs : List ExtensionHeader,
    hs.length ≤ (ExtensionHeader.chainBytes upperLayer hs).length
  | [] => Nat.le_refl _
  | h :: hs => by
    have hpos : 0 < (h.bytes (ExtensionHeader.first upperLayer hs)).length := by
      cases h <;> exact Nat.succ_pos _
    have hrest := length_le_chainBytes upperLayer hs
    rw [ExtensionHeader.chainBytes, List.length_append, List.length_cons]
    omega

theorem version_ipv6 : ∀ trafficClass : Fin 16,
    UInt8.ofNat (0x60 + trafficClass.val) >>> 4 = 6 := by
  decide

/-- **An IPv6 packet**: the addresses, and where the upper layer starts. The protocol is lost. -/
theorem parseIPv6_bytes (p : IPv6Packet) {turns : Nat} (hturns : (p.bytes ++ rest).length < turns) :
    (parseIPv6 turns (p.bytes ++ rest).length {}).run (p.bytes ++ rest) = some (some {
      ok := true
      out := { src := { address := .ipv6 p.src }, dst := { address := .ipv6 p.dst } }
      l4Offset := 40 + (ExtensionHeader.chainBytes p.upperLayer.number p.headers).length }) := by
  have hupper : isIPv6ExtensionHeader p.upperLayer.number = false := by
    have hknown := p.known
    simp only [List.mem_cons, List.not_mem_nil, or_false] at hknown
    rcases hknown with h | h | h <;> rw [h] <;> decide
  have hsize : p.bytes.length =
      40 + (ExtensionHeader.chainBytes p.upperLayer.number p.headers).length +
        p.upperLayer.bytes.length := by
    simp [IPv6Packet.bytes]
    omega
  have hlength : (p.bytes ++ rest).length = p.bytes.length + rest.length := List.length_append
  have h0 : (Reader.byte 0).run (p.bytes ++ rest) = some (.ofNat (0x60 + p.trafficClass.val)) := by
    simp [IPv6Packet.bytes]
  have h6 : (Reader.byte 6).run (p.bytes ++ rest) =
      some (ExtensionHeader.first p.upperLayer.number p.headers) := by
    simp [IPv6Packet.bytes]
  have h8 : (p.bytes ++ rest).drop 8 = p.src.toList ++ (p.dst.toList ++
      (ExtensionHeader.chainBytes p.upperLayer.number p.headers ++ (p.upperLayer.bytes ++ rest))) := by
    simp [IPv6Packet.bytes, List.drop_append]
  have h24 := Reader.drop_add (n := 16) h8 (by simp)
  have hsrc := Reader.run_bytes_append (n := 16) h8 (by simp)
  have hdst := Reader.run_bytes_append (n := 16) h24 (by simp)
  have hheaders := length_le_chainBytes p.upperLayer.number p.headers
  have hchain := run_loop_chain hupper p.headers (show p.headers.length < turns by omega)
    (Reader.drop_add (n := 16) h24 (by simp))
  unfold parseIPv6
  rw [if_neg (by omega)]
  simp only [Reader.run_bind, Reader.run_pure, Option.bind_some, h0, h6, hsrc, hdst, hchain,
    version_ipv6, ne_eq, not_true_eq_false, if_false, IPAddress.setBytes_ipv6, Option.map_some]

/-! ## Packets -/

theorem run_version_ipv4 (p : IPv4Packet) (rest : List UInt8) : ∃ x, (Reader.byte 0).run (p.bytes ++ rest) = some x ∧
    x >>> 4 = 4 :=
  ⟨.ofNat (0x45 + p.optionWords.val), by simp [IPv4Packet.bytes], (ihl_toNat _).1⟩

theorem run_version_ipv6 (p : IPv6Packet) (rest : List UInt8) : ∃ x, (Reader.byte 0).run (p.bytes ++ rest) = some x ∧
    x >>> 4 = 6 :=
  ⟨.ofNat (0x60 + p.trafficClass.val), by simp [IPv6Packet.bytes], version_ipv6 _⟩

/-- **An IPv4 packet** with its ports. -/
theorem parsePacketL3_ipv4 (p : IPv4Packet) (rest : List UInt8) (turns : Nat) :
    (parsePacketL3 turns (p.bytes ++ rest).length).run (p.bytes ++ rest) = some (some (true,
      setPorts {
        l4Proto := .ofNumber p.upperLayer.number.toUInt32
        src := { address := .ipv4 p.src }
        dst := { address := .ipv4 p.dst } } p.upperLayer.ports)) := by
  obtain ⟨x, hx, hversion⟩ := run_version_ipv4 p rest
  have hlength : (p.bytes ++ rest).length ≠ 0 := by simp [IPv4Packet.bytes]
  have hdrop : (p.bytes ++ rest).drop (20 + 4 * p.optionWords.val) = p.upperLayer.bytes ++ rest := by
    rw [IPv4Packet.bytes, List.append_assoc]
    exact List.drop_left' (by simp; omega)
  have hports := fun (out : PacketHeader) (hproto : out.l4Proto = _) =>
    parseL4_bytes p.upperLayer hproto hdrop
  unfold parsePacketL3 parseL3
  rw [if_neg hlength]
  simp only [Reader.run_bind, Reader.run_map, Option.bind_some, Option.map_some, hx, hversion,
    if_true, parseIPv4_bytes, hports]

/-- **An IPv6 packet** without its ports. -/
theorem parsePacketL3_ipv6 (p : IPv6Packet) (rest : List UInt8) {turns : Nat}
    (hturns : (p.bytes ++ rest).length < turns) :
    (parsePacketL3 turns (p.bytes ++ rest).length).run (p.bytes ++ rest) = some (some (true,
      { src := { address := .ipv6 p.src }, dst := { address := .ipv6 p.dst } })) := by
  obtain ⟨x, hx, hversion⟩ := run_version_ipv6 p rest
  have hlength : (p.bytes ++ rest).length ≠ 0 := by simp [IPv6Packet.bytes]
  unfold parsePacketL3 parseL3
  rw [if_neg hlength]
  rw [Reader.run_bind, hx, Option.bind_some, hversion, if_neg (by decide), if_pos rfl,
    Reader.run_bind, parseIPv6_bytes p hturns]
  rfl

/-- The addresses are right for both kinds of packets. -/
theorem addresses_parsed {p : Packet} {turns : Nat} (hturns : (p.bytes ++ rest).length < turns)
    {out : PacketHeader} (hrun : (parsePacketL3 turns (p.bytes ++ rest).length).run (p.bytes ++ rest) =
      some (some (true, out))) :
    out.src.address = p.src.address ∧ out.dst.address = p.dst.address := by
  cases p with
  | ipv4 p =>
    have hresult := hrun.symm.trans (parsePacketL3_ipv4 p rest turns)
    cases hresult
    cases p.upperLayer.ports <;> exact ⟨rfl, rfl⟩
  | ipv6 p =>
    have hresult := hrun.symm.trans (parsePacketL3_ipv6 p rest hturns)
    cases hresult
    exact ⟨rfl, rfl⟩

/-- **Header parsing.** A well-formed packet at the start of a buffer is parsed right exactly when
it is an IPv4 packet. -/
theorem reports_iff (p : Packet) (rest : List UInt8) (turns : Nat)
    (hturns : (p.bytes ++ rest).length < turns) :
    (∃ result, (parsePacketL3 turns (p.bytes ++ rest).length).run (p.bytes ++ rest) =
      some (some result) ∧ Reports p result) ↔ p.isIPv4 = true := by
  cases p with
  | ipv4 p =>
    refine ⟨fun _ => rfl, fun _ => ⟨_, parsePacketL3_ipv4 p rest turns, ?_⟩⟩
    cases hports : p.upperLayer.ports with
    | none => exact ⟨rfl, rfl, rfl, rfl, fun ports h => nomatch hports.symm.trans h⟩
    | some ports =>
      refine ⟨rfl, rfl, rfl, rfl, fun ports' h => ?_⟩
      exact Option.some.inj (hports.symm.trans h)
  | ipv6 p =>
    refine ⟨fun ⟨result, hrun, hreports⟩ => ?_, fun h => nomatch h⟩
    have hresult := hrun.symm.trans (parsePacketL3_ipv6 p rest hturns)
    cases hresult
    -- the stored protocol is `Unknown`, which is none of the three
    have hzero := Protocol.ofNumber_eq_unknown.mp hreports.l4Proto.symm
    have hknown := p.known
    rw [show p.upperLayer.number = 0 from hzero] at hknown
    exact absurd hknown (by decide)

/-- A datagram from 10.0.0.1:5353 to 10.0.0.2:53. -/
def datagram : IPv4Packet where
  optionWords := 1
  fields := Vector.replicate 8 0
  checksum := Vector.replicate 2 0
  src := #v[10, 0, 0, 1]
  dst := #v[10, 0, 0, 2]
  options := Vector.replicate 4 1
  upperLayer := .udp ⟨5353, 53, #v[0, 9, 0, 0], [7]⟩

theorem reports_datagram : ∃ result,
    (parsePacketL3 64 ((Packet.ipv4 datagram).bytes ++ [1, 2]).length).run
      ((Packet.ipv4 datagram).bytes ++ [1, 2]) = some (some result) ∧
      Reports (.ipv4 datagram) result :=
  (reports_iff (.ipv4 datagram) [1, 2] 64 (by decide)).mpr rfl

/-- A segment from [::1]:8080 to [::2]:443, behind a hop-by-hop header. -/
def segment : IPv6Packet where
  trafficClass := 0
  fields := Vector.replicate 5 0
  hopLimit := 64
  src := Vector.ofFn fun k => if k = 15 then 1 else 0
  dst := Vector.ofFn fun k => if k = 15 then 2 else 0
  headers := [.options HOP_BY_HOP 0 (Vector.replicate 6 0) (by decide)]
  upperLayer := .tcp ⟨8080, 443, Vector.replicate 8 0, 0, 0, Vector.replicate 7 0,
    Vector.replicate 0 0, []⟩
  known := by decide

/-- The protocol and the ports of the segment are not reported. -/
theorem segment_not_reported : ¬∃ result,
    (parsePacketL3 80 (Packet.ipv6 segment).bytes.length).run (Packet.ipv6 segment).bytes =
      some (some result) ∧ Reports (.ipv6 segment) result := by
  rintro ⟨result, hrun, hreports⟩
  have hresult := parsePacketL3_ipv6 segment [] (show _ < 80 by decide)
  rw [List.append_nil] at hresult
  cases hrun.symm.trans hresult
  exact absurd hreports.l4Proto (by decide)

end PacketHeader

end Waechter
