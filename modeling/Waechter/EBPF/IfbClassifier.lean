import Waechter.Daemon.PacketFormat
import Waechter.Daemon.PortMarks
import Waechter.EBPF.PortToPid
import Waechter.EBPF.Traffic

/-!
# The classifier of the ingress device

`ifb_cls_egress` (`EBPF/EBPFTraffic.h`): the marks by which the traffic control classes of the
ingress device sort the downloads. The program finds the destination port in the bytes of the frame.
A frame starts with an IP header or with an Ethernet header, and which one it is the program tells
from the first four bits.

* `ifb_cls_egress_safe`: whatever the bytes, it reads below `data_end` only.
* `dstPort_frame_iff`: the port that is found is the one of the packet exactly when no IPv6
  extension headers are in front of it, and the hardware address the frame is sent to does not
  start like an IP header.
* `limited_iff`: what that means for the download limit of a socket.
-/

namespace Waechter

open Lib Lib.Buffer
open PacketHeader (read16)

/-! ## The program -/

def IPPROTO_TCP : UInt8 := 6
def IPPROTO_UDP : UInt8 := 17

namespace IfbClassifier

/-- `IPProto` and `Transportheader` of an IPv4 header that starts at an offset. -/
def iphdr (length offset : Nat) : Reader (Option (UInt8 × Nat)) := do
  if length < offset + 20 then return none
  else
    let versionAndLength ← Reader.byte offset
    if versionAndLength >>> 4 ≠ 4 then return none
    else
      let proto ← Reader.byte (offset + 9)
      let headerLen := (versionAndLength &&& 0x0F) * 4
      if headerLen < 20 ∨ 60 < headerLen then return none
      else return some (proto, offset + headerLen.toNat)

/-- `IPProto` and `Transportheader` of an IPv6 header that starts at an offset. -/
def ipv6hdr (length offset : Nat) : Reader (Option (UInt8 × Nat)) := do
  if length < offset + 40 then return none
  else
    let nexthdr ← Reader.byte (offset + 6)
    return some (nexthdr, offset + 40)

/-- The first half of `ifb_cls_egress`, which ends with `IPProto` and `Transportheader`. -/
def transportHeader (length : Nat) : Reader (Option (UInt8 × Nat)) := do
  if length < 1 then return none
  else
    let firstByte ← Reader.byte 0
    if firstByte >>> 4 = 4 then iphdr length 0
    else if firstByte >>> 4 = 6 then ipv6hdr length 0
    else if length < 14 then return none
    else
      let proto ← read16 12
      if proto = ETH_P_IP then iphdr length 14
      else if proto = ETH_P_IPV6 then ipv6hdr length 14
      else return none

/-- The ports of a TCP or UDP header: the one of the destination. -/
def portOf (length : Nat) : UInt8 × Nat → Reader (Option UInt16)
  | (proto, offset) => do
    if proto = IPPROTO_TCP then
      if length < offset + 20 then return none
      else some <$> read16 (offset + 2)
    else if proto = IPPROTO_UDP then
      if length < offset + 8 then return none
      else some <$> read16 (offset + 2)
    else return none

/-- `DstPort`, when the program gets as far as looking it up. -/
def dstPort (length : Nat) : Reader (Option UInt16) := do
  match ← transportHeader length with
  | none => return none
  | some header => portOf length header

/-- The maps the program looks a port up in. -/
structure Maps where
  ingressPortMarks : UMap UInt16 UInt16
  portToPid : PortToPid
  pidDownloadMarks : UMap UInt32 UInt32

/-- The second half of `ifb_cls_egress`: the mark of a packet to the port afterwards. -/
def lookupMark (maps : Maps) (mark : UInt32) (port : UInt16) : UInt32 :=
  let portMark := Enforcement.portMark maps.ingressPortMarks port
  if portMark ≠ 0 then portMark.toUInt32
  else
    match maps.portToPid.lookup port with
    | none => mark
    | some pid =>
      match maps.pidDownloadMarks.lookup pid with
      | some pidMark => if pidMark ≠ 0 then pidMark else mark
      | none => mark

/-- `ifb_cls_egress`: the mark of a packet afterwards. -/
def ifb_cls_egress (maps : Maps) (length : Nat) (mark : UInt32) : Reader UInt32 := do
  match ← dstPort length with
  | none => return mark
  | some port => return lookupMark maps mark port

/-! ## Where it reads -/

section

variable {buffer : List UInt8} {length : Nat} (hn : length ≤ buffer.length)
include hn

theorem within_iphdr (offset : Nat) :
    (iphdr length offset).Within buffer length fun _ => True := by
  unfold iphdr
  split
  · exact .pure trivial
  · refine (Reader.Within.byte (by omega) hn).bind fun versionAndLength _ => ?_
    split
    · exact .pure trivial
    · refine (Reader.Within.byte (by omega) hn).bind fun proto _ => ?_
      dsimp only
      split <;> exact .pure trivial

theorem within_ipv6hdr (offset : Nat) :
    (ipv6hdr length offset).Within buffer length fun _ => True := by
  unfold ipv6hdr
  split
  · exact .pure trivial
  · exact (Reader.Within.byte (by omega) hn).bind fun nexthdr _ => .pure trivial

theorem within_transportHeader :
    (transportHeader length).Within buffer length fun _ => True := by
  unfold transportHeader
  split
  · exact .pure trivial
  · refine (Reader.Within.byte (by omega) hn).bind fun firstByte _ => ?_
    split
    · exact within_iphdr hn 0
    split
    · exact within_ipv6hdr hn 0
    split
    · exact .pure trivial
    · refine (PacketHeader.within_read16 hn (by omega)).bind fun proto _ => ?_
      split
      · exact within_iphdr hn 14
      split
      · exact within_ipv6hdr hn 14
      · exact .pure trivial

theorem within_portOf (header : UInt8 × Nat) :
    (portOf length header).Within buffer length fun _ => True := by
  obtain ⟨proto, offset⟩ := header
  rw [portOf]
  split
  · split
    · exact .pure trivial
    · exact (PacketHeader.within_read16 hn (by omega)).map fun _ _ => trivial
  split
  · split
    · exact .pure trivial
    · exact (PacketHeader.within_read16 hn (by omega)).map fun _ _ => trivial
  · exact .pure trivial

theorem within_dstPort : (dstPort length).Within buffer length fun _ => True := by
  unfold dstPort
  refine (within_transportHeader hn).bind fun header _ => ?_
  cases header with
  | none => exact .pure trivial
  | some header => exact within_portOf hn header

end

/-- **Memory safety.** Whatever the bytes are, the program reads below `data_end` only and leaves
the packet with a mark. -/
theorem ifb_cls_egress_safe (maps : Maps) (data : List UInt8) (mark : UInt32) :
    (∀ i ∈ (ifb_cls_egress maps data.length mark).reads data, i < data.length) ∧
      ∃ mark', (ifb_cls_egress maps data.length mark).run data = some mark' := by
  have hwithin : (ifb_cls_egress maps data.length mark).Within data data.length fun _ => True := by
    unfold ifb_cls_egress
    refine (within_dstPort (Nat.le_refl _)).bind fun port _ => ?_
    cases port with
    | none => exact .pure trivial
    | some port => exact .pure trivial
  obtain ⟨hreads, mark', hrun, -⟩ := hwithin
  exact ⟨hreads, mark', hrun⟩

end IfbClassifier

/-! ## Frames -/

/-- The port a packet is sent to, if its protocol has ports. -/
def Packet.dstPort (p : Packet) : Option UInt16 := p.upperLayer.ports.map (·.2)

/-- There is nothing between the IP header and the transport header. -/
def Packet.NoExtensions : Packet → Prop
  | .ipv4 _ => True
  | .ipv6 p => p.headers = []

/-- The type of an Ethernet frame that carries the packet. -/
def Packet.etherType : Packet → UInt16
  | .ipv4 _ => ETH_P_IP
  | .ipv6 _ => ETH_P_IPV6

/-- What arrives at the ingress device: a packet, or an Ethernet frame with the hardware addresses
it is sent to and comes from. -/
inductive Frame where
  | raw (p : Packet)
  | ethernet (dst src : Vector UInt8 6) (p : Packet)

namespace Frame

def packet : Frame → Packet
  | .raw p => p
  | .ethernet _ _ p => p

def bytes : Frame → List UInt8
  | .raw p => p.bytes
  | .ethernet dst src p =>
    dst.toList ++ src.toList ++ networkBytes p.etherType ++ p.bytes

/-- The hardware address the frame is sent to starts like an IP header. -/
def TakenForIP : Frame → Prop
  | .raw _ => False
  | .ethernet dst _ _ => dst[0] >>> 4 = 4 ∨ dst[0] >>> 4 = 6

/-- Where the frame is taken for an IP packet, the byte of the other hardware address that is taken
for the protocol is neither TCP nor UDP. -/
def NoProtocol : Frame → Prop
  | .raw _ => True
  | .ethernet dst src _ =>
    (dst[0] >>> 4 = 4 → src[3] ≠ IPPROTO_TCP ∧ src[3] ≠ IPPROTO_UDP) ∧
      (dst[0] >>> 4 = 6 → src[0] ≠ IPPROTO_TCP ∧ src[0] ≠ IPPROTO_UDP)

end Frame

namespace IfbClassifier

variable {buffer rest : List UInt8} {offset : Nat}

/-! ### Headers that are where they are expected -/

theorem length_of_drop {block : List UInt8} (h : buffer.drop offset = block ++ rest)
    (hpos : 0 < block.length) : buffer.length = offset + (block.length + rest.length) := by
  have hlength := congrArg List.length h
  rw [List.length_drop, List.length_append] at hlength
  omega

theorem run_iphdr (p : IPv4Packet) (h : buffer.drop offset = p.bytes ++ rest) :
    (iphdr buffer.length offset).run buffer =
        some (some (p.upperLayer.number, offset + (20 + 4 * p.optionWords.val))) ∧
      buffer.drop (offset + (20 + 4 * p.optionWords.val)) = p.upperLayer.bytes ++ rest := by
  have hsize : p.bytes.length = 20 + 4 * p.optionWords.val + p.upperLayer.bytes.length := by
    simp [IPv4Packet.bytes]
    omega
  have hlength := length_of_drop h (by omega)
  have h0 : (Reader.byte offset).run buffer = some (.ofNat (0x45 + p.optionWords.val)) := by
    rw [show offset = offset + 0 from rfl, Reader.run_byte_add h]
    simp [IPv4Packet.bytes]
  have h9 : (Reader.byte (offset + 9)).run buffer = some p.upperLayer.number := by
    rw [Reader.run_byte_add h]
    simp [IPv4Packet.bytes]
  obtain ⟨hversion, hihl⟩ := PacketHeader.ihl_toNat p.optionWords
  have hfits : ¬((UInt8.ofNat (0x45 + p.optionWords.val) &&& 0x0F) * 4 < 20 ∨
      60 < (UInt8.ofNat (0x45 + p.optionWords.val) &&& 0x0F) * 4) := by
    rw [UInt8.lt_iff_toNat_lt, UInt8.lt_iff_toNat_lt, hihl]
    have hwords := p.optionWords.isLt
    simp only [UInt8.reduceToNat]
    omega
  constructor
  · unfold iphdr
    rw [if_neg (by omega), Reader.run_bind, h0, Option.bind_some,
      if_neg (not_not.mpr hversion), Reader.run_bind, h9, Option.bind_some]
    dsimp only
    rw [if_neg hfits, hihl]
    rfl
  · rw [IPv4Packet.bytes, List.append_assoc] at h
    exact Reader.drop_add h (by simp; omega)

theorem run_ipv6hdr (p : IPv6Packet) (h : buffer.drop offset = p.bytes ++ rest) :
    (ipv6hdr buffer.length offset).run buffer =
        some (some (ExtensionHeader.first p.upperLayer.number p.headers, offset + 40)) ∧
      buffer.drop (offset + 40) =
        ExtensionHeader.chainBytes p.upperLayer.number p.headers ++ (p.upperLayer.bytes ++ rest) := by
  have hsize : 40 ≤ p.bytes.length := by
    simp [IPv6Packet.bytes]
    omega
  have hlength := length_of_drop h (by omega)
  have h6 : (Reader.byte (offset + 6)).run buffer =
      some (ExtensionHeader.first p.upperLayer.number p.headers) := by
    rw [Reader.run_byte_add h]
    simp [IPv6Packet.bytes]
  constructor
  · unfold ipv6hdr
    rw [if_neg (by omega), Reader.run_bind, h6]
    rfl
  · rw [IPv6Packet.bytes, List.append_assoc, List.append_assoc] at h
    exact Reader.drop_add h (by simp)

theorem run_portOf_other {proto : UInt8} (h : proto ≠ IPPROTO_TCP ∧ proto ≠ IPPROTO_UDP) :
    (portOf buffer.length (proto, offset)).run buffer = some none := by
  rw [portOf, if_neg h.1, if_neg h.2]
  rfl

/-- The port in front of the upper layer. -/
theorem run_portOf (u : UpperLayer) (h : buffer.drop offset = u.bytes ++ rest) :
    (portOf buffer.length (u.number, offset)).run buffer = some (u.ports.map (·.2)) := by
  cases u with
  | tcp s =>
    have hsize : s.bytes.length = 20 + 4 * s.optionWords.val + s.data.length := by
      simp [TcpSegment.bytes]
      omega
    have hlength := length_of_drop h (hsize ▸ by omega)
    simp only [UpperLayer.bytes] at h hlength
    simp only [TcpSegment.bytes, List.append_assoc] at h
    have hdst := PacketHeader.run_read16 (Reader.drop_add (n := 2) h rfl)
    have hproto : (UpperLayer.tcp s).number = IPPROTO_TCP := rfl
    rw [portOf, if_pos hproto, if_neg (by omega), Reader.run_map, hdst]
    rfl
  | udp d =>
    have hsize : d.bytes.length = 8 + d.data.length := by
      simp [UdpDatagram.bytes]
      omega
    have hlength := length_of_drop h (hsize ▸ by omega)
    simp only [UpperLayer.bytes] at h hlength
    simp only [UdpDatagram.bytes, List.append_assoc] at h
    have hdst := PacketHeader.run_read16 (Reader.drop_add (n := 2) h rfl)
    have hudp : (UpperLayer.udp d).number = IPPROTO_UDP := rfl
    have htcp : (UpperLayer.udp d).number ≠ IPPROTO_TCP := (by decide : (17 : UInt8) ≠ 6)
    rw [portOf, if_neg htcp, if_pos hudp, if_neg (by omega), Reader.run_map, hdst]
    rfl
  | other number data hnumber => exact run_portOf_other hnumber

theorem number_not_protocol (h : ExtensionHeader) :
    h.number ≠ IPPROTO_TCP ∧ h.number ≠ IPPROTO_UDP := by
  have hall : ∀ number ∈ [PacketHeader.HOP_BY_HOP, PacketHeader.ROUTING,
      PacketHeader.DESTINATION_OPTS, PacketHeader.MOBILITY, PacketHeader.HOST_IDENTITY,
      PacketHeader.SHIM6, PacketHeader.FRAGMENT, PacketHeader.AH],
        number ≠ IPPROTO_TCP ∧ number ≠ IPPROTO_UDP := by
    simp only [List.forall_mem_cons, List.not_mem_nil, false_implies, implies_true, and_true]
    decide
  cases h with
  | options number units data hnumber => exact hall number (List.mem_append_left [_, _] hnumber)
  | fragment data => exact hall PacketHeader.FRAGMENT (by decide)
  | authentication words data => exact hall PacketHeader.AH (by decide)

theorem run_dstPort (length : Nat) : (dstPort length).run buffer =
    ((transportHeader length).run buffer).bind fun
      | none => some none
      | some header => (portOf length header).run buffer := by
  unfold dstPort
  rw [Reader.run_bind]
  congr 1
  funext header
  cases header <;> rfl

/-- The branch that reads the IP header of a packet. -/
def ipHeader : Packet → Nat → Nat → Reader (Option (UInt8 × Nat))
  | .ipv4 _ => iphdr
  | .ipv6 _ => ipv6hdr

/-- What is found behind the IP header of a packet. -/
def found : Packet → Option UInt16
  | .ipv4 p => (Packet.ipv4 p).dstPort
  | .ipv6 p => if p.headers = [] then (Packet.ipv6 p).dstPort else none

theorem found_ipv6 (p : IPv6Packet) :
    found (.ipv6 p) = if p.headers = [] then (Packet.ipv6 p).dstPort else none := rfl

theorem found_eq_iff (p : Packet) : found p = p.dstPort ↔ p.dstPort = none ∨ p.NoExtensions := by
  cases p with
  | ipv4 p => exact iff_of_true rfl (.inr trivial)
  | ipv6 p =>
    rw [found_ipv6]
    split
    · rename_i h
      exact iff_of_true rfl (.inr h)
    · rename_i h
      rw [eq_comm]
      exact (or_iff_left h).symm

/-- **The port of a packet** whose IP header is where the program looks for it. -/
theorem run_dstPort_of_header {length : Nat} (p : Packet) (h : buffer.drop offset = p.bytes ++ rest)
    (hlength : length = buffer.length)
    (hheader : (transportHeader length).run buffer = (ipHeader p length offset).run buffer) :
    (dstPort length).run buffer = some (found p) := by
  subst hlength
  rw [run_dstPort, hheader]
  cases p with
  | ipv4 p =>
    obtain ⟨hrun, hdrop⟩ := run_iphdr p h
    exact (congrArg (Option.bind · _) hrun).trans (run_portOf p.upperLayer hdrop)
  | ipv6 p =>
    obtain ⟨hrun, hdrop⟩ := run_ipv6hdr p h
    refine (congrArg (Option.bind · _) hrun).trans ?_
    rw [found_ipv6]
    cases hheaders : p.headers with
    | nil =>
      rw [hheaders] at hdrop
      exact (run_portOf p.upperLayer hdrop).trans (congrArg some (if_pos rfl).symm)
    | cons header headers =>
      exact (run_portOf_other (number_not_protocol header)).trans
        (congrArg some (if_neg (List.cons_ne_nil _ _)).symm)

/-! ### What the first byte makes of a frame -/

theorem run_transportHeader_raw (p : Packet) (rest : List UInt8) :
    (transportHeader (p.bytes ++ rest).length).run (p.bytes ++ rest) =
      (ipHeader p (p.bytes ++ rest).length 0).run (p.bytes ++ rest) := by
  cases p with
  | ipv4 p =>
    obtain ⟨x, hx, hversion⟩ := PacketHeader.run_version_ipv4 p rest
    have hpos : ¬(p.bytes ++ rest).length < 1 := by simp [IPv4Packet.bytes]
    unfold transportHeader
    rw [Packet.bytes, if_neg hpos, Reader.run_bind, hx, Option.bind_some, if_pos hversion]
    rfl
  | ipv6 p =>
    obtain ⟨x, hx, hversion⟩ := PacketHeader.run_version_ipv6 p rest
    have hpos : ¬(p.bytes ++ rest).length < 1 := by simp [IPv6Packet.bytes]
    unfold transportHeader
    rw [Packet.bytes, if_neg hpos, Reader.run_bind, hx, Option.bind_some,
      if_neg (by rw [hversion]; decide), if_pos hversion]
    rfl

section

variable (dst src : Vector UInt8 6) (p : Packet)

theorem run_byte_dst (rest : List UInt8) :
    (Reader.byte 0).run ((Frame.ethernet dst src p).bytes ++ rest) = some dst[0] := by
  rw [Reader.run_byte]
  simp [Frame.bytes]

theorem run_byte_src (rest : List UInt8) (k : Nat) (hk : k < 6) :
    (Reader.byte (6 + k)).run ((Frame.ethernet dst src p).bytes ++ rest) = some src[k] := by
  have hdrop : ((Frame.ethernet dst src p).bytes ++ rest).drop 6 =
      src.toList ++ (networkBytes p.etherType ++ (p.bytes ++ rest)) := by
    simp only [Frame.bytes, List.append_assoc]
    exact List.drop_left' (by simp)
  rw [Reader.run_byte_add hdrop, List.getElem?_append_left (by simpa using hk)]
  simp [hk]

theorem drop_ethernet (rest : List UInt8) :
    ((Frame.ethernet dst src p).bytes ++ rest).drop 14 = p.bytes ++ rest := by
  rw [Frame.bytes, List.append_assoc]
  exact List.drop_left' (by simp)

theorem length_ethernet (rest : List UInt8) :
    ((Frame.ethernet dst src p).bytes ++ rest).length = 14 + (p.bytes.length + rest.length) := by
  simp [Frame.bytes]
  omega

/-- An Ethernet header that is recognised. -/
theorem run_transportHeader_ethernet (rest : List UInt8)
    (h : ¬(Frame.ethernet dst src p).TakenForIP) :
    (transportHeader ((Frame.ethernet dst src p).bytes ++ rest).length).run
        ((Frame.ethernet dst src p).bytes ++ rest) =
      (ipHeader p ((Frame.ethernet dst src p).bytes ++ rest).length 14).run
        ((Frame.ethernet dst src p).bytes ++ rest) := by
  have hlength := length_ethernet dst src p rest
  have hdrop : ((Frame.ethernet dst src p).bytes ++ rest).drop 12 =
      networkBytes p.etherType ++ (p.bytes ++ rest) := by
    rw [Frame.bytes, List.append_assoc, List.append_assoc]
    exact List.drop_left' (by simp)
  have htype := PacketHeader.run_read16 hdrop
  unfold transportHeader
  rw [if_neg (by omega), Reader.run_bind, run_byte_dst, Option.bind_some,
    if_neg fun h4 => h (.inl h4), if_neg fun h6 => h (.inr h6), if_neg (by omega), Reader.run_bind,
    htype, Option.bind_some]
  cases p with
  | ipv4 p => exact congrArg _ (if_pos rfl)
  | ipv6 p =>
    have htype : (Packet.ipv6 p).etherType ≠ ETH_P_IP := (by decide : ETH_P_IPV6 ≠ ETH_P_IP)
    exact congrArg _ ((if_neg htype).trans (if_pos rfl))

/-- A frame that is taken for an IP packet: the protocol is a byte of the other hardware address,
and there is none. -/
theorem run_dstPort_taken (rest : List UInt8) (h : (Frame.ethernet dst src p).TakenForIP)
    (hnone : (Frame.ethernet dst src p).NoProtocol) :
    (dstPort ((Frame.ethernet dst src p).bytes ++ rest).length).run
      ((Frame.ethernet dst src p).bytes ++ rest) = some none := by
  have hlength := length_ethernet dst src p rest
  have hdst := run_byte_dst dst src p rest
  have hsrc := run_byte_src dst src p rest
  set buffer := (Frame.ethernet dst src p).bytes ++ rest
  rw [run_dstPort, transportHeader, if_neg (by omega), Reader.run_bind, hdst, Option.bind_some]
  rcases h with h4 | h6
  · rw [if_pos h4]
    unfold iphdr
    split
    · rfl
    · rw [Reader.run_bind, hdst, Option.bind_some, if_neg (not_not.mpr h4), Reader.run_bind,
        hsrc 3 (by decide), Option.bind_some]
      dsimp only
      split
      · rfl
      · exact run_portOf_other (hnone.1 h4)
  · rw [if_neg (by rw [h6]; decide), if_pos h6]
    unfold ipv6hdr
    split
    · rfl
    · rw [Reader.run_bind, hsrc 0 (by decide), Option.bind_some]
      exact run_portOf_other (hnone.2 h6)

end

/-- **The port of a frame.** Where it is not taken for an IP packet, what is behind its IP header
is found; elsewhere nothing is. -/
theorem run_dstPort_frame (f : Frame) (rest : List UInt8) :
    (¬f.TakenForIP →
        (dstPort (f.bytes ++ rest).length).run (f.bytes ++ rest) = some (found f.packet)) ∧
      (f.TakenForIP → f.NoProtocol →
        (dstPort (f.bytes ++ rest).length).run (f.bytes ++ rest) = some none) := by
  cases f with
  | raw p =>
    exact ⟨fun _ => run_dstPort_of_header p List.drop_zero rfl (run_transportHeader_raw p rest),
      fun h => h.elim⟩
  | ethernet dst src p =>
    exact ⟨fun h => run_dstPort_of_header p (drop_ethernet dst src p rest) rfl
      (run_transportHeader_ethernet dst src p rest h), run_dstPort_taken dst src p rest⟩

/-- **Finding the port.** The program finds the port a frame is sent to exactly when there is
nothing to find, or no extension headers are in front of it and the frame is not taken for an IP
packet. -/
theorem dstPort_frame_iff (f : Frame) (rest : List UInt8) (hnone : f.NoProtocol) :
    (dstPort (f.bytes ++ rest).length).run (f.bytes ++ rest) = some f.packet.dstPort ↔
      f.packet.dstPort = none ∨ f.packet.NoExtensions ∧ ¬f.TakenForIP := by
  obtain ⟨hread, htaken⟩ := run_dstPort_frame f rest
  by_cases h : f.TakenForIP
  · rw [htaken h hnone, Option.some_inj, eq_comm]
    exact (or_iff_left fun hnot => hnot.2 h).symm
  · rw [hread h, Option.some_inj, found_eq_iff]
    exact or_congr_right (and_iff_left h).symm

/-! ## Limits -/

theorem run_ifb_cls_egress {data : List UInt8} {port : Option UInt16}
    (h : (dstPort data.length).run data = some port) (maps : Maps) (mark : UInt32) :
    (ifb_cls_egress maps data.length mark).run data =
      some (port.elim mark (lookupMark maps mark)) := by
  unfold ifb_cls_egress
  rw [Reader.run_bind, h, Option.bind_some]
  cases port <;> rfl

/-- The mark of a port comes before those of the processes. -/
theorem lookupMark_of_portMark {maps : Maps} {port : UInt16} {mark : UInt32}
    (h : Enforcement.portMark maps.ingressPortMarks port = mark.toUInt16) (hmark : mark ≠ 0)
    (hfits : mark.toNat < 2 ^ 16) (before : UInt32) : lookupMark maps before port = mark := by
  have hsame : mark.toUInt16.toUInt32 = mark := by
    apply UInt32.toNat_inj.mp
    rw [UInt16.toNat_toUInt32, UInt32.toNat_toUInt16]
    exact Nat.mod_eq_of_lt hfits
  have hne : mark.toUInt16 ≠ 0 := by
    intro hzero
    rw [hzero] at hsame
    exact hmark hsame.symm
  unfold lookupMark
  rw [h]
  dsimp only
  rw [if_pos hne, hsame]

/-- **Download limits.** Where the kernel's entries match the sockets, a frame to the port of a
socket with a limit gets the mark of the limit exactly when no extension headers are in front of
the port and the frame is not taken for an IP packet. The packets of a network card whose hardware
address starts with a 4 or a 6 are never limited. -/
theorem limited_iff (s : SystemMap Enforcement) (hmatch : Enforcement.PortsMatch s)
    (port : UInt16) (mark : UInt32) (hport : port ≠ 0) (hmark : mark ≠ 0)
    (hfits : mark.toNat < 2 ^ 16)
    (honly : ∀ mark', Enforcement.OnPort s port mark' ↔ mark' = mark) (maps : Maps)
    (hmaps : maps.ingressPortMarks = s.listeners.ingressPortMarks) (f : Frame)
    (hnone : f.NoProtocol) (hf : f.packet.dstPort = some port) (rest : List UInt8) :
    (ifb_cls_egress maps (f.bytes ++ rest).length 0).run (f.bytes ++ rest) = some mark ↔
      f.packet.NoExtensions ∧ ¬f.TakenForIP := by
  have hentry : Enforcement.portMark maps.ingressPortMarks port = mark.toUInt16 := by
    obtain ⟨mark', hon, hshown⟩ := (hmatch port).1 ⟨hport, mark, hmark, (honly mark).mpr rfl⟩
    rw [hmaps, hshown, (honly mark').mp hon]
  obtain ⟨hread, htaken⟩ := run_dstPort_frame f rest
  by_cases h : f.TakenForIP
  · rw [run_ifb_cls_egress (htaken h hnone), Option.some_inj]
    exact iff_of_false (fun hzero => hmark hzero.symm) fun hnot => hnot.2 h
  · rw [run_ifb_cls_egress (hread h), Option.some_inj, and_iff_left h]
    have hfound := found_eq_iff f.packet
    rw [hf, or_iff_right (Option.some_ne_none port)] at hfound
    by_cases hext : f.packet.NoExtensions
    · rw [hfound.mpr hext]
      exact iff_of_true (lookupMark_of_portMark hentry hmark hfits 0) hext
    · have hmissed : found f.packet = none := by
        cases hp : f.packet with
        | ipv4 p =>
          rw [hp] at hext
          exact absurd trivial hext
        | ipv6 p =>
          rw [hp] at hext
          exact if_neg hext
      rw [hmissed]
      exact iff_of_false (fun hzero => hmark hzero.symm) hext

/-- A datagram for port 80 in a frame to the network card 44:85:00:00:00:01. -/
def datagramFrame : Frame :=
  .ethernet #v[0x44, 0x85, 0, 0, 0, 1] #v[0xB8, 0x27, 0, 0, 0, 2]
    (.ipv4 { PacketHeader.datagram with upperLayer := .udp ⟨53, 80, #v[0, 10, 0, 0], [7, 7]⟩ })

/-- The limit of the socket on port 80 does not apply to it. -/
theorem limited_iff_datagramFrame :
    (ifb_cls_egress {
        ingressPortMarks := (∅ : UMap UInt16 UInt16).insert 80 1
        portToPid := ∅
        pidDownloadMarks := ∅ } (datagramFrame.bytes ++ []).length 0).run
          (datagramFrame.bytes ++ []) = some 1 ↔
      datagramFrame.packet.NoExtensions ∧ ¬datagramFrame.TakenForIP := by
  set s := Lib.run Enforcement.step (Enforcement.started 0 "host" "eth0" {}) Enforcement.boundAndLimited
  have hsockets : s.sockets = (∅ : UMap SocketCookie Ref).insert 9 6 := by rfl
  have hlocal : Enforcement.localPort s.toCounterTree 6 = 80 := by rfl
  have heffective : (s.listeners.manager.effective s.shape 6).downloadMark = 1 := by rfl
  have hmarks : s.listeners.ingressPortMarks = (∅ : UMap UInt16 UInt16).insert 80 1 := by rfl
  have hon : ∀ port mark, Enforcement.OnPort s port mark ↔ port = 80 ∧ mark = 1 := by
    intro port mark
    rw [Enforcement.onPort_iff]
    constructor
    · rintro ⟨c, r, hr, rfl, rfl⟩
      obtain ⟨-, rfl⟩ := UMap.lookup_single (congrArg (·.entries) hsockets) hr
      exact ⟨hlocal, heffective⟩
    · rintro ⟨rfl, rfl⟩
      exact ⟨9, 6, by rw [hsockets]; rfl, hlocal, heffective⟩
  have hmatch : Enforcement.PortsMatch s := by
    intro port
    simp only [hon, hmarks]
    constructor
    · rintro ⟨-, mark, -, rfl, rfl⟩
      exact ⟨1, ⟨rfl, rfl⟩, rfl⟩
    · intro hnot
      rw [Enforcement.portMark_insert, if_neg]
      · rfl
      · rintro rfl
        exact hnot ⟨by decide, 1, by decide, rfl, rfl⟩
  exact limited_iff s hmatch 80 1 (by decide) (by decide) (by decide)
    (fun mark => (hon 80 mark).trans (and_iff_right rfl)) _ hmarks.symm datagramFrame
    ⟨fun _ => by decide, fun _ => by decide⟩ rfl []

end IfbClassifier

end Waechter
