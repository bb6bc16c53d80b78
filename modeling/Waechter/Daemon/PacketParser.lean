import Waechter.Lib.Buffer
import Waechter.Util.IPAddress

/-!
# Packet headers

`WPacketHeaderParser` (`Daemon/Net/PacketParser.cpp`): the addresses, the protocol and the ports
of a packet, from the bytes the eBPF programs copy. The parser reads a buffer of which it knows
the length. Offsets are natural numbers: they stay at or below the length, and what is added to
them is at most 1032, so that `size_t` does not overflow.

* `parsePacketL3_safe`: every read is below the length, and the loop over the extension headers
  ends.
-/

namespace Waechter

open Lib.Buffer

/-- `WPacketHeaderParser`. -/
structure PacketHeader where
  l4Proto : Protocol := .unknown
  src : Endpoint := {}
  dst : Endpoint := {}
  deriving DecidableEq

namespace PacketHeader

/-! ## The parser -/

def HOP_BY_HOP : UInt8 := 0
def ROUTING : UInt8 := 43
def FRAGMENT : UInt8 := 44
def ESP : UInt8 := 50
def AH : UInt8 := 51
def NO_NEXT_HEADER : UInt8 := 59
def DESTINATION_OPTS : UInt8 := 60
def MOBILITY : UInt8 := 135
def HOST_IDENTITY : UInt8 := 139
def SHIM6 : UInt8 := 140

/-- `Read16`. -/
def read16 (offset : Nat) : Reader UInt16 := do
  let hi ← Reader.byte offset
  let lo ← Reader.byte (offset + 1)
  return hi.toUInt16 <<< 8 ||| lo.toUInt16

/-- The outcome of a function with the parameters `Out` and `L4Offset`. -/
structure Outcome where
  ok : Bool
  out : PacketHeader
  l4Offset : Nat := 0

/-- `ParseIPv4`. -/
def parseIPv4 (length : Nat) (out : PacketHeader) : Reader Outcome := do
  if length < 20 then return { ok := false, out := out }
  else
    let vihl ← Reader.byte 0
    if vihl >>> 4 ≠ 4 then return { ok := false, out := out }
    else
      let ihl := (vihl &&& 0x0F) * 4
      if ihl < 20 ∨ length < ihl.toNat then return { ok := false, out := out }
      else
        let proto ← Reader.byte 9
        let src ← Reader.bytes 12 4
        let dst ← Reader.bytes 16 4
        return {
          ok := true
          out := { out with
            l4Proto := .ofNumber proto.toUInt32
            src.address := out.src.address.setBytes src .ipv4
            dst.address := out.dst.address.setBytes dst .ipv4 }
          l4Offset := ihl.toNat }

/-- `IsIPv6ExtensionHeader`. -/
def isIPv6ExtensionHeader (nextHeader : UInt8) : Bool :=
  [HOP_BY_HOP, ROUTING, FRAGMENT, ESP, AH, DESTINATION_OPTS, MOBILITY, HOST_IDENTITY, SHIM6,
    NO_NEXT_HEADER].contains nextHeader

/-- How the loop of `ParseIPv6` is left. -/
inductive ChainEnd where
  /-- `break`: what follows is not an extension header. -/
  | upperLayer (offset : Nat)
  /-- `return false`, with the protocol that is stored before, if any. -/
  | failed (proto : Option Protocol)
  deriving DecidableEq

/-- A turn of the loop of `ParseIPv6`: `Next` and `Offset`. -/
def parseExtensionHeader (length : Nat) : UInt8 × Nat → Reader ((UInt8 × Nat) ⊕ ChainEnd)
  | (next, offset) => do
    if !isIPv6ExtensionHeader next then return .inr (.upperLayer offset)
    else if next = NO_NEXT_HEADER then return .inr (.failed (some .unknown))
    else if next = FRAGMENT then
      if length < offset + 8 then return .inr (.failed none)
      else
        let next ← Reader.byte offset
        return .inl (next, offset + 8)
    else if next = AH then
      if length < offset + 2 then return .inr (.failed none)
      else
        let hdrLenWords ← Reader.byte (offset + 1)
        let hdrLen := (hdrLenWords.toNat + 2) * 4
        if length < offset + hdrLen then return .inr (.failed none)
        else
          let next ← Reader.byte offset
          return .inl (next, offset + hdrLen)
    else if next = ESP then return .inr (.failed (some .esp))
    else if length < offset + 2 then return .inr (.failed none)
    else
      let hdrExtLen ← Reader.byte (offset + 1)
      let hdrLen := (hdrExtLen.toNat + 1) * 8
      if length < offset + hdrLen then return .inr (.failed none)
      else
        let next ← Reader.byte offset
        return .inl (next, offset + hdrLen)

/-- `ParseIPv6`, with at most so many turns of the loop. Whatever protocol the loop ends at, the
stored one is `EProtocol::Unknown`. -/
def parseIPv6 (turns length : Nat) (out : PacketHeader) : Reader (Option Outcome) := do
  if length < 40 then return some { ok := false, out := out }
  else
    let version ← Reader.byte 0
    if version >>> 4 ≠ 6 then return some { ok := false, out := out }
    else
      let src ← Reader.bytes 8 16
      let dst ← Reader.bytes 24 16
      let out := { out with
        src.address := out.src.address.setBytes src .ipv6
        dst.address := out.dst.address.setBytes dst .ipv6 }
      let next ← Reader.byte 6
      let chainEnd ← Reader.loop (parseExtensionHeader length) turns (next, 40)
      return chainEnd.map fun
        | .upperLayer offset =>
          { ok := true, out := { out with l4Proto := .unknown }, l4Offset := offset }
        | .failed proto => { ok := false, out := { out with l4Proto := proto.getD out.l4Proto } }

/-- `ParseL4`. -/
def parseL4 (length : Nat) (out : PacketHeader) (l4Offset : Nat) : Reader (Bool × PacketHeader) := do
  if out.l4Proto = .tcp then
    if length < l4Offset + 20 then return (false, out)
    else
      let srcPort ← read16 l4Offset
      let dstPort ← read16 (l4Offset + 2)
      let out := { out with src.port := srcPort, dst.port := dstPort }
      let x ← Reader.byte (l4Offset + 12)
      let dataOffset := (x >>> 4) * 4
      return (!(dataOffset < 20 || length < l4Offset + dataOffset.toNat), out)
  else if out.l4Proto = .udp then
    if length < l4Offset + 8 then return (false, out)
    else
      let srcPort ← read16 l4Offset
      let dstPort ← read16 (l4Offset + 2)
      return (true, { out with src.port := srcPort, dst.port := dstPort })
  else return (true, out)

/-- The version decides in `ParsePacketL3`. -/
def parseL3 (turns length : Nat) (version : UInt8) : Reader (Option Outcome) :=
  if version = 4 then some <$> parseIPv4 length {}
  else if version = 6 then parseIPv6 turns length {}
  else pure (some { ok := false, out := {} })

/-- `ParsePacketL3`. -/
def parsePacketL3 (turns length : Nat) : Reader (Option (Bool × PacketHeader)) := do
  if length = 0 then return some (false, {})
  else
    let version ← Reader.byte 0
    match ← parseL3 turns length (version >>> 4) with
    | none => return none
    | some { ok := false, out, .. } => return some (false, out)
    | some { ok := true, out, l4Offset } => some <$> parseL4 length out l4Offset

/-! ## Where it reads -/

section

variable {buffer : List UInt8} {length : Nat} (hn : length ≤ buffer.length)
include hn

theorem within_read16 {offset : Nat} (h : offset + 2 ≤ length) :
    (read16 offset).Within buffer length fun _ => True := by
  refine (Reader.Within.byte (by omega) hn).bind fun hi _ => ?_
  exact (Reader.Within.byte (by omega) hn).bind fun lo _ => .pure trivial

theorem within_parseIPv4 (out : PacketHeader) :
    (parseIPv4 length out).Within buffer length fun _ => True := by
  unfold parseIPv4
  split
  · exact .pure trivial
  · refine (Reader.Within.byte (by omega) hn).bind fun vihl _ => ?_
    split
    · exact .pure trivial
    · dsimp only
      split
      · exact .pure trivial
      · refine (Reader.Within.byte (by omega) hn).bind fun proto _ => ?_
        refine (Reader.Within.bytes hn (by omega)).bind fun src _ => ?_
        exact (Reader.Within.bytes hn (by omega)).bind fun dst _ => .pure trivial

/-- **A turn of the loop** that goes on moves the offset forward, up to the length at most. -/
theorem within_parseExtensionHeader (s : UInt8 × Nat) :
    (parseExtensionHeader length s).Within buffer length
      (Reader.Within.Turn (length - ·.2) (fun _ => True) (fun _ => True) s) := by
  obtain ⟨next, offset⟩ := s
  rw [parseExtensionHeader]
  split
  · exact .pure trivial
  split
  · exact .pure trivial
  split
  · split
    · exact .pure trivial
    · exact (Reader.Within.byte (by omega) hn).bind fun next' _ => .pure ⟨trivial, by dsimp only; omega⟩
  split
  · split
    · exact .pure trivial
    · refine (Reader.Within.byte (by omega) hn).bind fun hdrLenWords _ => ?_
      dsimp only
      split
      · exact .pure trivial
      · exact (Reader.Within.byte (by omega) hn).bind fun next' _ => .pure ⟨trivial, by dsimp only; omega⟩
  split
  · exact .pure trivial
  split
  · exact .pure trivial
  · refine (Reader.Within.byte (by omega) hn).bind fun hdrExtLen _ => ?_
    dsimp only
    split
    · exact .pure trivial
    · exact (Reader.Within.byte (by omega) hn).bind fun next' _ => .pure ⟨trivial, by dsimp only; omega⟩

theorem within_parseIPv6 {turns : Nat} (hturns : length < turns) (out : PacketHeader) :
    (parseIPv6 turns length out).Within buffer length (·.isSome) := by
  unfold parseIPv6
  split
  · exact .pure rfl
  · refine (Reader.Within.byte (by omega) hn).bind fun version _ => ?_
    split
    · exact .pure rfl
    · refine (Reader.Within.bytes hn (by omega)).bind fun src _ => ?_
      refine (Reader.Within.bytes hn (by omega)).bind fun dst _ => ?_
      refine (Reader.Within.byte (by omega) hn).bind fun next _ => ?_
      have hloop := Reader.Within.loop (fun s _ => within_parseExtensionHeader hn s) turns (next, 40)
        trivial (by omega)
      refine hloop.bind fun chainEnd hend => .pure ?_
      obtain ⟨chainEnd, rfl, -⟩ := hend
      rfl

theorem within_parseL4 (out : PacketHeader) (l4Offset : Nat) :
    (parseL4 length out l4Offset).Within buffer length fun _ => True := by
  unfold parseL4
  split
  · split
    · exact .pure trivial
    · refine (within_read16 hn (by omega)).bind fun srcPort _ => ?_
      refine (within_read16 hn (by omega)).bind fun dstPort _ => ?_
      exact (Reader.Within.byte (by omega) hn).bind fun x _ => .pure trivial
  split
  · split
    · exact .pure trivial
    · refine (within_read16 hn (by omega)).bind fun srcPort _ => ?_
      exact (within_read16 hn (by omega)).bind fun dstPort _ => .pure trivial
  · exact .pure trivial

theorem within_parseL3 {turns : Nat} (hturns : length < turns) (version : UInt8) :
    (parseL3 turns length version).Within buffer length (·.isSome) := by
  unfold parseL3
  split
  · exact (within_parseIPv4 hn {}).map fun _ _ => rfl
  split
  · exact within_parseIPv6 hn hturns {}
  · exact .pure rfl

end

/-- **Memory safety and termination.** Whatever the buffer holds, every index that is read is below
the length, and the parser returns: the loop over the extension headers ends within as many turns
as the packet has bytes. -/
theorem parsePacketL3_safe (buffer : List UInt8) (length : Nat) (hlength : length ≤ buffer.length)
    (turns : Nat) (hturns : length < turns) :
    (∀ i ∈ (parsePacketL3 turns length).reads buffer, i < length) ∧
      ∃ out, (parsePacketL3 turns length).run buffer = some (some out) := by
  have hwithin : (parsePacketL3 turns length).Within buffer length (·.isSome) := by
    unfold parsePacketL3
    split
    · exact .pure rfl
    · refine (Reader.Within.byte (by omega) hlength).bind fun version _ => ?_
      refine (within_parseL3 hlength hturns _).bind fun outcome houtcome => ?_
      split
      · exact absurd houtcome Bool.false_ne_true
      · exact .pure rfl
      · exact (within_parseL4 hlength _ _).map fun _ _ => rfl
  obtain ⟨hreads, out, hrun, hsome⟩ := hwithin
  obtain ⟨out, rfl⟩ := Option.isSome_iff_exists.mp hsome
  exact ⟨hreads, out, hrun⟩

/-- A packet whose hop-by-hop header claims more bytes than there are. -/
theorem truncated_safe :
    (∀ i ∈ (parsePacketL3 49 48).reads
      (0x60 :: List.replicate 40 0 ++ List.replicate 7 0xFF), i < 48) ∧
      ∃ out, (parsePacketL3 49 48).run (0x60 :: List.replicate 40 0 ++ List.replicate 7 0xFF) =
        some (some out) :=
  parsePacketL3_safe _ 48 (by decide) 49 (by decide)

end PacketHeader

end Waechter
