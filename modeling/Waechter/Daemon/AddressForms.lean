import Waechter.Daemon.PacketFormat

/-!
# The forms of an address

An address reaches the daemon as the words of a socket event (`WIPAddress::FromIPv4Uint32` and
`FromIPv6Array`), in the bytes of a packet (`ParseIPv4`, `ParseIPv6`) and as text
(`WIPAddress::FromString`). The eBPF programs copy the words from the kernel's address, in network
byte order, to a little-endian host.

* `fromIPv6Array_words`: the bytes of each word of an IPv6 address are turned around.
* `formsAgree_iff`: the three forms of an address agree exactly when it is an IPv4 address, or an
  IPv6 address whose words read the same in both directions.
-/

namespace Waechter

open Lib.Buffer PacketHeader

/-- `inet_pton`: a dotted quad for `AF_INET`, groups with colons for `AF_INET6`. -/
structure InetPton where
  inet : String → Option (Vector UInt8 4)
  inet6 : String → Option (Vector UInt8 16)
  dotted : ∀ {text : String} {a}, inet text = some a → '.' ∈ text.toList ∧ ':' ∉ text.toList
  colons : ∀ {text : String} {a}, inet6 text = some a → ':' ∈ text.toList

namespace InetPton

variable (pton : InetPton)

/-- `FromStringV4`. -/
def fromStringV4 (text : String) : Option IPAddress :=
  (pton.inet text).map fun bytes => ({} : IPAddress).setBytes bytes.toList .ipv4

/-- `FromStringV6`. -/
def fromStringV6 (text : String) : Option IPAddress :=
  (pton.inet6 text).map fun bytes => ({} : IPAddress).setBytes bytes.toList .ipv6

/-- `WIPAddress::FromString`. -/
def fromString (text : String) : Option IPAddress :=
  if '.' ∈ text.toList ∧ ':' ∉ text.toList then pton.fromStringV4 text
  else pton.fromStringV6 text

/-- The text is a form of the address. -/
def Denotes (text : String) : RawAddress → Prop
  | .ipv4 bytes => pton.inet text = some bytes
  | .ipv6 bytes => pton.inet6 text = some bytes

theorem fromString_eq {text : String} {raw : RawAddress} (h : pton.Denotes text raw) :
    pton.fromString text = some raw.address := by
  unfold fromString
  cases raw with
  | ipv4 bytes =>
    rw [if_pos (pton.dotted h), fromStringV4, show pton.inet text = some bytes from h,
      Option.map_some, IPAddress.setBytes_ipv4]
    rfl
  | ipv6 bytes =>
    rw [if_neg fun hdotted => hdotted.2 (pton.colons h), fromStringV6,
      show pton.inet6 text = some bytes from h, Option.map_some, IPAddress.setBytes_ipv6]
    rfl

end InetPton

/-! ## Words -/

/-- The word of an IPv4 address. -/
def ipv4Word (a : Vector UInt8 4) : UInt32 := hostWord a[0] a[1] a[2] a[3]

/-- The words of an IPv6 address. -/
def ipv6Words (a : Vector UInt8 16) : Vector UInt32 4 :=
  Vector.ofFn fun i : Fin 4 =>
    hostWord a[4 * i.val] a[4 * i.val + 1] a[4 * i.val + 2] a[4 * i.val + 3]

/-- The words of an address. -/
def RawAddress.words : RawAddress → List UInt32
  | .ipv4 a => [ipv4Word a]
  | .ipv6 a => (ipv6Words a).toList

/-- The address of a socket event. -/
def RawAddress.fromEvent : RawAddress → IPAddress
  | .ipv4 a => ({} : IPAddress).fromIPv4Uint32 (hostWord a[0] a[1] a[2] a[3])
  | .ipv6 a => .fromIPv6Array (ipv6Words a)

/-- The words read the same in both directions. -/
def RawAddress.SymmetricWords : RawAddress → Prop
  | .ipv4 _ => True
  | .ipv6 a => ∀ i : Fin 4, a[4 * i.val] = a[4 * i.val + 3] ∧ a[4 * i.val + 1] = a[4 * i.val + 2]

theorem wordBytes_ipv4 (a : Vector UInt8 4) : wordBytes (ipv4Word a) = a.toList := by
  rw [ipv4Word, wordBytes_hostWord]
  refine List.ext_getElem (by simp) fun k hk _ => ?_
  rw [List.length_cons] at hk
  rw [Vector.getElem_toList]
  rcases k with _ | _ | _ | _ | k
  · rfl
  · rfl
  · rfl
  · rfl
  · exact absurd hk (by simp)

theorem fromIPv4Uint32_word (a : Vector UInt8 4) :
    ({} : IPAddress).fromIPv4Uint32 (hostWord a[0] a[1] a[2] a[3]) = .ipv4 a := by
  have hbytes := wordBytes_hostWord a[0] a[1] a[2] a[3]
  simp only [wordBytes, List.cons.injEq, and_true] at hbytes
  obtain ⟨h0, h1, h2, h3⟩ := hbytes
  unfold IPAddress.fromIPv4Uint32 IPAddress.ipv4
  rw [h0, h1, h2, h3, IPAddress.mk.injEq]
  refine ⟨Vector.ext fun k hk => ?_, rfl⟩
  rcases k with _ | _ | _ | _ | k <;> simp

/-- **The bytes of each word are turned around.** -/
theorem fromIPv6Array_words (a : Vector UInt8 16) :
    IPAddress.fromIPv6Array (ipv6Words a) =
      .ipv6 (Vector.ofFn fun k : Fin 16 => a[4 * (k.val / 4) + (3 - k.val % 4)]) := by
  have hbyte : ∀ i j : Fin 4, (((ipv6Words a)[i]) >>> UInt32.ofNat (24 - 8 * j.val)).toUInt8 =
      a[4 * i.val + (3 - j.val)] := by
    intro i j
    have hbytes := wordBytes_hostWord a[4 * i.val] a[4 * i.val + 1] a[4 * i.val + 2] a[4 * i.val + 3]
    simp only [wordBytes, List.cons.injEq, and_true] at hbytes
    obtain ⟨h0, h1, h2, h3⟩ := hbytes
    simp only [ipv6Words, Fin.getElem_fin, Vector.getElem_ofFn]
    obtain ⟨j, hj⟩ := j
    rcases j with _ | _ | _ | _ | j
    · exact h3
    · exact h2
    · exact h1
    · simpa using h0
    · exact absurd hj (by omega)
  unfold IPAddress.fromIPv6Array IPAddress.ipv6
  rw [IPAddress.mk.injEq]
  refine ⟨Vector.ext fun k hk => ?_, rfl⟩
  simp only [Vector.getElem_ofFn]
  exact hbyte ⟨k / 4, by omega⟩ ⟨k % 4, by omega⟩

theorem fromEvent_eq_iff (raw : RawAddress) : raw.fromEvent = raw.address ↔ raw.SymmetricWords := by
  cases raw with
  | ipv4 a => exact iff_of_true (fromIPv4Uint32_word a) trivial
  | ipv6 a =>
    change IPAddress.fromIPv6Array (ipv6Words a) = .ipv6 a ↔ _
    rw [fromIPv6Array_words, IPAddress.ipv6, IPAddress.ipv6, IPAddress.mk.injEq, and_iff_left rfl]
    constructor
    · intro h i
      have hbyte : ∀ k (hk : k < 16), a[4 * (k / 4) + (3 - k % 4)] = a[k] := fun k hk => by
        simpa using congrArg (·[k]) h
      have h0 := hbyte (4 * i.val) (by omega)
      have h1 := hbyte (4 * i.val + 1) (by omega)
      have e0 : 4 * (4 * i.val / 4) + (3 - 4 * i.val % 4) = 4 * i.val + 3 := by omega
      have e1 : 4 * ((4 * i.val + 1) / 4) + (3 - (4 * i.val + 1) % 4) = 4 * i.val + 2 := by omega
      simp only [e0, e1] at h0 h1
      exact ⟨h0.symm, h1.symm⟩
    · intro h
      refine Vector.ext fun k hk => ?_
      rw [Vector.getElem_ofFn]
      obtain ⟨h0, h1⟩ := h ⟨k / 4, by omega⟩
      have hk4 : k = 4 * (k / 4) + k % 4 := by omega
      have hj : k % 4 < 4 := Nat.mod_lt _ (by decide)
      have hword : ∀ j, j < 4 → ∀ (hj : 4 * (k / 4) + j < 16),
          a[4 * (k / 4) + (3 - j)] = a[4 * (k / 4) + j] := by
        rintro j hj4 -
        match j with
        | 0 => exact h0.symm
        | 1 => exact h1.symm
        | 2 => exact h1
        | 3 => exact h0
      have hgoal := hword (k % 4) hj (by omega)
      simp only [← hk4] at hgoal
      exact hgoal

/-! ## Agreement -/

/-- What the socket events, the packets and the texts with the address make of it is the same. -/
structure FormsAgree (pton : InetPton) (raw : RawAddress) : Prop where
  packetSrc : ∀ (p : Packet) (rest : List UInt8) (turns : Nat) (out : PacketHeader), p.src = raw →
    (p.bytes ++ rest).length < turns →
    (parsePacketL3 turns (p.bytes ++ rest).length).run (p.bytes ++ rest) = some (some (true, out)) →
    out.src.address = raw.fromEvent
  packetDst : ∀ (p : Packet) (rest : List UInt8) (turns : Nat) (out : PacketHeader), p.dst = raw →
    (p.bytes ++ rest).length < turns →
    (parsePacketL3 turns (p.bytes ++ rest).length).run (p.bytes ++ rest) = some (some (true, out)) →
    out.dst.address = raw.fromEvent
  text : ∀ text, pton.Denotes text raw → pton.fromString text = some raw.fromEvent

/-- **The forms of an address agree** exactly for an IPv4 address, and for an IPv6 address whose
words read the same in both directions. -/
theorem formsAgree_iff (pton : InetPton) (raw : RawAddress) :
    FormsAgree pton raw ↔ raw.SymmetricWords := by
  rw [← fromEvent_eq_iff]
  constructor
  · intro h
    cases raw with
    | ipv4 a => exact fromIPv4Uint32_word a
    | ipv6 a =>
      have hparsed := parsePacketL3_ipv6 { PacketHeader.segment with src := a } []
        (Nat.lt_succ_self _)
      exact (h.packetSrc (.ipv6 { PacketHeader.segment with src := a }) [] _ _ rfl
        (Nat.lt_succ_self _) hparsed).symm
  · intro h
    refine ⟨?_, ?_, fun text htext => by rw [pton.fromString_eq htext, h]⟩
    · rintro p rest turns out rfl hturns hrun
      rw [h, (addresses_parsed hturns hrun).1]
    · rintro p rest turns out rfl hturns hrun
      rw [h, (addresses_parsed hturns hrun).2]

/-- A name lookup that knows 127.0.0.1 and ::1. -/
def loopbackPton : InetPton where
  inet text := if text = "127.0.0.1" then some #v[127, 0, 0, 1] else none
  inet6 text :=
    if text = "::1" then some (Vector.ofFn fun k => if k.val = 15 then 1 else 0) else none
  dotted := by
    intro text a h
    split at h
    · rename_i htext
      rw [htext]
      decide
    · cases h
  colons := by
    intro text a h
    split at h
    · rename_i htext
      rw [htext]
      decide
    · cases h

theorem formsAgree_loopback : FormsAgree loopbackPton (.ipv4 #v[127, 0, 0, 1]) :=
  (formsAgree_iff loopbackPton (.ipv4 #v[127, 0, 0, 1])).mpr trivial

/-- In an event the last word of ::1 comes out as 1, 0, 0, 0. -/
theorem loopback_disagrees :
    ¬FormsAgree loopbackPton (.ipv6 (Vector.ofFn fun k => if k = 15 then 1 else 0)) := by
  intro h
  have hdenotes : loopbackPton.Denotes "::1" (.ipv6 (Vector.ofFn fun k => if k = 15 then 1 else 0)) :=
    show some _ = some _ by decide
  have htext := h.text "::1" hdenotes
  rw [loopbackPton.fromString_eq hdenotes] at htext
  exact absurd (Option.some.inj htext) (by decide)

end Waechter
