import Mathlib.Data.Vector.Basic

/-!
# Addresses and endpoints

`WIPAddress`, `WEndpoint` and `WSocketTuple` (`Util/IPAddress.hpp`). An address is its sixteen
bytes and its family; an IPv4 address uses the first four bytes.
-/

namespace Waechter

/-- `EIPFamily::Type`. -/
inductive IPFamily where
  | unknown
  | ipv4
  | ipv6
  deriving DecidableEq, Repr, Inhabited

/-- `EProtocol::Type`; `other` is a raw protocol number without an enumerator. -/
inductive Protocol where
  | unknown
  | tcp
  | udp
  | icmp
  | esp
  | icmpv6
  | other (number : UInt8)
  deriving DecidableEq, Repr, Inhabited

/-- `static_cast<EProtocol::Type>` of a protocol number. -/
def Protocol.ofNumber (n : UInt32) : Protocol :=
  match n.toUInt8.toNat with
  | 0 => .unknown
  | 1 => .icmp
  | 6 => .tcp
  | 17 => .udp
  | 50 => .esp
  | 58 => .icmpv6
  | _ => .other n.toUInt8

namespace Protocol

theorem ofNumber_eq_tcp {n : UInt8} : ofNumber n.toUInt32 = .tcp ↔ n = 6 := by
  unfold ofNumber
  rw [UInt8.toUInt8_toUInt32, ← UInt8.toNat_inj]
  split <;> simp_all

theorem ofNumber_eq_udp {n : UInt8} : ofNumber n.toUInt32 = .udp ↔ n = 17 := by
  unfold ofNumber
  rw [UInt8.toUInt8_toUInt32, ← UInt8.toNat_inj]
  split <;> simp_all

theorem ofNumber_eq_unknown {n : UInt8} : ofNumber n.toUInt32 = .unknown ↔ n = 0 := by
  unfold ofNumber
  rw [UInt8.toUInt8_toUInt32, ← UInt8.toNat_inj]
  split <;> simp_all

end Protocol

/-- `WIPAddress`. -/
structure IPAddress where
  bytes : Vector UInt8 16 := Vector.replicate 16 0
  family : IPFamily := .unknown
  deriving DecidableEq

instance : Inhabited IPAddress := ⟨{}⟩

/-- The bytes of `a.b.c.d`. -/
def quad (a b c d : UInt8) : Vector UInt8 4 := #v[a, b, c, d]

namespace IPAddress

/-- `WIPAddress::IsZero`. -/
def isZero (a : IPAddress) : Bool :=
  match a.family with
  | .ipv4 => (a.bytes.toList.take 4).all (· == 0)
  | .ipv6 => a.bytes.toList.all (· == 0)
  | .unknown => true

/-- `WIPAddress::IsLocalhost`. -/
def isLocalhost (a : IPAddress) : Bool :=
  match a.family with
  | .ipv4 => a.bytes[0] == 127
  | .ipv6 => (a.bytes.toList.take 15).all (· == 0) && a.bytes[15] == 1
  | .unknown => false

/-- `WIPAddress::IsLANAddress`. -/
def isLANAddress (a : IPAddress) : Bool :=
  match a.family with
  | .ipv4 =>
    let b0 := a.bytes[0]
    let b1 := a.bytes[1]
    b0 == 10 || (b0 == 172 && b1 &&& 0xF0 == 16) || (b0 == 192 && b1 == 168)
  | .ipv6 => a.bytes[0] &&& 0xFE == 0xFC
  | .unknown => false

/-- `WIPAddress::IsInternetAddress`. -/
def isInternetAddress (a : IPAddress) : Bool :=
  match a.family with
  | .ipv4 =>
    let b0 := a.bytes[0]
    let b1 := a.bytes[1]
    !(b0 == 0 || b0 == 10 || (b0 == 100 && b1 &&& 0xC0 == 64) || b0 == 127 ||
      (b0 == 169 && b1 == 254) || (b0 == 172 && b1 &&& 0xF0 == 16) ||
      (b0 == 192 && b1 == 168) || b0 &&& 0xF0 == 224 || b0 &&& 0xF0 == 240)
  | .ipv6 =>
    !(a.isZero || a.isLocalhost || a.bytes[0] == 0xFF || a.bytes[0] &&& 0xFE == 0xFC ||
      (a.bytes[0] == 0xFE && a.bytes[1] &&& 0xC0 == 0x80))
  | .unknown => false

/-- `WIPAddress::ToInt`, without its assertion that the family is IPv4. -/
def toInt (a : IPAddress) : UInt32 :=
  a.bytes[0].toUInt32 <<< 24 ||| a.bytes[1].toUInt32 <<< 16 ||| a.bytes[2].toUInt32 <<< 8 |||
    a.bytes[3].toUInt32

theorem take_four (a : IPAddress) :
    a.bytes.toList.take 4 = [a.bytes[0], a.bytes[1], a.bytes[2], a.bytes[3]] := by
  refine List.ext_getElem (by simp) fun i hi _ => ?_
  have : i < 4 := Nat.lt_of_lt_of_le hi (List.length_take_le _ _)
  rcases i with _ | _ | _ | _ | i
  all_goals simp
  omega

/-- `WIPAddress::FromIPv4Uint32`: the word is in network byte order, so on a little-endian host
its lowest byte is the first one of the address. The other twelve bytes stay as they are. -/
def fromIPv4Uint32 (a : IPAddress) (addr : UInt32) : IPAddress :=
  { bytes := (((a.bytes.set 0 addr.toUInt8).set 1 (addr >>> 8).toUInt8).set 2
      (addr >>> 16).toUInt8).set 3 (addr >>> 24).toUInt8
    family := .ipv4 }

/-- `WIPAddress::FromIPv6Array`: byte `4 * i + j` is byte `3 - j` of word `i`. -/
def fromIPv6Array (addr : Vector UInt32 4) : IPAddress :=
  { bytes := Vector.ofFn fun k : Fin 16 =>
      (addr[k.val / 4] >>> (UInt32.ofNat (24 - 8 * (k.val % 4)))).toUInt8
    family := .ipv6 }

/-- The assignments `Bytes[i] = …` to the first bytes, and the family. -/
def setBytes (a : IPAddress) (bytes : List UInt8) (family : IPFamily) : IPAddress :=
  { bytes := Vector.ofFn fun k : Fin 16 => bytes[k.val]?.getD a.bytes[k], family := family }

/-- The IPv4 address with these bytes. -/
def ipv4 (bytes : Vector UInt8 4) : IPAddress :=
  { bytes := Vector.ofFn fun k : Fin 16 => bytes[k.val]?.getD 0, family := .ipv4 }

/-- The IPv6 address with these bytes. -/
def ipv6 (bytes : Vector UInt8 16) : IPAddress := { bytes := bytes, family := .ipv6 }

theorem setBytes_ipv4 (bytes : Vector UInt8 4) :
    setBytes {} bytes.toList .ipv4 = .ipv4 bytes := by
  unfold setBytes ipv4
  rw [mk.injEq]
  refine ⟨Vector.ext fun k hk => ?_, rfl⟩
  simp

theorem setBytes_ipv6 (bytes : Vector UInt8 16) :
    setBytes {} bytes.toList .ipv6 = .ipv6 bytes := by
  unfold setBytes ipv6
  rw [mk.injEq]
  refine ⟨Vector.ext fun k hk => ?_, rfl⟩
  simp

end IPAddress

/-- An address as the kernel keeps it: its bytes in network byte order. -/
inductive RawAddress where
  | ipv4 (bytes : Vector UInt8 4)
  | ipv6 (bytes : Vector UInt8 16)

namespace RawAddress

/-- The `WIPAddress` with these bytes. -/
def address : RawAddress → IPAddress
  | .ipv4 bytes => .ipv4 bytes
  | .ipv6 bytes => .ipv6 bytes

def isIPv4 : RawAddress → Bool
  | .ipv4 _ => true
  | .ipv6 _ => false

end RawAddress

/-- Four bytes as a word, on a little-endian host. -/
def hostWord (b0 b1 b2 b3 : UInt8) : UInt32 :=
  .ofNat (b0.toNat + 2 ^ 8 * b1.toNat + 2 ^ 16 * b2.toNat + 2 ^ 24 * b3.toNat)

/-- The bytes of a word, the lowest one first. -/
def wordBytes (w : UInt32) : List UInt8 :=
  [w.toUInt8, (w >>> 8).toUInt8, (w >>> 16).toUInt8, (w >>> 24).toUInt8]

theorem toNat_hostWord (b0 b1 b2 b3 : UInt8) : (hostWord b0 b1 b2 b3).toNat =
    b0.toNat + 2 ^ 8 * b1.toNat + 2 ^ 16 * b2.toNat + 2 ^ 24 * b3.toNat := by
  have h0 := b0.toNat_lt
  have h1 := b1.toNat_lt
  have h2 := b2.toNat_lt
  have h3 := b3.toNat_lt
  exact Nat.mod_eq_of_lt (by omega)

theorem wordBytes_hostWord (b0 b1 b2 b3 : UInt8) :
    wordBytes (hostWord b0 b1 b2 b3) = [b0, b1, b2, b3] := by
  have h0 := b0.toNat_lt
  have h1 := b1.toNat_lt
  have h2 := b2.toNat_lt
  have h3 := b3.toNat_lt
  simp only [wordBytes, List.cons.injEq, and_true, ← UInt8.toNat_inj, UInt32.toNat_toUInt8,
    UInt32.toNat_shiftRight, toNat_hostWord, UInt32.reduceToNat, Nat.reduceMod,
    Nat.shiftRight_eq_div_pow]
  omega

/-- `WEndpoint`. -/
structure Endpoint where
  address : IPAddress := {}
  port : UInt16 := 0
  deriving DecidableEq

instance : Inhabited Endpoint := ⟨{}⟩

/-- `WSocketTuple`. -/
structure SocketTuple where
  localEndpoint : Endpoint := {}
  remoteEndpoint : Endpoint := {}
  protocol : Protocol := .tcp
  deriving DecidableEq

instance : Inhabited SocketTuple := ⟨{}⟩

end Waechter
