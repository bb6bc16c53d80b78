import Waechter.Daemon.EffectiveRules
import Waechter.Lib.UMap

/-!
# The traffic programs in the kernel

`cgskb_ingress` and `cgskb_egress` (`EBPF/EBPFTraffic.h`): the verdict on a packet and the traffic
event submitted for it. The map `socket_rules` holds the base rules of the sockets by cookie, and
those of the system under cookie 0.

The programs look at cookie 0 first, so that all traffic can be blocked at once, and then at the
socket's own entry (`drops_iff`). A socket with an explicit allow rule is therefore still blocked
by the system rule (`system_block_wins`).
-/

namespace Waechter

open Lib

/-- The `socket_rules` map. -/
abbrev SocketRulesMap := UMap SocketCookie TrafficItemRulesBase

/-- The verdict of a `cgroup_skb` program. -/
inductive Verdict where
  | drop
  | pass
  deriving DecidableEq, Repr

def ETH_P_IP : UInt16 := 0x0800
def ETH_P_IPV6 : UInt16 := 0x86DD
def PACKET_HEADER_SIZE : Nat := 128

/-- What the programs read of an `__sk_buff`; `protocol` is in host order. -/
structure SkBuff where
  protocol : UInt16
  cookie : SocketCookie
  len : Nat
  data : List UInt8

/-- `WSocketTrafficEventData` with the cookie of its event. -/
structure SocketTrafficEvent where
  cookie : SocketCookie
  direction : PacketDirection
  bytes : WBytes
  timestamp : Nat
  rawData : List UInt8
  deriving DecidableEq

/-- The event for a packet: the first bytes of it, the rest of the header buffer zeroed. -/
def trafficEvent (d : PacketDirection) (now : Nat) (skb : SkBuff) : SocketTrafficEvent :=
  let header := skb.data.take (min skb.len PACKET_HEADER_SIZE)
  { cookie := skb.cookie
    direction := d
    bytes := skb.len
    timestamp := now
    rawData := header ++ List.replicate (PACKET_HEADER_SIZE - header.length) 0 }

/-- The rules under a cookie block the direction. -/
def blocks (m : SocketRulesMap) (cookie : SocketCookie) (d : PacketDirection) : Bool :=
  (m.lookup cookie).any fun r => r.switch d = .block

/-- The body the two programs share. `reserved` tells whether the ring buffer had room for the
event. -/
def cgskb (d : PacketDirection) (m : SocketRulesMap) (now : Nat) (reserved : Bool) (skb : SkBuff) :
    Verdict × Option SocketTrafficEvent :=
  if skb.protocol ≠ ETH_P_IP ∧ skb.protocol ≠ ETH_P_IPV6 then (.pass, none)
  else if blocks m 0 d then (.drop, none)
  else if blocks m skb.cookie d then (.drop, none)
  else (.pass, if reserved then some (trafficEvent d now skb) else none)

/-- `cgskb_ingress`. -/
def cgskb_ingress := cgskb .incoming

/-- `cgskb_egress`. -/
def cgskb_egress := cgskb .outgoing

/-- The program that sees the packets of a direction. -/
def program : PacketDirection → SocketRulesMap → Nat → Bool → SkBuff →
    Verdict × Option SocketTrafficEvent
  | .incoming => cgskb_ingress
  | .outgoing => cgskb_egress

/-- A packet the programs look at. -/
def SkBuff.isIP (skb : SkBuff) : Prop := skb.protocol = ETH_P_IP ∨ skb.protocol = ETH_P_IPV6

theorem cgskb_drop_iff (d : PacketDirection) (m : SocketRulesMap) (now : Nat) (reserved : Bool)
    (skb : SkBuff) : (cgskb d m now reserved skb).1 = .drop ↔
      skb.isIP ∧ (blocks m 0 d = true ∨ blocks m skb.cookie d = true) := by
  unfold cgskb SkBuff.isIP
  by_cases hp : skb.protocol ≠ ETH_P_IP ∧ skb.protocol ≠ ETH_P_IPV6
  · rw [if_pos hp]
    simp [hp.1, hp.2]
  · rw [if_neg hp]
    have hip : skb.protocol = ETH_P_IP ∨ skb.protocol = ETH_P_IPV6 := by
      by_cases h : skb.protocol = ETH_P_IP
      · exact Or.inl h
      · exact Or.inr (not_not.mp fun h6 => hp ⟨h, h6⟩)
    cases h0 : blocks m 0 d <;> cases hc : blocks m skb.cookie d <;> simp [hip]

/-- A packet that is dropped is not reported. -/
theorem cgskb_event_of_drop (d : PacketDirection) (m : SocketRulesMap) (now : Nat)
    (reserved : Bool) (skb : SkBuff) (h : (cgskb d m now reserved skb).1 = .drop) :
    (cgskb d m now reserved skb).2 = none := by
  unfold cgskb at h ⊢
  split
  · rfl
  · split
    · rfl
    · split
      · rfl
      · simp_all

/-- The map holds the system rules under cookie 0 and the socket's effective rules under its
cookie. -/
structure Stored (m : SocketRulesMap) (cookie : SocketCookie)
    (systemRules appRules procRules sockRules : TrafficItemRules) : Prop where
  system : m.lookup 0 = some systemRules.asBase
  socket : m.lookup cookie =
    some (effectiveSocketRules systemRules appRules procRules sockRules).asBase

/-- **A packet of the socket is dropped exactly when the system rule or the effective rule blocks
its direction.** -/
theorem drops_iff (d : PacketDirection) {m : SocketRulesMap}
    {systemRules appRules procRules sockRules : TrafficItemRules} (now : Nat) (reserved : Bool)
    {skb : SkBuff} (hip : skb.isIP)
    (hm : Stored m skb.cookie systemRules appRules procRules sockRules) :
    (program d m now reserved skb).1 = .drop ↔
      systemRules.switch d = .block ∨
        (effectiveSocketRules systemRules appRules procRules sockRules).switch d = .block := by
  have hprog : program d m now reserved skb = cgskb d m now reserved skb := by
    cases d <;> rfl
  rw [hprog, cgskb_drop_iff]
  simp only [hip, true_and, blocks, hm.system, hm.socket, Option.any_some, decide_eq_true_eq,
    TrafficItemRules.asBase]

/-- The rules of `system_block_wins`: everything is blocked, one application is allowed. -/
def blockAll : TrafficItemRules := { downloadSwitch := .block, ruleType := .explicit }

def allowApp : TrafficItemRules := { downloadSwitch := .allow, ruleType := .explicit }

/-- The map of `system_block_wins`. -/
def blockAllMap : SocketRulesMap :=
  ((∅ : SocketRulesMap).insert 7 (effectiveSocketRules blockAll allowApp {} {}).asBase).insert 0
    blockAll.asBase

theorem drops_iff_blockAll :
    (program .incoming blockAllMap 0 true ⟨ETH_P_IP, 7, 40, []⟩).1 = .drop ↔
      blockAll.switch .incoming = .block ∨
        (effectiveSocketRules blockAll allowApp {} {}).switch .incoming = .block :=
  drops_iff .incoming 0 true (Or.inl rfl) ⟨by decide, by decide⟩

/-- Everything is blocked and one application is explicitly allowed: its effective switch is
allow, and its packets are dropped. -/
theorem system_block_wins :
    Stored blockAllMap 7 blockAll allowApp {} {} ∧
      (effectiveSocketRules blockAll allowApp {} {}).switch .incoming = .allow ∧
      ¬ ((cgskb_ingress blockAllMap 0 true ⟨ETH_P_IP, 7, 40, []⟩).1 = .drop ↔
        (effectiveSocketRules blockAll allowApp {} {}).switch .incoming = .block) :=
  ⟨⟨by decide, by decide⟩, by decide, by decide⟩

end Waechter
