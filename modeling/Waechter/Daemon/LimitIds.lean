import Waechter.Daemon.IPLink
import Waechter.Daemon.IPLinkProc
import Waechter.Lib.Hex

/-!
# The ids of bandwidth limits

A limit takes its mark and its class id from counters of 32 and 16 bits (`Daemon/Net/IPLink.hpp`).
The class id is printed in decimal (`Daemon/Net/IPLinkProc/IPLinkProc.cpp`), but `tc` reads it as a
hexadecimal number of 16 bits, and the mark is stored in `ingress_port_marks` with 16 bits.

* `tcMinor_classid`: what `tc` reads of a printed class id; there is nothing to read from 10000 on.
* `usable_iff`: the ids stay usable in a run as long as it makes no more than 9989 limits.
-/

namespace Waechter

open Lib

/-! ## Class ids as text -/

/-- What `tc` reads of the text of a class id behind the colon, when that is a hexadecimal number of
16 bits. -/
def tcMinor (classid : String) : Option Nat :=
  let minor := (classid.toList.dropWhile (· ≠ ':')).drop 1
  if minor.all (fun c => (Hex.digitValue c).isSome) ∧ Hex.value minor < 2 ^ 16 then
    some (Hex.value minor)
  else none

/-- The hexadecimal number with the decimal digits of `n`. -/
def asHex (n : Nat) : Nat := if n < 10 then n else 16 * asHex (n / 10) + n % 10

theorem asHex_of_lt {n : Nat} (h : n < 10) : asHex n = n := by rw [asHex, if_pos h]

theorem asHex_of_le {n : Nat} (h : ¬ n < 10) : asHex n = 16 * asHex (n / 10) + n % 10 := by
  rw [asHex, if_neg h]

theorem digitValue_digitChar : ∀ d : Fin 10, Hex.digitValue (Nat.digitChar d) = some d.val := by
  decide

theorem toDigits_spec (n : Nat) : (∀ c ∈ Nat.toDigits 10 n, (Hex.digitValue c).isSome) ∧
    Hex.value (Nat.toDigits 10 n) = asHex n := by
  induction n using asHex.induct with
  | case1 n hn =>
    have hdigit := digitValue_digitChar ⟨n, hn⟩
    rw [Nat.toDigits_of_lt_base hn, asHex_of_lt hn]
    simp [Hex.value, hdigit]
  | case2 n hn ih =>
    have hdigit := digitValue_digitChar ⟨n % 10, Nat.mod_lt _ (by decide)⟩
    rw [Nat.toDigits_of_base_le (by decide) (Nat.not_lt.mp hn), asHex_of_le hn]
    constructor
    · intro c hc
      rcases List.mem_append.mp hc with hc | hc
      · exact ih.1 c hc
      · rw [List.mem_singleton.mp hc, hdigit]
        rfl
    · rw [Hex.value_append_singleton, ih.2, hdigit, Option.getD_some]

/-- Reading in base 16 keeps the order. -/
theorem asHex_lt {m n : Nat} (h : m < n) : asHex m < asHex n := by
  induction n using asHex.induct generalizing m with
  | case1 n hn =>
    rw [asHex_of_lt hn, asHex_of_lt (Nat.lt_trans h hn)]
    exact h
  | case2 n hn ih =>
    rw [asHex_of_le hn]
    by_cases hm : m < 10
    · have hpos : asHex 0 < asHex (n / 10) := ih (by omega)
      rw [asHex_of_lt hm]
      omega
    · rw [asHex_of_le hm]
      rcases Nat.lt_or_ge (m / 10) (n / 10) with hlt | hge
      · have := ih hlt
        omega
      · rw [show m / 10 = n / 10 by omega]
        omega

theorem asHex_inj {m n : Nat} (h : asHex m = asHex n) : m = n := by
  rcases Nat.lt_trichotomy m n with hlt | heq | hgt
  · exact absurd h (Nat.ne_of_lt (asHex_lt hlt))
  · exact heq
  · exact absurd h (Nat.ne_of_gt (asHex_lt hgt))

/-- **What `tc` reads of a printed class id.** -/
theorem tcMinor_classid (n : Nat) :
    tcMinor (Command.classid n) = if n < 10000 then some (asHex n) else none := by
  have htext : ((Command.classid n).toList.dropWhile (· ≠ ':')).drop 1 = Nat.toDigits 10 n := by
    simp [Command.classid]
  have hsize : asHex n < 2 ^ 16 ↔ n < 10000 := by
    have hend : asHex 10000 = 2 ^ 16 := by simp [asHex]
    constructor
    · intro h
      by_contra hn
      rcases Nat.lt_or_eq_of_le (Nat.not_lt.mp hn) with hlt | rfl
      · have := asHex_lt hlt
        omega
      · omega
    · intro h
      have := asHex_lt h
      omega
  obtain ⟨hall, hvalue⟩ := toDigits_spec n
  simp only [tcMinor, htext, hvalue, List.all_eq_true.mpr hall, true_and, hsize]

/-! ## Active limits -/

namespace BandwidthLimit

/-- What `tc` reads of the class id of the limit. -/
def tcClass (limit : BandwidthLimit) : Option Nat := tcMinor (Command.classid limit.minorId.toNat)

/-- The mark as `SetupIngressPortRouting` stores it. -/
def portMark (limit : BandwidthLimit) : UInt16 := limit.mark.toUInt16

variable {limit limit' : BandwidthLimit} {j : Nat}

theorem Has.toNat_minorId (h : limit.Has j) (hj : j < 9989) : limit.minorId.toNat = 11 + j := by
  rw [h.2, UInt16.toNat_ofNat']
  exact Nat.mod_eq_of_lt (by omega)

theorem Has.tcClass_eq (h : limit.Has j) (hj : j < 9989) : limit.tcClass = some (asHex (11 + j)) := by
  rw [tcClass, h.toNat_minorId hj, tcMinor_classid, if_pos (by omega)]

theorem Has.portMark_eq (h : limit.Has j) (hj : j < 9989) :
    limit.portMark.toNat = limit.mark.toNat := by
  rw [portMark, h.1, UInt32.toNat_toUInt16]
  simp only [UInt32.toNat_ofNat']
  omega

end BandwidthLimit

namespace IPLink

/-- The active limits of an interface have marks and classes of their own, none has a reserved
class, and the mark of a port is the mark of the filter. -/
structure Usable (s : IPLink) : Prop where
  marks : ∀ d i i' limit limit', s.active (d, i) = some limit → s.active (d, i') = some limit' →
    limit.mark = limit'.mark → i = i'
  classes : ∀ d i i' limit limit', s.active (d, i) = some limit → s.active (d, i') = some limit' →
    limit.tcClass = limit'.tcClass → i = i'
  read : ∀ key limit, s.active key = some limit → limit.tcClass ≠ none ∧
    limit.tcClass ≠ tcMinor (Command.classid 1) ∧ limit.tcClass ≠ tcMinor (Command.classid 10)
  port : ∀ i limit, s.active (.download, i) = some limit →
    limit.portMark.toNat = limit.mark.toNat

variable {s : IPLink} {n : Nat}

/-- The limits that got their ids early have usable ones. -/
theorem Numbered.usable (h : Numbered n s) (hn : n ≤ 9989) : s.Usable := by
  have hhas : ∀ key limit, s.active key = some limit → ∃ j < 9989, limit.Has j := by
    intro key limit hlimit
    obtain ⟨j, hj, hhas⟩ := h.allocated key limit hlimit
    exact ⟨j, Nat.lt_of_lt_of_le hj hn, hhas⟩
  constructor
  · intro d i i' limit limit' hlimit hlimit' hmark
    exact congrArg Prod.snd (h.own _ _ limit limit' hlimit hlimit' (.inl hmark))
  · intro d i i' limit limit' hlimit hlimit' hclass
    obtain ⟨j, hj, hj'⟩ := hhas _ limit hlimit
    obtain ⟨k, hk, hk'⟩ := hhas _ limit' hlimit'
    rw [hj'.tcClass_eq hj, hk'.tcClass_eq hk, Option.some.injEq] at hclass
    have hsame : limit.minorId = limit'.minorId := by
      rw [hj'.2, hk'.2, asHex_inj hclass]
    exact congrArg Prod.snd (h.own _ _ limit limit' hlimit hlimit' (.inr hsame))
  · intro key limit hlimit
    obtain ⟨j, hj, hj'⟩ := hhas _ limit hlimit
    rw [hj'.tcClass_eq hj, tcMinor_classid, tcMinor_classid, if_pos (by decide),
      if_pos (by decide)]
    refine ⟨Option.some_ne_none _, fun hone => ?_, fun hten => ?_⟩
    · have := asHex_inj (Option.some.inj hone)
      omega
    · have := asHex_inj (Option.some.inj hten)
      omega
  · intro i limit hlimit
    obtain ⟨j, hj, hj'⟩ := hhas _ limit hlimit
    exact hj'.portMark_eq hj

/-- The limit after them has a class id that `tc` does not read. -/
theorem Numbered.not_usable (h : Numbered 9989 s) {o : Op} (hmade : s.allocates o = true) :
    ¬ (s.step o).Usable := by
  intro husable
  obtain ⟨hnone, hrate⟩ := (allocates_eq s o).mp hmade
  cases does_step s o with
  | nothing hs hold => exact hrate (by rw [← hold, hnone]; rfl)
  | update old rate hold => exact Option.noConfusion rfl (heq_of_eq (hnone.symm.trans hold))
  | make rate hold hrate hactive =>
    have hnew := (husable.read o.key _ ((hactive o.key).trans (if_pos rfl))).1
    rw [BandwidthLimit.tcClass, h.nextMinorId, tcMinor_classid] at hnew
    exact hnew (if_neg (show ¬ (UInt16.ofNat (11 + 9989)).toNat < 10000 by decide))
  | drop old hold => exact Option.noConfusion rfl (heq_of_eq (hnone.symm.trans hold))

theorem Numbered.always_usable (ops : List Op) : ∀ {n : Nat} {s : IPLink}, Numbered n s →
    n ≤ 9989 → (Always IPLink.step Usable s ops ↔ n + s.allocations ops ≤ 9989) := by
  induction ops with
  | nil =>
    intro n s h hn
    simp only [Always, allocations, Nat.add_zero, h.usable hn, hn]
  | cons o ops ih =>
    intro n s h hn
    have hstep := h.step o (by omega)
    simp only [Always, allocations, h.usable hn, true_and, ← Nat.add_assoc]
    by_cases hlast : n + (if s.allocates o then 1 else 0) ≤ 9989
    · exact ih hstep hlast
    · have hmade : s.allocates o = true := by
        by_contra hmade
        rw [if_neg hmade] at hlast
        exact hlast hn
      rw [if_pos hmade] at hlast
      have hfull : n = 9989 := by omega
      subst hfull
      rw [if_pos hmade]
      constructor
      · exact fun hrest => absurd hrest.head (h.not_usable hmade)
      · intro hle
        omega

/-- **The ids stay usable for 9989 limits.** -/
theorem usable_iff (name : String) (ops : List Op) :
    Always step Usable { networkInterfaceName := name } ops ↔
      allocations { networkInterfaceName := name } ops ≤ 9989 := by
  have h := (Numbered.init name).always_usable ops (by decide)
  rwa [Nat.zero_add] at h

/-- Limits for items that have none. -/
theorem allocations_fresh (k : Nat) : ∀ {s : IPLink} {i : TrafficItemId},
    (∀ j, i ≤ j → s.active (.upload, j) = none) →
      s.allocations ((List.range' i k).map fun j => .getUploadLimit j 1) = k := by
  induction k with
  | zero => exact fun _ => rfl
  | succ k ih =>
    intro s i hnone
    have hmade : s.allocates (.getUploadLimit i 1) = true :=
      (allocates_eq s _).mpr ⟨hnone i le_rfl, Option.some_ne_none _⟩
    rw [List.range'_succ, List.map_cons, allocations, if_pos hmade, Nat.add_comm]
    refine congrArg (· + 1) (ih fun j hj => ?_)
    have hne : (.upload, j) ≠ (Op.getUploadLimit i 1).key := by
      intro h
      have heq : j = i := congrArg Prod.snd h
      rw [heq] at hj
      exact Nat.not_succ_le_self i hj
    have hold := hnone j (Nat.le_of_succ_le hj)
    cases does_step s (.getUploadLimit i 1) with
    | nothing hs => rw [hs, hold]
    | update old rate _ hrate hactive => rw [hactive, if_neg hne, hold]
    | make rate _ hrate hactive => rw [hactive, if_neg hne, hold]
    | drop old hold hrate => exact Option.noConfusion rfl (heq_of_eq hrate)

/-- 9990 applications get an upload limit. -/
theorem usable_not_always : ¬ ∀ (name : String) (ops : List Op),
    Always step Usable { networkInterfaceName := name } ops := by
  intro h
  have hall := ((Numbered.init "eth0").always_usable _ (by decide)).mp
    (h "eth0" ((List.range' 1 9990).map fun j => .getUploadLimit j 1))
  rw [allocations_fresh 9990 fun j hj => rfl] at hall
  omega

end IPLink

end Waechter
