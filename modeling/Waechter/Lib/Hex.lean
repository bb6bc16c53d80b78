import Mathlib.Algebra.Group.Nat.Defs
import Mathlib.Data.List.TakeWhile

/-!
# Hexadecimal text

Numbers with a fixed count of upper-case hexadecimal digits, as `printf` writes them with `%08X`,
and the conversion `std::stoul` with base 16: leading blanks, a sign and the prefix `0x` are
skipped, and what follows the digits is left alone.

* `stoul_digits`: the digits of a number are read back.
-/

namespace Lib.Hex

/-- The value of a digit. -/
def digitValue (c : Char) : Option Nat :=
  if '0' ≤ c ∧ c ≤ '9' then some (c.toNat - '0'.toNat)
  else if 'A' ≤ c ∧ c ≤ 'F' then some (c.toNat - 'A'.toNat + 10)
  else if 'a' ≤ c ∧ c ≤ 'f' then some (c.toNat - 'a'.toNat + 10)
  else none

def digitChar (d : Nat) : Char :=
  if d < 10 then .ofNat ('0'.toNat + d) else .ofNat ('A'.toNat + (d - 10))

/-- The last `k` digits of a number, the highest one first. -/
def digits : Nat → Nat → List Char
  | 0, _ => []
  | k + 1, n => digits k (n / 16) ++ [digitChar (n % 16)]

/-- The number of some digits. -/
def value (cs : List Char) : Nat := cs.foldl (fun n c => 16 * n + (digitValue c).getD 0) 0

/-- What `std::stoul` throws. -/
inductive StoulError where
  | invalidArgument
  | outOfRange
  deriving DecidableEq

/-- `isspace`. -/
def isSpace (c : Char) : Bool := c = ' ' || (9 ≤ c.toNat && c.toNat ≤ 13)

/-- The prefix `0x`, when a digit follows it. -/
def skipPrefix : List Char → List Char
  | '0' :: x :: c :: rest =>
    if (x = 'x' ∨ x = 'X') ∧ (digitValue c).isSome then c :: rest else '0' :: x :: c :: rest
  | cs => cs

/-- The sign. -/
def skipSign : List Char → Bool × List Char
  | '-' :: rest => (true, rest)
  | '+' :: rest => (false, rest)
  | cs => (false, cs)

/-- `std::stoul(text, nullptr, 16)`. -/
def stoul (text : List Char) : Except StoulError Nat :=
  let (negative, cs) := skipSign (text.dropWhile isSpace)
  let number := (skipPrefix cs).takeWhile fun c => (digitValue c).isSome
  if number.isEmpty then .error .invalidArgument
  else if 2 ^ 64 ≤ value number then .error .outOfRange
  else .ok (if negative then (2 ^ 64 - value number) % 2 ^ 64 else value number)

/-! ## Digits -/

theorem digitChar_spec : ∀ d : Fin 16, digitValue (digitChar d) = some d.val ∧
    isSpace (digitChar d) = false ∧ digitChar d ≠ '-' ∧ digitChar d ≠ '+' ∧
    digitChar d ≠ 'x' ∧ digitChar d ≠ 'X' ∧ digitChar d ≠ ':' := by
  decide

@[simp] theorem length_digits : ∀ k n : Nat, (digits k n).length = k
  | 0, _ => rfl
  | k + 1, n => by
    rw [digits, List.length_append, length_digits k, List.length_singleton]

/-- Every digit is one of the sixteen. -/
theorem mem_digits {c : Char} : ∀ {k n : Nat}, c ∈ digits k n → ∃ d : Fin 16, c = digitChar d
  | 0, _, h => nomatch h
  | k + 1, n, h => by
    rw [digits, List.mem_append, List.mem_singleton] at h
    rcases h with h | h
    · exact mem_digits h
    · exact ⟨⟨n % 16, Nat.mod_lt _ (by decide)⟩, h⟩

theorem value_append_singleton (cs : List Char) (c : Char) :
    value (cs ++ [c]) = 16 * value cs + (digitValue c).getD 0 := by
  unfold value
  rw [List.foldl_append]
  rfl

theorem value_digits : ∀ {k n : Nat}, n < 16 ^ k → value (digits k n) = n
  | 0, n, h => by
    rw [Nat.pow_zero, Nat.lt_one_iff] at h
    rw [h]
    rfl
  | k + 1, n, h => by
    have hdigit := (digitChar_spec ⟨n % 16, Nat.mod_lt _ (by decide)⟩).1
    have hrest : n / 16 < 16 ^ k := by
      rw [Nat.pow_succ] at h
      exact Nat.div_lt_of_lt_mul (by omega)
    rw [digits, value_append_singleton, value_digits hrest, hdigit, Option.getD_some]
    exact Nat.div_add_mod n 16

/-- Nothing is skipped in front of digits, and nothing is left behind them. -/
theorem skip_digits {cs : List Char} (hall : ∀ c ∈ cs, ∃ d : Fin 16, c = digitChar d) :
    cs.dropWhile isSpace = cs ∧ skipSign cs = (false, cs) ∧ skipPrefix cs = cs ∧
      (cs.takeWhile fun c => (digitValue c).isSome) = cs := by
  have hspec : ∀ c ∈ cs, (digitValue c).isSome ∧ isSpace c = false ∧ c ≠ '-' ∧ c ≠ '+' ∧
      c ≠ 'x' ∧ c ≠ 'X' := by
    intro c hc
    obtain ⟨d, rfl⟩ := hall c hc
    obtain ⟨hvalue, hblank, hminus, hplus, hx, hX, -⟩ := digitChar_spec d
    exact ⟨by rw [hvalue]; rfl, hblank, hminus, hplus, hx, hX⟩
  refine ⟨?_, ?_, ?_, List.takeWhile_eq_self_iff.mpr fun c hc => (hspec c hc).1⟩
  · cases cs with
    | nil => rfl
    | cons c rest => exact List.dropWhile_cons_of_neg (by simp [(hspec c List.mem_cons_self).2.1])
  · unfold skipSign
    split
    · exact absurd rfl (hspec '-' List.mem_cons_self).2.2.1
    · exact absurd rfl (hspec '+' List.mem_cons_self).2.2.2.1
    · rfl
  · unfold skipPrefix
    split
    · rename_i x c rest
      have hx := (hspec x (by simp)).2.2.2.2
      exact if_neg fun h => h.1.elim hx.1 hx.2
    · rfl

/-- **Digits are read back**, up to the range of the result. -/
theorem stoul_digits {k n : Nat} (hk : 0 < k) (hk' : k ≤ 16) (hn : n < 16 ^ k) :
    stoul (digits k n) = .ok n := by
  have hne : digits k n ≠ [] := List.ne_nil_of_length_pos (by rwa [length_digits])
  have hrange : n < 2 ^ 64 := by
    calc n < 16 ^ k := hn
      _ ≤ 16 ^ 16 := Nat.pow_le_pow_right (by decide) hk'
      _ = 2 ^ 64 := by decide
  obtain ⟨hblank, hsign, hskip, hnumber⟩ := skip_digits fun c (hc : c ∈ digits k n) => mem_digits hc
  unfold stoul
  rw [hblank, hsign]
  simp only [hskip, hnumber, value_digits hn]
  rw [if_neg (by simpa using hne), if_neg (Nat.not_le.mpr hrange), if_neg Bool.false_ne_true]

end Lib.Hex
