import Mathlib.Algebra.Group.Int.Defs
import Mathlib.Algebra.Group.Nat.Defs
import Waechter.Lib.Hex

/-!
# Decimal text

The conversions `std::stoul` and `std::stoi` with base 10: leading blanks and a sign are skipped,
and what follows the digits is left alone.

* `stoi_digits`: digits are read back, up to the range of the result.
-/

namespace Lib.Decimal

open Lib.Hex (StoulError isSpace skipSign)

/-- The number of some digits. -/
def value (cs : List Char) : Nat := cs.foldl (fun n c => 10 * n + (c.toNat - '0'.toNat)) 0

/-- The sign and the number that a text begins with. -/
def parse (text : List Char) : Except StoulError (Bool × Nat) :=
  let (negative, cs) := skipSign (text.dropWhile isSpace)
  let number := cs.takeWhile Char.isDigit
  if number.isEmpty then .error .invalidArgument else .ok (negative, value number)

/-- `std::stoul(text)`. -/
def stoul (text : List Char) : Except StoulError Nat := do
  let (negative, n) ← parse text
  if 2 ^ 64 ≤ n then throw .outOfRange
  return if negative then (2 ^ 64 - n) % 2 ^ 64 else n

/-- `std::stoi(text)`. -/
def stoi (text : List Char) : Except StoulError Int := do
  let (negative, n) ← parse text
  let i : Int := if negative then -n else n
  if i < -2 ^ 31 ∨ 2 ^ 31 ≤ i then throw .outOfRange
  return i

/-- A digit is no blank and no sign. -/
theorem isDigit_spec {c : Char} (h : c.isDigit) : isSpace c = false ∧ c ≠ '-' ∧ c ≠ '+' := by
  simp only [Char.isDigit, Bool.and_eq_true, decide_eq_true_eq] at h
  have hle : 48 ≤ c.toNat := by simpa [UInt32.le_iff_toNat_le] using h.1
  refine ⟨?_, ?_, ?_⟩
  · have hblank : c ≠ ' ' := by
      rintro rfl
      exact absurd hle (by decide)
    simp only [isSpace, hblank, decide_false, Bool.false_or, Bool.and_eq_false_iff,
      decide_eq_false_iff_not]
    omega
  · rintro rfl
    exact absurd hle (by decide)
  · rintro rfl
    exact absurd hle (by decide)

/-- Nothing is skipped in front of digits, and nothing is left behind them. -/
theorem parse_digits {cs : List Char} (hne : cs ≠ []) (hall : ∀ c ∈ cs, c.isDigit) :
    parse cs = .ok (false, value cs) := by
  obtain ⟨c, rest, rfl⟩ := List.exists_cons_of_ne_nil hne
  obtain ⟨hblank, hminus, hplus⟩ := isDigit_spec (hall c List.mem_cons_self)
  have hskip : (c :: rest).dropWhile isSpace = c :: rest :=
    List.dropWhile_cons_of_neg (by simp [hblank])
  have hsign : skipSign (c :: rest) = (false, c :: rest) := by
    unfold skipSign
    split
    · exact absurd (List.cons.inj ‹_›).1 hminus
    · exact absurd (List.cons.inj ‹_›).1 hplus
    · rfl
  have hdigits : (c :: rest).takeWhile Char.isDigit = c :: rest :=
    List.takeWhile_eq_self_iff.mpr hall
  unfold parse
  rw [hskip, hsign]
  dsimp only
  rw [hdigits]
  rfl

/-- **Digits are read back**, up to the range of the result. -/
theorem stoi_digits {cs : List Char} (hne : cs ≠ []) (hall : ∀ c ∈ cs, c.isDigit)
    (h : value cs < 2 ^ 31) : stoi cs = .ok (value cs) := by
  have hrange : ¬ ((value cs : Int) < -2 ^ 31 ∨ (2 : Int) ^ 31 ≤ value cs) := by omega
  unfold stoi
  rw [parse_digits hne hall]
  simp only [bind, Except.bind, Bool.false_eq_true, if_false, if_neg hrange]
  rfl

end Lib.Decimal
