import Mathlib.Algebra.Field.Rat
import Mathlib.Algebra.Order.Field.Basic
import Mathlib.Algebra.Order.Ring.Rat
import Mathlib.Data.Rat.Floor
import Mathlib.Tactic.Linarith

/-!
# Double precision numbers

How a finite number stands in the 64 bits of a double: one bit for the sign, eleven for the exponent
and 52 for the fraction. A finite double is a whole number of units of `2 ^ -1074`, and the 63 bits
behind the sign number the amounts of units that can be written, in order: up to `2 ^ 53` every one
of them, then every second one up to `2 ^ 54`, and so on.

* `units_code`: an amount of units that can be written is read back.
* `toRat_ofRat`: so is a rational number that is a finite double.
* `abs_rounded_sub_le`: how far the nearest double is from a number, as long as that is no infinity.
-/

namespace Lib.Binary64

/-- The amount of units with that number. -/
def units (code : Nat) : Nat :=
  let shift := code / 2 ^ 52 - 1
  (code - shift * 2 ^ 52) * 2 ^ shift

/-- How many of its last bits an amount of units has to have clear. -/
def shift (n : Nat) : Nat := n.log2 - 52

/-- The number of an amount of units. -/
def code (n : Nat) : Nat := shift n * 2 ^ 52 + n / 2 ^ shift n

/-- The first number that is no finite double. -/
def infinity : Nat := 2047 * 2 ^ 52

theorem units_of_small {n : Nat} (h : n < 2 ^ 53) : units n = n := by
  have hshift : n / 2 ^ 52 - 1 = 0 := by omega
  simp only [units]
  rw [hshift, Nat.zero_mul, Nat.sub_zero, Nat.pow_zero, Nat.mul_one]

/-- The leading bits of an amount that is shifted. -/
theorem leading_bounds {n : Nat} (h : shift n ≠ 0) :
    2 ^ 52 ≤ n / 2 ^ shift n ∧ n / 2 ^ shift n < 2 ^ 53 := by
  have hn : n ≠ 0 := by
    rintro rfl
    exact h rfl
  have hlog : n.log2 = 52 + shift n := by
    unfold shift at h ⊢
    omega
  have hle := Nat.log2_self_le hn
  have hlt : n < 2 ^ (n.log2 + 1) := Nat.lt_log2_self
  rw [hlog] at hle hlt
  constructor
  · rwa [Nat.le_div_iff_mul_le (Nat.two_pow_pos _), ← Nat.pow_add]
  · rw [Nat.div_lt_iff_lt_mul (Nat.two_pow_pos _), ← Nat.pow_add]
    exact Nat.lt_of_lt_of_eq hlt (congrArg (2 ^ ·) (by omega))

/-- **What is written is read back**, when the bits that get lost are clear. -/
theorem units_code {n : Nat} (h : 2 ^ shift n ∣ n) : units (code n) = n := by
  by_cases hshift : shift n = 0
  · have hsmall : n < 2 ^ 53 := by
      have hlt : n < 2 ^ (n.log2 + 1) := Nat.lt_log2_self
      unfold shift at hshift
      exact Nat.lt_of_lt_of_le hlt (Nat.pow_le_pow_right (by decide) (by omega))
    have hcode : code n = n := by
      unfold code
      rw [hshift, Nat.zero_mul, Nat.zero_add, Nat.pow_zero, Nat.div_one]
    rw [hcode, units_of_small hsmall]
  · obtain ⟨hlow, hhigh⟩ := leading_bounds hshift
    have hdiv : code n / 2 ^ 52 - 1 = shift n := by
      unfold code
      omega
    have hmantissa : code n - shift n * 2 ^ 52 = n / 2 ^ shift n := by
      unfold code
      omega
    simp only [units]
    rw [hdiv, hmantissa, Nat.div_mul_cancel h]

/-! ## Rational numbers -/

/-- The number of units in 1. -/
def scale : Nat := 2 ^ 1074

/-- The units in a number without its sign. -/
def unitsOf (q : Rat) : Nat := q.num.natAbs * (scale / q.den)

/-- The number is a finite double. -/
def Fits (q : Rat) : Prop :=
  q.den ∣ scale ∧ 2 ^ shift (unitsOf q) ∣ unitsOf q ∧ code (unitsOf q) < infinity

instance (q : Rat) : Decidable (Fits q) := inferInstanceAs (Decidable (_ ∧ _ ∧ _))

/-- The bits of a number. -/
def ofRat (q : Rat) : UInt64 :=
  .ofNat (if q < 0 then code (unitsOf q) + 2 ^ 63 else code (unitsOf q))

/-- The number with those bits; `none` is an infinity, or no number. -/
def toRat (w : UInt64) : Option Rat :=
  let magnitude : Rat := units (w.toNat % 2 ^ 63) / scale
  if infinity ≤ w.toNat % 2 ^ 63 then none
  else some (if w.toNat < 2 ^ 63 then magnitude else -magnitude)

theorem infinity_lt : infinity < 2 ^ 63 := by decide

theorem unitsOf_div {q : Rat} (h : q.den ∣ scale) : (unitsOf q : Rat) / scale = |q| := by
  obtain ⟨k, hk⟩ := h
  have hk0 : k ≠ 0 := by
    intro hzero
    rw [hzero, Nat.mul_zero] at hk
    exact Nat.ne_of_gt (Nat.two_pow_pos _) hk
  have hunits : unitsOf q = q.num.natAbs * k := by
    rw [unitsOf, hk, Nat.mul_div_cancel_left k (Nat.pos_of_ne_zero q.den_nz)]
  calc (unitsOf q : Rat) / scale
      = q.num.natAbs * k / (q.den * k) := by rw [hunits, hk, Nat.cast_mul, Nat.cast_mul]
    _ = q.num.natAbs / q.den := mul_div_mul_right _ _ (Nat.cast_ne_zero.mpr hk0)
    _ = |q| := by
      conv_rhs => rw [← Rat.num_div_den q]
      rw [abs_div, Nat.abs_cast, Nat.cast_natAbs, Int.cast_abs]

/-- **A finite double is read back.** -/
theorem toRat_ofRat {q : Rat} (h : Fits q) : toRat (ofRat q) = some q := by
  obtain ⟨hden, hdvd, hfinite⟩ := h
  have hsmall := Nat.lt_trans hfinite infinity_lt
  by_cases hneg : q < 0
  · have hword : (ofRat q).toNat = code (unitsOf q) + 2 ^ 63 := by
      rw [ofRat, if_pos hneg, UInt64.toNat_ofNat_of_lt' (by rw [UInt64.size]; omega)]
    have hmod : (code (unitsOf q) + 2 ^ 63) % 2 ^ 63 = code (unitsOf q) := by omega
    unfold toRat
    rw [hword, hmod, if_neg (Nat.not_le.mpr hfinite), if_neg (by omega), units_code hdvd,
      unitsOf_div hden, abs_of_neg hneg, neg_neg]
  · have hword : (ofRat q).toNat = code (unitsOf q) := by
      rw [ofRat, if_neg hneg, UInt64.toNat_ofNat_of_lt' (by rw [UInt64.size]; omega)]
    unfold toRat
    rw [hword, Nat.mod_eq_of_lt hsmall, if_neg (Nat.not_le.mpr hfinite), if_pos hsmall,
      units_code hdvd, unitsOf_div hden, abs_of_nonneg (not_lt.mp hneg)]

/-! ## Rounding -/

/-- The nearest whole number, of two the even one. -/
def nearestEven (y : Rat) : Int :=
  if y - ⌊y⌋ < 1 / 2 ∨ y - ⌊y⌋ = 1 / 2 ∧ ⌊y⌋ % 2 = 0 then ⌊y⌋ else ⌊y⌋ + 1

theorem abs_nearestEven_sub_le (y : Rat) : |(nearestEven y : Rat) - y| ≤ 1 / 2 := by
  have hfloor := Int.floor_le y
  have hnext := Int.lt_floor_add_one y
  unfold nearestEven
  split
  · rename_i hdown
    have hhalf : y - ⌊y⌋ ≤ 1 / 2 := hdown.elim le_of_lt fun h => h.1.le
    rw [abs_sub_le_iff]
    constructor <;> linarith
  · rename_i hup
    have hhalf : 1 / 2 ≤ y - ⌊y⌋ := not_lt.mp fun h => hup (.inl h)
    rw [Int.cast_add, Int.cast_one, abs_sub_le_iff]
    constructor <;> linarith

theorem nearestEven_nonneg {y : Rat} (h : 0 ≤ y) : 0 ≤ nearestEven y := by
  have hfloor : 0 ≤ ⌊y⌋ := Int.floor_nonneg.mpr h
  unfold nearestEven
  split <;> omega

/-- What the last bit of a double near this number is worth. -/
def ulp (q : Rat) : Rat := 2 ^ shift ⌊|q| * scale⌋₊ / scale

/-- The double nearest to a number. -/
def rounded (q : Rat) : Rat := nearestEven (q / ulp q) * ulp q

theorem scale_pos : (0 : Rat) < scale := by
  rw [scale, Nat.cast_pow, Nat.cast_two]
  exact pow_pos zero_lt_two _

theorem ulp_pos (q : Rat) : 0 < ulp q := div_pos (pow_pos zero_lt_two _) scale_pos

/-- The last bit is worth a unit, or at most the number shifted by 52 places. -/
theorem last_bit_le {S a : Rat} (hS : 0 < S) (ha : 0 ≤ a) :
    2 ^ shift ⌊a * S⌋₊ / S ≤ a / 2 ^ 52 + 1 / S := by
  have hunit : 0 ≤ 1 / S := div_nonneg zero_le_one hS.le
  have hpart : 0 ≤ a / 2 ^ 52 := div_nonneg ha (pow_nonneg zero_le_two _)
  by_cases hshift : shift ⌊a * S⌋₊ = 0
  · rw [hshift, pow_zero]
    exact le_add_of_nonneg_left hpart
  · obtain ⟨hlow, -⟩ := leading_bounds hshift
    rw [Nat.le_div_iff_mul_le (Nat.two_pow_pos _)] at hlow
    have hbits : (2 ^ 52 * 2 ^ shift ⌊a * S⌋₊ : Rat) ≤ a * S :=
      le_trans (by exact_mod_cast hlow) (Nat.floor_le (mul_nonneg ha hS.le))
    have hshifted : 2 ^ shift ⌊a * S⌋₊ / S ≤ a / 2 ^ 52 := by
      rw [div_le_div_iff₀ hS (pow_pos zero_lt_two _), mul_comm]
      exact hbits
    exact hshifted.trans (le_add_of_nonneg_right hunit)

theorem half_unit : (1 : Rat) / 2 * (1 / scale) = 1 / 2 ^ 1075 := by
  rw [scale, Nat.cast_pow, Nat.cast_two, div_mul_div_comm, one_mul, ← pow_succ']

/-- **How far rounding goes**: half of the last bit. -/
theorem abs_rounded_sub_le (q : Rat) : |rounded q - q| ≤ |q| / 2 ^ 53 + 1 / 2 ^ 1075 := by
  have hulp := ulp_pos q
  have hle : ulp q ≤ |q| / 2 ^ 52 + 1 / scale := last_bit_le scale_pos (abs_nonneg q)
  have hnear := abs_nearestEven_sub_le (q / ulp q)
  have hrounded : rounded q - q = ((nearestEven (q / ulp q) : Rat) - q / ulp q) * ulp q := by
    rw [rounded, sub_mul, div_mul_cancel₀ q hulp.ne']
  rw [hrounded, abs_mul, abs_of_pos hulp, ← half_unit]
  have hhalf := mul_le_mul_of_nonneg_right hnear hulp.le
  generalize (1 : Rat) / (scale : Rat) = unit at hle ⊢
  generalize |(nearestEven (q / ulp q) : Rat) - q / ulp q| * ulp q = error at hhalf ⊢
  linarith

theorem rounded_nonneg {q : Rat} (h : 0 ≤ q) : 0 ≤ rounded q :=
  mul_nonneg (Int.cast_nonneg (nearestEven_nonneg (div_nonneg h (ulp_pos q).le))) (ulp_pos q).le

example : ofRat (-5 / 2) = 0xC004000000000000 ∧ toRat 0x7FF0000000000000 = none := by
  decide +kernel

end Lib.Binary64
