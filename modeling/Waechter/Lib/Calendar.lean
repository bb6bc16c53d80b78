import Mathlib

/-!
# Months of the proleptic Gregorian calendar

Days are counted from the first of January 1970 and months by one index, `12 * year + month` with
the months of a year numbered from 0, so that the next month is the next index in every year.

* `firstDay_strictMono`: a later month starts later.
* `firstDay_monthIndex_le`, `lt_firstDay_succ`: the month of a day is the one that starts at or
  before it and ends after it.
* `monthIndex_eq`, `monthIndex_mono`: it is the only one, and later days have later months.
-/

namespace Lib.Calendar

/-- `year` has a 29th of February. -/
def isLeap (year : Int) : Bool :=
  (year % 4 == 0 && year % 100 != 0) || year % 400 == 0

/-- The first of January of a year. -/
def yearStart (year : Int) : Int :=
  365 * (year - 1970) + ((year - 1) / 4 - (year - 1) / 100 + (year - 1) / 400) - 477

/-- The days of a year before the month, for the months 0 to 11; 12 is the length of the year. -/
def monthStart (leap : Bool) (month : Int) : Int :=
  let feb := if leap then 29 else 28
  if month ≤ 0 then 0
  else if month = 1 then 31
  else if month = 2 then 31 + feb
  else if month = 3 then 62 + feb
  else if month = 4 then 92 + feb
  else if month = 5 then 123 + feb
  else if month = 6 then 153 + feb
  else if month = 7 then 184 + feb
  else if month = 8 then 215 + feb
  else if month = 9 then 245 + feb
  else if month = 10 then 276 + feb
  else if month = 11 then 306 + feb
  else 337 + feb

/-- The year of a day: an average year has 146097 / 400 days, which misses by one at most. -/
def yearOf (day : Int) : Int :=
  let guess := 1970 + 400 * day / 146097
  if day < yearStart guess then guess - 1
  else if yearStart (guess + 1) ≤ day then guess + 1
  else guess

/-- The last of the months up to `month` that has started on the day `yday` of a year. -/
def lastStarted (leap : Bool) (yday : Int) : Nat → Int
  | 0 => 0
  | month + 1 =>
    if monthStart leap (month + 1) ≤ yday then month + 1 else lastStarted leap yday month

/-- The month of the day `yday` of a year. -/
def monthOf (leap : Bool) (yday : Int) : Int := lastStarted leap yday 11

/-- The first day of the month with the index. -/
def firstDay (month : Int) : Int :=
  yearStart (month / 12) + monthStart (isLeap (month / 12)) (month % 12)

/-- The index of the month of a day. -/
def monthIndex (day : Int) : Int :=
  12 * yearOf day + monthOf (isLeap (yearOf day)) (day - yearStart (yearOf day))

theorem yearStart_succ (year : Int) :
    yearStart (year + 1) = yearStart year + monthStart (isLeap year) 12 := by
  unfold yearStart isLeap monthStart
  by_cases h : ((year % 4 == 0 && year % 100 != 0) || year % 400 == 0) = true
  · simp only [h, if_true]
    simp at h
    omega
  · simp only [h]
    simp at h ⊢
    omega

theorem yearOf_spec (day : Int) :
    yearStart (yearOf day) ≤ day ∧ day < yearStart (yearOf day + 1) := by
  unfold yearOf
  simp only
  generalize hy : 1970 + 400 * day / 146097 = year
  have hlow : yearStart (year - 1) ≤ day := by
    unfold yearStart
    omega
  have hhigh : day < yearStart (year + 1 + 1) := by
    unfold yearStart
    omega
  split
  · rw [Int.sub_add_cancel]
    constructor <;> assumption
  · split
    · constructor <;> assumption
    · omega

theorem monthStart_lt_succ (leap : Bool) (month : Int) (h0 : 0 ≤ month) (h12 : month < 12) :
    monthStart leap month < monthStart leap (month + 1) := by
  unfold monthStart
  have hm : month = 0 ∨ month = 1 ∨ month = 2 ∨ month = 3 ∨ month = 4 ∨ month = 5 ∨ month = 6 ∨
      month = 7 ∨ month = 8 ∨ month = 9 ∨ month = 10 ∨ month = 11 := by omega
  cases leap <;> rcases hm with rfl | rfl | rfl | rfl | rfl | rfl | rfl | rfl | rfl | rfl | rfl | rfl <;>
    decide

/-- **A later month starts later.** -/
theorem firstDay_strictMono : StrictMono firstDay := by
  refine strictMono_int_of_lt_succ fun k => ?_
  have hmod := Int.emod_nonneg k (by decide : (12 : Int) ≠ 0)
  have hlt := Int.emod_lt_of_pos k (by decide : (0 : Int) < 12)
  unfold firstDay
  by_cases h : k % 12 = 11
  · -- December: the next index is January of the next year
    have hdiv : (k + 1) / 12 = k / 12 + 1 := by omega
    have hrem : (k + 1) % 12 = 0 := by omega
    rw [hdiv, hrem, h, yearStart_succ]
    have hlast := monthStart_lt_succ (isLeap (k / 12)) 11 (by decide) (by decide)
    have hzero : monthStart (isLeap (k / 12 + 1)) 0 = 0 := rfl
    simp only [Int.reduceAdd] at hlast
    omega
  · have hdiv : (k + 1) / 12 = k / 12 := by omega
    have hrem : (k + 1) % 12 = k % 12 + 1 := by omega
    rw [hdiv, hrem]
    have hnext := monthStart_lt_succ (isLeap (k / 12)) (k % 12) hmod hlt
    omega

theorem lastStarted_spec (leap : Bool) (yday : Int) (h0 : 0 ≤ yday) : ∀ month : Nat,
    yday < monthStart leap (month + 1) →
    0 ≤ lastStarted leap yday month ∧ lastStarted leap yday month ≤ month ∧
      monthStart leap (lastStarted leap yday month) ≤ yday ∧
      yday < monthStart leap (lastStarted leap yday month + 1)
  | 0, h => ⟨Int.le_refl 0, Int.le_refl 0, h0, h⟩
  | month + 1, h => by
    unfold lastStarted
    split
    · rename_i hstarted
      refine ⟨?_, ?_, hstarted, ?_⟩
      · omega
      · omega
      · exact_mod_cast h
    · rename_i hnot
      have ih := lastStarted_spec leap yday h0 month (Int.not_le.mp hnot)
      omega

theorem monthOf_spec (leap : Bool) (yday : Int) (h0 : 0 ≤ yday)
    (h12 : yday < monthStart leap 12) :
    0 ≤ monthOf leap yday ∧ monthOf leap yday ≤ 11 ∧
      monthStart leap (monthOf leap yday) ≤ yday ∧
      yday < monthStart leap (monthOf leap yday + 1) :=
  lastStarted_spec leap yday h0 11 h12

theorem firstDay_index (year month : Int) (h0 : 0 ≤ month) (h11 : month ≤ 11) :
    firstDay (12 * year + month) = yearStart year + monthStart (isLeap year) month := by
  have hdiv : (12 * year + month) / 12 = year := by omega
  have hmod : (12 * year + month) % 12 = month := by omega
  unfold firstDay
  rw [hdiv, hmod]

/-- The parts of `monthIndex_spec`, in the year of the day. -/
theorem month_of_day (day : Int) :
    let leap := isLeap (yearOf day)
    let yday := day - yearStart (yearOf day)
    0 ≤ monthOf leap yday ∧ monthOf leap yday ≤ 11 ∧
      monthStart leap (monthOf leap yday) ≤ yday ∧
      yday < monthStart leap (monthOf leap yday + 1) := by
  have hyear := yearOf_spec day
  rw [yearStart_succ] at hyear
  exact monthOf_spec _ _ (by omega) (by omega)

/-- The month of a day starts at or before it. -/
theorem firstDay_monthIndex_le (day : Int) : firstDay (monthIndex day) ≤ day := by
  obtain ⟨h0, h11, hle, -⟩ := month_of_day day
  unfold monthIndex
  rw [firstDay_index _ _ h0 h11]
  omega

/-- The next month starts after the day. -/
theorem lt_firstDay_succ (day : Int) : day < firstDay (monthIndex day + 1) := by
  obtain ⟨h0, h11, -, hlt⟩ := month_of_day day
  unfold monthIndex
  rw [Int.add_assoc]
  by_cases h : monthOf (isLeap (yearOf day)) (day - yearStart (yearOf day)) = 11
  · rw [h]
    have hjan : 12 * yearOf day + (11 + 1) = 12 * (yearOf day + 1) + 0 := by omega
    rw [hjan, firstDay_index _ _ (Int.le_refl 0) (by decide)]
    have hzero : monthStart (isLeap (yearOf day + 1)) 0 = 0 := rfl
    have hyear := yearOf_spec day
    omega
  · rw [firstDay_index _ _ (by omega) (by omega)]
    omega

/-- **The month of a day is the only one that contains it.** -/
theorem monthIndex_eq {day month : Int} (hle : firstDay month ≤ day)
    (hlt : day < firstDay (month + 1)) : monthIndex day = month := by
  have h1 : month < monthIndex day + 1 :=
    firstDay_strictMono.lt_iff_lt.mp (lt_of_le_of_lt hle (lt_firstDay_succ day))
  have h2 : monthIndex day < month + 1 :=
    firstDay_strictMono.lt_iff_lt.mp (lt_of_le_of_lt (firstDay_monthIndex_le day) hlt)
  omega

theorem monthIndex_firstDay (month : Int) : monthIndex (firstDay month) = month :=
  monthIndex_eq (le_refl _) (firstDay_strictMono (by omega))

/-- Later days have later months. -/
theorem monthIndex_mono : Monotone monthIndex := by
  intro d e hde
  have h : monthIndex d < monthIndex e + 1 :=
    firstDay_strictMono.lt_iff_lt.mp
      (lt_of_le_of_lt (le_trans (firstDay_monthIndex_le d) hde) (lt_firstDay_succ e))
  omega

end Lib.Calendar
