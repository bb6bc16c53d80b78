import Waechter.Daemon.StatsManager

/-!
# The bucket loop in machine arithmetic

The part of `ProcessStatsRequest` (`Daemon/Db/StatsManager.cpp`) that computes `Duration` and
makes the empty buckets, with the widths of its types: `WSec` has 64 bits and `tm_year` 32. An
operation that overflows has no result. `gmtime_r` fails for a year that does not fit and leaves
the zeroes of `std::tm Tm{}`.

* `populates_iff`: the loop ends without an overflow exactly when `Duration` is in range and the
  range does not go on beyond the last bucket whose end is in range.
-/

namespace Waechter

open Lib

namespace StatsManager

/-- A result of 64-bit arithmetic, if there is one. -/
def checked64 (x : Int) : Option Int := if -2 ^ 63 ≤ x ∧ x < 2 ^ 63 then some x else none

/-- A result of `int` arithmetic, if there is one. -/
def checked32 (x : Int) : Option Int := if -2 ^ 31 ≤ x ∧ x < 2 ^ 31 then some x else none

/-- `std::tm Tm{}`, after `gmtime_r(&TimeT, &Tm)`. -/
def gmtimeR (t : Int) : Tm :=
  let tm := gmtime t
  if (checked32 tm.tmYear).isSome then tm
  else { tmSec := 0, tmMin := 0, tmHour := 0, tmMday := 0, tmMon := 0, tmYear := 0 }

/-- `GetBucketStart`. -/
def getBucketStart64 (secs : Option Sec) (t : Int) : Option Int :=
  match secs with
  | none => some (timegm { gmtimeR t with tmMday := 1, tmHour := 0, tmMin := 0, tmSec := 0 })
  | some secs => checked64 (t.tdiv secs * secs)

/-- `NextBucket`. -/
def nextBucket64 (secs : Option Sec) (t : Int) : Option Int :=
  match secs with
  | none =>
    let tm := gmtimeR t
    if 11 < tm.tmMon + 1 then
      (checked32 (tm.tmYear + 1)).map fun year => timegm { tm with tmMon := 0, tmYear := year }
    else some (timegm { tm with tmMon := tm.tmMon + 1 })
  | some secs => checked64 (t + secs)

/-- `Duration` and the loop over the buckets, with at most `fuel` turns. -/
def prepopulate (fuel : Nat) (startTime endTime : Int64) : Option (List Int) := do
  let duration ← checked64 (endTime.toInt - startTime.toInt)
  let secs := bucketSecs duration
  let first ← getBucketStart64 secs startTime.toInt
  Buckets.turns (nextBucket64 secs) endTime.toInt fuel first

/-- The buckets are made without an overflow, after finitely many turns. -/
def Populates (startTime endTime : Int64) : Prop :=
  ∃ fuel buckets, prepopulate fuel startTime endTime = some buckets

/-- The start of the last bucket whose end is in range: the last multiple of the width, or the
December of the last year that `tm_year` can hold. -/
def lastBucket (secs : Option Sec) : Int :=
  match secs with
  | none => 86400 * Calendar.firstDay (12 * (2 ^ 31 - 1 + 1900) + 11)
  | some secs => (2 ^ 63 - 1) / secs * secs

theorem checked64_of_bounds {x : Int} (hlo : -2 ^ 63 ≤ x) (hhi : x < 2 ^ 63) :
    checked64 x = some x := if_pos ⟨hlo, hhi⟩

/-- What the loop over the buckets of a width does. -/
def Ends (secs : Option Sec) (startTime endTime : Int) : Prop :=
  ∃ fuel points, (getBucketStart64 secs startTime).bind
    (Buckets.turns (nextBucket64 secs) endTime fuel) = some points

/-! ## Hours and days -/

/-- Rounding towards 0 stays in range. -/
theorem tdiv_mul_bounds {secs t : Int} (h : 0 < secs) (hlo : -2 ^ 63 ≤ t) (hhi : t < 2 ^ 63) :
    -2 ^ 63 ≤ t.tdiv secs * secs ∧ t.tdiv secs * secs < 2 ^ 63 := by
  rcases Int.le_total 0 t with ht | ht
  · have hle := Int.tdiv_mul_le t (Int.ne_of_gt h)
    rw [if_pos ht] at hle
    have hpos := Int.mul_nonneg (Int.tdiv_nonneg ht h.le) h.le
    omega
  · have hle := Int.tdiv_mul_le (-t) (Int.ne_of_gt h)
    rw [if_pos (by omega), Int.neg_tdiv, Int.neg_mul] at hle
    have hpos := Int.mul_nonneg (Int.tdiv_nonneg (a := -t) (by omega) h.le) h.le
    rw [Int.neg_tdiv, Int.neg_mul] at hpos
    omega

theorem ends_fixed_iff {secs t : Int} (h : 0 < secs) (hlo : -2 ^ 63 ≤ t) (hhi : t < 2 ^ 63)
    (endTime : Int) : Ends (some secs) t endTime ↔ endTime ≤ lastBucket (some secs) := by
  obtain ⟨hfirst, hfirst'⟩ := tdiv_mul_bounds h hlo hhi
  have hlast : t.tdiv secs ≤ (2 ^ 63 - 1) / secs := by
    rw [← Int.tdiv_eq_ediv_of_nonneg (by decide)]
    exact Int.tdiv_le_tdiv h (by omega)
  have hend : (2 ^ 63 - 1) / secs * secs ≤ 2 ^ 63 - 1 := Int.ediv_mul_le _ (Int.ne_of_gt h)
  have hend' : 2 ^ 63 - 1 < ((2 ^ 63 - 1) / secs + 1) * secs := Int.lt_ediv_add_one_mul_self _ h
  have hstep (k : Int) : k * secs + secs = (k + 1) * secs := by rw [Int.add_mul, Int.one_mul]
  unfold Ends getBucketStart64
  simp only [checked64_of_bounds hfirst hfirst', Option.bind_some]
  refine Buckets.exists_turns_iff (f := fun k => k * secs)
    (fun _ _ hlt => Int.mul_lt_mul_of_pos_right hlt h) _ hlast ?_ ?_ endTime
  · intro k hk hk'
    have hlow : t.tdiv secs * secs ≤ (k + 1) * secs :=
      Int.mul_le_mul_of_nonneg_right (by omega) h.le
    have hhigh : (k + 1) * secs ≤ (2 ^ 63 - 1) / secs * secs :=
      Int.mul_le_mul_of_nonneg_right (by omega) h.le
    unfold nextBucket64
    simp only [hstep]
    exact checked64_of_bounds (by omega) (by omega)
  · unfold nextBucket64 checked64
    simp only [hstep]
    exact if_neg (by omega)

/-! ## Months -/

/-- The months of the years that `tm_year` can hold. -/
def InYears (month : Int) : Prop := -2 ^ 31 ≤ month / 12 - 1900 ∧ month / 12 - 1900 < 2 ^ 31

instance (month : Int) : Decidable (InYears month) := by unfold InYears; infer_instance

theorem gmtimeR_eq (t : Int) : gmtimeR t =
    if InYears (Calendar.monthIndex (t / 86400)) then gmtime t
    else { tmSec := 0, tmMin := 0, tmHour := 0, tmMday := 0, tmMon := 0, tmYear := 0 } := by
  have hfits : (checked32 (gmtime t).tmYear).isSome = true ↔
      InYears (Calendar.monthIndex (t / 86400)) := by
    change (if InYears (Calendar.monthIndex (t / 86400)) then some _ else none).isSome = true ↔ _
    split
    · exact iff_of_true rfl ‹_›
    · exact iff_of_false Bool.false_ne_true ‹_›
  unfold gmtimeR
  simp only [hfits]

/-- The first bucket of months: that of 1900 where the year does not fit. -/
theorem getBucketStart64_month (t : Int) : getBucketStart64 none t = some (86400 * Calendar.firstDay
    (if InYears (Calendar.monthIndex (t / 86400)) then Calendar.monthIndex (t / 86400)
      else 12 * 1900)) := by
  unfold getBucketStart64
  rw [gmtimeR_eq]
  by_cases hyears : InYears (Calendar.monthIndex (t / 86400))
  · rw [if_pos hyears, if_pos hyears, ← timegm_first]
    rfl
  · rw [if_neg hyears, if_neg hyears]
    have hstart := timegm_first (12 * 1900)
    rw [show (12 * 1900 : Int) % 12 = 0 from rfl, show (12 * 1900 : Int) / 12 - 1900 = 0 from rfl]
      at hstart
    exact congrArg some hstart

theorem nextBucket64_month {k : Int} (hk : InYears k) :
    nextBucket64 none (86400 * Calendar.firstDay k) =
      if k = 12 * (2 ^ 31 - 1 + 1900) + 11 then none
      else some (86400 * Calendar.firstDay (k + 1)) := by
  have hday : 86400 * Calendar.firstDay k / 86400 = Calendar.firstDay k := by omega
  have hnext := monthGrid.next_point k
  change nextBucket none (86400 * Calendar.firstDay k) = 86400 * Calendar.firstDay (k + 1) at hnext
  rw [← hnext]
  unfold nextBucket64 nextBucket
  rw [gmtimeR_eq, hday, Calendar.monthIndex_firstDay, if_pos hk, gmtime_firstDay]
  obtain ⟨hlo, hhi⟩ := hk
  simp only
  by_cases hdecember : 11 < k % 12 + 1
  · rw [if_pos hdecember, if_pos hdecember]
    unfold checked32
    by_cases hlast : k = 12 * (2 ^ 31 - 1 + 1900) + 11
    · rw [if_pos hlast, if_neg (by omega)]
      rfl
    · rw [if_neg hlast, if_pos (by omega)]
      rfl
  · rw [if_neg hdecember, if_neg hdecember, if_neg (by omega)]

theorem ends_month_iff (t endTime : Int) : Ends none t endTime ↔ endTime ≤ lastBucket none := by
  have hfirst : InYears (if InYears (Calendar.monthIndex (t / 86400)) then
      Calendar.monthIndex (t / 86400) else 12 * 1900) := by
    split
    · assumption
    · decide
  unfold Ends
  rw [getBucketStart64_month]
  generalize (if InYears (Calendar.monthIndex (t / 86400)) then
    Calendar.monthIndex (t / 86400) else 12 * 1900) = first at hfirst ⊢
  obtain ⟨hlo, hhi⟩ := hfirst
  refine Buckets.exists_turns_iff (f := fun k => 86400 * Calendar.firstDay k)
    monthGrid.strictMono (12 * (2 ^ 31 - 1 + 1900) + 11) (by omega) ?_ ?_ endTime
  · intro k hk hk'
    rw [nextBucket64_month ⟨by omega, by omega⟩, if_neg (Int.ne_of_lt hk')]
  · rw [nextBucket64_month (by decide), if_pos rfl]

/-! ## Requests -/

theorem populates_iff_ends (startTime endTime : Int64) : Populates startTime endTime ↔
    ∃ duration, checked64 (endTime.toInt - startTime.toInt) = some duration ∧
      Ends (bucketSecs duration) startTime.toInt endTime.toInt := by
  unfold Populates prepopulate
  cases checked64 (endTime.toInt - startTime.toInt) with
  | none => simp only [Option.bind_eq_bind, Option.bind_none, reduceCtorEq, exists_false, false_and]
  | some duration =>
    exact ⟨fun h => ⟨duration, rfl, h⟩, fun ⟨_, h, hends⟩ => by cases h; exact hends⟩

/-- The loop of a duration ends with the last bucket whose end is in range. -/
theorem ends_iff (duration : Sec) (startTime endTime : Int64) :
    Ends (bucketSecs duration) startTime.toInt endTime.toInt ↔
      endTime.toInt ≤ lastBucket (bucketSecs duration) := by
  cases h : bucketSecs duration with
  | none => exact ends_month_iff _ _
  | some secs => exact ends_fixed_iff (bucketSecs_pos h) startTime.le_toInt startTime.toInt_lt _

instance (startTime endTime : Int64) : Decidable (Populates startTime endTime) :=
  match h : checked64 (endTime.toInt - startTime.toInt) with
  | none => .isFalse fun hp => by
      obtain ⟨_, hd, -⟩ := (populates_iff_ends _ _).mp hp
      rw [h] at hd
      cases hd
  | some duration => decidable_of_iff (endTime.toInt ≤ lastBucket (bucketSecs duration)) (by
      rw [populates_iff_ends, h, ← ends_iff duration startTime endTime]
      exact ⟨fun hends => ⟨duration, rfl, hends⟩, fun ⟨_, hd, hends⟩ => by cases hd; exact hends⟩)

/-- **When the bucket loop ends.** -/
theorem populates_iff (startTime endTime : Int64) :
    Populates startTime endTime ↔
      -2 ^ 63 ≤ endTime.toInt - startTime.toInt ∧ endTime.toInt - startTime.toInt < 2 ^ 63 ∧
        endTime.toInt ≤ lastBucket (bucketSecs (endTime.toInt - startTime.toInt)) := by
  rw [populates_iff_ends]
  by_cases hduration : -2 ^ 63 ≤ endTime.toInt - startTime.toInt ∧
      endTime.toInt - startTime.toInt < 2 ^ 63
  · rw [checked64, if_pos hduration]
    simp only [hduration, true_and, Option.some.injEq, exists_eq_left']
    exact ends_iff _ _ _
  · rw [checked64, if_neg hduration]
    simp only [reduceCtorEq, false_and, exists_false, false_iff]
    exact fun h => hduration ⟨h.1, h.2.1⟩

/-- The range from the last second before the epoch to the last second there is. -/
theorem populates_not_always : ¬ ∀ startTime endTime : Int64, Populates startTime endTime := by
  intro h
  obtain ⟨fuel, buckets, hbuckets⟩ := h (-1) Int64.maxValue
  have hduration : checked64 (Int64.maxValue.toInt - (-1 : Int64).toInt) = none := by decide
  unfold prepopulate at hbuckets
  rw [hduration] at hbuckets
  exact Option.noConfusion rfl (heq_of_eq hbuckets)

end StatsManager

end Waechter
