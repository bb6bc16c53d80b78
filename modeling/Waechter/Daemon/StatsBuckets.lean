import Waechter.Daemon.StatsManager

/-!
# The buckets of a statistics request

`ProcessStatsRequest` (`Daemon/Db/StatsManager.cpp`) makes an empty bucket for every hour, day or
month of the range and adds each snapshot to the bucket of the second before it was written. The
calendar is unbounded here.

* `covers_initialBuckets`: the buckets follow one another without a gap from the start of the
  range to its end.
* `bucketOf_eq_iff`: a snapshot is added to the bucket it was written in.
* `buckets_exact`: every snapshot of the range has exactly one bucket, and no byte is lost.
-/

namespace Waechter

open Lib

namespace StatsManager

/-- The starts of the buckets. -/
def keys (buckets : List StatData) : List Sec := buckets.map (·.timestamp)

/-- The buckets follow one another in order, each one ending where the next one starts, from the
start of the range or before it to the end of the range or after it. -/
structure Covers (secs : Option Sec) (lo hi : Int) (keys : List Int) : Prop where
  increasing : keys.Pairwise (· < ·)
  contiguous : keys.IsChain fun k k' => nextBucket secs k = k'
  first : ∃ k ∈ keys.head?, k ≤ lo ∧ lo < nextBucket secs k
  last : ∃ k ∈ keys.getLast?, k < hi ∧ hi ≤ nextBucket secs k

/-- A snapshot was written in a bucket: it ends within it or with it. -/
def WrittenIn (secs : Option Sec) (t k : Int) : Prop := k < t ∧ t ≤ nextBucket secs k

theorem keys_accumulate (secs : Option Sec) (row : Sec × TrafficEventRow) (buckets : List StatData) :
    keys (accumulate secs buckets row) = keys buckets := by
  unfold keys accumulate
  rw [List.map_map]
  refine List.map_congr_left fun data _ => ?_
  simp only [Function.comp]
  split <;> rfl

theorem keys_foldl_accumulate (secs : Option Sec) (rows : List (Sec × TrafficEventRow))
    (buckets : List StatData) : keys (rows.foldl (accumulate secs) buckets) = keys buckets := by
  induction rows generalizing buckets with
  | nil => rfl
  | cons row rows ih => rw [List.foldl_cons, ih, keys_accumulate]

theorem keys_initialBuckets (secs : Option Sec) (request : StatsRequest) :
    keys (initialBuckets secs request) =
      Buckets.range (getBucketStart secs) (nextBucket secs) request.startTime request.endTime := by
  unfold keys initialBuckets
  rw [List.map_map]
  exact List.map_id' _

/-- The hours, the days and the months start where they are rounded to. -/
theorem exists_grid (duration : Sec) :
    ∃ g : Buckets.Grid (getBucketStart (bucketSecs duration)) (nextBucket (bucketSecs duration)),
      g.Exact := by
  cases h : bucketSecs duration with
  | none =>
    refine ⟨monthGrid, fun k => ?_⟩
    change Calendar.monthIndex (86400 * Calendar.firstDay k / 86400) = k
    rw [Int.mul_ediv_cancel_left _ (by decide), Calendar.monthIndex_firstDay]
  | some secs =>
    have hpos := bucketSecs_pos h
    exact ⟨fixedGrid secs hpos, fun k => Int.mul_tdiv_cancel k (Int.ne_of_gt hpos)⟩

variable (duration : Sec)

/-- The bucket of a time goes from its start to the next one. -/
theorem start_eq_iff {t k : Int} (ht : 0 ≤ t) (hk : getBucketStart (bucketSecs duration) k = k) :
    getBucketStart (bucketSecs duration) t = k ↔ k ≤ t ∧ t < nextBucket (bucketSecs duration) k := by
  obtain ⟨g, hexact⟩ := exists_grid duration
  have hpoint : k = g.point (g.index k) := hk.symm.trans (g.start_eq k)
  have hiff := g.start_eq_iff hexact ht (g.index k)
  rwa [← hpoint] at hiff

/-- **A snapshot is added to the bucket it was written in.** -/
theorem bucketOf_eq_iff {t k : Int} (ht : 0 < t) (hk : getBucketStart (bucketSecs duration) k = k) :
    bucketOf (bucketSecs duration) t = k ↔ WrittenIn (bucketSecs duration) t k := by
  have hpos : 0 ≤ t - 1 := by omega
  unfold bucketOf WrittenIn
  rw [max_eq_right hpos, start_eq_iff duration hpos hk]
  omega

/-- The start of a bucket is its own start. -/
theorem start_of_mem {request : StatsRequest} {k : Int}
    (h : k ∈ keys (initialBuckets (bucketSecs duration) request)) :
    getBucketStart (bucketSecs duration) k = k := by
  obtain ⟨g, hexact⟩ := exists_grid duration
  rw [keys_initialBuckets] at h
  unfold Buckets.range at h
  rw [g.start_eq] at h
  obtain ⟨j, -, rfl⟩ := Buckets.exists_of_mem_edges g.next_point h
  rw [g.start_eq, hexact]

/-- **The buckets cover the range.** -/
theorem covers_initialBuckets {request : StatsRequest} (h0 : 0 ≤ request.startTime)
    (hlt : request.startTime < request.endTime) :
    Covers (bucketSecs duration) request.startTime request.endTime
      (keys (initialBuckets (bucketSecs duration) request)) := by
  have g := grid duration
  have hstart := g.start_le request.startTime h0
  have hfirst : (Buckets.range (getBucketStart (bucketSecs duration))
      (nextBucket (bucketSecs duration)) request.startTime request.endTime).head? =
        some (getBucketStart (bucketSecs duration) request.startTime) :=
    Buckets.Grid.head_range (lt_of_le_of_lt hstart hlt)
  have hmem : ∀ k, k ∈ Buckets.range (getBucketStart (bucketSecs duration))
      (nextBucket (bucketSecs duration)) request.startTime request.endTime →
        getBucketStart (bucketSecs duration) k = k := by
    intro k hk
    rw [← keys_initialBuckets] at hk
    exact start_of_mem duration hk
  rw [keys_initialBuckets]
  refine ⟨g.sorted_range _ _, Buckets.isChain_edges _ _ _ _, ⟨_, hfirst, ?_⟩, ?_⟩
  · exact (start_eq_iff duration h0 (hmem _ (List.mem_of_head? hfirst))).mp rfl
  · cases hlast : (Buckets.range (getBucketStart (bucketSecs duration))
        (nextBucket (bucketSecs duration)) request.startTime request.endTime).getLast? with
    | none =>
      rw [List.getLast?_eq_none_iff.mp hlast] at hfirst
      exact absurd hfirst (by simp)
    | some k =>
      exact ⟨k, rfl, Buckets.lt_of_mem_edges (List.mem_of_getLast? hlast),
        g.le_next_getLast_range hlast⟩

/-! ## The snapshots of the range -/

/-- The rows were written within the range. -/
def Within (request : StatsRequest) (rows : List (Sec × TrafficEventRow)) : Prop :=
  ∀ row ∈ rows, request.startTime < row.1 ∧ row.1 ≤ request.endTime

instance (request : StatsRequest) (rows : List (Sec × TrafficEventRow)) :
    Decidable (Within request rows) := by unfold Within; infer_instance

/-- No byte is lost. -/
theorem total_buckets {request : StatsRequest} {rows : List (Sec × TrafficEventRow)}
    (h0 : 0 ≤ request.startTime) (hlt : request.startTime < request.endTime)
    (hrows : Within request rows) :
    Buckets.total ((rows.foldl (accumulate (bucketSecs duration))
        (initialBuckets (bucketSecs duration) request)).map StatData.bucket) =
      (rows.map (·.2.bytes)).sum := by
  rw [total_accumulate (grid duration), List.filter_eq_self.mpr]
  intro row hrow
  obtain ⟨hlo, hhi⟩ := hrows row hrow
  exact decide_eq_true ((bucketOf_mem_iff duration hlo hhi).mpr (lt_of_le_of_lt h0 hlt))

/-- **The buckets of a request are exact.** The mode is that of any duration: the buckets cover
the range, each snapshot of the range was written in exactly one of them and is added to that one,
and the buckets together have the bytes of all snapshots. -/
theorem buckets_exact (request : StatsRequest) (rows : List (Sec × TrafficEventRow))
    (h0 : 0 ≤ request.startTime) (hlt : request.startTime < request.endTime)
    (hrows : Within request rows) :
    let secs := bucketSecs duration
    let buckets := rows.foldl (accumulate secs) (initialBuckets secs request)
    Covers secs request.startTime request.endTime (keys buckets) ∧
      (∀ row ∈ rows, ∀ k ∈ keys buckets, bucketOf secs row.1 = k ↔ WrittenIn secs row.1 k) ∧
      (∀ row ∈ rows, ∃! k, k ∈ keys buckets ∧ WrittenIn secs row.1 k) ∧
      Buckets.total (buckets.map StatData.bucket) = (rows.map (·.2.bytes)).sum := by
  intro secs buckets
  have hkeys : keys buckets = keys (initialBuckets secs request) := keys_foldl_accumulate secs rows _
  have hown : ∀ row ∈ rows, ∀ k ∈ keys buckets,
      bucketOf secs row.1 = k ↔ WrittenIn secs row.1 k := by
    intro row hrow k hk
    have hlo := (hrows row hrow).1
    exact bucketOf_eq_iff duration (lt_of_le_of_lt h0 hlo) (start_of_mem duration (hkeys ▸ hk))
  refine ⟨hkeys ▸ covers_initialBuckets duration h0 hlt, hown, fun row hrow => ?_,
    total_buckets duration h0 hlt hrows⟩
  obtain ⟨hlo, hhi⟩ := hrows row hrow
  have hmem : bucketOf secs row.1 ∈ keys buckets := by
    rw [hkeys, keys_initialBuckets]
    exact (bucketOf_mem_iff duration hlo hhi).mpr (lt_of_le_of_lt h0 hlt)
  exact ⟨_, ⟨hmem, (hown row hrow _ hmem).mp rfl⟩, fun k hk => ((hown row hrow k hk.1).mpr hk.2).symm⟩

/-- Two hours, with a snapshot at the end of each. -/
theorem buckets_exact_hours :
    Buckets.total (([(3600, ⟨1, 1, 1, none, 5, 7⟩), (7200, ⟨2, 2, 1, none, 1, 0⟩)] :
        List (Sec × TrafficEventRow)).foldl (accumulate (bucketSecs 7200))
          (initialBuckets (bucketSecs 7200) (systemRequest 1 0 7200)) |>.map StatData.bucket) =
      (6, 7) :=
  (buckets_exact 7200 (systemRequest 1 0 7200)
    [(3600, ⟨1, 1, 1, none, 5, 7⟩), (7200, ⟨2, 2, 1, none, 1, 0⟩)] (by decide) (by decide)
    (by decide)).2.2.2.trans rfl

end StatsManager

end Waechter
