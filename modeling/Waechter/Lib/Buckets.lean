import Mathlib

/-!
# Buckets of a range

A range is cut at the points `f 0 < f 1 < f 2 < ...`. The loop `edges` starts at one of them and
lists the points up to the end of the range; amounts are then added to the bucket of their point.

* `mem_edges`, `sorted_edges`: the loop lists the points of the range, in order.
* `Grid.start_mem_range`: a time within the range has its bucket among those of the range.
* `Grid.start_eq_iff`: on an exact grid a bucket is the interval up to the next point.
* `exists_turns_iff`: a loop whose `next` can fail ends when the range ends at the last point or
  before it.
* `total_foldl_addTo`: over all buckets, the amounts that were added are those whose point is one
  of the buckets.
-/

namespace Lib.Buckets

variable {T : Type _} [LinearOrder T]

/-- The loop `for (t = start; t < hi; t = next(t))`, with at most `fuel` turns. -/
def edges (next : T → T) (hi : T) : Nat → T → List T
  | 0, _ => []
  | fuel + 1, t => if t < hi then t :: edges next hi fuel (next t) else []

section Edges

variable {next : T → T} {f : Int → T} (hf : StrictMono f) (hnext : ∀ k, next (f k) = f (k + 1))
include hnext

/-- Every point listed is one of `f`. -/
theorem exists_of_mem_edges {hi t : T} : ∀ {fuel : Nat} {i : Int},
    t ∈ edges next hi fuel (f i) → ∃ j, i ≤ j ∧ f j = t
  | 0, _, h => absurd h List.not_mem_nil
  | fuel + 1, i, h => by
    unfold edges at h
    split at h
    · rw [List.mem_cons, hnext] at h
      rcases h with rfl | h
      · exact ⟨i, Int.le_refl _, rfl⟩
      · obtain ⟨j, hij, hj⟩ := exists_of_mem_edges h
        exact ⟨j, by omega, hj⟩
    · exact absurd h List.not_mem_nil

include hf

/-- **The loop lists the points between its start and the end of the range.** -/
theorem mem_edges {hi : T} : ∀ {fuel : Nat} {i : Int} (j : Int), hi ≤ f (i + fuel) →
    (f j ∈ edges next hi fuel (f i) ↔ i ≤ j ∧ f j < hi)
  | 0, i, j, hfuel => by
    rw [Int.natCast_zero, Int.add_zero] at hfuel
    unfold edges
    refine iff_of_false List.not_mem_nil ?_
    rintro ⟨hij, hj⟩
    exact absurd (lt_of_lt_of_le hj hfuel) (not_lt_of_ge (hf.monotone hij))
  | fuel + 1, i, j, hfuel => by
    unfold edges
    split
    · rename_i hi'
      have hrest : i + 1 + (fuel : Int) = i + ((fuel + 1 : Nat) : Int) := by omega
      rw [List.mem_cons, hnext, mem_edges j (by rwa [hrest]), hf.injective.eq_iff]
      constructor
      · rintro (rfl | ⟨hle, hlt⟩)
        · exact ⟨Int.le_refl _, hi'⟩
        · exact ⟨by omega, hlt⟩
      · rintro ⟨hle, hlt⟩
        by_cases h : j = i
        · exact .inl h
        · exact .inr ⟨by omega, hlt⟩
    · rename_i hi'
      refine iff_of_false List.not_mem_nil ?_
      rintro ⟨hij, hj⟩
      exact hi' (lt_of_le_of_lt (hf.monotone hij) hj)

/-- The points are listed in order. -/
theorem sorted_edges {hi : T} : ∀ (fuel : Nat) (i : Int),
    (edges next hi fuel (f i)).Pairwise (· < ·)
  | 0, _ => List.Pairwise.nil
  | fuel + 1, i => by
    unfold edges
    split
    · rw [List.pairwise_cons, hnext]
      refine ⟨fun t ht => ?_, sorted_edges fuel (i + 1)⟩
      obtain ⟨j, hij, rfl⟩ := exists_of_mem_edges hnext ht
      exact hf (by omega)
    · exact List.Pairwise.nil

end Edges

/-- Only points before the end are listed. -/
theorem lt_of_mem_edges {next : T → T} {hi t : T} : ∀ {fuel : Nat} {s : T},
    t ∈ edges next hi fuel s → t < hi
  | 0, _, h => absurd h List.not_mem_nil
  | fuel + 1, s, h => by
    unfold edges at h
    split at h
    · rcases List.mem_cons.mp h with rfl | h
      · assumption
      · exact lt_of_mem_edges h
    · exact absurd h List.not_mem_nil

/-- Every point listed is followed by the next one. -/
theorem isChain_edges (next : T → T) (hi : T) : ∀ (fuel : Nat) (t : T),
    (edges next hi fuel t).IsChain fun a b => next a = b
  | 0, _ => .nil
  | fuel + 1, t => by
    unfold edges
    split
    · refine List.isChain_cons.mpr ⟨fun b hb => ?_, isChain_edges next hi fuel (next t)⟩
      cases fuel with
      | zero => exact absurd hb (by simp [edges])
      | succ fuel =>
        unfold edges at hb
        split at hb
        · exact Option.some.inj hb
        · exact absurd hb (by simp)
    · exact .nil

/-- The loop goes on to the end of the range. -/
theorem le_next_getLast {next : T → T} {f : Int → T} (hnext : ∀ k, next (f k) = f (k + 1)) {hi t : T} :
    ∀ {fuel : Nat} {i : Int}, hi ≤ f (i + fuel) →
      t ∈ (edges next hi fuel (f i)).getLast? → hi ≤ next t
  | 0, _, _, h => absurd h (by simp [edges])
  | fuel + 1, i, hfuel, h => by
    have hrest : i + 1 + (fuel : Int) = i + ((fuel + 1 : Nat) : Int) := by omega
    unfold edges at h
    split at h
    · rw [List.getLast?_cons, hnext] at h
      cases hlast : (edges next hi fuel (f (i + 1))).getLast? with
      | none =>
        rw [hlast] at h
        have ht : f i = t := Option.some.inj h
        rw [← ht, hnext]
        -- the loop stops after the first turn
        rw [List.getLast?_eq_none_iff] at hlast
        cases fuel with
        | zero => simpa using hfuel
        | succ fuel =>
          unfold edges at hlast
          split at hlast
          · exact absurd hlast (List.cons_ne_nil _ _)
          · exact not_lt.mp ‹_›
      | some u =>
        rw [hlast] at h
        rw [← Option.some.inj h]
        exact le_next_getLast hnext (hrest ▸ hfuel) hlast
    · exact absurd h (by simp)

/-- With integer points, one turn for every unit of the range is enough. -/
theorem le_add_toNat {f : Int → Int} (hf : StrictMono f) (i hi : Int) :
    hi ≤ f (i + (hi - f i).toNat) := by
  have hgrow : ∀ n : Nat, f i + n ≤ f (i + n) := by
    intro n
    induction n with
    | zero => simp
    | succ n ih =>
      have hstep : f (i + n) < f (i + (n + 1 : Nat)) := hf (by omega)
      omega
  have h := hgrow (hi - f i).toNat
  omega

/-- `start` rounds a time down to a point, and `next` is the point after a point. Times before 0
may be rounded up. -/
structure Grid (start next : Int → Int) where
  point : Int → Int
  index : Int → Int
  strictMono : StrictMono point
  mono : Monotone index
  start_eq : ∀ t, start t = point (index t)
  next_point : ∀ k, next (point k) = point (k + 1)
  start_le : ∀ t, 0 ≤ t → start t ≤ t
  start_zero : start 0 = 0

/-- The points of a range on a grid. -/
def range (start next : Int → Int) (lo hi : Int) : List Int :=
  edges next hi (hi - start lo).toNat (start lo)

namespace Grid

variable {start next : Int → Int} (g : Grid start next)
include g

theorem sorted_range (lo hi : Int) : (range start next lo hi).Pairwise (· < ·) := by
  unfold range
  rw [g.start_eq]
  exact sorted_edges g.strictMono g.next_point _ _

/-- **The bucket of a time within the range is one of the buckets of the range.** -/
theorem start_mem_range {lo hi t : Int} (h : lo ≤ t) :
    start t ∈ range start next lo hi ↔ start t < hi := by
  unfold range
  rw [g.start_eq lo, g.start_eq t,
    mem_edges g.strictMono g.next_point _ (le_add_toNat g.strictMono _ _)]
  exact and_iff_right (g.mono h)

omit g in
/-- The first bucket is the one of the start of the range. -/
theorem head_range {lo hi : Int} (h : start lo < hi) :
    (range start next lo hi).head? = some (start lo) := by
  unfold range
  obtain ⟨n, hn⟩ : ∃ n, (hi - start lo).toNat = n + 1 := ⟨(hi - start lo).toNat - 1, by omega⟩
  rw [hn, edges, if_pos h, List.head?_cons]

/-- The last bucket ends at the end of the range or after it. -/
theorem le_next_getLast_range {lo hi t : Int} (h : t ∈ (range start next lo hi).getLast?) :
    hi ≤ next t := by
  unfold range at h
  rw [g.start_eq] at h
  exact le_next_getLast g.next_point (le_add_toNat g.strictMono _ _) h

/-- Every point is its own start. -/
def Exact : Prop := ∀ k, g.index (g.point k) = k

/-- **The bucket of a point is the interval up to the next point.** -/
theorem start_eq_iff (hexact : g.Exact) {t : Int} (ht : 0 ≤ t) (k : Int) :
    start t = g.point k ↔ g.point k ≤ t ∧ t < next (g.point k) := by
  rw [g.next_point]
  have hle := g.start_le t ht
  have hlt : t < g.point (g.index t + 1) := by
    by_contra h
    have := g.mono (not_lt.mp h)
    rw [hexact] at this
    omega
  constructor
  · intro h
    have hk : g.index t = k := g.strictMono.injective ((g.start_eq t).symm.trans h)
    exact ⟨h ▸ hle, hk ▸ hlt⟩
  · rintro ⟨hk, hk'⟩
    rw [g.start_eq] at hle ⊢
    have hlow : k < g.index t + 1 := g.strictMono.lt_iff_lt.mp (lt_of_le_of_lt hk hlt)
    have hhigh : g.index t < k + 1 := g.strictMono.lt_iff_lt.mp (lt_of_le_of_lt hle hk')
    rw [show g.index t = k by omega]

end Grid

/-! ## A loop that can fail -/

/-- The loop of `edges` where `next` can fail: `none` when it does, or when the turns run out. -/
def turns (next : T → Option T) (hi : T) : Nat → T → Option (List T)
  | 0, _ => none
  | fuel + 1, t =>
    if t < hi then (next t).bind fun t' => (turns next hi fuel t').map (t :: ·) else some []

/-- **When the loop ends**: `next` leads from each point to the next one, and fails at the last. -/
theorem exists_turns_iff {next : T → Option T} {f : Int → T} (hf : StrictMono f) {i : Int}
    (last : Int) (hle : i ≤ last) (hnext : ∀ k, i ≤ k → k < last → next (f k) = some (f (k + 1)))
    (hlast : next (f last) = none) (hi : T) :
    (∃ fuel points, turns next hi fuel (f i) = some points) ↔ hi ≤ f last := by
  constructor
  · rintro ⟨fuel, points, h⟩
    induction fuel generalizing i points with
    | zero => exact absurd h (by simp [turns])
    | succ fuel ih =>
      unfold turns at h
      split at h
      · rcases Int.lt_or_eq_of_le hle with hlt | rfl
        · rw [hnext i (Int.le_refl i) hlt, Option.bind_some, Option.map_eq_some_iff] at h
          obtain ⟨rest, hrest, -⟩ := h
          exact ih (by omega) (fun k hk => hnext k (by omega)) rest hrest
        · rw [hlast] at h
          exact absurd h (by simp)
      · exact (not_lt.mp ‹_›).trans (hf.monotone hle)
  · intro h
    obtain ⟨n, hn⟩ : ∃ n : Nat, last = i + n := ⟨(last - i).toNat, by omega⟩
    clear hlast
    induction n generalizing i with
    | zero =>
      have hstop : ¬ f i < hi := not_lt.mpr (by rwa [hn, Int.natCast_zero, Int.add_zero] at h)
      exact ⟨1, [], by rw [turns, if_neg hstop]⟩
    | succ n ih =>
      by_cases hlt : f i < hi
      · obtain ⟨fuel, points, hpoints⟩ :=
          ih (i := i + 1) (by omega) (fun k hk => hnext k (by omega)) (by omega)
        refine ⟨fuel + 1, f i :: points, ?_⟩
        rw [turns, if_pos hlt, hnext i (Int.le_refl i) (by omega), Option.bind_some, hpoints,
          Option.map_some]
      · exact ⟨1, [], by rw [turns, if_neg hlt]⟩

/-! ## Adding amounts -/

section Amounts

variable {K A : Type _} [DecidableEq K] [AddCommMonoid A]

/-- Add an amount to the bucket of a point, if there is one. -/
def addTo (t : K) (a : A) (buckets : List (K × A)) : List (K × A) :=
  buckets.map fun b => if b.1 = t then (b.1, b.2 + a) else b

/-- The sum over the buckets. -/
def total (buckets : List (K × A)) : A := (buckets.map Prod.snd).sum

theorem map_fst_addTo (t : K) (a : A) (buckets : List (K × A)) :
    (addTo t a buckets).map Prod.fst = buckets.map Prod.fst := by
  unfold addTo
  rw [List.map_map]
  refine List.map_congr_left fun b _ => ?_
  simp only [Function.comp]
  split <;> rfl

theorem addTo_of_not_mem {t : K} (a : A) : ∀ {buckets : List (K × A)},
    t ∉ buckets.map Prod.fst → addTo t a buckets = buckets
  | [], _ => rfl
  | b :: bs, h => by
    rw [List.map_cons, List.mem_cons, not_or] at h
    have ih := addTo_of_not_mem a h.2
    unfold addTo at ih ⊢
    rw [List.map_cons, if_neg (Ne.symm h.1), ih]

theorem total_addTo {t : K} (a : A) : ∀ {buckets : List (K × A)},
    (buckets.map Prod.fst).Nodup → t ∈ buckets.map Prod.fst →
    total (addTo t a buckets) = total buckets + a
  | [], _, h => absurd h List.not_mem_nil
  | b :: bs, hn, h => by
    rw [List.map_cons, List.nodup_cons] at hn
    by_cases hb : b.1 = t
    · have hrest : addTo t a bs = bs := addTo_of_not_mem a (hb ▸ hn.1)
      unfold addTo at hrest
      unfold total addTo
      rw [List.map_cons, if_pos hb, hrest, List.map_cons, List.map_cons, List.sum_cons,
        List.sum_cons, add_right_comm]
    · have hmem : t ∈ bs.map Prod.fst := by
        rw [List.map_cons, List.mem_cons] at h
        rcases h with h | h
        · exact absurd h.symm hb
        · exact h
      have ih := total_addTo a hn.2 hmem
      unfold total addTo at ih ⊢
      rw [List.map_cons, if_neg hb, List.map_cons, List.map_cons, List.sum_cons, List.sum_cons, ih,
        add_assoc]

/-- **The buckets hold the amounts whose point is one of them.** -/
theorem total_foldl_addTo : ∀ (amounts : List (K × A)) {buckets : List (K × A)},
    (buckets.map Prod.fst).Nodup →
    total (amounts.foldl (fun bs e => addTo e.1 e.2 bs) buckets) =
      total buckets + total (amounts.filter (·.1 ∈ buckets.map Prod.fst))
  | [], _, _ => by simp [total]
  | e :: es, buckets, hn => by
    have hfst := map_fst_addTo e.1 e.2 buckets
    rw [List.foldl_cons, total_foldl_addTo es (hfst ▸ hn), hfst]
    by_cases h : e.1 ∈ buckets.map Prod.fst
    · rw [total_addTo e.2 hn h, List.filter_cons_of_pos (by simpa using h), total, total, total,
        List.map_cons, List.sum_cons, add_assoc]
    · rw [addTo_of_not_mem e.2 h, List.filter_cons_of_neg (by simpa using h)]

end Amounts

end Lib.Buckets
