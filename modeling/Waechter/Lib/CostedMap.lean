import Waechter.Lib.MapSum

/-!
# Hash maps whose entries have a cost

The entries of a map cost something, and a counter of machine words is to hold what all of them
cost. `evict` erases entries and takes their costs off the counter until it is down to a limit.

* `totalCost_insert`, `totalCost_erase`: what a write and an erasure do to the sum of the costs.
* `evict_spec`: eviction takes the same off the counter and off the sum, and stops at the limit or
  with an empty map, as long as the counter covers the sum.
-/

namespace Lib.UMap

variable {K V : Type} [DecidableEq K] (cost : V → Nat)

/-- What the entries cost together. -/
def totalCost (m : UMap K V) : Nat := sumOf (fun _ v => cost v) m

omit [DecidableEq K] in
@[simp] theorem totalCost_empty : totalCost cost (∅ : UMap K V) = 0 := rfl

theorem totalCost_erase (m : UMap K V) {k : K} {v : V} (h : m.lookup k = some v) :
    cost v + totalCost cost (m.erase k) = totalCost cost m :=
  sumOf_erase (fun _ v => cost v) m h

theorem totalCost_insert (m : UMap K V) {k : K} (h : m.lookup k = none) (v : V) :
    totalCost cost (m.insert k v) = cost v + totalCost cost m :=
  sumOf_insert_of_none (fun _ v => cost v) m h v

/-! ## Eviction -/

variable (order : IterOrder)

/-- Erase the first entry and take its cost off the counter, until that is at most `limit` or the
map is empty. -/
def evictUpTo (limit : UInt64) : Nat → UInt64 × UMap K V → UInt64 × UMap K V
  | 0, s => s
  | fuel + 1, (usage, m) =>
    if limit < usage then
      match order.entries m with
      | [] => (usage, m)
      | (k, v) :: _ => evictUpTo limit fuel (usage - UInt64.ofNat (cost v), m.erase k)
    else (usage, m)

/-- Every turn erases an entry, so there are at most as many as there are entries. -/
def evict (limit : UInt64) (usage : UInt64) (m : UMap K V) : UInt64 × UMap K V :=
  evictUpTo cost order limit m.entries.length (usage, m)

/-- No turn takes more off the counter than it holds. -/
def CoveredUpTo (limit : UInt64) : Nat → UInt64 × UMap K V → Prop
  | 0, _ => True
  | fuel + 1, (usage, m) =>
    if limit < usage then
      match order.entries m with
      | [] => True
      | (k, v) :: _ => cost v ≤ usage.toNat ∧
        CoveredUpTo limit fuel (usage - UInt64.ofNat (cost v), m.erase k)
    else True

/-- The eviction never underflows. -/
def Covered (limit : UInt64) (usage : UInt64) (m : UMap K V) : Prop :=
  CoveredUpTo cost order limit m.entries.length (usage, m)

/-- What eviction comes to. -/
structure Evicted (limit : UInt64) (usage : UInt64) (m : UMap K V) (s : UInt64 × UMap K V) :
    Prop where
  /-- Counter and sum lose the same. -/
  balance : s.1.toNat + totalCost cost m = usage.toNat + totalCost cost s.2
  /-- It stops at the limit, or has erased everything. -/
  stopped : s.1 ≤ limit ∨ s.2 = ∅
  erased : ∀ k, k ∈ s.2 → k ∈ m

variable {cost order}

theorem evictUpTo_spec (limit : UInt64) : ∀ (fuel : Nat) (usage : UInt64) (m : UMap K V),
    m.entries.length ≤ fuel → totalCost cost m ≤ usage.toNat →
      Evicted cost limit usage m (evictUpTo cost order limit fuel (usage, m)) ∧
        CoveredUpTo cost order limit fuel (usage, m)
  | 0, usage, m, hfuel, _ =>
    have hnil : m = ∅ := AList.ext (List.length_eq_zero_iff.mp (Nat.le_zero.mp hfuel))
    ⟨⟨rfl, .inr hnil, fun _ h => h⟩, trivial⟩
  | fuel + 1, usage, m, hfuel, hcover => by
    rw [evictUpTo, CoveredUpTo]
    by_cases hover : limit < usage
    · rw [if_pos hover, if_pos hover]
      cases hentries : order.entries m with
      | nil =>
        have hnil : m = ∅ := by
          refine AList.ext (List.length_eq_zero_iff.mp ?_)
          have := congrArg List.length hentries
          rwa [IterOrder.entries, (order.perm _).length_eq, List.length_map] at this
        exact ⟨⟨rfl, .inr hnil, fun _ h => h⟩, trivial⟩
      | cons e rest =>
        obtain ⟨k, v⟩ := e
        have hlookup : m.lookup k = some v := by
          refine order.lookup_of_mem_entries m (k, v) ?_
          rw [hentries]
          exact List.mem_cons_self
        have herase := totalCost_erase cost m hlookup
        have hcost : cost v < 2 ^ 64 := by
          have := usage.toNat_lt
          omega
        have husage : (usage - UInt64.ofNat (cost v)).toNat = usage.toNat - cost v := by
          have hof : (UInt64.ofNat (cost v)).toNat = cost v := UInt64.toNat_ofNat_of_lt' hcost
          rw [UInt64.toNat_sub_of_le, hof]
          rw [UInt64.le_iff_toNat_le, hof]
          omega
        have hlength : (m.erase k).entries.length ≤ fuel := by
          have := (perm_cons_erase m hlookup).length_eq
          rw [List.length_cons] at this
          omega
        obtain ⟨⟨hbalance, hstopped, hsub⟩, hcovered⟩ := evictUpTo_spec limit fuel
          (usage - UInt64.ofNat (cost v)) (m.erase k) hlength (by omega)
        refine ⟨⟨?_, hstopped, fun q hq => (AList.mem_erase.mp (hsub q hq)).2⟩, ?_, hcovered⟩
        · rw [husage] at hbalance
          dsimp only
          omega
        · omega
    · rw [if_neg hover, if_neg hover]
      exact ⟨⟨rfl, .inl (UInt64.not_lt.mp hover), fun _ h => h⟩, trivial⟩

variable (cost order) in
/-- **Eviction takes the same off the counter and off the sum**, when the counter covers the sum. -/
theorem evict_spec (limit usage : UInt64) (m : UMap K V)
    (hcover : totalCost cost m ≤ usage.toNat) :
    Evicted cost limit usage m (evict cost order limit usage m) ∧
      Covered cost order limit usage m :=
  evictUpTo_spec limit _ usage m (Nat.le_refl _) hcover

end Lib.UMap
