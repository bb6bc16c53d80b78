import Mathlib.Algebra.BigOperators.Group.List.Basic
import Waechter.Lib.UMap

/-!
# Sums over hash maps

What the entries of a hash map come to, in any commutative monoid, and what a write and an erasure
do to it.

* `sumOf_erase`, `sumOf_insert`: an erasure takes the entry's part away, a write adds the new one's.
* `sum_entries`, `sum_values`: a loop over the entries adds them up in any order.
-/

namespace Lib.UMap

variable {K V : Type} {M : Type _} [AddCommMonoid M]

/-- The sum of `f` over the entries. -/
def sumOf (f : K → V → M) (m : UMap K V) : M := (m.entries.map fun e => f e.1 e.2).sum

@[simp] theorem sumOf_empty (f : K → V → M) : sumOf f (∅ : UMap K V) = 0 := rfl

/-- A loop over the entries adds them up, whatever the order. -/
theorem sum_entries (order : IterOrder) (f : K → V → M) (m : UMap K V) :
    ((order.entries m).map fun e => f e.1 e.2).sum = sumOf f m := by
  rw [IterOrder.entries, ((order.perm _).map _).sum_eq, List.map_map]
  rfl

theorem sum_values (order : IterOrder) (f : V → M) (m : UMap K V) :
    ((order.values m).map f).sum = sumOf (fun _ v => f v) m := by
  rw [← sum_entries order, IterOrder.values, List.map_map]
  rfl

variable [DecidableEq K]

/-- Erasing a key takes its entry away. -/
theorem perm_cons_erase (m : UMap K V) {k : K} {v : V} (h : m.lookup k = some v) :
    m.entries.Perm (⟨k, v⟩ :: (m.erase k).entries) := by
  have hmem : (⟨k, v⟩ : Sigma fun _ : K => V) ∈ m.entries := AList.mem_lookup_iff.mp h
  obtain ⟨w, l₁, l₂, -, hentries, herase⟩ :=
    List.exists_of_kerase (List.mem_keys_of_mem hmem)
  have hw : w = v := by
    have hmem' : (⟨k, w⟩ : Sigma fun _ : K => V) ∈ m.entries := by
      rw [hentries]
      exact List.mem_append_right _ List.mem_cons_self
    exact List.NodupKeys.eq_of_mk_mem m.nodupKeys hmem' hmem
  change m.entries.Perm (⟨k, v⟩ :: m.entries.kerase k)
  rw [herase, hentries, hw]
  exact List.perm_middle

theorem sumOf_erase (f : K → V → M) (m : UMap K V) {k : K} {v : V} (h : m.lookup k = some v) :
    f k v + sumOf f (m.erase k) = sumOf f m := by
  rw [sumOf, sumOf, ((perm_cons_erase m h).map _).sum_eq, List.map_cons, List.sum_cons]

theorem erase_of_lookup_none (m : UMap K V) {k : K} (h : m.lookup k = none) : m.erase k = m :=
  AList.ext (List.kerase_of_notMem_keys (AList.lookup_eq_none.mp h))

/-- A write adds the part of the new entry to what the other keys come to. -/
theorem sumOf_insert (f : K → V → M) (m : UMap K V) (k : K) (v : V) :
    sumOf f (m.insert k v) = f k v + sumOf f (m.erase k) := by
  have hentries : (m.insert k v).entries = ⟨k, v⟩ :: (m.erase k).entries := rfl
  rw [sumOf, sumOf, hentries, List.map_cons, List.sum_cons]

theorem sumOf_insert_of_none (f : K → V → M) (m : UMap K V) {k : K} (h : m.lookup k = none)
    (v : V) :
    sumOf f (m.insert k v) = f k v + sumOf f m := by
  rw [sumOf_insert, erase_of_lookup_none m h]

/-- A write that adds an amount to the part of its key adds it to the sum. -/
theorem sumOf_insert_add (f : K → V → M) (m : UMap K V) {k : K} {v w : V} (h : m.lookup k = some v)
    (amount : M) (hw : f k w = f k v + amount) : sumOf f (m.insert k w) = sumOf f m + amount := by
  rw [sumOf_insert, hw, ← sumOf_erase f m h, add_right_comm]

end Lib.UMap
