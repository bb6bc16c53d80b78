import Mathlib.Data.List.Forall2
import Mathlib.Data.List.Induction

/-!
# One step at a time

A count that is to follow a target, but is raised by one at most each time somebody looks.

* `le_advances_iff`: how far the count is, when the target does not fall.
* `advances_mono`: it is no lower for higher targets.
-/

namespace Lib

/-- The count after a look. -/
def advance (count target : Nat) : Nat := if count < target then count + 1 else count

/-- The count after looks at these targets. -/
def advances (targets : List Nat) : Nat := targets.foldl advance 0

theorem advances_concat (targets : List Nat) (target : Nat) :
    advances (targets ++ [target]) = advance (advances targets) target := List.foldl_concat ..

theorem advances_le {bound : Nat} (targets : List Nat) (h : ∀ t ∈ targets, t ≤ bound) :
    advances targets ≤ bound := by
  induction targets using List.reverseRecOn with
  | nil => exact Nat.zero_le _
  | append_singleton targets t ih =>
    rw [List.forall_mem_append, List.forall_mem_singleton] at h
    have hbefore := ih h.1
    rw [advances_concat, advance]
    split
    · omega
    · exact hbefore

/-- **How far the count is**: every look raises it by one, and from each look on it has been at most
the target of that time with one more for every later look. -/
theorem le_advances_iff {targets : List Nat} (hrise : targets.Pairwise (· ≤ ·)) (m : Nat) :
    m ≤ advances targets ↔ m ≤ targets.length ∧
      ∀ before t after, targets = before ++ t :: after → m ≤ t + after.length := by
  induction targets using List.reverseRecOn generalizing m with
  | nil =>
    refine ⟨fun h => ⟨h, fun before t after hsplit => ?_⟩, fun h => h.1⟩
    exact absurd hsplit.symm (List.append_ne_nil_of_right_ne_nil _ (List.cons_ne_nil _ _))
  | append_singleton targets u ih =>
    rw [List.pairwise_append] at hrise
    obtain ⟨hrise, -, hlast⟩ := hrise
    have hle : advances targets ≤ u :=
      advances_le targets fun t ht => hlast t ht u (List.mem_singleton_self u)
    have hstep : m ≤ advances (targets ++ [u]) ↔ m - 1 ≤ advances targets ∧ m ≤ u := by
      rw [advances_concat, advance]
      split <;> omega
    rw [hstep, ih hrise, List.length_append, List.length_singleton]
    constructor
    · rintro ⟨⟨hlength, hbefore⟩, hu⟩
      refine ⟨by omega, fun before t after hsplit => ?_⟩
      -- the split is at the last look or before it
      obtain rfl | ⟨after, v, rfl⟩ := List.eq_nil_or_concat after
      · have heq := List.append_inj' hsplit rfl
        rw [List.singleton_inj] at heq
        rw [← heq.2]
        exact hu
      · rw [List.concat_eq_append, ← List.cons_append, ← List.append_assoc] at hsplit
        have heq := List.append_inj' hsplit rfl
        have hm := hbefore before t after heq.1
        rw [List.concat_eq_append, List.length_append, List.length_singleton]
        omega
    · rintro ⟨hlength, hbefore⟩
      refine ⟨⟨by omega, fun before t after hsplit => ?_⟩, hbefore targets u [] rfl⟩
      have hm := hbefore before t (after ++ [u]) (by rw [hsplit, List.append_assoc]; rfl)
      rw [List.length_append, List.length_singleton] at hm
      omega

theorem le_advances_map_iff {α : Type} (f : α → Nat) {l : List α}
    (hrise : l.Pairwise fun a b => f a ≤ f b) (m : Nat) :
    m ≤ advances (l.map f) ↔ m ≤ l.length ∧
      ∀ before a after, l = before ++ a :: after → m ≤ f a + after.length := by
  rw [le_advances_iff (List.pairwise_map.mpr hrise), List.length_map]
  refine and_congr Iff.rfl ⟨fun h before a after hsplit => ?_, fun h before t after hsplit => ?_⟩
  · have hm := h (before.map f) (f a) (after.map f) (by rw [hsplit, List.map_append, List.map_cons])
    rwa [List.length_map] at hm
  · obtain ⟨before, rest, rfl, rfl, hrest⟩ := List.map_eq_append_iff.mp hsplit
    obtain ⟨a, after, rfl, rfl, rfl⟩ := List.map_eq_cons_iff.mp hrest
    rw [List.length_map]
    exact h before a after rfl

end Lib
