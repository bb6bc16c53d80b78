import Mathlib.Data.List.Basic
import Mathlib.Logic.Function.Basic

/-!
# Writing a list of entries

`writes` writes the entries of a list into a function one after the other; the last entry of a key
stays.

* `writes_of_notMem`: a key without an entry keeps its value.
* `writes_of_mem`: a key whose entries all have one value gets that value.
-/

namespace Lib

variable {K V : Type} [DecidableEq K]

/-- Write the entries in order. -/
def writes (entries : List (K × V)) (f : K → V) : K → V :=
  entries.foldl (fun f e => Function.update f e.1 e.2) f

theorem writes_cons (e : K × V) (entries : List (K × V)) (f : K → V) :
    writes (e :: entries) f = writes entries (Function.update f e.1 e.2) := rfl

theorem writes_append (entries entries' : List (K × V)) (f : K → V) :
    writes (entries ++ entries') f = writes entries' (writes entries f) := List.foldl_append

/-- What is under a key depends on what was there and nowhere else. -/
theorem writes_congr : ∀ (entries : List (K × V)) {f g : K → V} {k : K}, f k = g k →
    writes entries f k = writes entries g k
  | [], _, _, _, h => h
  | e :: entries, f, g, k, h => by
    refine writes_congr entries ?_
    simp only [Function.update_apply, h]

theorem writes_of_notMem : ∀ (entries : List (K × V)) (f : K → V) {k : K},
    (∀ e ∈ entries, e.1 ≠ k) → writes entries f k = f k
  | [], _, _, _ => rfl
  | e :: entries, f, k, h => by
    rw [List.forall_mem_cons] at h
    rw [writes_cons, writes_of_notMem entries _ h.2, Function.update_of_ne (Ne.symm h.1)]

/-- **The entries of a key that all agree.** -/
theorem writes_of_mem : ∀ (entries : List (K × V)) (f : K → V) {k : K} {v : V},
    (∃ e ∈ entries, e.1 = k) → (∀ e ∈ entries, e.1 = k → e.2 = v) → writes entries f k = v
  | [], _, _, _, h, _ => absurd h (by simp)
  | e :: entries, f, k, v, h, hv => by
    rw [List.forall_mem_cons] at hv
    by_cases hrest : ∃ e ∈ entries, e.1 = k
    · exact writes_of_mem entries _ hrest hv.2
    · have he : e.1 = k := by
        rw [List.exists_mem_cons_iff] at h
        exact h.resolve_right hrest
      rw [writes_cons, writes_of_notMem entries _ fun e he hk => hrest ⟨e, he, hk⟩, he,
        Function.update_self]
      exact hv.1 he

end Lib
