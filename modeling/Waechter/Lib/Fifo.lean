import Mathlib.Algebra.BigOperators.Group.List.Basic
import Waechter.Lib.Run

/-!
# First in, first out

The content of a queue is a list. A step takes elements off its front and puts elements behind it:
the content with what is put is what is taken with the content afterwards.

* `collect_fifo`: over a run, what was there and what is put is what is taken, in that order,
  followed by what is left.
* `collect_sum`: a quantity to which every step adds what it hands over.
-/

namespace Lib

variable {σ : Type} {ο : Type _} {α : Type} {step : σ → ο → σ}

/-- What the operations of a run hand over, one after the other. -/
def collect (step : σ → ο → σ) (f : σ → ο → List α) : σ → List ο → List α
  | _, [] => []
  | s, o :: os => f s o ++ collect step f (step s o) os

@[simp] theorem collect_nil (f : σ → ο → List α) (s : σ) : collect step f s [] = [] := rfl

@[simp] theorem collect_cons (f : σ → ο → List α) (s : σ) (o : ο) (os : List ο) :
    collect step f s (o :: os) = f s o ++ collect step f (step s o) os := rfl

theorem collect_append (f : σ → ο → List α) : ∀ (os ps : List ο) (s : σ),
    collect step f s (os ++ ps) = collect step f s os ++ collect step f (run step s os) ps
  | [], _, _ => rfl
  | o :: os, ps, s => by
    rw [List.cons_append, collect_cons, collect_cons, collect_append f os, run_cons,
      List.append_assoc]

/-- **A queue over a run.** `I` is the invariant under which every step is one of a queue. -/
theorem collect_fifo {I : σ → Prop} {content : σ → List α} {taken put : σ → ο → List α}
    (hkeep : ∀ s o, I s → I (step s o))
    (hstep : ∀ s o, I s → content s ++ put s o = taken s o ++ content (step s o)) :
    ∀ (os : List ο) {s : σ}, I s →
      content s ++ collect step put s os = collect step taken s os ++ content (run step s os)
  | [], s, _ => by simp
  | o :: os, s, hs => by
    have hrest := collect_fifo hkeep hstep os (hkeep s o hs)
    calc content s ++ collect step put s (o :: os)
        = (content s ++ put s o) ++ collect step put (step s o) os := by
          rw [collect_cons, List.append_assoc]
      _ = taken s o ++ (content (step s o) ++ collect step put (step s o) os) := by
          rw [hstep s o hs, List.append_assoc]
      _ = collect step taken s (o :: os) ++ content (run step s (o :: os)) := by
          rw [hrest, collect_cons, List.append_assoc, run_cons]

/-- A quantity over a run. -/
theorem collect_sum {M : Type} [AddMonoid M] {quantity : σ → M} {added : σ → ο → List M}
    (hstep : ∀ s o, quantity (step s o) = quantity s + (added s o).sum) :
    ∀ (os : List ο) (s : σ),
      quantity (run step s os) = quantity s + (collect step added s os).sum
  | [], s => by rw [run_nil, collect_nil, List.sum_nil, add_zero]
  | o :: os, s => by
    rw [run_cons, collect_sum hstep os, hstep, collect_cons, List.sum_append, add_assoc]

end Lib
