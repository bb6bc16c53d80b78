/-!
# Runs of a step function

A system is a state, a step function and the list of operations it performs. `Always` says that a
property holds in every state of a run, `AllSteps` that every step of it meets a condition on the
state before the step and on the operation.

* `always_of_step`: an invariant that every step preserves holds throughout a run.
* `always_iff_allSteps`: when the steps that meet the condition keep the invariant, and a step
  that breaks the condition breaks the property at once, the property holds throughout a run
  exactly when every step meets the condition.
-/

namespace Lib

variable {σ : Type} {ο : Type _} (step : σ → ο → σ)

/-- The state after a list of operations. -/
def run (s : σ) (ops : List ο) : σ := ops.foldl step s

/-- `P` holds in every state of the run, the first and the last included. -/
def Always (P : σ → Prop) : σ → List ο → Prop
  | s, [] => P s
  | s, o :: os => P s ∧ Always P (step s o) os

/-- Every step of the run meets `G`. -/
def AllSteps (G : σ → ο → Prop) : σ → List ο → Prop
  | _, [] => True
  | s, o :: os => G s o ∧ AllSteps G (step s o) os

instance AllSteps.decide (G : σ → ο → Prop) [∀ s o, Decidable (G s o)] :
    (s : σ) → (ops : List ο) → Decidable (AllSteps step G s ops)
  | _, [] => inferInstanceAs (Decidable True)
  | s, o :: os =>
    have := AllSteps.decide G (step s o) os
    inferInstanceAs (Decidable (G s o ∧ AllSteps step G (step s o) os))

variable {step}

theorem AllSteps.mono {G G' : σ → ο → Prop} (hG : ∀ s o, G s o → G' s o) :
    ∀ {os : List ο} {s : σ}, AllSteps step G s os → AllSteps step G' s os
  | [], _, _ => trivial
  | _ :: _, _, h => ⟨hG _ _ h.1, h.2.mono hG⟩

theorem AllSteps.and {G G' : σ → ο → Prop} :
    ∀ {os : List ο} {s : σ}, AllSteps step G s os → AllSteps step G' s os →
      AllSteps step (fun s o => G s o ∧ G' s o) s os
  | [], _, _, _ => trivial
  | _ :: _, _, h, h' => ⟨⟨h.1, h'.1⟩, h.2.and h'.2⟩

/-- The last step of a run meets what all of them do. -/
theorem AllSteps.last {G : σ → ο → Prop} {o : ο} :
    ∀ {os : List ο} {s : σ}, AllSteps step G s (os ++ [o]) → G (run step s os) o
  | [], _, h => h.1
  | _ :: _, _, h => h.2.last

/-- The steps of a run and one more. -/
theorem allSteps_concat {G : σ → ο → Prop} {o : ο} : ∀ {os : List ο} {s : σ},
    AllSteps step G s (os ++ [o]) ↔ AllSteps step G s os ∧ G (run step s os) o
  | [], _ => ⟨fun h => ⟨trivial, h.1⟩, fun h => ⟨h.2, trivial⟩⟩
  | _ :: _, _ => (and_congr_right fun _ => allSteps_concat).trans and_assoc.symm

@[simp] theorem run_nil (s : σ) : run step s [] = s := rfl

@[simp] theorem run_cons (s : σ) (o : ο) (os : List ο) :
    run step s (o :: os) = run step (step s o) os := rfl

theorem run_append (s : σ) (os ps : List ο) :
    run step s (os ++ ps) = run step (run step s os) ps := List.foldl_append

theorem run_concat (s : σ) (os : List ο) (o : ο) :
    run step s (os ++ [o]) = step (run step s os) o := by
  rw [run_append]
  rfl

/-- An invariant holds after a run. -/
theorem run_of_step {I : σ → Prop} (hstep : ∀ s o, I s → I (step s o)) :
    ∀ (os : List ο) {s : σ}, I s → I (run step s os)
  | [], _, h => h
  | _ :: os, _, h => run_of_step hstep os (hstep _ _ h)

/-- An invariant holds after a run whose steps all meet `G`. -/
theorem run_of_allSteps {I : σ → Prop} {G : σ → ο → Prop}
    (hstep : ∀ s o, I s → G s o → I (step s o)) :
    ∀ (os : List ο) {s : σ}, I s → AllSteps step G s os → I (run step s os)
  | [], _, h, _ => h
  | _ :: os, _, h, hG => run_of_allSteps hstep os (hstep _ _ h hG.1) hG.2

/-- An invariant holds after a run whose operations all meet `G`. -/
theorem run_of_forall {I : σ → Prop} {G : ο → Prop} (hstep : ∀ s o, I s → G o → I (step s o)) :
    ∀ (os : List ο) {s : σ}, I s → (∀ o ∈ os, G o) → I (run step s os)
  | [], _, h, _ => h
  | o :: os, _, h, hG => run_of_forall hstep os (hstep _ _ h (hG o (List.mem_cons_self ..)))
      fun p hp => hG p (List.mem_cons_of_mem o hp)

theorem Always.head {P : σ → Prop} {s : σ} {os : List ο} (h : Always step P s os) : P s := by
  cases os with
  | nil => exact h
  | cons o os => exact h.1

/-- **A part of the state.** When the operations that are not about a part leave it alone, the part
runs on its own, through the operations that are about it. -/
theorem run_view {τ : Type} {ο' : Type _} {view : σ → τ} {mine : ο → Option ο'}
    {step' : τ → ο' → τ}
    (hstep : ∀ s o, view (step s o) = (mine o).elim (view s) (step' (view s))) :
    ∀ (os : List ο) (s : σ), view (run step s os) = run step' (view s) (os.filterMap mine)
  | [], _ => rfl
  | o :: os, s => by
    rw [run_cons, run_view hstep os, hstep, List.filterMap_cons]
    cases mine o with
    | none => rfl
    | some o' => rfl

/-- What always holds holds in the end. -/
theorem Always.last {P : σ → Prop} {os : List ο} {s : σ} (h : Always step P s os) :
    P (run step s os) := by
  induction os generalizing s with
  | nil => exact h
  | cons o os ih => exact ih h.2

/-- An invariant that implies `P`, in a run whose steps all meet `G`. -/
theorem always_of_allSteps {I P : σ → Prop} {G : σ → ο → Prop} (hP : ∀ s, I s → P s)
    (hstep : ∀ s o, I s → G s o → I (step s o)) :
    ∀ (os : List ο) {s : σ}, I s → AllSteps step G s os → Always step P s os
  | [], _, h, _ => hP _ h
  | _ :: os, _, h, hG => ⟨hP _ h, always_of_allSteps hP hstep os (hstep _ _ h hG.1) hG.2⟩

/-- An invariant that every step preserves holds throughout a run. -/
theorem always_of_step {I P : σ → Prop} (hP : ∀ s, I s → P s) (hstep : ∀ s o, I s → I (step s o)) :
    ∀ (os : List ο) {s : σ}, I s → Always step P s os
  | [], _, h => hP _ h
  | _ :: os, _, h => ⟨hP _ h, always_of_step hP hstep os (hstep _ _ h)⟩

/-- Every step out of an invariant meets `G`. -/
theorem allSteps_of_step {I : σ → Prop} {G : σ → ο → Prop}
    (hstep : ∀ s o, I s → G s o ∧ I (step s o)) :
    ∀ (os : List ο) {s : σ}, I s → AllSteps step G s os
  | [], _, _ => trivial
  | _ :: os, _, h => ⟨(hstep _ _ h).1, allSteps_of_step hstep os (hstep _ _ h).2⟩

/-- In a run whose steps all meet `G` every step out of the invariant meets `R`. -/
theorem AllSteps.imp {I : σ → Prop} {G R : σ → ο → Prop}
    (hkeep : ∀ s o, I s → G s o → I (step s o)) (hR : ∀ s o, I s → G s o → R s o) :
    ∀ {os : List ο} {s : σ}, I s → AllSteps step G s os → AllSteps step R s os
  | [], _, _, _ => trivial
  | _ :: _, _, hI, h => ⟨hR _ _ hI h.1, h.2.imp hkeep hR (hkeep _ _ hI h.1)⟩

/-- **The exact condition for a property to hold throughout a run.** `I` is the invariant of the
runs whose steps meet `G`; a step out of such a state that does not meet `G` breaks `P`. -/
theorem always_iff_allSteps {I P : σ → Prop} {G : σ → ο → Prop} (hP : ∀ s, I s → P s)
    (hkeep : ∀ s o, I s → G s o → I (step s o))
    (hbreak : ∀ s o, I s → P (step s o) → G s o) :
    ∀ (os : List ο) {s : σ}, I s → (Always step P s os ↔ AllSteps step G s os)
  | [], s, h => by simp only [Always, AllSteps, hP s h]
  | o :: os, s, h => by
    simp only [Always, AllSteps]
    constructor
    · rintro ⟨_, hrest⟩
      have hG := hbreak s o h hrest.head
      exact ⟨hG, (always_iff_allSteps hP hkeep hbreak os (hkeep s o h hG)).mp hrest⟩
    · rintro ⟨hG, hrest⟩
      exact ⟨hP s h, (always_iff_allSteps hP hkeep hbreak os (hkeep s o h hG)).mpr hrest⟩

end Lib
