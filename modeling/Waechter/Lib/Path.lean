import Mathlib.Logic.Relation

/-!
# Paths of guarded actions

A large operation is a sequence of small actions. `Path perform P s s'` says that a state is reached
from another one by actions that the guard `P` allows in the states they are taken in, so what an
operation can do is said once, as a path, and an invariant of the actions is one of the operation.

* `Path.foldl`, `Path.foldl_proj`: a loop is a path when its turns are.
* `Path.keeps`: what every allowed action keeps holds at the end.
* `foldl_turn`: what one turn of a loop establishes and the later ones keep.
-/

namespace Lib

open Relation

variable {σ α β γ : Type _} (perform : σ → α → σ)

/-- One action that the guard allows. -/
def Takes (P : σ → α → Prop) (s s' : σ) : Prop := ∃ a, P s a ∧ s' = perform s a

/-- A sequence of actions that the guard allows. -/
abbrev Path (P : σ → α → Prop) : σ → σ → Prop := ReflTransGen (Takes perform P)

namespace Path

variable {perform} {P Q : σ → α → Prop} {s s' : σ}

theorem single {a : α} (ha : P s a) : Path perform P s (perform s a) :=
  ReflTransGen.single ⟨a, ha, rfl⟩

theorem mono (hPQ : ∀ s a, P s a → Q s a) (h : Path perform P s s') : Path perform Q s s' :=
  ReflTransGen.mono (fun _ _ ⟨a, ha, he⟩ => ⟨a, hPQ _ a ha, he⟩) _ _ h

/-- A loop over a list. -/
theorem foldl {body : σ → β → σ} : ∀ (l : List β) {s : σ},
    (∀ s e, e ∈ l → Path perform P s (body s e)) → Path perform P s (l.foldl body s)
  | [], _, _ => ReflTransGen.refl
  | e :: l, s, hbody => (hbody s e List.mem_cons_self).trans
      (foldl l fun s e he => hbody s e (List.mem_cons_of_mem _ he))

/-- A loop that carries more than the state. -/
theorem foldl_proj (get : γ → σ) {body : γ → β → γ} : ∀ (l : List β) {c : γ},
    (∀ c e, e ∈ l → Path perform P (get c) (get (body c e))) →
      Path perform P (get c) (get (l.foldl body c))
  | [], _, _ => ReflTransGen.refl
  | e :: l, c, hbody => (hbody c e List.mem_cons_self).trans
      (foldl_proj get l fun c e he => hbody c e (List.mem_cons_of_mem _ he))

/-- **An invariant of the actions is one of the path.** -/
theorem keeps {I : σ → Prop} (hI : ∀ s a, I s → P s a → I (perform s a))
    (h : Path perform P s s') (hs : I s) : I s' := by
  induction h with
  | refl => exact hs
  | tail _ hstep ih =>
    obtain ⟨a, ha, rfl⟩ := hstep
    exact hI _ a ih ha

end Path

/-- What the turn of one entry establishes and the other turns keep holds after the loop. `P` is
what the turn of the entry needs. -/
theorem foldl_turn {P Q : σ → Prop} {body : σ → β → σ} {e : β} (hturn : ∀ s, P s → Q (body s e)) :
    ∀ (l : List β) {s : σ}, e ∈ l → (∀ s e, e ∈ l → P s → P (body s e)) →
      (∀ s e, e ∈ l → Q s → Q (body s e)) → P s → Q (l.foldl body s)
  | [], _, he, _, _, _ => absurd he List.not_mem_nil
  | x :: l, s, he, hP, hQ, hs => by
    have hP' := fun s e he => hP s e (List.mem_cons_of_mem x he)
    have hQ' := fun s e he => hQ s e (List.mem_cons_of_mem x he)
    rcases List.mem_cons.mp he with rfl | he
    · have hkeep : ∀ (l : List β) {s : σ}, (∀ s e, e ∈ l → Q s → Q (body s e)) → Q s →
          Q (l.foldl body s) := by
        intro l
        induction l with
        | nil => exact fun _ h => h
        | cons y l ih =>
          exact fun hl h => ih (fun s e he => hl s e (List.mem_cons_of_mem y he))
            (hl _ y List.mem_cons_self h)
      exact hkeep l hQ' (hturn s hs)
    · exact foldl_turn hturn l he hP' hQ' (hP s x List.mem_cons_self hs)

end Lib
