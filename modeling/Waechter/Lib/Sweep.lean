import Mathlib.Logic.Function.Iterate

/-!
# Loops over an iterator

A loop over the entries of a container whose body says in every turn whether the iterator moves on,
and may stay where it is. `rest` is the entry the iterator is at with those behind it.

The rules are for a body that stays at most once: staying makes the entry settled, and the body
moves on from a settled entry.

* `exists_turns_passed`: the iterator leaves every entry, after one turn or two.
* `exists_ends`, `exists_visits`: the loop ends after at most two turns for each entry, and comes to
  every entry.
* `exists_ends_eq_foldl`: when the two turns at an entry do what a function does, the loop is a fold.
-/

namespace Lib

/-- Where a loop is: the entries that it has not left, its turns so far, and the state. -/
structure Sweep (ε σ : Type) where
  rest : List ε
  turns : Nat := 0
  state : σ

namespace Sweep

variable {ε σ : Type} (body : Nat → ε → σ → Bool × σ)

/-- One turn. The body gets the number of the turn. -/
def turn (w : Sweep ε σ) : Sweep ε σ :=
  match w.rest with
  | [] => w
  | e :: rest =>
    let out := body w.turns e w.state
    { rest := if out.1 then rest else e :: rest, turns := w.turns + 1, state := out.2 }

/-- The loop after so many turns. -/
def after (n : Nat) (w : Sweep ε σ) : Sweep ε σ := (turn body)^[n] w

variable {body}

@[simp] theorem after_zero (w : Sweep ε σ) : after body 0 w = w := rfl

theorem after_succ (n : Nat) (w : Sweep ε σ) : after body (n + 1) w = after body n (turn body w) :=
  Function.iterate_succ_apply _ _ _

theorem after_add (m n : Nat) (w : Sweep ε σ) :
    after body (m + n) w = after body m (after body n w) :=
  Function.iterate_add_apply _ _ _ _

/-- What a turn keeps holds after every turn. -/
theorem after_of_turn {I : List ε → σ → Prop}
    (hturn : ∀ k e rest s, I (e :: rest) s →
      I (if (body k e s).1 then rest else e :: rest) (body k e s).2) :
    ∀ (n : Nat) {w : Sweep ε σ}, I w.rest w.state → I (after body n w).rest (after body n w).state
  | 0, _, h => h
  | n + 1, w, h => by
    rw [after_succ]
    refine after_of_turn hturn n ?_
    obtain ⟨rest, turns, state⟩ := w
    cases rest with
    | nil => exact h
    | cons e rest => exact hturn turns e rest state h

variable {Settled : ε → σ → Prop}

/-- The iterator leaves the entry it is at, after one turn or two. -/
theorem exists_turns_passed (hstay : ∀ k e s, (body k e s).1 = false → Settled e (body k e s).2)
    (hmove : ∀ k e s, Settled e s → (body k e s).1 = true) {e : ε} {rest : List ε}
    {w : Sweep ε σ} (hw : w.rest = e :: rest) : ∃ n ≤ 2, (after body n w).rest = rest := by
  obtain ⟨_, turns, state⟩ := w
  obtain rfl : _ = e :: rest := hw
  cases hout : (body turns e state).1 with
  | true =>
    refine ⟨1, by decide, ?_⟩
    show (if (body turns e state).1 then rest else e :: rest) = rest
    rw [hout, if_pos rfl]
  | false =>
    have hnext := hmove (turns + 1) e _ (hstay turns e state hout)
    have hfirst : turn body ⟨e :: rest, turns, state⟩ =
        ⟨e :: rest, turns + 1, (body turns e state).2⟩ := by
      unfold turn
      simp only [hout, Bool.false_eq_true, if_false]
    refine ⟨2, Nat.le_refl _, ?_⟩
    rw [after_succ, hfirst]
    show (if (body (turns + 1) e (body turns e state).2).1 then rest else e :: rest) = rest
    rw [hnext, if_pos rfl]

/-- **The loop ends**, after at most two turns for each entry. -/
theorem exists_ends (hstay : ∀ k e s, (body k e s).1 = false → Settled e (body k e s).2)
    (hmove : ∀ k e s, Settled e s → (body k e s).1 = true) :
    ∀ {l : List ε} {w : Sweep ε σ}, w.rest = l →
      ∃ n ≤ 2 * l.length, (after body n w).rest = []
  | [], _, hw => ⟨0, Nat.le_refl _, hw⟩
  | e :: rest, w, hw => by
    obtain ⟨m, hm, hrest⟩ := exists_turns_passed hstay hmove hw
    obtain ⟨n, hn, hend⟩ := exists_ends hstay hmove hrest
    refine ⟨n + m, ?_, (congrArg Sweep.rest (after_add n m w)).trans hend⟩
    rw [List.length_cons]
    omega

/-- **The loop comes to every entry.** -/
theorem exists_visits (hstay : ∀ k e s, (body k e s).1 = false → Settled e (body k e s).2)
    (hmove : ∀ k e s, Settled e s → (body k e s).1 = true) :
    ∀ {l : List ε} {w : Sweep ε σ}, w.rest = l →
      ∀ e ∈ l, ∃ n, (after body n w).rest.head? = some e
  | [], _, _, _, h => absurd h List.not_mem_nil
  | e' :: rest, w, hw, e, h => by
    rcases List.mem_cons.mp h with rfl | h
    · exact ⟨0, congrArg List.head? hw⟩
    · obtain ⟨m, -, hrest⟩ := exists_turns_passed hstay hmove hw
      obtain ⟨n, hn⟩ := exists_visits hstay hmove hrest e h
      exact ⟨n + m, (congrArg (fun v => v.rest.head?) (after_add n m w)).trans hn⟩

/-- **A loop that is a fold**: the turn that moves on from an entry, or the second one at it, ends
as the function does. -/
theorem exists_ends_eq_foldl {f : σ → ε → σ}
    (hmove : ∀ k e s, (body k e s).1 = true → (body k e s).2 = f s e)
    (hstay : ∀ k e s, (body k e s).1 = false → ∀ k', body k' e (body k e s).2 = (true, f s e)) :
    ∀ {l : List ε} {w : Sweep ε σ}, w.rest = l →
      ∃ n, (after body n w).rest = [] ∧ (after body n w).state = l.foldl f w.state
  | [], w, hw => ⟨0, hw, rfl⟩
  | e :: rest, w, hw => by
    obtain ⟨_, turns, state⟩ := w
    obtain rfl : _ = e :: rest := hw
    have hpass : ∃ m, (after body m ⟨e :: rest, turns, state⟩).rest = rest ∧
        (after body m ⟨e :: rest, turns, state⟩).state = f state e := by
      cases hout : (body turns e state).1 with
      | true =>
        refine ⟨1, ?_, hmove turns e state hout⟩
        show (if (body turns e state).1 then rest else e :: rest) = rest
        rw [hout, if_pos rfl]
      | false =>
        have hnext := hstay turns e state hout (turns + 1)
        have hfirst : turn body ⟨e :: rest, turns, state⟩ =
            ⟨e :: rest, turns + 1, (body turns e state).2⟩ := by
          unfold turn
          simp only [hout, Bool.false_eq_true, if_false]
        have hsecond : after body 2 ⟨e :: rest, turns, state⟩ = ⟨rest, turns + 2, f state e⟩ := by
          rw [after_succ, hfirst]
          show turn body ⟨e :: rest, turns + 1, (body turns e state).2⟩ = _
          unfold turn
          simp only [hnext, if_true]
        exact ⟨2, congrArg Sweep.rest hsecond, congrArg Sweep.state hsecond⟩
    obtain ⟨m, hrest, hstate⟩ := hpass
    obtain ⟨n, hend, hfold⟩ := exists_ends_eq_foldl hmove hstay hrest
    refine ⟨n + m, ?_, ?_⟩
    · rw [after_add]
      exact hend
    · rw [after_add, hfold, hstate, List.foldl_cons]

end Sweep

end Lib
