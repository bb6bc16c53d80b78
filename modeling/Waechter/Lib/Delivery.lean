import Mathlib.Data.List.Basic

/-!
# Delivering a log of records

A log collects records and is handed out, in order, as messages. `Delivers may f log out` says
that the messages `out` are the records of the log, each once and in recording order, each turned
into its message by `f`, and that only records that meet `may` are missing.

* `delivers_filter`: leaving out exactly the records that meet the test is such a delivery.
* `delivers_nil_iff`: handing out nothing is one exactly when every record may be left out.
-/

namespace Lib

variable {α β : Type}

/-- The messages deliver the log; only records that meet `may` are left out. -/
inductive Delivers (may : α → Prop) (f : α → β) : List α → List β → Prop
  | nil : Delivers may f [] []
  | keep (a : α) {log : List α} {out : List β} (h : Delivers may f log out) :
      Delivers may f (a :: log) (f a :: out)
  | drop (a : α) {log : List α} {out : List β} (ha : may a) (h : Delivers may f log out) :
      Delivers may f (a :: log) out

namespace Delivers

variable {may : α → Prop} {f : α → β}

/-- Leaving out exactly the records that meet a test. -/
theorem delivers_filter (test : α → Bool) (h : ∀ a, test a = true → may a) (log : List α) :
    Delivers may f log ((log.filter fun a => !test a).map f) := by
  induction log with
  | nil => exact .nil
  | cons a log ih =>
    by_cases ha : test a = true
    · rw [List.filter_cons_of_neg (by simp [ha])]
      exact .drop a (h a ha) ih
    · rw [List.filter_cons_of_pos (by simp [ha]), List.map_cons]
      exact .keep a ih

/-- **Nothing is delivered only when everything may be left out.** -/
theorem delivers_nil_iff (log : List α) :
    Delivers may f log [] ↔ ∀ a ∈ log, may a := by
  induction log with
  | nil => simp [Delivers.nil]
  | cons a log ih =>
    rw [List.forall_mem_cons, ← ih]
    constructor
    · rintro (_ | _ | ⟨_, ha, h⟩)
      exact ⟨ha, h⟩
    · rintro ⟨ha, h⟩
      exact .drop a ha h

end Delivers

end Lib
