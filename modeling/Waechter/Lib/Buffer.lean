import Mathlib.Data.List.Basic

/-!
# Programs that read a buffer

A `Reader` reads single bytes of a buffer, one index after the other, and ends with a result. It
only reads what its program asks for, so where it reads can be told from the program and the buffer.

* `Within`: on this buffer the program reads below `n` only, and its result meets a condition.
* `Within.bind`, `Within.loop`: the rules for one program after the other, and for a loop whose
  turns make a measure smaller.
-/

namespace Lib.Buffer

/-- A program that reads bytes. -/
inductive Reader (α : Type) where
  | done (a : α)
  | read (i : Nat) (k : UInt8 → Reader α)

namespace Reader

variable {α β σ : Type}

/-- One program after the other. -/
protected def bind (p : Reader α) (f : α → Reader β) : Reader β :=
  match p with
  | .done a => f a
  | .read i k => .read i fun x => (k x).bind f

instance : Monad Reader where
  pure := .done
  bind := Reader.bind

/-- `Buffer[i]`. -/
def byte (i : Nat) : Reader UInt8 := .read i .done

/-- The bytes from an offset on. -/
def bytes (offset : Nat) : Nat → Reader (List UInt8)
  | 0 => pure []
  | n + 1 => do
    let x ← byte offset
    let xs ← bytes (offset + 1) n
    return x :: xs

/-- A loop that ends with a result, in at most so many turns. -/
def loop (body : σ → Reader (σ ⊕ β)) : Nat → σ → Reader (Option β)
  | 0, _ => pure none
  | turns + 1, s => do
    match ← body s with
    | .inl s' => loop body turns s'
    | .inr b => return some b

/-- The result, if every byte that is read is there. -/
def run (buffer : List UInt8) : Reader α → Option α
  | .done a => some a
  | .read i k =>
    match buffer[i]? with
    | some x => (k x).run buffer
    | none => none

/-- Where it reads, up to the first index that is not there. -/
def reads (buffer : List UInt8) : Reader α → List Nat
  | .done _ => []
  | .read i k =>
    i :: match buffer[i]? with
      | some x => (k x).reads buffer
      | none => []

variable {buffer : List UInt8}

@[simp] theorem run_pure (a : α) : (pure a : Reader α).run buffer = some a := rfl

@[simp] theorem run_bind (p : Reader α) (f : α → Reader β) :
    (p >>= f).run buffer = (p.run buffer).bind fun a => (f a).run buffer := by
  change (p.bind f).run buffer = _
  induction p with
  | done a => rfl
  | read i k ih =>
    simp only [Reader.bind, run]
    split
    · exact ih _
    · rfl

@[simp] theorem run_map (f : α → β) (p : Reader α) :
    (f <$> p).run buffer = (p.run buffer).map f :=
  (run_bind p _).trans (Option.map_eq_bind).symm

@[simp] theorem run_byte (i : Nat) : (byte i).run buffer = buffer[i]? := by
  unfold byte run
  split
  · rename_i x hx
    rw [hx]
    rfl
  · rename_i hx
    exact hx.symm

/-- A byte counted from an offset. -/
theorem run_byte_add {offset i : Nat} {rest : List UInt8} (h : buffer.drop offset = rest) :
    (byte (offset + i)).run buffer = rest[i]? := by
  rw [run_byte, ← h, List.getElem?_drop]

/-- The bytes that are there. -/
theorem run_bytes {offset : Nat} : ∀ {n : Nat}, offset + n ≤ buffer.length →
    (bytes offset n).run buffer = some ((buffer.drop offset).take n)
  | 0, _ => by simp [bytes]
  | n + 1, h => by
    have hrest : (bytes (offset + 1) n).run buffer = _ := run_bytes (by omega)
    have hlt : offset < buffer.length := by omega
    rw [bytes, run_bind, run_byte, List.getElem?_eq_getElem hlt, Option.bind_some, run_bind, hrest,
      List.drop_eq_getElem_cons hlt, List.take_succ_cons]
    rfl

/-- What follows a block of the buffer. -/
theorem drop_add {offset n : Nat} {block rest : List UInt8}
    (h : buffer.drop offset = block ++ rest) (hn : block.length = n) :
    buffer.drop (offset + n) = rest := by
  rw [← List.drop_drop, h, ← hn, List.drop_left]

/-- The bytes at an offset, as a block of the buffer. -/
theorem run_bytes_append {offset n : Nat} {block rest : List UInt8}
    (h : buffer.drop offset = block ++ rest) (hn : block.length = n) :
    (bytes offset n).run buffer = some block := by
  have hlength := congrArg List.length h
  rw [List.length_drop, List.length_append] at hlength
  by_cases hle : offset + n ≤ buffer.length
  · rw [run_bytes hle, h, ← hn, List.take_left]
  · have hzero : n = 0 := by omega
    subst hzero
    rw [List.eq_nil_of_length_eq_zero hn]
    rfl

@[simp] theorem reads_bind (p : Reader α) (f : α → Reader β) :
    (p >>= f).reads buffer =
      p.reads buffer ++ ((p.run buffer).map fun a => (f a).reads buffer).getD [] := by
  change (p.bind f).reads buffer = _
  induction p with
  | done a => rfl
  | read i k ih =>
    simp only [Reader.bind, reads, run]
    split
    · rw [ih, List.cons_append]
    · rfl

/-! ## Where a program reads -/

/-- It reads below `n` only, and its result meets `Q`. -/
structure Within (buffer : List UInt8) (n : Nat) (p : Reader α) (Q : α → Prop) : Prop where
  reads_lt : ∀ i ∈ p.reads buffer, i < n
  result : ∃ a, p.run buffer = some a ∧ Q a

namespace Within

variable {n : Nat} {P Q : α → Prop} {p : Reader α}

theorem pure {a : α} (h : Q a) : Within buffer n (Pure.pure a) Q :=
  ⟨List.forall_mem_nil _, a, rfl, h⟩

theorem bind {f : α → Reader β} {R : β → Prop} (hp : Within buffer n p P)
    (hf : ∀ a, P a → Within buffer n (f a) R) : Within buffer n (p >>= f) R := by
  obtain ⟨hreads, a, ha, hP⟩ := hp
  obtain ⟨hreads', b, hb, hR⟩ := hf a hP
  refine ⟨?_, b, by rw [run_bind, ha, Option.bind_some, hb], hR⟩
  rw [reads_bind, ha]
  intro i hi
  rcases List.mem_append.mp hi with hi | hi
  · exact hreads i hi
  · exact hreads' i hi

theorem map {f : α → β} {R : β → Prop} (hp : Within buffer n p P) (hf : ∀ a, P a → R (f a)) :
    Within buffer n (f <$> p) R :=
  hp.bind fun a ha => .pure (hf a ha)

theorem byte {i : Nat} (hi : i < n) (hn : n ≤ buffer.length) :
    Within buffer n (byte i) fun _ => True := by
  have hx : buffer[i]? = some _ := List.getElem?_eq_getElem (Nat.lt_of_lt_of_le hi hn)
  refine ⟨?_, _, (run_byte i).trans hx, trivial⟩
  unfold Reader.byte reads
  rw [hx]
  exact List.forall_mem_singleton.mpr hi

theorem bytes (hn : n ≤ buffer.length) : ∀ {count offset : Nat}, offset + count ≤ n →
    Within buffer n (bytes offset count) fun _ => True
  | 0, _, _ => .pure trivial
  | count + 1, offset, h => by
    refine (byte (by omega) hn).bind fun x _ => ?_
    exact (bytes hn (by omega)).bind fun xs _ => .pure trivial

/-- A turn of a loop keeps the invariant and makes the measure smaller, or ends the loop. -/
def Turn (measure : σ → Nat) (I : σ → Prop) (R : β → Prop) (s : σ) : σ ⊕ β → Prop
  | .inl s' => I s' ∧ measure s' < measure s
  | .inr b => R b

/-- **A loop** whose turns keep an invariant and make a measure smaller ends in time. -/
theorem loop {body : σ → Reader (σ ⊕ β)} {measure : σ → Nat} {I : σ → Prop} {R : β → Prop}
    (hbody : ∀ s, I s → Within buffer n (body s) (Turn measure I R s)) :
    ∀ (turns : Nat) (s : σ), I s → measure s < turns →
      Within buffer n (loop body turns s) fun out => ∃ b, out = some b ∧ R b
  | 0, _, _, h => absurd h (Nat.not_lt_zero _)
  | turns + 1, s, hs, h => by
    refine (hbody s hs).bind fun out hout => ?_
    cases out with
    | inl s' => exact loop hbody turns s' hout.1 (Nat.lt_of_lt_of_le hout.2 (Nat.le_of_lt_succ h))
    | inr b => exact .pure ⟨b, rfl, hout⟩

end Within

end Reader

end Lib.Buffer
