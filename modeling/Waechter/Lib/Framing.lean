import Mathlib.Algebra.Group.Nat.Defs
import Mathlib.Data.List.Basic

/-!
# Length-prefixed frames

A `Codec` writes a length in a fixed number of symbols and reads it back below a bound. `frame` is
a payload behind its length, `pop` takes the first whole frame off a buffer, and `frames` all of
them with what is left over.

* `frames_append`: decoding can stop anywhere, what arrives later is put behind the rest.
* `frames_flatten`: whole frames give their payloads back, each once and in order.
* `frames_prefix`: of a stream that breaks off the first payloads come back, and nothing else.
-/

namespace Lib

variable {α : Type _}

/-- How a frame says how long it is. -/
structure Codec (α : Type _) where
  width : Nat
  header : Nat → List α
  read : List α → Nat
  bound : Nat
  width_pos : 0 < width
  header_length : ∀ n, (header n).length = width
  read_header : ∀ n < bound, read (header n) = n

namespace Codec

variable (c : Codec α)

/-- A payload behind its length. -/
def frame (p : List α) : List α := c.header p.length ++ p

/-- The first frame of a buffer, when all of it is there, and what follows it. -/
def pop (buf : List α) : Option (List α × List α) :=
  if c.width ≤ buf.length then
    let n := c.read (buf.take c.width)
    if buf.length < c.width + n then none
    else some ((buf.drop c.width).take n, buf.drop (c.width + n))
  else none

/-- The frames `pop` takes off a buffer, at most `fuel` many, and the rest. -/
def framesUpTo : Nat → List α → List (List α) × List α
  | 0, buf => ([], buf)
  | fuel + 1, buf =>
    match c.pop buf with
    | none => ([], buf)
    | some (f, rest) => (f :: (framesUpTo fuel rest).1, (framesUpTo fuel rest).2)

/-- All whole frames of a buffer, and the rest. -/
def frames (buf : List α) : List (List α) × List α := c.framesUpTo buf.length buf

variable {c}

theorem pop_eq_some_iff {buf f rest : List α} : c.pop buf = some (f, rest) ↔
    c.width + c.read (buf.take c.width) ≤ buf.length ∧
      f = (buf.drop c.width).take (c.read (buf.take c.width)) ∧
      rest = buf.drop (c.width + c.read (buf.take c.width)) := by
  unfold pop
  by_cases hw : c.width ≤ buf.length
  · by_cases hn : buf.length < c.width + c.read (buf.take c.width)
    · simp only [hw, if_true, hn, reduceCtorEq, false_iff]
      omega
    · simp only [hw, if_true, hn, if_false, Option.some.injEq, Prod.mk.injEq,
        eq_comm (b := f), eq_comm (b := rest), Nat.le_of_not_lt hn, true_and]
  · simp only [hw, if_false, reduceCtorEq, false_iff]
    omega

/-- A frame is not empty: popping one makes the buffer shorter. -/
theorem pop_shorter {buf f rest : List α} (h : c.pop buf = some (f, rest)) :
    rest.length < buf.length := by
  obtain ⟨hle, -, rfl⟩ := pop_eq_some_iff.mp h
  have := c.width_pos
  rw [List.length_drop]
  omega

/-- A frame that is there is not changed by what arrives behind it. -/
theorem pop_append {a f rest : List α} (h : c.pop a = some (f, rest)) (b : List α) :
    c.pop (a ++ b) = some (f, rest ++ b) := by
  obtain ⟨hle, rfl, rfl⟩ := pop_eq_some_iff.mp h
  have htake : (a ++ b).take c.width = a.take c.width :=
    List.take_append_of_le_length (by omega)
  rw [pop_eq_some_iff, htake]
  refine ⟨by rw [List.length_append]; omega, ?_, ?_⟩
  · rw [List.drop_append_of_le_length (by omega),
      List.take_append_of_le_length (by rw [List.length_drop]; omega)]
  · rw [List.drop_append_of_le_length hle]

theorem framesUpTo_enough : ∀ (n m : Nat) (buf : List α), buf.length ≤ n → buf.length ≤ m →
    c.framesUpTo n buf = c.framesUpTo m buf := by
  have hempty : ∀ n, c.framesUpTo n [] = ([], []) := by
    intro n
    have hnone : c.pop [] = none := by
      have := c.width_pos
      exact if_neg (by rw [List.length_nil]; omega)
    cases n with
    | zero => rfl
    | succ n => simp only [framesUpTo, hnone]
  intro n
  induction n with
  | zero =>
    intro m buf hn _
    rw [List.length_eq_zero_iff.mp (Nat.le_zero.mp hn), hempty, hempty]
  | succ n ih =>
    intro m buf hn hm
    cases m with
    | zero => rw [List.length_eq_zero_iff.mp (Nat.le_zero.mp hm), hempty, hempty]
    | succ m =>
      simp only [framesUpTo]
      cases hpop : c.pop buf with
      | none => rfl
      | some x =>
        obtain ⟨f, rest⟩ := x
        have := pop_shorter hpop
        simp only [ih m rest (by omega) (by omega)]

theorem frames_of_none {buf : List α} (h : c.pop buf = none) : c.frames buf = ([], buf) := by
  unfold frames
  cases hlen : buf.length with
  | zero => rfl
  | succ n => simp only [framesUpTo, h]

theorem frames_of_some {buf f rest : List α} (h : c.pop buf = some (f, rest)) :
    c.frames buf = (f :: (c.frames rest).1, (c.frames rest).2) := by
  have hlt := pop_shorter h
  unfold frames
  cases hlen : buf.length with
  | zero => omega
  | succ n =>
    simp only [framesUpTo, h]
    rw [framesUpTo_enough n rest.length rest (by omega) (Nat.le_refl _)]

/-- Decoding holds no state besides the rest: what arrives later is put behind it. -/
theorem frames_append (a b : List α) : c.frames (a ++ b) =
    ((c.frames a).1 ++ (c.frames ((c.frames a).2 ++ b)).1,
      (c.frames ((c.frames a).2 ++ b)).2) := by
  induction hn : a.length using Nat.strongRecOn generalizing a with
  | ind n ih =>
    cases hpop : c.pop a with
    | none => rw [frames_of_none hpop, List.nil_append]
    | some x =>
      obtain ⟨f, rest⟩ := x
      have hlt := pop_shorter hpop
      rw [frames_of_some (pop_append hpop b), frames_of_some hpop,
        ih rest.length (by omega) rest rfl]
      rfl

theorem pop_frame {p : List α} (h : p.length < c.bound) (b : List α) :
    c.pop (c.frame p ++ b) = some (p, b) := by
  have hw := c.header_length p.length
  have htake : (c.frame p ++ b).take c.width = c.header p.length := by
    rw [frame, List.append_assoc, List.take_append_of_le_length (by omega), ← hw,
      List.take_length]
  rw [pop_eq_some_iff, htake, c.read_header _ h]
  refine ⟨by simp only [frame, List.length_append]; omega, ?_, ?_⟩
  · rw [frame, List.append_assoc, ← hw, List.drop_left, List.take_left]
  · have hlen : (c.frame p).length = c.width + p.length := by
      rw [frame, List.length_append, hw]
    rw [← hlen, List.drop_left]

/-- **Whole frames give their payloads back**, and the decoder goes on behind them. -/
theorem frames_flatten (ps : List (List α)) (h : ∀ p ∈ ps, p.length < c.bound) (b : List α) :
    c.frames ((ps.map c.frame).flatten ++ b) = (ps ++ (c.frames b).1, (c.frames b).2) := by
  induction ps with
  | nil => rfl
  | cons p ps ih =>
    rw [List.forall_mem_cons] at h
    rw [List.map_cons, List.flatten_cons, List.append_assoc,
      frames_of_some (pop_frame h.1 _), ih h.2]
    rfl

/-- **Of a stream that breaks off** the first payloads come back, and nothing else. -/
theorem frames_prefix {ps : List (List α)} (h : ∀ p ∈ ps, p.length < c.bound) {part : List α}
    (hpart : part <+: (ps.map c.frame).flatten) : (c.frames part).1 <+: ps := by
  have hempty : c.frames [] = ([], []) := frames_of_none (if_neg (Nat.not_le.mpr c.width_pos))
  obtain ⟨missing, hwhole⟩ := hpart
  have hall := frames_flatten ps h []
  rw [List.append_nil, ← hwhole, frames_append, hempty, Prod.mk.injEq, List.append_nil] at hall
  exact ⟨_, hall.1⟩

end Codec

end Lib
