import Waechter.Lib.Window

/-!
# A window that is written in a circle

A list grows up to a capacity; from then on every record overwrites the oldest one, whose index is
the offset. `content` is what it holds with the oldest record in front.

* `content_push`: the content is a window of the last records.
* `filter_sorted_iff`: the records that meet a test, as they are stored, are in order exactly when
  none of those that were written last belongs before one of the others.
-/

namespace Lib

variable {α : Type}

/-- A list with the index of its oldest record. -/
structure Circular (α : Type) where
  capacity : Nat
  offset : Nat := 0
  data : List α := []
  pos : 0 < capacity
  length_le : data.length ≤ capacity
  offset_lt : offset < capacity
  offset_eq : data.length < capacity → offset = 0

namespace Circular

/-- Append a record, or overwrite the oldest one. -/
def push (r : Circular α) (a : α) : Circular α :=
  if h : r.data.length < r.capacity then
    { r with
      data := r.data ++ [a]
      length_le := by
        rw [List.length_append, List.length_singleton]
        exact h
      offset_eq := fun _ => r.offset_eq h }
  else
    { r with
      offset := (r.offset + 1) % r.capacity
      data := r.data.set r.offset a
      length_le := by
        rw [List.length_set]
        exact r.length_le
      offset_lt := Nat.mod_lt _ r.pos
      offset_eq := fun hlt => absurd (List.length_set ▸ hlt) h }

/-- The records that were written since the list started over. -/
def newest (r : Circular α) : List α := r.data.take r.offset

/-- The records that were written before that. -/
def oldest (r : Circular α) : List α := r.data.drop r.offset

/-- The records with the oldest one in front. -/
def content (r : Circular α) : List α := r.oldest ++ r.newest

theorem data_eq (r : Circular α) : r.data = r.newest ++ r.oldest :=
  (List.take_append_drop r.offset r.data).symm

theorem content_perm (r : Circular α) : r.content.Perm r.data :=
  r.data_eq ▸ List.perm_append_comm

theorem length_content (r : Circular α) : r.content.length = r.data.length :=
  r.content_perm.length_eq

@[simp] theorem capacity_push (r : Circular α) (a : α) : (r.push a).capacity = r.capacity := by
  unfold push
  split <;> rfl

@[simp] theorem capacity_foldl : ∀ (as : List α) (r : Circular α),
    (as.foldl push r).capacity = r.capacity
  | [], _ => rfl
  | a :: as, r => by rw [List.foldl_cons, capacity_foldl as, capacity_push]

/-- **A push** drops the oldest record when there is no room. -/
theorem content_push (r : Circular α) (a : α) :
    (r.push a).content = pushWindow r.capacity r.content a := by
  unfold pushWindow
  rw [List.length_append, List.length_singleton, r.length_content]
  by_cases h : r.data.length < r.capacity
  · have hoffset := r.offset_eq h
    rw [if_neg (by omega), push, dif_pos h]
    unfold content oldest newest
    dsimp only
    rw [hoffset]
    simp
  · have hlt : r.offset < r.data.length := by
      have := r.offset_lt
      have := r.length_le
      omega
    have hfull : r.data.length = r.capacity := Nat.le_antisymm r.length_le (Nat.le_of_not_lt h)
    have htail : (r.content ++ [a]).tail = r.data.drop (r.offset + 1) ++ (r.newest ++ [a]) := by
      unfold content oldest
      rw [List.drop_eq_getElem_cons hlt, List.append_assoc, List.cons_append, List.tail_cons]
    have hset : r.data.set r.offset a = (r.newest ++ [a]) ++ r.data.drop (r.offset + 1) := by
      rw [List.set_eq_take_append_cons_drop, if_pos hlt, List.append_assoc]
      rfl
    have hlength : (r.newest ++ [a]).length = r.offset + 1 := by
      rw [List.length_append, newest, List.length_take, Nat.min_eq_left (Nat.le_of_lt hlt)]
      rfl
    rw [if_pos (by omega), htail, push, dif_neg h]
    unfold content oldest newest
    dsimp only
    rw [hset]
    by_cases hlast : r.offset + 1 < r.capacity
    · rw [Nat.mod_eq_of_lt hlast, List.drop_left' hlength, List.take_left' hlength]
      rfl
    · -- the last place: the list starts over
      have hwrap : r.offset + 1 = r.capacity := by
        have := r.offset_lt
        omega
      rw [hwrap, Nat.mod_self, List.drop_zero, List.take_zero, List.append_nil,
        List.drop_eq_nil_of_le (Nat.le_of_eq hfull), List.append_nil, List.nil_append]
      rfl

theorem length_content_le (r : Circular α) : r.content.length ≤ r.capacity :=
  r.length_content ▸ r.length_le

/-- **After any number of pushes** the content are the last records. -/
theorem content_foldl : ∀ (as : List α) (r : Circular α),
    (as.foldl push r).content = (r.content ++ as).rtake r.capacity
  | [], r => by rw [List.foldl_nil, List.append_nil, rtake_of_length_le r.length_content_le]
  | a :: as, r => by
    rw [List.foldl_cons, content_foldl as, content_push, capacity_push,
      pushWindow_eq r.length_content_le, rtake_append_rtake, List.append_assoc]
    rfl

/-- **The order in which the records are stored.** When the content is in order, the records that
meet a test are stored in order exactly when none of the newest is before one of the oldest. -/
theorem filter_sorted_iff {β : Type} [Preorder β] (key : α → β) (test : α → Bool)
    (r : Circular α) (hsorted : r.content.Pairwise fun a b => key a ≤ key b) :
    (r.data.filter test).Pairwise (fun a b => key a ≤ key b) ↔
      ∀ a ∈ r.newest, test a = true → ∀ b ∈ r.oldest, test b = true → key a ≤ key b := by
  obtain ⟨holdest, hnewest, -⟩ := List.pairwise_append.mp hsorted
  rw [r.data_eq, List.filter_append, List.pairwise_append]
  constructor
  · rintro ⟨-, -, hcross⟩ a ha htest b hb htest'
    exact hcross a (List.mem_filter.mpr ⟨ha, htest⟩) b (List.mem_filter.mpr ⟨hb, htest'⟩)
  · intro hcross
    refine ⟨hnewest.filter test, holdest.filter test, fun a ha b hb => ?_⟩
    obtain ⟨ha, htest⟩ := List.mem_filter.mp ha
    obtain ⟨hb, htest'⟩ := List.mem_filter.mp hb
    exact hcross a ha htest b hb htest'

/-- The state after `n` pushes into an empty one. -/
structure After (n : Nat) (r : Circular α) : Prop where
  length : r.data.length = min n r.capacity
  offset : r.offset = if n < r.capacity then 0 else n % r.capacity

theorem After.push {n : Nat} {r : Circular α} (h : r.After n) (a : α) :
    (r.push a).After (n + 1) := by
  have hlength := h.length
  have hoffset := h.offset
  unfold Circular.push
  by_cases hlt : r.data.length < r.capacity
  · rw [dif_pos hlt]
    have hn : n < r.capacity := by omega
    refine ⟨?_, ?_⟩
    · change (r.data ++ [a]).length = min (n + 1) r.capacity
      rw [List.length_append, List.length_singleton]
      omega
    · change r.offset = if n + 1 < r.capacity then 0 else (n + 1) % r.capacity
      rw [hoffset, if_pos hn]
      split
      · rfl
      · have hlast : n + 1 = r.capacity := by omega
        rw [hlast, Nat.mod_self]
  · rw [dif_neg hlt]
    have hn : ¬n < r.capacity := by omega
    refine ⟨?_, ?_⟩
    · change (r.data.set r.offset a).length = min (n + 1) r.capacity
      rw [List.length_set]
      omega
    · change (r.offset + 1) % r.capacity = if n + 1 < r.capacity then 0 else (n + 1) % r.capacity
      rw [hoffset, if_neg hn, if_neg (by omega), Nat.mod_add_mod]

/-- **How many records were written since the list started over**, after so many pushes. -/
theorem after_foldl : ∀ (as : List α) {n : Nat} {r : Circular α}, r.After n →
    (as.foldl Circular.push r).After (n + as.length)
  | [], _, _, h => h
  | a :: as, n, r, h => by
    have hrest := after_foldl as (h.push a)
    rwa [Nat.add_right_comm, Nat.add_assoc] at hrest

/-- An empty list. -/
def empty (capacity : Nat) (hpos : 0 < capacity) : Circular α :=
  { capacity := capacity
    pos := hpos
    length_le := Nat.zero_le _
    offset_lt := hpos
    offset_eq := fun _ => rfl }

theorem after_empty {capacity : Nat} (hpos : 0 < capacity) :
    (empty capacity hpos : Circular α).After 0 :=
  ⟨(Nat.zero_min capacity).symm, (if_pos hpos).symm⟩

end Circular

end Lib
