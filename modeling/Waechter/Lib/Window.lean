import Mathlib.Data.List.DropRight

/-!
# The last records of a log

A window of `n` records is a queue that drops its first record when it grows past `n`. What it shows
after any number of pushes are the last `n` records (`List.rtake`) of all that was pushed.
-/

namespace Lib

variable {α β : Type _}

/-- Push a record and drop the first one when there are more than `n`. -/
def pushWindow (n : Nat) (l : List α) (x : α) : List α :=
  if n < (l ++ [x]).length then (l ++ [x]).tail else l ++ [x]

theorem rtake_of_length_le {n : Nat} {l : List α} (h : l.length ≤ n) : l.rtake n = l := by
  rw [List.rtake, Nat.sub_eq_zero_of_le h, List.drop_zero]

theorem length_rtake_le (n : Nat) (l : List α) : (l.rtake n).length ≤ n := by
  rw [List.rtake, List.length_drop]
  omega

/-- Only the last records of what came before can be among the last ones. -/
theorem rtake_append_rtake (n : Nat) (a b : List α) : (a.rtake n ++ b).rtake n = (a ++ b).rtake n := by
  simp only [List.rtake, List.drop_append, List.drop_drop, List.length_append, List.length_drop]
  congr 2 <;> omega

/-- As many records as the window holds are all of it. -/
theorem rtake_append_of_length {n : Nat} (a : List α) {b : List α} (h : b.length = n) :
    (a ++ b).rtake n = b := by
  rw [List.rtake, List.length_append, h, Nat.add_sub_cancel, List.drop_left]

/-- The last records are those of the end, when there are enough of them. -/
theorem rtake_append_of_le {n : Nat} (a : List α) {b : List α} (h : n ≤ b.length) :
    (a ++ b).rtake n = b.rtake n := by
  simp only [List.rtake, List.length_append]
  rw [List.drop_append, List.drop_eq_nil_of_le (by omega), List.nil_append]
  congr 1
  omega

/-- What is in front of the last `b` of the last `a` is in front of the last `b`. -/
theorem mem_take_of_mem_rdrop_rtake {a b : Nat} (hle : b ≤ a) {l : List α} {x : α}
    (h : x ∈ (l.rtake a).rdrop b) : x ∈ l.take (l.length - b) := by
  rw [List.rdrop, List.rtake, List.length_drop, List.take_drop] at h
  refine (List.take_sublist_take_left ?_).subset (List.mem_of_mem_drop h)
  omega

theorem length_rtake (n : Nat) (l : List α) : (l.rtake n).length = min n l.length := by
  rw [List.rtake, List.length_drop]
  omega

theorem rtake_rtake (m n : Nat) (l : List α) : (l.rtake m).rtake n = l.rtake (min n m) := by
  simp only [List.rtake, List.drop_drop, List.length_drop]
  congr 1
  omega

/-- Two counts of last records show the same when they are alike up to the number of records. -/
theorem rtake_inj {m n : Nat} {l : List α} : l.rtake m = l.rtake n ↔ min m l.length = min n l.length := by
  constructor
  · intro h
    rw [← length_rtake, h, length_rtake]
  · intro h
    simp only [List.rtake]
    congr 1
    omega

/-- What is left in the window of the records of the end. -/
theorem filter_mem_rtake [DecidableEq α] {n : Nat} {a b : List α} (h : (a ++ b).Nodup) :
    b.filter (· ∈ (a ++ b).rtake n) = b.rtake n := by
  by_cases hle : n ≤ b.length
  · rw [rtake_append_of_le a hle]
    have hsplit : b = b.take (b.length - n) ++ b.rtake n := (List.take_append_drop _ _).symm
    have hnodup : (b.take (b.length - n) ++ b.rtake n).Nodup :=
      hsplit ▸ (List.nodup_append.mp h).2.1
    have hdisjoint := (List.nodup_append.mp hnodup).2.2
    have hgone : (b.take (b.length - n)).filter (· ∈ b.rtake n) = [] := by
      refine List.filter_eq_nil_iff.mpr fun x hx hmem => ?_
      exact hdisjoint x hx x (of_decide_eq_true hmem) rfl
    have hkept : (b.rtake n).filter (· ∈ b.rtake n) = b.rtake n :=
      List.filter_eq_self.mpr fun x hx => decide_eq_true hx
    calc b.filter (· ∈ b.rtake n)
        = (b.take (b.length - n) ++ b.rtake n).filter (· ∈ b.rtake n) := by rw [← hsplit]
      _ = b.rtake n := by rw [List.filter_append, hgone, hkept, List.nil_append]
  · rw [rtake_of_length_le (Nat.le_of_not_le hle)]
    refine List.filter_eq_self.mpr fun x hx => decide_eq_true ?_
    rw [List.rtake, List.drop_append_of_le_length (by rw [List.length_append]; omega)]
    exact List.mem_append_right _ hx

theorem pushWindow_eq {n : Nat} {l : List α} (h : l.length ≤ n) (x : α) :
    pushWindow n l x = (l ++ [x]).rtake n := by
  rw [pushWindow, List.rtake]
  split
  · rename_i hlt
    have hone : (l ++ [x]).length - n = 1 := by
      rw [List.length_append, List.length_singleton] at hlt ⊢
      omega
    rw [hone, List.drop_one]
  · rename_i hle
    rw [Nat.sub_eq_zero_of_le (Nat.le_of_not_lt hle), List.drop_zero]

/-- **A window shows the last records of all that was pushed.** -/
theorem foldl_pushWindow (n : Nat) : ∀ (xs l : List α), l.length ≤ n →
    xs.foldl (pushWindow n) l = (l ++ xs).rtake n
  | [], l, h => by rw [List.foldl_nil, List.append_nil, rtake_of_length_le h]
  | x :: xs, l, h => by
    rw [List.foldl_cons, pushWindow_eq h, foldl_pushWindow n xs _ (length_rtake_le n _),
      rtake_append_rtake, List.append_assoc]
    rfl

theorem map_pushWindow (f : α → β) (n : Nat) (l : List α) (x : α) :
    (pushWindow n l x).map f = pushWindow n (l.map f) (f x) := by
  unfold pushWindow
  simp only [List.length_append, List.length_map, List.length_singleton]
  split
  · rw [List.map_tail, List.map_append]
    rfl
  · rw [List.map_append]
    rfl

end Lib
