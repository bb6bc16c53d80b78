import Mathlib.Algebra.Group.Nat.Defs
import Mathlib.Data.List.TakeWhile

/-!
# Searching in texts

The members of `std::string` that look for a character or for a text, and cut texts at positions.
A position is a `std::size_t`, so a difference of two of them wraps.

* `find_append`, `not_mem_take_find`: what stands in front of the first occurrence of a character.
* `afterFirst_append`: the first occurrence of a pattern in a text that is cut by a character which
  is not in the pattern.
* `afterFirst_concat`: the first occurrence of a word and a character behind it, in a text that is
  cut by the first such character.
-/

namespace Lib.Text

/-- The difference of two values of `std::size_t`. -/
def sizeSub (a b : Nat) : Nat := if b ≤ a then a - b else 2 ^ 64 + a - b

@[simp] theorem sizeSub_of_le {a b : Nat} (h : b ≤ a) : sizeSub a b = a - b := if_pos h

variable {α : Type} [DecidableEq α]

/-- `find(c)`. -/
def find (c : α) (s : List α) : Option Nat := s.findIdx? (· = c)

/-- `substr(pos, n)`; `none` is a `std::out_of_range`. -/
def substr (s : List α) (pos n : Nat) : Option (List α) :=
  if pos ≤ s.length then some ((s.drop pos).take n) else none

/-- `find(pattern)`. -/
def findText (pattern : List α) : List α → Option Nat
  | [] => if pattern = [] then some 0 else none
  | x :: xs => if pattern.isPrefixOf (x :: xs) then some 0 else (findText pattern xs).map (· + 1)

/-- `find(c, pos)`. -/
def findFrom (c : α) (s : List α) (pos : Nat) : Option Nat := (find c (s.drop pos)).map (· + pos)

/-! ## A character -/

theorem find_eq_none {c : α} {s : List α} : find c s = none ↔ c ∉ s := by
  rw [find, List.findIdx?_eq_none_iff]
  simp only [decide_eq_false_iff_not]
  exact ⟨fun h hc => h c hc rfl, fun h x hx hxc => h (hxc ▸ hx)⟩

theorem exists_find_of_mem {c : α} {s : List α} (h : c ∈ s) : ∃ i, find c s = some i :=
  Option.ne_none_iff_exists'.mp (mt find_eq_none.mp (not_not_intro h))

theorem find_append {c : α} {before : List α} (h : c ∉ before) (after : List α) :
    find c (before ++ c :: after) = some before.length := by
  rw [find, List.findIdx?_append, show before.findIdx? (· = c) = none from find_eq_none.mpr h]
  simp [List.findIdx?_cons]

/-- A text is what stands in front of the first occurrence, and the rest. -/
theorem exists_of_find_eq_some {c : α} {s : List α} {i : Nat} (h : find c s = some i) :
    ∃ after, s = s.take i ++ c :: after ∧ c ∉ s.take i := by
  obtain ⟨hlt, hc, hbefore⟩ := List.findIdx?_eq_some_iff_getElem.mp h
  refine ⟨s.drop (i + 1), ?_, ?_⟩
  · have hget : s[i] = c := by simpa using hc
    rw [← hget, ← List.drop_eq_getElem_cons hlt, List.take_append_drop]
  · intro hmem
    obtain ⟨j, hj, hjc⟩ := List.mem_take_iff_getElem.mp hmem
    exact absurd (by simpa using hjc) (by simpa using hbefore j (by omega))

theorem not_mem_take_find {c : α} {s : List α} {i : Nat} (h : find c s = some i) :
    c ∉ s.take i :=
  (exists_of_find_eq_some h).choose_spec.2

/-- The part in front of the first occurrence. -/
theorem takeWhile_ne_eq {c : α} (s : List α) :
    s.takeWhile (· ≠ c) = match find c s with
      | some i => s.take i
      | none => s := by
  cases h : find c s with
  | none =>
    refine List.takeWhile_eq_self_iff.mpr fun x hx => ?_
    exact decide_eq_true fun hxc => find_eq_none.mp h (hxc ▸ hx)
  | some i =>
    obtain ⟨after, heq, hmem⟩ := exists_of_find_eq_some h
    have hall : ∀ x ∈ s.take i, decide (x ≠ c) = true := fun x hx =>
      decide_eq_true fun hxc => hmem (hxc ▸ hx)
    rw [heq, List.takeWhile_append_of_pos hall, List.takeWhile_cons_of_neg (by simp),
      List.append_nil, ← heq]

/-! ## A pattern -/

/-- A pattern that is found is in the text. -/
theorem findText_add_length_le {pattern : List α} : ∀ {s : List α} {i : Nat},
    findText pattern s = some i → i + pattern.length ≤ s.length
  | [], i, h => by
    unfold findText at h
    split at h
    · rename_i hempty
      cases h
      rw [hempty]
      exact Nat.le_refl _
    · cases h
  | x :: xs, i, h => by
    unfold findText at h
    split at h
    · rename_i hprefix
      cases h
      rw [Nat.zero_add]
      exact (List.isPrefixOf_iff_prefix.mp hprefix).length_le
    · obtain ⟨j, hj, rfl⟩ := Option.map_eq_some_iff.mp h
      have hle := findText_add_length_le hj
      rw [List.length_cons]
      omega

/-- What follows the first occurrence of a pattern. -/
def afterFirst (pattern s : List α) : Option (List α) :=
  (findText pattern s).map fun i => s.drop (i + pattern.length)

theorem afterFirst_cons (pattern : List α) (x : α) (xs : List α) :
    afterFirst pattern (x :: xs) =
      if pattern.isPrefixOf (x :: xs) then some ((x :: xs).drop pattern.length)
      else afterFirst pattern xs := by
  rw [afterFirst, findText]
  split
  · simp
  · rw [Option.map_map, afterFirst]
    congr 1
    funext i
    simp [Nat.add_right_comm]

omit [DecidableEq α] in
/-- A pattern without the character that cuts a text stands in front of it or behind it. -/
theorem isPrefix_append_cons_iff {pattern before after : List α} {c : α} (hc : c ∉ pattern) :
    pattern <+: before ++ c :: after ↔ pattern <+: before := by
  refine ⟨fun h => ?_, fun h => h.trans (List.prefix_append _ _)⟩
  rcases List.prefix_or_prefix_of_prefix h (List.prefix_append before (c :: after)) with h' | h'
  · exact h'
  · obtain ⟨more, rfl⟩ := h'
    cases more with
    | nil => simp
    | cons x more =>
      have hx := (List.prefix_append_right_inj before).mp h
      obtain rfl := (List.cons_prefix_cons.mp hx).1
      exact absurd (by simp) hc

/-- **The first occurrence in a text that is cut** by a character which is not in the pattern. -/
theorem afterFirst_append {pattern : List α} (hne : pattern ≠ []) {c : α} (hc : c ∉ pattern)
    (after : List α) : ∀ before : List α, afterFirst pattern (before ++ c :: after) =
      ((afterFirst pattern before).map (· ++ c :: after)).or (afterFirst pattern after)
  | [] => by
    have hnot : ¬ pattern.isPrefixOf (c :: after) := fun h => by
      have h' : pattern <+: [] ++ c :: after := List.isPrefixOf_iff_prefix.mp h
      exact hne (List.prefix_nil.mp ((isPrefix_append_cons_iff hc).mp h'))
    rw [List.nil_append, afterFirst_cons, if_neg hnot]
    simp [afterFirst, findText, hne]
  | x :: before => by
    have hprefix : pattern.isPrefixOf (x :: before ++ c :: after) =
        pattern.isPrefixOf (x :: before) := by
      rw [Bool.eq_iff_iff, List.isPrefixOf_iff_prefix, List.isPrefixOf_iff_prefix,
        isPrefix_append_cons_iff hc]
    have hrest := afterFirst_append hne hc after before
    rw [List.cons_append] at hprefix ⊢
    rw [afterFirst_cons, afterFirst_cons, hprefix, hrest]
    split
    · rename_i h
      have hle := (List.isPrefixOf_iff_prefix.mp h).length_le
      rw [Option.map_some, Option.some_or, ← List.cons_append,
        List.drop_append_of_le_length hle]
    · rfl

omit [DecidableEq α] in
/-- A word with a character behind it stands in front of the first such character when it is all
there is. -/
theorem concat_isPrefix_iff {word before after : List α} {c : α} (hword : c ∉ word)
    (hbefore : c ∉ before) : word ++ [c] <+: before ++ c :: after ↔ word = before := by
  constructor
  · intro h
    rcases List.prefix_or_prefix_of_prefix h (List.prefix_append before (c :: after)) with h' | h'
    · exact absurd (h'.subset (List.mem_append_right _ List.mem_cons_self)) hbefore
    · rcases List.prefix_concat_iff.mp h' with h' | h'
      · exact absurd (h' ▸ List.mem_append_right _ List.mem_cons_self) hbefore
      · obtain ⟨more, rfl⟩ := h'
        cases more with
        | nil => exact List.append_nil _
        | cons x more =>
          rw [List.append_assoc] at h
          have hx := (List.prefix_append_right_inj before).mp h
          obtain rfl := (List.cons_prefix_cons.mp hx).1
          exact absurd (List.mem_append_right _ List.mem_cons_self) hword
  · rintro rfl
    exact ⟨after, by rw [List.append_assoc, List.singleton_append]⟩

/-- **A word with a character behind it**, in a text that is cut by the first such character. -/
theorem afterFirst_concat {word : List α} {c : α} (hword : c ∉ word) (after : List α) :
    ∀ {before : List α}, c ∉ before → afterFirst (word ++ [c]) (before ++ c :: after) =
      if word <:+ before then some after else afterFirst (word ++ [c]) after
  | [], _ => by
    have hstarts : (word ++ [c]).isPrefixOf ([] ++ c :: after) ↔ word = [] := by
      rw [List.isPrefixOf_iff_prefix, concat_isPrefix_iff hword List.not_mem_nil]
    rw [List.nil_append] at hstarts ⊢
    rw [afterFirst_cons]
    by_cases hempty : word = []
    · rw [if_pos (hstarts.mpr hempty), if_pos (List.suffix_nil.mpr hempty), hempty]
      rfl
    · rw [if_neg (mt hstarts.mp hempty), if_neg (mt List.suffix_nil.mp hempty)]
  | x :: before, hbefore => by
    have hstarts : (word ++ [c]).isPrefixOf (x :: before ++ c :: after) ↔ word = x :: before := by
      rw [List.isPrefixOf_iff_prefix, concat_isPrefix_iff hword hbefore]
    have hrest := afterFirst_concat hword after (mt (List.mem_cons_of_mem x) hbefore)
    rw [List.cons_append] at hstarts ⊢
    rw [afterFirst_cons, hrest]
    by_cases hall : word = x :: before
    · rw [if_pos (hstarts.mpr hall), if_pos (hall ▸ List.suffix_refl _), hall]
      simp
    · have hsuffix : word <:+ x :: before ↔ word <:+ before := by
        rw [List.suffix_cons_iff, or_iff_right hall]
      rw [if_neg (mt hstarts.mp hall)]
      simp only [hsuffix]

/-- What follows an occurrence is part of the text. -/
theorem mem_of_mem_afterFirst {pattern s after : List α} (h : afterFirst pattern s = some after)
    {x : α} (hx : x ∈ after) : x ∈ s := by
  obtain ⟨i, -, rfl⟩ := Option.map_eq_some_iff.mp h
  exact List.mem_of_mem_drop hx

end Lib.Text
