import Mathlib.Data.List.Sort
import Mathlib.Data.List.TakeWhile
import Mathlib.Order.Basic

/-!
# Looking up ranges

A table of ranges sorted by their starts. A lookup takes the last range that starts at or before
what it looks for. A sort need not be stable, so that among ranges with one start any can be last.

* `findRange_cases`: what a lookup looks at.
* `exists_sorting`: every range that can be last is last after some sort.
* `findRange_correct_iff`: a table that holds disjoint good ranges and others answers with the
  good ones exactly when none of the others hides a good one or answers where there is none.
-/

namespace Lib

variable {ε κ β : Type} [LinearOrder κ] (start stop : ε → κ)

/-- What `std::sort` may do with a list. -/
structure Sorting where
  run : List ε → List ε
  perm : ∀ l, (run l).Perm l
  sorted : ∀ l, (run l).Pairwise fun a b => start a ≤ start b

/-- A stable sort. -/
def Sorting.stable : Sorting start where
  run := List.insertionSort fun a b => start a ≤ start b
  perm := List.perm_insertionSort _
  sorted l :=
    haveI : Std.Total fun a b : ε => start a ≤ start b := ⟨fun a b => le_total (start a) (start b)⟩
    haveI : IsTrans ε fun a b => start a ≤ start b := ⟨fun _ _ _ => le_trans⟩
    List.pairwise_insertionSort _ l

/-- The position `std::upper_bound` gives in a sorted table. -/
def upperBound (table : List ε) (x : κ) : Nat := (table.takeWhile fun e => start e ≤ x).length

/-- The range before that position, when it has not ended. -/
def findRange (table : List ε) (x : κ) : Option ε :=
  match upperBound start table x with
  | 0 => none
  | it + 1 => table[it]?.filter fun e => start e ≤ x ∧ x ≤ stop e

def Covers (e : ε) (x : κ) : Prop := start e ≤ x ∧ x ≤ stop e

instance (e : ε) (x : κ) : Decidable (Covers start stop e x) := inferInstanceAs (Decidable (_ ∧ _))

/-- One of the last ranges to start at or before `x`. -/
def IsLast (l : List ε) (x : κ) (e : ε) : Prop :=
  e ∈ l ∧ start e ≤ x ∧ ∀ d ∈ l, start d ≤ x → start d ≤ start e

variable {start stop}

theorem IsLast.self {l : List ε} {e : ε} (h : e ∈ l) : IsLast start l (start e) e :=
  ⟨h, le_refl _, fun _ _ => id⟩

/-- A range that covers `x` covers the start of the last one before it. -/
theorem IsLast.covers {l : List ε} {x : κ} {e g : ε} (h : IsLast start l x e) (hg : g ∈ l)
    (hx : Covers start stop g x) : Covers start stop g (start e) :=
  ⟨h.2.2 g hg hx.1, h.2.1.trans hx.2⟩

theorem upperBound_of_split (before after : List ε) {x : κ} (hbefore : ∀ e ∈ before, start e ≤ x)
    (hafter : ∀ e ∈ after, x < start e) : upperBound start (before ++ after) x = before.length := by
  rw [upperBound, List.takeWhile_append_of_pos (by simpa using hbefore)]
  cases after with
  | nil => simp
  | cons e after =>
    rw [List.takeWhile_cons_of_neg (by simpa using hafter e List.mem_cons_self), List.append_nil]

theorem exists_split {l : List ε} (hsorted : l.Pairwise fun a b => start a ≤ start b) (x : κ) :
    ∃ before after, l = before ++ after ∧ (∀ e ∈ before, start e ≤ x) ∧
      ∀ e ∈ after, x < start e := by
  refine ⟨l.takeWhile fun e => start e ≤ x, l.dropWhile fun e => start e ≤ x,
    List.takeWhile_append_dropWhile.symm, fun e he => by simpa using List.mem_takeWhile_imp he, ?_⟩
  have hsuffix := hsorted.sublist (List.dropWhile_suffix fun e => decide (start e ≤ x)).sublist
  cases hdrop : l.dropWhile fun e => start e ≤ x with
  | nil => exact fun _ h => nomatch h
  | cons d rest =>
    rw [hdrop] at hsuffix
    have hd : x < start d := by
      have := List.head?_dropWhile_not (p := fun e => decide (start e ≤ x)) l
      rw [hdrop] at this
      simpa using this
    intro e he
    rcases List.mem_cons.mp he with rfl | he
    · exact hd
    · exact hd.trans_le (List.rel_of_pairwise_cons hsuffix he)

variable (stop) in
/-- **What a lookup looks at**: nothing when every range starts later, and else one of the last
ranges that do not. -/
theorem findRange_cases {l : List ε} (s : Sorting start) (x : κ) :
    ((∀ e ∈ l, x < start e) ∧ findRange start stop (s.run l) x = none) ∨
      ∃ e, IsLast start l x e ∧
        findRange start stop (s.run l) x = if x ≤ stop e then some e else none := by
  obtain ⟨before, after, hsplit, hbefore, hafter⟩ := exists_split (s.sorted l) x
  have hmem (e : ε) : e ∈ l ↔ e ∈ before ∨ e ∈ after := by
    rw [← (s.perm l).mem_iff, hsplit, List.mem_append]
  have hbound := upperBound_of_split before after hbefore hafter
  rcases List.eq_nil_or_concat' before with rfl | ⟨front, e, rfl⟩
  · refine .inl ⟨fun e he => hafter e (((hmem e).mp he).resolve_left List.not_mem_nil), ?_⟩
    rw [findRange, hsplit, hbound]
    rfl
  · have hsorted := s.sorted l
    rw [hsplit, List.pairwise_append] at hsorted
    refine .inr ⟨e, ⟨(hmem e).mpr (.inl (by simp)), hbefore e (by simp), fun d hd hdx => ?_⟩, ?_⟩
    · rcases (hmem d).mp hd with hd | hd
      · rcases List.mem_append.mp hd with hd | hd
        · exact (List.pairwise_append.mp hsorted.1).2.2 d hd e List.mem_cons_self
        · rw [List.mem_singleton.mp hd]
      · exact absurd hdx (not_le.mpr (hafter d hd))
    · rw [findRange, hsplit, hbound, List.length_append]
      have hget : (front ++ [e] ++ after)[front.length]? = some e := by simp
      change Option.filter _ ((front ++ [e] ++ after)[front.length]?) = _
      rw [hget]
      simp [Option.filter, hbefore e (by simp)]

variable (stop) in
/-- **Every range that can be last is last after some sort.** -/
theorem exists_sorting [DecidableEq ε] {l : List ε} {x : κ} {e : ε} (h : IsLast start l x e) :
    ∃ s : Sorting start,
      findRange start stop (s.run l) x = if x ≤ stop e then some e else none := by
  have hsorted := (Sorting.stable start).sorted (l.erase e)
  have hperm := (Sorting.stable start).perm (l.erase e)
  obtain ⟨before, after, hsplit, hbefore, hafter⟩ := exists_split hsorted x
  have hmem {d : ε} (hd : d ∈ before ++ after) : d ∈ l :=
    List.mem_of_mem_erase (hperm.mem_iff.mp (hsplit ▸ hd))
  -- `e` goes behind everything that starts at or before `x`
  have hlast : (before ++ [e] ++ after).Pairwise fun a b => start a ≤ start b := by
    rw [hsplit, List.pairwise_append] at hsorted
    rw [List.pairwise_append, List.pairwise_append]
    refine ⟨⟨hsorted.1, List.pairwise_singleton _ _, fun d hd d' hd' => ?_⟩, hsorted.2.1,
      fun d hd d' hd' => ?_⟩
    · rw [List.mem_singleton.mp hd']
      exact h.2.2 d (hmem (List.mem_append_left _ hd)) (hbefore d hd)
    · rcases List.mem_append.mp hd with hd | hd
      · exact hsorted.2.2 d hd d' hd'
      · rw [List.mem_singleton.mp hd]
        exact h.2.1.trans (hafter d' hd').le
  have hpermLast : (before ++ [e] ++ after).Perm l := by
    have hmiddle : (before ++ e :: after).Perm (e :: (before ++ after)) := List.perm_middle
    rw [← hsplit] at hmiddle
    rw [List.append_assoc]
    exact hmiddle.trans ((hperm.cons e).trans (List.perm_cons_erase h.1).symm)
  refine ⟨{ run := fun l' =>
              if l' = l then before ++ [e] ++ after else (Sorting.stable start).run l'
            perm := fun l' => ?_
            sorted := fun l' => ?_ }, ?_⟩
  · split
    · rename_i heq
      rw [heq]
      exact hpermLast
    · exact (Sorting.stable start).perm l'
  · split
    · exact hlast
    · exact (Sorting.stable start).sorted l'
  · dsimp only
    rw [if_pos rfl, findRange, upperBound_of_split (before ++ [e]) after (fun d hd => ?_) hafter,
      List.length_append]
    · change Option.filter _ ((before ++ [e] ++ after)[before.length]?) = _
      have hget : (before ++ [e] ++ after)[before.length]? = some e := by simp
      rw [hget]
      simp [Option.filter, h.2.1]
    · rcases List.mem_append.mp hd with hd | hd
      · exact hbefore d hd
      · rw [List.mem_singleton.mp hd]
        exact h.2.1

/-! ## Good ranges and others -/

variable (start stop)

/-- The other ranges do no harm: one that starts in a good range gives what that gives, and ends
with it or not before the next range starts, and one that starts elsewhere gives nothing or is
empty. -/
structure Harmless (l : List ε) (good : ε → Prop) (value : ε → Option β) (e : ε) : Prop where
  inside : ∀ g ∈ l, good g → Covers start stop g (start e) → value e = value g ∧
    ∀ x, start e ≤ x → ¬ (Covers start stop e x ↔ Covers start stop g x) →
      ∃ d ∈ l, start e < start d ∧ start d ≤ x
  outside : (∀ g ∈ l, good g → ¬ Covers start stop g (start e)) → value e = none ∨ stop e < start e

variable {start stop}

/-- **When a table with other ranges answers with the good ones.** -/
theorem findRange_correct_iff [DecidableEq ε] {l : List ε} {good : ε → Prop} {value : ε → Option β}
    {expected : κ → Option β} (hgood : ∀ g ∈ l, good g → value g ≠ none ∧ start g ≤ stop g)
    (hdisjoint : ∀ g ∈ l, ∀ g' ∈ l, good g → good g' →
      ∀ x, Covers start stop g x → Covers start stop g' x → g = g')
    (hnone : ∀ x, (∀ g ∈ l, good g → ¬ Covers start stop g x) → expected x = none)
    (hsome : ∀ x, ∀ g ∈ l, good g → Covers start stop g x → expected x = value g) :
    (∀ (s : Sorting start) x, (findRange start stop (s.run l) x).bind value = expected x) ↔
      ∀ e ∈ l, ¬ good e → Harmless start stop l good value e := by
  -- behind the start of a last range there is only the good range that covers this start
  have honly {x : κ} {e g : ε} (he : IsLast start l x e) (hg : g ∈ l) (hgoodg : good g)
      (hcovers : Covers start stop g (start e)) (hx : ¬ Covers start stop g x) :
      expected x = none :=
    hnone x fun g' hg' hgood' hcovers' =>
      hx (hdisjoint g hg g' hg' hgoodg hgood' _ hcovers (he.covers hg' hcovers') ▸ hcovers')
  constructor
  · intro h e he hbad
    have hlast {x : κ} (hx : IsLast start l x e) :
        (if x ≤ stop e then value e else none) = expected x := by
      obtain ⟨s, hs⟩ := exists_sorting stop hx
      rw [← h s x, hs]
      split <;> rfl
    have hself := hlast (.self he)
    refine ⟨fun g hg hgoodg hcovers => ?_, fun hout => ?_⟩
    · rw [hsome _ g hg hgoodg hcovers] at hself
      have hle : start e ≤ stop e := by
        by_contra hlt
        rw [if_neg hlt] at hself
        exact (hgood g hg hgoodg).1 hself.symm
      rw [if_pos hle] at hself
      refine ⟨hself, fun x hx hdiffer => ?_⟩
      by_contra hno
      push Not at hno
      have hlastx : IsLast start l x e :=
        ⟨he, hx, fun d hd hdx => not_lt.mp fun hlt => not_lt.mpr hdx (hno d hd hlt)⟩
      have hanswer := hlast hlastx
      by_cases hgx : Covers start stop g x
      · rw [hsome x g hg hgoodg hgx,
          if_neg fun hle => hdiffer (iff_of_true ⟨hx, hle⟩ hgx)] at hanswer
        exact (hgood g hg hgoodg).1 hanswer.symm
      · have hex : Covers start stop e x := by
          by_contra hex
          exact hdiffer (iff_of_false hex hgx)
        rw [honly hlastx hg hgoodg hcovers hgx, if_pos hex.2, hself] at hanswer
        exact (hgood g hg hgoodg).1 hanswer
    · rw [hnone _ hout] at hself
      by_cases hle : start e ≤ stop e
      · rw [if_pos hle] at hself
        exact .inl hself
      · exact .inr (not_le.mp hle)
  · intro h s x
    rcases findRange_cases stop (l := l) s x with ⟨hafter, hlookup⟩ | ⟨e, he, hlookup⟩
    · rw [hlookup, hnone x fun g hg _ hcovers => not_lt.mpr hcovers.1 (hafter g hg)]
      rfl
    · have hanswer : (findRange start stop (s.run l) x).bind value =
          if x ≤ stop e then value e else none := by
        rw [hlookup]
        split <;> rfl
      rw [hanswer]
      by_cases hgoode : good e
      · by_cases hle : x ≤ stop e
        · rw [if_pos hle, hsome x e he.1 hgoode ⟨he.2.1, hle⟩]
        · rw [if_neg hle,
            honly he he.1 hgoode ⟨le_refl _, (hgood e he.1 hgoode).2⟩ fun hx => hle hx.2]
      · obtain ⟨hinside, houtside⟩ := h e he.1 hgoode
        by_cases hin : ∃ g ∈ l, good g ∧ Covers start stop g (start e)
        · obtain ⟨g, hg, hgoodg, hcovers⟩ := hin
          obtain ⟨hvalue, hnext⟩ := hinside g hg hgoodg hcovers
          have hiff : Covers start stop e x ↔ Covers start stop g x := by
            by_contra hdiffer
            obtain ⟨d, hd, hlt, hle⟩ := hnext x he.2.1 hdiffer
            exact not_lt.mpr (he.2.2 d hd hle) hlt
          by_cases hle : x ≤ stop e
          · rw [if_pos hle, hvalue, hsome x g hg hgoodg (hiff.mp ⟨he.2.1, hle⟩)]
          · rw [if_neg hle, honly he hg hgoodg hcovers fun hgx => hle (hiff.mpr hgx).2]
        · push Not at hin
          rw [hnone x fun g hg hgoodg hcovers => hin g hg hgoodg (he.covers hg hcovers)]
          rcases houtside hin with hvalue | hempty
          · rw [hvalue, ite_self]
          · rw [if_neg fun hle => not_lt.mpr (he.2.1.trans hle) hempty]

end Lib
