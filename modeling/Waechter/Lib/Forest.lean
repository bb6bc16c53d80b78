import Mathlib.Data.Option.Basic
import Mathlib.Logic.Function.Basic

/-!
# A forest and its index

Items hang in slots: `get s` is the item in the slot `s`, `owner s` the item the slot belongs to.
What can be reached from the root is the tree; an index finds an item by its id. Code that changes
the two separately has to keep them in step.

* `reaches_congr`: only the slots of reachable items matter.
* `reaches_prune_drop`: emptying the slot of an item cuts off what hangs below it.
* `exactUpTo_put`: an item that is put into a free slot keeps the index exact exactly when its id
  is new; an entry that was stale under that id is repaired.
-/

namespace Lib

variable {σ ι κ : Type} (owner : σ → ι) (root : ι)

/-- The items that can be reached from the root. -/
inductive Reaches (get : σ → Option ι) : ι → Prop
  | root : Reaches get root
  | slot {s : σ} {x : ι} : Reaches get (owner s) → get s = some x → Reaches get x

/-- Two fillings of the slots are alike in the slots that can be reached. -/
def Agrees (get get' : σ → Option ι) : Prop :=
  ∀ s, Reaches owner root get (owner s) → get' s = get s

/-- No item hangs in two slots that can be reached, and the root hangs in none. -/
structure IsForest (get : σ → Option ι) : Prop where
  inj : ∀ s s' x, Reaches owner root get (owner s) → Reaches owner root get (owner s') →
    get s = some x → get s' = some x → s = s'
  root : ∀ s, get s ≠ some root

/-- What is left when the items that are to go are taken out of their slots. -/
def prune (gone : ι → Bool) (get : σ → Option ι) (s : σ) : Option ι :=
  (get s).filter fun x => !gone x

variable {owner root} {get get' : σ → Option ι} {x y : ι} {s : σ}

theorem prune_eq_some {gone : ι → Bool} :
    prune gone get s = some x ↔ get s = some x ∧ gone x = false := by
  simp [prune, Option.filter_eq_some_iff]

theorem prune_prune (gone gone' : ι → Bool) :
    prune gone (prune gone' get) = prune (fun x => gone x || gone' x) get := by
  funext s
  apply Option.ext
  intro x
  simp only [prune_eq_some, Bool.or_eq_false_iff]
  constructor
  · rintro ⟨⟨hs, hgone'⟩, hgone⟩
    exact ⟨hs, hgone, hgone'⟩
  · rintro ⟨hs, hgone, hgone'⟩
    exact ⟨⟨hs, hgone'⟩, hgone⟩

namespace Reaches

theorem mono (hsub : ∀ s x, get s = some x → get' s = some x) (h : Reaches owner root get x) :
    Reaches owner root get' x := by
  induction h with
  | root => exact .root
  | slot _ hs ih => exact .slot ih (hsub _ _ hs)

/-- What is reached hangs somewhere, unless it is the root. -/
theorem exists_slot (h : Reaches owner root get x) (hx : x ≠ root) :
    ∃ s, Reaches owner root get (owner s) ∧ get s = some x := by
  cases h with
  | root => exact absurd rfl hx
  | slot ho hs => exact ⟨_, ho, hs⟩

theorem of_prune {gone : ι → Bool} (h : Reaches owner root (prune gone get) x) :
    Reaches owner root get x :=
  h.mono fun _ _ hs => (prune_eq_some.mp hs).1

end Reaches

/-! ## Fillings that are alike -/

namespace Agrees

theorem reaches (h : Agrees owner root get get') (hx : Reaches owner root get x) :
    Reaches owner root get' x := by
  induction hx with
  | root => exact .root
  | slot ho hs ih => exact .slot ih ((h _ ho).trans hs)

theorem reaches_of (h : Agrees owner root get get') (hx : Reaches owner root get' x) :
    Reaches owner root get x := by
  induction hx with
  | root => exact .root
  | slot _ hs ih => exact .slot ih ((h _ ih).symm.trans hs)

/-- **Only the slots of reachable items matter.** -/
theorem reaches_congr (h : Agrees owner root get get') :
    Reaches owner root get' x ↔ Reaches owner root get x :=
  ⟨h.reaches_of, h.reaches⟩

theorem trans {get'' : σ → Option ι} (h : Agrees owner root get get')
    (h' : Agrees owner root get' get'') : Agrees owner root get get'' :=
  fun s hs => (h' s (h.reaches hs)).trans (h s hs)

theorem prune (h : Agrees owner root get get') (gone : ι → Bool) :
    Agrees owner root (prune gone get) (prune gone get') := by
  intro s hs
  rw [Lib.prune, h s hs.of_prune, Lib.prune]

end Agrees

/-- To empty the slot of the one reachable item that is to go prunes the forest. -/
theorem agrees_clear [DecidableEq σ] {gone : ι → Bool} (hx : get s = some x) (hgone : gone x = true)
    (hone : ∀ s' x', Reaches owner root get (owner s') → get s' = some x' → gone x' = true → s' = s) :
    Agrees owner root (prune gone get) (Function.update get s none) := by
  intro s' hs'
  by_cases hss : s' = s
  · subst hss
    rw [Function.update_self, prune, hx, Option.filter_some, hgone]
    rfl
  · rw [Function.update_of_ne hss]
    cases hx' : get s' with
    | none => rw [prune, hx']; rfl
    | some x' =>
      have hstays : gone x' = false := by
        by_contra hg
        exact hss (hone s' x' hs'.of_prune hx' (by simpa using hg))
      rw [prune_eq_some.mpr ⟨hx', hstays⟩]

/-- Where nothing is to go, nothing changes. -/
theorem agrees_of_none {gone : ι → Bool}
    (hnone : ∀ s x, Reaches owner root get (owner s) → get s = some x → gone x = false) :
    Agrees owner root (prune gone get) get := by
  intro s hs
  cases hx : get s with
  | none => rw [prune, hx]; rfl
  | some x => rw [prune_eq_some.mpr ⟨hx, hnone s x hs.of_prune hx⟩]

namespace IsForest

theorem of_agrees (h : IsForest owner root get) (ha : Agrees owner root get get')
    (hroot : ∀ s, get' s ≠ some root) : IsForest owner root get' := by
  refine ⟨fun s s' x hs hs' hx hx' => ?_, hroot⟩
  have ho := ha.reaches_of hs
  have ho' := ha.reaches_of hs'
  exact h.inj s s' x ho ho' ((ha s ho).symm.trans hx) ((ha s' ho').symm.trans hx')

theorem prune (h : IsForest owner root get) (gone : ι → Bool) :
    IsForest owner root (prune gone get) :=
  ⟨fun s s' x hs hs' hx hx' => h.inj s s' x hs.of_prune hs'.of_prune (prune_eq_some.mp hx).1
    (prune_eq_some.mp hx').1, fun s hs => h.root s (prune_eq_some.mp hs).1⟩

end IsForest

/-! ## The index -/

/-- A forest whose items have ids, and an index of them. -/
structure IndexedForest (σ ι κ : Type) where
  get : σ → Option ι
  idOf : ι → κ
  index : κ → Option ι

namespace IndexedForest

variable (owner root)

/-- The index finds every item of the tree under its id, and nothing else, but for the entries of
the ids `S`. -/
structure ExactUpTo (S : κ → Prop) (F : IndexedForest σ ι κ) : Prop where
  finds : ∀ x, Reaches owner root F.get x → F.index (F.idOf x) = some x
  only : ∀ i x, F.index i = some x → (Reaches owner root F.get x ∧ F.idOf x = i) ∨ S i

/-- The index has exactly the items of the tree. -/
def Exact (F : IndexedForest σ ι κ) : Prop := F.ExactUpTo owner root fun _ => False

/-- An item that is not there yet. -/
structure Fresh (F : IndexedForest σ ι κ) (y : ι) : Prop where
  unreached : ¬ Reaches owner root F.get y
  unindexed : ∀ i, F.index i ≠ some y

/-- Put an item without children into a slot, and into the index. -/
def put [DecidableEq σ] [DecidableEq ι] [DecidableEq κ] (s : σ) (y : ι) (i : κ)
    (F : IndexedForest σ ι κ) : IndexedForest σ ι κ where
  get s' := if s' = s then some y else if owner s' = y then none else F.get s'
  idOf := Function.update F.idOf y i
  index := Function.update F.index i (some y)

variable {owner root} {F : IndexedForest σ ι κ} {i : κ} {S : κ → Prop}

theorem ExactUpTo.inj (h : F.ExactUpTo owner root S) (hx : Reaches owner root F.get x)
    (hy : Reaches owner root F.get y) (hid : F.idOf x = F.idOf y) : x = y :=
  Option.some.inj ((h.finds x hx).symm.trans ((congrArg F.index hid).trans (h.finds y hy)))

variable [DecidableEq σ] [DecidableEq ι] [DecidableEq κ]

/-- The other slots, but those of the new item. -/
theorem get_put_of_ne {s' : σ} (hne : s' ≠ s) (hown : owner s' ≠ y) :
    (F.put owner s y i).get s' = F.get s' :=
  (if_neg hne).trans (if_neg hown)

/-- Nothing hangs below the item that was put last. -/
theorem get_put_owner {s' : σ} (hne : s' ≠ s) (hown : owner s' = y) :
    (F.put owner s y i).get s' = none :=
  (if_neg hne).trans (if_pos hown)

/-- Nothing but the new item is reached that was not. -/
theorem reaches_of_put (h : Reaches owner root (F.put owner s y i).get x) :
    Reaches owner root F.get x ∨ x = y := by
  induction h with
  | root => exact .inl .root
  | @slot s' x' ho hs ih =>
    simp only [put] at hs
    split at hs
    · exact .inr (Option.some.inj hs).symm
    · split at hs
      · cases hs
      · rename_i hne
        exact .inl (.slot (ih.resolve_right hne) hs)

/-- In a free slot the new item takes nothing away. -/
theorem reaches_put (hfresh : F.Fresh owner root y) (hs : Reaches owner root F.get (owner s))
    (hfree : F.get s = none) :
    Reaches owner root (F.put owner s y i).get x ↔ Reaches owner root F.get x ∨ x = y := by
  have hkeeps : ∀ x, Reaches owner root F.get x → Reaches owner root (F.put owner s y i).get x := by
    intro x hx
    induction hx with
    | root => exact .root
    | @slot s' x' ho hs' ih =>
      refine .slot ih ?_
      have hne : s' ≠ s := by
        rintro rfl
        rw [hfree] at hs'
        cases hs'
      have hown : owner s' ≠ y := fun h => hfresh.unreached (h ▸ ho)
      exact (get_put_of_ne hne hown).trans hs'
  refine ⟨reaches_of_put, fun h => ?_⟩
  rcases h with h | rfl
  · exact hkeeps x h
  · exact .slot (hkeeps _ hs) (if_pos rfl)

/-- The item that was in the slot is cut off. -/
theorem not_reaches_put (hF : IsForest owner root F.get) (hfresh : F.Fresh owner root y)
    (hs : Reaches owner root F.get (owner s)) (hx : F.get s = some x) :
    ¬ Reaches owner root (F.put owner s y i).get x := by
  intro hr
  obtain ⟨s', ho, hs'⟩ := hr.exists_slot (fun h => hF.root s (h ▸ hx))
  have hxy : x ≠ y := fun h => hfresh.unreached (h ▸ .slot hs hx)
  simp only [put] at hs'
  split at hs'
  · exact hxy (Option.some.inj hs').symm
  · rename_i hne
    split at hs'
    · cases hs'
    · rename_i hown
      exact hne (hF.inj s' s x ((reaches_of_put ho).resolve_right hown) hs hs' hx)

theorem isForest_put (hF : IsForest owner root F.get) (hfresh : F.Fresh owner root y) :
    IsForest owner root (F.put owner s y i).get := by
  have hroot : y ≠ root := fun h => hfresh.unreached (h ▸ .root)
  refine ⟨fun s₁ s₂ x h₁ h₂ hx₁ hx₂ => ?_, fun s' hs' => ?_⟩
  · simp only [put] at hx₁ hx₂
    split at hx₁ <;> split at hx₂
    · rename_i e₁ e₂
      exact e₁.trans e₂.symm
    · split at hx₂
      · cases hx₂
      · rename_i hown
        obtain rfl := Option.some.inj hx₁
        exact absurd (.slot ((reaches_of_put h₂).resolve_right hown) hx₂) hfresh.unreached
    · split at hx₁
      · cases hx₁
      · rename_i hown
        obtain rfl := Option.some.inj hx₂
        exact absurd (.slot ((reaches_of_put h₁).resolve_right hown) hx₁) hfresh.unreached
    · split at hx₁ <;> split at hx₂
      · cases hx₁
      · cases hx₁
      · cases hx₂
      · rename_i o₁ o₂
        exact hF.inj s₁ s₂ x ((reaches_of_put h₁).resolve_right o₁)
          ((reaches_of_put h₂).resolve_right o₂) hx₁ hx₂
  · simp only [put] at hs'
    split at hs'
    · exact hroot (Option.some.inj hs')
    · split at hs'
      · cases hs'
      · exact hF.root s' hs'

/-- **The exact condition for an item to be put in.** Its id is new in the tree; a stale entry
under it is repaired. -/
theorem exactUpTo_put (hfresh : F.Fresh owner root y) (hs : Reaches owner root F.get (owner s))
    (hfree : F.get s = none) :
    (F.put owner s y i).ExactUpTo owner root S ↔
      (F.ExactUpTo owner root fun j => S j ∨ j = i) ∧
        ∀ x, Reaches owner root F.get x → F.idOf x ≠ i := by
  have hreach : ∀ x, Reaches owner root (F.put owner s y i).get x ↔
      Reaches owner root F.get x ∨ x = y := fun x => reaches_put hfresh hs hfree
  have hid : ∀ x, Reaches owner root F.get x → (F.put owner s y i).idOf x = F.idOf x :=
    fun x hx => Function.update_of_ne (by rintro rfl; exact hfresh.unreached hx) _ _
  have hself : (F.put owner s y i).idOf y = i := Function.update_self ..
  have hnew : (F.put owner s y i).index i = some y := Function.update_self ..
  have hold : ∀ j, j ≠ i → (F.put owner s y i).index j = F.index j :=
    fun j hj => Function.update_of_ne hj _ _
  constructor
  · intro h
    have hne : ∀ x, Reaches owner root F.get x → F.idOf x ≠ i := by
      intro x hx hi
      have hfind := h.finds x ((hreach x).mpr (.inl hx))
      rw [hid x hx, hi, hnew] at hfind
      exact hfresh.unreached ((Option.some.inj hfind).symm ▸ hx)
    refine ⟨⟨fun x hx => ?_, fun j x hj => ?_⟩, hne⟩
    · have hfind := h.finds x ((hreach x).mpr (.inl hx))
      rwa [hid x hx, hold _ (hne x hx)] at hfind
    · by_cases hji : j = i
      · exact .inr (.inr hji)
      · rcases h.only j x ((hold j hji).trans hj) with ⟨hx, hxid⟩ | hS
        · have hx' := ((hreach x).mp hx).resolve_right fun h => hfresh.unindexed j (h ▸ hj)
          exact .inl ⟨hx', (hid x hx').symm.trans hxid⟩
        · exact .inr (.inl hS)
  · rintro ⟨h, hne⟩
    refine ⟨fun x hx => ?_, fun j x hj => ?_⟩
    · rcases (hreach x).mp hx with hx | rfl
      · rw [hid x hx, hold _ (hne x hx), h.finds x hx]
      · rw [hself, hnew]
    · by_cases hji : j = i
      · subst hji
        obtain rfl := Option.some.inj (hnew.symm.trans hj)
        exact .inl ⟨(hreach y).mpr (.inr rfl), hself⟩
      · rw [hold j hji] at hj
        rcases h.only j x hj with ⟨hx, hxid⟩ | hS | hi
        · exact .inl ⟨(hreach x).mpr (.inl hx), (hid x hx).trans hxid⟩
        · exact .inr hS
        · exact absurd hi hji

/-- An item that is put under an indexed one, with an id the index does not have, changes nothing
about whether the index is exact. -/
theorem exact_put {j : κ} (hfresh : F.Fresh owner root y) (hs : F.index j = some (owner s))
    (hfree : F.get s = none) (hi : F.index i = none) :
    (F.put owner s y i).Exact owner root ↔ F.Exact owner root := by
  by_cases hown : Reaches owner root F.get (owner s)
  · rw [Exact, exactUpTo_put hfresh hown hfree]
    constructor
    · rintro ⟨h, -⟩
      refine ⟨h.finds, fun k x hk => ?_⟩
      rcases h.only k x hk with hx | hk' | hk'
      · exact .inl hx
      · exact hk'.elim
      · rw [hk', hi] at hk
        cases hk
    · intro h
      refine ⟨⟨h.finds, fun k x hk => (h.only k x hk).imp_right .inl⟩, fun x hx hxi => ?_⟩
      have hfind := h.finds x hx
      rw [hxi, hi] at hfind
      cases hfind
  · have hji : j ≠ i := by
      rintro rfl
      rw [hi] at hs
      cases hs
    constructor
    · intro h
      have hput : (F.put owner s y i).index j = some (owner s) :=
        (Function.update_of_ne hji _ _).trans hs
      rcases h.only j _ hput with ⟨hr, -⟩ | hfalse
      · rcases reaches_of_put hr with hr | hy
        · exact absurd hr hown
        · exact absurd (hy ▸ hs) (hfresh.unindexed j)
      · exact hfalse.elim
    · intro h
      rcases h.only j _ hs with ⟨hr, -⟩ | hfalse
      · exact absurd hr hown
      · exact hfalse.elim

/-! ## Several items -/

/-- Put one item after another. -/
def puts (owner : σ → ι) (l : List (σ × ι × κ)) (F : IndexedForest σ ι κ) : IndexedForest σ ι κ :=
  l.foldl (fun F e => F.put owner e.1 e.2.1 e.2.2) F

/-- Each item is new when it is put, and gets a free slot of the tree. -/
def Free (owner : σ → ι) (root : ι) : IndexedForest σ ι κ → List (σ × ι × κ) → Prop
  | _, [] => True
  | F, e :: l => F.Fresh owner root e.2.1 ∧ Reaches owner root F.get (owner e.1) ∧
      F.get e.1 = none ∧ Free owner root (F.put owner e.1 e.2.1 e.2.2) l

theorem reaches_puts : ∀ {l : List (σ × ι × κ)} {F : IndexedForest σ ι κ}, F.Free owner root l →
    (Reaches owner root (F.puts owner l).get x ↔
      Reaches owner root F.get x ∨ x ∈ l.map fun e => e.2.1)
  | [], _, _ => by simp only [puts, List.foldl_nil, List.map_nil, List.not_mem_nil, or_false]
  | e :: l, F, ⟨hfresh, hs, hfree, hl⟩ => by
    rw [List.map_cons, List.mem_cons, ← or_assoc, ← reaches_put (i := e.2.2) hfresh hs hfree]
    exact reaches_puts hl

theorem puts_concat (l : List (σ × ι × κ)) (e : σ × ι × κ) (F : IndexedForest σ ι κ) :
    F.puts owner (l ++ [e]) = (F.puts owner l).put owner e.1 e.2.1 e.2.2 := by
  rw [puts, puts, List.foldl_append]
  rfl

theorem index_puts {i : κ} : ∀ {l : List (σ × ι × κ)} {F : IndexedForest σ ι κ},
    i ∉ l.map (fun e => e.2.2) → (F.puts owner l).index i = F.index i
  | [], _, _ => rfl
  | e :: l, F, h => by
    rw [List.map_cons, List.mem_cons, not_or] at h
    exact (index_puts (l := l) h.2).trans (Function.update_of_ne h.1 _ _)

/-- The last item hangs under one that can be reached. -/
theorem Free.last {e : σ × ι × κ} : ∀ {l : List (σ × ι × κ)} {F : IndexedForest σ ι κ},
    F.Free owner root (l ++ [e]) → Reaches owner root (F.puts owner (l ++ [e])).get (owner e.1)
  | [], _, ⟨hfresh, hs, hfree, _⟩ => (reaches_put hfresh hs hfree).mpr (.inl hs)
  | _ :: l, _, ⟨_, _, _, hl⟩ => Free.last (l := l) hl

/-- What hangs in the tree stays where it is. -/
theorem get_puts : ∀ {l : List (σ × ι × κ)} {F : IndexedForest σ ι κ}, F.Free owner root l →
    Reaches owner root F.get (owner s) → F.get s = some x → (F.puts owner l).get s = some x
  | [], _, _, _, hx => hx
  | e :: l, F, ⟨hfresh, hs, hfree, hl⟩, ho, hx => by
    have hne : s ≠ e.1 := by
      rintro rfl
      rw [hfree] at hx
      cases hx
    have hown : owner s ≠ e.2.1 := fun h => hfresh.unreached (h ▸ ho)
    have hput : (F.put owner e.1 e.2.1 e.2.2).get s = some x :=
      (get_put_of_ne hne hown).trans hx
    exact get_puts (l := l) hl ((reaches_put hfresh hs hfree).mpr (.inl ho)) hput

/-- Where nothing is put, nothing hangs that did not. -/
theorem of_get_puts : ∀ {l : List (σ × ι × κ)} {F : IndexedForest σ ι κ}, (∀ e ∈ l, e.1 ≠ s) →
    (F.puts owner l).get s = some x → F.get s = some x ∧ owner s ∉ l.map fun e => e.2.1
  | [], _, _, hx => ⟨hx, List.not_mem_nil⟩
  | e :: l, F, hne, hx => by
    rw [List.forall_mem_cons] at hne
    obtain ⟨hput, hmem⟩ := of_get_puts (l := l) hne.2 hx
    simp only [put, if_neg hne.1.symm] at hput
    split at hput
    · cases hput
    · rename_i hown
      refine ⟨hput, ?_⟩
      rw [List.map_cons, List.mem_cons, not_or]
      exact ⟨hown, hmem⟩

/-- **The exact condition for several items**: their ids are new, and no two of them alike. -/
theorem exactUpTo_puts : ∀ {l : List (σ × ι × κ)} {F : IndexedForest σ ι κ} {S : κ → Prop},
    F.Free owner root l →
    ((F.puts owner l).ExactUpTo owner root S ↔
      (F.ExactUpTo owner root fun j => S j ∨ j ∈ l.map fun e => e.2.2) ∧
        (l.map fun e => e.2.2).Nodup ∧
          ∀ i ∈ l.map fun e => e.2.2, ∀ x, Reaches owner root F.get x → F.idOf x ≠ i)
  | [], F, S, _ => by
    simp only [puts, List.foldl_nil, List.map_nil, List.not_mem_nil, or_false, List.nodup_nil,
      false_imp_iff, implies_true, and_true]
  | e :: l, F, S, ⟨hfresh, hs, hfree, hl⟩ => by
    have hput : ∀ x, Reaches owner root F.get x →
        (F.put owner e.1 e.2.1 e.2.2).idOf x = F.idOf x :=
      fun x hx => Function.update_of_ne (by rintro rfl; exact hfresh.unreached hx) _ _
    have hself : (F.put owner e.1 e.2.1 e.2.2).idOf e.2.1 = e.2.2 := Function.update_self ..
    have hsame : (fun j => (S j ∨ j ∈ l.map fun e => e.2.2) ∨ j = e.2.2) =
        fun j => S j ∨ j ∈ (e :: l).map fun e => e.2.2 := by
      funext j
      rw [List.map_cons, List.mem_cons, or_assoc, or_comm (b := j = e.2.2)]
    change (IndexedForest.puts owner l (F.put owner e.1 e.2.1 e.2.2)).ExactUpTo owner root S ↔ _
    rw [exactUpTo_puts hl, exactUpTo_put hfresh hs hfree, hsame, List.map_cons, List.nodup_cons]
    simp only [reaches_put hfresh hs hfree, List.forall_mem_cons]
    constructor
    · rintro ⟨⟨hexact, hnew⟩, hnodup, hold⟩
      refine ⟨hexact, ⟨fun hmem => ?_, hnodup⟩, hnew, fun i hi x hx => ?_⟩
      · exact hold _ hmem _ (.inr rfl) hself
      · rw [← hput x hx]
        exact hold i hi x (.inl hx)
    · rintro ⟨hexact, ⟨hmem, hnodup⟩, hnew, hold⟩
      refine ⟨⟨hexact, hnew⟩, hnodup, fun i hi x hx => ?_⟩
      rcases hx with hx | rfl
      · rw [hput x hx]
        exact hold i hi x hx
      · rw [hself]
        rintro rfl
        exact hmem hi

end IndexedForest

end Lib
