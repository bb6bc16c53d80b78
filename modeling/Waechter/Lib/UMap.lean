import Mathlib.Data.List.AList
import Mathlib.Data.List.Rotate

/-!
# Hash maps

A hash map is an association list with distinct keys (Mathlib's `AList`); `lookup` is what a
reader of the map sees. Iterating over a hash map visits its entries in an order the map does not
promise: an `IterOrder` is any such choice, so a definition that takes one and a theorem that
holds for every one cover all the orders an implementation may use.

* `lookup_insert_ite`, `lookup_erase_ite`: reading after a write and after an erasure.
* `IterOrder.mem_entries`: iterating visits exactly the entries, in any order.
* `IterOrder.findSome?_eq_iff`: when a search does not depend on the order.
* `lookup_eraseIf`: erasing every entry that meets a test.
* `foldl_entries`, `get_foldl_entries`: loops over the entries whose turns keep an invariant, and
  whose turns erase their entry.
-/

namespace Lib

/-- A hash map. -/
abbrev UMap (K V : Type) := AList (fun _ : K => V)

namespace UMap

variable {K V : Type} [DecidableEq K]

/-- Reading after a write. -/
theorem lookup_insert_ite (m : UMap K V) (k : K) (v : V) (q : K) :
    (m.insert k v).lookup q = if q = k then some v else m.lookup q := by
  by_cases h : q = k
  · subst h
    rw [if_pos rfl, AList.lookup_insert]
  · rw [if_neg h, AList.lookup_insert_ne h]

/-- A map with one entry. -/
theorem lookup_single {m : UMap K V} {k q : K} {v w : V} (hm : m.entries = [⟨k, v⟩])
    (h : m.lookup q = some w) : q = k ∧ w = v := by
  have hmem : (⟨q, w⟩ : Sigma fun _ : K => V) ∈ m.entries := AList.mem_lookup_iff.mp h
  rw [hm] at hmem
  cases List.mem_singleton.mp hmem
  exact ⟨rfl, rfl⟩

theorem lookup_of_single {m : UMap K V} {k : K} {v : V} (hm : m.entries = [⟨k, v⟩]) :
    m.lookup k = some v := by
  refine AList.mem_lookup_iff.mpr ?_
  rw [hm]
  exact List.mem_singleton_self _

/-- Reading after an erasure. -/
theorem lookup_erase_ite (m : UMap K V) (k q : K) :
    (m.erase k).lookup q = if q = k then none else m.lookup q := by
  by_cases h : q = k
  · subst h
    rw [if_pos rfl, AList.lookup_erase]
  · rw [if_neg h, AList.lookup_erase_ne h]

/-- Erase every entry whose value meets the test: the loop
`if (test) It = Map.erase(It); else ++It;`. -/
def eraseIf (test : V → Bool) (m : UMap K V) : UMap K V :=
  ⟨m.entries.filter fun e => !test e.2, by
    have h := m.nodupKeys
    unfold List.NodupKeys List.keys at h ⊢
    exact h.sublist (List.filter_sublist.map _)⟩

theorem lookup_eraseIf (test : V → Bool) (m : UMap K V) (q : K) :
    (eraseIf test m).lookup q = (m.lookup q).filter fun v => !test v := by
  apply Option.ext
  intro v
  have h1 : v ∈ (eraseIf test m).lookup q ↔ Sigma.mk q v ∈ (eraseIf test m).entries :=
    AList.mem_lookup_iff
  have h2 : v ∈ m.lookup q ↔ Sigma.mk q v ∈ m.entries := AList.mem_lookup_iff
  rw [Option.mem_def] at h1 h2
  rw [h1, Option.filter_eq_some_iff, h2]
  simp only [eraseIf, List.mem_filter]

/-! ### What holds of all keys -/

theorem mem_iff_lookup {m : UMap K V} {k : K} : k ∈ m ↔ m.lookup k ≠ none := by
  rw [← AList.lookup_isSome, Option.isSome_iff_ne_none]

variable {P : K → Prop} {m : UMap K V}

theorem forall_mem_insert (h : ∀ k ∈ m, P k) {j : K} (hj : P j) (v : V) : ∀ k ∈ m.insert j v, P k := by
  intro k hk
  rcases (AList.mem_insert m).mp hk with rfl | hk
  · exact hj
  · exact h k hk

theorem forall_mem_erase (h : ∀ k ∈ m, P k) (j : K) : ∀ k ∈ m.erase j, P k :=
  fun k hk => h k (AList.mem_erase.mp hk).2

theorem forall_mem_eraseIf (h : ∀ k ∈ m, P k) (test : V → Bool) : ∀ k ∈ eraseIf test m, P k := by
  intro k hk
  rw [mem_iff_lookup, lookup_eraseIf] at hk
  refine h k (mem_iff_lookup.mpr fun hnone => hk ?_)
  rw [hnone]
  rfl

end UMap

/-! ## Loops over the entries -/

section Loop

variable {S : Type _} {K V : Type} (I : S → Prop) (get : S → K → Option V)
  (body : S → K × V → S)

/-- A loop over entries with different keys, where the turn at an entry finds the entry in place
and leaves the other ones alone: an invariant of the turns holds after the loop. `get s k` is what
the map holds under `k` in the state `s`. -/
theorem foldl_entries : ∀ (l : List (K × V)) {s : S},
    (∀ s k v, (k, v) ∈ l → I s → get s k = some v →
      I (body s (k, v)) ∧ ∀ q, q ≠ k → get (body s (k, v)) q = get s q) →
    (l.map Prod.fst).Nodup → (∀ e ∈ l, get s e.1 = some e.2) → I s → I (l.foldl body s)
  | [], _, _, _, _, hI => hI
  | (k, v) :: l, s, hbody, hn, hl, hI => by
    rw [List.map_cons, List.nodup_cons] at hn
    rw [List.forall_mem_cons] at hl
    obtain ⟨hI', hget⟩ := hbody s k v List.mem_cons_self hI hl.1
    rw [List.foldl_cons]
    refine foldl_entries l (fun s q w hq => hbody s q w (List.mem_cons_of_mem _ hq)) hn.2
      (fun e he => ?_) hI'
    have hne : e.1 ≠ k := fun h => hn.1 (h ▸ List.mem_map.mpr ⟨e, he, rfl⟩)
    rw [hget e.1 hne]
    exact hl.2 e he

/-- When every turn erases its entry, the loop erases all of them and no other one. -/
theorem get_foldl_entries : ∀ (l : List (K × V)) {s : S},
    (∀ s k v, (k, v) ∈ l → I s → get s k = some v → I (body s (k, v)) ∧
      get (body s (k, v)) k = none ∧ ∀ q, q ≠ k → get (body s (k, v)) q = get s q) →
    (l.map Prod.fst).Nodup → (∀ e ∈ l, get s e.1 = some e.2) → I s →
    ∀ q, (q ∈ l.map Prod.fst → get (l.foldl body s) q = none) ∧
      (q ∉ l.map Prod.fst → get (l.foldl body s) q = get s q)
  | [], _, _, _, _, _, _ => ⟨fun h => absurd h List.not_mem_nil, fun _ => rfl⟩
  | (k, v) :: l, s, hbody, hn, hl, hI, q => by
    rw [List.map_cons, List.nodup_cons] at hn
    rw [List.forall_mem_cons] at hl
    obtain ⟨hI', hk, hget⟩ := hbody s k v List.mem_cons_self hI hl.1
    have hl' : ∀ e ∈ l, get (body s (k, v)) e.1 = some e.2 := by
      intro e he
      have hne : e.1 ≠ k := fun h => hn.1 (h ▸ List.mem_map.mpr ⟨e, he, rfl⟩)
      rw [hget e.1 hne]
      exact hl.2 e he
    obtain ⟨h1, h2⟩ := get_foldl_entries l
      (fun s q w hq => hbody s q w (List.mem_cons_of_mem _ hq)) hn.2 hl' hI' q
    rw [List.foldl_cons, List.map_cons, List.mem_cons, not_or]
    constructor
    · rintro (rfl | hq)
      · exact (h2 hn.1).trans hk
      · exact h1 hq
    · rintro ⟨hqk, hq⟩
      exact (h2 hq).trans (hget q hqk)

end Loop

/-- An iteration order: some rearrangement of the entries. -/
structure IterOrder : Type 1 where
  order : {α : Type} → List α → List α
  perm : ∀ {α : Type} (l : List α), (order l).Perm l

namespace IterOrder

variable {K V : Type} [DecidableEq K]

/-- The order in which the entries are stored. -/
def stored : IterOrder := ⟨fun l => l, fun _ => List.Perm.refl _⟩

/-- The entries in the order in which a loop visits them. -/
def entries (o : IterOrder) (m : UMap K V) : List (K × V) :=
  o.order (m.entries.map fun e => (e.1, e.2))

omit [DecidableEq K] in
theorem length_entries (o : IterOrder) (m : UMap K V) :
    (o.entries m).length = m.entries.length := by
  rw [entries, (o.perm _).length_eq, List.length_map]

/-- **A loop visits exactly the entries**, whatever the order. -/
theorem mem_entries (o : IterOrder) (m : UMap K V) (k : K) (v : V) :
    (k, v) ∈ o.entries m ↔ m.lookup k = some v := by
  unfold entries
  rw [(o.perm _).mem_iff, ← Option.mem_def, AList.mem_lookup_iff]
  simp only [List.mem_map, Prod.mk.injEq]
  constructor
  · rintro ⟨⟨a, b⟩, h, rfl, rfl⟩
    exact h
  · intro h
    exact ⟨_, h, rfl, rfl⟩

omit [DecidableEq K] in
/-- No key is visited twice. -/
theorem nodup_entries (o : IterOrder) (m : UMap K V) : ((o.entries m).map Prod.fst).Nodup := by
  unfold entries
  rw [((o.perm _).map _).nodup_iff, List.map_map]
  exact m.nodupKeys

theorem lookup_of_mem_entries (o : IterOrder) (m : UMap K V) :
    ∀ e ∈ o.entries m, m.lookup e.1 = some e.2 :=
  fun e he => (o.mem_entries m e.1 e.2).mp he

/-- The entry of a key, if there is one, is visited once. -/
theorem filter_entries (o : IterOrder) (m : UMap K V) (k : K) :
    (o.entries m).filter (fun e => e.1 = k) = ((m.lookup k).map fun v => (k, v)).toList := by
  cases h : m.lookup k with
  | none =>
    refine List.filter_eq_nil_iff.mpr fun e he hk => ?_
    have hlookup := o.lookup_of_mem_entries m e he
    rw [of_decide_eq_true hk, h] at hlookup
    exact absurd hlookup (by simp)
  | some v =>
    obtain ⟨l, l', hl⟩ := List.append_of_mem ((o.mem_entries m k v).mpr h)
    have hn := o.nodup_entries m
    rw [hl] at hn ⊢
    simp only [List.map_append, List.map_cons, List.nodup_append, List.nodup_cons, List.mem_map,
      List.mem_cons] at hn
    obtain ⟨_, ⟨hk', _⟩, hk⟩ := hn
    have hleft : l.filter (fun e => e.1 = k) = [] :=
      List.filter_eq_nil_iff.mpr fun e he hek =>
        hk e.1 ⟨e, he, rfl⟩ k (.inl rfl) (of_decide_eq_true hek)
    have hright : l'.filter (fun e => e.1 = k) = [] :=
      List.filter_eq_nil_iff.mpr fun e he hek => hk' ⟨e, he, of_decide_eq_true hek⟩
    rw [List.filter_append, List.filter_cons_of_pos (by simp), hleft, hright]
    rfl

/-- **Some order visits an entry first.** -/
theorem exists_first (m : UMap K V) {k : K} {v : V} (h : m.lookup k = some v) :
    ∃ (o : IterOrder) (l : List (K × V)), o.entries m = (k, v) :: l := by
  obtain ⟨a, b, hab⟩ := List.append_of_mem ((stored.mem_entries m k v).mpr h)
  refine ⟨⟨fun l => l.rotate a.length, fun l => l.rotate_perm a.length⟩, b ++ a, ?_⟩
  change (stored.entries m).rotate a.length = _
  rw [hab, List.rotate_append_length_eq]
  rfl

/-- **A search finds the same in every order** exactly when all the hits are the same. -/
theorem findSome?_eq_iff {β : Type} (m : UMap K V) (f : K × V → Option β) :
    (∀ o o' : IterOrder, (o.entries m).findSome? f = (o'.entries m).findSome? f) ↔
      ∀ e e' : K × V, m.lookup e.1 = some e.2 → m.lookup e'.1 = some e'.2 →
        ∀ b b', f e = some b → f e' = some b' → b = b' := by
  constructor
  · rintro hall ⟨k, v⟩ ⟨k', v'⟩ he he' b b' hb hb'
    obtain ⟨o, l, hl⟩ := exists_first m he
    obtain ⟨o', l', hl'⟩ := exists_first m he'
    have h := hall o o'
    rw [hl, hl', List.findSome?_cons_of_isSome, List.findSome?_cons_of_isSome, hb, hb'] at h
    · exact Option.some.inj h
    · rw [hb']; rfl
    · rw [hb]; rfl
  · intro halike o o'
    cases hf : (o.entries m).findSome? f with
    | none =>
      rw [List.findSome?_eq_none_iff] at hf
      refine (List.findSome?_eq_none_iff.mpr fun e he => hf e ?_).symm
      exact (o.mem_entries m e.1 e.2).mpr (o'.lookup_of_mem_entries m e he)
    | some b =>
      obtain ⟨e, he, hb⟩ := List.exists_of_findSome?_eq_some hf
      cases hf' : (o'.entries m).findSome? f with
      | none =>
        rw [List.findSome?_eq_none_iff] at hf'
        have hmem := (o'.mem_entries m e.1 e.2).mpr (o.lookup_of_mem_entries m e he)
        rw [hf' e hmem] at hb
        cases hb
      | some b' =>
        obtain ⟨e', he', hb'⟩ := List.exists_of_findSome?_eq_some hf'
        rw [halike e e' (o.lookup_of_mem_entries m e he) (o'.lookup_of_mem_entries m e' he') b b'
          hb hb']

/-- The keys in the order in which a loop visits them. -/
def keys (o : IterOrder) (m : UMap K V) : List K := (o.entries m).map Prod.fst

/-- The values in the order in which a loop visits them. -/
def values (o : IterOrder) (m : UMap K V) : List V := (o.entries m).map Prod.snd

theorem mem_values (o : IterOrder) (m : UMap K V) (v : V) :
    v ∈ o.values m ↔ ∃ k, m.lookup k = some v := by
  unfold values
  simp only [List.mem_map, Prod.exists, exists_eq_right, mem_entries]

end IterOrder

end Lib
