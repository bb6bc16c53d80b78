import Mathlib.Data.List.Nodup
import Mathlib.Data.List.Forall2
import Mathlib.Algebra.BigOperators.Group.List.Basic
import Waechter.Protocol.HistoryReport

/-!
# When a closed connection is reported as it is stored

An entry is closed with the sample of the last `Update` before. Here a run of the history is watched:
what that `Update` found in the set of the entry, and what has left the set since.

* `reported_iff`: when every entry is closed by the items that the last `Update` found, each with
  the bytes it had then, the reports are what was stored; and that is needed, when no item leaves
  with fewer bytes than it had.
* `closed_without_sample`: an entry that no `Update` saw is stored with its bytes, and reported
  without any.
-/

namespace Waechter

open Lib

/-! ## Items with their bytes -/

namespace Departure

/-- The items that have any bytes. -/
def carrying (l : List Departure) : List Departure :=
  l.filter fun x => x.dataIn ≠ 0 ∨ x.dataOut ≠ 0

/-- The bytes of the items together. -/
def sumIn (l : List Departure) : WBytes := l.foldr (fun x n => x.dataIn + n) 0

def sumOut (l : List Departure) : WBytes := l.foldr (fun x n => x.dataOut + n) 0

/-- The same item, with at least as many bytes. -/
structure Under (y z : Departure) : Prop where
  item : z.item = y.item
  dataIn : y.dataIn ≤ z.dataIn
  dataOut : y.dataOut ≤ z.dataOut

instance (y z : Departure) : Decidable (Under y z) :=
  decidable_of_iff (z.item = y.item ∧ y.dataIn ≤ z.dataIn ∧ y.dataOut ≤ z.dataOut)
    ⟨fun h => ⟨h.1, h.2.1, h.2.2⟩, fun h => ⟨h.item, h.dataIn, h.dataOut⟩⟩

@[simp] theorem sumIn_cons (x : Departure) (l : List Departure) :
    sumIn (x :: l) = x.dataIn + sumIn l := rfl

@[simp] theorem sumOut_cons (x : Departure) (l : List Departure) :
    sumOut (x :: l) = x.dataOut + sumOut l := rfl

@[simp] theorem sumIn_append : ∀ l l' : List Departure, sumIn (l ++ l') = sumIn l + sumIn l'
  | [], _ => (Nat.zero_add _).symm
  | x :: l, l' => by rw [List.cons_append, sumIn_cons, sumIn_cons, sumIn_append l l', Nat.add_assoc]

@[simp] theorem sumOut_append : ∀ l l' : List Departure, sumOut (l ++ l') = sumOut l + sumOut l'
  | [], _ => (Nat.zero_add _).symm
  | x :: l, l' => by
    rw [List.cons_append, sumOut_cons, sumOut_cons, sumOut_append l l', Nat.add_assoc]

theorem sums_perm {l l' : List Departure} (h : l.Perm l') :
    sumIn l = sumIn l' ∧ sumOut l = sumOut l' := by
  induction h with
  | nil => exact ⟨rfl, rfl⟩
  | cons x _ ih => exact ⟨congrArg (x.dataIn + ·) ih.1, congrArg (x.dataOut + ·) ih.2⟩
  | swap x y l => exact ⟨Nat.add_left_comm .., Nat.add_left_comm ..⟩
  | trans _ _ ih ih' => exact ⟨ih.1.trans ih'.1, ih.2.trans ih'.2⟩

/-- Items without bytes do not count. -/
theorem sums_carrying : ∀ l : List Departure,
    sumIn (carrying l) = sumIn l ∧ sumOut (carrying l) = sumOut l
  | [] => ⟨rfl, rfl⟩
  | x :: l => by
    obtain ⟨hin, hout⟩ := sums_carrying l
    by_cases hx : x.dataIn ≠ 0 ∨ x.dataOut ≠ 0
    · have hkeep : carrying (x :: l) = x :: carrying l := List.filter_cons_of_pos (decide_eq_true hx)
      rw [hkeep]
      exact ⟨congrArg (x.dataIn + ·) hin, congrArg (x.dataOut + ·) hout⟩
    · rw [carrying, List.filter_cons_of_neg (by simpa only [decide_eq_true_eq] using hx)]
      simp only [not_or, not_not] at hx
      rw [sumIn_cons, sumOut_cons, hx.1, hx.2, Nat.zero_add, Nat.zero_add]
      exact ⟨hin, hout⟩

theorem carrying_of_sums : ∀ {l : List Departure}, sumIn l = 0 → sumOut l = 0 → carrying l = []
  | [], _, _ => rfl
  | x :: l, hin, hout => by
    rw [sumIn_cons, Nat.add_eq_zero_iff] at hin
    rw [sumOut_cons, Nat.add_eq_zero_iff] at hout
    rw [carrying, List.filter_cons_of_neg (by
      simp only [hin.1, hout.1, ne_eq, not_true_eq_false, or_self, decide_false, Bool.false_eq_true,
        not_false_eq_true])]
    exact carrying_of_sums hin.2 hout.2

/-- Each of some items is among the others, with at least its bytes: they can be picked out. -/
theorem exists_picked : ∀ {found : List Departure} (left : List Departure),
    (found.map (·.item)).Nodup → (∀ y ∈ found, ∃ z ∈ left, Under y z) →
    ∃ picked rest, left.Perm (picked ++ rest) ∧ List.Forall₂ Under found picked
  | [], left, _, _ => ⟨[], left, .refl _, .nil⟩
  | y :: found, left, hnodup, hcover => by
    obtain ⟨z, hz, hyz⟩ := hcover y List.mem_cons_self
    rw [List.map_cons, List.nodup_cons] at hnodup
    -- the others are other items, so they are still there without this one
    obtain ⟨picked, rest, hperm, hpicked⟩ := exists_picked (left.erase z) hnodup.2
      fun y' hy' => by
        obtain ⟨z', hz', hyz'⟩ := hcover y' (List.mem_cons_of_mem y hy')
        refine ⟨z', (List.mem_erase_of_ne ?_).mpr hz', hyz'⟩
        rintro rfl
        exact hnodup.1 (List.mem_map.mpr ⟨y', hy', hyz'.item.symm.trans hyz.item⟩)
    exact ⟨z :: picked, rest, (List.perm_cons_erase hz).trans (hperm.cons z), .cons hyz hpicked⟩

theorem surplus_eq {y z p a f : Nat} (h : z + p + a = y + f) (hyz : y ≤ z) :
    p + (z - y + a) = f := by
  omega

theorem eq_of_surplus {y z a : Nat} (h : z - y + a = 0) (hyz : y ≤ z) : z = y ∧ a = 0 := by
  omega

/-- With the same bytes together, they are the same. -/
theorem eq_of_forall₂ : ∀ {found picked : List Departure} {a b : WBytes},
    List.Forall₂ Under found picked → sumIn picked + a = sumIn found →
    sumOut picked + b = sumOut found → picked = found ∧ a = 0 ∧ b = 0
  | _, _, a, b, .nil, hin, hout => ⟨rfl, (Nat.zero_add a).symm.trans hin,
      (Nat.zero_add b).symm.trans hout⟩
  | y :: found, z :: picked, a, b, .cons hyz hrest, hin, hout => by
    rw [sumIn_cons, sumIn_cons] at hin
    rw [sumOut_cons, sumOut_cons] at hout
    obtain ⟨rfl, ha, hb⟩ := eq_of_forall₂ hrest (surplus_eq hin hyz.dataIn)
      (surplus_eq hout hyz.dataOut)
    obtain ⟨hzin, rfl⟩ := eq_of_surplus ha hyz.dataIn
    obtain ⟨hzout, rfl⟩ := eq_of_surplus hb hyz.dataOut
    have hsame : z = y := by
      obtain ⟨item, dataIn, dataOut⟩ := y
      obtain ⟨item', dataIn', dataOut'⟩ := z
      exact congr (congr (congrArg Departure.mk hyz.item) hzin) hzout
    exact ⟨by rw [hsame], rfl, rfl⟩

/-- **Items that have left, against the ones that were found.** When each of the latter left with at
least its bytes, the bytes are the same together exactly when those with bytes are the same. -/
theorem sums_eq_iff {found left : List Departure} (hnodup : (found.map (·.item)).Nodup)
    (hcover : ∀ y ∈ found, ∃ z ∈ left, Under y z) :
    (sumIn left = sumIn found ∧ sumOut left = sumOut found) ↔
      (carrying left).Perm (carrying found) := by
  constructor
  · rintro ⟨hin, hout⟩
    obtain ⟨picked, rest, hperm, hpicked⟩ := exists_picked _ hnodup hcover
    obtain ⟨hin', hout'⟩ := sums_perm hperm
    rw [sumIn_append] at hin'
    rw [sumOut_append] at hout'
    obtain ⟨rfl, hrest, hrest'⟩ := eq_of_forall₂ hpicked (hin'.symm.trans hin)
      (hout'.symm.trans hout)
    have hfilter : (carrying left).Perm (carrying (picked ++ rest)) := hperm.filter _
    have happend : carrying (picked ++ rest) = carrying picked ++ carrying rest :=
      List.filter_append ..
    rwa [happend, carrying_of_sums hrest hrest', List.append_nil] at hfilter
  · intro h
    obtain ⟨hin, hout⟩ := sums_perm h
    rw [(sums_carrying left).1, (sums_carrying found).1] at hin
    rw [(sums_carrying left).2, (sums_carrying found).2] at hout
    exact ⟨hin, hout⟩

end Departure

/-! ## A watched run -/

/-- The history of a run and two observations: the items that the last `Update` found in the set of
an entry, and the ones that have left the set since, with the bytes they had. -/
structure Watched where
  history : ConnectionHistory := {}
  found : Nat → List Departure := fun _ => []
  left : Nat → List Departure := fun _ => []

namespace Watched

open ConnectionHistory Departure

/-- An item leaves. -/
def depart (t : CounterTree) (w : Watched) (x : ConnectionKey × Departure) : Watched :=
  { history := untrack t x.1 x.2 w.history
    found := w.found
    left :=
      match (w.history.activeConnections.lookup x.1).bind (·.parentEntry) with
      | some id => Function.update w.left id (w.left id ++ [x.2])
      | none => w.left }

/-- An item with its totals. -/
def itemDeparture (t : CounterTree) (c : CounterId) : Departure :=
  { item := c, dataIn := (totalsOf t c).1, dataOut := (totalsOf t c).2 }

/-- The items of a set, if there is one. -/
def foundIn (t : CounterTree) : Option ConnectionSet → List Departure
  | some set => set.connections.map (itemDeparture t)
  | none => []

/-- One step. -/
def step (w : Watched) : HistoryOp → Watched
  | .event e => { (removedBy e).foldl (depart e.tree) w with history := w.history.handle e }
  | .update t =>
    { history := (w.history.update t).2
      found := fun id => foundIn t (w.history.setOf id)
      left := fun _ => [] }

/-- The last item of a listed entry leaves only when, since the last `Update`, those and only those
have left its set that were in it then, each with the bytes it had. Items without bytes do not
count. -/
def Sampled (w : Watched) (x : ConnectionKey × Departure) : Prop :=
  ∀ set ∈ w.history.activeConnections.lookup x.1, (∀ c ∈ set.connections, c = x.2.item) →
    ∀ id ∈ set.parentEntry, id ∈ w.history.history →
      (carrying (w.left id ++ [x.2])).Perm (carrying (w.found id))

/-- An item leaves with at least the bytes that the last `Update` found. -/
def Grown (w : Watched) (x : ConnectionKey × Departure) : Prop :=
  ∀ set ∈ w.history.activeConnections.lookup x.1, ∀ id ∈ set.parentEntry,
    ∀ y ∈ w.found id, y.item = x.2.item → Under y x.2

/-- Every departure of a step, one after the other. -/
def Departures (G : Watched → ConnectionKey × Departure → Prop) (w : Watched) : HistoryOp → Prop
  | .event e => AllSteps (depart e.tree) G w (removedBy e)
  | .update _ => True

instance (w : Watched) (x : ConnectionKey × Departure) : Decidable (w.Sampled x) :=
  inferInstanceAs (Decidable (∀ set ∈ w.history.activeConnections.lookup x.1, _ →
    ∀ id ∈ set.parentEntry, _ → _))

instance (w : Watched) (x : ConnectionKey × Departure) : Decidable (w.Grown x) :=
  inferInstanceAs (Decidable (∀ set ∈ w.history.activeConnections.lookup x.1,
    ∀ id ∈ set.parentEntry, ∀ y ∈ w.found id, _ → _))

instance (G : Watched → ConnectionKey × Departure → Prop) [∀ w x, Decidable (G w x)] (w : Watched) :
    (o : HistoryOp) → Decidable (Departures G w o)
  | .event e => inferInstanceAs (Decidable (AllSteps (depart e.tree) G w (removedBy e)))
  | .update _ => .isTrue trivial

variable {w : Watched}

/-! ## What the observations say -/

/-- The sample of an entry and what has left its set since, against the set and what was found. -/
structure Account (w : Watched) (set : ConnectionSet) (id : Nat) : Prop where
  dataIn : (w.history.entry id).dataIn + sumIn (w.left id) = set.baseDataIn + sumIn (w.found id)
  dataOut : (w.history.entry id).dataOut + sumOut (w.left id) = set.baseDataOut + sumOut (w.found id)

/-- Every active set of a listed entry is accounted for, and nothing was seen of later entries. -/
structure Seen (w : Watched) : Prop where
  fresh : ∀ id, w.history.nextConnectionId ≤ id → w.left id = [] ∧ w.found id = []
  account : ∀ key set id, w.history.activeConnections.lookup key = some set →
    set.parentEntry = some id → id ∈ w.history.history → w.Account set id

/-- What was found in a set is different items, and each is still there or has left. -/
structure Followed (w : Watched) : Prop where
  nodup : ∀ key set, w.history.activeConnections.lookup key = some set → set.connections.Nodup
  distinct : ∀ id, ((w.found id).map (·.item)).Nodup
  covered : ∀ key set id, w.history.activeConnections.lookup key = some set →
    set.parentEntry = some id → ∀ y ∈ w.found id, y.item ∈ set.connections ∨ ∃ z ∈ w.left id, Under y z

/-! ## A departure -/

/-- An active set after a departure is one from before, or the one that the item left. -/
theorem lookup_depart (hl : Linked w.history) {t : CounterTree} {x : ConnectionKey × Departure}
    {q : ConnectionKey} {set : ConnectionSet} {id : Nat}
    (hset : (depart t w x).history.activeConnections.lookup q = some set)
    (hid : set.parentEntry = some id) :
    (w.history.activeConnections.lookup q = some set ∧ (depart t w x).left id = w.left id) ∨
      ∃ old, w.history.activeConnections.lookup x.1 = some old ∧ set = old.remove x.2 ∧
        old.parentEntry = some id ∧ (depart t w x).left id = w.left id ++ [x.2] := by
  simp only [depart, lookup_untrack] at hset ⊢
  split at hset
  · obtain ⟨old, hold, hshrink⟩ := Option.bind_eq_some_iff.mp hset
    rw [shrink] at hshrink
    split at hshrink
    · cases hshrink
    · cases hshrink
      have hparent : old.parentEntry = some id := hid
      refine .inr ⟨old, hold, rfl, hparent, ?_⟩
      simp only [hold, Option.bind_some, hparent, Function.update_self]
  · rename_i hne
    refine .inl ⟨hset, ?_⟩
    cases hold : w.history.activeConnections.lookup x.1 with
    | none => rfl
    | some old =>
      cases hparent : old.parentEntry with
      | none => simp only [Option.bind_some, hparent]
      | some i =>
        have hother : id ≠ i := by
          rintro rfl
          exact hne (hl.own q x.1 set old id hset hold hid hparent)
        simp only [Option.bind_some, hparent, Function.update_of_ne hother]

/-- Nothing is seen of a later entry by a departure. -/
theorem left_depart (hl : Linked w.history) (t : CounterTree) (x : ConnectionKey × Departure)
    {id : Nat} (hid : w.history.nextConnectionId ≤ id) : (depart t w x).left id = w.left id := by
  simp only [depart]
  cases hold : w.history.activeConnections.lookup x.1 with
  | none => rfl
  | some old =>
    cases hparent : old.parentEntry with
    | none => simp only [Option.bind_some, hparent]
    | some i =>
      have hlt := (hl.opened x.1 old i hold hparent).1
      simp only [Option.bind_some, hparent,
        Function.update_of_ne (Nat.ne_of_gt (Nat.lt_of_lt_of_le hlt hid))]

theorem Seen.depart (h : Seen w) (hl : Linked w.history) (t : CounterTree)
    (x : ConnectionKey × Departure) : Seen (depart t w x) := by
  obtain ⟨hhistory, -, hnext⟩ := untrack_history (s := w.history) t x.1 x.2
  refine ⟨fun id hid => ?_, fun q set id hset hid hlisted => ?_⟩
  · have hid' : w.history.nextConnectionId ≤ id := hnext ▸ hid
    rw [left_depart hl t x hid']
    exact h.fresh id hid'
  · have hlisted' : id ∈ w.history.history := hhistory ▸ hlisted
    obtain ⟨hin, hout⟩ := (departs_untrack hl t x).data id
    rcases lookup_depart hl hset hid with ⟨hold, hleft⟩ | ⟨old, hold, rfl, hparent, hleft⟩
    · obtain ⟨hdataIn, hdataOut⟩ := h.account q set id hold hid hlisted'
      refine ⟨?_, ?_⟩
      · rw [hleft]
        exact (congrArg (· + _) hin).trans hdataIn
      · rw [hleft]
        exact (congrArg (· + _) hout).trans hdataOut
    · obtain ⟨hdataIn, hdataOut⟩ := h.account x.1 old id hold hparent hlisted'
      refine ⟨?_, ?_⟩
      · rw [hleft, sumIn_append]
        refine (congrArg (· + _) hin).trans ?_
        rw [← Nat.add_assoc, hdataIn]
        exact Nat.add_right_comm ..
      · rw [hleft, sumOut_append]
        refine (congrArg (· + _) hout).trans ?_
        rw [← Nat.add_assoc, hdataOut]
        exact Nat.add_right_comm ..

theorem Followed.depart (h : Followed w) (hl : Linked w.history) (t : CounterTree)
    {x : ConnectionKey × Departure} (hgrown : w.Grown x) : Followed (depart t w x) := by
  refine ⟨fun q set hset => ?_, h.distinct, fun q set id hset hid y hy => ?_⟩
  · have hback := hset
    simp only [Watched.depart, lookup_untrack] at hback
    split at hback
    · obtain ⟨old, hold, hshrink⟩ := Option.bind_eq_some_iff.mp hback
      rw [shrink] at hshrink
      split at hshrink
      · cases hshrink
      · cases hshrink
        exact (h.nodup x.1 old hold).filter _
    · exact h.nodup q set hback
  · rcases lookup_depart hl hset hid with ⟨hold, hleft⟩ | ⟨old, hold, rfl, hparent, hleft⟩
    · rw [hleft]
      exact h.covered q set id hold hid y hy
    · rw [hleft]
      rcases h.covered x.1 old id hold hparent y hy with hmem | ⟨z, hz, hyz⟩
      · by_cases hitem : y.item = x.2.item
        · exact .inr ⟨x.2, List.mem_append_right _ (List.mem_singleton_self _),
            hgrown old hold id hparent y hy hitem⟩
        · exact .inl (List.mem_filter.mpr ⟨hmem, decide_eq_true hitem⟩)
      · exact .inr ⟨z, List.mem_append_left _ hz, hyz⟩

/-- A set becomes empty when its only item leaves. -/
theorem remove_empty_iff (set : ConnectionSet) (x : Departure) :
    (set.remove x).connections = [] ↔ ∀ c ∈ set.connections, c = x.item := by
  simp only [ConnectionSet.remove, List.filter_eq_nil_iff, ne_eq, decide_eq_true_eq, not_not]

/-- A listed entry is closed with the data of its set exactly when what has left the set since the
last `Update` has the bytes of what that `Update` found. -/
theorem Seen.complete_iff_sampled (h : Seen w) (x : ConnectionKey × Departure) :
    w.history.Complete x ↔
      ∀ set ∈ w.history.activeConnections.lookup x.1, (∀ c ∈ set.connections, c = x.2.item) →
        ∀ id ∈ set.parentEntry, id ∈ w.history.history →
          sumIn (w.left id ++ [x.2]) = sumIn (w.found id) ∧
            sumOut (w.left id ++ [x.2]) = sumOut (w.found id) := by
  have harith {a l b f n : Nat} (h : a + l = b + f) : a = b + n ↔ l + n = f := by omega
  refine forall_congr' fun set => imp_congr_right fun hset => ?_
  rw [remove_empty_iff]
  refine imp_congr_right fun _ => forall_congr' fun id => imp_congr_right fun hid =>
    imp_congr_right fun hlisted => ?_
  obtain ⟨hin, hout⟩ := h.account x.1 set id hset hid hlisted
  rw [sumIn_append, sumOut_append]
  exact and_congr (harith hin) (harith hout)

theorem Seen.complete (h : Seen w) {x : ConnectionKey × Departure} (hsampled : w.Sampled x) :
    w.history.Complete x := by
  refine (h.complete_iff_sampled x).mpr fun set hset hlast id hid hlisted => ?_
  obtain ⟨hin, hout⟩ := sums_perm (hsampled set hset hlast id hid hlisted)
  rw [(sums_carrying _).1, (sums_carrying _).1] at hin
  rw [(sums_carrying _).2, (sums_carrying _).2] at hout
  exact ⟨hin, hout⟩

theorem Seen.sampled (h : Seen w) (hf : Followed w) {x : ConnectionKey × Departure}
    (hgrown : w.Grown x) (hcomplete : w.history.Complete x) : w.Sampled x := by
  intro set hset hlast id hid hlisted
  refine (sums_eq_iff (hf.distinct id) fun y hy => ?_).mp
    ((h.complete_iff_sampled x).mp hcomplete set hset hlast id hid hlisted)
  rcases hf.covered x.1 set id hset hid y hy with hmem | ⟨z, hz, hyz⟩
  · exact ⟨x.2, List.mem_append_right _ (List.mem_singleton_self _),
      hgrown set hset id hid y hy (hlast y.item hmem)⟩
  · exact ⟨z, List.mem_append_left _ hz, hyz⟩

/-! ## An arrival -/

/-- An active set after an arrival: one from before with perhaps another item, or a new one. -/
inductive Arrives (s s' : ConnectionHistory) (q : ConnectionKey) (new : ConnectionSet) : Prop
  | old (set : ConnectionSet) (hset : s.activeConnections.lookup q = some set)
      (hparent : new.parentEntry = set.parentEntry) (hin : new.baseDataIn = set.baseDataIn)
      (hout : new.baseDataOut = set.baseDataOut) (hitems : set.connections ⊆ new.connections)
      (hnodup : set.connections.Nodup → new.connections.Nodup)
  | new (hin : new.baseDataIn = 0) (hout : new.baseDataOut = 0) (hnodup : new.connections.Nodup)
      (hparent : ∀ id, new.parentEntry = some id → id = s.nextConnectionId ∧
        (s'.entry id).dataIn = 0 ∧ (s'.entry id).dataOut = 0)

theorem arrives_track (s : ConnectionHistory) (env : HistoryEnv) (t : CounterTree) (app : Ref)
    (key : ConnectionKey) (item : CounterId) {q : ConnectionKey} {set : ConnectionSet}
    (hset : (track env t app key item s).activeConnections.lookup q = some set) :
    Arrives s (track env t app key item s) q set := by
  rw [lookup_track] at hset
  split at hset
  · rename_i hq
    subst hq
    cases hset
    cases hkey : s.activeConnections.lookup q with
    | none =>
      simp only [joined, hkey]
      refine .new rfl rfl (List.nodup_singleton _) fun id hid => ?_
      simp only [track, hkey]
      unfold push at hid ⊢
      split at hid
      · cases hid
      · rename_i hheard
        cases hid
        simp only [if_neg hheard, Function.update_self, and_self]
    | some old =>
      simp only [joined, hkey]
      split
      · exact .old old hkey rfl rfl rfl (List.Subset.refl _) id
      · rename_i hitem
        refine .old old hkey rfl rfl rfl (List.subset_append_left _ _) fun hnodup => ?_
        exact List.nodup_append.mpr ⟨hnodup, List.nodup_singleton _, fun a ha b hb hab =>
          hitem (List.mem_singleton.mp hb ▸ hab ▸ ha)⟩
  · exact .old set hset rfl rfl rfl (List.Subset.refl _) id

theorem Arrives.withGone {s s' : ConnectionHistory} {q : ConnectionKey} {set : ConnectionSet}
    (h : Arrives s s' q set) (gone : List CounterId) : Arrives s { s' with gone := gone } q set := by
  cases h with
  | old before hbefore hparent hin hout hitems hnodup =>
    exact .old before hbefore hparent hin hout hitems hnodup
  | new hin hout hnodup hparent => exact .new hin hout hnodup hparent

/-- An event without departures. -/
structure Joins (s s' : ConnectionHistory) : Prop where
  arrives : ∀ q set, s'.activeConnections.lookup q = some set → Arrives s s' q set
  grows : Grows s s'
  entry : ∀ id < s.nextConnectionId, s'.entry id = s.entry id

theorem joins_handle (s : ConnectionHistory) (e : Event) (hnone : removedBy e = []) :
    Joins s (s.handle e) := by
  refine ⟨fun q set hset => ?_, grows_handle s e, fun id hid => ?_⟩
  · have hsame (h : s.handle e = s) : Arrives s (s.handle e) q set := by
      rw [h] at hset
      exact .old set hset rfl rfl rfl (List.Subset.refl _) id
    cases hnotice : e.notice with
    | onSocketConnected r =>
      simp only [handle, hnotice, onSocketConnected] at hset ⊢
      split at hset
      · rename_i hudp
        rw [if_pos hudp]
        exact .old set hset rfl rfl rfl (List.Subset.refl _) id
      · rename_i htcp
        rw [if_neg htcp]
        exact (arrives_track s _ _ _ _ _ hset).withGone _
    | onUDPTupleCreated u =>
      simp only [handle, hnotice] at hset ⊢
      exact (arrives_track s _ _ _ _ _ hset).withGone _
    | onSocketRemoved r => simp only [removedBy, hnotice, removedWithSocket, reduceCtorEq] at hnone
    | onUDPTupleRemoved u => simp only [removedBy, hnotice, reduceCtorEq] at hnone
    | _ => exact hsame (by simp only [handle, hnotice])
  · cases hnotice : e.notice with
    | onSocketConnected r =>
      simp only [handle, hnotice, onSocketConnected]
      split
      · rfl
      · exact entry_track _ _ _ _ _ hid
    | onUDPTupleCreated u =>
      simp only [handle, hnotice]
      exact entry_track _ _ _ _ _ hid
    | onSocketRemoved r => simp only [removedBy, hnotice, removedWithSocket, reduceCtorEq] at hnone
    | onUDPTupleRemoved u => simp only [removedBy, hnotice, reduceCtorEq] at hnone
    | _ => simp only [handle, hnotice]

theorem Seen.joins (h : Seen w) (hl : Linked w.history) {s' : ConnectionHistory}
    (hj : Joins w.history s') : Seen { w with history := s' } := by
  refine ⟨fun id hid => h.fresh id (hj.grows.next_le.trans hid), fun q set id hset hid hlisted => ?_⟩
  cases hj.arrives q set hset with
  | old before hbefore hparent hin hout hitems hnodup =>
    have hold : before.parentEntry = some id := hparent ▸ hid
    have hlt := (hl.opened q before id hbefore hold).1
    have hlisted' := (hj.grows.listed hlisted).resolve_right fun hnew =>
      Nat.ne_of_lt hlt hnew.1
    obtain ⟨hdataIn, hdataOut⟩ := h.account q before id hbefore hold hlisted'
    refine ⟨?_, ?_⟩
    · simp only [hj.entry id hlt, hin]
      exact hdataIn
    · simp only [hj.entry id hlt, hout]
      exact hdataOut
  | new hin hout hnodup hparent =>
    obtain ⟨rfl, hdataIn, hdataOut⟩ := hparent id hid
    obtain ⟨hleft, hfound⟩ := h.fresh _ (Nat.le_refl _)
    refine ⟨?_, ?_⟩
    · simp only [hdataIn, hin, hleft, hfound]
    · simp only [hdataOut, hout, hleft, hfound]

theorem Followed.joins (h : Followed w) (hs : Seen w) {s' : ConnectionHistory}
    (hj : Joins w.history s') : Followed { w with history := s' } := by
  refine ⟨fun q set hset => ?_, h.distinct, fun q set id hset hid y hy => ?_⟩
  · cases hj.arrives q set hset with
    | old before hbefore hparent hin hout hitems hnodup => exact hnodup (h.nodup q before hbefore)
    | new hin hout hnodup hparent => exact hnodup
  · cases hj.arrives q set hset with
    | old before hbefore hparent hin hout hitems hnodup =>
      exact (h.covered q before id hbefore (hparent ▸ hid) y hy).imp_left (@hitems y.item)
    | new hin hout hnodup hparent =>
      obtain ⟨rfl, -, -⟩ := hparent id hid
      rw [(hs.fresh _ (Nat.le_refl _)).2] at hy
      exact absurd hy List.not_mem_nil

/-! ## An update -/

theorem sums_found (t : CounterTree) : ∀ l : List CounterId,
    sumIn (l.map (itemDeparture t)) = (l.map fun c => (totalsOf t c).1).sum ∧
      sumOut (l.map (itemDeparture t)) = (l.map fun c => (totalsOf t c).2).sum
  | [] => ⟨rfl, rfl⟩
  | c :: l => by
    obtain ⟨hin, hout⟩ := sums_found t l
    exact ⟨congrArg ((totalsOf t c).1 + ·) hin, congrArg ((totalsOf t c).2 + ·) hout⟩

theorem setOf_fresh {s : ConnectionHistory} (hl : Linked s) {id : Nat}
    (hid : s.nextConnectionId ≤ id) : s.setOf id = none := by
  refine List.find?_eq_none.mpr fun set hset hparent => ?_
  obtain ⟨e, he, rfl⟩ := List.mem_map.mp hset
  have hlt := (hl.opened e.1 e.2 id (AList.mem_lookup_iff.mpr he) (of_decide_eq_true hparent)).1
  exact Nat.lt_irrefl _ (Nat.lt_of_lt_of_le hlt hid)

theorem seen_update (hl : Linked w.history) (t : CounterTree) :
    Seen (w.step (.update t)) := by
  refine ⟨fun id hid => ⟨rfl, ?_⟩, fun q set id hset hid hlisted => ?_⟩
  · simp only [step, setOf_fresh hl (show w.history.nextConnectionId ≤ id from hid), foundIn]
  · have hlookup : w.history.activeConnections.lookup q = some set := hset
    have hset' := hl.setOf_some hlookup hid
    have hentry := entry_update (s := w.history) t id
    rw [if_pos (show id ∈ w.history.history from hlisted)] at hentry
    simp only [updateEntry, hset', if_neg (hl.nonempty q set hlookup)] at hentry
    obtain ⟨hin, hout⟩ := sums_found t set.connections
    refine ⟨?_, ?_⟩
    · simp only [step, hentry, hset', foundIn, hin]
      exact Nat.add_zero _
    · simp only [step, hentry, hset', foundIn, hout]
      exact Nat.add_zero _

theorem Followed.update (h : Followed w) (hl : Linked w.history) (t : CounterTree) :
    Followed (w.step (.update t)) := by
  refine ⟨h.nodup, fun id => ?_, fun q set id hset hid y hy => .inl ?_⟩
  · simp only [step]
    cases hset : w.history.setOf id with
    | none => exact List.nodup_nil
    | some set =>
      obtain ⟨e, he, rfl⟩ := List.mem_map.mp (List.mem_of_find?_eq_some hset)
      simp only [foundIn, List.map_map, Function.comp_def, itemDeparture, List.map_id']
      exact h.nodup e.1 e.2 (AList.mem_lookup_iff.mpr he)
  · simp only [step, hl.setOf_some hset hid, foundIn] at hy
    obtain ⟨c, hc, rfl⟩ := List.mem_map.mp hy
    exact hc

/-! ## Runs -/

theorem history_foldl (t : CounterTree) : ∀ (l : List (ConnectionKey × Departure)) (w : Watched),
    (l.foldl (depart t) w).history = l.foldl (fun s x => untrack t x.1 x.2 s) w.history
  | [], _ => rfl
  | x :: l, w => history_foldl t l (depart t w x)

/-- The history of a watched run is that of the run. -/
theorem history_step (w : Watched) (o : HistoryOp) :
    (w.step o).history = w.history.stepReport o := by
  cases o with
  | event e => rfl
  | update t => rfl

theorem seen_foldl (t : CounterTree) : ∀ (l : List (ConnectionKey × Departure)) {w : Watched},
    Linked w.history → Seen w →
    Seen (l.foldl (depart t) w) ∧
      (AllSteps (depart t) Sampled w l →
        AllSteps (fun s x => untrack t x.1 x.2 s) Complete w.history l)
  | [], _, _, h => ⟨h, fun _ => trivial⟩
  | x :: l, w, hl, h => by
    obtain ⟨hseen, hall⟩ := seen_foldl t l (hl.untrack t x.1 x.2) (h.depart hl t x)
    exact ⟨hseen, fun hsampled => ⟨h.complete hsampled.1, hall hsampled.2⟩⟩

theorem followed_foldl (t : CounterTree) : ∀ (l : List (ConnectionKey × Departure)) {w : Watched},
    Linked w.history → Seen w → Followed w → AllSteps (depart t) Grown w l →
    Followed (l.foldl (depart t) w) ∧
      (AllSteps (fun s x => untrack t x.1 x.2 s) Complete w.history l →
        AllSteps (depart t) Sampled w l)
  | [], _, _, _, hf, _ => ⟨hf, fun _ => trivial⟩
  | x :: l, w, hl, h, hf, hgrown => by
    obtain ⟨hfollowed, hall⟩ := followed_foldl t l (hl.untrack t x.1 x.2) (h.depart hl t x)
      (hf.depart hl t hgrown.1) hgrown.2
    exact ⟨hfollowed, fun hcomplete => ⟨h.sampled hf hgrown.1 hcomplete.1, hall hcomplete.2⟩⟩

/-- What a departing event leaves, up to who is gone. -/
theorem handle_removed (s : ConnectionHistory) (e : Event) (hsome : removedBy e ≠ []) :
    ∃ gone, s.handle e =
      { (removedBy e).foldl (fun s x => untrack e.tree x.1 x.2 s) s with gone := gone } := by
  refine ⟨(s.handle e).gone, ?_⟩
  cases hnotice : e.notice with
  | onSocketRemoved r => simp only [handle, removedBy, hnotice, onSocketRemoved]
  | onUDPTupleRemoved u =>
    simp only [handle, removedBy, hnotice, onUDPTupleRemoved, List.foldl_cons, List.foldl_nil]
  | _ => simp only [removedBy, hnotice, ne_eq, not_true_eq_false] at hsome

theorem Seen.step (h : Seen w) (hl : Linked w.history) (o : HistoryOp) : Seen (w.step o) := by
  cases o with
  | update t => exact seen_update hl t
  | event e =>
    by_cases hnone : removedBy e = []
    · simp only [Watched.step, hnone, List.foldl_nil]
      exact h.joins hl (joins_handle w.history e hnone)
    · obtain ⟨hseen, -⟩ := seen_foldl e.tree (removedBy e) hl h
      obtain ⟨gone, hgone⟩ := handle_removed w.history e hnone
      have hhistory := history_foldl e.tree (removedBy e) w
      simp only [Watched.step, hgone, ← hhistory]
      exact ⟨hseen.fresh, fun key set id hset hid hlisted =>
        have haccount := hseen.account key set id hset hid hlisted
        ⟨haccount.dataIn, haccount.dataOut⟩⟩

theorem Followed.step (h : Followed w) (hs : Seen w) (hl : Linked w.history) (o : HistoryOp)
    (hgrown : Departures Grown w o) : Followed (w.step o) := by
  cases o with
  | update t => exact h.update hl t
  | event e =>
    by_cases hnone : removedBy e = []
    · simp only [Watched.step, hnone, List.foldl_nil]
      exact h.joins hs (joins_handle w.history e hnone)
    · obtain ⟨hfollowed, -⟩ := followed_foldl e.tree (removedBy e) hl hs h hgrown
      obtain ⟨gone, hgone⟩ := handle_removed w.history e hnone
      have hhistory := history_foldl e.tree (removedBy e) w
      simp only [Watched.step, hgone, ← hhistory]
      exact ⟨hfollowed.nodup, hfollowed.distinct, hfollowed.covered⟩

theorem seen_start : Seen {} := ⟨fun _ _ => ⟨rfl, rfl⟩, fun _ _ _ h => absurd h (by simp)⟩

theorem followed_start : Followed {} :=
  ⟨fun _ _ h => absurd h (by simp), fun _ => List.nodup_nil, fun _ _ _ h => absurd h (by simp)⟩

/-- Sampled departures close no entry without its data. -/
theorem completes_of_sampled : ∀ (ops : List HistoryOp) {w : Watched}, Linked w.history → Seen w →
    AllSteps step (Departures Sampled) w ops → AllSteps stepReport Completes w.history ops
  | [], _, _, _, _ => trivial
  | o :: ops, w, hl, hs, h => by
    have hrest := completes_of_sampled ops (w := w.step o) (by
      cases o with
      | event e => exact hl.handle e
      | update t => exact hl.update t) (hs.step hl o) h.2
    rw [history_step] at hrest
    refine ⟨?_, hrest⟩
    cases o with
    | event e => exact (seen_foldl e.tree (removedBy e) hl hs).2 h.1
    | update t => trivial

/-- Where no item loses bytes, only they do. -/
theorem sampled_of_completes : ∀ (ops : List HistoryOp) {w : Watched}, Linked w.history → Seen w →
    Followed w → AllSteps step (Departures Grown) w ops →
    AllSteps stepReport Completes w.history ops → AllSteps step (Departures Sampled) w ops
  | [], _, _, _, _, _, _ => trivial
  | o :: ops, w, hl, hs, hf, hgrown, h => by
    have hrest := h.2
    rw [← history_step] at hrest
    refine ⟨?_, sampled_of_completes ops (by
      cases o with
      | event e => exact hl.handle e
      | update t => exact hl.update t) (hs.step hl o) (hf.step hs hl o hgrown.1) hgrown.2 hrest⟩
    cases o with
    | event e => exact (followed_foldl e.tree (removedBy e) hl hs hf hgrown.1).2 h.1
    | update t => trivial

end Watched

namespace ConnectionHistory

open Watched

/-- **What is reported of a closed connection.** Every report of a stored entry has the stored data,
throughout a run, when the last item of a listed entry leaves only after an `Update` that found the
items which have left since, and no others, with the bytes they had. No other run reports what is
stored, as long as no item leaves with fewer bytes than it had. -/
theorem reported_iff (ops : List HistoryOp) :
    (AllSteps Watched.step (Departures Sampled) {} ops → Always stepReport Reported {} ops) ∧
      (AllSteps Watched.step (Departures Grown) {} ops → Always stepReport Reported {} ops →
        AllSteps Watched.step (Departures Sampled) {} ops) := by
  constructor
  · intro hsampled
    exact (always_reported_iff ops).mpr (completes_of_sampled ops linked_start seen_start hsampled)
  · intro hgrown hreported
    exact sampled_of_completes ops linked_start seen_start followed_start hgrown
      ((always_reported_iff ops).mp hreported)

/-- An `Update` just before every notice. -/
def updatedClient : List HistoryOp :=
  (SystemMap.historyEvents (fun _ => {}) 0 "host" oneClient).flatMap fun e =>
    [.update e.tree, .event e]

theorem reported_updated : Always stepReport Reported {} updatedClient :=
  (reported_iff updatedClient).1 (by decide +kernel)

/-- **Bytes after the last sample are not reported**: a connection that no `Update` saw is stored
with its hundred bytes, and reported without any. -/
theorem closed_without_sample : ¬ ∀ ops, Always stepReport Reported {} ops := by
  intro hall
  have hlast := (hall ((SystemMap.historyEvents (fun _ => {}) 0 "host" oneClient).map .event)).last
  have hlist := fun row hrow => (hlast row hrow).list
  revert hlist
  decide +kernel

end ConnectionHistory

end Waechter
