import Mathlib.Data.List.GetD
import Waechter.Gui.TrafficTree
import Waechter.Lib.Forest
import Waechter.Lib.Run

/-!
# The client's tree and its index

`WTrafficTree::UpdateFromBuffer` (`Gui/Windows/TrafficTree.cpp`) changes the tree below `Root` and
the index `TrafficItems` separately. An item hangs in a slot: an application under its path, a
process under its PID, a socket under its key, a tuple and a filter at its position.

* `updateFromBuffer_ok_iff`: a batch keeps the index exact, the removed ids out of the tree, and
  every socket in its place under its cookie, exactly when the batch is `Fit`: it lists with every
  application, process and socket what hangs below it, no tuple without its socket, and no filter
  or system; it adds sockets under new ids, which are their cookies, and in free places.
* `updateFromBuffer_fails_tuple`: a tuple is removed from the index and stays in the tree.
-/

namespace Waechter

open Lib

/-- A place of the tree. -/
inductive Slot where
  | application (path : String)
  | filter (n : Nat)
  | process (a : Ref) (pid : ProcessId)
  | socket (p : Ref) (key : SocketCookie)
  | tuple (s : Ref) (n : Nat)
  deriving DecidableEq

/-- An item of the tree. A filter is referred to by its position. -/
abbrev ItemRef := TrafficItemType × Ref

/-- The item that the place belongs to. -/
def Slot.owner : Slot → ItemRef
  | .application _ => (.system, 0)
  | .filter _ => (.system, 0)
  | .process a _ => (.application, a)
  | .socket p _ => (.process, p)
  | .tuple s _ => (.socket, s)

/-- `Root`. -/
def rootItem : ItemRef := (.system, 0)

namespace ItemTree

/-- What hangs in a place. -/
def get (T : ItemTree) : Slot → Option ItemRef
  | .application path => (T.root.applications.lookup path).map fun r => (.application, r)
  | .filter n => if n < T.root.filters.length then some (.filter, n) else none
  | .process a pid => ((T.app a).processes.lookup pid).map fun r => (.process, r)
  | .socket p key => ((T.process p).sockets.lookup key).map fun r => (.socket, r)
  | .tuple s n => ((T.socket s).udpPerConnectionTraffic[n]?).map fun r => (.tuple, r)

def idOf (T : ItemTree) : ItemRef → TrafficItemId
  | (.system, _) => T.root.itemId
  | (.application, r) => (T.app r).itemId
  | (.filter, n) => (T.root.filters.getD n {}).itemId
  | (.process, r) => (T.process r).itemId
  | (.socket, r) => (T.socket r).itemId
  | (.tuple, r) => (T.tuple r).itemId

/-- The item can be reached from `Root`. -/
abbrev Has (T : ItemTree) (x : ItemRef) : Prop := Reaches Slot.owner rootItem T.get x

/-- No item hangs in two places. -/
abbrev IsTree (T : ItemTree) : Prop := IsForest Slot.owner rootItem T.get

/-- `RemoveTrafficItem` looks for applications, processes and sockets only. -/
def gone (T : ItemTree) (removed : List TrafficItemId) (x : ItemRef) : Bool :=
  (x.1 = .application || x.1 = .process || x.1 = .socket) && T.idOf x ∈ removed

/-- The items that are left when the listed ones are taken out of their places. -/
abbrev Keeps (T : ItemTree) (removed : List TrafficItemId) (x : ItemRef) : Prop :=
  Reaches Slot.owner rootItem (prune (T.gone removed) T.get) x

end ItemTree

namespace Client

/-- The tree of the client and its index. -/
def forest (c : Client) : IndexedForest Slot ItemRef TrafficItemId where
  get := c.tree.get
  idOf := c.tree.idOf
  index := fun i => c.trafficItems.lookup i

/-- `TrafficItems` is the set of items that can be reached from `Root`. -/
def Indexed (c : Client) : Prop := c.forest.Exact Slot.owner rootItem

/-- Every socket is stored in its process under its cookie. -/
def Keyed (c : Client) : Prop :=
  ∀ p k s, c.tree.Has (.process, p) → c.tree.get (.socket p k) = some (.socket, s) →
    (c.tree.socket s).cookie = k

/-- A client's tree: no item hangs in two places, and the next item is a new one. -/
structure ClientTree (c : Client) : Prop where
  tree : c.tree.IsTree
  allocated : ∀ x, c.tree.Has x → x.1 = .system ∨ x.1 = .filter ∨ x.2 < c.tree.next

end Client

/-! ## Removal -/

namespace ItemTree

variable {o : IterOrder} {T : ItemTree}

theorem get_ne_root (T : ItemTree) (s : Slot) : T.get s ≠ some rootItem := by
  cases s <;> simp [get, rootItem]

/-- `RemoveChild` finds no child, or erases one that has the id. -/
theorem removeChild_cases {K : Type} [DecidableEq K] (hasId : Ref → Bool) (children : UMap K Ref) :
    (removeChild o hasId children = none ∧ ∀ k r, children.lookup k = some r → hasId r = false) ∨
      ∃ k r, children.lookup k = some r ∧ hasId r = true ∧
        removeChild o hasId children = some (children.erase k) := by
  unfold removeChild
  cases hfind : (o.entries children).find? fun e => hasId e.2 with
  | none =>
    refine .inl ⟨rfl, fun k r hr => ?_⟩
    have hmem := (o.mem_entries children k r).mpr hr
    simpa using List.find?_eq_none.mp hfind (k, r) hmem
  | some e =>
    refine .inr ⟨e.1, e.2, ?_, List.find?_some (p := fun e : K × Ref => hasId e.2) hfind, rfl⟩
    exact (o.mem_entries children e.1 e.2).mp (List.mem_of_find?_eq_some hfind)

/-- What a search for the id ends with: the tree without an item that has the id. -/
structure Erases (i : TrafficItemId) (T T' : ItemTree) (s : Slot) : Prop where
  found : ∃ x, T.get s = some x ∧ T.gone [i] x = true
  get_eq : T'.get = Function.update T.get s none
  idOf_eq : T'.idOf = T.idOf
  socket_eq : T'.socket = T.socket
  next_eq : T'.next = T.next

theorem gone_iff {removed : List TrafficItemId} {x : ItemRef} : T.gone removed x = true ↔
    (x.1 = .application ∨ x.1 = .process ∨ x.1 = .socket) ∧ T.idOf x ∈ removed := by
  simp only [gone, Bool.and_eq_true, Bool.or_eq_true, decide_eq_true_eq, or_assoc]

theorem removeFromProcess_cases (i : TrafficItemId) (p : Ref) :
    (T.removeFromProcess o i p = none ∧
        ∀ k r, (T.process p).sockets.lookup k = some r → (T.socket r).itemId ≠ i) ∨
      ∃ k T', T.removeFromProcess o i p = some T' ∧ T.Erases i T' (.socket p k) := by
  unfold removeFromProcess
  rcases removeChild_cases (o := o) (fun r => (T.socket r).itemId = i) (T.process p).sockets with
    ⟨hnone, hall⟩ | ⟨k, r, hr, hid, hsome⟩
  · rw [hnone]
    exact .inl ⟨rfl, fun k r hr => of_decide_eq_false (hall k r hr)⟩
  · rw [hsome]
    have hget : T.get (.socket p k) = some (.socket, r) := by rw [get, hr]; rfl
    refine .inr ⟨k, _, rfl, ⟨_, hget, ?_⟩, funext fun s => ?_, funext fun x => ?_, rfl, rfl⟩
    · exact gone_iff.mpr ⟨.inr (.inr rfl), List.mem_singleton.mpr (of_decide_eq_true hid)⟩
    · cases s with
      | socket p' k' =>
        by_cases hp : p' = p
        · subst hp
          simp only [get, setProcess, Function.update_self, UMap.lookup_erase_ite,
            Function.update_apply, Slot.socket.injEq, true_and]
          split <;> rfl
        · simp only [get, setProcess, Function.update_of_ne hp]
          rw [Function.update_of_ne (fun h => hp (Slot.socket.inj h).1), get]
      | _ => rfl
    · obtain ⟨t, r'⟩ := x
      cases t with
      | process =>
        by_cases hr' : r' = p
        · simp only [idOf, setProcess, hr', Function.update_self]
        · simp only [idOf, setProcess, Function.update_of_ne hr']
      | _ => rfl

theorem removeFromApp_cases (i : TrafficItemId) (a : Ref) :
    (T.removeFromApp o i a = none ∧
        (∀ pid p, (T.app a).processes.lookup pid = some p → (T.process p).itemId ≠ i ∧
          ∀ k r, (T.process p).sockets.lookup k = some r → (T.socket r).itemId ≠ i)) ∨
      ∃ s T', T.removeFromApp o i a = some T' ∧ T.Erases i T' s ∧
        ((∃ pid, s = .process a pid) ∨
          ∃ pid p k, (T.app a).processes.lookup pid = some p ∧ s = .socket p k) := by
  unfold removeFromApp
  rcases removeChild_cases (o := o) (fun p => (T.process p).itemId = i) (T.app a).processes with
    ⟨hnone, hall⟩ | ⟨pid, p, hp, hid, hsome⟩
  · rw [hnone]
    cases hfind : (o.values (T.app a).processes).findSome? (T.removeFromProcess o i) with
    | none =>
      refine .inl ⟨rfl, fun pid p hp => ⟨of_decide_eq_false (hall pid p hp), ?_⟩⟩
      have hp' := List.findSome?_eq_none_iff.mp hfind p ((o.mem_values _ p).mpr ⟨pid, hp⟩)
      rcases removeFromProcess_cases (o := o) (T := T) i p with ⟨-, h⟩ | ⟨k, T', h, -⟩
      · exact h
      · rw [hp'] at h
        cases h
    | some T' =>
      obtain ⟨p, hp, hT'⟩ := List.exists_of_findSome?_eq_some hfind
      obtain ⟨pid, hp⟩ := (o.mem_values _ p).mp hp
      rcases removeFromProcess_cases (o := o) (T := T) i p with ⟨h, -⟩ | ⟨k, T'', h, herases⟩
      · rw [hT'] at h
        cases h
      · obtain rfl := Option.some.inj (hT'.symm.trans h)
        exact .inr ⟨_, _, rfl, herases, .inr ⟨pid, p, k, hp, rfl⟩⟩
  · rw [hsome]
    have hget : T.get (.process a pid) = some (.process, p) := by rw [get, hp]; rfl
    refine .inr ⟨_, _, rfl, ⟨⟨_, hget, ?_⟩, funext fun s => ?_, funext fun x => ?_, rfl, rfl⟩,
      .inl ⟨pid, rfl⟩⟩
    · exact gone_iff.mpr ⟨.inr (.inl rfl), List.mem_singleton.mpr (of_decide_eq_true hid)⟩
    · cases s with
      | process a' pid' =>
        by_cases ha : a' = a
        · subst ha
          simp only [get, setApp, Function.update_self, UMap.lookup_erase_ite,
            Function.update_apply, Slot.process.injEq, true_and]
          split <;> rfl
        · simp only [get, setApp, Function.update_of_ne ha]
          rw [Function.update_of_ne (fun h => ha (Slot.process.inj h).1), get]
      | _ => rfl
    · obtain ⟨t, r'⟩ := x
      cases t with
      | application =>
        by_cases hr' : r' = a
        · simp only [idOf, setApp, hr', Function.update_self]
        · simp only [idOf, setApp, Function.update_of_ne hr']
      | _ => rfl

/-! Only an application hangs under a path, and so on. -/

theorem has_application {a : Ref} : T.Has (.application, a) ↔
    ∃ path, T.root.applications.lookup path = some a := by
  constructor
  · intro h
    obtain ⟨s, -, hs⟩ := h.exists_slot (by simp [rootItem])
    cases s <;> simp [get] at hs
    exact ⟨_, hs⟩
  · rintro ⟨path, ha⟩
    have hget : T.get (.application path) = some (.application, a) := by rw [get, ha]; rfl
    exact Reaches.slot (s := Slot.application path) .root hget

theorem has_process {p : Ref} : T.Has (.process, p) ↔
    ∃ a pid, T.Has (.application, a) ∧ (T.app a).processes.lookup pid = some p := by
  constructor
  · intro h
    obtain ⟨s, ho, hs⟩ := h.exists_slot (by simp [rootItem])
    cases s <;> simp [get] at hs
    exact ⟨_, _, ho, hs⟩
  · rintro ⟨a, pid, ha, hp⟩
    have hget : T.get (.process a pid) = some (.process, p) := by rw [get, hp]; rfl
    exact Reaches.slot (s := Slot.process a pid) ha hget

/-- `RemoveTrafficItem` finds no item with the id, or takes one that has it out of its place. -/
theorem removeItem_cases (i : TrafficItemId) :
    (T.removeItem o i = T ∧ ∀ s x, T.Has s.owner → T.get s = some x → T.gone [i] x = false) ∨
      ∃ s, T.Has s.owner ∧ T.Erases i (T.removeItem o i) s := by
  unfold removeItem
  rcases removeChild_cases (o := o) (fun a => (T.app a).itemId = i) T.root.applications with
    ⟨hnone, hall⟩ | ⟨path, a, ha, hid, hsome⟩
  · rw [hnone]
    cases hfind : (o.values T.root.applications).findSome? (T.removeFromApp o i) with
    | none =>
      have hids : ∀ path a, T.root.applications.lookup path = some a →
          ∀ pid p, (T.app a).processes.lookup pid = some p → (T.process p).itemId ≠ i ∧
            ∀ k r, (T.process p).sockets.lookup k = some r → (T.socket r).itemId ≠ i := by
        intro path a ha
        have ha' := List.findSome?_eq_none_iff.mp hfind a ((o.mem_values _ a).mpr ⟨path, ha⟩)
        rcases removeFromApp_cases (o := o) (T := T) i a with ⟨-, h⟩ | ⟨s, T', h, -⟩
        · exact h
        · rw [ha'] at h
          cases h
      refine .inl ⟨rfl, fun s x hs hx => ?_⟩
      rw [← Bool.not_eq_true, gone_iff, List.mem_singleton]
      rintro ⟨htype, hid⟩
      cases s with
      | application path =>
        obtain ⟨a, ha, rfl⟩ := Option.map_eq_some_iff.mp hx
        exact of_decide_eq_false (hall path a ha) hid
      | process a pid =>
        obtain ⟨path, ha⟩ := has_application.mp hs
        obtain ⟨p, hp, rfl⟩ := Option.map_eq_some_iff.mp hx
        exact (hids path a ha pid p hp).1 hid
      | socket p k =>
        obtain ⟨a, pid, ha, hp⟩ := has_process.mp hs
        obtain ⟨path, ha⟩ := has_application.mp ha
        obtain ⟨r, hr, rfl⟩ := Option.map_eq_some_iff.mp hx
        exact (hids path a ha pid p hp).2 k r hr hid
      | filter n =>
        simp only [get, Option.ite_none_right_eq_some] at hx
        obtain rfl := Option.some.inj hx.2
        simp at htype
      | tuple r n =>
        obtain ⟨u, -, rfl⟩ := Option.map_eq_some_iff.mp hx
        simp at htype
    | some T' =>
      obtain ⟨a, ha, hT'⟩ := List.exists_of_findSome?_eq_some hfind
      obtain ⟨path, ha⟩ := (o.mem_values _ a).mp ha
      rcases removeFromApp_cases (o := o) (T := T) i a with ⟨h, -⟩ | ⟨s, T'', h, herases, hs⟩
      · rw [hT'] at h
        cases h
      · obtain rfl := Option.some.inj (hT'.symm.trans h)
        refine .inr ⟨s, ?_, herases⟩
        rcases hs with ⟨pid, rfl⟩ | ⟨pid, p, k, hp, rfl⟩
        · exact has_application.mpr ⟨path, ha⟩
        · exact has_process.mpr ⟨a, pid, has_application.mpr ⟨path, ha⟩, hp⟩
  · rw [hsome]
    have hget : T.get (.application path) = some (.application, a) := by rw [get, ha]; rfl
    refine .inr ⟨.application path, Reaches.root, ⟨_, hget, ?_⟩, funext fun s => ?_,
      funext fun x => ?_, rfl, rfl⟩
    · exact gone_iff.mpr ⟨.inl rfl, List.mem_singleton.mpr (of_decide_eq_true hid)⟩
    · cases s with
      | application path' =>
        simp only [get, UMap.lookup_erase_ite, Function.update_apply, Slot.application.injEq]
        split <;> rfl
      | _ => rfl
    · obtain ⟨t, r'⟩ := x
      cases t <;> rfl

theorem removeItem_same (i : TrafficItemId) : (T.removeItem o i).idOf = T.idOf ∧
    (T.removeItem o i).socket = T.socket ∧ (T.removeItem o i).next = T.next := by
  rcases removeItem_cases (o := o) (T := T) i with ⟨hsame, -⟩ | ⟨s, -, herases⟩
  · rw [hsame]
    exact ⟨rfl, rfl, rfl⟩
  · exact ⟨herases.idOf_eq, herases.socket_eq, herases.next_eq⟩

theorem gone_cons (i : TrafficItemId) (removed : List TrafficItemId) :
    T.gone (i :: removed) = fun x => T.gone removed x || T.gone [i] x := by
  funext x
  rw [Bool.eq_iff_iff, Bool.or_eq_true, gone_iff, gone_iff, gone_iff, List.mem_cons,
    List.mem_singleton, ← and_or_left, or_comm (a := T.idOf x = i)]

/-- **To remove an item is to prune the tree**, where ids are unique. -/
theorem removeItem_agrees (hT : T.IsTree)
    (hid : ∀ x y, T.Has x → T.Has y → T.idOf x = T.idOf y → x = y) (i : TrafficItemId) :
    Agrees Slot.owner rootItem (prune (T.gone [i]) T.get) (T.removeItem o i).get := by
  rcases removeItem_cases (o := o) (T := T) i with ⟨hsame, hnone⟩ | ⟨s, hs, herases⟩
  · rw [hsame]
    exact agrees_of_none hnone
  · obtain ⟨x, hx, hgone⟩ := herases.found
    rw [herases.get_eq]
    refine agrees_clear hx hgone fun s' x' hs' hx' hgone' => ?_
    have hi := List.mem_singleton.mp (gone_iff.mp hgone).2
    have hi' := List.mem_singleton.mp (gone_iff.mp hgone').2
    obtain rfl := hid x' x (.slot hs' hx') (.slot hs hx) (hi'.trans hi.symm)
    exact hT.inj s' s x' hs' hs hx' hx

end ItemTree

namespace Client

variable {o : IterOrder} {c : Client}

/-- After the removals the tree is the one without the listed items, and the index the one without
the listed ids. -/
structure Removed (removed : List TrafficItemId) (c c' : Client) : Prop where
  agrees : Agrees Slot.owner rootItem (prune (c.tree.gone removed) c.tree.get) c'.tree.get
  idOf_eq : c'.tree.idOf = c.tree.idOf
  cookie : ∀ s, (c'.tree.socket s).cookie = (c.tree.socket s).cookie
  next_eq : c'.tree.next = c.tree.next
  lookup : ∀ i, c'.trafficItems.lookup i = if i ∈ removed then none else c.trafficItems.lookup i

theorem removed_foldl : ∀ (removed : List TrafficItemId) {c : Client}, c.tree.IsTree →
    (∀ x y, c.tree.Has x → c.tree.Has y → c.tree.idOf x = c.tree.idOf y → x = y) →
    Removed removed c (removed.foldl (removeItem o) c)
  | [], c, _, _ => by
    refine ⟨agrees_of_none fun s x _ _ => ?_, rfl, fun _ => rfl, rfl, fun i => rfl⟩
    simp [ItemTree.gone]
  | i :: removed, c, hT, hid => by
    have hone := ItemTree.removeItem_agrees (o := o) hT hid i
    obtain ⟨hidOf, hsocket, hnext⟩ := ItemTree.removeItem_same (o := o) (T := c.tree) i
    have hT' : (removeItem o c i).tree.IsTree :=
      (hT.prune _).of_agrees hone (ItemTree.get_ne_root _)
    have hhas : ∀ x, (removeItem o c i).tree.Has x → c.tree.Has x :=
      fun x hx => (hone.reaches_of hx).of_prune
    have hid' : ∀ x y, (removeItem o c i).tree.Has x → (removeItem o c i).tree.Has y →
        (removeItem o c i).tree.idOf x = (removeItem o c i).tree.idOf y → x = y := by
      intro x y hx hy hxy
      change (c.tree.removeItem o i).idOf x = (c.tree.removeItem o i).idOf y at hxy
      rw [hidOf] at hxy
      exact hid x y (hhas x hx) (hhas y hy) hxy
    have ih := removed_foldl removed hT' hid'
    have hgone : (removeItem o c i).tree.gone removed = c.tree.gone removed := by
      funext x
      simp only [ItemTree.gone]
      rw [show (removeItem o c i).tree.idOf = c.tree.idOf from hidOf]
    refine ⟨?_, ih.idOf_eq.trans hidOf, fun s => (ih.cookie s).trans ?_, ih.next_eq.trans hnext, ?_⟩
    · rw [ItemTree.gone_cons, ← prune_prune]
      refine (hone.prune _).trans ?_
      rw [← hgone]
      exact ih.agrees
    · exact congrArg (fun f => (f s).cookie) hsocket
    · intro j
      rw [List.foldl_cons, ih.lookup]
      change (if j ∈ removed then none else (c.trafficItems.erase i).lookup j) = _
      rw [UMap.lookup_erase_ite]
      by_cases hj : j ∈ removed
      · rw [if_pos hj, if_pos (List.mem_cons_of_mem _ hj)]
      · simp only [List.mem_cons, hj, or_false, if_false]

/-- **What the removals need**: the items that stay are not listed, and those that go are, or
their entry is written over. -/
theorem Removed.exactUpTo_iff {removed : List TrafficItemId} {c' : Client} (h : Removed removed c c')
    (hc : c.Indexed) {S : TrafficItemId → Prop} :
    c'.forest.ExactUpTo Slot.owner rootItem S ↔
      (∀ x, c.tree.Keeps removed x → c.tree.idOf x ∉ removed) ∧
        ∀ x, c.tree.Has x → ¬ c.tree.Keeps removed x → c.tree.idOf x ∈ removed ∨ S (c.tree.idOf x) := by
  have hkeeps : ∀ x, c'.tree.Has x ↔ c.tree.Keeps removed x := fun x => h.agrees.reaches_congr
  have hlookup : ∀ i, c'.forest.index i = if i ∈ removed then none else c.forest.index i := h.lookup
  constructor
  · intro hexact
    refine ⟨fun x hx hmem => ?_, fun x hx hcut => ?_⟩
    · have hfind := hexact.finds x ((hkeeps x).mpr hx)
      rw [hlookup, show c'.forest.idOf x = c.tree.idOf x from congrFun h.idOf_eq x, if_pos hmem]
        at hfind
      cases hfind
    · by_cases hmem : c.tree.idOf x ∈ removed
      · exact .inl hmem
      · have hentry : c'.forest.index (c.tree.idOf x) = some x := by
          rw [hlookup, if_neg hmem]
          exact hc.finds x hx
        rcases hexact.only _ x hentry with ⟨hx', -⟩ | hS
        · exact absurd ((hkeeps x).mp hx') hcut
        · exact .inr hS
  · rintro ⟨hstays, hgoes⟩
    refine ⟨fun x hx => ?_, fun i x hi => ?_⟩
    · have hx' := (hkeeps x).mp hx
      rw [hlookup, show c'.forest.idOf x = c.tree.idOf x from congrFun h.idOf_eq x,
        if_neg (hstays x hx')]
      exact hc.finds x hx'.of_prune
    · rw [hlookup] at hi
      split at hi
      · cases hi
      · rename_i hmem
        rcases hc.only i x hi with ⟨hx, rfl⟩ | hfalse
        · by_cases hcut : c.tree.Keeps removed x
          · exact .inl ⟨(hkeeps x).mpr hcut, congrFun h.idOf_eq x⟩
          · exact .inr ((hgoes x hx hcut).resolve_left hmem)
        · exact hfalse.elim

/-! ## Changes of fields -/

/-- Nothing that places, indexes or keys an item is different. -/
structure SameShape (c c' : Client) : Prop where
  forest : c'.forest = c.forest
  cookie : ∀ s, (c'.tree.socket s).cookie = (c.tree.socket s).cookie
  next : c'.tree.next = c.tree.next

theorem SameShape.trans {c' c'' : Client} (h : SameShape c c') (h' : SameShape c' c'') :
    SameShape c c'' :=
  ⟨h'.forest.trans h.forest, fun s => (h'.cookie s).trans (h.cookie s), h'.next.trans h.next⟩

theorem sameShape_foldl {α : Type} {f : Client → α → Client} (hf : ∀ c x, SameShape c (f c x)) :
    ∀ (l : List α) (c : Client), SameShape c (l.foldl f c)
  | [], _ => ⟨rfl, fun _ => rfl, rfl⟩
  | x :: l, c => (hf c x).trans (sameShape_foldl hf l (f c x))

/-- What is read of the items to place and name them. -/
theorem sameShape_of_items {c : Client} {T : ItemTree}
    (hroot : T.root.applications = c.tree.root.applications ∧ T.root.itemId = c.tree.root.itemId ∧
      T.root.filters.map (·.itemId) = c.tree.root.filters.map (·.itemId))
    (happ : ∀ r, (T.app r).processes = (c.tree.app r).processes ∧
      (T.app r).itemId = (c.tree.app r).itemId)
    (hprocess : ∀ r, (T.process r).sockets = (c.tree.process r).sockets ∧
      (T.process r).itemId = (c.tree.process r).itemId)
    (hsocket : ∀ r, (T.socket r).udpPerConnectionTraffic = (c.tree.socket r).udpPerConnectionTraffic ∧
      (T.socket r).itemId = (c.tree.socket r).itemId ∧ (T.socket r).cookie = (c.tree.socket r).cookie)
    (htuple : ∀ r, (T.tuple r).itemId = (c.tree.tuple r).itemId) (hnext : T.next = c.tree.next) :
    SameShape c { c with tree := T } := by
  have hfilters : T.root.filters.length = c.tree.root.filters.length := by
    rw [← List.length_map (·.itemId), hroot.2.2, List.length_map]
  have hget : T.get = c.tree.get := by
    funext s
    cases s with
    | application path => rw [ItemTree.get, ItemTree.get, hroot.1]
    | filter n => rw [ItemTree.get, ItemTree.get, hfilters]
    | process a pid => rw [ItemTree.get, ItemTree.get, (happ a).1]
    | socket p k => rw [ItemTree.get, ItemTree.get, (hprocess p).1]
    | tuple r n => rw [ItemTree.get, ItemTree.get, (hsocket r).1]
  have hidOf : T.idOf = c.tree.idOf := by
    funext ⟨t, r⟩
    cases t with
    | system => exact hroot.2.1
    | application => exact (happ r).2
    | filter =>
      have hr := congrArg (fun l => l.getD r 0) hroot.2.2
      have hgetD : ∀ l : List FilterItem, (l.map (·.itemId)).getD r 0 = (l.getD r {}).itemId :=
        fun l => List.getD_map l {} (·.itemId)
      exact (hgetD _).symm.trans (hr.trans (hgetD _))
    | process => exact (hprocess r).2
    | socket => exact (hsocket r).2.1
    | tuple => exact htuple r
  refine ⟨?_, fun s => (hsocket s).2.2, hnext⟩
  rw [Client.forest, Client.forest, hget, hidOf]

/-- A change of the base part that keeps the id. -/
theorem sameShape_editItem (c : Client) {f : TrafficItem → TrafficItem}
    (hf : ∀ x, (f x).itemId = x.itemId) (x : ItemRef) :
    SameShape c { c with tree := c.tree.editItem f x } := by
  obtain ⟨t, r⟩ := x
  cases t with
  | system =>
    exact sameShape_of_items ⟨rfl, hf _, rfl⟩ (fun _ => ⟨rfl, rfl⟩) (fun _ => ⟨rfl, rfl⟩)
      (fun _ => ⟨rfl, rfl, rfl⟩) (fun _ => rfl) rfl
  | application =>
    refine sameShape_of_items ⟨rfl, rfl, rfl⟩ ?_ (fun _ => ⟨rfl, rfl⟩) (fun _ => ⟨rfl, rfl, rfl⟩)
      (fun _ => rfl) rfl
    exact (Function.forall_update_iff c.tree.app fun r' item =>
      item.processes = (c.tree.app r').processes ∧ item.itemId = (c.tree.app r').itemId).mpr
        ⟨⟨rfl, hf _⟩, fun _ _ => ⟨rfl, rfl⟩⟩
  | filter =>
    refine sameShape_of_items ⟨rfl, rfl, ?_⟩ (fun _ => ⟨rfl, rfl⟩) (fun _ => ⟨rfl, rfl⟩)
      (fun _ => ⟨rfl, rfl, rfl⟩) (fun _ => rfl) rfl
    refine List.ext_getElem? fun n => ?_
    simp only [ItemTree.editItem, List.getElem?_map, List.getElem?_modify, Option.map_eq_map,
      Option.map_map]
    congr 1
    funext item
    simp only [Function.comp_apply]
    split
    · exact hf _
    · rfl
  | process =>
    refine sameShape_of_items ⟨rfl, rfl, rfl⟩ (fun _ => ⟨rfl, rfl⟩) ?_ (fun _ => ⟨rfl, rfl, rfl⟩)
      (fun _ => rfl) rfl
    exact (Function.forall_update_iff c.tree.process fun r' item =>
      item.sockets = (c.tree.process r').sockets ∧ item.itemId = (c.tree.process r').itemId).mpr
        ⟨⟨rfl, hf _⟩, fun _ _ => ⟨rfl, rfl⟩⟩
  | socket =>
    refine sameShape_of_items ⟨rfl, rfl, rfl⟩ (fun _ => ⟨rfl, rfl⟩) (fun _ => ⟨rfl, rfl⟩) ?_
      (fun _ => rfl) rfl
    exact (Function.forall_update_iff c.tree.socket fun r' item =>
      item.udpPerConnectionTraffic = (c.tree.socket r').udpPerConnectionTraffic ∧
        item.itemId = (c.tree.socket r').itemId ∧ item.cookie = (c.tree.socket r').cookie).mpr
        ⟨⟨rfl, hf _, rfl⟩, fun _ _ => ⟨rfl, rfl, rfl⟩⟩
  | tuple =>
    refine sameShape_of_items ⟨rfl, rfl, rfl⟩ (fun _ => ⟨rfl, rfl⟩) (fun _ => ⟨rfl, rfl⟩)
      (fun _ => ⟨rfl, rfl, rfl⟩) ?_ rfl
    exact (Function.forall_update_iff c.tree.tuple fun r' item =>
      item.itemId = (c.tree.tuple r').itemId).mpr ⟨hf _, fun _ _ => rfl⟩

theorem sameShape_setSocket (c : Client) (r : Ref) (item : SocketItem)
    (hid : item.itemId = (c.tree.socket r).itemId)
    (htuples : item.udpPerConnectionTraffic = (c.tree.socket r).udpPerConnectionTraffic)
    (hcookie : item.cookie = (c.tree.socket r).cookie) :
    SameShape c { c with tree := c.tree.setSocket r item } := by
  refine sameShape_of_items ⟨rfl, rfl, rfl⟩ (fun _ => ⟨rfl, rfl⟩) (fun _ => ⟨rfl, rfl⟩) ?_
    (fun _ => rfl) rfl
  exact (Function.forall_update_iff c.tree.socket fun r' item =>
    item.udpPerConnectionTraffic = (c.tree.socket r').udpPerConnectionTraffic ∧
      item.itemId = (c.tree.socket r').itemId ∧ item.cookie = (c.tree.socket r').cookie).mpr
      ⟨⟨htuples, hid, hcookie⟩, fun _ _ => ⟨rfl, rfl, rfl⟩⟩

theorem sameShape_markItem (c : Client) (i : TrafficItemId) : SameShape c (markItem c i) := by
  simp only [markItem]
  split
  · exact ⟨rfl, fun _ => rfl, rfl⟩
  · rename_i item _
    have hedit := sameShape_editItem { c with
        markedForRemovalItems := c.markedForRemovalItems.insert i () }
      (f := fun x => { x with downloadSpeed := 0, uploadSpeed := 0 }) (fun _ => rfl) item
    have hmark : SameShape c { c with
        markedForRemovalItems := c.markedForRemovalItems.insert i () } :=
      ⟨rfl, fun _ => rfl, rfl⟩
    split
    · exact (hmark.trans hedit).trans (sameShape_setSocket _ _ _ rfl rfl rfl)
    · exact hmark.trans hedit

theorem sameShape_changeState (c : Client) (x : TrafficTreeSocketStateChange) :
    SameShape c (changeState c x) := by
  unfold changeState
  split
  · exact sameShape_setSocket _ _ _ rfl rfl rfl
  · exact ⟨rfl, fun _ => rfl, rfl⟩

theorem sameShape_updateTraffic (c : Client) (x : TrafficTreeTrafficUpdate) :
    SameShape c (updateTraffic c x) := by
  unfold updateTraffic
  split
  · exact ⟨rfl, fun _ => rfl, rfl⟩
  · refine sameShape_editItem c (fun i => ?_) _
    rfl

/-! ## Socket additions -/

/-- What a socket addition makes: the socket, and the application and the process where there are
none. An addition whose id the index has is skipped. -/
def places (c : Client) (a : TrafficTreeSocketAddition) : List (Slot × ItemRef × TrafficItemId) :=
  let r := c.tree.next
  if (c.trafficItems.lookup a.itemId).isSome then []
  else
    match c.tree.root.applications.lookup a.applicationPath with
    | none =>
      [(.application a.applicationPath, (.application, r), a.applicationItemId),
        (.process r a.processId, (.process, r + 1), a.processItemId),
        (.socket (r + 1) a.itemId, (.socket, r + 2), a.itemId)]
    | some app =>
      match (c.tree.app app).processes.lookup a.processId with
      | none =>
        [(.process app a.processId, (.process, r), a.processItemId),
          (.socket r a.itemId, (.socket, r + 1), a.itemId)]
      | some p => [(.socket p a.itemId, (.socket, r), a.itemId)]

/-- The socket that an addition makes. -/
def putSocket (a : TrafficTreeSocketAddition) (p : Ref) (c : Client) : Client :=
  let r := c.tree.next
  let T := c.tree.setSocket r
    { itemId := a.itemId
      socketTuple := a.socketTuple
      connectionState := a.connectionState
      socketType := a.socketType
      cookie := a.socketCookie }
  let T := T.setProcess p { T.process p with sockets := (T.process p).sockets.insert a.itemId r }
  { c with
    tree := { T with next := r + 1 }
    trafficItems := c.trafficItems.insert a.itemId (.socket, r) }

theorem addSocket_eq (c : Client) (a : TrafficTreeSocketAddition) : c.addSocket a =
    if (c.trafficItems.lookup a.itemId).isSome then c
    else
      let found := c.findOrAddApp a
      let found' := found.1.findOrAddProcess a found.2
      found'.1.putSocket a found'.2 := rfl

theorem forest_findOrAddApp {a : TrafficTreeSocketAddition}
    (h : c.tree.root.applications.lookup a.applicationPath = none) :
    (c.findOrAddApp a).1.forest = c.forest.put Slot.owner (.application a.applicationPath)
      (.application, c.tree.next) a.applicationItemId := by
  simp only [findOrAddApp, h, forest, IndexedForest.put, IndexedForest.mk.injEq]
  refine ⟨funext fun s => ?_, funext fun x => ?_, funext fun i => ?_⟩
  · cases s with
    | application path =>
      simp only [ItemTree.get, UMap.lookup_insert_ite, Slot.application.injEq, Slot.owner,
        Prod.mk.injEq, reduceCtorEq, false_and, if_false]
      split <;> rfl
    | process a' pid =>
      simp only [ItemTree.get, ItemTree.setApp, Function.update_apply, Slot.owner, Prod.mk.injEq,
        reduceCtorEq, true_and, if_false]
      split <;> rfl
    | _ => rfl
  · obtain ⟨t, r⟩ := x
    simp only [Function.update_apply, Prod.mk.injEq]
    cases t <;> simp only [ItemTree.idOf, ItemTree.setApp, Function.update_apply, reduceCtorEq,
      false_and, true_and, if_false]
    split <;> rfl
  · simp only [UMap.lookup_insert_ite, Function.update_apply]

theorem forest_findOrAddProcess {a : TrafficTreeSocketAddition} {app : Ref}
    (h : (c.tree.app app).processes.lookup a.processId = none) :
    (c.findOrAddProcess a app).1.forest = c.forest.put Slot.owner (.process app a.processId)
      (.process, c.tree.next) a.processItemId := by
  simp only [findOrAddProcess, h, forest, IndexedForest.put, IndexedForest.mk.injEq]
  refine ⟨funext fun s => ?_, funext fun x => ?_, funext fun i => ?_⟩
  · cases s with
    | process a' pid =>
      simp only [ItemTree.get, ItemTree.setApp, ItemTree.setProcess, Function.update_apply,
        Slot.process.injEq, Slot.owner, Prod.mk.injEq, reduceCtorEq, false_and, if_false]
      by_cases ha : a' = app
      · subst ha
        simp only [if_true, UMap.lookup_insert_ite, true_and]
        split <;> rfl
      · simp only [ha, false_and, if_false]
    | socket p k =>
      simp only [ItemTree.get, ItemTree.setApp, ItemTree.setProcess, Function.update_apply,
        Slot.owner, Prod.mk.injEq, reduceCtorEq, true_and, if_false]
      split <;> rfl
    | _ => rfl
  · obtain ⟨t, r⟩ := x
    cases t with
    | application =>
      simp only [ItemTree.idOf, ItemTree.setApp, ItemTree.setProcess, Function.update_apply,
        Prod.mk.injEq, reduceCtorEq, false_and, if_false]
      split
      · rename_i hr
        rw [hr]
      · rfl
    | process =>
      simp only [ItemTree.idOf, ItemTree.setApp, ItemTree.setProcess, Function.update_apply,
        Prod.mk.injEq, true_and]
      split <;> rfl
    | _ => rfl
  · simp only [UMap.lookup_insert_ite, Function.update_apply]

theorem forest_putSocket (a : TrafficTreeSocketAddition) (p : Ref) :
    (c.putSocket a p).forest =
      c.forest.put Slot.owner (.socket p a.itemId) (.socket, c.tree.next) a.itemId := by
  simp only [putSocket, forest, IndexedForest.put, IndexedForest.mk.injEq]
  refine ⟨funext fun s => ?_, funext fun x => ?_, funext fun i => ?_⟩
  · cases s with
    | socket p' k =>
      simp only [ItemTree.get, ItemTree.setSocket, ItemTree.setProcess, Function.update_apply,
        Slot.socket.injEq, Slot.owner, Prod.mk.injEq, reduceCtorEq, false_and, if_false]
      by_cases hp : p' = p
      · subst hp
        simp only [if_true, UMap.lookup_insert_ite, true_and]
        split <;> rfl
      · simp only [hp, false_and, if_false]
    | tuple s' n =>
      simp only [ItemTree.get, ItemTree.setSocket, ItemTree.setProcess, Function.update_apply,
        Slot.owner, Prod.mk.injEq, reduceCtorEq, true_and, if_false]
      split <;> rfl
    | _ => rfl
  · obtain ⟨t, r⟩ := x
    cases t with
    | process =>
      simp only [ItemTree.idOf, ItemTree.setSocket, ItemTree.setProcess, Function.update_apply,
        Prod.mk.injEq, reduceCtorEq, false_and, if_false]
      split
      · rename_i hr
        rw [hr]
      · rfl
    | socket =>
      simp only [ItemTree.idOf, ItemTree.setSocket, ItemTree.setProcess, Function.update_apply,
        Prod.mk.injEq, true_and]
      split <;> rfl
    | _ => rfl
  · simp only [UMap.lookup_insert_ite, Function.update_apply]

theorem findOrAddApp_new {a : TrafficTreeSocketAddition}
    (h : c.tree.root.applications.lookup a.applicationPath = none) :
    (c.findOrAddApp a).2 = c.tree.next ∧ (c.findOrAddApp a).1.tree.next = c.tree.next + 1 ∧
      ((c.findOrAddApp a).1.tree.app c.tree.next).processes = ∅ := by
  simp only [findOrAddApp, h, ItemTree.setApp, Function.update_self, and_self]

theorem findOrAddApp_found {a : TrafficTreeSocketAddition} {app : Ref}
    (h : c.tree.root.applications.lookup a.applicationPath = some app) :
    c.findOrAddApp a = (c, app) := by
  simp only [findOrAddApp, h]

theorem findOrAddProcess_new {a : TrafficTreeSocketAddition} {app : Ref}
    (h : (c.tree.app app).processes.lookup a.processId = none) :
    (c.findOrAddProcess a app).2 = c.tree.next ∧
      (c.findOrAddProcess a app).1.tree.next = c.tree.next + 1 := by
  simp only [findOrAddProcess, h, and_self]

theorem findOrAddProcess_found {a : TrafficTreeSocketAddition} {app p : Ref}
    (h : (c.tree.app app).processes.lookup a.processId = some p) :
    c.findOrAddProcess a app = (c, p) := by
  simp only [findOrAddProcess, h]

/-- **A socket addition makes its places.** -/
theorem forest_addSocket (c : Client) (a : TrafficTreeSocketAddition) :
    (c.addSocket a).forest = c.forest.puts Slot.owner (c.places a) := by
  rw [addSocket_eq]
  unfold places
  split
  · rfl
  · cases happ : c.tree.root.applications.lookup a.applicationPath with
    | none =>
      have hforest := forest_findOrAddApp happ
      obtain ⟨hr, hnext, hempty⟩ := findOrAddApp_new happ
      have hp : ((c.findOrAddApp a).1.tree.app (c.findOrAddApp a).2).processes.lookup a.processId =
          none := by
        rw [hr, hempty, AList.lookup_empty]
      simp only [IndexedForest.puts, List.foldl_cons, List.foldl_nil, ← hforest]
      rw [← hnext, ← hr, ← forest_findOrAddProcess hp]
      obtain ⟨hr', hnext'⟩ := findOrAddProcess_new hp
      rw [forest_putSocket, hr', hnext', hnext, hr]
    | some app =>
      simp only [findOrAddApp_found happ]
      cases hp : (c.tree.app app).processes.lookup a.processId with
      | none =>
        obtain ⟨hr, hnext⟩ := findOrAddProcess_new hp
        simp only [IndexedForest.puts, List.foldl_cons, List.foldl_nil]
        rw [← forest_findOrAddProcess hp, forest_putSocket, hr, hnext]
      | some p =>
        simp only [findOrAddProcess_found hp, forest_putSocket]
        rfl

/-! ### New items -/

/-- An item that the first `n` allocations made. -/
def IsAllocated (n : Ref) (x : ItemRef) : Prop := x.1 = .system ∨ x.1 = .filter ∨ x.2 < n

/-- A forest of items that the first `n` allocations made. -/
structure Allocated (n : Ref) (F : IndexedForest Slot ItemRef TrafficItemId) : Prop where
  tree : IsForest Slot.owner rootItem F.get
  reached : ∀ x, Reaches Slot.owner rootItem F.get x → IsAllocated n x
  indexed : ∀ i x, F.index i = some x → IsAllocated n x

theorem IsAllocated.mono {n m : Ref} (hnm : n ≤ m) {x : ItemRef} (h : IsAllocated n x) :
    IsAllocated m x :=
  h.imp_right fun h => h.imp_right fun h => h.trans_le hnm

section Allocated

variable {n : Ref} {F : IndexedForest Slot ItemRef TrafficItemId} {s : Slot} {t : TrafficItemType}
  {i : TrafficItemId}

theorem Allocated.fresh (h : Allocated n F) (ht : t ≠ .system ∧ t ≠ .filter) :
    F.Fresh Slot.owner rootItem (t, n) := by
  have hnew : ¬ IsAllocated n (t, n) := by
    rintro (hs | hf | hlt)
    · exact ht.1 hs
    · exact ht.2 hf
    · exact Nat.lt_irrefl _ hlt
  exact ⟨fun hr => hnew (h.reached _ hr), fun j hj => hnew (h.indexed j _ hj)⟩

/-- The next item is put into a place. -/
theorem Allocated.put (h : Allocated n F) (ht : t ≠ .system ∧ t ≠ .filter) :
    Allocated (n + 1) (F.put Slot.owner s (t, n) i) := by
  refine ⟨IndexedForest.isForest_put h.tree (h.fresh ht), fun x hx => ?_, fun j x hj => ?_⟩
  · rcases IndexedForest.reaches_of_put hx with hx | rfl
    · exact (h.reached x hx).mono (Nat.le_succ n)
    · exact .inr (.inr (Nat.lt_succ_self n))
  · simp only [IndexedForest.put, Function.update_apply] at hj
    split at hj
    · obtain rfl := Option.some.inj hj
      exact .inr (.inr (Nat.lt_succ_self n))
    · exact (h.indexed j x hj).mono (Nat.le_succ n)

end Allocated

/-- The process that an addition goes to, when there is one. -/
def findProcess (c : Client) (a : TrafficTreeSocketAddition) : Option Ref :=
  (c.tree.root.applications.lookup a.applicationPath).bind fun app =>
    (c.tree.app app).processes.lookup a.processId

/-- The key under which the addition is stored is free. -/
def KeyFree (c : Client) (a : TrafficTreeSocketAddition) : Prop :=
  ∀ p, c.findProcess a = some p → (c.tree.process p).sockets.lookup a.itemId = none

theorem free_places (hc : Allocated c.tree.next c.forest) {a : TrafficTreeSocketAddition}
    (hfree : c.KeyFree a) : c.forest.Free Slot.owner rootItem (c.places a) := by
  have happt : TrafficItemType.application ≠ .system ∧ TrafficItemType.application ≠ .filter := by
    decide
  have hproct : TrafficItemType.process ≠ .system ∧ TrafficItemType.process ≠ .filter := by decide
  have hsockt : TrafficItemType.socket ≠ .system ∧ TrafficItemType.socket ≠ .filter := by decide
  unfold places
  split
  · exact trivial
  · cases happ : c.tree.root.applications.lookup a.applicationPath with
    | none =>
      have hget : c.forest.get (.application a.applicationPath) = none := by
        simp only [forest, ItemTree.get, happ, Option.map_none]
      have hc' := hc.put (s := .application a.applicationPath) (i := a.applicationItemId) happt
      have hc'' := hc'.put (s := .process c.tree.next a.processId) (i := a.processItemId) hproct
      have hget' : (c.forest.put Slot.owner (.application a.applicationPath)
          (.application, c.tree.next) a.applicationItemId).get
            (.process c.tree.next a.processId) = none :=
        IndexedForest.get_put_owner nofun rfl
      have happ' := (IndexedForest.reaches_put (i := a.applicationItemId) (hc.fresh happt) .root
        hget).mpr (.inr rfl)
      refine ⟨hc.fresh happt, .root, hget, hc'.fresh hproct, happ', hget', hc''.fresh hsockt, ?_, ?_,
        trivial⟩
      · exact (IndexedForest.reaches_put (s := Slot.process c.tree.next a.processId)
          (hc'.fresh hproct) happ' hget').mpr (.inr rfl)
      · exact IndexedForest.get_put_owner nofun rfl
    | some app =>
      have hown : c.tree.Has (.application, app) := ItemTree.has_application.mpr ⟨_, happ⟩
      cases hp : (c.tree.app app).processes.lookup a.processId with
      | none =>
        have hget : c.forest.get (.process app a.processId) = none := by
          simp only [forest, ItemTree.get, hp, Option.map_none]
        have hc' := hc.put (s := .process app a.processId) (i := a.processItemId) hproct
        simp only [hp]
        refine ⟨hc.fresh hproct, hown, hget, hc'.fresh hsockt, ?_, ?_, trivial⟩
        · exact (IndexedForest.reaches_put (s := Slot.process app a.processId) (hc.fresh hproct) hown
            hget).mpr (.inr rfl)
        · exact IndexedForest.get_put_owner nofun rfl
      | some p =>
        simp only [hp]
        have hkey := hfree p (by rw [findProcess, happ, Option.bind_some, hp])
        refine ⟨hc.fresh hsockt, ItemTree.has_process.mpr ⟨app, _, hown, hp⟩, ?_, trivial⟩
        simp only [forest, ItemTree.get, hkey, Option.map_none]

/-- What an addition needs: ids that no item has, the socket's being its cookie, and a free key. -/
structure Addable (c : Client) (a : TrafficTreeSocketAddition) : Prop where
  nodup : ((c.places a).map fun e => e.2.2).Nodup
  newIds : ∀ i ∈ (c.places a).map fun e => e.2.2, ∀ x, c.tree.Has x → c.tree.idOf x ≠ i
  cookie : a.socketCookie = a.itemId
  key : c.KeyFree a

/-- The addition is skipped, or has what it needs. -/
def Fits (c : Client) (a : TrafficTreeSocketAddition) : Prop :=
  (c.trafficItems.lookup a.itemId).isSome ∨ c.Addable a

/-- The addition evicts no socket. -/
def KeepsSockets (c : Client) (a : TrafficTreeSocketAddition) : Prop :=
  ∀ s, c.tree.Has (.socket, s) → (c.addSocket a).tree.Has (.socket, s)

theorem places_of_skipped {a : TrafficTreeSocketAddition}
    (h : (c.trafficItems.lookup a.itemId).isSome) : c.places a = [] := by
  rw [places, if_pos h]

theorem addSocket_of_skipped {a : TrafficTreeSocketAddition}
    (h : (c.trafficItems.lookup a.itemId).isSome) : c.addSocket a = c := by
  rw [addSocket_eq, if_pos h]

theorem allocated_addSocket (hc : Allocated c.tree.next c.forest) (a : TrafficTreeSocketAddition) :
    Allocated (c.addSocket a).tree.next (c.addSocket a).forest := by
  rw [addSocket_eq]
  split
  · exact hc
  · have hfound : Allocated (c.findOrAddApp a).1.tree.next (c.findOrAddApp a).1.forest := by
      cases happ : c.tree.root.applications.lookup a.applicationPath with
      | none =>
        rw [forest_findOrAddApp happ]
        simp only [findOrAddApp, happ]
        exact hc.put (by decide)
      | some app =>
        simp only [findOrAddApp, happ]
        exact hc
    have hfound' : ∀ app, Allocated ((c.findOrAddApp a).1.findOrAddProcess a app).1.tree.next
        ((c.findOrAddApp a).1.findOrAddProcess a app).1.forest := by
      intro app
      cases hp : ((c.findOrAddApp a).1.tree.app app).processes.lookup a.processId with
      | none =>
        rw [forest_findOrAddProcess hp]
        simp only [findOrAddProcess, hp]
        exact hfound.put (by decide)
      | some p =>
        simp only [findOrAddProcess, hp]
        exact hfound
    simp only [forest_putSocket]
    exact (hfound' _).put (by decide)

/-- **No socket is evicted exactly when the key is free.** -/
theorem keepsSockets_iff (hc : Allocated c.tree.next c.forest) {a : TrafficTreeSocketAddition}
    (h : ¬ (c.trafficItems.lookup a.itemId).isSome) : c.KeepsSockets a ↔ c.KeyFree a := by
  constructor
  · intro hkeeps p hp
    by_contra hne
    obtain ⟨s, hs⟩ := Option.ne_none_iff_exists'.mp hne
    obtain ⟨app, happ, hp'⟩ := Option.bind_eq_some_iff.mp hp
    have hown : c.tree.Has (.process, p) :=
      ItemTree.has_process.mpr ⟨app, _, ItemTree.has_application.mpr ⟨_, happ⟩, hp'⟩
    have hget : c.tree.get (.socket p a.itemId) = some (.socket, s) := by
      rw [ItemTree.get, hs, Option.map_some]
    have hkept := hkeeps s (Reaches.slot (s := Slot.socket p a.itemId) hown hget)
    have hplaces : c.places a = [(.socket p a.itemId, (.socket, c.tree.next), a.itemId)] := by
      simp only [places, if_neg h, happ, hp']
    have hforest := forest_addSocket c a
    rw [hplaces] at hforest
    change Reaches _ _ (c.addSocket a).forest.get _ at hkept
    rw [hforest] at hkept
    exact IndexedForest.not_reaches_put (s := Slot.socket p a.itemId) hc.tree
      (hc.fresh (by decide)) hown hget hkept
  · intro hfree s hs
    change Reaches _ _ (c.addSocket a).forest.get _
    rw [forest_addSocket]
    exact (IndexedForest.reaches_puts (free_places hc hfree)).mpr (.inl hs)

theorem findOrAddApp_socket (c : Client) (a : TrafficTreeSocketAddition) :
    (c.findOrAddApp a).1.tree.socket = c.tree.socket := by
  unfold findOrAddApp
  split <;> rfl

theorem findOrAddProcess_socket (c : Client) (a : TrafficTreeSocketAddition) (app : Ref) :
    (c.findOrAddProcess a app).1.tree.socket = c.tree.socket := by
  unfold findOrAddProcess
  split <;> rfl

/-- The socket comes last. -/
theorem places_last {a : TrafficTreeSocketAddition}
    (h : ¬ (c.trafficItems.lookup a.itemId).isSome) : ∃ p r init,
      c.places a = init ++ [(.socket p a.itemId, (.socket, r), a.itemId)] ∧
        (∀ e ∈ init, ∀ q k, e.1 ≠ Slot.socket q k) ∧ c.tree.next ≤ r ∧
          ∀ s, ((c.addSocket a).tree.socket s).cookie =
            if s = r then a.socketCookie else (c.tree.socket s).cookie := by
  have hcookie : ∀ {d : Client} {p : Ref}, d.tree.socket = c.tree.socket → ∀ s,
      ((d.putSocket a p).tree.socket s).cookie =
        if s = d.tree.next then a.socketCookie else (c.tree.socket s).cookie := by
    intro d p hd s
    simp only [putSocket, ItemTree.setSocket, ItemTree.setProcess, Function.update_apply, hd]
    split <;> rfl
  rw [addSocket_eq, if_neg h]
  unfold places
  rw [if_neg h]
  cases happ : c.tree.root.applications.lookup a.applicationPath with
  | none =>
    obtain ⟨hr, hnext, hempty⟩ := findOrAddApp_new happ
    have hp : ((c.findOrAddApp a).1.tree.app (c.findOrAddApp a).2).processes.lookup a.processId =
        none := by
      rw [hr, hempty, AList.lookup_empty]
    have hnext' : ((c.findOrAddApp a).1.findOrAddProcess a (c.findOrAddApp a).2).1.tree.next =
        c.tree.next + 2 := by
      rw [(findOrAddProcess_new hp).2, hnext]
    refine ⟨_, _, [(_, _, _), (_, _, _)], rfl, ?_, Nat.le_add_right _ 2, fun s => ?_⟩
    · simp
    · rw [← hnext']
      exact hcookie ((findOrAddProcess_socket _ _ _).trans (findOrAddApp_socket _ _)) s
  | some app =>
    simp only [findOrAddApp_found happ]
    cases hp : (c.tree.app app).processes.lookup a.processId with
    | none =>
      have hnext := (findOrAddProcess_new hp).2
      refine ⟨_, _, [(_, _, _)], rfl, ?_, Nat.le_add_right _ 1, fun s => ?_⟩
      · simp
      · rw [← hnext]
        exact hcookie (findOrAddProcess_socket _ _ _) s
    | some p =>
      simp only [findOrAddProcess_found hp]
      exact ⟨_, _, [], rfl, nofun, Nat.le_refl _, fun s => hcookie rfl s⟩

/-- **An addition keeps the sockets in their places** exactly when it gives its own the cookie's. -/
theorem keyed_addSocket_iff (hc : Allocated c.tree.next c.forest) {a : TrafficTreeSocketAddition}
    (h : ¬ (c.trafficItems.lookup a.itemId).isSome) (hfree : c.KeyFree a) :
    (c.addSocket a).Keyed ↔ c.Keyed ∧ a.socketCookie = a.itemId := by
  have hplaces := free_places hc hfree
  have hforest := forest_addSocket c a
  obtain ⟨p₀, r, init, hlast, hinit, hr, hcookie⟩ := places_last h
  rw [hlast] at hplaces hforest
  have hget : (c.addSocket a).tree.get = (c.forest.puts Slot.owner
      (init ++ [(.socket p₀ a.itemId, (.socket, r), a.itemId)])).get :=
    congrArg IndexedForest.get hforest
  have hnew : ∀ s, c.tree.Has (.socket, s) → s ≠ r := by
    rintro s hs rfl
    rcases hc.reached _ hs with hty | hty | hlt
    · cases hty
    · cases hty
    · exact absurd hr (Nat.not_le_of_lt hlt)
  have hreach : ∀ x, (c.addSocket a).tree.Has x ↔ c.tree.Has x ∨
      x ∈ (init ++ [(Slot.socket p₀ a.itemId, (TrafficItemType.socket, r), a.itemId)]).map
        fun e => e.2.1 := by
    intro x
    rw [ItemTree.Has, hget]
    exact IndexedForest.reaches_puts hplaces
  constructor
  · intro hkeyed
    refine ⟨fun p k s hp hs => ?_, ?_⟩
    · have hs' : (c.addSocket a).tree.get (.socket p k) = some (.socket, s) := by
        rw [hget]
        exact IndexedForest.get_puts hplaces hp hs
      have hkey := hkeyed p k s ((hreach _).mpr (.inl hp)) hs'
      rwa [hcookie, if_neg (hnew s (Reaches.slot (s := Slot.socket p k) hp hs))] at hkey
    · have hown : (c.addSocket a).tree.Has (.process, p₀) := by
        rw [ItemTree.Has, hget]
        exact IndexedForest.Free.last hplaces
      have hs' : (c.addSocket a).tree.get (.socket p₀ a.itemId) = some (.socket, r) := by
        rw [hget, IndexedForest.puts_concat]
        exact if_pos rfl
      have hkey := hkeyed p₀ a.itemId r hown hs'
      rwa [hcookie, if_pos rfl] at hkey
  · rintro ⟨hkeyed, hid⟩ p k s hp hs
    rw [hget, IndexedForest.puts_concat] at hs
    simp only [IndexedForest.put] at hs
    split at hs
    · rename_i hslot
      obtain ⟨-, rfl⟩ := Slot.socket.inj hslot
      obtain rfl := (Prod.mk.inj (Option.some.inj hs)).2
      rw [hcookie, if_pos rfl, hid]
    · rw [if_neg (by simp [Slot.owner])] at hs
      obtain ⟨hs', hown⟩ := IndexedForest.of_get_puts (fun e he => hinit e he p k) hs
      have hp' : c.tree.Has (.process, p) := by
        refine ((hreach _).mp hp).resolve_right fun hmem => ?_
        rw [List.map_append, List.mem_append] at hmem
        exact hmem.elim hown (by simp)
      rw [hcookie, if_neg (hnew s (Reaches.slot (s := Slot.socket p k) hp' hs'))]
      exact hkeyed p k s hp' hs'

/-- The ids that the additions give to new items. -/
def madeIds : Client → List TrafficTreeSocketAddition → List TrafficItemId
  | _, [] => []
  | c, a :: l => ((c.places a).map fun e => e.2.2) ++ (c.addSocket a).madeIds l

/-- One addition. -/
theorem addSocket_iff (hc : Allocated c.tree.next c.forest) (a : TrafficTreeSocketAddition)
    {S : TrafficItemId → Prop} :
    ((c.addSocket a).forest.ExactUpTo Slot.owner rootItem S ∧ (c.addSocket a).Keyed ∧
        c.KeepsSockets a) ↔
      (c.forest.ExactUpTo Slot.owner rootItem fun j => S j ∨ j ∈ (c.places a).map fun e => e.2.2) ∧
        c.Keyed ∧ c.Fits a := by
  by_cases h : (c.trafficItems.lookup a.itemId).isSome
  · have hsame : c.KeepsSockets a := by
      intro s hs
      rwa [addSocket_of_skipped h]
    have hfits : c.Fits a := .inl h
    simp only [addSocket_of_skipped h, places_of_skipped h, List.map_nil, List.not_mem_nil, or_false,
      hsame, hfits, and_true]
  · have hfits : c.Fits a ↔ c.Addable a := or_iff_right h
    rw [keepsSockets_iff hc h, hfits, forest_addSocket]
    constructor
    · rintro ⟨hexact, hkeyed, hfree⟩
      obtain ⟨hexact, hnodup, hids⟩ := (IndexedForest.exactUpTo_puts (free_places hc hfree)).mp hexact
      obtain ⟨hkeyed, hcookie⟩ := (keyed_addSocket_iff hc h hfree).mp hkeyed
      exact ⟨hexact, hkeyed, hnodup, hids, hcookie, hfree⟩
    · rintro ⟨hexact, hkeyed, hnodup, hids, hcookie, hfree⟩
      exact ⟨(IndexedForest.exactUpTo_puts (free_places hc hfree)).mpr ⟨hexact, hnodup, hids⟩,
        (keyed_addSocket_iff hc h hfree).mpr ⟨hkeyed, hcookie⟩, hfree⟩

/-- **The socket additions of a batch.** -/
theorem addSockets_iff : ∀ (l : List TrafficTreeSocketAddition) {c : Client}
    {S : TrafficItemId → Prop}, Allocated c.tree.next c.forest →
    (((l.foldl addSocket c).forest.ExactUpTo Slot.owner rootItem S ∧ (l.foldl addSocket c).Keyed ∧
        AllSteps addSocket KeepsSockets c l) ↔
      (c.forest.ExactUpTo Slot.owner rootItem fun j => S j ∨ j ∈ c.madeIds l) ∧ c.Keyed ∧
        AllSteps addSocket Fits c l)
  | [], c, S, _ => by
    simp only [List.foldl_nil, AllSteps, madeIds, List.not_mem_nil, or_false]
  | a :: l, c, S, hc => by
    have ih := addSockets_iff l (S := S) (allocated_addSocket hc a)
    have hone := addSocket_iff (S := fun j => S j ∨ j ∈ (c.addSocket a).madeIds l) hc a
    have hsame : (fun j => (S j ∨ j ∈ (c.addSocket a).madeIds l) ∨
        j ∈ (c.places a).map fun e => e.2.2) = fun j => S j ∨ j ∈ c.madeIds (a :: l) := by
      funext j
      rw [madeIds, List.mem_append, or_assoc, or_comm (a := j ∈ madeIds _ _)]
    rw [hsame] at hone
    simp only [List.foldl_cons, AllSteps]
    constructor
    · rintro ⟨hexact, hkeyed, hkeeps, hall⟩
      obtain ⟨hexact', hkeyed', hfits⟩ := ih.mp ⟨hexact, hkeyed, hall⟩
      obtain ⟨hexact'', hkeyed'', hfit⟩ := hone.mp ⟨hexact', hkeyed', hkeeps⟩
      exact ⟨hexact'', hkeyed'', hfit, hfits⟩
    · rintro ⟨hexact, hkeyed, hfit, hfits⟩
      obtain ⟨hexact', hkeyed', hkeeps⟩ := hone.mpr ⟨hexact, hkeyed, hfit⟩
      obtain ⟨hexact'', hkeyed'', hall⟩ := ih.mpr ⟨hexact', hkeyed', hfits⟩
      exact ⟨hexact'', hkeyed'', hkeeps, hall⟩

/-! ## Tuple additions -/

/-- A tuple addition is skipped, or puts a new tuple at the end of its socket's. -/
theorem addTuple_cases (c : Client) (a : TrafficTreeTupleAddition) : c.addTuple a = c ∨
    ∃ s, c.trafficItems.lookup a.itemId = none ∧
      c.trafficItems.lookup a.socketItemId = some (.socket, s) ∧
      (c.addTuple a).forest = c.forest.put Slot.owner
        (.tuple s (c.tree.socket s).udpPerConnectionTraffic.length) (.tuple, c.tree.next) a.itemId ∧
      (c.addTuple a).tree.next = c.tree.next + 1 ∧
      ∀ s, ((c.addTuple a).tree.socket s).cookie = (c.tree.socket s).cookie := by
  unfold addTuple
  split
  · exact .inl rfl
  · rename_i hid
    split
    · rename_i s hs
      refine .inr ⟨s, by simpa using hid, hs, ?_, rfl, fun s' => ?_⟩
      · simp only [forest, IndexedForest.put, IndexedForest.mk.injEq]
        refine ⟨funext fun slot => ?_, funext fun x => ?_, funext fun i => ?_⟩
        · cases slot with
          | tuple s' n =>
            simp only [ItemTree.get, ItemTree.setTuple, ItemTree.setSocket, Function.update_apply,
              Slot.tuple.injEq, Slot.owner, Prod.mk.injEq, reduceCtorEq, false_and, if_false]
            by_cases hs' : s' = s
            · subst hs'
              simp only [if_true, true_and, List.getElem?_append, List.getElem?_singleton]
              by_cases hn : n = (c.tree.socket s').udpPerConnectionTraffic.length
              · simp only [hn, Nat.lt_irrefl, Nat.sub_self, if_true, if_false, Option.map_some]
              · rw [if_neg hn]
                split
                · rfl
                · rw [if_neg (by omega), List.getElem?_eq_none (by omega)]
            · simp only [hs', false_and, if_false]
          | _ => rfl
        · obtain ⟨t, r⟩ := x
          cases t with
          | socket =>
            simp only [ItemTree.idOf, ItemTree.setTuple, ItemTree.setSocket, Function.update_apply,
              Prod.mk.injEq, reduceCtorEq, false_and, if_false]
            split
            · rename_i hr
              rw [hr]
            · rfl
          | tuple =>
            simp only [ItemTree.idOf, ItemTree.setTuple, ItemTree.setSocket, Function.update_apply,
              Prod.mk.injEq, true_and]
            split <;> rfl
          | _ => rfl
        · simp only [UMap.lookup_insert_ite, Function.update_apply]
      · simp only [ItemTree.setTuple, ItemTree.setSocket, Function.update_apply]
        split
        · rename_i hs'
          rw [hs']
        · rfl
    · exact .inl rfl

theorem addTuple_iff (hc : Allocated c.tree.next c.forest) (a : TrafficTreeTupleAddition) :
    Allocated (c.addTuple a).tree.next (c.addTuple a).forest ∧
      ((c.addTuple a).Indexed ↔ c.Indexed) ∧ ((c.addTuple a).Keyed ↔ c.Keyed) := by
  rcases addTuple_cases c a with hsame | ⟨s, hid, hs, hforest, hnext, hcookie⟩
  · rw [hsame]
    exact ⟨hc, Iff.rfl, Iff.rfl⟩
  · have hfree : c.tree.get (.tuple s (c.tree.socket s).udpPerConnectionTraffic.length) = none := by
      simp only [ItemTree.get, List.getElem?_eq_none (Nat.le_refl _), Option.map_none]
    have hget : (c.addTuple a).tree.get = (c.forest.put Slot.owner
        (.tuple s (c.tree.socket s).udpPerConnectionTraffic.length) (.tuple, c.tree.next)
        a.itemId).get := congrArg IndexedForest.get hforest
    -- a tuple owns no slot
    have hstays : ∀ slot x, c.tree.get slot = some x → (c.addTuple a).tree.get slot = some x := by
      intro slot x hx
      have hne : slot ≠ .tuple s (c.tree.socket s).udpPerConnectionTraffic.length := by
        rintro rfl
        rw [hfree] at hx
        cases hx
      have hown : slot.owner ≠ (.tuple, c.tree.next) := by cases slot <;> simp [Slot.owner]
      rw [hget]
      exact (IndexedForest.get_put_of_ne hne hown).trans hx
    have hsocket : ∀ p k, (c.addTuple a).tree.get (.socket p k) = c.tree.get (.socket p k) := by
      intro p k
      rw [hget]
      have hne : Slot.socket p k ≠
          .tuple s (c.tree.socket s).udpPerConnectionTraffic.length := nofun
      have hown : (Slot.socket p k).owner ≠ (.tuple, c.tree.next) := by simp [Slot.owner]
      exact IndexedForest.get_put_of_ne hne hown
    have hprocess : ∀ p, (c.addTuple a).tree.Has (.process, p) ↔ c.tree.Has (.process, p) := by
      intro p
      refine ⟨fun hp => ?_, fun hp => hp.mono hstays⟩
      rw [ItemTree.Has, hget] at hp
      exact (IndexedForest.reaches_of_put hp).resolve_right (by simp)
    refine ⟨?_, ?_, ?_⟩
    · rw [hforest, hnext]
      exact hc.put (by decide)
    · rw [Indexed, hforest]
      exact IndexedForest.exact_put (hc.fresh (by decide)) hs hfree hid
    · simp only [Keyed, hprocess, hsocket, hcookie]

theorem addTuples_iff : ∀ (l : List TrafficTreeTupleAddition) {c : Client},
    Allocated c.tree.next c.forest →
    ((l.foldl addTuple c).Indexed ↔ c.Indexed) ∧ ((l.foldl addTuple c).Keyed ↔ c.Keyed)
  | [], _, _ => ⟨Iff.rfl, Iff.rfl⟩
  | a :: l, c, hc => by
    obtain ⟨hc', hindexed, hkeyed⟩ := addTuple_iff hc a
    obtain ⟨ihindexed, ihkeyed⟩ := addTuples_iff l hc'
    exact ⟨ihindexed.trans hindexed, ihkeyed.trans hkeyed⟩

/-! ## A batch -/

/-- The ids that the additions of a batch give. -/
def Adds (u : TrafficTreeUpdates) (i : TrafficItemId) : Prop :=
  (∃ a ∈ u.addedSockets, i = a.itemId ∨ i = a.processItemId ∨ i = a.applicationItemId) ∨
    ∃ a ∈ u.addedTuples, i = a.itemId

/-- The client when the additions of a batch begin. -/
def cleared (o : IterOrder) (u : TrafficTreeUpdates) (c : Client) : Client :=
  u.removedItems.foldl (removeItem o) (u.markedForRemovalItems.foldl markItem c)

/-- What a batch is to leave: an exact index, no removed item, every socket under its cookie, and no
socket evicted. -/
structure UpdatedWell (o : IterOrder) (u : TrafficTreeUpdates) (c : Client) : Prop where
  indexed : (c.updateFromBuffer o u).Indexed
  removed : ∀ i ∈ u.removedItems, ¬ Adds u i →
    ∀ x, (c.updateFromBuffer o u).tree.Has x → (c.updateFromBuffer o u).tree.idOf x ≠ i
  keyed : (c.updateFromBuffer o u).Keyed
  evictsNone : AllSteps addSocket KeepsSockets (c.cleared o u) u.addedSockets

/-- What a batch has to be. -/
structure Fit (o : IterOrder) (u : TrafficTreeUpdates) (c : Client) : Prop where
  /-- What stays is not listed. -/
  stays : ∀ x, c.tree.Keeps u.removedItems x → c.tree.idOf x ∉ u.removedItems
  /-- What goes is listed as well, or its id is given again. -/
  goes : ∀ x, c.tree.Has x → ¬ c.tree.Keeps u.removedItems x →
    c.tree.idOf x ∈ u.removedItems ∨ c.tree.idOf x ∈ (c.cleared o u).madeIds u.addedSockets
  /-- What stays is in its place. -/
  keyed : ∀ p k s, c.tree.Keeps u.removedItems (.process, p) →
    prune (c.tree.gone u.removedItems) c.tree.get (.socket p k) = some (.socket, s) →
      (c.tree.socket s).cookie = k
  additions : AllSteps addSocket Fits (c.cleared o u) u.addedSockets

theorem SameShape.get_eq {c' : Client} (h : SameShape c c') : c'.tree.get = c.tree.get :=
  congrArg IndexedForest.get h.forest

theorem SameShape.indexed_iff {c' : Client} (h : SameShape c c') : c'.Indexed ↔ c.Indexed := by
  rw [Indexed, h.forest, Indexed]

theorem SameShape.keyed_iff {c' : Client} (h : SameShape c c') : c'.Keyed ↔ c.Keyed := by
  simp only [Keyed, ItemTree.Has, h.get_eq, h.cookie]

theorem Removed.of_sameShape {removed : List TrafficItemId} {c' c'' : Client} (h : SameShape c c')
    (h' : Removed removed c' c'') : Removed removed c c'' := by
  have hidOf : c'.tree.idOf = c.tree.idOf := congrArg IndexedForest.idOf h.forest
  have hgone : c'.tree.gone removed = c.tree.gone removed := by
    funext x
    simp only [ItemTree.gone, hidOf]
  refine ⟨?_, h'.idOf_eq.trans hidOf, fun s => (h'.cookie s).trans (h.cookie s),
    h'.next_eq.trans h.next, fun i => ?_⟩
  · rw [← hgone, ← h.get_eq]
    exact h'.agrees
  · rw [h'.lookup, show c'.trafficItems.lookup i = c.trafficItems.lookup i from
      congrFun (congrArg IndexedForest.index h.forest) i]

/-- Marks and removals, on a client's tree. -/
theorem removed_cleared (o : IterOrder) (u : TrafficTreeUpdates) (hc : c.ClientTree)
    (hi : c.Indexed) : Removed u.removedItems c (c.cleared o u) := by
  have hmarks := sameShape_foldl sameShape_markItem u.markedForRemovalItems c
  refine .of_sameShape hmarks (removed_foldl _ ?_ fun x y hx hy hxy => ?_)
  · rw [ItemTree.IsTree, hmarks.get_eq]
    exact hc.tree
  · have hi' := hmarks.indexed_iff.mpr hi
    exact hi'.inj hx hy hxy

theorem Removed.allocated {removed : List TrafficItemId} {c' : Client} (h : Removed removed c c')
    (hc : c.ClientTree) (hi : c.Indexed) : Allocated c'.tree.next c'.forest := by
  rw [h.next_eq]
  refine ⟨(hc.tree.prune _).of_agrees h.agrees (ItemTree.get_ne_root _), fun x hx => ?_,
    fun i x hx => ?_⟩
  · exact hc.allocated x (h.agrees.reaches_of hx).of_prune
  · have hlookup : c'.trafficItems.lookup i = some x := hx
    rw [h.lookup, Option.ite_none_left_eq_some] at hlookup
    exact hc.allocated x ((hi.only i x hlookup.2).resolve_right id).1

theorem Removed.keyed_iff {removed : List TrafficItemId} {c' : Client} (h : Removed removed c c') :
    c'.Keyed ↔ ∀ p k s, c.tree.Keeps removed (.process, p) →
      prune (c.tree.gone removed) c.tree.get (.socket p k) = some (.socket, s) →
        (c.tree.socket s).cookie = k := by
  have hhas : ∀ x, c'.tree.Has x ↔ c.tree.Keeps removed x := fun x => h.agrees.reaches_congr
  constructor
  · intro hkeyed p k s hp hs
    have hget := h.agrees (.socket p k) hp
    rw [← h.cookie]
    exact hkeyed p k s ((hhas _).mpr hp) (hget.trans hs)
  · intro hkeyed p k s hp hs
    have hget := h.agrees (.socket p k) ((hhas _).mp hp)
    rw [h.cookie]
    exact hkeyed p k s ((hhas _).mp hp) (hget.symm.trans hs)

/-! ### The ids of the index -/

theorem lookup_addSocket {a : TrafficTreeSocketAddition} {i : TrafficItemId}
    (h : ¬ (i = a.itemId ∨ i = a.processItemId ∨ i = a.applicationItemId)) :
    (c.addSocket a).trafficItems.lookup i = c.trafficItems.lookup i := by
  have hids : i ∉ (c.places a).map fun e => e.2.2 := by
    unfold places
    split
    · exact List.not_mem_nil
    · split <;> [skip; split] <;> simp_all
  have hindex := congrFun (congrArg IndexedForest.index (forest_addSocket c a)) i
  rw [IndexedForest.index_puts hids] at hindex
  exact hindex

theorem lookup_addTuple {a : TrafficTreeTupleAddition} {i : TrafficItemId} (h : i ≠ a.itemId) :
    (c.addTuple a).trafficItems.lookup i = c.trafficItems.lookup i := by
  rcases addTuple_cases c a with hsame | ⟨s, -, -, hforest, -, -⟩
  · rw [hsame]
  · have hindex := congrFun (congrArg IndexedForest.index hforest) i
    exact hindex.trans (Function.update_of_ne h _ _)

/-- An id that the batch does not give is found as before the additions. -/
theorem lookup_updateFromBuffer {u : TrafficTreeUpdates} {i : TrafficItemId} (h : ¬ Adds u i) :
    (c.updateFromBuffer o u).trafficItems.lookup i = (c.cleared o u).trafficItems.lookup i := by
  have hsockets : ∀ (l : List TrafficTreeSocketAddition) (c : Client), (∀ a ∈ l,
      ¬ (i = a.itemId ∨ i = a.processItemId ∨ i = a.applicationItemId)) →
        (l.foldl addSocket c).trafficItems.lookup i = c.trafficItems.lookup i := by
    intro l
    induction l with
    | nil => exact fun c _ => rfl
    | cons a l ih =>
      intro c hl
      rw [List.forall_mem_cons] at hl
      exact (ih _ hl.2).trans (lookup_addSocket hl.1)
  have htuples : ∀ (l : List TrafficTreeTupleAddition) (c : Client), (∀ a ∈ l, i ≠ a.itemId) →
      (l.foldl addTuple c).trafficItems.lookup i = c.trafficItems.lookup i := by
    intro l
    induction l with
    | nil => exact fun c _ => rfl
    | cons a l ih =>
      intro c hl
      rw [List.forall_mem_cons] at hl
      exact (ih _ hl.2).trans (lookup_addTuple hl.1)
  rw [Adds, not_or] at h
  set d := u.addedTuples.foldl addTuple (u.addedSockets.foldl addSocket (c.cleared o u)) with hd
  have hstates := sameShape_foldl sameShape_changeState u.socketStateChange d
  have htraffic := sameShape_foldl sameShape_updateTraffic u.updatedItems
    (u.socketStateChange.foldl changeState d)
  have hindex := congrFun (congrArg IndexedForest.index (hstates.trans htraffic).forest) i
  refine hindex.trans ?_
  change d.trafficItems.lookup i = _
  rw [hd, htuples _ _ fun a ha hi => h.2 ⟨a, ha, hi⟩, hsockets _ _ fun a ha hi => h.1 ⟨a, ha, hi⟩]

/-- **A batch updates the client well exactly when it is fit.** -/
theorem updateFromBuffer_ok_iff (o : IterOrder) (u : TrafficTreeUpdates) (c : Client)
    (hc : c.ClientTree) (hi : c.Indexed) : c.UpdatedWell o u ↔ c.Fit o u := by
  have hremoved := removed_cleared o u hc hi
  have hallocated := hremoved.allocated hc hi
  have hsockets := addSockets_iff u.addedSockets (S := fun _ => False) hallocated
  set d := u.addedSockets.foldl addSocket (c.cleared o u) with hd
  have hallocated' : Allocated d.tree.next d.forest :=
    run_of_step (I := fun c : Client => Allocated c.tree.next c.forest)
      (fun _ a h => allocated_addSocket h a) u.addedSockets hallocated
  obtain ⟨htupleIndex, htupleKeys⟩ := addTuples_iff u.addedTuples hallocated'
  set e := u.addedTuples.foldl addTuple d with he
  have hfields := (sameShape_foldl sameShape_changeState u.socketStateChange e).trans
    (sameShape_foldl sameShape_updateTraffic u.updatedItems
      (u.socketStateChange.foldl changeState e))
  have hindexed : (c.updateFromBuffer o u).Indexed ↔ d.Indexed :=
    hfields.indexed_iff.trans htupleIndex
  have hkeyed : (c.updateFromBuffer o u).Keyed ↔ d.Keyed := hfields.keyed_iff.trans htupleKeys
  have hexact := hremoved.exactUpTo_iff hi
    (S := fun j => False ∨ j ∈ (c.cleared o u).madeIds u.addedSockets)
  constructor
  · intro h
    obtain ⟨hup, hkeys, hfits⟩ := hsockets.mp ⟨hindexed.mp h.indexed, hkeyed.mp h.keyed, h.evictsNone⟩
    obtain ⟨hstays, hgoes⟩ := hexact.mp hup
    exact ⟨hstays, fun x hx hcut => (hgoes x hx hcut).imp_right (Or.resolve_left · id),
      hremoved.keyed_iff.mp hkeys, hfits⟩
  · intro h
    have hup := hexact.mpr ⟨h.stays, fun x hx hcut => (h.goes x hx hcut).imp_right .inr⟩
    obtain ⟨hexact', hkeys, hkeeps⟩ := hsockets.mpr ⟨hup, hremoved.keyed_iff.mpr h.keyed, h.additions⟩
    have hexact'' := hindexed.mpr hexact'
    refine ⟨hexact'', fun i hi hadds x hx hxi => ?_, hkeyed.mpr hkeys, hkeeps⟩
    have hfind := hexact''.finds x hx
    have hgone : (c.updateFromBuffer o u).forest.index i = none := by
      refine (lookup_updateFromBuffer hadds).trans ?_
      rw [hremoved.lookup, if_pos hi]
    change (c.updateFromBuffer o u).forest.index ((c.updateFromBuffer o u).tree.idOf x) = _ at hfind
    rw [hxi, hgone] at hfind
    cases hfind

/-! ### A client that has no applications yet -/

/-- The client has been sent the tree of a daemon that has seen no traffic. -/
def started : Client := ({} : Client).loadFromBuffer .stored {}

theorem started_has {x : ItemRef} : started.tree.Has x ↔ x = rootItem := by
  constructor
  · intro hx
    by_contra hne
    obtain ⟨s, -, hs⟩ := hx.exists_slot hne
    have hempty : started.tree.get s = none := by cases s <;> rfl
    rw [hempty] at hs
    cases hs
  · rintro rfl
    exact .root

theorem started_tree : started.ClientTree := by
  refine ⟨⟨fun s s' x _ _ hx _ => ?_, ItemTree.get_ne_root _⟩, fun x hx => ?_⟩
  · have hempty : started.tree.get s = none := by cases s <;> rfl
    rw [hempty] at hx
    cases hx
  · rw [started_has.mp hx]
    exact .inl rfl

theorem started_indexed : started.Indexed := by
  refine ⟨fun x hx => ?_, fun i x hi => .inl ?_⟩
  · rw [started_has.mp hx]
    rfl
  · have hlookup : started.trafficItems.lookup i = if i = 0 then some rootItem else none :=
      UMap.lookup_insert_ite ∅ 0 rootItem i
    rw [show started.forest.index i = _ from hlookup, Option.ite_none_right_eq_some] at hi
    obtain ⟨rfl, hx⟩ := hi
    obtain rfl := Option.some.inj hx
    exact ⟨.root, rfl⟩

/-- A socket of the process 7. -/
def added (cookie : SocketCookie) : TrafficTreeSocketAddition :=
  { itemId := 6, processItemId := 5, applicationItemId := 4, socketCookie := cookie, processId := 7
    applicationPath := "/usr/bin/ssh", applicationName := "ssh", applicationCommandLine := "ssh"
    socketTuple := {}, connectionState := .created, socketType := .unknown }

/-- A socket is added, and an item is removed that the client does not have. -/
theorem updateFromBuffer_ok_added : started.UpdatedWell .stored
    { removedItems := [7], addedSockets := [added 6] } := by
  refine (updateFromBuffer_ok_iff .stored _ started started_tree started_indexed).mpr
    ⟨fun x hx => ?_, fun x hx hcut => ?_, fun p k s hp _ => ?_, .inr ⟨?_, ?_, rfl, ?_⟩, trivial⟩
  · rw [started_has.mp hx.of_prune]
    decide
  · rw [started_has.mp hx] at hcut
    exact absurd .root hcut
  · exact absurd (started_has.mp hp.of_prune) (by simp [rootItem])
  · decide
  · intro i hi x hx
    have hx' : started.tree.Has x :=
      ((removed_cleared .stored { removedItems := [7], addedSockets := [added 6] } started_tree
        started_indexed).agrees.reaches_of hx).of_prune
    rw [started_has.mp hx']
    change i ∈ [4, 5, 6] at hi
    rintro rfl
    exact absurd hi (by decide)
  · intro p hp
    cases hp

/-- **A socket is not stored under its cookie** but under its item's id. -/
theorem updateFromBuffer_fails_cookie : ¬ ∀ (o : IterOrder) (u : TrafficTreeUpdates) (c : Client),
    c.ClientTree → c.Indexed → c.UpdatedWell o u := by
  intro hall
  have hkeyed := (hall .stored { addedSockets := [added 9] } started started_tree
    started_indexed).keyed 1 6 2
  have hprocess : (started.updateFromBuffer .stored { addedSockets := [added 9] }).tree.Has
      (.process, 1) := by
    refine ItemTree.has_process.mpr ⟨0, 7, ItemTree.has_application.mpr ⟨"/usr/bin/ssh", ?_⟩, ?_⟩
    · decide
    · decide
  exact absurd (hkeyed hprocess (by decide)) (by decide)

end Client

end Waechter
