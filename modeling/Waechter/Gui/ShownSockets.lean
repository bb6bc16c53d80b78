import Waechter.Daemon.StateChanges
import Waechter.Gui.TreeIndex

/-!
# What the client shows of a socket

The addresses, type and state (`SocketItem.visible`) of the socket that `WTrafficTree`
(`Gui/Windows/TrafficTree.cpp`) has under an id, and what the parts of `UpdateFromBuffer` do to
them.

* `shown_updateFromBuffer`: a message that neither marks nor removes a socket leaves the client with
  the values of its last state change for the socket.
-/

namespace Waechter

open Lib

namespace Client

variable {o : IterOrder} {c : Client} {i : TrafficItemId}

/-- What the client shows of the socket with an id. -/
def shown (c : Client) (i : TrafficItemId) : Option SocketView :=
  match c.trafficItems.lookup i with
  | some (.socket, r) => some (c.tree.socket r).visible
  | _ => none

/-- A socket is indexed by its id. -/
def OwnIds (c : Client) : Prop := ∀ i r, c.trafficItems.lookup i = some (.socket, r) →
  (c.tree.socket r).itemId = i ∧ r < c.tree.next

theorem shown_of_lookup {r : Ref} (h : c.trafficItems.lookup i = some (.socket, r)) :
    c.shown i = some (c.tree.socket r).visible := by
  rw [shown, h]

theorem lookup_of_shown (h : (c.shown i).isSome) :
    ∃ r, c.trafficItems.lookup i = some (.socket, r) := by
  unfold shown at h
  split at h
  · exact ⟨_, ‹_›⟩
  · cases h

theorem isSome_shown {r : Ref} (h : c.trafficItems.lookup i = some (.socket, r)) :
    (c.shown i).isSome := by
  rw [shown_of_lookup h]
  rfl

/-- What is shown depends on the index and on the sockets. -/
theorem shown_congr {c' : Client}
    (hindex : ∀ r, c'.trafficItems.lookup i = some (.socket, r) ↔
      c.trafficItems.lookup i = some (.socket, r))
    (hvisible : ∀ r, c.trafficItems.lookup i = some (.socket, r) →
      (c'.tree.socket r).visible = (c.tree.socket r).visible) : c'.shown i = c.shown i := by
  by_cases h : ∃ r, c.trafficItems.lookup i = some (.socket, r)
  · obtain ⟨r, hr⟩ := h
    rw [shown_of_lookup hr, shown_of_lookup ((hindex r).mpr hr), hvisible r hr]
  · have hnone {c' : Client} (h : ¬∃ r, c'.trafficItems.lookup i = some (.socket, r)) :
        c'.shown i = none := by
      by_contra hsome
      exact h (lookup_of_shown (Option.ne_none_iff_isSome.mp hsome))
    rw [hnone h, hnone fun ⟨r, hr⟩ => h ⟨r, (hindex r).mp hr⟩]

/-! ## Loading the tree -/

/-- An index in which the sockets have their ids. -/
def IndexOwn (T : ItemTree) (index : ItemIndex) : Prop :=
  ∀ i r, index.lookup i = some (.socket, r) → (T.socket r).itemId = i

section Load

variable {T : ItemTree} {index : ItemIndex}

theorem IndexOwn.insert (h : IndexOwn T index) {i : TrafficItemId} {x : TrafficItemType × Ref}
    (hx : ∀ r, x = (.socket, r) → (T.socket r).itemId = i) : IndexOwn T (index.insert i x) := by
  intro j r hj
  rw [UMap.lookup_insert_ite] at hj
  split at hj
  · rename_i hji
    rw [hji]
    exact hx r (Option.some.inj hj)
  · exact h j r hj

theorem IndexOwn.foldl {α : Type} {f : ItemIndex → α → ItemIndex}
    (hf : ∀ index a, IndexOwn T index → IndexOwn T (f index a)) :
    ∀ (l : List α) {index : ItemIndex}, IndexOwn T index → IndexOwn T (l.foldl f index)
  | [], _, h => h
  | a :: l, _, h => foldl hf l (hf _ a h)

theorem indexOwn_index (T : ItemTree) : IndexOwn T (T.index o) := by
  have hsocket : ∀ index r, IndexOwn T index → IndexOwn T (T.indexSocket index r) := by
    intro index r h
    refine IndexOwn.foldl (fun index u hi => hi.insert fun _ hu => by cases hu) _ (h.insert ?_)
    rintro r' hr'
    cases hr'
    rfl
  have hprocess : ∀ index p, IndexOwn T index → IndexOwn T (T.indexProcess o index p) :=
    fun index p h => IndexOwn.foldl hsocket _ (h.insert fun _ hx => by cases hx)
  have happ : ∀ index a, IndexOwn T index → IndexOwn T (T.indexApp o index a) :=
    fun index a h => IndexOwn.foldl hprocess _ (h.insert fun _ hx => by cases hx)
  have hempty : IndexOwn T ∅ := fun i r h => by cases h
  exact (IndexOwn.foldl (fun index f hi => hi.insert fun _ hf => by cases hf) _
    (IndexOwn.foldl happ _ hempty)).insert fun _ hx => by cases hx

theorem lookup_index_zero (T : ItemTree) : (T.index o).lookup 0 = some (.system, 0) :=
  AList.lookup_insert _

/-- A tree whose sockets have ids that were given out. -/
theorem ownIds_loadFromBuffer (hT : ∀ r, (T.socket r).itemId ≠ 0 → r < T.next) (c : Client) :
    (c.loadFromBuffer o T).OwnIds := by
  intro i r hr
  have hown := indexOwn_index (o := o) T i r hr
  refine ⟨hown, hT r fun h0 => ?_⟩
  rw [h0] at hown
  subst hown
  exact absurd ((lookup_index_zero T).symm.trans hr) (by simp)

end Load

/-! ## The parts of `UpdateFromBuffer` -/

/-- A change of the items that leaves the index and the ids of the sockets alone. -/
theorem OwnIds.of_tree (hc : c.OwnIds) {T : ItemTree} (hnext : T.next = c.tree.next)
    (hid : ∀ r, (T.socket r).itemId = (c.tree.socket r).itemId) :
    ({ c with tree := T } : Client).OwnIds := fun i r hr => by
  have h := hc i r hr
  exact ⟨(hid r).trans h.1, hnext ▸ h.2⟩

/-- Two ids that are indexed have different sockets. -/
theorem OwnIds.ne (hc : c.OwnIds) {i j : TrafficItemId} {r q : Ref} (hij : i ≠ j)
    (hr : c.trafficItems.lookup i = some (.socket, r))
    (hq : c.trafficItems.lookup j = some (.socket, q)) : r ≠ q := by
  rintro rfl
  exact hij ((hc i r hr).1.symm.trans (hc j r hq).1)

/-- What `editItem` leaves alone of the sockets. -/
theorem editItem_socket (f : TrafficItem → TrafficItem) (hf : ∀ x, (f x).itemId = x.itemId)
    (item : TrafficItemType × Ref) (T : ItemTree) :
    (T.editItem f item).next = T.next ∧
      ∀ r, ((T.editItem f item).socket r).itemId = (T.socket r).itemId ∧
        ((T.editItem f item).socket r).visible = (T.socket r).visible := by
  obtain ⟨type, q⟩ := item
  cases type with
  | socket =>
    refine ⟨rfl, fun r => ?_⟩
    simp only [ItemTree.editItem, ItemTree.setSocket, Function.update_apply]
    split
    · rename_i hr
      rw [hr]
      exact ⟨hf _, rfl⟩
    · exact ⟨rfl, rfl⟩
  | _ => exact ⟨rfl, fun r => ⟨rfl, rfl⟩⟩

/-- A part of `UpdateFromBuffer` that leaves what is shown under the ids of `P` alone, and that adds
sockets with ids of `A` only. -/
structure KeepsShown (P A : TrafficItemId → Prop) (c c' : Client) : Prop where
  own : c.OwnIds → c'.OwnIds
  known : c.OwnIds → ∀ i, (c'.shown i).isSome → (c.shown i).isSome ∨ A i
  same : c.OwnIds → ∀ i, P i → (c.shown i).isSome → c'.shown i = c.shown i

namespace KeepsShown

variable {P A : TrafficItemId → Prop} {c c' c'' : Client}

theorem refl (c : Client) : KeepsShown P A c c := ⟨id, fun _ _ h => .inl h, fun _ _ _ _ => rfl⟩

theorem trans (h₁ : KeepsShown P A c c') (h₂ : KeepsShown P A c' c'') : KeepsShown P A c c'' where
  own hc := h₂.own (h₁.own hc)
  known hc i hi := (h₂.known (h₁.own hc) i hi).elim (h₁.known hc i) .inr
  same hc i hP hi := by
    have h := h₁.same hc i hP hi
    exact (h₂.same (h₁.own hc) i hP (h ▸ hi)).trans h

theorem foldl {α : Type} {f : Client → α → Client} : ∀ (l : List α) {c : Client},
    (∀ c a, a ∈ l → KeepsShown P A c (f c a)) → KeepsShown P A c (l.foldl f c)
  | [], c, _ => refl c
  | a :: l, _, hf => (hf _ a List.mem_cons_self).trans
      (foldl l fun c a ha => hf c a (List.mem_cons_of_mem _ ha))

/-- The index stays, and so do the sockets but for one. -/
theorem of_tree {i : TrafficItemId} (hP : ∀ j, P j → j ≠ i) (hindex : c'.trafficItems = c.trafficItems)
    (hnext : c'.tree.next = c.tree.next)
    (hid : ∀ r, (c'.tree.socket r).itemId = (c.tree.socket r).itemId)
    (hvisible : ∀ r, c.trafficItems.lookup i ≠ some (.socket, r) →
      (c'.tree.socket r).visible = (c.tree.socket r).visible) : KeepsShown P A c c' where
  own hc j r hr := by
    rw [hindex] at hr
    have h := hc j r hr
    exact ⟨(hid r).trans h.1, hnext ▸ h.2⟩
  known hc j hj := by
    obtain ⟨r, hr⟩ := lookup_of_shown hj
    rw [hindex] at hr
    exact .inl (isSome_shown hr)
  same hc j hj hshown := by
    refine shown_congr (fun r => by rw [hindex]) fun r hr => hvisible r fun hi => ?_
    exact hc.ne (hP j hj) hr hi rfl

end KeepsShown

variable {P A : TrafficItemId → Prop}

theorem keeps_markItem (c : Client) {i : TrafficItemId} (hP : ∀ j, P j → j ≠ i) :
    KeepsShown P A c (c.markItem i) := by
  unfold markItem
  simp only
  split
  · exact KeepsShown.of_tree hP rfl rfl (fun _ => rfl) fun _ _ => rfl
  · rename_i item hitem
    obtain ⟨hnext, hsocket⟩ := editItem_socket
      (fun x : TrafficItem => { x with downloadSpeed := 0, uploadSpeed := 0 }) (fun _ => rfl) item
      c.tree
    split
    · rename_i r
      refine KeepsShown.of_tree hP rfl hnext (fun q => ?_) fun q hq => ?_
      · simp only [ItemTree.setSocket, Function.update_apply]
        split
        · rename_i hqr
          rw [hqr]
          exact (hsocket r).1
        · exact (hsocket q).1
      · have hqr : q ≠ r := by
          rintro rfl
          exact hq hitem
        simp only [ItemTree.setSocket, Function.update_of_ne hqr]
        exact (hsocket q).2
    · exact KeepsShown.of_tree hP rfl hnext (fun q => (hsocket q).1) fun q _ => (hsocket q).2

theorem keeps_removeItem (c : Client) {i : TrafficItemId} (hP : ∀ j, P j → j ≠ i) :
    KeepsShown P A c (c.removeItem o i) := by
  obtain ⟨-, hsocket, hnext⟩ := ItemTree.removeItem_same (T := c.tree) (o := o) i
  have hindex (j : TrafficItemId) : (c.removeItem o i).trafficItems.lookup j =
      if j = i then none else c.trafficItems.lookup j := UMap.lookup_erase_ite _ _ _
  refine ⟨fun hc j r hr => ?_, fun hc j hj => ?_, fun hc j hj hshown => ?_⟩
  · rw [hindex] at hr
    split at hr
    · cases hr
    · exact ⟨(congrArg (fun f => (f r).itemId) hsocket).trans (hc j r hr).1,
        (hc j r hr).2.trans_eq hnext.symm⟩
  · obtain ⟨r, hr⟩ := lookup_of_shown hj
    rw [hindex] at hr
    split at hr
    · cases hr
    · exact .inl (isSome_shown hr)
  · refine shown_congr (fun r => ?_) fun r _ => congrArg (fun f => (f r).visible) hsocket
    rw [hindex, if_neg (hP j hj)]

theorem keeps_updateTraffic (c : Client) (x : TrafficTreeTrafficUpdate) :
    KeepsShown P A c (c.updateTraffic x) := by
  unfold updateTraffic
  split
  · exact .refl c
  · rename_i item hitem
    obtain ⟨hnext, hsocket⟩ := editItem_socket (fun i : TrafficItem =>
      { i with downloadSpeed := x.newDownloadSpeed, uploadSpeed := x.newUploadSpeed,
               totalDownloadBytes := x.totalDownloadBytes,
               totalUploadBytes := x.totalUploadBytes }) (fun _ => rfl) item c.tree
    refine ⟨fun hc => hc.of_tree hnext fun q => (hsocket q).1, fun hc j hj => ?_,
      fun hc j _ _ => shown_congr (fun _ => Iff.rfl) fun q _ => (hsocket q).2⟩
    obtain ⟨r, hr⟩ := lookup_of_shown hj
    exact .inl (isSome_shown (c := c) hr)

/-! ### Additions -/

/-- An item that is no socket is indexed. -/
theorem keeps_indexed {c' : Client} {i : TrafficItemId} {x : TrafficItemType × Ref}
    (hP : ∀ j, P j → j ≠ i) (hx : ∀ r, x ≠ (.socket, r))
    (hindex : c'.trafficItems = c.trafficItems.insert i x) (hnext : c.tree.next ≤ c'.tree.next)
    (hid : ∀ r, (c'.tree.socket r).itemId = (c.tree.socket r).itemId)
    (hvisible : ∀ r, (c'.tree.socket r).visible = (c.tree.socket r).visible) :
    KeepsShown P A c c' := by
  have hlookup (j : TrafficItemId) (r : Ref) (hj : c'.trafficItems.lookup j = some (.socket, r)) :
      j ≠ i ∧ c.trafficItems.lookup j = some (.socket, r) := by
    rw [hindex, UMap.lookup_insert_ite] at hj
    split at hj
    · exact absurd (Option.some.inj hj) (hx r)
    · exact ⟨‹_›, hj⟩
  refine ⟨fun hc j r hr => ?_, fun hc j hj => ?_, fun hc j hj hshown => ?_⟩
  · have h := hc j r (hlookup j r hr).2
    exact ⟨(hid r).trans h.1, h.2.trans_le hnext⟩
  · obtain ⟨r, hr⟩ := lookup_of_shown hj
    exact .inl (isSome_shown (hlookup j r hr).2)
  · refine shown_congr (fun r => ⟨fun hr => (hlookup j r hr).2, fun hr => ?_⟩) fun r _ => hvisible r
    rw [hindex, UMap.lookup_insert_ite, if_neg (hP j hj)]
    exact hr

theorem keeps_findOrAddApp (c : Client) {a : TrafficTreeSocketAddition}
    (hP : ∀ j, P j → j ≠ a.applicationItemId) : KeepsShown P A c (c.findOrAddApp a).1 := by
  unfold findOrAddApp
  split
  · exact .refl c
  · exact keeps_indexed hP (fun _ hx => by cases hx) rfl (Nat.le_succ _) (fun _ => rfl) fun _ => rfl

theorem keeps_findOrAddProcess (c : Client) {a : TrafficTreeSocketAddition} (app : Ref)
    (hP : ∀ j, P j → j ≠ a.processItemId) : KeepsShown P A c (c.findOrAddProcess a app).1 := by
  unfold findOrAddProcess
  split
  · exact .refl c
  · exact keeps_indexed hP (fun _ hx => by cases hx) rfl (Nat.le_succ _) (fun _ => rfl) fun _ => rfl

theorem keeps_putSocket (c : Client) {a : TrafficTreeSocketAddition} (p : Ref) (hA : A a.itemId)
    (hP : ∀ j, P j → j ≠ a.itemId) : KeepsShown P A c (c.putSocket a p) := by
  have hlookup (j : TrafficItemId) : (c.putSocket a p).trafficItems.lookup j =
      if j = a.itemId then some (.socket, c.tree.next) else c.trafficItems.lookup j :=
    UMap.lookup_insert_ite _ _ _ _
  have hsocket {r : Ref} (hr : r ≠ c.tree.next) :
      (c.putSocket a p).tree.socket r = c.tree.socket r := Function.update_of_ne hr ..
  refine ⟨fun hc j r hr => ?_, fun hc j hj => ?_, fun hc j hj hshown => ?_⟩
  · rw [hlookup] at hr
    split at hr
    · rename_i hja
      cases hr
      exact ⟨(congrArg (fun x : SocketItem => x.itemId) (Function.update_self ..)).trans hja.symm,
        Nat.lt_succ_self _⟩
    · have h := hc j r hr
      exact ⟨(congrArg (fun x : SocketItem => x.itemId) (hsocket h.2.ne)).trans h.1,
        Nat.lt_succ_of_lt h.2⟩
  · obtain ⟨r, hr⟩ := lookup_of_shown hj
    rw [hlookup] at hr
    split at hr
    · rename_i hja
      exact .inr (hja ▸ hA)
    · exact .inl (isSome_shown hr)
  · refine shown_congr (fun r => by rw [hlookup, if_neg (hP j hj)]) fun r hr => ?_
    exact congrArg SocketItem.visible (hsocket (hc j r hr).2.ne)

/-- An addition leaves the sockets alone that the client has. -/
theorem keeps_addSocket (c : Client) {a : TrafficTreeSocketAddition} (hA : A a.itemId)
    (hP : ∀ j, P j → j ≠ a.applicationItemId ∧ j ≠ a.processItemId) :
    KeepsShown P A c (c.addSocket a) := by
  rw [addSocket_eq]
  split
  · exact .refl c
  · rename_i hnew
    simp only
    have hkeeps := ((keeps_findOrAddApp (P := fun j => P j ∧ j ≠ a.itemId) (A := A) c
      fun j hj => (hP j hj.1).1).trans (keeps_findOrAddProcess _ (c.findOrAddApp a).2
        fun j hj => (hP j hj.1).2)).trans (keeps_putSocket _
          ((c.findOrAddApp a).1.findOrAddProcess a (c.findOrAddApp a).2).2 hA fun j hj => hj.2)
    refine ⟨hkeeps.own, hkeeps.known, fun hc j hj hshown => hkeeps.same hc j ⟨hj, ?_⟩ hshown⟩
    rintro rfl
    obtain ⟨r, hr⟩ := lookup_of_shown hshown
    rw [hr] at hnew
    exact hnew rfl

/-! ### State changes -/

theorem changeState_cases (c : Client) (x : TrafficTreeSocketStateChange) : c.changeState x = c ∧
      (¬∃ r, c.trafficItems.lookup x.itemId = some (.socket, r)) ∨
    ∃ r, c.trafficItems.lookup x.itemId = some (.socket, r) ∧
      c.changeState x = { c with
        tree := c.tree.setSocket r
          { c.tree.socket r with
            connectionState := x.newState
            socketType := x.socketType
            socketTuple := x.socketTuple.getD (c.tree.socket r).socketTuple } } := by
  unfold changeState
  split
  · rename_i r hr
    exact .inr ⟨r, hr, rfl⟩
  · rename_i hnone
    exact .inl ⟨rfl, fun ⟨r, hr⟩ => hnone r hr⟩

/-- A state change sets what is shown under its id. -/
theorem shown_changeState (hc : c.OwnIds) (x : TrafficTreeSocketStateChange) :
    (c.changeState x).OwnIds ∧ ∀ j, (c.changeState x).shown j =
      if j = x.itemId then (c.shown j).map x.view else c.shown j := by
  rcases changeState_cases c x with ⟨hsame, hnone⟩ | ⟨r, hr, hset⟩
  · rw [hsame]
    refine ⟨hc, fun j => ?_⟩
    split
    · rename_i hj
      subst hj
      rw [Option.not_isSome_iff_eq_none.mp fun hsome => hnone (lookup_of_shown hsome)]
      rfl
    · rfl
  · rw [hset]
    refine ⟨hc.of_tree rfl fun q => ?_, fun j => ?_⟩
    · simp only [ItemTree.setSocket, Function.update_apply]
      split
      · rename_i hq
        rw [hq]
      · rfl
    · split
      · rename_i hj
        subst hj
        have hset (T : ItemTree) : ({ c with tree := T } : Client).shown x.itemId =
            some (T.socket r).visible := shown_of_lookup (c := { c with tree := T }) hr
        rw [shown_of_lookup hr, hset]
        simp only [ItemTree.setSocket, Function.update_self]
        rfl
      · rename_i hj
        refine shown_congr (fun _ => Iff.rfl) fun q hq => ?_
        simp only [ItemTree.setSocket, Function.update_of_ne (hc.ne hj hq hr)]

/-- **The last state change for a socket** is what the client shows. -/
theorem shown_changeStates {l : List TrafficTreeSocketStateChange} {v : SocketView}
    (hl : Carries l i v) (hc : c.OwnIds) (hi : (c.shown i).isSome) :
    (l.foldl changeState c).shown i = some v := by
  have hkeep : ∀ (l : List TrafficTreeSocketStateChange) {c : Client}, c.OwnIds →
      (l.foldl changeState c).OwnIds ∧
        ((c.shown i).isSome → ((l.foldl changeState c).shown i).isSome) ∧
        ((∀ y ∈ l, y.itemId ≠ i) → (l.foldl changeState c).shown i = c.shown i) := by
    intro l
    induction l with
    | nil => exact fun hc => ⟨hc, id, fun _ => rfl⟩
    | cons x l ih =>
      intro c hc
      obtain ⟨hc', hshown⟩ := shown_changeState hc x
      obtain ⟨h1, h2, h3⟩ := ih hc'
      refine ⟨h1, fun hi => h2 ?_, fun hne => ?_⟩
      · rw [hshown]
        split
        · rw [Option.isSome_map]
          exact hi
        · exact hi
      · refine (h3 fun y hy => hne y (List.mem_cons_of_mem x hy)).trans ?_
        rw [hshown, if_neg (hne x List.mem_cons_self).symm]
  obtain ⟨before, x, after, rfl, rfl, hv, hafter⟩ := hl
  rw [List.foldl_append, List.foldl_cons]
  obtain ⟨hc1, hsome, -⟩ := hkeep before hc
  obtain ⟨hc2, hx⟩ := shown_changeState hc1 x
  rw [(hkeep after hc2).2.2 hafter, hx, if_pos rfl]
  obtain ⟨w, hw⟩ := Option.isSome_iff_exists.mp (hsome hi)
  rw [hw, Option.map_some, hv]

theorem keeps_changeStates {l : List TrafficTreeSocketStateChange}
    (hP : ∀ x ∈ l, ∀ j, P j → j ≠ x.itemId) (c : Client) :
    KeepsShown P A c (l.foldl changeState c) := by
  refine KeepsShown.foldl l fun c x hx => ?_
  refine ⟨fun hc => (shown_changeState hc x).1, fun hc j hj => .inl ?_, fun hc j hj _ => ?_⟩
  · rw [(shown_changeState hc x).2] at hj
    split at hj
    · rwa [Option.isSome_map] at hj
    · exact hj
  · rw [(shown_changeState hc x).2, if_neg (hP x hx j hj)]

/-! ## A message -/

/-- The ids a message says something about, but for the traffic and the state changes. -/
def Spares (u : TrafficTreeUpdates) (i : TrafficItemId) : Prop :=
  i ∉ u.markedForRemovalItems ∧ i ∉ u.removedItems ∧
    ∀ a ∈ u.addedSockets, i ≠ a.applicationItemId ∧ i ≠ a.processItemId

/-- The part of a message before the state changes. -/
theorem keeps_before (o : IterOrder) {u : TrafficTreeUpdates} (hu : u.addedTuples = [])
    (c : Client) : KeepsShown (Spares u) (fun i => ∃ a ∈ u.addedSockets, a.itemId = i) c
      (u.addedTuples.foldl addTuple (u.addedSockets.foldl addSocket (u.removedItems.foldl
        (removeItem o) (u.markedForRemovalItems.foldl markItem c)))) := by
  rw [hu]
  have hmarked := KeepsShown.foldl (P := Spares u) (A := fun i => ∃ a ∈ u.addedSockets, a.itemId = i)
    u.markedForRemovalItems (c := c) fun c i hi => keeps_markItem c fun j hj => by
      rintro rfl
      exact hj.1 hi
  have hremoved := hmarked.trans (KeepsShown.foldl u.removedItems fun c i hi =>
    keeps_removeItem (o := o) c fun j hj => by
      rintro rfl
      exact hj.2.1 hi)
  exact hremoved.trans (KeepsShown.foldl u.addedSockets fun c a ha =>
    keeps_addSocket c ⟨a, ha, rfl⟩ fun j hj => hj.2.2 a ha)

/-- What the client knows after a message: what it knew, and what was added. -/
theorem known_updateFromBuffer (o : IterOrder) {u : TrafficTreeUpdates} (hu : u.addedTuples = [])
    (hc : c.OwnIds) : (c.updateFromBuffer o u).OwnIds ∧
      ∀ i, ((c.updateFromBuffer o u).shown i).isSome →
        (c.shown i).isSome ∨ ∃ a ∈ u.addedSockets, a.itemId = i := by
  have h := keeps_before o hu c
  have hstates := keeps_changeStates (P := fun _ => False)
    (A := fun i => ∃ a ∈ u.addedSockets, a.itemId = i) (l := u.socketStateChange)
    (fun _ _ _ hj => hj.elim) (u.addedTuples.foldl addTuple (u.addedSockets.foldl addSocket
      (u.removedItems.foldl (removeItem o) (u.markedForRemovalItems.foldl markItem c))))
  have htraffic := hstates.trans (KeepsShown.foldl u.updatedItems
    fun c x _ => keeps_updateTraffic c x)
  refine ⟨htraffic.own (h.own hc), fun i hi => ?_⟩
  exact (htraffic.known (h.own hc) i hi).elim (h.known hc i) .inr

/-- **What the client shows after a message** that neither marks nor removes the socket. -/
theorem shown_updateFromBuffer (o : IterOrder) {u : TrafficTreeUpdates} (hu : u.addedTuples = [])
    {v : SocketView} (hc : c.OwnIds) (hi : (c.shown i).isSome) (hspares : Spares u i)
    (hlast : Carries u.socketStateChange i v) : (c.updateFromBuffer o u).shown i = some v := by
  have h := keeps_before o hu c
  have hshown := h.same hc i hspares hi
  have hstates := shown_changeStates hlast (h.own hc) (hshown ▸ hi)
  have hown := (keeps_changeStates (P := fun _ => False) (A := fun _ => True)
    (l := u.socketStateChange) (fun _ _ _ hj => hj.elim) _).own (h.own hc)
  have htraffic (c : Client) := KeepsShown.foldl (P := fun _ => True) (A := fun _ => True)
    u.updatedItems (c := c) fun c x _ => keeps_updateTraffic c x
  exact ((htraffic _).same hown i trivial (hstates ▸ rfl)).trans hstates

end Client

end Waechter
