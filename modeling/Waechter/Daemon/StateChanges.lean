import Waechter.Daemon.Actions

/-!
# State changes in the log

The addresses, type and state of a socket are written in six places of `WSystemMap`
(`Daemon/Data/SystemMap.cpp`, `SystemMap.hpp`, `Counters.cpp`), and `WMapUpdate::AddStateChange` is
called in two of them.

`Tells r s s'` says that what a client is to show of a socket has not changed, or that the log has
the new values, a mark or a removal. Operations tell when they are quiet about the socket
(`SystemMapOp.QuietAt`): `tells_step`.
-/

namespace Waechter

open Lib

/-! ## Values -/

/-- The addresses, type and state of a socket. -/
abbrev SocketView := SocketTuple × SocketType × SocketConnectionState

/-- The values a state change carries, for a socket that showed others. -/
def TrafficTreeSocketStateChange.view (x : TrafficTreeSocketStateChange) (v : SocketView) :
    SocketView := (x.socketTuple.getD v.1, x.socketType, x.newState)

/-- The last of the changes for an id carries these values. -/
def Carries (l : List TrafficTreeSocketStateChange) (i : TrafficItemId) (v : SocketView) : Prop :=
  ∃ before x after, l = before ++ x :: after ∧ x.itemId = i ∧ (∀ w, x.view w = v) ∧
    ∀ y ∈ after, y.itemId ≠ i

namespace Carries

variable {l l' : List TrafficTreeSocketStateChange} {i : TrafficItemId} {v : SocketView}

theorem append (h : Carries l i v) (hl' : ∀ y ∈ l', y.itemId ≠ i) : Carries (l ++ l') i v := by
  obtain ⟨before, x, after, rfl, hx, hv, hafter⟩ := h
  refine ⟨before, x, after ++ l', by rw [List.append_assoc, List.cons_append], hx, hv, ?_⟩
  exact fun y hy => (List.mem_append.mp hy).elim (hafter y) (hl' y)

theorem single (l : List TrafficTreeSocketStateChange) {x : TrafficTreeSocketStateChange}
    (hi : x.itemId = i) (hx : ∀ w, x.view w = v) : Carries (l ++ [x]) i v :=
  ⟨l, x, [], rfl, hi, hx, fun _ hy => absurd hy List.not_mem_nil⟩

end Carries

/-! ## Ids -/

namespace TreeShape

/-- An item that was made has its reference as its id, and no id has two types. -/
structure Ids (t : TreeShape) : Prop where
  socket : ∀ r, t.sockId r ≠ 0 → t.sockId r = r ∧ r < t.next
  app : ∀ r, t.appId r ≠ 0 → t.appId r = r ∧ r < t.next ∧ t.sockId r = 0
  process : ∀ r, t.procId r ≠ 0 → t.procId r = r ∧ r < t.next ∧ t.sockId r = 0

variable {t : TreeShape}

theorem Ids.of_same (ht : t.Ids) {t' : TreeShape} (hn : t.next ≤ t'.next)
    (hs : t'.sockId = t.sockId) (ha : t'.appId = t.appId) (hp : t'.procId = t.procId) : t'.Ids where
  socket r hr := by
    rw [hs] at hr ⊢
    exact (ht.socket r hr).imp_right hn.trans_lt'
  app r hr := by
    rw [ha] at hr ⊢
    rw [hs]
    have h := ht.app r hr
    exact ⟨h.1, h.2.1.trans_le hn, h.2.2⟩
  process r hr := by
    rw [hp] at hr ⊢
    rw [hs]
    have h := ht.process r hr
    exact ⟨h.1, h.2.1.trans_le hn, h.2.2⟩

/-- Nothing has the next id yet. -/
theorem Ids.fresh (ht : t.Ids) : t.sockId t.next = 0 := by
  by_contra h
  exact Nat.lt_irrefl _ (ht.socket _ h).2

theorem Ids.addSocket (ht : t.Ids) (c : SocketCookie) (p : Ref) : (t.addSocket c p).Ids where
  socket r hr := by
    simp only [TreeShape.addSocket, Function.update_apply] at hr ⊢
    split at hr
    · rename_i hrn
      rw [if_pos hrn]
      exact ⟨hrn.symm, hrn ▸ Nat.lt_succ_self _⟩
    · rename_i hrn
      rw [if_neg hrn]
      exact ⟨(ht.socket r hr).1, Nat.lt_succ_of_lt (ht.socket r hr).2⟩
  app r hr := by
    obtain ⟨hid, hlt, hsock⟩ := ht.app r hr
    refine ⟨hid, Nat.lt_succ_of_lt hlt, ?_⟩
    simp only [TreeShape.addSocket, Function.update_of_ne hlt.ne]
    exact hsock
  process r hr := by
    obtain ⟨hid, hlt, hsock⟩ := ht.process r hr
    refine ⟨hid, Nat.lt_succ_of_lt hlt, ?_⟩
    simp only [TreeShape.addSocket, Function.update_of_ne hlt.ne]
    exact hsock

theorem Ids.addProcess (ht : t.Ids) (pid : ProcessId) (a : Ref) : (t.addProcess pid a).Ids where
  socket r hr := (ht.socket r hr).imp_right Nat.lt_succ_of_lt
  app r hr := ⟨(ht.app r hr).1, Nat.lt_succ_of_lt (ht.app r hr).2.1, (ht.app r hr).2.2⟩
  process r hr := by
    simp only [TreeShape.addProcess, Function.update_apply] at hr ⊢
    split at hr
    · rename_i hrn
      rw [if_pos hrn]
      exact ⟨hrn.symm, hrn ▸ Nat.lt_succ_self _, hrn ▸ ht.fresh⟩
    · rename_i hrn
      rw [if_neg hrn]
      have h := ht.process r hr
      exact ⟨h.1, Nat.lt_succ_of_lt h.2.1, h.2.2⟩

theorem Ids.addApp (ht : t.Ids) (key : String) : (t.addApp key).Ids where
  socket r hr := (ht.socket r hr).imp_right Nat.lt_succ_of_lt
  app r hr := by
    simp only [TreeShape.addApp, TreeShape.registerApp, Function.update_apply] at hr ⊢
    split at hr
    · rename_i hrn
      rw [if_pos hrn]
      exact ⟨hrn.symm, hrn ▸ Nat.lt_succ_self _, hrn ▸ ht.fresh⟩
    · rename_i hrn
      rw [if_neg hrn]
      have h := ht.app r hr
      exact ⟨h.1, Nat.lt_succ_of_lt h.2.1, h.2.2⟩
  process r hr := ⟨(ht.process r hr).1, Nat.lt_succ_of_lt (ht.process r hr).2.1, (ht.process r hr).2.2⟩

theorem Ids.onShape (ht : t.Ids) (m : Change) : (m.onShape t).Ids := by
  cases m with
  | addSocket now c p => exact ht.addSocket c p
  | addProcess now pid a => exact ht.addProcess pid a
  | addApp now key commandLine appName => exact ht.addApp key
  | addTuple now r e => exact ht.of_same (Nat.le_succ _) rfl rfl rfl
  | takeItemId => exact ht.of_same (Nat.le_succ _) rfl rfl rfl
  | _ => exact ht.of_same (Nat.le_refl _) rfl rfl rfl

/-- A socket keeps its id. -/
theorem sockId_onShape (m : Change) {r : Ref} (hr : r < t.next) :
    (m.onShape t).sockId r = t.sockId r := by
  cases m with
  | addSocket now c p => exact Function.update_of_ne hr.ne ..
  | _ => rfl

end TreeShape

/-! ## What an action does to a socket -/

/-- The action leaves alone what is shown of the socket. -/
def Action.Spares (r : Ref) : Action → Prop
  | .change (.editSocket q _) => q ≠ r
  | .record (.addStateChange x) => x.itemId ≠ r
  | _ => True

theorem Action.Spares.of_maps {r : Ref} {a : Action} (ha : a.Maps) : a.Spares r := by
  cases a with
  | record c =>
    obtain ⟨q, rfl⟩ := ha
    trivial
  | change m => cases m <;> trivial
  | _ => trivial

theorem Action.Spares.of_drops {r : Ref} {a : Action} (ha : a.Drops) : a.Spares r := by
  cases a with
  | record c => obtain ⟨q, rfl | rfl⟩ := ha <;> trivial
  | change m => cases m <;> trivial
  | _ => trivial

/-- A change shows nothing new of the sockets that it does not edit. -/
theorem CounterTree.visible_change {m : Change} {t : CounterTree} {r : Ref}
    (hr : r < t.nextItemId) (hm : (Action.change m).Spares r) :
    ((m.apply t).socket r).trafficItem.visible = (t.socket r).trafficItem.visible := by
  have hupdate {q : Ref} {c : SocketCounter}
      (hc : c.trafficItem.visible = (t.socket q).trafficItem.visible) :
      (Function.update t.socket q c r).trafficItem.visible = (t.socket r).trafficItem.visible := by
    rw [Function.update_apply]
    split
    · rename_i hq
      rw [hc, hq]
    · rfl
  cases m with
  | addTuple now q e => refine hupdate (q := q) ?_; rfl
  | addSocket now c p =>
    exact congrArg (fun c : SocketCounter => c.trafficItem.visible) (Function.update_of_ne hr.ne ..)
  | editSocket q f =>
    exact congrArg (fun c : SocketCounter => c.trafficItem.visible)
      (Function.update_of_ne (Ne.symm hm) ..)
  | attachSocket q p => refine hupdate (q := q) ?_; rfl
  | clearTupleCounters q => refine hupdate (q := q) ?_; rfl
  | clearTupleItems q => refine hupdate (q := q) ?_; rfl
  | eraseTuple q e => refine hupdate (q := q) ?_; rfl
  | _ => rfl

namespace SystemMap

variable {σ : Type} {h : Handler σ} {C : CounterId → CounterCall → Prop} {K : Action → Prop}
  {s s' s₁ s₂ s₃ : SystemMap σ} {r : Ref}

/-- What a client is to show of a socket. -/
def view (s : SystemMap σ) (r : Ref) : SocketView := (s.socket r).trafficItem.visible

/-- The log has the values of the socket, a mark or a removal. -/
def Announced (r : Ref) (s : SystemMap σ) : Prop :=
  Carries s.mapUpdate.socketStateChanges r (s.view r) ∨ r ∈ s.mapUpdate.markedForRemovalItems ∨
    r ∈ s.mapUpdate.removedItems

/-- **What is new of the socket is in the log.** -/
structure Tells (r : Ref) (s s' : SystemMap σ) : Prop where
  marked : r ∈ s.mapUpdate.markedForRemovalItems → r ∈ s'.mapUpdate.markedForRemovalItems
  removed : r ∈ s.mapUpdate.removedItems → r ∈ s'.mapUpdate.removedItems
  shown : Announced r s' ∨ s'.view r = s.view r ∧ ∃ l,
    s'.mapUpdate.socketStateChanges = s.mapUpdate.socketStateChanges ++ l ∧ ∀ x ∈ l, x.itemId ≠ r

namespace Tells

/-- The log and what is shown of the socket stay. -/
theorem of_same (hlog : s'.mapUpdate = s.mapUpdate) (hview : s'.view r = s.view r) :
    Tells r s s' := by
  refine ⟨?_, ?_, .inr ⟨hview, [], ?_, List.forall_mem_nil _⟩⟩ <;> rw [hlog]
  · exact id
  · exact id
  · exact (List.append_nil _).symm

/-- What was announced stays announced. -/
theorem announced (h : Tells r s s') (hs : Announced r s) : Announced r s' := by
  rcases h.shown with h' | ⟨hview, l, hl, hne⟩
  · exact h'
  · rcases hs with hs | hs | hs
    · refine .inl ?_
      rw [hl, hview]
      exact hs.append hne
    · exact .inr (.inl (h.marked hs))
    · exact .inr (.inr (h.removed hs))

theorem trans (h₁ : Tells r s₁ s₂) (h₂ : Tells r s₂ s₃) : Tells r s₁ s₃ := by
  refine ⟨h₂.marked ∘ h₁.marked, h₂.removed ∘ h₁.removed, ?_⟩
  rcases h₁.shown with h | ⟨hview, l, hl, hne⟩
  · exact .inl (h₂.announced h)
  · rcases h₂.shown with h' | ⟨hview', l', hl', hne'⟩
    · exact .inl h'
    · refine .inr ⟨hview'.trans hview, l ++ l', by rw [hl', hl, List.append_assoc], fun x hx => ?_⟩
      exact (List.mem_append.mp hx).elim (hne x) (hne' x)

/-- A record that is no state change of the socket. -/
theorem of_record {c : MapChange} (hc : (Action.record c).Spares r) (s : SystemMap σ) :
    Tells r s (record (fun track m => m.record track c) s) := by
  cases hclients : s.hasClients with
  | false =>
    have hsame : (record (fun track m => m.record track c) s).mapUpdate = s.mapUpdate := by
      simp only [record, hclients]
      cases c <;> rfl
    exact of_same hsame rfl
  | true =>
    have hrecord : (record (fun track m => m.record track c) s).mapUpdate =
        s.mapUpdate.record true c := by
      simp only [record, hclients]
    cases c with
    | addStateChange x =>
      refine ⟨?_, ?_, .inr ⟨rfl, [x], ?_, ?_⟩⟩ <;> try rw [hrecord]
      · exact id
      · exact id
      · rfl
      · intro y hy
        rw [List.mem_singleton.mp hy]
        exact hc
    | markItemForRemoval i =>
      refine ⟨?_, ?_, .inr ⟨rfl, [], ?_, List.forall_mem_nil _⟩⟩ <;> rw [hrecord]
      · exact List.mem_append_left _
      · exact id
      · exact (List.append_nil _).symm
    | addItemRemoval i =>
      refine ⟨?_, ?_, .inr ⟨rfl, [], ?_, List.forall_mem_nil _⟩⟩ <;> rw [hrecord]
      · exact id
      · exact List.mem_append_left _
      · exact (List.append_nil _).symm
    | addSocketAddition q =>
      refine ⟨?_, ?_, .inr ⟨rfl, [], ?_, List.forall_mem_nil _⟩⟩ <;> rw [hrecord]
      · exact id
      · exact id
      · exact (List.append_nil _).symm
    | addTupleAddition e u =>
      refine ⟨?_, ?_, .inr ⟨rfl, [], ?_, List.forall_mem_nil _⟩⟩ <;> rw [hrecord]
      · exact id
      · exact id
      · exact (List.append_nil _).symm

end Tells

/-- A socket that the clients can know. -/
structure Stands (r : Ref) (t : TreeShape) : Prop where
  ids : t.Ids
  pos : r ≠ 0
  id : t.sockId r = r

theorem Stands.lt {t : TreeShape} (hr : Stands r t) : r < t.next :=
  (hr.ids.socket r (hr.id.symm ▸ hr.pos)).2

/-- Another socket has another id. -/
theorem Stands.ne {t : TreeShape} (hr : Stands r t) {q : Ref} (hq : q ≠ r) : t.sockId q ≠ r :=
  fun hid => hq ((hr.ids.socket q (hid ▸ hr.pos)).1.symm.trans hid)

theorem Does.ids (hs : Does h C K s s') (hids : s.shape.Ids) : s'.shape.Ids :=
  hs.keeps (I := fun s => s.shape.Ids) (fun _ _ hI => hI)
    (fun who c s _ hI => by rw [shape_call]; exact hI) (fun _ _ _ hI => hI)
    (fun m s hm _ hI => by
      rw [shape_modify, Change.shape_apply hm]
      exact hI.onShape m) hids

theorem Does.stands (hs : Does h C K s s') (hr : Stands r s.shape) : Stands r s'.shape := by
  refine hs.keeps (I := fun s => Stands r s.shape) (fun _ _ hI => hI)
    (fun who c s _ hI => by rw [shape_call]; exact hI) (fun _ _ _ hI => hI)
    (fun m s hm _ hI => ?_) hr
  rw [shape_modify, Change.shape_apply hm]
  exact ⟨hI.ids.onShape m, hI.pos, (TreeShape.sockId_onShape m hI.lt).trans hI.id⟩

theorem Does.hasClients (hs : Does h C K s s') : s'.hasClients = s.hasClients :=
  hs.keeps (I := fun s' => s'.hasClients = s.hasClients) (fun _ _ hI => hI) (fun _ _ _ _ hI => hI)
    (fun _ _ _ hI => hI) (fun _ _ _ _ hI => hI) rfl

/-- **Actions that leave the socket alone tell.** -/
theorem Does.tells (hs : Does h C K s s') (hK : ∀ a, K a → a.Spares r)
    (hr : Stands r s.shape) : Tells r s s' := by
  refine (hs.keeps (I := fun s' => Stands r s'.shape ∧ Tells r s s')
    (fun n s' hI => ⟨hI.1, hI.2.trans (.of_same rfl rfl)⟩)
    (fun who c s' hc hI => ⟨(does_call (h := h) (C := C) (K := K) hc s').stands hI.1,
      hI.2.trans (.of_same rfl (CounterTree.visible_applyCall who c s'.toCounterTree r))⟩)
    (fun c s' hc hI => ⟨hI.1, hI.2.trans (.of_record (hK _ hc) s')⟩)
    (fun m s' hm hK' hI => ⟨(does_change (h := h) (C := C) (K := K) m hm hK').stands hI.1,
      hI.2.trans (.of_same rfl (CounterTree.visible_change hI.1.lt (hK _ hK')))⟩)
    ⟨hr, .of_same rfl rfl⟩).2

/-! ## Operations -/

/-- Any calls, and actions that leave the socket alone. -/
abbrev DoesBeside (h : Handler σ) (r : Ref) : SystemMap σ → SystemMap σ → Prop :=
  Does h (fun _ _ => True) (Action.Spares r)

/-- Actions that leave the socket alone show nothing new of it. -/
theorem DoesBeside.view_eq (hs : DoesBeside h r s s') (hr : r < s.nextItemId) :
    s'.view r = s.view r := by
  refine (hs.keeps (I := fun s' => s.nextItemId ≤ s'.nextItemId ∧ s'.view r = s.view r)
    (fun _ _ hI => hI) (fun who c s' _ hI => ⟨?_, ?_⟩) (fun _ _ _ hI => hI)
    (fun m s' _ hm hI => ⟨hI.1.trans (m.next_le _), ?_⟩) ⟨Nat.le_refl _, rfl⟩).2
  · cases who <;> exact hI.1
  · exact (CounterTree.visible_applyCall who c s'.toCounterTree r).trans hI.2
  · exact (CounterTree.visible_change (hr.trans_le hI.1) hm).trans hI.2

theorem DoesBeside.tells (hs : DoesBeside h r s s') (hr : Stands r s.shape) : Tells r s s' :=
  Does.tells hs (fun _ => id) hr

/-- An edit that shows nothing new of the socket. -/
theorem tells_edit {q : Ref} {f : SocketItem → SocketItem}
    (hf : q = r → (f (s.socket r).trafficItem).visible = (s.socket r).trafficItem.visible) :
    Tells r s (modify (·.editSocket q f) s) := by
  refine .of_same rfl ?_
  simp only [view, modify, CounterTree.editSocket, CounterTree.modifySocket, Function.update_apply]
  split
  · rename_i hq
    rw [← hq]
    exact hq ▸ hf hq.symm
  · rfl

/-- What is recorded of another socket has its id. -/
theorem tells_stateChange {q : Ref} (hr : Stands r s.shape) (hq : q ≠ r) :
    Tells r s (addStateChange (s.socket q).trafficItem.stateChange s) :=
  .of_record (c := .addStateChange (s.socket q).trafficItem.stateChange) (hr.ne hq) s

theorem announced_stateChange (hr : Stands r s.shape) (hclients : s.hasClients = true) :
    Announced r (addStateChange (s.socket r).trafficItem.stateChange s) := by
  have hlog : (addStateChange (s.socket r).trafficItem.stateChange s).mapUpdate =
      s.mapUpdate.record true (.addStateChange (s.socket r).trafficItem.stateChange) := by
    simp only [addStateChange, record, hclients]
    rfl
  refine .inl ?_
  rw [hlog]
  exact Carries.single s.mapUpdate.socketStateChanges hr.id fun _ => rfl

/-- The marks and the removals stay in the log. -/
theorem Does.grows (hs : Does h C K s s') :
    (r ∈ s.mapUpdate.markedForRemovalItems → r ∈ s'.mapUpdate.markedForRemovalItems) ∧
      (r ∈ s.mapUpdate.removedItems → r ∈ s'.mapUpdate.removedItems) := by
  refine hs.keeps (I := fun s' =>
    (r ∈ s.mapUpdate.markedForRemovalItems → r ∈ s'.mapUpdate.markedForRemovalItems) ∧
      (r ∈ s.mapUpdate.removedItems → r ∈ s'.mapUpdate.removedItems)) (fun _ _ hI => hI)
    (fun _ _ _ _ hI => hI) (fun c s' _ hI => ?_) (fun _ _ _ _ hI => hI) ⟨id, id⟩
  change (_ → r ∈ (s'.mapUpdate.record s'.hasClients c).markedForRemovalItems) ∧
    (_ → r ∈ (s'.mapUpdate.record s'.hasClients c).removedItems)
  cases s'.hasClients with
  | false => cases c <;> exact hI
  | true =>
    cases c with
    | markItemForRemoval i => exact ⟨fun h => List.mem_append_left _ (hI.1 h), hI.2⟩
    | addItemRemoval i => exact ⟨hI.1, fun h => List.mem_append_left _ (hI.2 h)⟩
    | _ => exact hI

/-- A path that announces the socket in the end. -/
theorem Tells.of_announced (hs : Does h C K s s') (h' : Announced r s') : Tells r s s' :=
  ⟨hs.grows.1, hs.grows.2, .inl h'⟩

theorem tells_processSocketEvent (event : NetEvent) (q : Ref) (hr : Stands r s.shape)
    (hclients : s.hasClients = true) : Tells r s (processSocketEvent h event q s) := by
  have hdoes : Does h (fun _ _ => True) (fun _ => True) s (processSocketEvent h event q s) :=
    does_processSocketEvent event q (fun _ => trivial) (fun _ => trivial) s
  have hedited : (modify (·.editSocket q event.apply) s).shape = s.shape :=
    shape_editSocket (apply_keys event _)
  by_cases hq : q = r
  · subst hq
    unfold processSocketEvent at hdoes ⊢
    simp only at hdoes ⊢
    generalize hs1 : (if event.signalsConnected then _ else _) = s1 at hdoes ⊢
    have h1 : s1.mapUpdate = s.mapUpdate ∧ s1.shape = s.shape ∧ s1.hasClients = s.hasClients := by
      rw [← hs1]
      split <;> exact ⟨rfl, hedited, rfl⟩
    split
    · rename_i hsame
      refine .of_same h1.1 ?_
      simp only [SocketItem.same, Bool.and_eq_true, decide_eq_true_eq] at hsame
      simp only [view, SocketItem.visible, hsame]
    · rename_i hchanged
      rw [if_neg hchanged] at hdoes
      refine .of_announced hdoes (announced_stateChange ?_ (h1.2.2.trans hclients))
      rw [h1.2.1]
      exact hr
  · unfold processSocketEvent
    simp only
    have hedit : Tells r s (modify (·.editSocket q event.apply) s) := tells_edit fun h => absurd h hq
    generalize hs1 : (if event.signalsConnected then _ else _) = s1
    have h1 : Tells r s s1 ∧ s1.shape = s.shape := by
      rw [← hs1]
      split
      · exact ⟨hedit.trans (.of_same rfl rfl), hedited⟩
      · exact ⟨hedit, hedited⟩
    split
    · exact h1.1
    · exact h1.1.trans (tells_stateChange (h1.2 ▸ hr) hq)

theorem tells_closeSocket (now : Msec) (q : Ref) (hr : Stands r s.shape)
    (hclients : s.hasClients = true) : Tells r s (closeSocket h now q s) := by
  by_cases hq : q = r
  · subst hq
    have hdoes : Does h (fun _ _ => True) (fun _ => True) s (closeSocket h now q s) :=
      does_closeSocket (fun _ _ _ => trivial) now q trivial trivial (fun _ => trivial)
        fun _ => trivial
    refine .of_announced hdoes (.inr (.inl ?_))
    have hlog : (closeSocket h now q s).mapUpdate =
        s.mapUpdate.markItemForRemoval s.hasClients (s.shape.sockId q) := by
      have hid : ((closeSocket h now q s).shape).sockId q = s.shape.sockId q := by
        rw [shape_closeSocket]
      exact congrArg (s.mapUpdate.markItemForRemoval s.hasClients) hid
    rw [hlog, hclients, hr.id]
    exact List.mem_append_right _ (List.mem_singleton.mpr rfl)
  · have hdoes : DoesBeside h r s (closeSocket h now q s) :=
      does_closeSocket (fun _ _ _ => trivial) now q trivial trivial (fun _ => hq) fun _ => trivial
    exact hdoes.tells hr

theorem tells_markSocketForRemoval (o : IterOrder) (now : Msec) (cookie : SocketCookie)
    (localPort : UInt32) (hr : Stands r s.shape) (hclients : s.hasClients = true) :
    Tells r s (markSocketForRemoval h o now cookie localPort s) := by
  unfold markSocketForRemoval
  split
  · exact .of_same rfl rfl
  · simp only
    split
    · split
      · rename_i listen _
        have hfirst : Does h (fun _ _ => True) (fun _ => True) s (closeSocket h now listen s) :=
          does_closeSocket (fun _ _ _ => trivial) now listen trivial trivial (fun _ => trivial)
            fun _ => trivial
        exact (tells_closeSocket now listen hr hclients).trans
          (tells_closeSocket now _ (hfirst.stands hr) (hfirst.hasClients.trans hclients))
      · exact tells_closeSocket now _ hr hclients
    · exact tells_closeSocket now _ hr hclients

theorem tells_mergeSyntheticSocket (o : IterOrder) (q : Ref) (hr : Stands r s.shape)
    (hquiet : q = r → ∀ e, findSynthetic o r s.toCounterTree = some e →
      isSynthetic (s.socket r).trafficItem.cookie = false →
      (s.socket r).trafficItem.socketTuple.localEndpoint.port ≠ 0 →
      (transferEndpoint (s.socket e.2).trafficItem.socketTuple (s.socket r).trafficItem).visible =
        (s.socket r).trafficItem.visible) :
    Tells r s (mergeSyntheticSocket h o q s) := by
  unfold mergeSyntheticSocket
  simp only
  split
  · exact .of_same rfl rfl
  · rename_i hreal
    rw [not_or, Bool.not_eq_true] at hreal
    split
    · exact .of_same rfl rfl
    · rename_i e he
      have hedit : Tells r s (modify (·.editSocket q
          (transferEndpoint (s.socket e.2).trafficItem.socketTuple)) s) := tells_edit fun hq => by
        subst hq
        exact hquiet rfl e he hreal.1 hreal.2
      have hedited : (modify (·.editSocket q
          (transferEndpoint (s.socket e.2).trafficItem.socketTuple)) s).shape = s.shape :=
        shape_editSocket ⟨rfl, rfl, rfl⟩
      have hrest (s : SystemMap σ) (p : Ref) (i : TrafficItemId) : DoesBeside h r s
          (markItemForRemoval i (modify (·.dropSynthetic p e)
            (notify h (.onSocketRemoved e.2) s))) :=
        ((does_notify _ s).change (.dropSynthetic p e) trivial trivial).record
          (.markItemForRemoval i) trivial
      exact hedit.trans ((hrest _ _ _).tells (hedited ▸ hr))

/-! ### Packets -/

/-- What `MapSocketFromTrafficEvent` completes of the item of a socket. -/
def completeItem (d : PacketDirection) (packet : PacketHeader) (item : SocketItem) : SocketItem :=
  { item with
    socketTuple := { item.socketTuple with
      localEndpoint :=
        if item.socketTuple.localEndpoint.address.isZero ∨
            item.socketTuple.localEndpoint.port = 0 then packet.local d
        else item.socketTuple.localEndpoint
      protocol := if item.socketTuple.protocol = .unknown then packet.l4Proto
        else item.socketTuple.protocol } }

/-- The item of a socket after a packet that is counted for it, and whether the change is
recorded. -/
def packetItem (env : TrafficEnv) (d : PacketDirection) (header : Option PacketHeader)
    (item : SocketItem) : SocketItem × Bool :=
  let item := { item with connectionState := .connected }
  if !item.socketTuple.localEndpoint.address.isZero ∧
      !item.socketTuple.remoteEndpoint.address.isZero ∧ item.socketTuple.protocol = .tcp then
    (item, false)
  else match header with
    | none => (item, false)
    | some packet => applyPacketHeader env d packet item

/-- `DoPacketParsing` sets `bItemModified`: an endpoint that is not known is another one in the
packet, or the type is not known and the packet tells it. -/
def PacketModifies (env : TrafficEnv) (d : PacketDirection) (packet : PacketHeader)
    (item : SocketItem) : Prop :=
  let tuple := item.socketTuple
  (tuple.localEndpoint.address.isZero ∧ tuple.localEndpoint ≠ packet.local d) ∨
    (tuple.remoteEndpoint.address.isZero ∧ packet.l4Proto ≠ .udp ∧
      tuple.remoteEndpoint ≠ packet.remote d) ∨
    (item.socketType = SocketType.unknown ∧ (packet.l4Proto = .icmp ∨ packet.l4Proto = .icmpv6 ∨
      env.determineSocketType
        (if tuple.localEndpoint.address.isZero then packet.local d else tuple.localEndpoint)
        packet.l4Proto (packet.remote d) ≠ SocketType.unknown))

/-- The socket is connected already, and its packet is not parsed or has the protocol that it shows;
or the packet modifies an endpoint or the type. -/
def PacketShown (env : TrafficEnv) (d : PacketDirection) (header : Option PacketHeader)
    (item : SocketItem) : Prop :=
  let tuple := item.socketTuple
  if !tuple.localEndpoint.address.isZero ∧ !tuple.remoteEndpoint.address.isZero ∧
      tuple.protocol = .tcp then item.connectionState = .connected
  else match header with
    | none => item.connectionState = .connected
    | some packet => PacketModifies env d packet item ∨
        item.connectionState = .connected ∧ tuple.protocol = packet.l4Proto

/-- The item has an address and a port or those of the packet, and a protocol. -/
structure MapsAs (d : PacketDirection) (packet : PacketHeader) (item : SocketItem) : Prop where
  endpoint : item.socketTuple.localEndpoint.address.isZero ∨ item.socketTuple.localEndpoint.port = 0 →
    item.socketTuple.localEndpoint = packet.local d
  protocol : item.socketTuple.protocol = .unknown → packet.l4Proto = .unknown

theorem MapsAs.visible {d : PacketDirection} {packet : PacketHeader} {item : SocketItem}
    (h : MapsAs d packet item) : (completeItem d packet item).visible = item.visible := by
  have hendpoint : (if item.socketTuple.localEndpoint.address.isZero ∨
      item.socketTuple.localEndpoint.port = 0 then packet.local d
      else item.socketTuple.localEndpoint) = item.socketTuple.localEndpoint := by
    split
    · rename_i hopen
      exact (h.endpoint hopen).symm
    · rfl
  have hprotocol : (if item.socketTuple.protocol = .unknown then packet.l4Proto
      else item.socketTuple.protocol) = item.socketTuple.protocol := by
    split
    · rename_i hunknown
      exact (h.protocol hunknown).trans hunknown.symm
    · rfl
  simp only [completeItem, SocketItem.visible, hendpoint, hprotocol]

/-- The item has the address of the synthetic socket, and its protocol if it has none. -/
structure MergesAs (existing : SocketTuple) (item : SocketItem) : Prop where
  address : item.socketTuple.localEndpoint.address = existing.localEndpoint.address
  protocol : item.socketTuple.protocol = .unknown → existing.protocol = .unknown

theorem MergesAs.visible {existing : SocketTuple} {item : SocketItem} (h : MergesAs existing item) :
    (transferEndpoint existing item).visible = item.visible := by
  have hprotocol : (if item.socketTuple.protocol = .unknown then existing.protocol
      else item.socketTuple.protocol) = item.socketTuple.protocol := by
    split
    · rename_i hunknown
      exact (h.protocol hunknown).trans hunknown.symm
    · rfl
  simp only [transferEndpoint, SocketItem.visible, ← h.address, hprotocol]

/-- An endpoint or the type changes exactly when the packet modifies it. -/
theorem applyPacketHeader_modifies_iff (env : TrafficEnv) (d : PacketDirection) (packet : PacketHeader)
    (item : SocketItem) :
    (applyPacketHeader env d packet item).2 = true ↔ PacketModifies env d packet item := by
  simp only [applyPacketHeader, PacketModifies, Bool.or_eq_true, decide_eq_true_eq, or_assoc]
  refine or_congr ?_ (or_congr ?_ ?_)
  · cases item.socketTuple.localEndpoint.address.isZero <;>
      simp only [Bool.not_false, Bool.not_true, if_true, if_false, ne_eq, not_true_eq_false,
        Bool.false_eq_true, false_and, true_and, eq_comm]
  · by_cases hudp : packet.l4Proto = .udp
    · simp only [hudp, or_true, if_true, ne_eq, not_true_eq_false, false_and, and_false]
    · cases item.socketTuple.remoteEndpoint.address.isZero <;>
        simp only [hudp, Bool.not_false, Bool.not_true, or_false, if_true, if_false, ne_eq,
          not_true_eq_false, not_false_eq_true, Bool.false_eq_true, false_and, true_and, eq_comm]
  · by_cases hunknown : item.socketType = SocketType.unknown
    · by_cases hicmp : packet.l4Proto = .icmp ∨ packet.l4Proto = .icmpv6
      · rw [if_neg (not_not.mpr hunknown), if_pos hicmp, hunknown, ← or_assoc]
        exact iff_of_true (by decide) ⟨rfl, .inl hicmp⟩
      · rw [if_neg (not_not.mpr hunknown), if_neg hicmp, hunknown, ← or_assoc]
        cases item.socketTuple.localEndpoint.address.isZero <;>
          simp only [hicmp, Bool.not_false, Bool.not_true, if_true, if_false, Bool.false_eq_true,
            false_or, true_and]
    · simp only [hunknown, ne_eq, not_false_eq_true, if_true, not_true_eq_false, false_and]

/-- A packet with the protocol of the item that modifies nothing leaves what is shown. -/
theorem visible_applyPacketHeader {env : TrafficEnv} {d : PacketDirection} {packet : PacketHeader}
    {item : SocketItem} (hsame : (applyPacketHeader env d packet item).2 = false)
    (hprotocol : item.socketTuple.protocol = packet.l4Proto) :
    (applyPacketHeader env d packet item).1.visible = item.visible := by
  simp only [applyPacketHeader, Bool.or_eq_false_iff, decide_eq_false_iff_not, ne_eq, not_not] at hsame
  obtain ⟨⟨hlocal, hremote⟩, htype⟩ := hsame
  simp only [applyPacketHeader, SocketItem.visible, ne_eq]
  rw [htype, hlocal, hremote, ← hprotocol]

/-- A packet that is shown leaves what is shown, or the change is recorded. -/
theorem PacketShown.packetItem {env : TrafficEnv} {d : PacketDirection} {header : Option PacketHeader}
    {item : SocketItem} (h : PacketShown env d header item) :
    (packetItem env d header item).2 = true ∨
      (packetItem env d header item).1.visible = item.visible := by
  have hvisible (hconnected : item.connectionState = .connected) :
      ({ item with connectionState := .connected } : SocketItem).visible = item.visible := by
    simp only [SocketItem.visible, hconnected]
  unfold PacketShown at h
  unfold SystemMap.packetItem
  simp only at h ⊢
  split
  · rename_i hknown
    rw [if_pos hknown] at h
    exact .inr (hvisible h)
  · rename_i hopen
    rw [if_neg hopen] at h
    cases header with
    | none => exact .inr (hvisible h)
    | some packet =>
      simp only at h ⊢
      cases hflag : (applyPacketHeader env d packet { item with connectionState := .connected }).2 with
      | true => exact .inl rfl
      | false =>
        rcases h with hmodifies | ⟨hconnected, hprotocol⟩
        · have hset := (applyPacketHeader_modifies_iff env d packet
            { item with connectionState := .connected }).mpr hmodifies
          rw [hflag] at hset
          cases hset
        · exact .inr ((visible_applyPacketHeader hflag hprotocol).trans (hvisible hconnected))

/-- What a packet does to an item depends on what is shown of it. -/
theorem applyPacketHeader_congr (env : TrafficEnv) (d : PacketDirection) (packet : PacketHeader)
    {item item' : SocketItem} (h : item.visible = item'.visible) :
    (applyPacketHeader env d packet item).1.visible =
        (applyPacketHeader env d packet item').1.visible ∧
      (applyPacketHeader env d packet item).2 = (applyPacketHeader env d packet item').2 := by
  obtain ⟨htuple, hrest⟩ := Prod.mk.injEq .. ▸ h
  obtain ⟨htype, hstate⟩ := Prod.mk.injEq .. ▸ hrest
  simp only [applyPacketHeader, SocketItem.visible, htuple, htype, hstate, and_self]

/-- Calls alone change neither the log nor what is shown. -/
theorem Does.calls (hs : Does h C (fun _ => False) s s') :
    s'.mapUpdate = s.mapUpdate ∧ ∀ r, s'.view r = s.view r :=
  hs.keeps (I := fun s' => s'.mapUpdate = s.mapUpdate ∧ ∀ r, s'.view r = s.view r)
    (fun _ _ hI => hI) (fun who c s' _ hI => ⟨hI.1, fun r =>
      (CounterTree.visible_applyCall who c s'.toCounterTree r).trans (hI.2 r)⟩)
    (fun _ _ hK => hK.elim) (fun _ _ _ hK => hK.elim) ⟨rfl, fun _ => rfl⟩

/-- A push is calls, and then the socket is connected. -/
theorem pushTrafficForSocket_eq (d : PacketDirection) (bytes : WBytes) (q : Ref)
    (s : SystemMap σ) : ∃ s', Does h (fun _ _ => True) (fun _ => False) s s' ∧
      pushTrafficForSocket h d bytes q s =
        modify (·.editSocket q fun item => { item with connectionState := .connected }) s' :=
  ⟨_, (((does_call trivial s).call trivial).call trivial).trans
    (does_pushFilters (fun _ _ _ => trivial) d bytes _ _), rfl⟩

theorem view_edit (s : SystemMap σ) (r : Ref) (f : SocketItem → SocketItem) :
    (modify (·.editSocket r f) s).view r = (f (s.socket r).trafficItem).visible := by
  simp only [view, modify, CounterTree.editSocket, CounterTree.modifySocket, Function.update_self]

/-- The socket of a packet that is pushed. -/
theorem tells_pushOwn (env : TrafficEnv) (d : PacketDirection) (bytes : WBytes)
    (header : Option PacketHeader) (hr : Stands r s.shape) (hclients : s.hasClients = true)
    (hshown : PacketShown env d header (s.socket r).trafficItem) :
    Tells r s (doPacketParsing h env d bytes header r (pushTrafficForSocket h d bytes r s)) := by
  have hall : Does h (fun _ _ => True) (fun _ => True) s
      (doPacketParsing h env d bytes header r (pushTrafficForSocket h d bytes r s)) :=
    does_pushSocket (fun _ _ _ => trivial) env d bytes header r trivial trivial (fun _ => trivial)
      (fun _ => trivial) fun _ => trivial
  obtain ⟨s', hcalls, hpush⟩ := pushTrafficForSocket_eq (h := h) d bytes r s
  obtain ⟨hlog, hview⟩ := hcalls.calls
  rw [hpush] at hall ⊢
  generalize hs1 : modify (·.editSocket r fun item => { item with connectionState := .connected })
    s' = s1 at hall ⊢
  have hdoes1 : Does h (fun _ _ => True) (fun _ => True) s s1 := by
    rw [← hs1]
    exact (hcalls.mono (fun _ _ _ => trivial) fun _ hK => hK.elim).edit ⟨⟨rfl, rfl, rfl⟩, rfl⟩ trivial
  have hlog1 : s1.mapUpdate = s.mapUpdate := by
    rw [← hs1]
    exact hlog
  -- the item is now that of `packetItem`, but for its traffic
  have hview1 : (s1.socket r).trafficItem.visible =
      ({ (s.socket r).trafficItem with connectionState := .connected } : SocketItem).visible := by
    have htuple := congrArg (fun v : SocketView => (v.1, v.2.1, SocketConnectionState.connected))
      (hview r)
    rw [← hs1]
    exact (view_edit s' r _).trans htuple
  have htuple1 : (s1.socket r).trafficItem.socketTuple = (s.socket r).trafficItem.socketTuple :=
    congrArg Prod.fst hview1
  unfold doPacketParsing at hall ⊢
  replace hshown := hshown.packetItem
  unfold packetItem at hshown
  simp only [htuple1] at hall hshown ⊢
  split
  · rename_i hcomplete
    rw [if_pos hcomplete] at hshown
    exact .of_same hlog1 (hview1.trans (hshown.resolve_left Bool.false_ne_true))
  · rename_i hopen
    rw [if_neg hopen] at hshown hall
    cases header with
    | none => exact .of_same hlog1 (hview1.trans (hshown.resolve_left Bool.false_ne_true))
    | some packet =>
      simp only at hshown hall ⊢
      obtain ⟨hitem, hflag⟩ := applyPacketHeader_congr env d packet hview1
      rw [← hitem, ← hflag] at hshown
      generalize hs2 : modify (·.editSocket r fun _ =>
        (applyPacketHeader env d packet (s1.socket r).trafficItem).1) s1 = s2 at hall ⊢
      have hstands2 : Stands r s2.shape := by
        rw [← hs2, shape_editSocket ⟨rfl, rfl, rfl⟩]
        exact hdoes1.stands hr
      have hclients2 : s2.hasClients = true := by
        rw [← hs2]
        exact hdoes1.hasClients.trans hclients
      generalize hs3 : (if packet.l4Proto = .udp ∧ (!(packet.remote d).address.isZero) = true then
        pushTuple h env.now d bytes (packet.remote d) r s2 else s2) = s3 at hall ⊢
      have hdoes3 : DoesBeside h r s2 s3 := by
        rw [← hs3]
        split
        · exact does_pushTuple (fun _ _ _ => trivial) env.now d bytes _ r trivial (fun _ => trivial) s2
        · exact .refl s2
      by_cases hchanged : (applyPacketHeader env d packet (s1.socket r).trafficItem).2 = true
      · rw [if_pos hchanged] at hall ⊢
        exact .of_announced hall (announced_stateChange (hdoes3.stands hstands2)
          (hdoes3.hasClients.trans hclients2))
      · rw [if_neg hchanged]
        have hedit : Tells r s s2 := by
          refine .of_same ?_ ?_
          · rw [← hs2]
            exact hlog1
          · rw [← hs2]
            exact (view_edit s1 r _).trans (hshown.resolve_left hchanged)
        exact hedit.trans (hdoes3.tells hstands2)

/-- A packet of another socket. -/
theorem tells_pushOther (env : TrafficEnv) (d : PacketDirection) (bytes : WBytes)
    (header : Option PacketHeader) {q : Ref} (hq : q ≠ r) (hr : Stands r s.shape) :
    Tells r s (doPacketParsing h env d bytes header q (pushTrafficForSocket h d bytes q s)) := by
  have hpush : DoesBeside h r s (pushTrafficForSocket h d bytes q s) :=
    does_pushTrafficForSocket (fun _ _ _ => trivial) d bytes q trivial trivial hq
  refine (hpush.tells hr).trans ?_
  have hr1 := hpush.stands hr
  generalize pushTrafficForSocket h d bytes q s = s1 at hr1 ⊢
  unfold doPacketParsing
  simp only
  split
  · exact .of_same rfl rfl
  · split
    · exact .of_same rfl rfl
    · rename_i packet
      have hedit : DoesBeside h r s1 (modify (·.editSocket q fun _ =>
          (applyPacketHeader env d packet (s1.socket q).trafficItem).1) s1) :=
        does_edit ⟨⟨rfl, rfl, rfl⟩, rfl⟩ hq
      have htuple (s : SystemMap σ) : DoesBeside h r s
          (pushTuple h env.now d bytes (packet.remote d) q s) :=
        does_pushTuple (fun _ _ _ => trivial) env.now d bytes _ q trivial (fun _ => trivial) s
      have hboth := hedit.trans (htuple _)
      split <;> split
      · exact (DoesBeside.tells hboth hr1).trans (tells_stateChange (hboth.stands hr1) hq)
      · exact (hedit.tells hr1).trans (tells_stateChange (hedit.stands hr1) hq)
      · exact DoesBeside.tells hboth hr1
      · exact hedit.tells hr1

theorem tells_pushSocket (env : TrafficEnv) (d : PacketDirection) (bytes : WBytes)
    (header : Option PacketHeader) {q : Ref} (hr : Stands r s.shape) (hclients : s.hasClients = true)
    (hshown : q = r → PacketShown env d header (s.socket r).trafficItem) :
    Tells r s (doPacketParsing h env d bytes header q (pushTrafficForSocket h d bytes q s)) := by
  by_cases hq : q = r
  · subst hq
    exact tells_pushOwn env d bytes header hr hclients (hshown rfl)
  · exact tells_pushOther env d bytes header hq hr

/-! ### Mapping -/

theorem doesBeside_mapSocket (env : MapEnv) (cookie : SocketCookie) (established : Bool)
    (pid : ProcessId) (silentFail : Bool) (s : SystemMap σ) :
    DoesBeside h r s (mapSocket h env cookie established pid silentFail s).2 :=
  does_mapSocket (fun _ ha => .of_maps ha) env cookie established pid silentFail s

/-- An older socket that `MapSocket` returns is the one under the cookie. -/
theorem mapSocket_old (env : MapEnv) {cookie : SocketCookie} {established : Bool} {pid : ProcessId}
    {silentFail : Bool} (hr : r < s.nextItemId)
    (hmap : (mapSocket h env cookie established pid silentFail s).1 = some r) :
    cookie ≠ 0 ∧ s.sockets.lookup cookie = some r ∧
      (mapSocket h env cookie established pid silentFail s).2 = s := by
  unfold mapSocket at hmap ⊢
  split at hmap
  · cases hmap
  · rename_i hcookie
    rw [if_neg hcookie]
    split at hmap
    · rename_i hpid
      rw [if_pos hpid]
      split at hmap
      · rename_i hfind
        rw [if_pos hfind]
        exact ⟨hcookie, hmap, rfl⟩
      · cases hmap
    · rename_i hpid
      rw [if_neg hpid]
      split at hmap
      · rename_i hlookup
        cases hmap
        simp only [hlookup]
        exact ⟨hcookie, trivial, trivial⟩
      · rename_i hlookup
        have hnew := newSocket_mapNewSocket (h := h) env pid hlookup
        exact absurd hr (Nat.not_lt.mpr (Option.some.inj hmap ▸ hnew.new))

theorem tells_mapSocketFromTrafficEvent (env : TrafficEnv) (cookie : SocketCookie)
    (d : PacketDirection) (header : Option PacketHeader) (hr : Stands r s.shape)
    (hquiet : ∀ packet, header = some packet → cookie ≠ 0 → s.sockets.lookup cookie = some r →
      0 < env.endpointPID (packet.local d) → MapsAs d packet (s.socket r).trafficItem) :
    Tells r s (mapSocketFromTrafficEvent h env cookie d header s).2 := by
  unfold mapSocketFromTrafficEvent
  split
  · exact .of_same rfl rfl
  · rename_i packet
    simp only
    split
    · exact .of_same rfl rfl
    · rename_i hpid
      have hmap := doesBeside_mapSocket (h := h) (r := r) env.toMapEnv cookie false
        (env.endpointPID (packet.local d)) false s
      split
      · exact hmap.tells hr
      · rename_i q hq
        refine (hmap.tells hr).trans (tells_edit fun hqr => ?_)
        subst hqr
        obtain ⟨hcookie, hlookup, hsame⟩ := mapSocket_old env.toMapEnv hr.lt hq
        rw [hsame]
        exact (hquiet packet rfl hcookie hlookup (Int.not_le.mp hpid)).visible

/-- Mapping puts an older socket under no cookie. -/
theorem Does.lookup_of_maps (hs : Does h C (fun a => a.Maps) s s') (hr : r < s.nextItemId) :
    ∀ c, s'.sockets.lookup c = some r → s.sockets.lookup c = some r := by
  refine (hs.keeps (I := fun s' => s.nextItemId ≤ s'.nextItemId ∧
      ∀ c, s'.sockets.lookup c = some r → s.sockets.lookup c = some r) (fun _ _ hI => hI)
    (fun who _ _ _ hI => by cases who <;> exact hI) (fun _ _ _ hI => hI)
    (fun m s' _ hm hI => ?_) ⟨Nat.le_refl _, fun _ => id⟩).2
  cases m with
  | addSocket now c p =>
    refine ⟨hI.1.trans (Nat.le_succ _), fun c' hc' => hI.2 c' ?_⟩
    replace hc' : (s'.sockets.insert c s'.nextItemId).lookup c' = some r := hc'
    rw [UMap.lookup_insert_ite] at hc'
    split at hc'
    · exact absurd (hr.trans_le hI.1) (Option.some.inj hc' ▸ Nat.lt_irrefl _)
    · exact hc'
  | addProcess now pid a => exact ⟨hI.1.trans (Nat.le_succ _), hI.2⟩
  | addApp now key commandLine appName => exact ⟨hI.1.trans (Nat.le_succ _), hI.2⟩
  | upgradeApp existingKey key commandLine appName a => exact hI
  | _ => exact absurd hm id

/-- What `AddExistingSockets` makes of the item of a socket. -/
def listenItem (info : ListenSocketInfo) (item : SocketItem) : SocketItem :=
  { item with
    socketTuple := { item.socketTuple with
      localEndpoint := info.localEndpoint, protocol := info.protocol }
    socketType := SocketType.listen
    connectionState := .connected }

/-- The item shows the listening socket already. -/
structure ListensAs (info : ListenSocketInfo) (item : SocketItem) : Prop where
  endpoint : item.socketTuple.localEndpoint = info.localEndpoint
  protocol : item.socketTuple.protocol = info.protocol
  type : item.socketType = SocketType.listen
  state : item.connectionState = .connected

theorem ListensAs.visible {info : ListenSocketInfo} {item : SocketItem} (h : ListensAs info item) :
    (listenItem info item).visible = item.visible := by
  simp only [listenItem, SocketItem.visible, ← h.endpoint, ← h.protocol, h.type, h.state]

/-- The sockets that `AddExistingSockets` maps. -/
def isMapped (isProcessRunning : ProcessId → Bool) (info : ListenSocketInfo) : Bool :=
  0 < info.pid && isProcessRunning info.pid

/-- One turn of the loop, which edits the socket under the next cookie. -/
theorem tells_addExistingSocket (env : MapEnv) (isProcessRunning : ProcessId → Bool)
    (info : ListenSocketInfo) {acc : SocketCookie × SystemMap σ} (hr : Stands r acc.2.shape)
    (hquiet : isMapped isProcessRunning info = true → acc.2.sockets.lookup acc.1 = some r →
      (listenItem info (acc.2.socket r).trafficItem).visible = acc.2.view r) :
    let out := addExistingSocket h env isProcessRunning acc info
    Stands r out.2.shape ∧ out.2.view r = acc.2.view r ∧ Tells r acc.2 out.2 ∧
      (∀ c, out.2.sockets.lookup c = some r → acc.2.sockets.lookup c = some r) ∧
      out.1 = if isMapped isProcessRunning info then acc.1 + 1 else acc.1 := by
  have hskip : (info.pid ≤ 0 ∨ !isProcessRunning info.pid) ↔
      ¬isMapped isProcessRunning info = true := by
    rw [isMapped, Bool.and_eq_true, decide_eq_true_eq, not_and_or, Int.not_lt, Bool.not_eq_true']
    rw [Bool.not_eq_true]
  unfold addExistingSocket
  simp only [hskip]
  split
  · exact ⟨hr, rfl, .of_same rfl rfl, fun _ => id, rfl⟩
  · rename_i hmapped
    rw [not_not] at hmapped
    have hmap := doesBeside_mapSocket (h := h) (r := r) env acc.1 false info.pid false acc.2
    have hmaps : Does h (fun _ _ => True) (fun a => a.Maps) acc.2
        (mapSocket h env acc.1 false info.pid false acc.2).2 :=
      does_mapSocket (fun _ => id) env acc.1 false info.pid false acc.2
    have hview : (mapSocket h env acc.1 false info.pid false acc.2).2.view r = acc.2.view r :=
      hmap.view_eq hr.lt
    split
    · exact ⟨hmap.stands hr, hview, hmap.tells hr, hmaps.lookup_of_maps hr.lt,
        (if_pos hmapped).symm⟩
    · rename_i q hq
      have hedit : q = r → (listenItem info ((mapSocket h env acc.1 false info.pid false
          acc.2).2.socket r).trafficItem).visible =
            (mapSocket h env acc.1 false info.pid false acc.2).2.view r := by
        rintro rfl
        obtain ⟨-, hlookup, hsame⟩ := mapSocket_old env hr.lt hq
        rw [hsame]
        exact hquiet hmapped hlookup
      refine ⟨?_, ?_, (hmap.tells hr).trans (tells_edit hedit), hmaps.lookup_of_maps hr.lt,
        (if_pos hmapped).symm⟩
      · rw [shape_editSocket ⟨rfl, rfl, rfl⟩]
        exact hmap.stands hr
      · by_cases hqr : q = r
        · subst hqr
          exact (view_edit _ q _).trans ((hedit rfl).trans hview)
        · refine Eq.trans ?_ hview
          exact congrArg (fun c : SocketCounter => c.trafficItem.visible)
            (Function.update_of_ne (Ne.symm hqr) ..)

/-- What `AddExistingSockets` writes into the item depends on what is shown of it. -/
theorem listenItem_congr (info : ListenSocketInfo) {item item' : SocketItem}
    (h : item.visible = item'.visible) :
    (listenItem info item).visible = (listenItem info item').visible := by
  have htuple : item.socketTuple = item'.socketTuple := congrArg Prod.fst h
  simp only [listenItem, SocketItem.visible, htuple]

theorem tells_addExistingSockets (env : MapEnv) (isProcessRunning : ProcessId → Bool)
    (listeningSockets : List ListenSocketInfo) (hr : Stands r s.shape)
    (hquiet : ∀ (n : Nat) info, (listeningSockets.filter (isMapped isProcessRunning))[n]? = some info →
      s.sockets.lookup (syntheticCookieBase + n) = some r →
      (listenItem info (s.socket r).trafficItem).visible = s.view r) :
    Tells r s (addExistingSockets h env isProcessRunning listeningSockets s) := by
  -- the n-th socket that is mapped gets the n-th cookie
  have hloop : ∀ (l : List ListenSocketInfo) (acc : SocketCookie × SystemMap σ),
      Stands r acc.2.shape → acc.2.view r = s.view r →
      (∀ c, acc.2.sockets.lookup c = some r → s.sockets.lookup c = some r) →
      (∀ (n : Nat) info, (l.filter (isMapped isProcessRunning))[n]? = some info →
        s.sockets.lookup (acc.1 + n) = some r →
        (listenItem info (s.socket r).trafficItem).visible = s.view r) →
        Tells r acc.2 (l.foldl (addExistingSocket h env isProcessRunning) acc).2 := by
    intro l
    induction l with
    | nil => exact fun _ _ _ _ _ => .of_same rfl rfl
    | cons info l ih =>
      intro acc hr hview hold hrest
      obtain ⟨hr', hview', htells, hold', hcookie⟩ :=
        tells_addExistingSocket (h := h) env isProcessRunning info hr fun hmapped hlookup => by
          rw [List.filter_cons_of_pos hmapped] at hrest
          rw [listenItem_congr info hview, hview]
          exact hrest 0 info rfl (hold _ hlookup)
      refine htells.trans (ih _ hr' (hview'.trans hview) (fun c hc => hold c (hold' c hc)) ?_)
      intro n info' hn hlookup
      rw [hcookie] at hlookup
      by_cases hmapped : isMapped isProcessRunning info = true
      · rw [if_pos hmapped, Nat.add_assoc, Nat.add_comm 1 n] at hlookup
        refine hrest (n + 1) info' ?_ hlookup
        rw [List.filter_cons_of_pos hmapped]
        exact hn
      · rw [if_neg hmapped] at hlookup
        refine hrest n info' ?_ hlookup
        rw [List.filter_cons_of_neg hmapped]
        exact hn
  exact hloop listeningSockets (syntheticCookieBase, s) hr rfl (fun _ => id) hquiet

theorem tells_pushOutgoingTraffic (env : TrafficEnv) (cookie : SocketCookie) (bytes : WBytes)
    (header : Option PacketHeader) (hr : Stands r s.shape) (hclients : s.hasClients = true)
    (hshown : s.sockets.lookup cookie = some r →
      PacketShown env .outgoing header (s.socket r).trafficItem) :
    Tells r s (pushOutgoingTraffic h env cookie bytes header s) := by
  unfold pushOutgoingTraffic
  have hsystem : DoesBeside h r s (call h .system (.pushOutgoingTraffic bytes) s) :=
    does_call trivial s
  refine (hsystem.tells hr).trans ?_
  have hr1 := hsystem.stands hr
  cases hlookup : s.sockets.lookup cookie with
  | some q =>
    have hlookup' : (call h .system (.pushOutgoingTraffic bytes) s).sockets.lookup cookie =
      some q := hlookup
    simp only [hlookup']
    refine tells_pushSocket env .outgoing bytes header hr1 hclients fun hq => ?_
    exact hshown (hq ▸ hlookup)
  | none =>
    have hlookup' : (call h .system (.pushOutgoingTraffic bytes) s).sockets.lookup cookie =
      none := hlookup
    simp only [hlookup']
    have hmap := tells_mapSocketFromTrafficEvent (h := h) env cookie .outgoing header hr1
      fun _ _ _ hknown => by rw [hlookup'] at hknown; cases hknown
    have hdoes : Does h (fun _ _ => True) (fun _ => True)
        (call h .system (.pushOutgoingTraffic bytes) s) (mapSocketFromTrafficEvent h env cookie
          .outgoing header (call h .system (.pushOutgoingTraffic bytes) s)).2 :=
      does_mapSocketFromTrafficEvent (fun _ _ => trivial) env cookie .outgoing header _
        fun _ _ _ => trivial
    split
    · exact hmap
    · rename_i q hq
      refine hmap.trans (tells_pushOther env .outgoing bytes header ?_ (hdoes.stands hr1))
      cases header with
      | none => cases hq
      | some packet =>
        obtain ⟨-, -, hmade, hnew, -⟩ :=
          newSocket_mapSocketFromTrafficEvent env .outgoing packet hlookup' hq
        rintro rfl
        exact absurd hr1.lt (Nat.not_lt.mpr (hmade ▸ hnew.new))

/-! ### Every operation -/

end SystemMap

/-- The operation changes what is shown of the socket in no place where nothing is recorded: a
packet that is counted for it, the merge with a synthetic socket, and the mapping of a socket that
is there already. -/
def SystemMapOp.QuietAt (r : Ref) (t : CounterTree) : SystemMapOp → Prop
  | .mapSocketFromTrafficEvent env cookie d header =>
    ∀ packet, header = some packet → cookie ≠ 0 → t.sockets.lookup cookie = some r →
      0 < env.endpointPID (packet.local d) →
      SystemMap.MapsAs d packet (t.socket r).trafficItem
  | .addExistingSockets _ isProcessRunning listeningSockets =>
    ∀ (n : Nat) info,
      (listeningSockets.filter (SystemMap.isMapped isProcessRunning))[n]? = some info →
      t.sockets.lookup (SystemMap.syntheticCookieBase + n) = some r →
      SystemMap.ListensAs info (t.socket r).trafficItem
  | .mergeSyntheticSocket o q =>
    q = r → ∀ e, SystemMap.findSynthetic o r t = some e →
      SystemMap.isSynthetic (t.socket r).trafficItem.cookie = false →
      (t.socket r).trafficItem.socketTuple.localEndpoint.port ≠ 0 →
      SystemMap.MergesAs (t.socket e.2).trafficItem.socketTuple (t.socket r).trafficItem
  | .pushIncomingTraffic env cookie _ header =>
    t.sockets.lookup cookie = some r →
      SystemMap.PacketShown env .incoming header (t.socket r).trafficItem
  | .pushOutgoingTraffic env cookie _ header =>
    t.sockets.lookup cookie = some r →
      SystemMap.PacketShown env .outgoing header (t.socket r).trafficItem
  | _ => True

namespace SystemMap

variable {σ : Type} {h : Handler σ} {s : SystemMap σ} {r : Ref}

/-- **An operation that is quiet about a socket tells.** -/
theorem tells_step {op : SystemMapOp} (hr : Stands r s.shape) (hclients : s.hasClients = true)
    (hquiet : op.QuietAt r s.toCounterTree) : Tells r s (step h s op) := by
  cases op with
  | mapSocket env cookie established pid silentFail =>
    exact (doesBeside_mapSocket env cookie established pid silentFail s).tells hr
  | mapSocketFromTrafficEvent env cookie d header =>
    exact tells_mapSocketFromTrafficEvent env cookie d header hr hquiet
  | addExistingSockets env isProcessRunning listeningSockets =>
    exact tells_addExistingSockets env isProcessRunning listeningSockets hr
      fun n info hn hlookup => (hquiet n info hn hlookup).visible
  | processInitialApps o =>
    have hdoes : DoesBeside h r s (processInitialApps h o s) := does_processInitialApps o s
    exact hdoes.tells hr
  | processSocketEvent event q =>
    simp only [step]
    split
    · exact tells_processSocketEvent event q hr hclients
    · exact .of_same rfl rfl
  | mergeSyntheticSocket o q =>
    simp only [step]
    split
    · exact tells_mergeSyntheticSocket o q hr fun hq e he hreal hport =>
        (hquiet hq e he hreal hport).visible
    · exact .of_same rfl rfl
  | markSocketForRemoval o now cookie localPort =>
    exact tells_markSocketForRemoval o now cookie localPort hr hclients
  | reparentAcceptedSocket q =>
    simp only [step]
    split
    · rename_i hq
      have hdoes : DoesBeside h r s (reparentAcceptedSocket h q s) :=
        does_reparentAcceptedSocket hq fun _ => trivial
      exact hdoes.tells hr
    · exact .of_same rfl rfl
  | reparentOrphanedSocket now endpoint pid =>
    have hdoes : DoesBeside h r s (reparentOrphanedSocket h now endpoint pid s) :=
      does_reparentOrphanedSocket (fun _ ha => .of_maps ha) (fun _ => trivial)
        (fun _ _ => trivial) (fun _ _ => trivial) now endpoint pid s
    exact hdoes.tells hr
  | pushIncomingTraffic env cookie bytes header =>
    have hsystem : DoesBeside h r s (call h .system (.pushIncomingTraffic bytes) s) :=
      does_call trivial s
    simp only [step, pushIncomingTraffic]
    split
    · exact hsystem.tells hr
    · rename_i q hq
      refine (hsystem.tells hr).trans
        (tells_pushSocket env .incoming bytes header (hsystem.stands hr) hclients fun hqr => ?_)
      subst hqr
      exact hquiet hq
  | pushOutgoingTraffic env cookie bytes header =>
    exact tells_pushOutgoingTraffic env cookie bytes header hr hclients hquiet
  | refreshAllTrafficCounters env =>
    have hdoes : DoesBeside h r s (refreshAllTrafficCounters h env s) :=
      does_refreshAllTrafficCounters env (fun _ ha => .of_drops ha) (fun _ _ _ => trivial)
        (fun _ _ => trivial) (fun _ => trivial) (fun _ => trivial) s
    exact hdoes.tells hr
  | takeItemId =>
    have hdoes : DoesBeside h r s (takeItemId s) := does_change .takeItemId trivial trivial
    exact hdoes.tells hr

end SystemMap

end Waechter
