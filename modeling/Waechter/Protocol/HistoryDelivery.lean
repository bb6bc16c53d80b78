import Mathlib.Data.Fintype.Basic
import Waechter.Daemon.ConnectionSets
import Waechter.Lib.Window

/-!
# Delivering the connection history

A client gets the history with its initial data (`SendInitialDataToClient`), and after that what
`WDaemon::BroadcastUpdates` (`Daemon/Daemon.cpp`) sends: the daemon tests `HasClients`, takes the
update, which starts the counter of new entries again, and broadcasts it when it has changes. The
client keeps the last entries it was sent (`Gui/Windows/ConnectionHistoryWindow.cpp`). Connections
begin and end, and entries are made, between any two of these steps.

* `delivered_once`: every entry of the initial list and every later one is shown or on its way once,
  in every run where no update drops new entries, none reaches a client that has them or misses one
  that does not, no list is sent while entries wait, and no entry is made on a full history.
* `lost_without_changes`: an update without changes is not broadcast, and its new entries are gone.
-/

namespace Waechter

open Lib

/-! ## The client -/

/-- `WConnectionHistoryListItem`: what the window keeps of an entry. -/
structure HistoryListItem where
  connectionId : Nat
  remoteEndpoint : Endpoint
  dataIn : WBytes
  dataOut : WBytes
  deriving DecidableEq

/-- `MT_ConnectionHistory` and `MT_ConnectionHistoryUpdate`. -/
inductive HistoryMessage
  | connectionHistory (u : ConnectionHistory.HistoryUpdate)
  | connectionHistoryUpdate (u : ConnectionHistory.HistoryUpdate)
  deriving DecidableEq

/-- `PushNewItem`. -/
def pushNewItem (items : List HistoryListItem) (e : Nat × HistoryEntry) : List HistoryListItem :=
  pushWindow kMaxHistorySize items
    { connectionId := e.1
      remoteEndpoint := e.2.remoteEndpoint
      dataIn := e.2.dataIn
      dataOut := e.2.dataOut }

/-- `WConnectionHistoryWindow::Initialize` and `HandleUpdate`. -/
def receiveHistory (items : List HistoryListItem) : HistoryMessage → List HistoryListItem
  | .connectionHistory u => u.newEntries.foldl pushNewItem []
  | .connectionHistoryUpdate u =>
    (u.newEntries.foldl pushNewItem items).map fun item =>
      match u.changes.find? fun change => change.1 = item.connectionId with
      | some change => { item with dataIn := change.2.1, dataOut := change.2.2 }
      | none => item

/-! ## The system -/

/-- How far `BroadcastUpdates` is. -/
inductive TickPhase
  | idle
  | tested
  | updated (u : ConnectionHistory.HistoryUpdate)
  deriving DecidableEq

/-- The update that `BroadcastUpdates` has taken and not sent. -/
def TickPhase.pending : TickPhase → Option ConnectionHistory.HistoryUpdate
  | .updated u => some u
  | _ => none

/-- The daemon's history, its clients, and what is on its way to them. `expected` and `heard` are
observations: the entries of a client's initial list and the ones made since, and whether its list
was sent before the update in hand was taken. -/
structure HistoryDelivery (ι : Type) where
  server : ConnectionHistory := {}
  hasClients : Bool := false
  clients : List ι := []
  tick : TickPhase := .idle
  isConnected : ι → Bool := fun _ => false
  inFlight : ι → List HistoryMessage := fun _ => []
  items : ι → List HistoryListItem := fun _ => []
  expected : ι → List Nat := fun _ => []
  heard : ι → Bool := fun _ => false

/-- A step of one of the threads, of the network or of a client. -/
inductive HistoryStep (ι : Type) : Type 1 where
  | event (e : ConnectionHistory.Event)
  | hasClientsTest
  | update (t : CounterTree)
  | broadcast
  /-- `SendInitialDataToClient`. -/
  | serialize (c : ι)
  /-- The rest of `OnNewConnection`. -/
  | enter (c : ι)
  | removeInactiveClients
  | disconnect (c : ι)
  | receive (c : ι)

namespace HistoryDelivery

variable {ι : Type} [DecidableEq ι]

def step (s : HistoryDelivery ι) : HistoryStep ι → HistoryDelivery ι
  | .event e =>
    let server := s.server.handle e
    { s with
      server := server
      expected := fun c =>
        if s.isConnected c ∧ server.nextConnectionId ≠ s.server.nextConnectionId then
          s.expected c ++ [s.server.nextConnectionId]
        else s.expected c }
  | .hasClientsTest =>
    if s.tick = .idle ∧ s.hasClients then { s with tick := .tested } else s
  | .update t =>
    if s.tick = .tested then
      let updated := s.server.update t
      { s with
        server := updated.2
        tick := if updated.1.changes = [] then .idle else .updated updated.1
        heard := s.isConnected }
    else s
  | .broadcast =>
    match s.tick with
    | .updated u =>
      { s with
        tick := .idle
        inFlight := fun c =>
          if c ∈ s.clients ∧ s.isConnected c then s.inFlight c ++ [.connectionHistoryUpdate u]
          else s.inFlight c }
    | _ => s
  | .serialize c =>
    if s.isConnected c ∨ c ∈ s.clients then s
    else
      { s with
        isConnected := Function.update s.isConnected c true
        inFlight := Function.update s.inFlight c [.connectionHistory s.server.serialize]
        expected := Function.update s.expected c s.server.history
        heard := Function.update s.heard c false }
  | .enter c => if c ∈ s.clients then s else { s with clients := s.clients ++ [c], hasClients := true }
  | .removeInactiveClients =>
    let clients := s.clients.filter s.isConnected
    { s with clients := clients, hasClients := !clients.isEmpty }
  | .disconnect c =>
    { s with
      isConnected := Function.update s.isConnected c false
      inFlight := Function.update s.inFlight c [] }
  | .receive c =>
    match s.inFlight c with
    | [] => s
    | message :: rest =>
      { s with
        items := Function.update s.items c (receiveHistory (s.items c) message)
        inFlight := Function.update s.inFlight c rest }

/-- What `HistoryItems` of a client will be when it has handled what is on its way. -/
def view (s : HistoryDelivery ι) (c : ι) : List HistoryListItem :=
  (s.inFlight c).foldl receiveHistory (s.items c)

/-- The ids in a list of items. -/
def ids (items : List HistoryListItem) : List Nat := items.map (·.connectionId)

end HistoryDelivery

namespace ConnectionHistory

/-- The entries that the next update will have as new ones. -/
def newItems (s : ConnectionHistory) : List Nat :=
  s.history.drop (s.history.length - min s.newItemCounter s.history.length)

end ConnectionHistory

namespace HistoryDelivery

variable {ι : Type} [DecidableEq ι]

/-- When no update is in hand: every entry that was in the initial list of a connected client or was
made since, and that fewer than `kMaxHistorySize` entries follow, is exactly once in its
`HistoryItems`, counting what is on its way and what waits for the next update. -/
def DeliveredOnce (s : HistoryDelivery ι) : Prop :=
  (∀ u, s.tick ≠ .updated u) → ∀ c, s.isConnected c = true →
    ∀ id ∈ (s.expected c).rtake kMaxHistorySize,
      ((ids (s.view c) ++ s.server.newItems).rtake kMaxHistorySize).count id = 1

/-- An update with new entries goes to the clients that were there when it was taken. -/
def Reaches (s : HistoryDelivery ι) (u : ConnectionHistory.HistoryUpdate) : Prop :=
  u.newEntries = [] ∨ ∀ c, s.isConnected c = true → (c ∈ s.clients ↔ s.heard c = true)

instance [Fintype ι] (s : HistoryDelivery ι) (u : ConnectionHistory.HistoryUpdate) :
    Decidable (Reaches s u) :=
  inferInstanceAs (Decidable (_ ∨ ∀ c, s.isConnected c = true → _))

/-- The step neither drops new entries nor sends any to a client that has them, nor past one that
has not. -/
def Careful (s : HistoryDelivery ι) : HistoryStep ι → Prop
  | .event e =>
    -- a full history drops an entry and with it the count of the new one
    (s.server.handle e).nextConnectionId = s.server.nextConnectionId ∨
      s.server.history.length < kMaxHistorySize ∨ kMaxHistorySize ≤ s.server.newItemCounter ∨
      ∀ c, s.isConnected c = false
  | .update t => s.tick ≠ .tested ∨ s.server.newItems = [] ∨ (s.server.update t).1.changes ≠ [] ∨
      ∀ c, s.isConnected c = false
  | .broadcast => ∀ u ∈ s.tick.pending, Reaches s u
  | .serialize c => s.isConnected c = true ∨ c ∈ s.clients ∨ s.server.newItems = [] ∨
      kMaxHistorySize ≤ s.server.newItemCounter
  | _ => True

instance [Fintype ι] (s : HistoryDelivery ι) : (o : HistoryStep ι) → Decidable (Careful s o)
  | .event _ => inferInstanceAs (Decidable (_ ∨ _ ∨ _ ∨ ∀ c, s.isConnected c = false))
  | .update _ => inferInstanceAs (Decidable (_ ∨ _ ∨ _ ∨ ∀ c, s.isConnected c = false))
  | .broadcast => inferInstanceAs (Decidable (∀ u, u ∈ s.tick.pending → Reaches s u))
  | .serialize _ => inferInstanceAs (Decidable (_ ∨ _ ∨ _ ∨ _))
  | .hasClientsTest => .isTrue trivial
  | .enter _ => .isTrue trivial
  | .removeInactiveClients => .isTrue trivial
  | .disconnect _ => .isTrue trivial
  | .receive _ => .isTrue trivial

end HistoryDelivery

/-! ## The daemon's history -/

namespace ConnectionHistory

variable {s : ConnectionHistory}

/-- The history and the counter of new entries, before and after: nothing happened, or an entry was
made. The counter does not count it on a full history. -/
inductive Grows (s s' : ConnectionHistory) : Prop
  | same (hhistory : s'.history = s.history) (hcounter : s'.newItemCounter = s.newItemCounter)
      (hnext : s'.nextConnectionId = s.nextConnectionId)
  | entry (hhistory : s'.history = pushWindow kMaxHistorySize s.history s.nextConnectionId)
      (hcounter : s'.newItemCounter =
        if kMaxHistorySize ≤ s.history.length then s.newItemCounter else s.newItemCounter + 1)
      (hnext : s'.nextConnectionId = s.nextConnectionId + 1)

theorem untrack_history (t : CounterTree) (key : ConnectionKey) (x : Departure) :
    (untrack t key x s).history = s.history ∧
      (untrack t key x s).newItemCounter = s.newItemCounter ∧
      (untrack t key x s).nextConnectionId = s.nextConnectionId := by
  unfold untrack
  split
  · exact ⟨rfl, rfl, rfl⟩
  · simp only [handleEmptySet]
    split
    · split
      · exact ⟨rfl, rfl, rfl⟩
      · split <;> exact ⟨rfl, rfl, rfl⟩
    · exact ⟨rfl, rfl, rfl⟩

theorem foldl_untrack_history (t : CounterTree) :
    ∀ (l : List (ConnectionKey × Departure)) (s : ConnectionHistory),
      (l.foldl (fun s x => untrack t x.1 x.2 s) s).history = s.history ∧
        (l.foldl (fun s x => untrack t x.1 x.2 s) s).newItemCounter = s.newItemCounter ∧
        (l.foldl (fun s x => untrack t x.1 x.2 s) s).nextConnectionId = s.nextConnectionId
  | [], _ => ⟨rfl, rfl, rfl⟩
  | x :: l, s => by
    obtain ⟨h1, h2, h3⟩ := foldl_untrack_history t l (untrack t x.1 x.2 s)
    obtain ⟨g1, g2, g3⟩ := untrack_history (s := s) t x.1 x.2
    exact ⟨h1.trans g1, h2.trans g2, h3.trans g3⟩

theorem grows_track (env : HistoryEnv) (t : CounterTree) (app : Ref) (key : ConnectionKey)
    (item : CounterId) (gone : List CounterId) :
    Grows s { track env t app key item s with gone := gone } := by
  unfold track
  split
  · split <;> exact .same rfl rfl rfl
  · unfold push
    split
    · exact .same rfl rfl rfl
    · refine .entry rfl ?_ rfl
      simp only [List.length_append, List.length_singleton, Nat.lt_succ_iff, Nat.add_sub_cancel]

theorem grows_handle (s : ConnectionHistory) (e : Event) : Grows s (handle s e) := by
  unfold handle
  cases e.notice with
  | onSocketConnected r =>
    simp only [onSocketConnected]
    split
    · exact .same rfl rfl rfl
    · exact grows_track ..
  | onUDPTupleCreated u => exact grows_track ..
  | onSocketRemoved r =>
    obtain ⟨h1, h2, h3⟩ := foldl_untrack_history e.tree (removedWithSocket e.env.order e.tree r) s
    exact .same h1 h2 h3
  | onUDPTupleRemoved u =>
    obtain ⟨h1, h2, h3⟩ := untrack_history (s := s) e.tree (e.tree.tupleKey u)
      (tupleDeparture e.tree u)
    exact .same h1 h2 h3
  | _ => exact .same rfl rfl rfl

/-- The new entries of an update, and of the initial list. -/
theorem update_newEntries (t : CounterTree) :
    ((s.update t).1.newEntries.map fun e => e.1) = s.newItems := by
  simp only [update, newItems, List.map_map]
  exact List.map_id _

theorem serialize_newEntries : (s.serialize.newEntries.map fun e => e.1) = s.history := by
  simp only [serialize, List.map_map]
  exact List.map_id _

theorem newItems_of_zero (h : s.newItemCounter = 0) : s.newItems = [] := by
  rw [newItems, h, Nat.zero_min, Nat.sub_zero, List.drop_length]

/-- The history has at most as many entries as the window, no two of them alike, and the counter
counts entries of it. -/
structure InWindow (s : ConnectionHistory) : Prop where
  length_le : s.history.length ≤ kMaxHistorySize
  counter_le : s.newItemCounter ≤ s.history.length
  nodup : s.history.Nodup
  fresh : ∀ id ∈ s.history, id < s.nextConnectionId

theorem InWindow.newItems_eq (h : InWindow s) :
    s.newItems = s.history.drop (s.history.length - s.newItemCounter) := by
  rw [newItems, Nat.min_eq_left h.counter_le]

theorem InWindow.of_same {s' : ConnectionHistory} (h : InWindow s) (hh : s'.history = s.history)
    (hc : s'.newItemCounter ≤ s.newItemCounter) (hn : s'.nextConnectionId = s.nextConnectionId) :
    InWindow s' := by
  refine ⟨hh ▸ h.length_le, ?_, hh ▸ h.nodup, ?_⟩
  · rw [hh]
    exact hc.trans h.counter_le
  · rw [hh, hn]
    exact h.fresh

theorem InWindow.grows {s' : ConnectionHistory} (h : InWindow s) (hg : Grows s s') :
    InWindow s' := by
  obtain ⟨hh, hc, hn⟩ | ⟨hh, hc, hn⟩ := hg
  · exact h.of_same hh hc.le hn
  · have hle := h.length_le
    have hcl := h.counter_le
    have hnodup : (s.history ++ [s.nextConnectionId]).Nodup :=
      List.nodup_append.mpr ⟨h.nodup, List.nodup_singleton _, fun a ha b hb hab => by
        rw [List.mem_singleton.mp hb] at hab
        have := h.fresh a ha
        omega⟩
    rw [pushWindow_eq hle] at hh
    refine ⟨hh ▸ length_rtake_le _ _, ?_, ?_, fun id hid => ?_⟩
    · rw [hc, hh, List.rtake, List.length_drop, List.length_append, List.length_singleton]
      split <;> omega
    · rw [hh]
      exact hnodup.sublist (List.drop_sublist _ _)
    · rw [hh] at hid
      rw [hn]
      rcases List.mem_append.mp (List.mem_of_mem_drop hid) with hid | hid
      · exact Nat.lt_succ_of_lt (h.fresh id hid)
      · rw [List.mem_singleton.mp hid]
        exact Nat.lt_succ_self _

/-- An entry that is made waits behind the ones that wait, while there is room. -/
theorem InWindow.newItems_room {s' : ConnectionHistory} (h : InWindow s)
    (hroom : s.history.length < kMaxHistorySize)
    (hh : s'.history = pushWindow kMaxHistorySize s.history s.nextConnectionId)
    (hc : s'.newItemCounter =
      if kMaxHistorySize ≤ s.history.length then s.newItemCounter else s.newItemCounter + 1)
    (hw : InWindow s') : s'.newItems = s.newItems ++ [s.nextConnectionId] ∧
      s'.history = s.history ++ [s.nextConnectionId] := by
  have hcl := h.counter_le
  have hlen : (s.history ++ [s.nextConnectionId]).length ≤ kMaxHistorySize := by
    rw [List.length_append, List.length_singleton]
    omega
  rw [pushWindow_eq h.length_le, rtake_of_length_le hlen] at hh
  rw [if_neg (by omega)] at hc
  refine ⟨?_, hh⟩
  rw [hw.newItems_eq, h.newItems_eq, hh, hc, List.length_append, List.length_singleton,
    Nat.add_sub_add_right, List.drop_append_of_le_length (by omega)]

/-- When all entries wait, all of them wait afterwards. -/
theorem InWindow.newItems_all (h : InWindow s) (hall : kMaxHistorySize ≤ s.newItemCounter) :
    s.newItems = s.history ∧ s.history.length = kMaxHistorySize := by
  have := h.counter_le
  have := h.length_le
  rw [h.newItems_eq, Nat.sub_eq_zero_of_le (by omega), List.drop_zero]
  exact ⟨rfl, by omega⟩

end ConnectionHistory

namespace HistoryDelivery

variable {ι : Type} [DecidableEq ι] {s : HistoryDelivery ι}

/-! ## The client's list -/

theorem ids_foldl (es : List (Nat × HistoryEntry)) (items : List HistoryListItem) :
    ids (es.foldl pushNewItem items) =
      (es.map fun e => e.1).foldl (pushWindow kMaxHistorySize) (ids items) := by
  induction es generalizing items with
  | nil => rfl
  | cons e es ih =>
    rw [List.foldl_cons, ih, List.map_cons, List.foldl_cons, pushNewItem, ids, map_pushWindow]
    rfl

theorem initialize_ids (items : List HistoryListItem) (u : ConnectionHistory.HistoryUpdate) :
    ids (receiveHistory items (.connectionHistory u)) =
      (u.newEntries.map fun e => e.1).rtake kMaxHistorySize := by
  rw [receiveHistory, ids_foldl, foldl_pushWindow _ _ _ (Nat.zero_le _)]
  rfl

/-- The changes do not touch the ids. -/
theorem ids_handleUpdate {items : List HistoryListItem} (h : (ids items).length ≤ kMaxHistorySize)
    (u : ConnectionHistory.HistoryUpdate) :
    ids (receiveHistory items (.connectionHistoryUpdate u)) =
      (ids items ++ u.newEntries.map fun e => e.1).rtake kMaxHistorySize := by
  have hsame : ids (receiveHistory items (.connectionHistoryUpdate u)) =
      ids (u.newEntries.foldl pushNewItem items) := by
    simp only [receiveHistory, ids, List.map_map]
    refine List.map_congr_left fun item _ => ?_
    simp only [Function.comp_apply]
    split <;> rfl
  rw [hsame, ids_foldl, foldl_pushWindow _ _ _ h]

theorem length_receiveHistory {items : List HistoryListItem}
    (h : (ids items).length ≤ kMaxHistorySize) (m : HistoryMessage) :
    (ids (receiveHistory items m)).length ≤ kMaxHistorySize := by
  cases m with
  | connectionHistory u =>
    rw [initialize_ids]
    exact length_rtake_le _ _
  | connectionHistoryUpdate u =>
    rw [ids_handleUpdate h]
    exact length_rtake_le _ _

omit [DecidableEq ι] in
theorem length_view (c : ι) (h : (ids (s.items c)).length ≤ kMaxHistorySize) :
    (ids (s.view c)).length ≤ kMaxHistorySize := by
  have hfold : ∀ (ms : List HistoryMessage) (items : List HistoryListItem),
      (ids items).length ≤ kMaxHistorySize →
        (ids (ms.foldl receiveHistory items)).length ≤ kMaxHistorySize := by
    intro ms
    induction ms with
    | nil => exact fun _ h => h
    | cons m ms ih => exact fun items h => ih _ (length_receiveHistory h m)
  exact hfold _ _ h

/-! ## The invariant -/

/-- The new entries of the update in hand, for a client that needs them. -/
def inHand (s : HistoryDelivery ι) (c : ι) : List Nat :=
  match s.tick with
  | .updated u => if s.heard c then u.newEntries.map fun e => e.1 else []
  | _ => []

/-- What a connected client shows, what is in hand for it and what waits are the daemon's history,
and so are the entries it is to show. -/
structure Tracked (s : HistoryDelivery ι) : Prop where
  server : s.server.InWindow
  size : ∀ c, (ids (s.items c)).length ≤ kMaxHistorySize
  expected : ∀ c, s.isConnected c = true → (s.expected c).rtake kMaxHistorySize = s.server.history
  shown : ∀ c, s.isConnected c = true →
    (ids (s.view c) ++ s.inHand c ++ s.server.newItems).rtake kMaxHistorySize = s.server.history

omit [DecidableEq ι] in
theorem Tracked.deliveredOnce (h : Tracked s) : DeliveredOnce s := by
  intro htick c hc id hid
  have hnone : s.inHand c = [] := by
    unfold inHand
    split
    · rename_i u hu
      exact absurd hu (htick u)
    · rfl
  have hshown := h.shown c hc
  rw [hnone, List.append_nil] at hshown
  rw [h.expected c hc] at hid
  rw [hshown]
  exact List.count_eq_one_of_mem h.server.nodup hid

/-- An entry that is made on a history with room, or while all entries wait. -/
theorem Tracked.event (h : Tracked s) (e : ConnectionHistory.Event) (hG : Careful s (.event e)) :
    Tracked (step s (.event e)) := by
  have hgrows := ConnectionHistory.grows_handle s.server e
  have hw := h.server.grows hgrows
  rcases hgrows with ⟨hh, hc, hn⟩ | ⟨hh, hc, hn⟩
  · have hnew : (s.server.handle e).newItems = s.server.newItems := by
      rw [ConnectionHistory.newItems, hh, hc]
      rfl
    refine ⟨hw, h.size, fun c hcon => ?_, fun c hcon => ?_⟩
    · simp only [step, hn, ne_eq, not_true_eq_false, and_false, if_false, hh]
      exact h.expected c hcon
    · change (ids (s.view c) ++ s.inHand c ++ (s.server.handle e).newItems).rtake _ =
        (s.server.handle e).history
      rw [hnew, hh]
      exact h.shown c hcon
  · refine ⟨hw, h.size, fun c hcon => ?_, fun c hcon => ?_⟩
    · change (if s.isConnected c = true ∧
          (s.server.handle e).nextConnectionId ≠ s.server.nextConnectionId then
        s.expected c ++ [s.server.nextConnectionId] else s.expected c).rtake _ =
          (s.server.handle e).history
      rw [if_pos ⟨hcon, by omega⟩, hh, pushWindow_eq h.server.length_le, ← rtake_append_rtake,
        h.expected c hcon]
    · change (ids (s.view c) ++ s.inHand c ++ (s.server.handle e).newItems).rtake _ =
        (s.server.handle e).history
      rcases hG with hsame | hroom | hall | hnobody
      · omega
      · obtain ⟨hnew, hhist⟩ := h.server.newItems_room hroom hh hc hw
        rw [hnew, hhist, ← List.append_assoc, ← rtake_append_rtake, h.shown c hcon, ← hhist]
        exact rtake_of_length_le hw.length_le
      · have hfull : kMaxHistorySize ≤ (s.server.handle e).newItemCounter := by
          rw [hc]
          split <;> omega
        obtain ⟨hnew, hlen⟩ := hw.newItems_all hfull
        rw [hnew]
        exact rtake_append_of_length _ hlen
      · change s.isConnected c = true at hcon
        rw [hnobody c] at hcon
        cases hcon

theorem Tracked.update (h : Tracked s) (t : CounterTree) (hG : Careful s (.update t)) :
    Tracked (step s (.update t)) := by
  simp only [step]
  split
  · rename_i htested
    have hin : ∀ c, s.inHand c = [] := fun c => by rw [inHand, htested]
    have hw : (s.server.update t).2.InWindow := h.server.of_same rfl (Nat.zero_le _) rfl
    have hzero : (s.server.update t).2.newItems = [] := ConnectionHistory.newItems_of_zero rfl
    refine ⟨hw, h.size, h.expected, fun c hcon => ?_⟩
    change s.isConnected c = true at hcon
    have hshown := h.shown c hcon
    rw [hin, List.append_nil] at hshown
    simp only [hzero, List.append_nil]
    change (ids (s.view c) ++ inHand _ c).rtake _ = s.server.history
    by_cases hchanges : (s.server.update t).1.changes = []
    · -- nothing is broadcast: nothing may have waited
      have hnone : s.server.newItems = [] := by
        rcases hG with hne | hnone | hne | hnobody
        · exact absurd htested hne
        · exact hnone
        · exact absurd hchanges hne
        · rw [hnobody c] at hcon
          cases hcon
      rw [hnone, List.append_nil] at hshown
      rw [inHand, if_pos hchanges, List.append_nil]
      exact hshown
    · simp only [inHand, if_neg hchanges, hcon, if_true, ConnectionHistory.update_newEntries]
      exact hshown
  · exact h

omit [DecidableEq ι] in
theorem view_congr {s' : HistoryDelivery ι} {c : ι} (hf : s'.inFlight c = s.inFlight c)
    (hi : s'.items c = s.items c) : s'.view c = s.view c := by
  rw [view, view, hf, hi]

theorem step_broadcast {u : ConnectionHistory.HistoryUpdate} (htick : s.tick = .updated u) :
    step s .broadcast =
      { s with
        tick := .idle
        inFlight := fun c =>
          if c ∈ s.clients ∧ s.isConnected c then s.inFlight c ++ [.connectionHistoryUpdate u]
          else s.inFlight c } := by
  simp only [step, htick]

theorem Tracked.broadcast (h : Tracked s) (hG : Careful s .broadcast) :
    Tracked (step s .broadcast) := by
  cases htick : s.tick with
  | idle => simpa only [step, htick] using h
  | tested => simpa only [step, htick] using h
  | updated u =>
    rw [step_broadcast htick]
    have hG : Reaches s u := hG u (by rw [htick]; rfl)
    refine ⟨h.server, h.size, h.expected, fun c hcon => ?_⟩
    change s.isConnected c = true at hcon
    have hshown := h.shown c hcon
    simp only [inHand, htick] at hshown
    simp only [inHand, List.append_nil]
    by_cases hmem : c ∈ s.clients
    · -- the update goes to this client
      have hview : view { s with
            tick := TickPhase.idle
            inFlight := fun c => if c ∈ s.clients ∧ s.isConnected c = true then
              s.inFlight c ++ [.connectionHistoryUpdate u] else s.inFlight c } c =
          receiveHistory (s.view c) (.connectionHistoryUpdate u) := by
        simp only [view, hmem, hcon, and_self, if_true, List.foldl_append, List.foldl_cons,
          List.foldl_nil]
      rw [hview, ids_handleUpdate (length_view c (h.size c)), rtake_append_rtake]
      rcases hG with hnone | hiff
      · rw [hnone] at hshown ⊢
        simpa only [List.map_nil, ite_self, List.append_nil] using hshown
      · rw [if_pos ((hiff c hcon).mp hmem)] at hshown
        exact hshown
    · have hview : view { s with
            tick := TickPhase.idle
            inFlight := fun c => if c ∈ s.clients ∧ s.isConnected c = true then
              s.inFlight c ++ [.connectionHistoryUpdate u] else s.inFlight c } c = s.view c :=
        view_congr (if_neg fun hc => hmem hc.1) rfl
      rw [hview]
      rcases hG with hnone | hiff
      · rw [hnone] at hshown
        simpa only [List.map_nil, ite_self, List.append_nil] using hshown
      · rw [if_neg fun hheard => hmem ((hiff c hcon).mpr hheard), List.append_nil] at hshown
        exact hshown

theorem Tracked.serialize (h : Tracked s) (c : ι) (hG : Careful s (.serialize c)) :
    Tracked (step s (.serialize c)) := by
  simp only [step]
  split
  · exact h
  · rename_i hnew
    have hstart : (s.server.history ++ s.server.newItems).rtake kMaxHistorySize =
        s.server.history := by
      rcases hG with hcon | hmem | hnone | hall
      · exact absurd (.inl hcon) hnew
      · exact absurd (.inr hmem) hnew
      · rw [hnone, List.append_nil, rtake_of_length_le h.server.length_le]
      · obtain ⟨hnewItems, hlen⟩ := h.server.newItems_all hall
        rw [hnewItems]
        exact rtake_append_of_length _ hlen
    refine ⟨h.server, h.size, fun d hcon => ?_, fun d hcon => ?_⟩
    · by_cases hdc : d = c
      · subst hdc
        simp only [Function.update_self]
        exact rtake_of_length_le h.server.length_le
      · simp only [Function.update_of_ne hdc] at hcon ⊢
        exact h.expected d hcon
    · by_cases hdc : d = c
      · subst hdc
        have hhand : inHand { s with
            isConnected := Function.update s.isConnected d true
            inFlight := Function.update s.inFlight d [.connectionHistory s.server.serialize]
            expected := Function.update s.expected d s.server.history
            heard := Function.update s.heard d false } d = [] := by
          simp only [inHand, Function.update_self, Bool.false_eq_true, if_false]
          split <;> rfl
        rw [hhand, List.append_nil]
        simp only [view, Function.update_self, List.foldl_cons, List.foldl_nil, initialize_ids,
          ConnectionHistory.serialize_newEntries, rtake_of_length_le h.server.length_le]
        exact hstart
      · simp only [inHand, view, Function.update_of_ne hdc] at hcon ⊢
        exact h.shown d hcon

theorem Tracked.disconnect (h : Tracked s) (c : ι) : Tracked (step s (.disconnect c)) := by
  have hother : ∀ d, Function.update s.isConnected c false d = true →
      d ≠ c ∧ s.isConnected d = true := by
    intro d hcon
    by_cases hdc : d = c
    · rw [hdc, Function.update_self] at hcon
      cases hcon
    · rw [Function.update_of_ne hdc] at hcon
      exact ⟨hdc, hcon⟩
  refine ⟨h.server, h.size, fun d hcon => h.expected d (hother d hcon).2, fun d hcon => ?_⟩
  obtain ⟨hdc, hcon⟩ := hother d hcon
  have hview : (step s (.disconnect c)).view d = s.view d :=
    view_congr (Function.update_of_ne hdc _ _) rfl
  rw [hview]
  exact h.shown d hcon

/-- A client that handles a message shows what it was going to show. -/
theorem Tracked.receive (h : Tracked s) (c : ι) : Tracked (step s (.receive c)) := by
  simp only [step]
  cases hflight : s.inFlight c with
  | nil => exact h
  | cons message rest =>
    refine ⟨h.server, fun d => ?_, h.expected, fun d hcon => ?_⟩
    · by_cases hdc : d = c
      · subst hdc
        simp only [Function.update_self]
        exact length_receiveHistory (h.size d) message
      · simp only [Function.update_of_ne hdc]
        exact h.size d
    · have hview : view { s with
          items := Function.update s.items c (receiveHistory (s.items c) message)
          inFlight := Function.update s.inFlight c rest } d = s.view d := by
        by_cases hdc : d = c
        · subst hdc
          simp only [view, Function.update_self, hflight, List.foldl_cons]
        · exact view_congr (Function.update_of_ne hdc _ _) (Function.update_of_ne hdc _ _)
      rw [hview]
      exact h.shown d hcon

theorem Tracked.step (s : HistoryDelivery ι) (o : HistoryStep ι) (h : Tracked s)
    (hG : Careful s o) : Tracked (step s o) := by
  cases o with
  | event e => exact h.event e hG
  | update t => exact h.update t hG
  | broadcast => exact h.broadcast hG
  | serialize c => exact h.serialize c hG
  | disconnect c => exact h.disconnect c
  | receive c => exact h.receive c
  | removeInactiveClients => exact ⟨h.server, h.size, h.expected, h.shown⟩
  | enter c =>
    simp only [HistoryDelivery.step]
    split
    · exact h
    · exact ⟨h.server, h.size, h.expected, h.shown⟩
  | hasClientsTest =>
    simp only [HistoryDelivery.step]
    split
    · rename_i hidle
      refine ⟨h.server, h.size, h.expected, fun c hcon => ?_⟩
      have hshown := h.shown c hcon
      rw [inHand, hidle.1] at hshown
      exact hshown
    · exact h

omit [DecidableEq ι] in
theorem tracked_start : Tracked ({} : HistoryDelivery ι) :=
  ⟨⟨Nat.zero_le _, Nat.le_refl _, List.nodup_nil, fun _ h => absurd h List.not_mem_nil⟩,
    fun _ => Nat.zero_le _, fun _ h => (nomatch h), fun _ h => (nomatch h)⟩

/-- **Every entry arrives once**, in every state of a run whose steps are careful. -/
theorem delivered_once (steps : List (HistoryStep ι))
    (hcareful : Lib.AllSteps step Careful {} steps) :
    Lib.Always step DeliveredOnce {} steps :=
  Lib.always_of_allSteps (fun _ h => h.deliveredOnce) (fun s o h hG => h.step s o hG) steps
    tracked_start hcareful

/-- A client connects, a datagram makes an entry, and the daemon runs its tick on the counters. -/
def oneTick (ops : List SystemMapOp) : List (HistoryStep Unit) :=
  [.serialize (), .enter ()] ++
    (SystemMap.historyEvents (fun _ => {}) 0 "host" ops).map .event ++
    [.hasClientsTest,
     .update (Lib.run (SystemMap.step SystemMap.recorder) (.init 0 "host" []) ops).toCounterTree,
     .broadcast, .receive ()]

/-- The counters are refreshed before the tick: the entry has changed and is broadcast. -/
theorem delivered_once_changed : Lib.Always step DeliveredOnce ({} : HistoryDelivery Unit)
    (oneTick [.mapSocket SystemMap.quietTraffic.toMapEnv 9 false 7 false,
      ConnectionHistory.receiveDatagram 9, .refreshAllTrafficCounters (SystemMap.tickAt 1000)]) :=
  delivered_once _ (by decide +kernel)

/-- **An update without changes is dropped**, and the new entry with it. -/
theorem lost_without_changes : ¬ ∀ steps : List (HistoryStep Unit),
    Lib.Always step DeliveredOnce ({} : HistoryDelivery Unit) steps := by
  intro hall
  have h := (hall (oneTick [.mapSocket SystemMap.quietTraffic.toMapEnv 9 false 7 false,
    ConnectionHistory.receiveDatagram 9])).last
  have htick : (Lib.run step ({} : HistoryDelivery Unit)
      (oneTick [.mapSocket SystemMap.quietTraffic.toMapEnv 9 false 7 false,
        ConnectionHistory.receiveDatagram 9])).tick = .idle := by decide +kernel
  have hcount := h (fun u hu => by rw [htick] at hu; cases hu) () (by decide +kernel) 0
    (by decide +kernel)
  exact absurd hcount (by decide +kernel)

end HistoryDelivery

end Waechter
