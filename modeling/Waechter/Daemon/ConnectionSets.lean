import Waechter.Daemon.ByteAccounting
import Waechter.Daemon.ConnectionHistory

/-!
# The sets of the connection history

An item joins the set of its key when it is connected and leaves the one its key leads to when it is
removed. `holds_untrack`, `holds_track` say which sets an item is in after a handler, and every
invariant here is read off them.

* `rows_balance`: the row of a set holds the bytes of every item that was in it once, in every run
  where what is removed is in the set it is taken out of, for the first time.
* `noStale_iff`: nothing that was removed stays in a set exactly when every removal finds the item
  under the key it has by then and under no other.
-/

namespace Waechter

open Lib

namespace ConnectionHistory

variable {s : ConnectionHistory}

/-- The item is in the active set of the key. -/
def Holds (s : ConnectionHistory) (key : ConnectionKey) (item : CounterId) : Prop :=
  ∃ set, s.activeConnections.lookup key = some set ∧ item ∈ set.connections

/-! ## Reading after a handler -/

/-- What `HandleEmptySet` leaves alone. -/
theorem handleEmptySet_frame (t : CounterTree) (set : ConnectionSet) :
    (handleEmptySet t set s).activeConnections = s.activeConnections ∧
      (handleEmptySet t set s).emptied = s.emptied ++ [set] ∧
      (handleEmptySet t set s).gone = s.gone ∧
      (handleEmptySet t set s).setsMade = s.setsMade ∧
      (handleEmptySet t set s).nextConnectionId = s.nextConnectionId := by
  simp only [handleEmptySet]
  split
  · exact ⟨rfl, rfl, rfl, rfl, rfl⟩
  · split <;> exact ⟨rfl, rfl, rfl, rfl, rfl⟩

@[simp] theorem handleEmptySet_active (t : CounterTree) (set : ConnectionSet) :
    (handleEmptySet t set s).activeConnections = s.activeConnections :=
  (handleEmptySet_frame t set).1

/-- The set of a key after a removal under it. -/
def shrink (x : Departure) (set : ConnectionSet) : Option ConnectionSet :=
  if (set.remove x).connections = [] then none else some (set.remove x)

theorem lookup_untrack (t : CounterTree) (key : ConnectionKey) (x : Departure) (q : ConnectionKey) :
    (untrack t key x s).activeConnections.lookup q =
      if q = key then (s.activeConnections.lookup key).bind (shrink x)
      else s.activeConnections.lookup q := by
  unfold untrack
  cases hkey : s.activeConnections.lookup key with
  | none =>
    by_cases hq : q = key
    · rw [if_pos hq, hq, hkey]
      rfl
    · rw [if_neg hq]
  | some set =>
    simp only [Option.bind_some, shrink]
    split
    · rw [handleEmptySet_active, UMap.lookup_erase_ite]
    · rw [UMap.lookup_insert_ite]

theorem push_active (env : HistoryEnv) (t : CounterTree) (app : Ref) (e : Endpoint) :
    (push env t app e s).2.activeConnections = s.activeConnections := by
  unfold push
  split <;> rfl

/-- The set of a key after an item joined it. -/
def joined (env : HistoryEnv) (t : CounterTree) (app : Ref) (key : ConnectionKey) (item : CounterId)
    (s : ConnectionHistory) : ConnectionSet :=
  match s.activeConnections.lookup key with
  | some set => if item ∈ set.connections then set else set.insert item
  | none =>
    { connections := [item]
      parentEntry := (push env t app key.2 s).1
      setId := s.setsMade
      members := [item] }

theorem lookup_track (env : HistoryEnv) (t : CounterTree) (app : Ref) (key : ConnectionKey)
    (item : CounterId) (q : ConnectionKey) :
    (track env t app key item s).activeConnections.lookup q =
      if q = key then some (joined env t app key item s) else s.activeConnections.lookup q := by
  unfold track joined
  cases hkey : s.activeConnections.lookup key with
  | none =>
    simp only [UMap.lookup_insert_ite, push_active]
  | some set =>
    simp only
    split
    · by_cases hq : q = key
      · rw [if_pos hq, hq, hkey]
      · rw [if_neg hq]
    · rw [UMap.lookup_insert_ite]

/-- **Who is in which set after a removal.** -/
theorem holds_untrack (t : CounterTree) (key : ConnectionKey) (x : Departure) (q : ConnectionKey)
    (item : CounterId) : (untrack t key x s).Holds q item ↔
      s.Holds q item ∧ ¬ (q = key ∧ item = x.item) := by
  unfold Holds
  rw [lookup_untrack]
  by_cases hq : q = key
  · subst hq
    rw [if_pos rfl]
    cases s.activeConnections.lookup q with
    | none => simp
    | some set =>
      simp only [Option.bind_some, shrink, Option.some.injEq, exists_eq_left', true_and]
      constructor
      · rintro ⟨set', hset', hmem⟩
        split at hset'
        · cases hset'
        · cases hset'
          simpa [ConnectionSet.remove] using hmem
      · rintro ⟨hmem, hne⟩
        have hleft : item ∈ (set.remove x).connections := by
          simp [ConnectionSet.remove, hmem, hne]
        refine ⟨set.remove x, if_neg fun hnil => ?_, hleft⟩
        rw [hnil] at hleft
        cases hleft
  · simp [hq]

/-- **Who is in which set after an item joined.** -/
theorem holds_track (env : HistoryEnv) (t : CounterTree) (app : Ref) (key : ConnectionKey)
    (item : CounterId) (q : ConnectionKey) (m : CounterId) :
    (track env t app key item s).Holds q m ↔ s.Holds q m ∨ (q = key ∧ m = item) := by
  unfold Holds
  rw [lookup_track]
  by_cases hq : q = key
  · subst hq
    rw [if_pos rfl]
    simp only [Option.some.injEq, exists_eq_left', true_and, joined]
    cases s.activeConnections.lookup q with
    | none => simp
    | some set =>
      simp only [Option.some.injEq, exists_eq_left']
      split
      · rename_i hmem
        constructor
        · exact .inl
        · rintro (hm | rfl)
          · exact hm
          · exact hmem
      · simp [ConnectionSet.insert]
  · simp [hq]

theorem holds_foldl (t : CounterTree) (q : ConnectionKey) (m : CounterId) :
    ∀ (l : List (ConnectionKey × Departure)) (s : ConnectionHistory),
      (l.foldl (fun s x => untrack t x.1 x.2 s) s).Holds q m ↔
        s.Holds q m ∧ ∀ x ∈ l, ¬ (q = x.1 ∧ m = x.2.item)
  | [], s => by simp
  | x :: l, s => by
    rw [List.foldl_cons, holds_foldl t q m l, holds_untrack, List.forall_mem_cons, and_assoc]

theorem mem_removedWithSocket {o : IterOrder} {t : CounterTree} {r : Ref}
    {x : ConnectionKey × Departure} (h : x ∈ removedWithSocket o t r) :
    x = (t.socketKey r, socketDeparture t r) ∨
      ∃ e u, x.1 = ((t.socketKey r).1, e) ∧ x.2 = tupleDeparture t u := by
  rcases List.mem_cons.mp h with rfl | h
  · exact .inl rfl
  · obtain ⟨e, -, rfl⟩ := List.mem_map.mp h
    exact .inr ⟨e.1, e.2, rfl, rfl⟩

/-- The socket leaves the set of its key and no other. -/
theorem holds_removedWithSocket (o : IterOrder) (t : CounterTree) (r : Ref) (q : ConnectionKey) :
    ((removedWithSocket o t r).foldl (fun s x => untrack t x.1 x.2 s) s).Holds q (.socket r) ↔
      s.Holds q (.socket r) ∧ q ≠ t.socketKey r := by
  rw [holds_foldl]
  refine and_congr_right fun _ => ⟨fun h hq => ?_, fun hq x hx => ?_⟩
  · exact h _ List.mem_cons_self ⟨hq, rfl⟩
  · rcases mem_removedWithSocket hx with rfl | ⟨e, u, hkey, hitem⟩
    · exact fun h => hq h.1
    · rintro ⟨-, hm⟩
      rw [hitem] at hm
      cases hm

end ConnectionHistory

/-! ## Bytes -/

/-- The base data of a set is what its members had when they left it, each of them once. -/
structure ConnectionSet.Booked (set : ConnectionSet) : Prop where
  dataIn : set.baseDataIn = (set.departures.map (·.dataIn)).sum
  dataOut : set.baseDataOut = (set.departures.map (·.dataOut)).sum
  once : (set.departures.map (·.item)).Nodup
  members_nodup : set.members.Nodup
  mem_members : ∀ m, m ∈ set.members ↔ m ∈ set.connections ∨ m ∈ set.departures.map (·.item)

/-- The item is in the set and leaves it for the first time, or it is not and has no bytes. -/
def ConnectionSet.Takes (set : ConnectionSet) (x : Departure) : Prop :=
  (x.item ∈ set.connections → x.item ∉ set.departures.map (·.item)) ∧
    (x.item ∉ set.connections → x.dataIn = 0 ∧ x.dataOut = 0)

instance (set : ConnectionSet) (x : Departure) : Decidable (set.Takes x) :=
  inferInstanceAs (Decidable (_ ∧ _))

/-- The row holds the sum, over the items that were ever in the set, of what they had when they were
removed from it, each item once and no other one. -/
def HistoryRow.Balanced (row : HistoryRow) : Prop :=
  row.dataIn = (row.set.departures.map (·.dataIn)).sum ∧
    row.dataOut = (row.set.departures.map (·.dataOut)).sum ∧
    row.set.members.Nodup ∧ (row.set.departures.map (·.item)).Perm row.set.members

instance (row : HistoryRow) : Decidable row.Balanced := inferInstanceAs (Decidable (_ ∧ _))

namespace ConnectionSet.Booked

variable {set : ConnectionSet}

theorem insert (h : set.Booked) (item : CounterId) : (set.insert item).Booked where
  dataIn := h.dataIn
  dataOut := h.dataOut
  once := h.once
  members_nodup := by
    simp only [ConnectionSet.insert]
    split
    · exact h.members_nodup
    · rename_i hnew
      exact List.nodup_append.mpr ⟨h.members_nodup, List.nodup_singleton _, fun a ha b hb hab =>
        hnew (List.mem_singleton.mp hb ▸ hab ▸ ha)⟩
  mem_members m := by
    have hm := h.mem_members m
    simp only [ConnectionSet.insert, List.mem_append, List.mem_singleton]
    split
    · rename_i hold
      constructor
      · intro hmem
        exact (hm.mp hmem).imp_left .inl
      · rintro ((hc | rfl) | hd)
        · exact hm.mpr (.inl hc)
        · exact hold
        · exact hm.mpr (.inr hd)
    · rw [List.mem_append, List.mem_singleton, hm]
      tauto

theorem remove (h : set.Booked) {x : Departure} (hx : set.Takes x) : (set.remove x).Booked := by
  by_cases hmem : x.item ∈ set.connections
  · have hnew := hx.1 hmem
    refine ⟨?_, ?_, ?_, h.members_nodup, fun m => ?_⟩
    · simp [ConnectionSet.remove, hmem, h.dataIn]
    · simp [ConnectionSet.remove, hmem, h.dataOut]
    · simp only [ConnectionSet.remove, hmem, if_true, List.map_append, List.map_cons, List.map_nil]
      exact List.nodup_append.mpr ⟨h.once, List.nodup_singleton _, fun a ha b hb hab =>
        hnew (List.mem_singleton.mp hb ▸ hab ▸ ha)⟩
    · have hm := h.mem_members m
      simp only [ConnectionSet.remove, hmem, if_true, List.mem_filter, decide_eq_true_eq,
        List.map_append, List.map_cons, List.map_nil, List.mem_append, List.mem_singleton]
      rw [hm]
      by_cases hmx : m = x.item
      · simp [hmx, hmem]
      · simp [hmx]
  · obtain ⟨hin, hout⟩ := hx.2 hmem
    have hsame : set.connections.filter (· ≠ x.item) = set.connections :=
      List.filter_eq_self.mpr fun m hm => decide_eq_true fun hmx => hmem (hmx ▸ hm)
    refine ⟨?_, ?_, ?_, h.members_nodup, fun m => ?_⟩
    · simp [ConnectionSet.remove, hmem, hin, h.dataIn]
    · simp [ConnectionSet.remove, hmem, hout, h.dataOut]
    · simpa only [ConnectionSet.remove, hmem, if_false] using h.once
    · simpa only [ConnectionSet.remove, hmem, if_false, hsame] using h.mem_members m

/-- The row of an empty set is balanced. -/
theorem balanced (h : set.Booked) (hempty : set.connections = []) (row : HistoryRow)
    (hset : row.set = set) (hin : row.dataIn = set.baseDataIn) (hout : row.dataOut = set.baseDataOut) :
    row.Balanced := by
  subst hset
  refine ⟨hin.trans h.dataIn, hout.trans h.dataOut, h.members_nodup, ?_⟩
  rw [List.perm_ext_iff_of_nodup h.once h.members_nodup]
  intro m
  rw [h.mem_members m, hempty]
  simp

end ConnectionSet.Booked

namespace ConnectionHistory

variable {s : ConnectionHistory}

/-- Every set that is active is booked, and every row that was written balanced. -/
structure AllBooked (s : ConnectionHistory) : Prop where
  sets : ∀ key set, s.activeConnections.lookup key = some set → set.Booked
  rows : ∀ row ∈ s.database, row.Balanced

/-- What an event takes out of the sets, with the keys. -/
def removedBy (e : Event) : List (ConnectionKey × Departure) :=
  match e.notice with
  | .onSocketRemoved r => removedWithSocket e.env.order e.tree r
  | .onUDPTupleRemoved u => [(e.tree.tupleKey u, tupleDeparture e.tree u)]
  | _ => []

/-- Every item that is removed and finds a set under its key is in that set and leaves it for the
first time, or it has no bytes. -/
def CountsOnce (s : ConnectionHistory) (e : Event) : Prop :=
  ∀ x ∈ removedBy e, ∀ set, s.activeConnections.lookup x.1 = some set → set.Takes x.2

instance (s : ConnectionHistory) (e : Event) : Decidable (CountsOnce s e) :=
  decidable_of_iff (∀ x ∈ removedBy e,
      (s.activeConnections.lookup x.1).all (fun set => set.Takes x.2) = true) <| by
    refine forall_congr' fun x => imp_congr_right fun _ => ?_
    simp only [Option.all_eq_true, decide_eq_true_eq]

theorem push_database (env : HistoryEnv) (t : CounterTree) (app : Ref) (e : Endpoint) :
    (push env t app e s).2.database = s.database := by
  unfold push
  split <;> rfl

theorem track_database (env : HistoryEnv) (t : CounterTree) (app : Ref) (key : ConnectionKey)
    (item : CounterId) : (track env t app key item s).database = s.database := by
  unfold track
  split
  · split <;> rfl
  · exact push_database env t app key.2

theorem AllBooked.track (h : AllBooked s) (env : HistoryEnv) (t : CounterTree) (app : Ref)
    (key : ConnectionKey) (item : CounterId) : AllBooked (track env t app key item s) where
  sets q set hq := by
    rw [lookup_track] at hq
    split at hq
    · cases hq
      unfold joined
      split
      · rename_i old hold
        split
        · exact h.sets key old hold
        · exact (h.sets key old hold).insert item
      · exact ⟨rfl, rfl, List.nodup_nil, List.nodup_singleton _, fun m => by simp⟩
    · exact h.sets q set hq
  rows := by
    rw [track_database]
    exact h.rows

theorem AllBooked.untrack (h : AllBooked s) (t : CounterTree) (key : ConnectionKey) (x : Departure)
    (hx : ∀ set, s.activeConnections.lookup key = some set → set.Takes x) :
    AllBooked (untrack t key x s) where
  sets q set hq := by
    rw [lookup_untrack] at hq
    split at hq
    · obtain ⟨old, hold, hshrink⟩ := Option.bind_eq_some_iff.mp hq
      rw [shrink] at hshrink
      split at hshrink
      · cases hshrink
      · cases hshrink
        exact (h.sets key old hold).remove (hx old hold)
    · exact h.sets q set hq
  rows := by
    unfold ConnectionHistory.untrack
    cases hkey : s.activeConnections.lookup key with
    | none => exact h.rows
    | some set =>
      have hset := (h.sets key set hkey).remove (hx set hkey)
      simp only
      split
      · rename_i hempty
        simp only [handleEmptySet]
        split
        · exact h.rows
        · split
          · exact h.rows
          · intro row hrow
            rcases List.mem_append.mp hrow with hrow | hrow
            · exact h.rows row hrow
            · rw [List.mem_singleton.mp hrow]
              exact hset.balanced hempty _ rfl rfl rfl
      · exact h.rows

/-- A removal of another item leaves it to the next one to be counted once. -/
theorem takes_untrack {t : CounterTree} {key q : ConnectionKey} {x y : Departure}
    (hne : q = key → y.item ≠ x.item)
    (hy : ∀ set, s.activeConnections.lookup q = some set → set.Takes y) :
    ∀ set, (untrack t key x s).activeConnections.lookup q = some set → set.Takes y := by
  intro set hset
  rw [lookup_untrack] at hset
  split at hset
  · rename_i hq
    obtain ⟨old, hold, hshrink⟩ := Option.bind_eq_some_iff.mp hset
    rw [shrink] at hshrink
    split at hshrink
    · cases hshrink
    · cases hshrink
      have hne := hne hq
      obtain ⟨honce, hzero⟩ := hy old (hq ▸ hold)
      refine ⟨fun hmem => ?_, fun hmem => hzero fun hold => hmem ?_⟩
      · have hold : y.item ∈ old.connections := (List.mem_filter.mp hmem).1
        simp only [ConnectionSet.remove]
        split
        · simp only [List.map_append, List.map_cons, List.map_nil, List.mem_append,
            List.mem_singleton, not_or]
          exact ⟨honce hold, hne⟩
        · exact honce hold
      · exact List.mem_filter.mpr ⟨hold, decide_eq_true hne⟩
  · exact hy set hset

theorem AllBooked.foldl (t : CounterTree) :
    ∀ (l : List (ConnectionKey × Departure)) {s : ConnectionHistory}, AllBooked s →
      l.Pairwise (fun x y => y.1 = x.1 → y.2.item ≠ x.2.item) →
      (∀ x ∈ l, ∀ set, s.activeConnections.lookup x.1 = some set → set.Takes x.2) →
      AllBooked (l.foldl (fun s x => ConnectionHistory.untrack t x.1 x.2 s) s)
  | [], _, h, _, _ => h
  | x :: l, s, h, hl, hx => by
    rw [List.pairwise_cons] at hl
    rw [List.forall_mem_cons] at hx
    exact AllBooked.foldl t l (h.untrack t x.1 x.2 hx.1) hl.2 fun y hy =>
      takes_untrack (hl.1 y hy) (hx.2 y hy)

/-- A socket and its tuples are different items, and two tuples have different keys. -/
theorem removedWithSocket_pairwise (o : IterOrder) (t : CounterTree) (r : Ref) :
    (removedWithSocket o t r).Pairwise (fun x y => y.1 = x.1 → y.2.item ≠ x.2.item) := by
  rw [removedWithSocket, List.pairwise_cons]
  constructor
  · intro y hy hkey
    obtain ⟨e, -, rfl⟩ := List.mem_map.mp hy
    exact fun hitem => nomatch hitem
  · rw [List.pairwise_map]
    have hkeys := o.nodup_entries (t.socket r).udpPerConnectionCounters
    rw [List.Nodup, List.pairwise_map] at hkeys
    refine hkeys.imp fun {a b} hne hkey => absurd ?_ hne
    exact (Prod.mk.inj hkey).2.symm

theorem AllBooked.handle (s : ConnectionHistory) (e : Event) (h : AllBooked s)
    (honce : CountsOnce s e) : AllBooked (handle s e) := by
  unfold ConnectionHistory.handle
  unfold CountsOnce removedBy at honce
  cases hn : e.notice with
  | onSocketConnected r =>
    simp only [onSocketConnected]
    split
    · exact h
    · have ht := h.track e.env e.tree (e.tree.appOf r) (e.tree.socketKey r) (.socket r)
      exact ⟨ht.sets, ht.rows⟩
  | onUDPTupleCreated u =>
    have ht := h.track e.env e.tree (e.tree.appOf (e.tree.tuple u).parentSocket) (e.tree.tupleKey u)
      (.tuple u)
    exact ⟨ht.sets, ht.rows⟩
  | onUDPTupleRemoved u =>
    rw [hn] at honce
    have hu := h.untrack e.tree (e.tree.tupleKey u) (tupleDeparture e.tree u)
      (honce _ (List.mem_singleton_self _))
    exact ⟨hu.sets, hu.rows⟩
  | onSocketRemoved r =>
    rw [hn] at honce
    have hf := AllBooked.foldl e.tree _ h (removedWithSocket_pairwise e.env.order e.tree r) honce
    exact ⟨hf.sets, hf.rows⟩
  | _ => exact h

theorem allBooked_start : AllBooked {} :=
  ⟨fun _ _ h => absurd h (by simp), fun _ h => absurd h List.not_mem_nil⟩

/-- **The rows hold every byte once**, in every run of the system map where each removal takes its
items out of sets they are in, for the first time. -/
theorem rows_balance (env : Nat → HistoryEnv) (now : Msec) (hostName : String)
    (ops : List SystemMapOp)
    (honce : Lib.AllSteps handle CountsOnce {} (SystemMap.historyEvents env now hostName ops)) :
    Lib.Always handle (fun s => ∀ row ∈ s.database, row.Balanced) {}
      (SystemMap.historyEvents env now hostName ops) :=
  Lib.always_of_allSteps (fun _ h => h.rows) (fun s e h hG => h.handle s e hG) _ allBooked_start honce

/-- The endpoint two sockets of an application receive datagrams from. -/
def nameServer : Endpoint := { address := IPAddress.fromIPv4Uint32 {} 0x08080808, port := 53 }

/-- One hundred bytes from there. -/
def receiveDatagram (cookie : SocketCookie) : SystemMapOp :=
  .pushIncomingTraffic SystemMap.quietTraffic cookie 100
    (some { l4Proto := .udp, src := nameServer, dst := {} })

/-- A socket is mapped, gets its datagram and is closed. -/
def oneClient : List SystemMapOp :=
  [.mapSocket SystemMap.quietTraffic.toMapEnv 9 false 7 false, receiveDatagram 9,
   .refreshAllTrafficCounters (SystemMap.tickAt 1000), .markSocketForRemoval .stored 1000 9 0,
   .refreshAllTrafficCounters (SystemMap.tickAt 6000)]

theorem rows_balance_one :
    Lib.Always handle (fun s => ∀ row ∈ s.database, row.Balanced) {}
      (SystemMap.historyEvents (fun _ => {}) 0 "host" oneClient) :=
  rows_balance (fun _ => {}) 0 "host" oneClient (by decide +kernel)

/-- Two sockets get a datagram each; the first is removed while the second keeps the set. -/
def twoClients : List SystemMapOp :=
  [.mapSocket SystemMap.quietTraffic.toMapEnv 9 false 7 false,
   .mapSocket SystemMap.quietTraffic.toMapEnv 10 false 7 false, receiveDatagram 9,
   receiveDatagram 10, .refreshAllTrafficCounters (SystemMap.tickAt 1000),
   .markSocketForRemoval .stored 1000 9 0, .refreshAllTrafficCounters (SystemMap.tickAt 6000),
   .markSocketForRemoval .stored 6000 10 0, .refreshAllTrafficCounters (SystemMap.tickAt 11000)]

/-- **The tuple of a removed socket is counted twice** while another member keeps the set: the row
has 300 bytes of 200. -/
theorem rows_count_twice : ¬ ∀ (env : Nat → HistoryEnv) (now : Msec) (hostName : String)
    (ops : List SystemMapOp), Lib.Always handle (fun s => ∀ row ∈ s.database, row.Balanced) {}
      (SystemMap.historyEvents env now hostName ops) := by
  intro hall
  have hrows := (hall (fun _ => {}) 0 "host" twoClients).last
  exact absurd hrows (by decide +kernel)

/-! ## No stale members -/

/-- The set is empty, and its entry, if it has one, is closed and written with the set. -/
def Closed (s : ConnectionHistory) (set : ConnectionSet) : Prop :=
  set.connections = [] ∧ ∀ id, set.parentEntry = some id →
    (s.entry id).state ≠ .open ∧ ∃ row ∈ s.database, row.connectionId = id ∧ row.set = set

/-- No active set has an item that was removed and has not come back. Every set that was ever made
is active and has a member that was not removed, or it is gone and closed. -/
def NoStale (s : ConnectionHistory) : Prop :=
  (∀ item ∈ s.gone, ∀ key, ¬ s.Holds key item) ∧
    ∀ id < s.setsMade,
      (∃ key set, s.activeConnections.lookup key = some set ∧ set.setId = id ∧
        ∃ item ∈ set.connections, item ∉ s.gone) ∨
      ∃ set ∈ s.emptied, set.setId = id ∧ s.Closed set

/-- The removal finds the item under the key it has now, and under no other. -/
def UnderKey (s : ConnectionHistory) (e : Event) : Prop :=
  match e.notice with
  | .onSocketRemoved r => ∀ key, s.Holds key (.socket r) → key = e.tree.socketKey r
  | .onUDPTupleRemoved u => ∀ key, s.Holds key (.tuple u) → key = e.tree.tupleKey u
  | _ => True

/-- How sets and entries belong together: an active set is not empty, its entry is open and its own,
and a set that became empty is closed. -/
structure Linked (s : ConnectionHistory) : Prop where
  nonempty : ∀ key set, s.activeConnections.lookup key = some set → set.connections ≠ []
  opened : ∀ key set id, s.activeConnections.lookup key = some set → set.parentEntry = some id →
    id < s.nextConnectionId ∧ (s.entry id).state = .open
  own : ∀ key key' set set' id, s.activeConnections.lookup key = some set →
    s.activeConnections.lookup key' = some set' → set.parentEntry = some id →
    set'.parentEntry = some id → key = key'
  made : ∀ id < s.setsMade, (∃ key set, s.activeConnections.lookup key = some set ∧
    set.setId = id) ∨ ∃ set ∈ s.emptied, set.setId = id
  old : ∀ set ∈ s.emptied, ∀ id, set.parentEntry = some id → id < s.nextConnectionId
  closed : ∀ set ∈ s.emptied, s.Closed set

namespace Linked

/-- A set that keeps its entry and its number. -/
theorem replace (h : Linked s) {key : ConnectionKey} {old new : ConnectionSet}
    (hold : s.activeConnections.lookup key = some old) (hentry : new.parentEntry = old.parentEntry)
    (hid : new.setId = old.setId) (hne : new.connections ≠ []) :
    Linked { s with activeConnections := s.activeConnections.insert key new } := by
  have hback : ∀ q set, (s.activeConnections.insert key new).lookup q = some set →
      ∃ set', s.activeConnections.lookup q = some set' ∧ set.parentEntry = set'.parentEntry := by
    intro q set hq
    rw [UMap.lookup_insert_ite] at hq
    split at hq
    · rename_i heq
      cases hq
      exact ⟨old, heq ▸ hold, hentry⟩
    · exact ⟨set, hq, rfl⟩
  refine ⟨fun q set hq => ?_, fun q set id hq hid => ?_, fun q q' set set' id hq hq' hi hi' => ?_,
    fun id hlt => ?_, h.old, h.closed⟩
  · rw [UMap.lookup_insert_ite] at hq
    split at hq
    · cases hq
      exact hne
    · exact h.nonempty q set hq
  · obtain ⟨set', hset', heq⟩ := hback q set hq
    exact h.opened q set' id hset' (heq ▸ hid)
  · obtain ⟨a, ha, hea⟩ := hback q set hq
    obtain ⟨b, hb, heb⟩ := hback q' set' hq'
    exact h.own q q' a b id ha hb (hea ▸ hi) (heb ▸ hi')
  · rcases h.made id hlt with ⟨q, set, hq, hset⟩ | hgone
    · refine .inl ?_
      by_cases hqk : q = key
      · rw [hqk, hold] at hq
        cases hq
        exact ⟨key, new, by rw [UMap.lookup_insert_ite, if_pos rfl], hid.trans hset⟩
      · exact ⟨q, set, by rw [UMap.lookup_insert_ite, if_neg hqk]; exact hq, hset⟩
    · exact .inr hgone

/-- A set that became empty: its entry is its own, so it is open and gets the row. -/
theorem empty (h : Linked s) (t : CounterTree) {key : ConnectionKey} {old new : ConnectionSet}
    (hold : s.activeConnections.lookup key = some old) (hentry : new.parentEntry = old.parentEntry)
    (hid : new.setId = old.setId) (hnil : new.connections = []) :
    Linked (handleEmptySet t new
      { s with activeConnections := s.activeConnections.erase key }) := by
  have hback : ∀ q set, (s.activeConnections.erase key).lookup q = some set →
      q ≠ key ∧ s.activeConnections.lookup q = some set := by
    intro q set hq
    rw [UMap.lookup_erase_ite] at hq
    split at hq
    · cases hq
    · rename_i hne
      exact ⟨hne, hq⟩
  have hmade : ∀ id < s.setsMade, (∃ q set, (s.activeConnections.erase key).lookup q = some set ∧
      set.setId = id) ∨ ∃ set ∈ s.emptied ++ [new], set.setId = id := by
    intro id hlt
    rcases h.made id hlt with ⟨q, set, hq, hset⟩ | ⟨set, hmem, hset⟩
    · by_cases hqk : q = key
      · rw [hqk, hold] at hq
        cases hq
        exact .inr ⟨new, List.mem_append_right _ (List.mem_singleton_self _), hid.trans hset⟩
      · exact .inl ⟨q, set, by rw [UMap.lookup_erase_ite, if_neg hqk]; exact hq, hset⟩
    · exact .inr ⟨set, List.mem_append_left _ hmem, hset⟩
  have hnonempty : ∀ q set, (s.activeConnections.erase key).lookup q = some set →
      set.connections ≠ [] := fun q set hq => h.nonempty q set (hback q set hq).2
  have hown : ∀ q q' set set' id, (s.activeConnections.erase key).lookup q = some set →
      (s.activeConnections.erase key).lookup q' = some set' → set.parentEntry = some id →
      set'.parentEntry = some id → q = q' := fun q q' set set' id hq hq' =>
    h.own q q' set set' id (hback q set hq).2 (hback q' set' hq').2
  simp only [handleEmptySet]
  cases hparent : new.parentEntry with
  | none =>
    refine ⟨hnonempty, fun q set id hq => h.opened q set id (hback q set hq).2, hown, hmade, ?_, ?_⟩
    · intro set hset id hset'
      rcases List.mem_append.mp hset with hset | hset
      · exact h.old set hset id hset'
      · rw [List.mem_singleton.mp hset, hparent] at hset'
        cases hset'
    · intro set hset
      rcases List.mem_append.mp hset with hset | hset
      · exact h.closed set hset
      · rw [List.mem_singleton.mp hset]
        exact ⟨hnil, fun id hid => by rw [hparent] at hid; cases hid⟩
  | some id =>
    obtain ⟨hlt, hopen⟩ := h.opened key old id hold (hentry ▸ hparent)
    simp only [hopen, ne_eq, not_true_eq_false, if_false, writeToDatabase]
    refine ⟨hnonempty, fun q set i hq hi => ?_, hown, hmade, ?_, ?_⟩
    · obtain ⟨hqk, hlookup⟩ := hback q set hq
      obtain ⟨hlt', hopen'⟩ := h.opened q set i hlookup hi
      refine ⟨hlt', ?_⟩
      have hne : i ≠ id := by
        rintro rfl
        exact hqk (h.own q key set old i hlookup hold hi (hentry ▸ hparent))
      simp only [Function.update_of_ne hne]
      exact hopen'
    · intro set hset i hi
      rcases List.mem_append.mp hset with hset | hset
      · exact h.old set hset i hi
      · rw [List.mem_singleton.mp hset, hparent] at hi
        cases hi
        exact hlt
    · intro set hset
      rcases List.mem_append.mp hset with hset | hset
      · obtain ⟨hempty, hrow⟩ := h.closed set hset
        refine ⟨hempty, fun i hi => ?_⟩
        obtain ⟨hstate, row, hmem, hrow⟩ := hrow i hi
        refine ⟨?_, row, List.mem_append_left _ hmem, hrow⟩
        have hne : i ≠ id := by
          rintro rfl
          exact hstate hopen
        simp only [Function.update_of_ne hne]
        exact hstate
      · rw [List.mem_singleton.mp hset]
        refine ⟨hnil, fun i hi => ?_⟩
        rw [hparent] at hi
        cases hi
        refine ⟨?_, _, List.mem_append_right _ (List.mem_singleton_self _), rfl, rfl⟩
        simp only [Function.update_self]
        exact fun hstate => nomatch hstate

theorem untrack (h : Linked s) (t : CounterTree) (key : ConnectionKey) (x : Departure) :
    Linked (untrack t key x s) := by
  unfold ConnectionHistory.untrack
  cases hkey : s.activeConnections.lookup key with
  | none => exact h
  | some set =>
    simp only
    split
    · rename_i hnil
      exact h.empty t hkey rfl rfl hnil
    · rename_i hne
      exact h.replace hkey rfl rfl hne

/-- A new set: its entry, if it gets one, is new too. -/
theorem add (h : Linked s) (env : HistoryEnv) (t : CounterTree) (app : Ref) {key : ConnectionKey}
    (hkey : s.activeConnections.lookup key = none) (e : Endpoint) (item : CounterId) :
    Linked { (push env t app e s).2 with
      activeConnections := (push env t app e s).2.activeConnections.insert key
        { connections := [item], parentEntry := (push env t app e s).1, setId := s.setsMade,
          members := [item] }
      setsMade := s.setsMade + 1 } := by
  have hset : ∀ q set new, (s.activeConnections.insert key new).lookup q = some set →
      (q = key ∧ set = new) ∨ (q ≠ key ∧ s.activeConnections.lookup q = some set) := by
    intro q set new hq
    rw [UMap.lookup_insert_ite] at hq
    split at hq
    · rename_i heq
      cases hq
      exact .inl ⟨heq, rfl⟩
    · rename_i hne
      exact .inr ⟨hne, hq⟩
  have hnonempty : ∀ q set new, new.connections = [item] →
      (s.activeConnections.insert key new).lookup q = some set → set.connections ≠ [] := by
    intro q set new hnew hq
    rcases hset q set new hq with ⟨-, rfl⟩ | ⟨-, hq⟩
    · rw [hnew]
      exact List.cons_ne_nil _ _
    · exact h.nonempty q set hq
  have hmade : ∀ (new : ConnectionSet), new.setId = s.setsMade → ∀ id < s.setsMade + 1,
      (∃ q set, (s.activeConnections.insert key new).lookup q = some set ∧ set.setId = id) ∨
        ∃ set ∈ s.emptied, set.setId = id := by
    intro new hnew id hlt
    by_cases hid : id = s.setsMade
    · exact .inl ⟨key, new, by rw [UMap.lookup_insert_ite, if_pos rfl], hnew.trans hid.symm⟩
    · rcases h.made id (by omega) with ⟨q, set, hq, hs⟩ | hgone
      · refine .inl ⟨q, set, ?_, hs⟩
        rw [UMap.lookup_insert_ite, if_neg]
        · exact hq
        · rintro rfl
          rw [hkey] at hq
          cases hq
      · exact .inr hgone
  unfold push
  split
  · -- an ignored connection has no entry
    refine ⟨fun q set hq => hnonempty q set _ rfl hq, fun q set id hq hid => ?_,
      fun q q' set set' id hq hq' hi hi' => ?_, hmade _ rfl, h.old, h.closed⟩
    · rcases hset q set _ hq with ⟨-, rfl⟩ | ⟨-, hq⟩
      · cases hid
      · exact h.opened q set id hq hid
    · rcases hset q set _ hq with ⟨-, rfl⟩ | ⟨-, hq⟩
      · cases hi
      · rcases hset q' set' _ hq' with ⟨-, rfl⟩ | ⟨-, hq'⟩
        · cases hi'
        · exact h.own q q' set set' id hq hq' hi hi'
  · have hold : ∀ id < s.nextConnectionId, id ≠ s.nextConnectionId := fun id hlt => by omega
    refine ⟨fun q set hq => hnonempty q set _ rfl hq, fun q set id hq hid => ?_,
      fun q q' set set' id hq hq' hi hi' => ?_, hmade _ rfl, fun set hmem id hid => ?_,
      fun set hmem => ?_⟩
    · rcases hset q set _ hq with ⟨-, rfl⟩ | ⟨-, hq⟩
      · cases hid
        simp only [Function.update_self, and_true]
        exact Nat.lt_succ_self _
      · obtain ⟨hlt, hopen⟩ := h.opened q set id hq hid
        simp only [Function.update_of_ne (hold id hlt)]
        exact ⟨Nat.lt_succ_of_lt hlt, hopen⟩
    · rcases hset q set _ hq with ⟨rfl, rfl⟩ | ⟨-, hq⟩
      · rcases hset q' set' _ hq' with ⟨rfl, -⟩ | ⟨-, hq'⟩
        · rfl
        · cases hi
          exact absurd rfl (hold _ (h.opened q' set' _ hq' hi').1)
      · rcases hset q' set' _ hq' with ⟨-, rfl⟩ | ⟨-, hq'⟩
        · cases hi'
          exact absurd rfl (hold _ (h.opened q set _ hq hi).1)
        · exact h.own q q' set set' id hq hq' hi hi'
    · exact Nat.lt_succ_of_lt (h.old set hmem id hid)
    · obtain ⟨hempty, hrow⟩ := h.closed set hmem
      refine ⟨hempty, fun id hid => ?_⟩
      simp only [Function.update_of_ne (hold id (h.old set hmem id hid))]
      exact hrow id hid

theorem track (h : Linked s) (env : HistoryEnv) (t : CounterTree) (app : Ref) (key : ConnectionKey)
    (item : CounterId) : Linked (track env t app key item s) := by
  unfold ConnectionHistory.track
  cases hkey : s.activeConnections.lookup key with
  | none => exact h.add env t app hkey key.2 item
  | some set =>
    simp only
    split
    · exact h
    · refine h.replace hkey rfl rfl ?_
      exact List.append_ne_nil_of_right_ne_nil _ (List.cons_ne_nil _ _)

theorem foldl (t : CounterTree) : ∀ (l : List (ConnectionKey × Departure)) {s : ConnectionHistory},
    Linked s → Linked (l.foldl (fun s x => ConnectionHistory.untrack t x.1 x.2 s) s)
  | [], _, h => h
  | x :: l, _, h => foldl t l (h.untrack t x.1 x.2)

/-- Who is gone is not read by the sets. -/
theorem withGone (h : Linked s) (gone : List CounterId) : Linked { s with gone := gone } :=
  ⟨h.nonempty, h.opened, h.own, h.made, h.old, h.closed⟩

theorem handle (h : Linked s) (e : Event) : Linked (handle s e) := by
  unfold ConnectionHistory.handle
  cases e.notice with
  | onSocketConnected r =>
    simp only [onSocketConnected]
    split
    · exact h
    · exact (h.track ..).withGone _
  | onSocketRemoved r => exact (foldl e.tree _ h).withGone _
  | onUDPTupleCreated u => exact (h.track ..).withGone _
  | onUDPTupleRemoved u => exact (h.untrack ..).withGone _
  | _ => exact h

/-- Where no removed item is left in a set, every set is active for a member that was not removed,
or closed. -/
theorem noStale (h : Linked s) (hgone : ∀ item ∈ s.gone, ∀ key, ¬ s.Holds key item) : NoStale s := by
  refine ⟨hgone, fun id hlt => ?_⟩
  rcases h.made id hlt with ⟨key, set, hkey, hset⟩ | ⟨set, hmem, hset⟩
  · obtain ⟨item, hitem⟩ := List.exists_mem_of_ne_nil _ (h.nonempty key set hkey)
    exact .inl ⟨key, set, hkey, hset, item, hitem, fun hg => hgone item hg key ⟨set, hkey, hitem⟩⟩
  · exact .inr ⟨set, hmem, hset, h.closed set hmem⟩

end Linked

/-- Somebody who joins is not gone. -/
theorem gone_track (hgone : ∀ item ∈ s.gone, ∀ key, ¬ s.Holds key item) (env : HistoryEnv)
    (t : CounterTree) (app : Ref) (key : ConnectionKey) (item : CounterId) :
    ∀ m ∈ s.gone.filter (· ≠ item), ∀ q, ¬ (track env t app key item s).Holds q m := by
  intro m hm q hq
  obtain ⟨hm, hne⟩ := List.mem_filter.mp hm
  rcases (holds_track env t app key item q m).mp hq with hold | ⟨-, rfl⟩
  · exact hgone m hm q hold
  · exact absurd rfl (of_decide_eq_true hne)

@[simp] theorem track_gone (env : HistoryEnv) (t : CounterTree) (app : Ref) (key : ConnectionKey)
    (item : CounterId) : (track env t app key item s).gone = s.gone := by
  unfold track push
  split
  · split <;> rfl
  · split <;> rfl

@[simp] theorem untrack_gone (t : CounterTree) (key : ConnectionKey) (x : Departure) :
    (untrack t key x s).gone = s.gone := by
  unfold untrack
  split
  · rfl
  · simp only
    split
    · exact (handleEmptySet_frame t _).2.2.1
    · rfl

theorem foldl_gone (t : CounterTree) :
    ∀ (l : List (ConnectionKey × Departure)) (s : ConnectionHistory),
      (l.foldl (fun s x => untrack t x.1 x.2 s) s).gone = s.gone
  | [], _ => rfl
  | x :: l, s => by rw [List.foldl_cons, foldl_gone t l, untrack_gone]

/-- **Nothing removed stays**, under the key of the removal. -/
theorem gone_handle (hgone : ∀ item ∈ s.gone, ∀ key, ¬ s.Holds key item) (e : Event)
    (hunder : UnderKey s e) : ∀ item ∈ (handle s e).gone, ∀ key, ¬ (handle s e).Holds key item := by
  unfold UnderKey at hunder
  unfold handle
  cases hn : e.notice with
  | onSocketConnected r =>
    simp only [onSocketConnected]
    split
    · exact hgone
    · simp only [track_gone]
      exact gone_track hgone e.env e.tree _ _ _
  | onUDPTupleCreated u =>
    simp only [onUDPTupleCreated, track_gone]
    exact gone_track hgone e.env e.tree _ _ _
  | onUDPTupleRemoved u =>
    rw [hn] at hunder
    simp only [onUDPTupleRemoved, untrack_gone]
    intro item hitem key hkey
    obtain ⟨hold, hne⟩ := (holds_untrack e.tree _ _ key item).mp hkey
    rcases List.mem_append.mp hitem with hitem | hitem
    · exact hgone item hitem key hold
    · rw [List.mem_singleton.mp hitem] at hold hne
      exact hne ⟨hunder key hold, rfl⟩
  | onSocketRemoved r =>
    rw [hn] at hunder
    simp only [onSocketRemoved, foldl_gone]
    intro item hitem key hkey
    rcases List.mem_append.mp hitem with hitem | hitem
    · exact hgone item hitem key ((holds_foldl e.tree key item _ s).mp hkey).1
    · rw [List.mem_singleton.mp hitem] at hkey
      obtain ⟨hold, hne⟩ := (holds_removedWithSocket e.env.order e.tree r key).mp hkey
      exact hne (hunder key hold)
  | _ => exact hgone

/-- An item that is removed under one key and is in the set of another stays there. -/
theorem underKey_of_noStale (e : Event) (h : NoStale (handle s e)) : UnderKey s e := by
  obtain ⟨hgone, -⟩ := h
  unfold handle at hgone
  unfold UnderKey
  cases hn : e.notice with
  | onSocketRemoved r =>
    rw [hn] at hgone
    intro key hold
    by_contra hne
    refine hgone (.socket r) (List.mem_append_right _ (List.mem_singleton_self _)) key ?_
    exact (holds_removedWithSocket e.env.order e.tree r key).mpr ⟨hold, hne⟩
  | onUDPTupleRemoved u =>
    rw [hn] at hgone
    intro key hold
    by_contra hne
    refine hgone (.tuple u) (List.mem_append_right _ (List.mem_singleton_self _)) key ?_
    exact (holds_untrack e.tree _ _ key (.tuple u)).mpr ⟨hold, fun h => hne h.1⟩
  | _ => trivial

theorem linked_start : Linked {} :=
  ⟨fun _ _ h => absurd h (by simp), fun _ _ _ h => absurd h (by simp),
    fun _ _ _ _ _ h => absurd h (by simp), fun _ h => absurd h (Nat.not_lt_zero _),
    fun _ h => absurd h List.not_mem_nil, fun _ h => absurd h List.not_mem_nil⟩

/-- **Nothing that was removed stays in a set**, in every run of the system map, exactly when every
removal finds its item under the key it has then, and under no other. -/
theorem noStale_iff (env : Nat → HistoryEnv) (now : Msec) (hostName : String)
    (ops : List SystemMapOp) :
    Lib.Always handle NoStale {} (SystemMap.historyEvents env now hostName ops) ↔
      Lib.AllSteps handle UnderKey {} (SystemMap.historyEvents env now hostName ops) := by
  refine Lib.always_iff_allSteps
    (I := fun s => Linked s ∧ ∀ item ∈ s.gone, ∀ key, ¬ s.Holds key item)
    (fun s h => h.1.noStale h.2) (fun s e h hG => ⟨h.1.handle e, gone_handle h.2 e hG⟩)
    (fun s e _ h => underKey_of_noStale e h) _ ⟨linked_start, ?_⟩
  exact fun _ h => absurd h List.not_mem_nil

/-- A socket is bound, connects and is closed. -/
def bindAndConnect : List SystemMapOp :=
  [.mapSocket SystemMap.quietTraffic.toMapEnv 9 false 7 false,
   .processSocketEvent (.socketBind4 4000 false 0) 6,
   .processSocketEvent (.tcpSocketEstablished4 4000 443 false 0x0100007F 0x08080808) 6,
   .markSocketForRemoval .stored 0 9 0, .refreshAllTrafficCounters (SystemMap.tickAt 5000)]

/-- **A bound socket stays in the set of its old endpoint**: `bind` tracks it under the empty remote
endpoint, `established` under the new one, and its removal finds only the second set. -/
theorem stale_after_bind : ¬ ∀ (env : Nat → HistoryEnv) (now : Msec) (hostName : String)
    (ops : List SystemMapOp),
    Lib.Always handle NoStale {} (SystemMap.historyEvents env now hostName ops) := by
  intro hall
  obtain ⟨hgone, -⟩ := (hall (fun _ => {}) 0 "host" bindAndConnect).last
  have hmem : CounterId.socket 6 ∈ (Lib.run handle {}
      (SystemMap.historyEvents (fun _ => {}) 0 "host" bindAndConnect)).gone := by decide +kernel
  have hactive : ((Lib.run handle {}
      (SystemMap.historyEvents (fun _ => {}) 0 "host" bindAndConnect)).activeConnections.lookup
        ("unknown", {})).any (fun set => .socket 6 ∈ set.connections) = true := by decide +kernel
  obtain ⟨set, hset, hin⟩ := (Option.any_eq_true _ _).mp hactive
  exact hgone _ hmem _ ⟨set, hset, of_decide_eq_true hin⟩

end ConnectionHistory

end Waechter
