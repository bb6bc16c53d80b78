import Mathlib.Algebra.Order.BigOperators.Group.List
import Mathlib.Algebra.Order.Group.Nat
import Mathlib.Algebra.Order.Monoid.Prod
import Mathlib.Data.List.Forall2
import Waechter.Daemon.AppKey
import Waechter.Daemon.SystemTotals

/-!
# Requests for one item

What a statistics request returns whose target is the name of an application or a filter
(`Daemon/Db/StatsManager.cpp`), after a run of `UpdateAppStats`, `UpdateFilterStats` and
`MakeSnapshot`. `MakeSnapshot` stores every path it is given; `ProcessStatsRequest` takes only a
path with a slash and the names of the filters for items.

* `itemRows_run`: the rows after a run, with the items they were written for.
* `sumsExactly_iff`: the sum is that of the item's rows exactly when the name is taken for an
  item, or for the whole system, and the request selects no row of another item.
-/

namespace Waechter.StatsManager

open Lib

variable (order : IterOrder)

/-- What a row is written for. -/
inductive Item where
  | application (path : String)
  | filter (name : String)
  deriving DecidableEq

def Item.name : Item → String
  | .application path => path
  | .filter name => name

def Item.isApp : Item → Bool
  | .application _ => true
  | .filter _ => false

/-- A row with its item. -/
structure ItemRow where
  item : Item
  bytesIn : WBytes
  bytesOut : WBytes

def ItemRow.bytes (row : ItemRow) : WBytes × WBytes := (row.bytesIn, row.bytesOut)

/-- The rows of an application. -/
def ItemStats.itemRows (app : ItemStats) : List ItemRow :=
  if app.applicationPath = "" then []
  else (order.entries app.traffic).map fun e =>
    { item := .application app.applicationPath, bytesIn := e.2.bytesIn, bytesOut := e.2.bytesOut }

/-- The rows of a snapshot. -/
def Snapshot.itemRows (s : Snapshot) : List ItemRow :=
  (order.values s.apps).flatMap (ItemStats.itemRows order) ++
    (order.entries s.filters).map fun e =>
      { item := .filter e.1, bytesIn := e.2.bytesIn, bytesOut := e.2.bytesOut }

/-- The names and the keys of the items are unique. -/
structure Db.Keyed (db : Db) : Prop where
  ids : (db.trafficItems.map (·.id)).Nodup
  names : (db.trafficItems.map (·.name)).Nodup

/-- The event in the database is the row. -/
def Db.Describes (db : Db) (te : TrafficEventRow) (row : ItemRow) : Prop :=
  te.bytes = row.bytes ∧
    ∃ i ∈ db.trafficItems, i.id = te.itemId ∧ i.name = row.item.name

/-! ## The rows of a run -/

/-- `db'` has the rows `l` of the snapshot `id` in addition. -/
structure WroteRows (id : Int) (db db' : Db) (l : List ItemRow) : Prop where
  snapshots : db'.trafficSnapshots = db.trafficSnapshots
  keyed : db.Keyed → db'.Keyed
  items : ∀ i ∈ db.trafficItems, i ∈ db'.trafficItems
  events : ∃ tes, db'.trafficEvents = db.trafficEvents ++ tes ∧ (∀ te ∈ tes, te.snapshotId = id) ∧
    List.Forall₂ db'.Describes tes l

theorem Db.Describes.mono {db db' : Db} (h : ∀ i ∈ db.trafficItems, i ∈ db'.trafficItems)
    {te : TrafficEventRow} {row : ItemRow} (hrow : db.Describes te row) : db'.Describes te row := by
  obtain ⟨hbytes, i, hi, hid, hname⟩ := hrow
  exact ⟨hbytes, i, h i hi, hid, hname⟩

namespace WroteRows

variable {id : Int} {db db' db'' : Db} {l l' : List ItemRow}

theorem refl (id : Int) (db : Db) : WroteRows id db db [] :=
  ⟨rfl, fun h => h, fun _ h => h, [], by simp, List.forall_mem_nil _, .nil⟩

theorem trans (h : WroteRows id db db' l) (h' : WroteRows id db' db'' l') :
    WroteRows id db db'' (l ++ l') := by
  obtain ⟨tes, htes, hid, hrows⟩ := h.events
  obtain ⟨tes', htes', hid', hrows'⟩ := h'.events
  refine ⟨h'.snapshots.trans h.snapshots, fun hdb => h'.keyed (h.keyed hdb),
    fun i hi => h'.items i (h.items i hi), tes ++ tes', ?_, ?_, ?_⟩
  · rw [htes', htes, List.append_assoc]
  · intro te hte
    rcases List.mem_append.mp hte with hte | hte
    · exact hid te hte
    · exact hid' te hte
  · exact List.rel_append (hrows.imp fun _ _ hrow => hrow.mono h'.items) hrows'

/-- A loop writes what its turns write, where that depends on items in the table only. -/
theorem foldl {α : Type} {f : Db → α → Db} {g : α → List ItemRow} {P : List TrafficItemRow → Prop}
    (hP : ∀ {l l'}, (∀ i ∈ l, i ∈ l') → P l → P l')
    (h : ∀ db x, P db.trafficItems → WroteRows id db (f db x) (g x)) :
    ∀ (xs : List α) (db : Db), P db.trafficItems → WroteRows id db (xs.foldl f db) (xs.flatMap g)
  | [], db, _ => refl id db
  | x :: xs, db, hdb =>
    have hx := h db x hdb
    hx.trans (foldl hP h xs (f db x) (hP hx.items hdb))

end WroteRows

/-- The item of that name is in the table afterwards. -/
theorem wroteRows_findOrInsertItem (id : Int) (db : Db) (name : String) :
    WroteRows id db (db.findOrInsertItem name).2 [] ∧
      ∃ i ∈ (db.findOrInsertItem name).2.trafficItems,
        i.id = (db.findOrInsertItem name).1 ∧ i.name = name := by
  unfold Db.findOrInsertItem
  split
  · rename_i row hrow
    exact ⟨.refl id db, row, List.mem_of_find?_eq_some hrow, rfl,
      by simpa using List.find?_some hrow⟩
  · rename_i hnone
    refine ⟨⟨rfl, fun h => ⟨?_, ?_⟩, fun i hi => List.mem_append_left _ hi, [], by simp,
      List.forall_mem_nil _, .nil⟩, _, List.mem_append_right _ List.mem_cons_self, rfl, rfl⟩
    · rw [List.map_append, List.nodup_append]
      refine ⟨h.ids, List.nodup_singleton _, fun i hi j hj => ?_⟩
      rw [List.mem_singleton.mp hj]
      exact Int.ne_of_lt (lt_nextId hi)
    · rw [List.map_append, List.nodup_append]
      refine ⟨h.names, List.nodup_singleton _, fun n hn n' hn' => ?_⟩
      obtain ⟨row, hrow, rfl⟩ := List.mem_map.mp hn
      rw [List.mem_singleton.mp hn']
      simpa using List.find?_eq_none.mp hnone row hrow

theorem wroteRows_findOrInsertAsn (id : Int) (db : Db) (asn : AsnLookupResult) :
    WroteRows id db (db.findOrInsertAsn asn).2 [] := by
  unfold Db.findOrInsertAsn
  split
  · exact .refl id db
  · exact ⟨rfl, fun h => ⟨h.ids, h.names⟩, fun _ h => h, [], by simp, List.forall_mem_nil _, .nil⟩

theorem wroteRows_findOrInsertHost (id : Int) (db : Db) (ip : IPAddress) (asnId : Int) :
    WroteRows id db (db.findOrInsertHost ip asnId).2 [] := by
  unfold Db.findOrInsertHost
  split
  · exact .refl id db
  · exact ⟨rfl, fun h => ⟨h.ids, h.names⟩, fun _ h => h, [], by simp, List.forall_mem_nil _, .nil⟩

theorem wroteRows_insertEvent (id : Int) (db : Db) {itemId : Int} (hostId : Option Int)
    (traffic : TrafficStats) {item : Item}
    (hitem : ∃ i ∈ db.trafficItems, i.id = itemId ∧ i.name = item.name) :
    WroteRows id db (db.insertEvent id itemId hostId traffic)
      [{ item, bytesIn := traffic.bytesIn, bytesOut := traffic.bytesOut }] := by
  refine ⟨rfl, fun h => ⟨h.ids, h.names⟩, fun _ h => h, _, rfl, by simp, ?_⟩
  exact .cons ⟨rfl, hitem⟩ .nil

theorem wroteRows_writeTraffic (lookupSync : IPAddress → Option AsnLookupResult) (id : Int)
    {itemId : Int} (db : Db) (e : IPAddress × TrafficStats) {item : Item}
    (hitem : ∃ i ∈ db.trafficItems, i.id = itemId ∧ i.name = item.name) :
    WroteRows id db (writeTraffic lookupSync id itemId db e)
      [{ item, bytesIn := e.2.bytesIn, bytesOut := e.2.bytesOut }] := by
  obtain ⟨i, hi, hi'⟩ := hitem
  unfold writeTraffic
  cases lookupSync e.1 with
  | some asn =>
    have hasn := wroteRows_findOrInsertAsn id db asn
    have hhost := hasn.trans (wroteRows_findOrInsertHost id _ e.1 (db.findOrInsertAsn asn).1)
    exact hhost.trans (wroteRows_insertEvent id _ _ _ ⟨i, hhost.items i hi, hi'⟩)
  | none =>
    have hhost := wroteRows_findOrInsertHost id db e.1 0
    exact hhost.trans (wroteRows_insertEvent id _ _ _ ⟨i, hhost.items i hi, hi'⟩)

theorem wroteRows_writeApp (lookupSync : IPAddress → Option AsnLookupResult) (id : Int) (db : Db)
    (app : ItemStats) :
    WroteRows id db (writeApp order lookupSync id db app) (app.itemRows order) := by
  unfold writeApp ItemStats.itemRows
  split
  · exact .refl id db
  · obtain ⟨hitem, hmem⟩ := wroteRows_findOrInsertItem id db app.applicationPath
    rw [List.map_eq_flatMap]
    let P (l : List TrafficItemRow) : Prop :=
      ∃ i ∈ l, i.id = (db.findOrInsertItem app.applicationPath).1 ∧
        i.name = (Item.application app.applicationPath).name
    have hP : ∀ {l l'}, (∀ i ∈ l, i ∈ l') → P l → P l' :=
      fun hsub ⟨i, hi, hi'⟩ => ⟨i, hsub i hi, hi'⟩
    exact hitem.trans (.foldl hP
      (fun db e h => wroteRows_writeTraffic lookupSync id db e h) _ _ hmem)

theorem wroteRows_writeFilter (id : Int) (db : Db) (e : String × TrafficStats) :
    WroteRows id db (writeFilter id db e)
      [{ item := .filter e.1, bytesIn := e.2.bytesIn, bytesOut := e.2.bytesOut }] := by
  obtain ⟨hitem, hmem⟩ := wroteRows_findOrInsertItem id db e.1
  exact hitem.trans (wroteRows_insertEvent id _ _ _ hmem)

/-- The events of the database with their times are the rows. -/
structure Db.Holds (db : Db) (rows : List (Sec × ItemRow)) : Prop where
  linked : db.Linked
  keyed : db.Keyed
  events : List.Forall₂ (fun e row => e.1 = row.1 ∧ db.Describes e.2 row.2) db.events rows

/-- **A snapshot adds the rows of its items.** -/
theorem Db.Holds.writeSnapshot {db : Db} {rows : List (Sec × ItemRow)} (h : db.Holds rows)
    (now : Sec) (lookupSync : IPAddress → Option AsnLookupResult) (s : Snapshot) :
    (writeSnapshot order now lookupSync db s).Holds
      (rows ++ (s.itemRows order).map fun row => (now, row)) := by
  set id := nextId (db.trafficSnapshots.map (·.id)) with hid
  set db₁ : Db := { db with
    trafficSnapshots := db.trafficSnapshots ++ [{ id, start := now }] } with hdb₁
  have hwrote : WroteRows id db₁ (StatsManager.writeSnapshot order now lookupSync db s)
      (s.itemRows order) := by
    let P (_ : List TrafficItemRow) : Prop := True
    have hP : ∀ {l l'}, (∀ i ∈ l, i ∈ l') → P l → P l' := fun _ _ => trivial
    have happs : WroteRows id db₁ ((order.values s.apps).foldl (writeApp order lookupSync id) db₁)
        ((order.values s.apps).flatMap (ItemStats.itemRows order)) :=
      .foldl hP (fun db app _ => wroteRows_writeApp order lookupSync id db app) _ _ trivial
    have hfilters := WroteRows.foldl hP (fun db e _ => wroteRows_writeFilter id db e)
      (order.entries s.filters)
      ((order.values s.apps).foldl (writeApp order lookupSync id) db₁) trivial
    rw [← List.map_eq_flatMap] at hfilters
    exact happs.trans hfilters
  obtain ⟨hsnapshots, hkeyed, hitems, tes, htes, hids, hrows⟩ := hwrote
  refine ⟨(samples_writeSnapshot order now lookupSync h.linked s).1,
    hkeyed ⟨h.keyed.ids, h.keyed.names⟩, ?_⟩
  have hfresh : ∀ ts ∈ db.trafficSnapshots, ts.id < id := fun ts hts =>
    lt_nextId (List.mem_map.mpr ⟨ts, hts, rfl⟩)
  rw [events_append hsnapshots htes hfresh h.linked hids]
  refine List.rel_append (h.events.imp fun e row hrow => ⟨hrow.1, hrow.2.mono hitems⟩) ?_
  rw [List.forall₂_map_left_iff, List.forall₂_map_right_iff]
  exact hrows.imp fun te row hrow => ⟨rfl, hrow⟩

/-- The rows of the snapshots that were taken in a run. -/
def rowsOf (pending ops : List Op) : List (Sec × ItemRow) :=
  (intervals pending ops).flatMap fun i =>
    ((snapshotOf i.updates).itemRows order).map fun row => (i.time, row)

/-- **The rows after a run.** -/
theorem itemRows_run : ∀ (ops pending : List Op) {s : State} {rows : List (Sec × ItemRow)},
    s.current = snapshotOf pending → s.db.Holds rows →
    (run (State.step order) s ops).db.Holds (rows ++ rowsOf order pending ops)
  | [], _, s, rows, _, h => by simpa [rowsOf, intervals] using h
  | .makeSnapshot now lookupSync :: ops, pending, s, rows, hcurrent, h => by
    have hnext := itemRows_run ops [] (s := State.step order s (.makeSnapshot now lookupSync)) rfl
      (h.writeSnapshot order now lookupSync s.current)
    rw [run_cons]
    simpa only [rowsOf, intervals, List.flatMap_cons, hcurrent, List.append_assoc] using hnext
  | .updateFilterStats name i o :: ops, pending, s, rows, hcurrent, h => by
    have hnext : (State.step order s (.updateFilterStats name i o)).current =
        snapshotOf (pending ++ [.updateFilterStats name i o]) := by
      unfold snapshotOf
      rw [List.foldl_concat, ← snapshotOf, ← hcurrent]
      rfl
    exact itemRows_run ops _ hnext h
  | .updateAppStats appId path host i o :: ops, pending, s, rows, hcurrent, h => by
    have hnext : (State.step order s (.updateAppStats appId path host i o)).current =
        snapshotOf (pending ++ [.updateAppStats appId path host i o]) := by
      unfold snapshotOf
      rw [List.foldl_concat, ← snapshotOf, ← hcurrent]
      rfl
    exact itemRows_run ops _ hnext h

theorem holds_run (ops : List Op) :
    (run (State.step order) {} ops).db.Holds (rowsOf order [] ops) := by
  have hempty : ({} : State).db.Holds [] := by
    refine ⟨?_, ⟨?_, ?_⟩, .nil⟩
    · exact fun te hte => absurd hte List.not_mem_nil
    · exact List.nodup_nil
    · exact List.nodup_nil
  exact itemRows_run order ops [] rfl hempty

/-! ## Which items a snapshot has rows of -/

/-- The snapshot has a row of the item. -/
def Snapshot.HasItem (s : Snapshot) : Item → Prop
  | .application path =>
    path ≠ "" ∧ ∃ appId app, s.apps.lookup appId = some app ∧ app.applicationPath = path
  | .filter name => ∃ t, s.filters.lookup name = some t

/-- The rows of a snapshot hold bytes. -/
theorem itemRows_counted {s : Snapshot} (hs : s.Counted) :
    ∀ row ∈ s.itemRows order, row.bytes ≠ 0 := by
  have hne : ∀ {t : TrafficStats}, t.Counted → (t.bytesIn, t.bytesOut) ≠ 0 :=
    fun ht hzero => ht ⟨congrArg Prod.fst hzero, congrArg Prod.snd hzero⟩
  intro row hrow
  rcases List.mem_append.mp hrow with hrow | hrow
  · obtain ⟨app, happ, hrow⟩ := List.mem_flatMap.mp hrow
    obtain ⟨appId, happ⟩ := (order.mem_values _ _).mp happ
    unfold ItemStats.itemRows at hrow
    split at hrow
    · exact absurd hrow List.not_mem_nil
    · obtain ⟨e, he, rfl⟩ := List.mem_map.mp hrow
      exact hne (hs.traffic appId app e.1 e.2 happ ((order.mem_entries _ _ _).mp he))
  · obtain ⟨e, he, rfl⟩ := List.mem_map.mp hrow
    exact hne (hs.filters e.1 e.2 ((order.mem_entries _ _ _).mp he))

theorem exists_itemRow_iff {s : Snapshot} (hs : s.Counted) (item : Item) :
    (∃ row ∈ s.itemRows order, row.item = item) ↔ s.HasItem item := by
  constructor
  · rintro ⟨row, hrow, rfl⟩
    rcases List.mem_append.mp hrow with hrow | hrow
    · obtain ⟨app, happ, hrow⟩ := List.mem_flatMap.mp hrow
      obtain ⟨appId, happ⟩ := (order.mem_values _ _).mp happ
      unfold ItemStats.itemRows at hrow
      split at hrow
      · exact absurd hrow List.not_mem_nil
      · rename_i hpath
        obtain ⟨e, -, rfl⟩ := List.mem_map.mp hrow
        exact ⟨hpath, appId, app, happ, rfl⟩
    · obtain ⟨e, he, rfl⟩ := List.mem_map.mp hrow
      exact ⟨e.2, (order.mem_entries _ _ _).mp he⟩
  · intro h
    cases item with
    | filter name =>
      obtain ⟨t, ht⟩ := h
      exact ⟨_, List.mem_append_right _
        (List.mem_map.mpr ⟨(name, t), (order.mem_entries _ _ _).mpr ht, rfl⟩), rfl⟩
    | application path =>
      obtain ⟨hpath, appId, app, happ, rfl⟩ := h
      obtain ⟨ip, t, ht⟩ := hs.apps appId app happ
      let row : ItemRow :=
        { item := .application app.applicationPath
          bytesIn := t.bytesIn
          bytesOut := t.bytesOut }
      refine ⟨row, List.mem_append_left _ (List.mem_flatMap.mpr
        ⟨app, (order.mem_values _ _).mpr ⟨appId, happ⟩, ?_⟩), rfl⟩
      unfold ItemStats.itemRows
      rw [if_neg hpath]
      exact List.mem_map.mpr ⟨(ip, t), (order.mem_entries _ _ _).mpr ht, rfl⟩

/-! ## What a request for an item adds up -/

/-- The rows in the range of a request. -/
def rowsIn (request : StatsRequest) (rows : List (Sec × ItemRow)) : List (Sec × ItemRow) :=
  rows.filter fun row => request.startTime < row.1 ∧ row.1 ≤ request.endTime

/-- The request selects the row, when its target is taken for an item or for the system. -/
def StatsRequest.Selects (request : StatsRequest) (item : Item) : Prop :=
  request.target = "system" ∨ item.name = request.target

instance (request : StatsRequest) (item : Item) : Decidable (request.Selects item) :=
  inferInstanceAs (Decidable (_ ∨ _))

/-- The item of an event is the only one with its key. -/
theorem Db.Keyed.filter_items {db : Db} (hdb : db.Keyed) {te : TrafficEventRow} {row : ItemRow}
    (h : db.Describes te row) :
    ∃ i : TrafficItemRow, db.trafficItems.filter (te.itemId = ·.id) = [i] ∧
      i.name = row.item.name := by
  obtain ⟨-, i, hi, hid, hname⟩ := h
  refine ⟨i, List.perm_singleton.mp ?_, hname⟩
  have hnodup : db.trafficItems.Nodup := hdb.ids.of_map _
  refine (List.perm_ext_iff_of_nodup (hnodup.filter _) (List.nodup_singleton i)).mpr fun j => ?_
  rw [List.mem_filter, decide_eq_true_eq, List.mem_singleton]
  constructor
  · rintro ⟨hj, hjid⟩
    exact List.inj_on_of_nodup_map hdb.ids hj hi (hjid.symm.trans hid.symm)
  · rintro rfl
    exact ⟨hi, hid.symm⟩

/-- What the join with the items selects by name. -/
theorem Db.Keyed.bytes_joinItems {db : Db} (hdb : db.Keyed) (name : String)
    {events : List (Sec × TrafficEventRow)} {rows : List (Sec × ItemRow)}
    (h : List.Forall₂ (fun e row => e.1 = row.1 ∧ db.Describes e.2 row.2) events rows) :
    ((db.joinItems events).filter (·.2.name = name)).map (·.1.2.bytes) =
      (rows.filter (·.2.item.name = name)).map (·.2.bytes) := by
  induction h with
  | nil => rfl
  | @cons e row events rows he _ ih =>
    obtain ⟨i, hitems, hname⟩ := hdb.filter_items he.2
    have hjoin : db.joinItems (e :: events) = (e, i) :: db.joinItems events := by
      unfold Db.joinItems
      rw [List.flatMap_cons, hitems]
      rfl
    rw [hjoin, List.filter_cons, List.filter_cons]
    by_cases h : row.2.item.name = name
    · rw [if_pos (by simpa using hname.trans h), if_pos (by simpa using h), List.map_cons,
        List.map_cons, ih, he.2.1]
    · rw [if_neg (by simpa [hname] using h), if_neg (by simpa using h), ih]

theorem bytes_events {db : Db} {events : List (Sec × TrafficEventRow)}
    {rows : List (Sec × ItemRow)}
    (h : List.Forall₂ (fun e row => e.1 = row.1 ∧ db.Describes e.2 row.2) events rows) :
    events.map (·.2.bytes) = rows.map (·.2.bytes) := by
  induction h with
  | nil => rfl
  | cons he _ ih => rw [List.map_cons, List.map_cons, ih, he.2.1]

/-- The rows of the range. -/
theorem Db.Holds.eventsOf {db : Db} {rows : List (Sec × ItemRow)} (h : db.Holds rows)
    (request : StatsRequest) :
    List.Forall₂ (fun e row => e.1 = row.1 ∧ db.Describes e.2 row.2) (db.eventsOf request)
      (rowsIn request rows) := by
  refine List.rel_filter (fun e row he => ?_) h.events
  simp only [decide_eq_true_eq]
  rw [he.1]

/-- A target that is taken for an item. -/
def IsItem (target : String) : Prop :=
  targetType target = .system ∨ targetType target = .binaryOrFilter

theorem targetType_eq_system {target : String} : targetType target = .system ↔ target = "system" := by
  unfold targetType
  constructor
  · intro h
    split at h
    · assumption
    · repeat' split at h
      all_goals cases h
  · rintro rfl
    rfl

/-- **What a request for an item adds up.** -/
theorem processStatsRequest_item (fromString : String → Option IPAddress) {db : Db}
    {rows : List (Sec × ItemRow)} (hdb : db.Holds rows) {request : StatsRequest}
    (htarget : IsItem request.target) :
    ∃ response, processStatsRequest fromString db request = some response ∧
      response.total = if 1 ≤ request.endTime then
        (((rowsIn request rows).filter (request.Selects ·.2.item)).map (·.2.bytes)).sum else 0 := by
  have hselect : ∃ selected, selectRows fromString db request = some selected ∧
      (∀ row ∈ selected, request.startTime < row.1 ∧ row.1 ≤ request.endTime) ∧
      selected.map (·.2.bytes) =
        ((rowsIn request rows).filter (request.Selects ·.2.item)).map (·.2.bytes) := by
    have hrange : ∀ row ∈ db.eventsOf request,
        request.startTime < row.1 ∧ row.1 ≤ request.endTime :=
      fun row hrow => of_decide_eq_true (List.mem_filter.mp hrow).2
    unfold selectRows
    rcases htarget with htarget | htarget
    · rw [htarget]
      refine ⟨_, rfl, hrange, ?_⟩
      have hsystem := targetType_eq_system.mp htarget
      rw [bytes_events (hdb.eventsOf request),
        List.filter_eq_self.mpr fun row _ => decide_eq_true (.inl hsystem)]
    · rw [htarget]
      refine ⟨_, rfl, fun row hrow => ?_, ?_⟩
      · obtain ⟨pair, hpair, rfl⟩ := List.mem_map.mp hrow
        obtain ⟨row, hmem, hpair⟩ := List.mem_flatMap.mp (List.mem_filter.mp hpair).1
        obtain ⟨i, -, rfl⟩ := List.mem_map.mp hpair
        exact hrange row hmem
      · have hsystem : request.target ≠ "system" := fun h => by
          rw [targetType_eq_system.mpr h] at htarget
          cases htarget
        rw [List.map_map]
        refine (hdb.keyed.bytes_joinItems request.target (hdb.eventsOf request)).trans ?_
        congr 1
        exact List.filter_congr fun row _ => decide_eq_decide.mpr (or_iff_right hsystem).symm
  obtain ⟨selected, hselected, hrange, hbytes⟩ := hselect
  unfold processStatsRequest
  rw [hselected]
  refine ⟨_, rfl, ?_⟩
  rw [← hbytes, StatsResponse.total_eq]
  exact total_rows hrange

/-- The request of a client for an item. -/
def itemRequest (item : Item) (requestId : UInt32) (startTime endTime : Sec) : StatsRequest :=
  { requestId, startTime, endTime, target := item.name }

/-- The bytes of the rows that a run writes for the item in the range. -/
def itemBytes (ops : List Op) (item : Item) (startTime endTime : Sec) : WBytes × WBytes :=
  (((rowsOf order [] ops).filter fun row =>
    startTime < row.1 ∧ row.1 ≤ endTime ∧ row.2.item = item).map (·.2.bytes)).sum

/-- The request is answered with the sum of the item's rows, and not from rows of a host, a country,
an organization or an autonomous system. -/
def SumsExactly (fromString : String → Option IPAddress) (ops : List Op) (item : Item)
    (requestId : UInt32) (startTime endTime : Sec) : Prop :=
  targetType item.name ∉ [.host, .country, .organization, .asn] ∧
    ∃ response, processStatsRequest fromString (run (State.step order) {} ops).db
        (itemRequest item requestId startTime endTime) = some response ∧
      response.total = itemBytes order ops item startTime endTime

/-- The name is taken for an item, and no snapshot of the range has another item that a request for
the name selects. A range that ends at the epoch or before it is answered without buckets, so that
none may have the item itself. -/
def SelectsOnly (ops : List Op) (item : Item) (startTime endTime : Sec) : Prop :=
  IsItem item.name ∧
    ∀ i ∈ intervals [] ops, startTime < i.time → i.time ≤ endTime →
      ∀ other, (snapshotOf i.updates).HasItem other →
        if endTime < 1 then other ≠ item
        else item.name = "system" ∨ other.name = item.name → other = item

theorem isItem_iff {target : String} :
    targetType target ∉ [.host, .country, .organization, .asn] ↔ IsItem target := by
  unfold IsItem
  cases targetType target <;> decide

/-- Of rows that hold bytes, those of a part add up to the whole only when they are the whole. -/
theorem sum_filter_eq_iff {α : Type} {f : α → WBytes × WBytes} {p q : α → Bool} :
    ∀ {l : List α}, (∀ x ∈ l, f x ≠ 0) → (∀ x ∈ l, q x → p x) →
      (((l.filter p).map f).sum = ((l.filter q).map f).sum ↔ ∀ x ∈ l, p x → q x) := by
  intro l hne hpq
  have hsplit : ∀ l : List α, (∀ x ∈ l, q x → p x) → ((l.filter p).map f).sum =
      ((l.filter q).map f).sum + ((l.filter fun x => p x && !q x).map f).sum := by
    intro l
    induction l with
    | nil => exact fun _ => rfl
    | cons x l ih =>
      intro hpq
      have hx := hpq x List.mem_cons_self
      specialize ih fun y hy => hpq y (List.mem_cons_of_mem x hy)
      simp only [List.filter_cons]
      cases hp : p x with
      | false =>
        have hq : q x = false := by
          by_contra hq
          exact absurd (hx (by simpa using hq)) (by simp [hp])
        simpa [hq] using ih
      | true =>
        cases hq : q x with
        | true => simpa [add_assoc] using ih
        | false => simpa [add_left_comm] using ih
  rw [hsplit l hpq, add_eq_left, List.sum_eq_zero_iff]
  constructor
  · intro h x hx hp
    by_contra hq
    have hpart : (p x && !q x) = true := by
      rw [hp, Bool.eq_false_of_not_eq_true hq]
      rfl
    exact hne x hx (h (f x) (List.mem_map.mpr ⟨x, List.mem_filter.mpr ⟨hx, hpart⟩, rfl⟩))
  · intro h v hv
    obtain ⟨x, hx, rfl⟩ := List.mem_map.mp hv
    obtain ⟨hx, hpq⟩ := List.mem_filter.mp hx
    simp only [Bool.and_eq_true, Bool.not_eq_true'] at hpq
    exact absurd (h x hx hpq.1) (by simp [hpq.2])

/-- The rows of the range after a run. -/
theorem mem_rowsIn_run (ops : List Op) (request : StatsRequest) (row : Sec × ItemRow) :
    row ∈ rowsIn request (rowsOf order [] ops) ↔
      ∃ i ∈ intervals [] ops, request.startTime < i.time ∧ i.time ≤ request.endTime ∧
        row.1 = i.time ∧ row.2 ∈ (snapshotOf i.updates).itemRows order := by
  unfold rowsIn rowsOf
  rw [List.mem_filter, decide_eq_true_eq, List.mem_flatMap]
  constructor
  · rintro ⟨⟨i, hi, hrow⟩, hlo, hhi⟩
    obtain ⟨item, hitem, rfl⟩ := List.mem_map.mp hrow
    exact ⟨i, hi, hlo, hhi, rfl, hitem⟩
  · rintro ⟨i, hi, hlo, hhi, htime, hrow⟩
    refine ⟨⟨i, hi, List.mem_map.mpr ⟨row.2, hrow, Prod.ext htime.symm rfl⟩⟩, ?_⟩
    rw [htime]
    exact ⟨hlo, hhi⟩

/-- What holds of the items of the rows in the range holds of the items of its snapshots. -/
theorem forall_rowsIn_iff (ops : List Op) (request : StatsRequest) (P : Item → Prop) :
    (∀ row ∈ rowsIn request (rowsOf order [] ops), P row.2.item) ↔
      ∀ i ∈ intervals [] ops, request.startTime < i.time → i.time ≤ request.endTime →
        ∀ other, (snapshotOf i.updates).HasItem other → P other := by
  constructor
  · intro h i hi hlo hhi other hother
    obtain ⟨row, hrow, rfl⟩ :=
      (exists_itemRow_iff order (snapshotOf_spec i.updates).1 other).mpr hother
    exact h (i.time, row) ((mem_rowsIn_run order ops request _).mpr ⟨i, hi, hlo, hhi, rfl, hrow⟩)
  · intro h row hrow
    obtain ⟨i, hi, hlo, hhi, -, hrow⟩ := (mem_rowsIn_run order ops request row).mp hrow
    exact h i hi hlo hhi _
      ((exists_itemRow_iff order (snapshotOf_spec i.updates).1 _).mp ⟨row.2, hrow, rfl⟩)

/-- **A request for an item sums exactly the rows of the item** when the name is taken for an item
and the request selects no row of another one. -/
theorem sumsExactly_iff (fromString : String → Option IPAddress) (ops : List Op) (item : Item)
    (requestId : UInt32) (startTime endTime : Sec) :
    SumsExactly order fromString ops item requestId startTime endTime ↔
      SelectsOnly ops item startTime endTime := by
  unfold SumsExactly SelectsOnly
  rw [isItem_iff]
  refine and_congr_right fun hitem => ?_
  set request := itemRequest item requestId startTime endTime with hrequest
  set rows := rowsIn request (rowsOf order [] ops) with hrows
  obtain ⟨response, hresponse, htotal⟩ := processStatsRequest_item fromString
    (holds_run order ops) (show IsItem request.target from hitem)
  have hbytes : itemBytes order ops item startTime endTime =
      ((rows.filter (·.2.item = item)).map (·.2.bytes)).sum := by
    unfold itemBytes
    rw [hrows, rowsIn, List.filter_filter]
    congr 3
    funext row
    rw [← Bool.decide_and, decide_eq_decide]
    exact ⟨fun ⟨hlo, hhi, h⟩ => ⟨h, hlo, hhi⟩, fun ⟨h, hlo, hhi⟩ => ⟨hlo, hhi, h⟩⟩
  have hcounted : ∀ row ∈ rows, row.2.bytes ≠ 0 := by
    intro row hrow
    obtain ⟨i, -, -, -, -, hrow⟩ := (mem_rowsIn_run order ops request row).mp hrow
    exact itemRows_counted order (snapshotOf_spec i.updates).1 _ hrow
  have hanswer : (∃ response, processStatsRequest fromString
        (run (State.step order) {} ops).db request = some response ∧
      response.total = itemBytes order ops item startTime endTime) ↔
        (if 1 ≤ endTime then
          ((rows.filter (request.Selects ·.2.item)).map (·.2.bytes)).sum else 0) =
        ((rows.filter (·.2.item = item)).map (·.2.bytes)).sum := by
    rw [hbytes]
    constructor
    · rintro ⟨response', hresponse', heq⟩
      cases hresponse.symm.trans hresponse'
      rw [← heq, htotal]
      rfl
    · intro heq
      exact ⟨response, hresponse, htotal.trans heq⟩
  rw [hanswer]
  by_cases hend : 1 ≤ endTime
  · have hlt : ¬endTime < 1 := Int.not_lt.mpr hend
    rw [if_pos hend, sum_filter_eq_iff hcounted fun row _ h =>
      decide_eq_true (.inr (congrArg Item.name (of_decide_eq_true h)))]
    simp only [hlt, if_false, decide_eq_true_eq]
    exact forall_rowsIn_iff order ops request
      fun other => item.name = "system" ∨ other.name = item.name → other = item
  · have hlt : endTime < 1 := Int.not_le.mp hend
    have hnone : (0 : WBytes × WBytes) = ((rows.filter fun _ => false).map (·.2.bytes)).sum := by
      rw [List.filter_false]
      rfl
    rw [if_neg hend, eq_comm, hnone, sum_filter_eq_iff hcounted fun _ _ h => absurd h (by decide)]
    simp only [hlt, if_true, decide_eq_true_eq]
    refine Iff.trans ?_ (forall_rowsIn_iff order ops request fun other => other ≠ item)
    exact forall₂_congr fun row _ => by simp

/-- A title is the path of an application whose process shows no path: here the worker of a web
server, which answers an address of the Internet. -/
def worker : List Op :=
  [.updateAppStats 4 (applicationKey "" "nginx: worker process" "nginx")
    (({} : IPAddress).fromIPv4Uint32 0x04030201) 0 100,
   .makeSnapshot 3600 fun _ => none]

/-- The row is written for `nginx`, and a request for that name is taken for one of a host, which
fails. -/
theorem sumsExactly_not_always :
    ¬SumsExactly IterOrder.stored (fun _ => none) worker (.application "nginx") 1 0 86400 ∧
      applicationKey "" "nginx: worker process" "nginx" = "nginx" ∧
      itemBytes IterOrder.stored worker (.application "nginx") 0 86400 = (0, 100) ∧
      processStatsRequest (fun _ => none) (run (State.step IterOrder.stored) {} worker).db
        (itemRequest (.application "nginx") 1 0 86400) = none := by
  refine ⟨fun h => ?_, by decide, by decide +kernel, rfl⟩
  exact h.1 (by decide)

end Waechter.StatsManager
