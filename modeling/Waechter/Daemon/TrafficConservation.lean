import Mathlib.Algebra.Order.Group.Nat
import Waechter.Daemon.SystemTotals
import Waechter.Lib.MapSum

/-!
# Conservation of traffic

What `UpdateAppStats` and `UpdateFilterStats` are given is in the current snapshot until
`MakeSnapshot` writes it to the database (`Daemon/Db/StatsManager.cpp`). The snapshot keeps
applications by their id, each with the path it first came up with; the tables keep them by their
path, hosts by their bytes and filters by their name, and look for a row before they insert one.

Amounts are natural numbers. Two addresses are the same host when `GetBytesVector` is the same: they
have the same family and the same bytes of that family. Only the rows of applications have a host.

* `Db.Added`: what a function adds to the database, counted by name and host.
* `sum_updateAppStats`: what an update adds to a snapshot.
* `conserved`: after every run the rows and the current snapshot make up what was reported, an
  amount counting for the path its application is recorded under in that snapshot.
-/

namespace Waechter.StatsManager

open Lib

variable (order : IterOrder)

/-- Two addresses have the same bytes when their family and the bytes of that family agree. -/
theorem getBytesVector_eq_iff (a b : IPAddress) : getBytesVector a = getBytesVector b ↔
    a.family = b.family ∧
      (a.family = .ipv4 → a.bytes.toList.take 4 = b.bytes.toList.take 4) ∧
      (a.family = .ipv6 → a.bytes = b.bytes) := by
  obtain ⟨abytes, afamily⟩ := a
  obtain ⟨bbytes, bfamily⟩ := b
  have hlength (v : Vector UInt8 16) : v.toList.length = 16 := v.length_toList
  have h4 (v : Vector UInt8 16) : (v.toList.take 4).length = 4 := by
    rw [List.length_take, hlength]
    rfl
  -- the lengths of the three families differ
  cases afamily <;> cases bfamily <;> simp only [getBytesVector]
  all_goals try simp [Vector.toList_inj]
  all_goals
    intro h
    have := congrArg List.length h
    simp [h4, hlength] at this

/-! ## Rows by name and host -/

/-- An event as a name, the bytes of a host and an amount. -/
structure Entry where
  name : String
  host : Option (List UInt8)
  amount : WBytes × WBytes

/-- What the entries come to that are selected. -/
def sumOfEntries (sel : String → Option (List UInt8) → Bool) (l : List Entry) : WBytes × WBytes :=
  (l.map fun e => if sel e.name e.host then e.amount else 0).sum

/-- The traffic of an application with a host. -/
def ofApp (path : String) (host : IPAddress) (name : String) (h : Option (List UInt8)) : Bool :=
  name = path ∧ h = some (getBytesVector host)

/-- The traffic of a filter. -/
def ofFilter (filterName : String) (name : String) (h : Option (List UInt8)) : Bool :=
  name = filterName ∧ h = none

namespace Db

/-- An event with the name of its item and the bytes of its host. -/
def entry (db : Db) (te : TrafficEventRow) : Entry where
  name := ((db.trafficItems.find? (·.id = te.itemId)).map (·.name)).getD ""
  host := te.hostId.bind fun id => (db.hosts.find? (·.id = id)).map (·.ipAddress)
  amount := (te.bytesIn.toNat, te.bytesOut.toNat)

/-- What the selected events come to. -/
def sum (db : Db) (sel : String → Option (List UInt8) → Bool) : WBytes × WBytes :=
  sumOfEntries sel (db.trafficEvents.map db.entry)

/-- Names and addresses come up once, and every event has its item and its host. -/
structure Sound (db : Db) : Prop where
  itemIds : (db.trafficItems.map (·.id)).Nodup
  itemNames : (db.trafficItems.map (·.name)).Nodup
  hostIds : (db.hosts.map (·.id)).Nodup
  hostBytes : (db.hosts.map (·.ipAddress)).Nodup
  items : ∀ te ∈ db.trafficEvents, ∃ i ∈ db.trafficItems, i.id = te.itemId
  hosts : ∀ te ∈ db.trafficEvents, ∀ id ∈ te.hostId, ∃ h ∈ db.hosts, h.id = id

/-- `db'` is `db` with the entries in addition. -/
structure Added (db db' : Db) (l : List Entry) : Prop where
  sound : db'.Sound
  items : db.trafficItems <+: db'.trafficItems
  hosts : db.hosts <+: db'.hosts
  entries : db'.trafficEvents.map db'.entry = db.trafficEvents.map db.entry ++ l

theorem find?_of_prefix {α : Type} {l l' : List α} {p : α → Bool} (h : l <+: l') {x : α}
    (hx : x ∈ l) (hp : p x = true) : l'.find? p = l.find? p := by
  obtain ⟨l₂, rfl⟩ := h
  rw [List.find?_append]
  have hsome : (l.find? p).isSome := List.find?_isSome.mpr ⟨x, hx, hp⟩
  rw [Option.or_of_isSome hsome]

/-- An event says the same in a database with more items and hosts. -/
theorem entry_of_prefix {db db' : Db} (hitems : db.trafficItems <+: db'.trafficItems)
    (hhosts : db.hosts <+: db'.hosts) {te : TrafficEventRow}
    (hitem : ∃ i ∈ db.trafficItems, i.id = te.itemId)
    (hhost : ∀ id ∈ te.hostId, ∃ h ∈ db.hosts, h.id = id) : db'.entry te = db.entry te := by
  obtain ⟨i, hi, hid⟩ := hitem
  have hname : db'.trafficItems.find? (·.id = te.itemId) =
      db.trafficItems.find? (·.id = te.itemId) :=
    find?_of_prefix hitems hi (by simpa using hid)
  unfold entry
  rw [hname]
  congr 1
  cases hte : te.hostId with
  | none => rfl
  | some id =>
    obtain ⟨h, hh, hhid⟩ := hhost id hte
    rw [Option.bind_some, Option.bind_some, find?_of_prefix hhosts hh (by simpa using hhid)]

variable {db db' db'' : Db} {l l' : List Entry}

theorem Added.refl (h : db.Sound) : Added db db [] :=
  ⟨h, List.prefix_refl _, List.prefix_refl _, (List.append_nil _).symm⟩

theorem Added.trans (h : Added db db' l) (h' : Added db' db'' l') : Added db db'' (l ++ l') := by
  refine ⟨h'.sound, h.items.trans h'.items, h.hosts.trans h'.hosts, ?_⟩
  rw [h'.entries, h.entries, List.append_assoc]

theorem Added.sum (h : Added db db' l) (sel : String → Option (List UInt8) → Bool) :
    db'.sum sel = db.sum sel + sumOfEntries sel l := by
  rw [Db.sum, h.entries, sumOfEntries, List.map_append, List.sum_append]
  rfl

/-- A table that grows leaves the events as they are. -/
theorem Added.of_tables (hdb : db.Sound) (hsound : db'.Sound)
    (hitems : db.trafficItems <+: db'.trafficItems) (hhosts : db.hosts <+: db'.hosts)
    (hevents : db'.trafficEvents = db.trafficEvents) : Added db db' [] := by
  refine ⟨hsound, hitems, hhosts, ?_⟩
  rw [hevents, List.append_nil]
  exact List.map_congr_left fun te hte =>
    entry_of_prefix hitems hhosts (hdb.items te hte) (hdb.hosts te hte)

/-- A loop adds what its turns add, where these rely on what a larger database keeps. -/
theorem Added.foldl {α : Type} {f : Db → α → Db} {g : α → List Entry} {P : Db → Prop}
    (hP : ∀ {db db' l}, Added db db' l → P db → P db')
    (h : ∀ db x, db.Sound → P db → Added db (f db x) (g x)) :
    ∀ (xs : List α) (db : Db), db.Sound → P db → Added db (xs.foldl f db) (xs.flatMap g)
  | [], _, hdb, _ => .refl hdb
  | x :: xs, db, hdb, hp =>
    have hx := h db x hdb hp
    hx.trans (foldl hP h xs (f db x) hx.sound (hP hx hp))

/-- The item with the id has the name. -/
def HasItem (db : Db) (id : Int) (name : String) : Prop :=
  ∃ i ∈ db.trafficItems, i.id = id ∧ i.name = name

/-- The host with the id has the bytes. -/
def HasHost (db : Db) (id : Int) (bytes : List UInt8) : Prop :=
  ∃ h ∈ db.hosts, h.id = id ∧ h.ipAddress = bytes

theorem HasItem.mono (h : Added db db' l) {id : Int} {name : String} (hitem : db.HasItem id name) :
    db'.HasItem id name := by
  obtain ⟨i, hi, hi'⟩ := hitem
  exact ⟨i, h.items.subset hi, hi'⟩

/-- The row of a key, where keys come up once. -/
theorem find?_id {α : Type} {key : α → Int} : ∀ {l : List α}, (l.map key).Nodup → ∀ {x : α}, x ∈ l →
    l.find? (fun y => key y = key x) = some x
  | y :: l, hn, x, hx => by
    rw [List.map_cons, List.nodup_cons] at hn
    rcases List.mem_cons.mp hx with rfl | hx
    · exact List.find?_cons_of_pos (by simp)
    · have hne : key y ≠ key x := fun h => hn.1 (h ▸ List.mem_map.mpr ⟨x, hx, rfl⟩)
      rw [List.find?_cons_of_neg (by simpa using hne)]
      exact find?_id hn.2 hx

theorem added_findOrInsertItem (h : db.Sound) (name : String) :
    Added db (db.findOrInsertItem name).2 [] ∧
      (db.findOrInsertItem name).2.HasItem (db.findOrInsertItem name).1 name := by
  unfold findOrInsertItem
  split
  · rename_i row hrow
    exact ⟨.refl h, row, List.mem_of_find?_eq_some hrow, rfl, by simpa using List.find?_some hrow⟩
  · rename_i hnone
    refine ⟨.of_tables h ⟨?_, ?_, h.hostIds, h.hostBytes, fun te hte => ?_, h.hosts⟩
      (List.prefix_append _ _) (List.prefix_refl _) rfl,
      _, List.mem_append_right _ List.mem_cons_self, rfl, rfl⟩
    · rw [List.map_append, List.nodup_append]
      refine ⟨h.itemIds, List.nodup_singleton _, fun i hi j hj => ?_⟩
      rw [List.mem_singleton.mp hj]
      exact Int.ne_of_lt (lt_nextId hi)
    · rw [List.map_append, List.nodup_append]
      refine ⟨h.itemNames, List.nodup_singleton _, fun n hn n' hn' => ?_⟩
      obtain ⟨row, hrow, rfl⟩ := List.mem_map.mp hn
      rw [List.mem_singleton.mp hn']
      simpa using List.find?_eq_none.mp hnone row hrow
    · obtain ⟨i, hi, hid⟩ := h.items te hte
      exact ⟨i, List.mem_append_left _ hi, hid⟩

theorem added_findOrInsertHost (h : db.Sound) (ip : IPAddress) (asnId : Int) :
    Added db (db.findOrInsertHost ip asnId).2 [] ∧
      (db.findOrInsertHost ip asnId).2.HasHost (db.findOrInsertHost ip asnId).1
        (getBytesVector ip) := by
  unfold findOrInsertHost
  split
  · rename_i row hrow
    exact ⟨.refl h, row, List.mem_of_find?_eq_some hrow, rfl, by simpa using List.find?_some hrow⟩
  · rename_i hnone
    refine ⟨.of_tables h ⟨h.itemIds, h.itemNames, ?_, ?_, h.items, fun te hte id hid => ?_⟩
      (List.prefix_refl _) (List.prefix_append _ _) rfl,
      _, List.mem_append_right _ List.mem_cons_self, rfl, rfl⟩
    · rw [List.map_append, List.nodup_append]
      refine ⟨h.hostIds, List.nodup_singleton _, fun i hi j hj => ?_⟩
      rw [List.mem_singleton.mp hj]
      exact Int.ne_of_lt (lt_nextId hi)
    · rw [List.map_append, List.nodup_append]
      refine ⟨h.hostBytes, List.nodup_singleton _, fun b hb b' hb' => ?_⟩
      obtain ⟨row, hrow, rfl⟩ := List.mem_map.mp hb
      rw [List.mem_singleton.mp hb']
      simpa using List.find?_eq_none.mp hnone row hrow
    · obtain ⟨row, hrow, hrowid⟩ := h.hosts te hte id hid
      exact ⟨row, List.mem_append_left _ hrow, hrowid⟩

theorem added_findOrInsertAsn (h : db.Sound) (asn : AsnLookupResult) :
    Added db (db.findOrInsertAsn asn).2 [] := by
  unfold findOrInsertAsn
  split
  · exact .refl h
  · exact .of_tables h ⟨h.itemIds, h.itemNames, h.hostIds, h.hostBytes, h.items, h.hosts⟩
      (List.prefix_refl _) (List.prefix_refl _) rfl

/-- The bytes of the host of an event. -/
def HostIs (db : Db) (hostId : Option Int) (bytes : Option (List UInt8)) : Prop :=
  match hostId, bytes with
  | none, none => True
  | some id, some bytes => db.HasHost id bytes
  | _, _ => False

theorem added_insertEvent (h : db.Sound) (snapshotId : Int) {itemId : Int} {name : String}
    (hitem : db.HasItem itemId name) (hostId : Option Int) (bytes : Option (List UInt8))
    (hhost : db.HostIs hostId bytes) (traffic : TrafficStats) :
    Added db (db.insertEvent snapshotId itemId hostId traffic)
      [{ name, host := bytes, amount := (traffic.bytesIn, traffic.bytesOut) }] := by
  obtain ⟨i, hi, rfl, rfl⟩ := hitem
  have hfk : ∀ id ∈ hostId, ∃ row ∈ db.hosts, row.id = id := by
    intro id hid
    cases bytes with
    | none => rw [hid] at hhost; exact hhost.elim
    | some bytes =>
      rw [hid] at hhost
      obtain ⟨row, hrow, hrowid, -⟩ := hhost
      exact ⟨row, hrow, hrowid⟩
  refine ⟨⟨h.itemIds, h.itemNames, h.hostIds, h.hostBytes, ?_, ?_⟩, List.prefix_refl _,
    List.prefix_refl _, ?_⟩
  · intro te hte
    rcases List.mem_append.mp hte with hte | hte
    · exact h.items te hte
    · rw [List.mem_singleton.mp hte]
      exact ⟨i, hi, rfl⟩
  · intro te hte
    rcases List.mem_append.mp hte with hte | hte
    · exact h.hosts te hte
    · rw [List.mem_singleton.mp hte]
      exact hfk
  · change (db.trafficEvents ++ [_]).map db.entry = _
    rw [List.map_append]
    congr 1
    unfold entry
    rw [List.map_singleton, find?_id h.itemIds hi]
    congr 2
    cases bytes with
    | none =>
      cases hostId with
      | none => rfl
      | some id => exact hhost.elim
    | some bytes =>
      cases hostId with
      | none => exact hhost.elim
      | some id =>
        obtain ⟨row, hrow, rfl, rfl⟩ := hhost
        rw [Option.bind_some, find?_id h.hostIds hrow]
        rfl

end Db

/-! ## A snapshot in the database -/

/-- The entries of an application. -/
def ItemStats.entries (app : ItemStats) : List Entry :=
  if app.applicationPath = "" then []
  else (order.entries app.traffic).map fun e =>
    { name := app.applicationPath, host := some (getBytesVector e.1),
      amount := (e.2.bytesIn, e.2.bytesOut) }

/-- The entries of a snapshot. -/
def Snapshot.entries (s : Snapshot) : List Entry :=
  (order.values s.apps).flatMap (ItemStats.entries order) ++
    (order.entries s.filters).map fun e =>
      { name := e.1, host := none, amount := (e.2.bytesIn, e.2.bytesOut) }

variable {db : Db}

theorem added_writeTraffic (h : db.Sound) (lookupSync : IPAddress → Option AsnLookupResult)
    (snapshotId : Int) {itemId : Int} {name : String} (hitem : db.HasItem itemId name)
    (e : IPAddress × TrafficStats) :
    Db.Added db (writeTraffic lookupSync snapshotId itemId db e)
      [{ name, host := some (getBytesVector e.1), amount := (e.2.bytesIn, e.2.bytesOut) }] := by
  unfold writeTraffic
  cases lookupSync e.1 with
  | some asn =>
    have hasn := Db.added_findOrInsertAsn h asn
    obtain ⟨hhost, hhas⟩ :=
      Db.added_findOrInsertHost hasn.sound e.1 (db.findOrInsertAsn asn).1
    have hboth := hasn.trans hhost
    exact hboth.trans (Db.added_insertEvent hboth.sound snapshotId (hitem.mono hboth)
      (some _) (some _) hhas e.2)
  | none =>
    obtain ⟨hhost, hhas⟩ := Db.added_findOrInsertHost h e.1 0
    exact hhost.trans (Db.added_insertEvent hhost.sound snapshotId (hitem.mono hhost)
      (some _) (some _) hhas e.2)

theorem added_writeApp (h : db.Sound) (lookupSync : IPAddress → Option AsnLookupResult)
    (snapshotId : Int) (app : ItemStats) :
    Db.Added db (writeApp order lookupSync snapshotId db app) (app.entries order) := by
  unfold writeApp ItemStats.entries
  split
  · exact .refl h
  · obtain ⟨hitem, hhas⟩ := Db.added_findOrInsertItem h app.applicationPath
    rw [List.map_eq_flatMap]
    exact hitem.trans (.foldl (P := fun db => db.HasItem _ app.applicationPath)
      (fun hadded hp => hp.mono hadded)
      (fun db e hdb hp => added_writeTraffic hdb lookupSync snapshotId hp e) _ _ hitem.sound hhas)

theorem added_writeFilter (h : db.Sound) (snapshotId : Int) (e : String × TrafficStats) :
    Db.Added db (writeFilter snapshotId db e)
      [{ name := e.1, host := none, amount := (e.2.bytesIn, e.2.bytesOut) }] := by
  obtain ⟨hitem, hhas⟩ := Db.added_findOrInsertItem h e.1
  exact hitem.trans (Db.added_insertEvent hitem.sound snapshotId hhas
    none none trivial e.2)

/-- **A snapshot adds its entries to the database**, and no name or address twice. -/
theorem added_writeSnapshot (h : db.Sound) (now : Sec)
    (lookupSync : IPAddress → Option AsnLookupResult) (s : Snapshot) :
    Db.Added db (writeSnapshot order now lookupSync db s) (s.entries order) := by
  unfold writeSnapshot Snapshot.entries
  set snapshotId := nextId (db.trafficSnapshots.map (·.id))
  set db₁ : Db := { db with
    trafficSnapshots := db.trafficSnapshots ++ [{ id := snapshotId, start := now }] } with hdb₁
  have hstart : Db.Added db db₁ [] := .of_tables h
    ⟨h.itemIds, h.itemNames, h.hostIds, h.hostBytes, h.items, h.hosts⟩
    (List.prefix_refl _) (List.prefix_refl _) rfl
  have happs := Db.Added.foldl (P := fun _ => True) (fun _ _ => trivial)
    (fun db app hdb _ => added_writeApp order hdb lookupSync snapshotId app)
    (order.values s.apps) db₁ hstart.sound trivial
  have hfilters := Db.Added.foldl (P := fun _ => True) (fun _ _ => trivial)
    (fun db e hdb _ => added_writeFilter hdb snapshotId e)
    (order.entries s.filters) _ happs.sound trivial
  rw [← List.map_eq_flatMap] at hfilters
  exact hstart.trans (happs.trans hfilters)

/-! ## The current snapshot -/

variable (sel : String → Option (List UInt8) → Bool)

/-- What the traffic of an application comes to. -/
def ItemStats.sum (app : ItemStats) : WBytes × WBytes :=
  if app.applicationPath = "" then 0
  else UMap.sumOf (fun ip traffic =>
    if sel app.applicationPath (some (getBytesVector ip)) then
      (traffic.bytesIn, traffic.bytesOut) else 0) app.traffic

/-- What a snapshot comes to. -/
def Snapshot.sum (s : Snapshot) : WBytes × WBytes :=
  UMap.sumOf (fun _ app => app.sum sel) s.apps +
    UMap.sumOf (fun name traffic =>
      if sel name none then (traffic.bytesIn, traffic.bytesOut) else 0) s.filters

theorem sumOfEntries_app (app : ItemStats) :
    sumOfEntries sel (app.entries order) = app.sum sel := by
  unfold ItemStats.entries ItemStats.sum
  split
  · rfl
  · rw [sumOfEntries, List.map_map, ← UMap.sum_entries order]
    rfl

theorem sumOfEntries_append (l l' : List Entry) :
    sumOfEntries sel (l ++ l') = sumOfEntries sel l + sumOfEntries sel l' := by
  rw [sumOfEntries, List.map_append, List.sum_append]
  rfl

theorem sumOfEntries_flatMap {α : Type} (f : α → List Entry) : ∀ l : List α,
    sumOfEntries sel (l.flatMap f) = (l.map fun x => sumOfEntries sel (f x)).sum
  | [] => rfl
  | x :: l => by
    rw [List.flatMap_cons, sumOfEntries_append, sumOfEntries_flatMap f l, List.map_cons,
      List.sum_cons]

/-- The entries of a snapshot come to what it holds. -/
theorem sumOfEntries_snapshot (s : Snapshot) :
    sumOfEntries sel (s.entries order) = s.sum sel := by
  unfold Snapshot.entries Snapshot.sum
  rw [sumOfEntries_append, sumOfEntries_flatMap]
  congr 1
  · simp only [sumOfEntries_app]
    exact UMap.sum_values order (ItemStats.sum sel) s.apps
  · rw [sumOfEntries, List.map_map, ← UMap.sum_entries order]
    rfl

/-- The path under which a snapshot records an application. -/
def Snapshot.pathOf (s : Snapshot) (appId : TrafficItemId) : Option String :=
  (s.apps.lookup appId).map (·.applicationPath)

/-- The applications of a snapshot have a path. -/
def Snapshot.Named (s : Snapshot) : Prop := ∀ appId, s.pathOf appId ≠ some ""

theorem sum_updateFilterStats (s : Snapshot) (name : String) (i o : WBytes) :
    (updateFilterStats s name i o).sum sel = s.sum sel + if sel name none then (i, o) else 0 := by
  unfold updateFilterStats
  split
  · rename_i hzero
    rw [hzero.1, hzero.2]
    exact (add_zero _).symm.trans (by congr 1; split <;> rfl)
  · cases hlookup : s.filters.lookup name with
    | none =>
      simp only [Snapshot.sum]
      rw [UMap.sumOf_insert_of_none _ _ hlookup, add_assoc, add_comm (UMap.sumOf _ s.filters)]
    | some traffic =>
      simp only [Snapshot.sum]
      rw [UMap.sumOf_insert_add _ _ hlookup (if sel name none then (i, o) else 0), add_assoc]
      split
      · rfl
      · rfl

/-- **What an update of an application adds to a snapshot**: the amount, for the path the
application is recorded under. -/
theorem sum_updateAppStats {s : Snapshot} (hs : s.Named) (appId : TrafficItemId) {path : String}
    (hpath : path ≠ "") (host : IPAddress) (i o : WBytes) :
    (updateAppStats s appId path host i o).sum sel = s.sum sel +
      if sel ((s.pathOf appId).getD path) (some (getBytesVector host)) then (i, o) else 0 := by
  unfold updateAppStats
  split
  · rename_i hzero
    rw [hzero.1, hzero.2]
    exact (add_zero _).symm.trans (by congr 1; split <;> rfl)
  · cases hlookup : s.apps.lookup appId with
    | none =>
      have happ : ItemStats.sum sel
          { applicationPath := path,
            traffic := (∅ : UMap IPAddress TrafficStats).insert host
              { bytesIn := i, bytesOut := o } } =
          if sel path (some (getBytesVector host)) then (i, o) else 0 := by
        rw [ItemStats.sum, if_neg hpath, UMap.sumOf_insert_of_none _ _ rfl, UMap.sumOf_empty,
          add_zero]
      simp only [Snapshot.sum, Snapshot.pathOf, hlookup, Option.map_none, Option.getD_none]
      rw [UMap.sumOf_insert_of_none _ _ hlookup, happ, add_assoc]
      exact add_comm _ _
    | some app =>
      have hname : app.applicationPath ≠ "" := fun hempty => hs appId (by
        rw [Snapshot.pathOf, hlookup, Option.map_some, hempty])
      simp only [if_neg hname, Snapshot.sum, Snapshot.pathOf, hlookup, Option.map_some,
        Option.getD_some]
      rw [UMap.sumOf_insert_add _ _ hlookup
        (if sel app.applicationPath (some (getBytesVector host)) then (i, o) else 0),
        add_right_comm]
      rw [ItemStats.sum, ItemStats.sum, if_neg hname, if_neg hname]
      cases htraffic : app.traffic.lookup host with
      | none =>
        rw [UMap.sumOf_insert_of_none _ _ htraffic]
        exact add_comm _ _
      | some traffic =>
        refine UMap.sumOf_insert_add _ _ htraffic _ ?_
        by_cases hsel : sel app.applicationPath (some (getBytesVector host)) = true
        · simp only [if_pos hsel]
          rfl
        · simp only [if_neg hsel]
          rfl

theorem pathOf_updateAppStats (s : Snapshot) (appId : TrafficItemId) (path : String)
    (host : IPAddress) (i o : WBytes) (q : TrafficItemId) (hs : s.Named) :
    (updateAppStats s appId path host i o).pathOf q =
      if q = appId ∧ ¬ (i = 0 ∧ o = 0) then some ((s.pathOf appId).getD path) else s.pathOf q := by
  unfold updateAppStats
  by_cases hzero : i = 0 ∧ o = 0
  · rw [if_pos hzero, if_neg fun h => h.2 hzero]
  · rw [if_neg hzero]
    simp only [hzero, not_false_eq_true, and_true]
    cases hlookup : s.apps.lookup appId with
    | none =>
      simp only [Snapshot.pathOf, UMap.lookup_insert_ite, hlookup]
      split <;> rfl
    | some app =>
      have hname : app.applicationPath ≠ "" := fun hempty => hs appId (by
        rw [Snapshot.pathOf, hlookup, Option.map_some, hempty])
      simp only [Snapshot.pathOf, UMap.lookup_insert_ite, hlookup, if_neg hname]
      split <;> rfl

theorem apps_updateFilterStats (s : Snapshot) (name : String) (i o : WBytes) :
    (updateFilterStats s name i o).apps = s.apps := by
  unfold updateFilterStats
  split
  · rfl
  · split <;> rfl

/-! ## What is reported -/

/-- The path an application is recorded under after the updates since the last snapshot: that of its
first update with traffic. -/
def recordedPath (pending : List Op) (appId : TrafficItemId) : Option String :=
  pending.findSome? fun op =>
    match op with
    | .updateAppStats q path _ i o => if q = appId ∧ ¬ (i = 0 ∧ o = 0) then some path else none
    | _ => none

/-- What is reported for a path and a host, where an amount counts for the path its application is
recorded under in the snapshot. -/
def reported (path : String) (host : IPAddress) : List Op → List Op → WBytes × WBytes
  | _, [] => 0
  | _, .makeSnapshot _ _ :: ops => reported path host [] ops
  | pending, .updateFilterStats name i o :: ops =>
    reported path host (pending ++ [.updateFilterStats name i o]) ops
  | pending, .updateAppStats appId p h i o :: ops =>
    (if ofApp path host ((recordedPath pending appId).getD p) (some (getBytesVector h)) then (i, o)
      else 0) + reported path host (pending ++ [.updateAppStats appId p h i o]) ops

/-- What is reported for a filter. -/
def reportedFilter (filterName : String) : List Op → WBytes × WBytes
  | [] => 0
  | .updateFilterStats name i o :: ops =>
    (if name = filterName then (i, o) else 0) + reportedFilter filterName ops
  | _ :: ops => reportedFilter filterName ops

/-- The sum of all amounts of a path and a host. -/
def amounts (path : String) (host : IPAddress) : List Op → WBytes × WBytes
  | [] => 0
  | .updateAppStats _ p h i o :: ops =>
    (if ofApp path host p (some (getBytesVector h)) then (i, o) else 0) + amounts path host ops
  | _ :: ops => amounts path host ops

/-- Within a snapshot every application comes with one path. -/
def KeepsPaths : List Op → List Op → Prop
  | _, [] => True
  | _, .makeSnapshot _ _ :: ops => KeepsPaths [] ops
  | pending, .updateFilterStats name i o :: ops =>
    KeepsPaths (pending ++ [.updateFilterStats name i o]) ops
  | pending, .updateAppStats appId p h i o :: ops =>
    ((recordedPath pending appId).getD p = p) ∧
      KeepsPaths (pending ++ [.updateAppStats appId p h i o]) ops

instance KeepsPaths.decide : (pending ops : List Op) → Decidable (KeepsPaths pending ops)
  | _, [] => inferInstanceAs (Decidable True)
  | _, .makeSnapshot _ _ :: ops => KeepsPaths.decide [] ops
  | pending, .updateFilterStats name i o :: ops =>
    KeepsPaths.decide (pending ++ [.updateFilterStats name i o]) ops
  | pending, .updateAppStats appId p h i o :: ops =>
    @instDecidableAnd _ _ (inferInstanceAs (Decidable ((recordedPath pending appId).getD p = p)))
      (KeepsPaths.decide (pending ++ [.updateAppStats appId p h i o]) ops)

/-- Where every application keeps its path, every amount counts for the path it comes with. -/
theorem reported_eq_amounts (path : String) (host : IPAddress) : ∀ (ops pending : List Op),
    KeepsPaths pending ops → reported path host pending ops = amounts path host ops
  | [], _, _ => rfl
  | .makeSnapshot _ _ :: ops, _, h => reported_eq_amounts path host ops _ h
  | .updateFilterStats _ _ _ :: ops, _, h => reported_eq_amounts path host ops _ h
  | .updateAppStats appId p q i o :: ops, pending, h => by
    rw [reported, amounts, h.1, reported_eq_amounts path host ops _ h.2]

/-! ## Runs -/

/-- The path of an update of an application is not empty. -/
def Op.HasPath : Op → Prop
  | .updateAppStats _ path _ _ _ => path ≠ ""
  | _ => True

instance : (op : Op) → Decidable op.HasPath
  | .updateAppStats _ path _ _ _ => inferInstanceAs (Decidable (path ≠ ""))
  | .updateFilterStats _ _ _ => .isTrue trivial
  | .makeSnapshot _ _ => .isTrue trivial

/-- The rows of an application with a host come to that. -/
def Db.appBytes (db : Db) (path : String) (host : IPAddress) : WBytes × WBytes :=
  db.sum (ofApp path host)

/-- The rows of a filter come to that. -/
def Db.filterBytes (db : Db) (name : String) : WBytes × WBytes := db.sum (ofFilter name)

/-- An application has that much with a host in a snapshot. -/
def Snapshot.appBytes (s : Snapshot) (path : String) (host : IPAddress) : WBytes × WBytes :=
  s.sum (ofApp path host)

/-- A filter has that much in a snapshot. -/
def Snapshot.filterBytes (s : Snapshot) (name : String) : WBytes × WBytes := s.sum (ofFilter name)

/-- What holds between the calls, `pending` being the updates since the last snapshot. -/
structure Conserving (s : State) (pending : List Op) : Prop where
  sound : s.db.Sound
  recorded : ∀ appId, s.current.pathOf appId = recordedPath pending appId
  named : s.current.Named

theorem recordedPath_concat (pending : List Op) (op : Op) (q : TrafficItemId) :
    recordedPath (pending ++ [op]) q = (recordedPath pending q).or (recordedPath [op] q) := by
  rw [recordedPath, List.findSome?_append]
  rfl

theorem Conserving.updateFilterStats {s : State} {pending : List Op} (h : Conserving s pending)
    (name : String) (i o : WBytes) :
    Conserving (s.step order (.updateFilterStats name i o))
      (pending ++ [.updateFilterStats name i o]) := by
  have hpath : ∀ appId, (s.step order (.updateFilterStats name i o)).current.pathOf appId =
      s.current.pathOf appId := by
    intro appId
    change ((StatsManager.updateFilterStats s.current name i o).apps.lookup appId).map _ = _
    rw [apps_updateFilterStats]
    rfl
  refine ⟨h.sound, fun appId => ?_, fun appId => ?_⟩
  · rw [hpath, h.recorded, recordedPath_concat]
    exact (Option.or_none).symm
  · rw [hpath]
    exact h.named appId

theorem Conserving.updateAppStats {s : State} {pending : List Op} (h : Conserving s pending)
    (appId : TrafficItemId) {path : String} (hpath : path ≠ "") (host : IPAddress) (i o : WBytes) :
    Conserving (s.step order (.updateAppStats appId path host i o))
      (pending ++ [.updateAppStats appId path host i o]) := by
  have hnext : ∀ q, (s.step order (.updateAppStats appId path host i o)).current.pathOf q =
      if q = appId ∧ ¬ (i = 0 ∧ o = 0) then some ((s.current.pathOf appId).getD path)
      else s.current.pathOf q :=
    fun q => pathOf_updateAppStats s.current appId path host i o q h.named
  refine ⟨h.sound, fun q => ?_, fun q => ?_⟩
  · rw [hnext, recordedPath_concat, ← h.recorded q]
    by_cases hq : q = appId ∧ ¬ (i = 0 ∧ o = 0)
    · rw [if_pos hq]
      obtain ⟨rfl, hzero⟩ := hq
      have hnew : recordedPath [.updateAppStats q path host i o] q = some path := by
        simp only [recordedPath, List.findSome?_cons, List.findSome?_nil, true_and]
        rw [if_pos hzero]
      rw [hnew]
      cases s.current.pathOf q <;> rfl
    · rw [if_neg hq]
      have hnew : recordedPath [.updateAppStats appId path host i o] q = none := by
        simp only [recordedPath, List.findSome?_cons, List.findSome?_nil]
        rw [if_neg fun hc => hq ⟨hc.1.symm, hc.2⟩]
      rw [hnew, Option.or_none]
  · rw [hnext]
    split
    · intro hempty
      cases hold : s.current.pathOf appId with
      | none =>
        rw [hold] at hempty
        exact hpath (Option.some.inj hempty)
      | some name =>
        rw [hold] at hempty
        exact h.named appId (hold.trans hempty)
    · exact h.named q

theorem Conserving.makeSnapshot {s : State} {pending : List Op} (h : Conserving s pending)
    (now : Sec) (lookupSync : IPAddress → Option AsnLookupResult) :
    Conserving (s.step order (.makeSnapshot now lookupSync)) [] :=
  ⟨(added_writeSnapshot order h.sound now lookupSync s.current).sound, fun _ => rfl,
    fun _ hempty => nomatch hempty⟩

/-- The updates since the last snapshot, after one more call. -/
def pendingAfter (pending : List Op) : Op → List Op
  | .makeSnapshot _ _ => []
  | op => pending ++ [op]

theorem Conserving.step {s : State} {pending : List Op} (h : Conserving s pending) {op : Op}
    (hop : op.HasPath) : Conserving (s.step order op) (pendingAfter pending op) := by
  cases op with
  | updateAppStats appId path host i o => exact h.updateAppStats order appId hop host i o
  | updateFilterStats name i o => exact h.updateFilterStats order name i o
  | makeSnapshot now lookupSync => exact h.makeSnapshot order now lookupSync

/-- A snapshot moves what is current into the rows. -/
theorem sum_makeSnapshot {s : State} (h : s.db.Sound) (now : Sec)
    (lookupSync : IPAddress → Option AsnLookupResult) :
    (s.step order (.makeSnapshot now lookupSync)).db.sum sel +
        (s.step order (.makeSnapshot now lookupSync)).current.sum sel =
      s.db.sum sel + s.current.sum sel := by
  have hwritten := (added_writeSnapshot order h now lookupSync s.current).sum sel
  rw [sumOfEntries_snapshot] at hwritten
  change (writeSnapshot order now lookupSync s.db s.current).sum sel + Snapshot.sum sel {} = _
  rw [hwritten]
  exact add_zero _

/-- What one call reports for a path and a host. -/
def share (path : String) (host : IPAddress) (pending : List Op) : Op → WBytes × WBytes
  | .updateAppStats appId p h i o =>
    if ofApp path host ((recordedPath pending appId).getD p) (some (getBytesVector h)) then (i, o)
    else 0
  | _ => 0

theorem reported_cons (path : String) (host : IPAddress) (pending : List Op) (op : Op)
    (ops : List Op) : reported path host pending (op :: ops) =
      share path host pending op + reported path host (pendingAfter pending op) ops := by
  cases op with
  | updateAppStats => rfl
  | updateFilterStats => exact (zero_add _).symm
  | makeSnapshot => exact (zero_add _).symm

/-- What one call reports for a filter. -/
def filterShare (filterName : String) : Op → WBytes × WBytes
  | .updateFilterStats name i o => if name = filterName then (i, o) else 0
  | _ => 0

theorem reportedFilter_cons (filterName : String) (op : Op) (ops : List Op) :
    reportedFilter filterName (op :: ops) =
      filterShare filterName op + reportedFilter filterName ops := by
  cases op with
  | updateFilterStats => rfl
  | updateAppStats => exact (zero_add _).symm
  | makeSnapshot => exact (zero_add _).symm

theorem appBytes_step (path : String) (host : IPAddress) {s : State} {pending : List Op}
    (h : Conserving s pending) {op : Op} (hop : op.HasPath) :
    (s.step order op).db.appBytes path host + (s.step order op).current.appBytes path host =
      s.db.appBytes path host + s.current.appBytes path host + share path host pending op := by
  cases op with
  | makeSnapshot now lookupSync =>
    exact (sum_makeSnapshot order (ofApp path host) h.sound now lookupSync).trans
      (add_zero _).symm
  | updateFilterStats name i o =>
    have hsum := sum_updateFilterStats (ofApp path host) s.current name i o
    rw [if_neg (by simp [ofApp])] at hsum
    rw [add_assoc]
    exact congrArg (s.db.appBytes path host + ·) hsum
  | updateAppStats appId p q i o =>
    have hsum := sum_updateAppStats (ofApp path host) h.named appId hop q i o
    rw [h.recorded] at hsum
    rw [add_assoc]
    exact congrArg (s.db.appBytes path host + ·) hsum

theorem filterBytes_step (name : String) {s : State} {pending : List Op}
    (h : Conserving s pending) {op : Op} (hop : op.HasPath) :
    (s.step order op).db.filterBytes name + (s.step order op).current.filterBytes name =
      s.db.filterBytes name + s.current.filterBytes name + filterShare name op := by
  cases op with
  | makeSnapshot now lookupSync =>
    exact (sum_makeSnapshot order (ofFilter name) h.sound now lookupSync).trans (add_zero _).symm
  | updateFilterStats n i o =>
    have hsum : (s.step order (.updateFilterStats n i o)).current.filterBytes name =
        s.current.filterBytes name + if n = name then (i, o) else 0 := by
      refine (sum_updateFilterStats (ofFilter name) s.current n i o).trans ?_
      simp [ofFilter, Snapshot.filterBytes]
    rw [add_assoc]
    exact congrArg (s.db.filterBytes name + ·) hsum
  | updateAppStats appId p q i o =>
    have hsum := sum_updateAppStats (ofFilter name) h.named appId hop q i o
    rw [if_neg (by simp [ofFilter])] at hsum
    rw [add_assoc]
    exact congrArg (s.db.filterBytes name + ·) hsum

/-- What every call adds to the rows and the snapshot adds up over a run. `given` says what a call
adds, and `total` what the calls of a list do, where the updates since the last snapshot matter. -/
theorem conserving_run {given : List Op → Op → WBytes × WBytes}
    {total : List Op → List Op → WBytes × WBytes} (hnil : ∀ pending, total pending [] = 0)
    (hcons : ∀ pending op ops,
      total pending (op :: ops) = given pending op + total (pendingAfter pending op) ops)
    (hstep : ∀ {s : State} {pending : List Op}, Conserving s pending → ∀ {op : Op}, op.HasPath →
      (s.step order op).db.sum sel + (s.step order op).current.sum sel =
        s.db.sum sel + s.current.sum sel + given pending op) :
    ∀ (ops pending : List Op) {s : State}, Conserving s pending → (∀ op ∈ ops, op.HasPath) →
      (run (State.step order) s ops).db.Sound ∧
      (run (State.step order) s ops).db.sum sel + (run (State.step order) s ops).current.sum sel =
        s.db.sum sel + s.current.sum sel + total pending ops := by
  intro ops
  induction ops with
  | nil =>
    intro pending s h _
    exact ⟨h.sound, by rw [hnil]; exact (add_zero _).symm⟩
  | cons op ops ih =>
    intro pending s h hops
    obtain ⟨hop, hrest⟩ := List.forall_mem_cons.mp hops
    obtain ⟨hsound, hsum⟩ := ih _ (h.step order hop) hrest
    rw [run_cons]
    refine ⟨hsound, ?_⟩
    rw [hsum, hstep h hop, hcons, add_assoc]

theorem conserving_start : Conserving {} [] where
  sound := by constructor <;> simp
  recorded _ := rfl
  named _ hempty := nomatch hempty

/-- **Traffic is conserved.** After every run with non-empty paths the rows and the current snapshot
make up what was reported, for every path and host and for every filter, and no address and no name
has two rows. What was reported for a path is all that came with it, when no application changes its
path within a snapshot. -/
theorem conserved (ops : List Op) (hops : ∀ op ∈ ops, op.HasPath) :
    let s := run (State.step order) {} ops
    (∀ path host, s.db.appBytes path host + s.current.appBytes path host =
      reported path host [] ops) ∧
    (KeepsPaths [] ops → ∀ path host, reported path host [] ops = amounts path host ops) ∧
    (∀ name, s.db.filterBytes name + s.current.filterBytes name = reportedFilter name ops) ∧
    (s.db.hosts.map (·.ipAddress)).Nodup ∧ (s.db.trafficItems.map (·.name)).Nodup := by
  have hpaths := fun path host => conserving_run order (ofApp path host) (fun _ => rfl)
    (reported_cons path host) (appBytes_step order path host) ops [] conserving_start hops
  have hfilters := fun name => conserving_run order (ofFilter name) (fun _ => rfl)
    (fun _ => reportedFilter_cons name) (filterBytes_step order name) ops [] conserving_start hops
  have hsound := (hfilters "").1
  exact ⟨fun path host => (hpaths path host).2.trans (zero_add _),
    fun hkeeps path host => reported_eq_amounts path host ops [] hkeeps,
    fun name => (hfilters name).2.trans (zero_add _), hsound.hostBytes, hsound.itemNames⟩

/-- An application whose path is known from the second snapshot on, and a filter. -/
def pathKnownLater : List Op :=
  [.updateAppStats 7 "firefox" (.ipv4 #v[1, 0, 0, 1]) 10 0, .updateFilterStats "LAN" 10 0,
    .makeSnapshot 60 fun _ => none,
    .updateAppStats 7 "/usr/lib/firefox/firefox" (.ipv4 #v[1, 0, 0, 1]) 5 0,
    .updateAppStats 7 "/usr/lib/firefox/firefox" (.ipv4 #v[1, 0, 0, 1]) 0 8,
    .makeSnapshot 120 fun _ => none]

theorem conserved_pathKnownLater :
    let s := run (State.step .stored) {} pathKnownLater
    (∀ path host, s.db.appBytes path host + s.current.appBytes path host =
      amounts path host pathKnownLater) ∧
    (∀ name, s.db.filterBytes name + s.current.filterBytes name =
      reportedFilter name pathKnownLater) ∧
    (s.db.hosts.map (·.ipAddress)).Nodup ∧ (s.db.trafficItems.map (·.name)).Nodup := by
  obtain ⟨hpaths, hamounts, hrest⟩ := conserved .stored pathKnownLater (by decide)
  have hkeeps : KeepsPaths [] pathKnownLater := by decide
  exact ⟨fun path host => (hpaths path host).trans (hamounts hkeeps path host), hrest⟩

/-- Traffic of one application, before and after its path is known, and a snapshot. -/
def upgradedPath : List Op :=
  [.updateAppStats 7 "firefox" (.ipv4 #v[1, 0, 0, 1]) 10 0,
    .updateAppStats 7 "/usr/lib/firefox/firefox" (.ipv4 #v[1, 0, 0, 1]) 5 0,
    .makeSnapshot 60 fun _ => none]

/-- What is reported for the path that the application gets within the snapshot is recorded under
the one it had. -/
theorem upgradedPath_recorded :
    let s := run (State.step .stored) {} upgradedPath
    s.db.appBytes "/usr/lib/firefox/firefox" (.ipv4 #v[1, 0, 0, 1]) +
        s.current.appBytes "/usr/lib/firefox/firefox" (.ipv4 #v[1, 0, 0, 1]) ≠
      amounts "/usr/lib/firefox/firefox" (.ipv4 #v[1, 0, 0, 1]) upgradedPath := by
  decide

end Waechter.StatsManager
