import Mathlib.Data.List.Induction
import Waechter.Daemon.StatsManager

/-!
# Totals of the system

What a request for the whole system returns after a run of `UpdateAppStats`, `UpdateFilterStats` and
`MakeSnapshot`. Applications and filters describe the same traffic: every byte is counted for its
application and once more for the filters it matches (`WSystemMap::RefreshAllTrafficCounters`).

* `samples_run`: the rows after a run are those of the snapshots that were taken in it, with the
  updates since the snapshot before.
* `systemTotals_iff`: the total is what the rows of applications add up to exactly when no snapshot
  of the range was taken after an update of a filter.
-/

namespace Waechter.StatsManager

open Lib

/-! ## Runs -/

/-- The manager and its database. -/
structure State where
  current : Snapshot := {}
  db : Db := {}

inductive Op where
  | updateFilterStats (filterName : String) (bytesIn bytesOut : WBytes)
  | updateAppStats (appId : TrafficItemId) (applicationPath : String) (remoteHost : IPAddress)
      (bytesIn bytesOut : WBytes)
  | makeSnapshot (now : Sec) (lookupSync : IPAddress → Option AsnLookupResult)

/-- What an update adds to the current snapshot. -/
def Snapshot.update (s : Snapshot) : Op → Snapshot
  | .updateFilterStats name bytesIn bytesOut => updateFilterStats s name bytesIn bytesOut
  | .updateAppStats appId path host bytesIn bytesOut =>
    updateAppStats s appId path host bytesIn bytesOut
  | .makeSnapshot _ _ => s

variable (order : IterOrder)

def State.step (s : State) : Op → State
  | .makeSnapshot now lookupSync =>
    { current := {}, db := writeSnapshot order now lookupSync s.db s.current }
  | op => { s with current := s.current.update op }

/-- A snapshot that was taken: when, and the updates since the one before. -/
structure Interval where
  time : Sec
  updates : List Op

/-- The snapshots of a run, `pending` being the updates since the last one. -/
def intervals (pending : List Op) : List Op → List Interval
  | [] => []
  | .makeSnapshot now _ :: ops => { time := now, updates := pending } :: intervals [] ops
  | op :: ops => intervals (pending ++ [op]) ops

/-- The snapshot that holds the updates. -/
def snapshotOf (updates : List Op) : Snapshot := updates.foldl Snapshot.update {}

/-! ## The rows of a snapshot -/

/-- What a row says: whether it is one of an application, and the bytes. -/
structure Sample where
  isApp : Bool
  bytesIn : WBytes
  bytesOut : WBytes

def TrafficEventRow.sample (te : TrafficEventRow) : Sample :=
  { isApp := te.hostId.isSome, bytesIn := te.bytesIn.toNat, bytesOut := te.bytesOut.toNat }

/-- The rows of an application. -/
def ItemStats.samples (app : ItemStats) : List Sample :=
  if app.applicationPath = "" then []
  else (order.entries app.traffic).map fun e =>
    { isApp := true, bytesIn := e.2.bytesIn, bytesOut := e.2.bytesOut }

/-- The rows of the filters. -/
def Snapshot.filterSamples (s : Snapshot) : List Sample :=
  (order.entries s.filters).map fun e =>
    { isApp := false, bytesIn := e.2.bytesIn, bytesOut := e.2.bytesOut }

/-- The rows of a snapshot. -/
def Snapshot.samples (s : Snapshot) : List Sample :=
  (order.values s.apps).flatMap (ItemStats.samples order) ++ s.filterSamples order

/-- The rows of the database. -/
def Db.samples (db : Db) : List (Sec × Sample) := db.events.map fun row => (row.1, row.2.sample)

/-- `db'` has the rows `l` of the snapshot `id` in addition. -/
structure Wrote (id : Int) (db db' : Db) (l : List Sample) : Prop where
  snapshots : db'.trafficSnapshots = db.trafficSnapshots
  events : ∃ tes, db'.trafficEvents = db.trafficEvents ++ tes ∧ (∀ te ∈ tes, te.snapshotId = id) ∧
    tes.map TrafficEventRow.sample = l

namespace Wrote

variable {id : Int} {db db' db'' : Db} {l l' : List Sample}

theorem refl (id : Int) (db : Db) : Wrote id db db [] :=
  ⟨rfl, [], by simp⟩

theorem trans (h : Wrote id db db' l) (h' : Wrote id db' db'' l') : Wrote id db db'' (l ++ l') := by
  obtain ⟨tes, htes, hid, rfl⟩ := h.events
  obtain ⟨tes', htes', hid', rfl⟩ := h'.events
  refine ⟨h'.snapshots.trans h.snapshots, tes ++ tes', ?_, ?_, List.map_append⟩
  · rw [htes', htes, List.append_assoc]
  · intro te hte
    rcases List.mem_append.mp hte with hte | hte
    · exact hid te hte
    · exact hid' te hte

/-- A loop writes what its turns write. -/
theorem foldl {α : Type} {f : Db → α → Db} {g : α → List Sample}
    (h : ∀ db x, Wrote id db (f db x) (g x)) : ∀ (xs : List α) (db : Db),
    Wrote id db (xs.foldl f db) (xs.flatMap g)
  | [], db => refl id db
  | x :: xs, db => (h db x).trans (foldl h xs (f db x))

/-- A loop whose turns write one row each. -/
theorem foldl_map {α : Type} {f : Db → α → Db} {g : α → Sample}
    (h : ∀ db x, Wrote id db (f db x) [g x]) (xs : List α) (db : Db) :
    Wrote id db (xs.foldl f db) (xs.map g) := by
  rw [List.map_eq_flatMap]
  exact foldl h xs db

end Wrote

theorem wrote_findOrInsertItem (id : Int) (db : Db) (name : String) :
    Wrote id db (db.findOrInsertItem name).2 [] := by
  unfold Db.findOrInsertItem
  split
  · exact Wrote.refl id db
  · exact ⟨rfl, [], by simp⟩

theorem wrote_findOrInsertAsn (id : Int) (db : Db) (asn : AsnLookupResult) :
    Wrote id db (db.findOrInsertAsn asn).2 [] := by
  unfold Db.findOrInsertAsn
  split
  · exact Wrote.refl id db
  · exact ⟨rfl, [], by simp⟩

theorem wrote_findOrInsertHost (id : Int) (db : Db) (ip : IPAddress) (asnId : Int) :
    Wrote id db (db.findOrInsertHost ip asnId).2 [] := by
  unfold Db.findOrInsertHost
  split
  · exact Wrote.refl id db
  · exact ⟨rfl, [], by simp⟩

theorem wrote_insertEvent (id : Int) (db : Db) (itemId : Int) (hostId : Option Int)
    (traffic : TrafficStats) :
    Wrote id db (db.insertEvent id itemId hostId traffic)
      [{ isApp := hostId.isSome, bytesIn := traffic.bytesIn, bytesOut := traffic.bytesOut }] :=
  ⟨rfl, _, rfl, by simp, rfl⟩

theorem wrote_writeTraffic (lookupSync : IPAddress → Option AsnLookupResult) (id itemId : Int)
    (db : Db) (e : IPAddress × TrafficStats) :
    Wrote id db (writeTraffic lookupSync id itemId db e)
      [{ isApp := true, bytesIn := e.2.bytesIn, bytesOut := e.2.bytesOut }] := by
  unfold writeTraffic
  cases lookupSync e.1 with
  | some asn =>
    exact (wrote_findOrInsertAsn id db asn).trans
      ((wrote_findOrInsertHost id _ _ _).trans (wrote_insertEvent id _ _ _ _))
  | none => exact (wrote_findOrInsertHost id db _ _).trans (wrote_insertEvent id _ _ _ _)

theorem wrote_writeApp (lookupSync : IPAddress → Option AsnLookupResult) (id : Int) (db : Db)
    (app : ItemStats) :
    Wrote id db (writeApp order lookupSync id db app) (app.samples order) := by
  unfold writeApp ItemStats.samples
  split
  · exact Wrote.refl id db
  · exact (wrote_findOrInsertItem id db app.applicationPath).trans
      (Wrote.foldl_map (wrote_writeTraffic lookupSync id _) (order.entries app.traffic) _)

theorem wrote_writeFilter (id : Int) (db : Db) (e : String × TrafficStats) :
    Wrote id db (writeFilter id db e)
      [{ isApp := false, bytesIn := e.2.bytesIn, bytesOut := e.2.bytesOut }] :=
  (wrote_findOrInsertItem id db e.1).trans (wrote_insertEvent id _ _ _ _)

/-! ## The rows of a run -/

theorem lt_nextId {ids : List Int} {id : Int} (h : id ∈ ids) : id < nextId ids := by
  have hle : id ≤ ids.foldr max 0 := by
    induction ids with
    | nil => exact absurd h List.not_mem_nil
    | cons i ids ih =>
      rcases List.mem_cons.mp h with rfl | h
      · exact le_max_left _ _
      · exact le_trans (ih h) (le_max_right _ _)
  unfold nextId
  omega

/-- Every event belongs to a snapshot in the table. -/
def Db.Linked (db : Db) : Prop :=
  ∀ te ∈ db.trafficEvents, te.snapshotId ∈ db.trafficSnapshots.map (·.id)

/-- The join of the tables with a new snapshot and its events. -/
theorem events_append {db db' : Db} {id : Int} {now : Sec} {tes : List TrafficEventRow}
    (hsnapshots : db'.trafficSnapshots = db.trafficSnapshots ++ [{ id, start := now }])
    (hevents : db'.trafficEvents = db.trafficEvents ++ tes)
    (hfresh : ∀ ts ∈ db.trafficSnapshots, ts.id < id) (hlinked : db.Linked)
    (hid : ∀ te ∈ tes, te.snapshotId = id) :
    db'.events = db.events ++ tes.map fun te => (now, te) := by
  unfold Db.events
  rw [hevents, hsnapshots, List.flatMap_append, List.map_eq_flatMap]
  congr 1
  · refine List.flatMap_congr fun te hte => ?_
    obtain ⟨ts, hts, hid⟩ := List.mem_map.mp (hlinked te hte)
    have hne : te.snapshotId ≠ id := by
      have hlt := hfresh ts hts
      omega
    rw [List.filter_append, List.filter_cons_of_neg (by simpa using hne), List.filter_nil,
      List.append_nil]
  · refine List.flatMap_congr fun te hte => ?_
    have hold : db.trafficSnapshots.filter (te.snapshotId = ·.id) = [] :=
      List.filter_eq_nil_iff.mpr fun ts hts heq => by
        have hlt := hfresh ts hts
        have heq' := of_decide_eq_true heq
        rw [hid te hte] at heq'
        omega
    rw [List.filter_append, hold, List.filter_cons_of_pos (by simpa using hid te hte)]
    rfl

/-- **A snapshot adds its rows to the database.** -/
theorem samples_writeSnapshot (now : Sec) (lookupSync : IPAddress → Option AsnLookupResult)
    {db : Db} (hlinked : db.Linked) (s : Snapshot) :
    (writeSnapshot order now lookupSync db s).Linked ∧
      (writeSnapshot order now lookupSync db s).samples =
        db.samples ++ (s.samples order).map fun x => (now, x) := by
  set id := nextId (db.trafficSnapshots.map (·.id)) with hid
  set db₁ : Db := { db with
    trafficSnapshots := db.trafficSnapshots ++ [{ id, start := now }] } with hdb₁
  have hwrote : Wrote id db₁ (writeSnapshot order now lookupSync db s) (s.samples order) :=
    (Wrote.foldl (wrote_writeApp order lookupSync id) (order.values s.apps) db₁).trans
      (Wrote.foldl_map (wrote_writeFilter id) (order.entries s.filters) _)
  obtain ⟨hsnapshots, tes, htes, hids, hsamples⟩ := hwrote
  constructor
  · intro te hte
    rw [hsnapshots, hdb₁, List.map_append, List.mem_append]
    rw [htes, List.mem_append] at hte
    rcases hte with hte | hte
    · exact .inl (hlinked te hte)
    · exact .inr (List.mem_singleton.mpr (hids te hte))
  · have hfresh : ∀ ts ∈ db.trafficSnapshots, ts.id < id := fun ts hts =>
      lt_nextId (List.mem_map.mpr ⟨ts, hts, rfl⟩)
    unfold Db.samples
    rw [events_append hsnapshots htes hfresh hlinked hids, List.map_append, List.map_map,
      ← hsamples, List.map_map]
    rfl

/-- **The rows after a run** are those of the snapshots that were taken in it. -/
theorem samples_run : ∀ (ops pending : List Op) {s : State}, s.current = snapshotOf pending →
    s.db.Linked →
    (run (State.step order) s ops).db.samples = s.db.samples ++
      (intervals pending ops).flatMap fun i =>
        ((snapshotOf i.updates).samples order).map fun x => (i.time, x)
  | [], _, s, _, _ => by simp [intervals]
  | .makeSnapshot now lookupSync :: ops, pending, s, hcurrent, hlinked => by
    obtain ⟨hlinked', hsamples⟩ := samples_writeSnapshot order now lookupSync hlinked s.current
    rw [run_cons, samples_run ops [] rfl hlinked']
    simp only [State.step, intervals, List.flatMap_cons]
    rw [hsamples, hcurrent, List.append_assoc]
  | .updateFilterStats name i o :: ops, pending, s, hcurrent, hlinked => by
    have hnext : (State.step order s (.updateFilterStats name i o)).current =
        snapshotOf (pending ++ [.updateFilterStats name i o]) := by
      unfold snapshotOf
      rw [List.foldl_concat, ← snapshotOf, ← hcurrent]
      rfl
    rw [run_cons, samples_run ops _ hnext hlinked]
    rfl
  | .updateAppStats appId path host i o :: ops, pending, s, hcurrent, hlinked => by
    have hnext : (State.step order s (.updateAppStats appId path host i o)).current =
        snapshotOf (pending ++ [.updateAppStats appId path host i o]) := by
      unfold snapshotOf
      rw [List.foldl_concat, ← snapshotOf, ← hcurrent]
      rfl
    rw [run_cons, samples_run ops _ hnext hlinked]
    rfl

/-! ## Which rows a snapshot has -/

/-- An update with bytes: of a filter, or of an application with a path. -/
def Op.Counts (isApp : Bool) : Op → Prop
  | .updateFilterStats _ bytesIn bytesOut => isApp = false ∧ ¬(bytesIn = 0 ∧ bytesOut = 0)
  | .updateAppStats _ path _ bytesIn bytesOut =>
    isApp = true ∧ path ≠ "" ∧ ¬(bytesIn = 0 ∧ bytesOut = 0)
  | .makeSnapshot _ _ => False

/-- The entry holds bytes. -/
def TrafficStats.Counted (t : TrafficStats) : Prop := ¬(t.bytesIn = 0 ∧ t.bytesOut = 0)

/-- Every entry of a snapshot holds bytes, and the applications have entries. -/
structure Snapshot.Counted (s : Snapshot) : Prop where
  filters : ∀ name t, s.filters.lookup name = some t → t.Counted
  traffic : ∀ appId app ip t, s.apps.lookup appId = some app → app.traffic.lookup ip = some t →
    t.Counted
  apps : ∀ appId app, s.apps.lookup appId = some app → ∃ ip t, app.traffic.lookup ip = some t

/-- The snapshot has a row of the kind. -/
def Snapshot.Has (s : Snapshot) : Bool → Prop
  | false => ∃ name t, s.filters.lookup name = some t
  | true => ∃ appId app, s.apps.lookup appId = some app ∧ app.applicationPath ≠ ""

theorem counted_add {t : TrafficStats} {bytesIn bytesOut : WBytes}
    (h : ¬(bytesIn = 0 ∧ bytesOut = 0)) :
    TrafficStats.Counted { bytesIn := t.bytesIn + bytesIn, bytesOut := t.bytesOut + bytesOut } := by
  rintro ⟨hin, hout⟩
  exact h ⟨(Nat.add_eq_zero_iff.mp hin).2, (Nat.add_eq_zero_iff.mp hout).2⟩

section Update

variable {s : Snapshot} {bytesIn bytesOut : WBytes}

/-- The entry of a filter after an update. -/
theorem updateFilterStats_eq (name : String) (h : ¬(bytesIn = 0 ∧ bytesOut = 0)) :
    ∃ t : TrafficStats, t.Counted ∧ updateFilterStats s name bytesIn bytesOut =
      { s with filters := s.filters.insert name t } := by
  unfold updateFilterStats
  rw [if_neg h]
  split
  · exact ⟨_, counted_add h, rfl⟩
  · exact ⟨{ bytesIn, bytesOut }, h, rfl⟩

/-- The entry of an application after an update. -/
theorem updateAppStats_eq (hs : s.Counted) (appId : TrafficItemId) (path : String)
    (host : IPAddress) (h : ¬(bytesIn = 0 ∧ bytesOut = 0)) :
    ∃ app : ItemStats, (∀ ip t, app.traffic.lookup ip = some t → t.Counted) ∧
      (∃ ip t, app.traffic.lookup ip = some t) ∧
      (app.applicationPath ≠ "" ↔
        (∃ old, s.apps.lookup appId = some old ∧ old.applicationPath ≠ "") ∨ path ≠ "") ∧
      updateAppStats s appId path host bytesIn bytesOut =
        { s with apps := s.apps.insert appId app } := by
  unfold updateAppStats
  rw [if_neg h]
  cases happ : s.apps.lookup appId with
  | none =>
    refine ⟨_, fun ip t ht => ?_, ⟨host, _, AList.lookup_insert _⟩, ?_, rfl⟩
    · rw [UMap.lookup_insert_ite] at ht
      split at ht
      · cases ht
        exact h
      · cases ht
    · simp
  | some app =>
    refine ⟨_, fun ip t ht => ?_, ⟨host, _, AList.lookup_insert _⟩, ?_, rfl⟩
    · simp only [UMap.lookup_insert_ite] at ht
      split at ht
      · cases ht
        cases app.traffic.lookup host with
        | some old => exact counted_add h
        | none => exact h
      · exact hs.traffic appId app ip t happ ht
    · by_cases hpath : app.applicationPath = "" <;> simp [hpath]

theorem counted_updateFilterStats (hs : s.Counted) (name : String) :
    (updateFilterStats s name bytesIn bytesOut).Counted := by
  by_cases h : bytesIn = 0 ∧ bytesOut = 0
  · rw [updateFilterStats, if_pos h]
    exact hs
  · obtain ⟨t, ht, heq⟩ := updateFilterStats_eq (s := s) name h
    rw [heq]
    refine ⟨fun q t' hq => ?_, hs.traffic, hs.apps⟩
    rw [UMap.lookup_insert_ite] at hq
    split at hq
    · cases hq
      exact ht
    · exact hs.filters q t' hq

theorem counted_updateAppStats (hs : s.Counted) (appId : TrafficItemId) (path : String)
    (host : IPAddress) : (updateAppStats s appId path host bytesIn bytesOut).Counted := by
  by_cases h : bytesIn = 0 ∧ bytesOut = 0
  · rw [updateAppStats, if_pos h]
    exact hs
  · obtain ⟨app, htraffic, hentry, -, heq⟩ := updateAppStats_eq hs appId path host h
    rw [heq]
    refine ⟨hs.filters, fun q app' ip t hq ht => ?_, fun q app' hq => ?_⟩
    · rw [UMap.lookup_insert_ite] at hq
      split at hq
      · cases hq
        exact htraffic ip t ht
      · exact hs.traffic q app' ip t hq ht
    · rw [UMap.lookup_insert_ite] at hq
      split at hq
      · cases hq
        exact hentry
      · exact hs.apps q app' hq

theorem has_updateFilterStats (name : String) (isApp : Bool) :
    (updateFilterStats s name bytesIn bytesOut).Has isApp ↔
      s.Has isApp ∨ (isApp = false ∧ ¬(bytesIn = 0 ∧ bytesOut = 0)) := by
  by_cases h : bytesIn = 0 ∧ bytesOut = 0
  · rw [updateFilterStats, if_pos h]
    simp [h]
  · obtain ⟨t, -, heq⟩ := updateFilterStats_eq (s := s) name h
    rw [heq]
    cases isApp with
    | true => simp [Snapshot.Has]
    | false => exact iff_of_true ⟨name, t, AList.lookup_insert _⟩ (.inr ⟨rfl, h⟩)

theorem has_updateAppStats (hs : s.Counted) (appId : TrafficItemId) (path : String)
    (host : IPAddress) (isApp : Bool) :
    (updateAppStats s appId path host bytesIn bytesOut).Has isApp ↔
      s.Has isApp ∨ (isApp = true ∧ path ≠ "" ∧ ¬(bytesIn = 0 ∧ bytesOut = 0)) := by
  by_cases h : bytesIn = 0 ∧ bytesOut = 0
  · rw [updateAppStats, if_pos h]
    simp [h]
  · obtain ⟨app, -, -, hpath, heq⟩ := updateAppStats_eq hs appId path host h
    rw [heq]
    cases isApp with
    | false => simp [Snapshot.Has]
    | true =>
      simp only [Snapshot.Has, UMap.lookup_insert_ite, true_and, and_iff_left h]
      constructor
      · rintro ⟨q, app', hq, hne⟩
        split at hq
        · cases hq
          rcases hpath.mp hne with ⟨old, hold, hne⟩ | hne
          · exact .inl ⟨appId, old, hold, hne⟩
          · exact .inr hne
        · exact .inl ⟨q, app', hq, hne⟩
      · rintro (⟨q, app', hq, hne⟩ | hne)
        · by_cases hqa : q = appId
          · refine ⟨appId, app, if_pos rfl, hpath.mpr (.inl ⟨app', ?_, hne⟩)⟩
            rw [← hqa]
            exact hq
          · exact ⟨q, app', (if_neg hqa).trans hq, hne⟩
        · exact ⟨appId, app, if_pos rfl, hpath.mpr (.inr hne)⟩

end Update

/-- One update: the entries keep holding bytes, and the update adds the row it counts for. -/
theorem update_spec {s : Snapshot} (hs : s.Counted) (op : Op) :
    (s.update op).Counted ∧ ∀ isApp, (s.update op).Has isApp ↔ s.Has isApp ∨ op.Counts isApp := by
  cases op with
  | updateFilterStats name i o =>
    exact ⟨counted_updateFilterStats hs name, has_updateFilterStats name⟩
  | updateAppStats appId path host i o =>
    exact ⟨counted_updateAppStats hs appId path host, has_updateAppStats hs appId path host⟩
  | makeSnapshot now lookupSync => exact ⟨hs, fun _ => (or_iff_left not_false).symm⟩

/-- **A snapshot has a row of a kind exactly when one of its updates counts for it.** -/
theorem snapshotOf_spec (updates : List Op) :
    (snapshotOf updates).Counted ∧
      ∀ isApp, (snapshotOf updates).Has isApp ↔ ∃ u ∈ updates, u.Counts isApp := by
  induction updates using List.reverseRecOn with
  | nil =>
    refine ⟨⟨fun _ _ h => ?_, fun _ _ _ _ h => ?_, fun _ _ h => ?_⟩, fun isApp => ?_⟩
    · cases h
    · cases h
    · cases h
    · cases isApp <;> simp [snapshotOf, Snapshot.Has]
  | append_singleton updates op ih =>
    obtain ⟨hcounted, hhas⟩ := ih
    obtain ⟨hcounted', hhas'⟩ := update_spec hcounted op
    unfold snapshotOf at hcounted' hhas' hhas ⊢
    rw [List.foldl_concat]
    refine ⟨hcounted', fun isApp => ?_⟩
    rw [hhas' isApp, hhas isApp]
    simp [or_and_right, exists_or]

/-- The rows of a snapshot hold bytes. -/
theorem samples_counted {s : Snapshot} (hs : s.Counted) :
    ∀ x ∈ s.samples order, ¬(x.bytesIn = 0 ∧ x.bytesOut = 0) := by
  intro x hx
  unfold Snapshot.samples Snapshot.filterSamples at hx
  rcases List.mem_append.mp hx with hx | hx
  · obtain ⟨app, happ, hx⟩ := List.mem_flatMap.mp hx
    obtain ⟨appId, happ⟩ := (order.mem_values _ _).mp happ
    unfold ItemStats.samples at hx
    split at hx
    · exact absurd hx List.not_mem_nil
    · obtain ⟨e, he, rfl⟩ := List.mem_map.mp hx
      exact hs.traffic appId app e.1 e.2 happ ((order.mem_entries _ _ _).mp he)
  · obtain ⟨e, he, rfl⟩ := List.mem_map.mp hx
    exact hs.filters e.1 e.2 ((order.mem_entries _ _ _).mp he)

/-- A snapshot has a row of a kind when it has an entry for one. -/
theorem exists_sample_iff {s : Snapshot} (hs : s.Counted) (isApp : Bool) :
    (∃ x ∈ s.samples order, x.isApp = isApp) ↔ s.Has isApp := by
  unfold Snapshot.samples Snapshot.filterSamples
  constructor
  · rintro ⟨x, hx, rfl⟩
    rcases List.mem_append.mp hx with hx | hx
    · obtain ⟨app, happ, hx⟩ := List.mem_flatMap.mp hx
      obtain ⟨appId, happ⟩ := (order.mem_values _ _).mp happ
      unfold ItemStats.samples at hx
      split at hx
      · exact absurd hx List.not_mem_nil
      · rename_i hpath
        obtain ⟨e, -, rfl⟩ := List.mem_map.mp hx
        exact ⟨appId, app, happ, hpath⟩
    · obtain ⟨e, he, rfl⟩ := List.mem_map.mp hx
      exact ⟨e.1, e.2, (order.mem_entries _ _ _).mp he⟩
  · intro h
    cases isApp with
    | false =>
      obtain ⟨name, t, ht⟩ := h
      exact ⟨_, List.mem_append_right _
        (List.mem_map.mpr ⟨(name, t), (order.mem_entries _ _ _).mpr ht, rfl⟩), rfl⟩
    | true =>
      obtain ⟨appId, app, happ, hpath⟩ := h
      obtain ⟨ip, t, ht⟩ := hs.apps appId app happ
      refine ⟨{ isApp := true, bytesIn := t.bytesIn, bytesOut := t.bytesOut },
        List.mem_append_left _ (List.mem_flatMap.mpr
          ⟨app, (order.mem_values _ _).mpr ⟨appId, happ⟩, ?_⟩), rfl⟩
      unfold ItemStats.samples
      rw [if_neg hpath]
      exact List.mem_map.mpr ⟨(ip, t), (order.mem_entries _ _ _).mpr ht, rfl⟩

/-! ## The total of the system -/

/-- The bytes of the rows of applications in the range. -/
def Db.applicationBytes (db : Db) (request : StatsRequest) : WBytes × WBytes :=
  (((db.eventsOf request).filter (·.2.hostId.isSome)).map (·.2.bytes)).sum

/-- A request is answered with the bytes of the applications, each counted once. -/
def TotalsOnce (fromString : String → Option IPAddress) (db : Db) (request : StatsRequest) : Prop :=
  ∃ response, processStatsRequest fromString db request = some response ∧
    response.total = db.applicationBytes request

/-- No snapshot of the range was taken after an update of a filter. A range that ends at the epoch
or before it is answered without buckets, so that none may have been taken after an update of an
application either. -/
def FiltersQuiet (ops : List Op) (startTime endTime : Sec) : Prop :=
  ∀ i ∈ intervals [] ops, startTime < i.time → i.time ≤ endTime →
    ∀ u ∈ i.updates, ¬u.Counts (endTime < 1)

def Sample.bytes (x : Sample) : WBytes × WBytes := (x.bytesIn, x.bytesOut)

/-- Rows that hold bytes add up to nothing only when there are none. -/
theorem sum_bytes_eq_zero : ∀ {l : List Sample}, (∀ x ∈ l, ¬(x.bytesIn = 0 ∧ x.bytesOut = 0)) →
    ((l.map Sample.bytes).sum = 0 ↔ l = [])
  | [], _ => by simp
  | x :: l, h => by
    rw [List.map_cons, List.sum_cons]
    refine iff_of_false (fun hsum => ?_) (List.cons_ne_nil x l)
    have hin := congrArg Prod.fst hsum
    have hout := congrArg Prod.snd hsum
    exact h x List.mem_cons_self
      ⟨(Nat.add_eq_zero_iff.mp hin).1, (Nat.add_eq_zero_iff.mp hout).1⟩

/-- The rows of the two kinds. -/
theorem sum_kinds : ∀ l : List Sample, (l.map Sample.bytes).sum =
    ((l.filter (·.isApp)).map Sample.bytes).sum + ((l.filter (!·.isApp)).map Sample.bytes).sum
  | [] => rfl
  | x :: l => by
    rw [List.map_cons, List.sum_cons, sum_kinds l]
    cases hx : x.isApp with
    | true =>
      rw [List.filter_cons_of_pos (by simpa using hx), List.filter_cons_of_neg (by simp [hx]),
        List.map_cons, List.sum_cons, add_assoc]
    | false =>
      rw [List.filter_cons_of_neg (by simp [hx]), List.filter_cons_of_pos (by simp [hx]),
        List.map_cons, List.sum_cons, add_left_comm]

/-- The rows of the range. -/
def Db.window (db : Db) (request : StatsRequest) : List Sample :=
  (db.eventsOf request).map (·.2.sample)

theorem sum_eventsOf (db : Db) (request : StatsRequest) :
    ((db.eventsOf request).map (·.2.bytes)).sum = ((db.window request).map Sample.bytes).sum := by
  unfold Db.window
  rw [List.map_map]
  rfl

theorem applicationBytes_eq (db : Db) (request : StatsRequest) :
    db.applicationBytes request =
      (((db.window request).filter (·.isApp)).map Sample.bytes).sum := by
  unfold Db.applicationBytes Db.window
  rw [List.filter_map, List.map_map]
  rfl

theorem mem_window_iff (db : Db) (request : StatsRequest) (x : Sample) :
    x ∈ db.window request ↔
      ∃ t, (t, x) ∈ db.samples ∧ request.startTime < t ∧ t ≤ request.endTime := by
  unfold Db.window Db.samples Db.eventsOf
  simp only [List.mem_map, List.mem_filter, decide_eq_true_eq, Prod.mk.injEq]
  constructor
  · rintro ⟨row, ⟨hrow, hlo, hhi⟩, rfl⟩
    exact ⟨row.1, ⟨row, hrow, rfl, rfl⟩, hlo, hhi⟩
  · rintro ⟨t, ⟨row, hrow, rfl, rfl⟩, hlo, hhi⟩
    exact ⟨row, ⟨hrow, hlo, hhi⟩, rfl⟩

/-- The rows of the range after a run. -/
theorem mem_window_run (ops : List Op) (request : StatsRequest) (x : Sample) :
    x ∈ (run (State.step order) {} ops).db.window request ↔
      ∃ i ∈ intervals [] ops, request.startTime < i.time ∧ i.time ≤ request.endTime ∧
        x ∈ (snapshotOf i.updates).samples order := by
  have hlinked : (({} : State).db).Linked := fun te hte => absurd hte List.not_mem_nil
  rw [mem_window_iff, samples_run order ops [] rfl hlinked]
  simp only [Db.samples, Db.events, List.flatMap_nil, List.map_nil, List.nil_append,
    List.mem_flatMap, List.mem_map, Prod.mk.injEq]
  constructor
  · rintro ⟨t, ⟨i, hi, y, hy, rfl, rfl⟩, hlo, hhi⟩
    exact ⟨i, hi, hlo, hhi, hy⟩
  · rintro ⟨i, hi, hlo, hhi, hx⟩
    exact ⟨i.time, ⟨i, hi, x, hx, rfl, rfl⟩, hlo, hhi⟩

/-- After a run, the range has no row of a kind exactly when no update in it counts for one. -/
theorem no_sample_iff (ops : List Op) (request : StatsRequest) (isApp : Bool) :
    (∀ x ∈ (run (State.step order) {} ops).db.window request, x.isApp ≠ isApp) ↔
      ∀ i ∈ intervals [] ops, request.startTime < i.time → i.time ≤ request.endTime →
        ∀ u ∈ i.updates, ¬u.Counts isApp := by
  have hsnapshot : ∀ updates : List Op, (∃ u ∈ updates, u.Counts isApp) ↔
      ∃ x ∈ (snapshotOf updates).samples order, x.isApp = isApp := by
    intro updates
    obtain ⟨hcounted, hhas⟩ := snapshotOf_spec updates
    rw [exists_sample_iff order hcounted, hhas]
  constructor
  · intro h i hi hlo hhi u hu hcounts
    obtain ⟨x, hx, hkind⟩ := (hsnapshot i.updates).mp ⟨u, hu, hcounts⟩
    exact h x ((mem_window_run order ops request x).mpr ⟨i, hi, hlo, hhi, hx⟩) hkind
  · intro h x hx hkind
    obtain ⟨i, hi, hlo, hhi, hx⟩ := (mem_window_run order ops request x).mp hx
    obtain ⟨u, hu, hcounts⟩ := (hsnapshot i.updates).mpr ⟨x, hx, hkind⟩
    exact h i hi hlo hhi u hu hcounts

/-- The rows of the range hold bytes. -/
theorem window_counted (ops : List Op) (request : StatsRequest) :
    ∀ x ∈ (run (State.step order) {} ops).db.window request,
      ¬(x.bytesIn = 0 ∧ x.bytesOut = 0) := by
  intro x hx
  obtain ⟨i, -, -, -, hx⟩ := (mem_window_run order ops request x).mp hx
  exact samples_counted order (snapshotOf_spec i.updates).1 x hx

/-- The rows of a kind add up to nothing when there are none of it. -/
theorem sum_filter_eq_zero {l : List Sample} (h : ∀ x ∈ l, ¬(x.bytesIn = 0 ∧ x.bytesOut = 0))
    (p : Sample → Bool) :
    ((l.filter p).map Sample.bytes).sum = 0 ↔ ∀ x ∈ l, ¬p x = true := by
  rw [sum_bytes_eq_zero fun x hx => h x (List.mem_filter.mp hx).1, List.filter_eq_nil_iff]

/-- **The total of the system counts every byte once exactly when the filters are quiet.** -/
theorem systemTotals_iff (fromString : String → Option IPAddress) (ops : List Op)
    (requestId : UInt32) (startTime endTime : Sec) :
    TotalsOnce fromString (run (State.step order) {} ops).db
        (systemRequest requestId startTime endTime) ↔
      FiltersQuiet ops startTime endTime := by
  set db := (run (State.step order) {} ops).db with hdb
  set request := systemRequest requestId startTime endTime with hrequest
  have hcounted := window_counted order ops request
  have htotal : TotalsOnce fromString db request ↔
      (if 1 ≤ endTime then ((db.window request).map Sample.bytes).sum else 0) =
        (((db.window request).filter (·.isApp)).map Sample.bytes).sum := by
    unfold TotalsOnce
    rw [applicationBytes_eq, ← sum_eventsOf]
    constructor
    · rintro ⟨response, hresponse, heq⟩
      rw [← total_system fromString db requestId startTime endTime hresponse, heq]
    · intro heq
      refine ⟨_, processStatsRequest_system fromString db requestId startTime endTime, ?_⟩
      rw [total_system fromString db requestId startTime endTime
        (processStatsRequest_system fromString db requestId startTime endTime), ← hrequest, heq]
  rw [htotal]
  unfold FiltersQuiet
  by_cases hend : 1 ≤ endTime
  · have hkind : decide (endTime < 1) = false := decide_eq_false (Int.not_lt.mpr hend)
    rw [if_pos hend, sum_kinds, add_eq_left, sum_filter_eq_zero hcounted, hkind]
    refine Iff.trans ?_ (no_sample_iff order ops request false)
    simp only [Bool.not_eq_true', Bool.not_eq_false, ne_eq]
  · have hkind : decide (endTime < 1) = true := decide_eq_true (Int.not_le.mp hend)
    rw [if_neg hend, eq_comm, sum_filter_eq_zero hcounted, hkind]
    exact no_sample_iff order ops request true

/-- A download of 100 bytes from an Internet address, as one tick reports it, and the snapshot of
the hour. -/
def download : List Op :=
  [.updateFilterStats "Internet" 100 0,
   .updateAppStats 4 "/usr/bin/curl" (({} : IPAddress).fromIPv4Uint32 0x04030201) 100 0,
   .makeSnapshot 3600 fun _ => none]

/-- The hour is answered with 200 bytes: those of the row of the application, and those of the row
of the filter. -/
theorem system_counts_twice :
    ¬TotalsOnce (fun _ => none) (run (State.step IterOrder.stored) {} download).db
      (systemRequest 1 0 86400) := by
  have htotal : (processStatsRequest (fun _ => none)
      (run (State.step IterOrder.stored) {} download).db (systemRequest 1 0 86400)).map
        StatsResponse.total = some (200, 0) := by decide +kernel
  have happ : (run (State.step IterOrder.stored) {} download).db.applicationBytes
      (systemRequest 1 0 86400) = (100, 0) := by decide +kernel
  rintro ⟨response, hresponse, heq⟩
  rw [hresponse, Option.map_some, heq, happ] at htotal
  exact absurd htotal (by decide)

end Waechter.StatsManager
