import Waechter.Daemon.HistoryRequests
import Waechter.Daemon.TrafficConservation
import Waechter.Lib.Run

/-!
# What the database remembers of connections

`WConnectionHistory::WriteToDatabase` (`Data/ConnectionHistory.cpp`) writes the past connections that
`WStatsManager::ProcessHistoryRequest` (`Db/StatsManager.cpp`) reads. The table keeps an application
and a host by their key. `MakeSnapshot` inserts into the same tables of applications, hosts and
autonomous systems, so the rows that are there when a connection is written may be from either.

A host gets the autonomous system that is looked up when the host is inserted, and keeps it; an
address of an unknown family comes back as the zero address of IPv4.

* `Remembers`: the tables against the list of the connections that were written.
* `remembers_run`: they agree after every run of the two writers.
* `paged_run`: what a client gets that pages through the connections of a host, of an application
  or of a country.
-/

namespace Waechter.StatsManager

open Lib

/-- What `WriteToDatabase` reads of an entry of the history and its set. -/
structure PastConnection where
  applicationPath : String
  remoteEndpoint : Endpoint
  startTime : Sec
  endTime : Sec
  dataIn : WBytes := 0
  dataOut : WBytes := 0

/-- `WIP2Asn::LookupSync`. -/
abbrev LookupSync := IPAddress → Option AsnLookupResult

namespace Db

/-- The `AsnID` of a lookup, 0 when it finds nothing. -/
def asnOf (db : Db) : Option AsnLookupResult → Int × Db
  | some asn => db.findOrInsertAsn asn
  | none => (0, db)

/-- The `HostID` in `WriteToDatabase`: only an address that is not there is looked up. -/
def hostOf (lookupSync : LookupSync) (db : Db) (address : IPAddress) : Int × Db :=
  match db.hosts.find? (·.ipAddress = getBytesVector address) with
  | some row => (row.id, db)
  | none =>
    let (asnId, db) := db.asnOf (lookupSync address)
    db.findOrInsertHost address asnId

/-- The families the table of the hosts takes. -/
def Checked (db : Db) : Prop := ∀ host ∈ db.hosts, host.family = 4 ∨ host.family = 6

theorem familyNumber_check (ip : IPAddress) : familyNumber ip = 4 ∨ familyNumber ip = 6 := by
  unfold familyNumber
  cases ip.family with
  | unknown => exact .inl rfl
  | ipv4 => exact .inl rfl
  | ipv6 => exact .inr rfl

@[simp] theorem hosts_findOrInsertItem (db : Db) (name : String) :
    (db.findOrInsertItem name).2.hosts = db.hosts := by
  unfold findOrInsertItem
  split <;> rfl

@[simp] theorem hosts_findOrInsertAsn (db : Db) (asn : AsnLookupResult) :
    (db.findOrInsertAsn asn).2.hosts = db.hosts := by
  unfold findOrInsertAsn
  split <;> rfl

@[simp] theorem hosts_asnOf (db : Db) (result : Option AsnLookupResult) :
    (db.asnOf result).2.hosts = db.hosts := by
  cases result with
  | none => rfl
  | some asn => exact db.hosts_findOrInsertAsn asn

theorem Checked.of_hosts {db db' : Db} (h : db.Checked) (heq : db'.hosts = db.hosts) :
    db'.Checked := by
  unfold Checked
  rw [heq]
  exact h

theorem Checked.findOrInsertHost {db : Db} (h : db.Checked) (ip : IPAddress) (asnId : Int) :
    (db.findOrInsertHost ip asnId).2.Checked := by
  unfold Db.findOrInsertHost
  split
  · exact h
  · intro host hhost
    rcases List.mem_append.mp hhost with hhost | hhost
    · exact h host hhost
    · rw [List.mem_singleton.mp hhost]
      exact familyNumber_check ip

theorem Checked.hostOf {db : Db} (h : db.Checked) (lookupSync : LookupSync) (ip : IPAddress) :
    (db.hostOf lookupSync ip).2.Checked := by
  unfold Db.hostOf
  split
  · exact h
  · exact (h.of_hosts (hosts_asnOf _ _)).findOrInsertHost _ _

/-- `writeTraffic` looks every address up. -/
theorem writeTraffic_eq (lookupSync : LookupSync) (snapshotId itemId : Int) (db : Db)
    (e : IPAddress × TrafficStats) : writeTraffic lookupSync snapshotId itemId db e =
      let asn := db.asnOf (lookupSync e.1)
      let host := asn.2.findOrInsertHost e.1 asn.1
      host.2.insertEvent snapshotId itemId (some host.1) e.2 := by
  unfold writeTraffic asnOf
  cases lookupSync e.1 <;> rfl

theorem Checked.writeSnapshot {db : Db} (h : db.Checked) (order : IterOrder) (now : Sec)
    (lookupSync : LookupSync) (s : Snapshot) :
    (StatsManager.writeSnapshot order now lookupSync db s).Checked := by
  have htraffic : ∀ snapshotId itemId (db : Db) e, db.Checked →
      (writeTraffic lookupSync snapshotId itemId db e).Checked := by
    intro snapshotId itemId db e hdb
    rw [writeTraffic_eq]
    exact (hdb.of_hosts (hosts_asnOf _ _)).findOrInsertHost _ _
  have happ : ∀ snapshotId (db : Db) app, db.Checked →
      (writeApp order lookupSync snapshotId db app).Checked := by
    intro snapshotId db app hdb
    unfold writeApp
    split
    · exact hdb
    · exact List.foldlRecOn (motive := Db.Checked) _ _
        (hdb.of_hosts (hosts_findOrInsertItem _ _)) fun db hdb e _ => htraffic _ _ db e hdb
  have hfilter : ∀ snapshotId (db : Db) e, db.Checked →
      (writeFilter snapshotId db e).Checked := fun _ _ _ hdb =>
    hdb.of_hosts (hosts_findOrInsertItem _ _)
  exact List.foldlRecOn (motive := Db.Checked) _ _
    (List.foldlRecOn (motive := Db.Checked) _ _ h fun db hdb app _ => happ _ db app hdb)
    fun db hdb e _ => hfilter _ db e hdb

end Db

namespace HistoryDb

/-- The rows `WriteToDatabase` finds or inserts: the `AppID`, the `HostID` and the tables. -/
def keysOf (lookupSync : LookupSync) (db : Db) (e : PastConnection) : Int × Int × Db :=
  let (appId, db) := db.findOrInsertItem e.applicationPath
  let (hostId, db) := db.hostOf lookupSync e.remoteEndpoint.address
  (appId, hostId, db)

/-- `WriteToDatabase`. -/
def writeToDatabase (lookupSync : LookupSync) (db : HistoryDb) (e : PastConnection) : HistoryDb :=
  let keys := keysOf lookupSync db.toDb e
  { keys.2.2 with
    connectionHistory := db.connectionHistory ++ [
      { id := nextId (db.connectionHistory.map (·.id))
        itemId := keys.1
        remoteHostId := keys.2.1
        port := e.remoteEndpoint.port.toNat
        startTime := e.startTime
        endTime := e.endTime
        dataIn := e.dataIn
        dataOut := e.dataOut }]
    family_check :=
      (Db.Checked.of_hosts db.family_check (Db.hosts_findOrInsertItem _ _)).hostOf lookupSync _ }

/-- What `MakeSnapshot` writes. -/
def makeSnapshot (order : IterOrder) (now : Sec) (lookupSync : LookupSync) (s : Snapshot)
    (db : HistoryDb) : HistoryDb :=
  { writeSnapshot order now lookupSync db.toDb s with
    connectionHistory := db.connectionHistory
    family_check := Db.Checked.writeSnapshot db.family_check order now lookupSync s }

/-- What is written to the database. -/
inductive Op : Type 1 where
  | writeToDatabase (lookupSync : LookupSync) (e : PastConnection)
  | makeSnapshot (order : IterOrder) (now : Sec) (lookupSync : LookupSync) (s : Snapshot)

def step (db : HistoryDb) : Op → HistoryDb
  | .writeToDatabase lookupSync e => db.writeToDatabase lookupSync e
  | .makeSnapshot order now lookupSync s => db.makeSnapshot order now lookupSync s

/-- The tables once the migrations have made them. -/
def empty : HistoryDb where
  connectionHistory := []
  family_check := fun _ hhost => absurd hhost List.not_mem_nil

end HistoryDb

/-! ## What was written -/

/-- The bytes of a host that is written, and what is looked up for it. -/
abbrev Contact := List UInt8 × Option AsnLookupResult

/-- The hosts of an application in a snapshot. -/
def ItemStats.contacts (order : IterOrder) (lookupSync : LookupSync) (app : ItemStats) :
    List Contact :=
  if app.applicationPath = "" then []
  else (order.entries app.traffic).map fun e => (getBytesVector e.1, lookupSync e.1)

namespace HistoryDb.Op

/-- The hosts that are written, in their order. -/
def contacts : Op → List Contact
  | .writeToDatabase lookupSync e =>
    [(getBytesVector e.remoteEndpoint.address, lookupSync e.remoteEndpoint.address)]
  | .makeSnapshot order _ lookupSync s =>
    (order.values s.apps).flatMap (ItemStats.contacts order lookupSync)

/-- The connection that is written. -/
def written : Op → List PastConnection
  | .writeToDatabase _ e => [e]
  | .makeSnapshot _ _ _ _ => []

end HistoryDb.Op

/-- The autonomous system of a host: what was looked up for it first. -/
def attribution (contacts : List Contact) (bytes : List UInt8) : Option AsnLookupResult :=
  (contacts.find? (·.1 = bytes)).bind (·.2)

theorem attribution_append_of_mem {cs : List Contact} {bytes : List UInt8}
    (h : bytes ∈ cs.map (·.1)) (cs' : List Contact) :
    attribution (cs ++ cs') bytes = attribution cs bytes := by
  obtain ⟨c, hc, rfl⟩ := List.mem_map.mp h
  have hsome : (cs.find? (·.1 = c.1)).isSome := List.find?_isSome.mpr ⟨c, hc, by simp⟩
  rw [attribution, List.find?_append, Option.or_of_isSome hsome]
  rfl

theorem attribution_append_of_notMem {cs : List Contact} {bytes : List UInt8}
    (h : bytes ∉ cs.map (·.1)) (result : Option AsnLookupResult) :
    attribution (cs ++ [(bytes, result)]) bytes = result := by
  have hnone : cs.find? (·.1 = bytes) = none :=
    List.find?_eq_none.mpr fun c hc heq =>
      h (List.mem_map.mpr ⟨c, hc, by simpa using heq⟩)
  rw [attribution, List.find?_append, hnone, Option.none_or]
  simp

/-! ## The tables of the hosts -/

/-- The family a host is written with. -/
def familyOf (bytes : List UInt8) : Int := if bytes.length = 16 then 6 else 4

theorem familyNumber_eq (ip : IPAddress) : familyNumber ip = familyOf (getBytesVector ip) := by
  have hlength : ip.bytes.toList.length = 16 := ip.bytes.length_toList
  unfold familyNumber familyOf getBytesVector
  cases ip.family with
  | unknown => rfl
  | ipv4 => simp [hlength]
  | ipv6 => simp [hlength]

/-- What a row says of an autonomous system. -/
def AsnRow.result (row : AsnRow) : AsnLookupResult :=
  { asn := row.number, country := row.country, organization := row.organization }

namespace Db

/-- The autonomous system a host refers to. -/
def AsnIs (db : Db) (asnId : Option Int) (result : Option AsnLookupResult) : Prop :=
  match asnId, result with
  | none, none => True
  | some id, some result => ∃ asn ∈ db.asns, asn.id = id ∧ asn.result = result
  | _, _ => False

theorem AsnIs.mono {db db' : Db} (hasns : db.asns ⊆ db'.asns) {asnId : Option Int}
    {result : Option AsnLookupResult} (h : db.AsnIs asnId result) : db'.AsnIs asnId result := by
  cases asnId with
  | none =>
    cases result with
    | none => trivial
    | some result => exact h.elim
  | some id =>
    cases result with
    | none => exact h.elim
    | some result =>
      obtain ⟨asn, hasn, hid⟩ := h
      exact ⟨asn, hasns hasn, hid⟩

/-- The hosts are those of the contacts, each with its family and the system it was first seen in. -/
structure Attributes (db : Db) (cs : List Contact) : Prop where
  asnIds : (db.asns.map (·.id)).Nodup
  asnPos : ∀ asn ∈ db.asns, 0 < asn.id
  contacted : ∀ c ∈ cs, ∃ host ∈ db.hosts, host.ipAddress = c.1
  known : ∀ host ∈ db.hosts, host.ipAddress ∈ cs.map (·.1)
  family : ∀ host ∈ db.hosts, host.family = familyOf host.ipAddress
  asn : ∀ host ∈ db.hosts, db.AsnIs host.asnId (attribution cs host.ipAddress)

variable {db db' : Db} {cs cs' : List Contact}

/-- The attribution only reads two tables. -/
theorem Attributes.of_tables (h : db.Attributes cs) (hhosts : db'.hosts = db.hosts)
    (hasns : db'.asns = db.asns) : db'.Attributes cs where
  asnIds := hasns ▸ h.asnIds
  asnPos := hasns ▸ h.asnPos
  contacted := hhosts ▸ h.contacted
  known := hhosts ▸ h.known
  family := hhosts ▸ h.family
  asn := fun host hhost => (h.asn host (hhosts ▸ hhost)).mono (hasns ▸ List.Subset.refl _)

theorem Attributes.findOrInsertItem (h : db.Attributes cs) (name : String) :
    (db.findOrInsertItem name).2.Attributes cs := by
  refine h.of_tables (hosts_findOrInsertItem _ _) ?_
  unfold Db.findOrInsertItem
  split <;> rfl

theorem nextId_pos (ids : List Int) : 0 < nextId ids := by
  have hle : 0 ≤ ids.foldr max 0 := by
    induction ids with
    | nil => exact Int.le_refl 0
    | cons id ids ih => exact le_trans ih (le_max_right _ _)
  exact Int.lt_add_one_of_le hle

/-- A lookup finds or inserts its autonomous system. -/
theorem Attributes.asnOf (h : db.Attributes cs) (result : Option AsnLookupResult) :
    (db.asnOf result).2.Attributes cs ∧
      (db.asnOf result).2.AsnIs
        (if 0 < (db.asnOf result).1 then some (db.asnOf result).1 else none) result := by
  cases result with
  | none => exact ⟨h, trivial⟩
  | some asn =>
    rw [show db.asnOf (some asn) = db.findOrInsertAsn asn from rfl]
    cases hfind : db.asns.find? fun row => row.number = asn.asn ∧ row.country = asn.country ∧
        row.organization = asn.organization with
    | some row =>
      have hfound : db.findOrInsertAsn asn = (row.id, db) := by rw [Db.findOrInsertAsn, hfind]
      have hmem := List.mem_of_find?_eq_some hfind
      have hkey := List.find?_some hfind
      simp only [decide_eq_true_eq] at hkey
      rw [hfound, if_pos (h.asnPos row hmem)]
      refine ⟨h, row, hmem, rfl, ?_⟩
      rw [AsnRow.result, hkey.1, hkey.2.1, hkey.2.2]
    | none =>
      have hinserted : db.findOrInsertAsn asn = (nextId (db.asns.map (·.id)),
          { db with asns := db.asns ++ [
            { id := nextId (db.asns.map (·.id)), number := asn.asn,
              organization := asn.organization, country := asn.country }] }) := by
        rw [Db.findOrInsertAsn, hfind]
      have hpos := nextId_pos (db.asns.map (·.id))
      rw [hinserted, if_pos hpos]
      refine ⟨⟨?_, ?_, h.contacted, h.known, h.family, fun host hhost => ?_⟩,
        _, List.mem_append_right _ List.mem_cons_self, rfl, rfl⟩
      · dsimp only
        rw [List.map_append, List.nodup_append]
        refine ⟨h.asnIds, List.nodup_singleton _, fun i hi j hj => ?_⟩
        rw [List.mem_singleton.mp hj]
        exact Int.ne_of_lt (lt_nextId hi)
      · intro row hrow
        rcases List.mem_append.mp hrow with hrow | hrow
        · exact h.asnPos row hrow
        · rw [List.mem_singleton.mp hrow]
          exact hpos
      · exact (h.asn host hhost).mono (List.subset_append_left _ _)

/-- Nothing changes when a host comes up again, whatever a lookup would say now. -/
theorem Attributes.again (h : db.Attributes cs) {row : HostRow} (hrow : row ∈ db.hosts)
    (result : Option AsnLookupResult) : db.Attributes (cs ++ [(row.ipAddress, result)]) where
  asnIds := h.asnIds
  asnPos := h.asnPos
  contacted := by
    intro c hc
    rcases List.mem_append.mp hc with hc | hc
    · exact h.contacted c hc
    · rw [List.mem_singleton.mp hc]
      exact ⟨row, hrow, rfl⟩
  known := by
    intro host hhost
    rw [List.map_append]
    exact List.mem_append_left _ (h.known host hhost)
  family := h.family
  asn := by
    intro host hhost
    rw [attribution_append_of_mem (h.known host hhost)]
    exact h.asn host hhost

/-- **A host keeps the autonomous system it is inserted with.** -/
theorem Attributes.findOrInsertHost (h : db.Attributes cs) (ip : IPAddress) {asnId : Int}
    {result : Option AsnLookupResult}
    (hasn : db.AsnIs (if 0 < asnId then some asnId else none) result) :
    (db.findOrInsertHost ip asnId).2.Attributes (cs ++ [(getBytesVector ip, result)]) := by
  cases hfind : db.hosts.find? (·.ipAddress = getBytesVector ip) with
  | some row =>
    have hfound : db.findOrInsertHost ip asnId = (row.id, db) := by
      rw [Db.findOrInsertHost, hfind]
    have hbytes : row.ipAddress = getBytesVector ip := by simpa using List.find?_some hfind
    rw [hfound, ← hbytes]
    exact h.again (List.mem_of_find?_eq_some hfind) result
  | none =>
    have hinserted : (db.findOrInsertHost ip asnId).2 = { db with
        hosts := db.hosts ++ [
          { id := nextId (db.hosts.map (·.id)), family := familyNumber ip,
            ipAddress := getBytesVector ip,
            asnId := if 0 < asnId then some asnId else none }] } := by
      rw [Db.findOrInsertHost, hfind]
    have hnew : getBytesVector ip ∉ cs.map (·.1) := by
      intro hmem
      obtain ⟨c, hc, hbytes⟩ := List.mem_map.mp hmem
      obtain ⟨host, hhost, heq⟩ := h.contacted c hc
      exact List.find?_eq_none.mp hfind host hhost (by simpa using heq.trans hbytes)
    rw [hinserted]
    refine ⟨h.asnIds, h.asnPos, fun c hc => ?_, fun host hhost => ?_, fun host hhost => ?_,
      fun host hhost => ?_⟩
    · rcases List.mem_append.mp hc with hc | hc
      · obtain ⟨host, hhost, heq⟩ := h.contacted c hc
        exact ⟨host, List.mem_append_left _ hhost, heq⟩
      · rw [List.mem_singleton.mp hc]
        exact ⟨_, List.mem_append_right _ List.mem_cons_self, rfl⟩
    · rw [List.map_append, List.mem_append]
      rcases List.mem_append.mp hhost with hhost | hhost
      · exact .inl (h.known host hhost)
      · rw [List.mem_singleton.mp hhost]
        exact .inr List.mem_cons_self
    · rcases List.mem_append.mp hhost with hhost | hhost
      · exact h.family host hhost
      · rw [List.mem_singleton.mp hhost]
        exact familyNumber_eq ip
    · rcases List.mem_append.mp hhost with hhost | hhost
      · rw [attribution_append_of_mem (h.known host hhost)]
        exact h.asn host hhost
      · rw [List.mem_singleton.mp hhost, attribution_append_of_notMem hnew]
        exact hasn

/-- One contact, as `MakeSnapshot` and `WriteToDatabase` write it. -/
theorem Attributes.contact (h : db.Attributes cs) (lookupSync : LookupSync) (ip : IPAddress) :
    ((db.asnOf (lookupSync ip)).2.findOrInsertHost ip (db.asnOf (lookupSync ip)).1).2.Attributes
      (cs ++ [(getBytesVector ip, lookupSync ip)]) := by
  obtain ⟨hasns, hasn⟩ := h.asnOf (lookupSync ip)
  exact hasns.findOrInsertHost ip hasn

theorem Attributes.hostOf (h : db.Attributes cs) (lookupSync : LookupSync) (ip : IPAddress) :
    (db.hostOf lookupSync ip).2.Attributes (cs ++ [(getBytesVector ip, lookupSync ip)]) := by
  cases hfind : db.hosts.find? (·.ipAddress = getBytesVector ip) with
  | some row =>
    have hfound : db.hostOf lookupSync ip = (row.id, db) := by rw [Db.hostOf, hfind]
    have hbytes : row.ipAddress = getBytesVector ip := by simpa using List.find?_some hfind
    rw [hfound, ← hbytes]
    exact h.again (List.mem_of_find?_eq_some hfind) _
  | none =>
    have hnew : db.hostOf lookupSync ip =
        (db.asnOf (lookupSync ip)).2.findOrInsertHost ip (db.asnOf (lookupSync ip)).1 := by
      rw [Db.hostOf, hfind]
    rw [hnew]
    exact h.contact lookupSync ip

/-- A loop whose turns make contacts. -/
theorem Attributes.foldl {α : Type} {f : Db → α → Db} {g : α → List Contact}
    (hf : ∀ db cs x, Attributes db cs → Attributes (f db x) (cs ++ g x)) :
    ∀ (xs : List α) {db : Db} {cs : List Contact}, db.Attributes cs →
      (xs.foldl f db).Attributes (cs ++ xs.flatMap g)
  | [], _, _, h => by rwa [List.flatMap_nil, List.append_nil]
  | x :: xs, db, cs, h => by
    rw [List.foldl_cons, List.flatMap_cons, ← List.append_assoc]
    exact Attributes.foldl hf xs (hf db cs x h)

theorem Attributes.writeSnapshot (h : db.Attributes cs) (order : IterOrder) (now : Sec)
    (lookupSync : LookupSync) (s : Snapshot) :
    (StatsManager.writeSnapshot order now lookupSync db s).Attributes
      (cs ++ (order.values s.apps).flatMap (ItemStats.contacts order lookupSync)) := by
  have htraffic : ∀ snapshotId itemId db cs (e : IPAddress × TrafficStats), Attributes db cs →
      (writeTraffic lookupSync snapshotId itemId db e).Attributes
        (cs ++ [(getBytesVector e.1, lookupSync e.1)]) := by
    intro snapshotId itemId db cs e h
    rw [writeTraffic_eq]
    exact (h.contact lookupSync e.1).of_tables rfl rfl
  have happ : ∀ snapshotId db cs app, Attributes db cs →
      (writeApp order lookupSync snapshotId db app).Attributes
        (cs ++ ItemStats.contacts order lookupSync app) := by
    intro snapshotId db cs app h
    unfold writeApp ItemStats.contacts
    split
    · rwa [List.append_nil]
    · rw [List.map_eq_flatMap]
      exact Attributes.foldl (fun db cs e h => htraffic _ _ db cs e h) _
        (h.findOrInsertItem app.applicationPath)
  have hfilter : ∀ snapshotId db cs (e : String × TrafficStats), Attributes db cs →
      (writeFilter snapshotId db e).Attributes (cs ++ []) := by
    intro snapshotId db cs e h
    rw [List.append_nil]
    exact (h.findOrInsertItem e.1).of_tables rfl rfl
  set snapshotId := nextId (db.trafficSnapshots.map (·.id)) with hid
  have hstart : Attributes { db with
      trafficSnapshots := db.trafficSnapshots ++ [{ id := snapshotId, start := now }] } cs :=
    h.of_tables rfl rfl
  have happs := Attributes.foldl (happ snapshotId) (order.values s.apps) hstart
  have hfilters := Attributes.foldl (hfilter snapshotId) (order.entries s.filters) happs
  rwa [List.flatMap_eq_nil_iff.mpr fun _ _ => rfl, List.append_nil] at hfilters

/-! ## The rows of the connections -/

/-- What a row says of a connection, by way of the items and the hosts. -/
structure Says (db : Db) (row : ConnectionHistoryRow) (e : PastConnection) : Prop where
  item : db.HasItem row.itemId e.applicationPath
  host : db.HasHost row.remoteHostId (getBytesVector e.remoteEndpoint.address)
  port : row.port = e.remoteEndpoint.port.toNat
  startTime : row.startTime = e.startTime
  endTime : row.endTime = e.endTime
  dataIn : row.dataIn = e.dataIn
  dataOut : row.dataOut = e.dataOut

theorem HasHost.mono {l : List Entry} (h : Added db db' l) {id : Int} {bytes : List UInt8}
    (hhost : db.HasHost id bytes) : db'.HasHost id bytes := by
  obtain ⟨row, hrow, hrow'⟩ := hhost
  exact ⟨row, h.hosts.subset hrow, hrow'⟩

/-- A row says the same when items and hosts are added. -/
theorem Says.mono {l : List Entry} (h : Added db db' l) {row : ConnectionHistoryRow}
    {e : PastConnection} (htold : db.Says row e) : db'.Says row e :=
  { htold with
    item := htold.item.mono h
    host := htold.host.mono h }

theorem added_hostOf (h : db.Sound) (lookupSync : LookupSync) (ip : IPAddress) :
    Added db (db.hostOf lookupSync ip).2 [] ∧
      (db.hostOf lookupSync ip).2.HasHost (db.hostOf lookupSync ip).1 (getBytesVector ip) := by
  unfold Db.hostOf
  split
  · rename_i row hrow
    exact ⟨.refl h, row, List.mem_of_find?_eq_some hrow, rfl, by simpa using List.find?_some hrow⟩
  · have hasn : Added db (db.asnOf (lookupSync ip)).2 [] := by
      unfold Db.asnOf
      split
      · exact added_findOrInsertAsn h _
      · exact .refl h
    obtain ⟨hhost, hhas⟩ :=
      added_findOrInsertHost hasn.sound ip (db.asnOf (lookupSync ip)).1
    exact ⟨hasn.trans hhost, hhas⟩

end Db

/-- **The tables remember the connections**: items, hosts and autonomous systems are there once, and
the rows of the connections say one after the other what was written. -/
structure Remembers (db : HistoryDb) (cs : List Contact) (ws : List PastConnection) : Prop where
  sound : db.toDb.Sound
  attributes : db.toDb.Attributes cs
  rows : List.Forall₂ db.toDb.Says db.connectionHistory ws

namespace Remembers

variable {db : HistoryDb} {cs : List Contact} {ws : List PastConnection}

theorem empty : Remembers HistoryDb.empty [] [] where
  sound :=
    { itemIds := List.nodup_nil
      itemNames := List.nodup_nil
      hostIds := List.nodup_nil
      hostBytes := List.nodup_nil
      items := fun _ h => absurd h List.not_mem_nil
      hosts := fun _ h => absurd h List.not_mem_nil }
  attributes :=
    { asnIds := List.nodup_nil
      asnPos := fun _ h => absurd h List.not_mem_nil
      contacted := fun _ h => absurd h List.not_mem_nil
      known := fun _ h => absurd h List.not_mem_nil
      family := fun _ h => absurd h List.not_mem_nil
      asn := fun _ h => absurd h List.not_mem_nil }
  rows := .nil

theorem writeToDatabase (h : Remembers db cs ws) (lookupSync : LookupSync) (e : PastConnection) :
    Remembers (db.writeToDatabase lookupSync e)
      (cs ++ [(getBytesVector e.remoteEndpoint.address, lookupSync e.remoteEndpoint.address)])
      (ws ++ [e]) := by
  obtain ⟨hitem, hhasItem⟩ := Db.added_findOrInsertItem h.sound e.applicationPath
  obtain ⟨hhost, hhasHost⟩ := Db.added_hostOf hitem.sound lookupSync e.remoteEndpoint.address
  have hadded := hitem.trans hhost
  refine ⟨hadded.sound,
    (h.attributes.findOrInsertItem e.applicationPath).hostOf lookupSync e.remoteEndpoint.address,
    List.rel_append (h.rows.imp fun _ _ htold => htold.mono hadded) (.cons ?_ .nil)⟩
  exact ⟨hhasItem.mono hhost, hhasHost, rfl, rfl, rfl, rfl, rfl⟩

theorem makeSnapshot (h : Remembers db cs ws) (order : IterOrder) (now : Sec)
    (lookupSync : LookupSync) (s : Snapshot) :
    Remembers (db.makeSnapshot order now lookupSync s)
      (cs ++ (order.values s.apps).flatMap (ItemStats.contacts order lookupSync)) ws := by
  have hadded := added_writeSnapshot order h.sound now lookupSync s
  exact ⟨hadded.sound, h.attributes.writeSnapshot order now lookupSync s,
    h.rows.imp fun _ _ htold => htold.mono hadded⟩

/-- **Both writers keep it.** -/
theorem step (h : Remembers db cs ws) (op : HistoryDb.Op) :
    Remembers (db.step op) (cs ++ op.contacts) (ws ++ op.written) := by
  cases op with
  | writeToDatabase lookupSync e => exact h.writeToDatabase lookupSync e
  | makeSnapshot order now lookupSync s =>
    rw [show (HistoryDb.Op.makeSnapshot order now lookupSync s).written = [] from rfl,
      List.append_nil]
    exact h.makeSnapshot order now lookupSync s

theorem run : ∀ (ops : List HistoryDb.Op) {db : HistoryDb} {cs : List Contact}
    {ws : List PastConnection}, Remembers db cs ws →
      Remembers (Lib.run HistoryDb.step db ops) (cs ++ ops.flatMap (·.contacts))
        (ws ++ ops.flatMap (·.written))
  | [], _, _, _, h => by rwa [List.flatMap_nil, List.flatMap_nil, List.append_nil, List.append_nil]
  | op :: ops, db, cs, ws, h => by
    rw [run_cons, List.flatMap_cons, List.flatMap_cons, ← List.append_assoc, ← List.append_assoc]
    exact run ops (h.step op)

end Remembers

/-- **The tables remember every run** of the two writers. -/
theorem remembers_run (ops : List HistoryDb.Op) :
    Remembers (run HistoryDb.step HistoryDb.empty ops) (ops.flatMap (·.contacts))
      (ops.flatMap (·.written)) := Remembers.empty.run ops

/-! ## What is read back -/

/-- The address that is read back. -/
def storedAddress (a : IPAddress) : IPAddress :=
  match a.family with
  | .unknown => { family := .ipv4 }
  | .ipv4 => IPAddress.setBytes {} (a.bytes.toList.take 4) .ipv4
  | .ipv6 => a

/-- The entry a request shows of a connection: one for a host the application, any other one the
endpoint. -/
def PastConnection.shown (request : HistoryRequest) (e : PastConnection) : HistoryResponseEntry :=
  { appName := if request.hostTarget.isSome then e.applicationPath else ""
    endpoint := if request.hostTarget.isSome then {} else
      { address := storedAddress e.remoteEndpoint.address, port := e.remoteEndpoint.port }
    dataIn := e.dataIn
    dataOut := e.dataOut
    startTime := e.startTime
    endTime := e.endTime }

/-- The connections a request asks for. -/
def HistoryRequest.asksFor (request : HistoryRequest) (cs : List Contact) (e : PastConnection) :
    Bool :=
  let asn := attribution cs (getBytesVector e.remoteEndpoint.address)
  match request.hostTarget with
  | some ip => getBytesVector e.remoteEndpoint.address = getBytesVector ip
  | none =>
    if startsWith request.targetName "asn:" then
      let asnInt := parseInt (substr request.targetName 4)
      asnInt ≠ 0 && asn.any (·.asn = asnInt.toNat)
    else if startsWith request.targetName "org:" then
      asn.any (·.organization = substr request.targetName 4)
    else if startsWith request.targetName "country:" then
      asn.any (·.country = substr request.targetName 8)
    else e.applicationPath = request.targetName

/-! ## Joins -/

section Joins

variable {α β γ : Type}

/-- The rows of a key, where keys come up once. -/
theorem filter_key {key : α → Int} : ∀ {l : List α}, (l.map key).Nodup → ∀ {x : α}, x ∈ l →
    l.filter (fun y => key x = key y) = [x]
  | y :: l, hn, x, hx => by
    rw [List.map_cons, List.nodup_cons] at hn
    rcases List.mem_cons.mp hx with rfl | hx
    · have hrest : l.filter (fun y => key x = key y) = [] :=
        List.filter_eq_nil_iff.mpr fun z hz heq =>
          hn.1 (List.mem_map.mpr ⟨z, hz, by simpa using Eq.symm (by simpa using heq)⟩)
      rw [List.filter_cons_of_pos (by simp), hrest]
    · have hne : key x ≠ key y := fun heq => hn.1 (heq ▸ List.mem_map.mpr ⟨x, hx, rfl⟩)
      rw [List.filter_cons_of_neg (by simpa using hne)]
      exact filter_key hn.2 hx

/-- A join that finds one row for each. -/
theorem forall₂_flatMap {R : α → β → Prop} {S : γ → β → Prop} {f : α → List γ}
    (hf : ∀ a b, R a b → ∃ c, f a = [c] ∧ S c b) {l : List α} {l' : List β}
    (h : List.Forall₂ R l l') : List.Forall₂ S (l.flatMap f) l' := by
  induction h with
  | nil => exact .nil
  | cons hab _ ih =>
    obtain ⟨c, hc, hs⟩ := hf _ _ hab
    rw [List.flatMap_cons, hc]
    exact .cons hs ih

theorem forall₂_mem_right {R : α → β → Prop} {l : List α} {l' : List β} (h : List.Forall₂ R l l') :
    ∀ b ∈ l', ∃ a, R a b := by
  induction h with
  | nil => exact fun b hb => absurd hb List.not_mem_nil
  | cons hab _ ih => exact List.forall_mem_cons.mpr ⟨⟨_, hab⟩, ih⟩

/-- A join that finds a row or none. -/
theorem flatMap_eq_filter {f : α → List α} {p : α → Bool} : ∀ {l : List α},
    (∀ a ∈ l, f a = if p a then [a] else []) → l.flatMap f = l.filter p
  | [], _ => rfl
  | a :: l, h => by
    rw [List.forall_mem_cons] at h
    rw [List.flatMap_cons, h.1, flatMap_eq_filter h.2, List.filter_cons]
    split <;> rfl

theorem filterMap_eq_map_of_forall₂ {R : α → β → Prop} {f : α → Option γ} {g : β → γ}
    (hfg : ∀ a b, R a b → f a = some (g b)) {l : List α} {l' : List β}
    (h : List.Forall₂ R l l') : l.filterMap f = l'.map g := by
  induction h with
  | nil => rfl
  | cons hab _ ih => rw [List.filterMap_cons_some (hfg _ _ hab), List.map_cons, ih]

end Joins

theorem front_eq_none {α : Type} {order : IterOrder} {rows : List α} (h : front order rows = none) :
    rows = [] := by
  rw [front, List.head?_eq_none_iff] at h
  exact List.Perm.eq_nil (h ▸ (order.perm rows).symm)

theorem mem_of_front {α : Type} {order : IterOrder} {rows : List α} {row : α}
    (h : front order rows = some row) : row ∈ rows :=
  (order.perm rows).mem_iff.mp (List.mem_of_head? h)

/-- What an entry takes from the row. -/
theorem Db.Says.historyEntry_eq {db : Db} {row : ConnectionHistoryRow} {e : PastConnection}
    (h : db.Says row e) (appName : String) (endpoint : Endpoint) :
    historyEntry row appName endpoint =
      { appName, endpoint, dataIn := e.dataIn, dataOut := e.dataOut, startTime := e.startTime,
        endTime := e.endTime } := by
  rw [historyEntry, h.dataIn, h.dataOut, h.startTime, h.endTime, Int.toNat_natCast,
    Int.toNat_natCast]

/-- The endpoint that is read back. -/
theorem buildHistoryEndpoint_eq {row : ConnectionHistoryRow × HostRow} {e : Endpoint}
    (hport : row.1.port = e.port.toNat) (hbytes : row.2.ipAddress = getBytesVector e.address)
    (hfamily : row.2.family = familyOf row.2.ipAddress) : buildHistoryEndpoint row =
      some { address := storedAddress e.address, port := e.port } := by
  have hp : UInt16.ofInt row.1.port = e.port := by
    rw [hport, UInt16.ofInt, Int.emod_eq_of_lt (Int.natCast_nonneg _)
      (by have := e.port.toNat_lt; omega), Int.toNat_natCast, UInt16.ofNat_toNat]
  rw [hbytes, ← familyNumber_eq] at hfamily
  unfold buildHistoryEndpoint storedAddress
  dsimp only
  rw [hp, hfamily, hbytes]
  unfold familyNumber getBytesVector
  cases hf : e.address.family with
  | unknown => rfl
  | ipv4 =>
    have hlength : (e.address.bytes.toList.take 4).length = 4 := by simp
    dsimp only
    rw [if_pos rfl, if_pos hlength]
  | ipv6 =>
    dsimp only
    rw [if_neg (by decide), if_pos rfl, IPAddress.setBytes_ipv6, IPAddress.ipv6, ← hf]

namespace Remembers

variable {db : HistoryDb} {cs : List Contact} {ws : List PastConnection}

/-- Each connection is joined with its application. -/
theorem withItems (h : Remembers db cs ws) : List.Forall₂ (fun row e => db.toDb.Says row.1 e ∧
    row.2.name = e.applicationPath) db.withItems ws := by
  refine forall₂_flatMap (fun ce e htold => ?_) h.rows
  obtain ⟨item, hitem, hid, hname⟩ := htold.item
  refine ⟨(ce, item), ?_, htold, hname⟩
  rw [← hid, filter_key h.sound.itemIds hitem, List.map_singleton]

/-- Each connection is joined with its host. -/
theorem withHosts (h : Remembers db cs ws) : List.Forall₂ (fun row e => db.toDb.Says row.1 e ∧
    row.2 ∈ db.hosts ∧ row.2.ipAddress = getBytesVector e.remoteEndpoint.address)
    db.withHosts ws := by
  refine forall₂_flatMap (fun ce e htold => ?_) h.rows
  obtain ⟨host, hhost, hid, hbytes⟩ := htold.host
  refine ⟨(ce, host), ?_, htold, hhost, hbytes⟩
  rw [← hid, filter_key h.sound.hostIds hhost, List.map_singleton]

/-- The connections of some autonomous systems. -/
theorem ofAsns (h : Remembers db cs ws) {p : AsnRow → Bool} {q : AsnLookupResult → Bool}
    (hp : ∀ asn, p asn = q asn.result) :
    db.ofAsns p = db.withHosts.filter fun row => (attribution cs row.2.ipAddress).any q := by
  refine flatMap_eq_filter fun row hrow => ?_
  have hhost : row.2 ∈ db.hosts := by
    obtain ⟨ce, -, hmem⟩ := List.mem_flatMap.mp hrow
    obtain ⟨host, hhost, rfl⟩ := List.mem_map.mp hmem
    exact List.mem_of_mem_filter hhost
  have hasn := h.attributes.asn row.2 hhost
  revert hasn
  unfold Db.AsnIs
  cases hid : row.2.asnId with
  | none =>
    cases attribution cs row.2.ipAddress with
    | none => simp
    | some result => exact False.elim
  | some id =>
    cases attribution cs row.2.ipAddress with
    | none => exact False.elim
    | some result =>
      rintro ⟨asn, hasn, rfl, rfl⟩
      have hfilter : db.asns.filter (fun a => some a.id = some asn.id ∧ p a) =
          [asn].filter p := by
        rw [← filter_key h.attributes.asnIds hasn, List.filter_filter]
        refine List.filter_congr fun a _ => ?_
        rw [Bool.eq_iff_iff]
        simp only [Option.some.injEq, decide_eq_true_eq, Bool.and_eq_true]
        rw [and_comm, @eq_comm Int a.id]
      rw [hfilter, Option.any_some, ← hp]
      by_cases hpa : p asn
      · rw [if_pos hpa, List.filter_cons_of_pos hpa]
        rfl
      · rw [if_neg hpa, List.filter_cons_of_neg hpa]
        rfl

/-- The entries of the connections with their hosts. -/
theorem appendEndpointHistoryEntries_eq (h : Remembers db cs ws) {request : HistoryRequest}
    (hhost : request.hostTarget = none) {p : ConnectionHistoryRow × HostRow → Bool}
    {q : PastConnection → Bool}
    (hpq : ∀ row e, db.toDb.Says row.1 e ∧ row.2 ∈ db.hosts ∧
      row.2.ipAddress = getBytesVector e.remoteEndpoint.address → (p row = true ↔ q e = true)) :
    appendEndpointHistoryEntries (db.withHosts.filter p) = (ws.filter q).map (·.shown request) := by
  refine filterMap_eq_map_of_forall₂ ?_
    (List.rel_filter (fun row e hrow => hpq row e hrow) h.withHosts)
  rintro row e ⟨htold, hmem, hbytes⟩
  rw [buildHistoryEndpoint_eq htold.port hbytes (h.attributes.family row.2 hmem), Option.map_some,
    htold.historyEntry_eq, PastConnection.shown, hhost]
  rfl

variable {request : HistoryRequest} (order : IterOrder)

theorem matched_host (h : Remembers db cs ws) {ip : IPAddress}
    (hhost : request.hostTarget = some ip) : (request.matched order db).Perm
      ((ws.filter (request.asksFor cs)).map (·.shown request)) := by
  have hasks : ∀ e, request.asksFor cs e = true ↔
      getBytesVector e.remoteEndpoint.address = getBytesVector ip := by
    intro e
    simp only [HistoryRequest.asksFor, hhost, decide_eq_true_eq]
  cases hfront : front order (db.hosts.filter (·.ipAddress = getBytesVector ip)) with
  | none =>
    have hnobody : ws.filter (request.asksFor cs) = [] := by
      refine List.filter_eq_nil_iff.mpr fun e he hask => ?_
      obtain ⟨row, htold⟩ := forall₂_mem_right h.rows e he
      obtain ⟨host, hmem, -, hbytes⟩ := htold.host
      refine List.filter_eq_nil_iff.mp (front_eq_none hfront) host hmem ?_
      exact decide_eq_true (hbytes.trans ((hasks e).mp hask))
    simp only [HistoryRequest.matched, hhost, hfront, hnobody, List.map_nil]
    exact .nil
  | some host =>
    obtain ⟨hmem, hbytes⟩ := List.mem_filter.mp (mem_of_front hfront)
    rw [decide_eq_true_eq] at hbytes
    have hrows : appEntries (db.withItems.filter (·.1.remoteHostId = host.id)) =
        (ws.filter (request.asksFor cs)).map (·.shown request) := by
      rw [appEntries_eq]
      refine filterMap_eq_map_of_forall₂ ?_ (List.rel_filter ?_ h.withItems)
      · rintro row e ⟨htold, hname⟩
        rw [htold.historyEntry_eq, PastConnection.shown, hhost, hname]
        rfl
      · rintro ⟨ce, item⟩ e ⟨htold, -⟩
        obtain ⟨row, hrow, hid, hrowBytes⟩ := htold.host
        dsimp only at hid ⊢
        rw [decide_eq_true_eq, hasks, ← hid, ← hbytes, ← hrowBytes]
        exact ⟨fun heq => congrArg HostRow.ipAddress
            (List.inj_on_of_nodup_map h.sound.hostIds hrow hmem heq),
          fun heq => congrArg HostRow.id
            (List.inj_on_of_nodup_map h.sound.hostBytes hrow hmem heq)⟩
    simp only [HistoryRequest.matched, hhost, hfront]
    rw [← hrows]
    exact (order.perm _).map _

theorem matched_app (h : Remembers db cs ws) (hhost : request.hostTarget = none)
    (hasn : startsWith request.targetName "asn:" = false)
    (horg : startsWith request.targetName "org:" = false)
    (hcountry : startsWith request.targetName "country:" = false) :
    (request.matched order db).Perm ((ws.filter (request.asksFor cs)).map (·.shown request)) := by
  have hasks : ∀ e, request.asksFor cs e = true ↔ e.applicationPath = request.targetName := by
    intro e
    simp only [HistoryRequest.asksFor, hhost, hasn, horg, hcountry, Bool.false_eq_true, if_false,
      decide_eq_true_eq]
  cases hfront : front order (db.trafficItems.filter (·.name = request.targetName)) with
  | none =>
    have hnobody : ws.filter (request.asksFor cs) = [] := by
      refine List.filter_eq_nil_iff.mpr fun e he hask => ?_
      obtain ⟨row, htold⟩ := forall₂_mem_right h.rows e he
      obtain ⟨item, hmem, -, hname⟩ := htold.item
      refine List.filter_eq_nil_iff.mp (front_eq_none hfront) item hmem ?_
      exact decide_eq_true (hname.trans ((hasks e).mp hask))
    simp only [HistoryRequest.matched, hhost, hasn, horg, hcountry, Bool.false_eq_true, if_false,
      hfront, hnobody, List.map_nil]
    exact .nil
  | some item =>
    obtain ⟨hmem, hname⟩ := List.mem_filter.mp (mem_of_front hfront)
    rw [decide_eq_true_eq] at hname
    have hrows := h.appendEndpointHistoryEntries_eq hhost (p := fun row => row.1.itemId = item.id)
      (q := request.asksFor cs) (by
        rintro ⟨ce, host⟩ e ⟨htold, -⟩
        obtain ⟨row, hrow, hid, hrowName⟩ := htold.item
        rw [decide_eq_true_eq, hasks, ← hid, ← hname, ← hrowName]
        exact ⟨fun heq => congrArg TrafficItemRow.name
            (List.inj_on_of_nodup_map h.sound.itemIds hrow hmem heq),
          fun heq => congrArg TrafficItemRow.id
            (List.inj_on_of_nodup_map h.sound.itemNames hrow hmem heq)⟩)
    simp only [HistoryRequest.matched, hhost, hasn, horg, hcountry, Bool.false_eq_true, if_false,
      hfront]
    rw [← hrows]
    exact (order.perm _).filterMap _

/-- The connections with the hosts of some autonomous systems. -/
theorem matched_asns (h : Remembers db cs ws) (request : HistoryRequest)
    (hhost : request.hostTarget = none) {p : AsnRow → Bool} {q : AsnLookupResult → Bool}
    (hp : ∀ asn, p asn = q asn.result)
    (hasks : ∀ e, request.asksFor cs e =
      (attribution cs (getBytesVector e.remoteEndpoint.address)).any q) :
    (appendEndpointHistoryEntries (order.order (db.ofAsns p))).Perm
      ((ws.filter (request.asksFor cs)).map (·.shown request)) := by
  have hrows := h.appendEndpointHistoryEntries_eq hhost (q := request.asksFor cs)
    (p := fun row => (attribution cs row.2.ipAddress).any q) (by
      rintro row e ⟨-, -, hbytes⟩
      rw [hasks, hbytes])
  rw [h.ofAsns hp, ← hrows]
  exact (order.perm _).filterMap _

/-- **What a request asks for is what it matches.** -/
theorem matched (h : Remembers db cs ws) (request : HistoryRequest) :
    (request.matched order db).Perm ((ws.filter (request.asksFor cs)).map (·.shown request)) := by
  cases hhost : request.hostTarget with
  | some ip => exact h.matched_host order hhost
  | none =>
    cases hasn : startsWith request.targetName "asn:" with
    | true =>
      by_cases hnumber : parseInt (substr request.targetName 4) = 0
      · have hnobody : ws.filter (request.asksFor cs) = [] := by
          refine List.filter_eq_nil_iff.mpr fun e _ => ?_
          simp [HistoryRequest.asksFor, hhost, hasn, hnumber]
        rw [hnobody]
        simp only [HistoryRequest.matched, hhost, hasn, if_true, hnumber, List.map_nil]
        exact .nil
      · have hall := h.matched_asns order request hhost
          (p := (·.number = (parseInt (substr request.targetName 4)).toNat))
          (q := (·.asn = (parseInt (substr request.targetName 4)).toNat)) (fun _ => rfl)
          fun e => by simp [HistoryRequest.asksFor, hhost, hasn, hnumber]
        simpa only [HistoryRequest.matched, hhost, hasn, if_true, if_neg hnumber] using hall
    | false =>
      cases horg : startsWith request.targetName "org:" with
      | true =>
        have hall := h.matched_asns order request hhost
          (p := (·.organization = substr request.targetName 4))
          (q := (·.organization = substr request.targetName 4)) (fun _ => rfl)
          fun e => by simp [HistoryRequest.asksFor, hhost, hasn, horg]
        simpa only [HistoryRequest.matched, hhost, hasn, horg, Bool.false_eq_true, if_true,
          if_false] using hall
      | false =>
        cases hcountry : startsWith request.targetName "country:" with
        | true =>
          have hall := h.matched_asns order request hhost
            (p := (·.country = substr request.targetName 8))
            (q := (·.country = substr request.targetName 8)) (fun _ => rfl)
            fun e => by simp [HistoryRequest.asksFor, hhost, hasn, horg, hcountry]
          simpa only [HistoryRequest.matched, hhost, hasn, horg, hcountry, Bool.false_eq_true,
            if_true, if_false] using hall
        | false => exact h.matched_app order hhost hasn horg hcountry

end Remembers

/-- A request for a host, an application or a country. -/
def HistoryRequest.Counted (request : HistoryRequest) : Prop :=
  request.hostTarget = none → startsWith request.targetName "asn:" = false ∧
    startsWith request.targetName "org:" = false

theorem HistoryRequest.Counted.consistent {request : HistoryRequest} (h : request.Counted)
    (order : IterOrder) (db : HistoryDb) : Consistent order db request := by
  cases hhost : request.hostTarget with
  | some ip => exact consistent_host hhost
  | none =>
    obtain ⟨hasn, horg⟩ := h hhost
    cases hcountry : startsWith request.targetName "country:" with
    | true => exact consistent_country hhost hasn horg hcountry
    | false => exact consistent_app hhost hasn horg hcountry

/-- **Nothing that was written is lost, and nothing comes up twice.** After every run of the two
writers, a client that pages through the connections of a host, of an application or of a country
gets those that were written, each once, and every answer says how many there are. The country of a
connection is that of the first lookup for its host. -/
theorem paged_run (order : IterOrder) (ops : List HistoryDb.Op) (request : HistoryRequest)
    (hcounted : request.Counted) (n : Nat) :
    let db := run HistoryDb.step HistoryDb.empty ops
    let asked := (ops.flatMap (·.written)).filter (request.asksFor (ops.flatMap (·.contacts)))
    (∀ offset, ∃ handled, processHistoryRequest order db (request.at offset) = some handled ∧
      handled.response.numTotalEntries = asked.length) ∧
    (asked.length ≤ 100 * n → ((List.range n).flatMap fun k =>
      ((processHistoryRequest order db (request.at (100 * k))).map (·.response.entries)).getD
        []).Perm (asked.map (·.shown request))) := by
  intro db asked
  have hconsistent := hcounted.consistent order db
  have hmatched : (request.matched order db).Perm (asked.map (·.shown request)) :=
    (remembers_run ops).matched order request
  have hlength : (request.matched order db).length = asked.length := by
    rw [hmatched.length_eq, List.length_map]
  refine ⟨fun offset => ?_, fun hn => ?_⟩
  · obtain ⟨handled, hhandled⟩ := Option.ne_none_iff_exists'.mp (hconsistent.returns offset)
    exact ⟨handled, hhandled, (hconsistent.total offset handled hhandled).trans hlength⟩
  · rw [hconsistent.pages n (hlength ▸ hn)]
    exact hmatched

/-- Two connections of one application to one host, whose country changes in between, and a
snapshot. -/
def twoConnections : List HistoryDb.Op :=
  let remote : Endpoint := { address := .ipv4 #v[9, 9, 9, 9], port := 443 }
  [.writeToDatabase (fun _ => some ⟨64500, "DE", "Example"⟩)
      { applicationPath := "/usr/bin/ssh", remoteEndpoint := remote, startTime := 10, endTime := 20,
        dataIn := 5, dataOut := 7 },
    .makeSnapshot .stored 30 (fun _ => none) {},
    .writeToDatabase (fun _ => some ⟨64501, "FR", "Other"⟩)
      { applicationPath := "/usr/bin/ssh", remoteEndpoint := remote, startTime := 40,
        endTime := 50 }]

theorem paged_run_twoConnections :
    let request : HistoryRequest := { requestId := 1, targetName := "country:DE" }
    let db := run HistoryDb.step HistoryDb.empty twoConnections
    let asked := (twoConnections.flatMap (·.written)).filter
      (request.asksFor (twoConnections.flatMap (·.contacts)))
    (∀ offset, ∃ handled, processHistoryRequest .stored db (request.at offset) = some handled ∧
      handled.response.numTotalEntries = asked.length) ∧
    (asked.length ≤ 100 * 1 → ((List.range 1).flatMap fun k =>
      ((processHistoryRequest .stored db (request.at (100 * k))).map (·.response.entries)).getD
        []).Perm (asked.map (·.shown request))) :=
  paged_run .stored twoConnections { requestId := 1, targetName := "country:DE" }
    (fun _ => ⟨by decide, by decide⟩) 1

end Waechter.StatsManager
