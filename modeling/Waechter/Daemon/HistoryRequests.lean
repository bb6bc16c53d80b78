import Waechter.Daemon.StatsManager

/-!
# Requests for past connections

`WStatsManager::ProcessHistoryRequest` (`Db/StatsManager.cpp`) answers with a page of a hundred past
connections of a host, an application, a country, an organization or an autonomous system, and with
how many there are. Each kind of target asks the database twice, for the number and for the rows.

No query says how its rows are ordered; `order` is the order SQLite gives them in, the same for all
pages of a query. A `Char` stands for a `char` of the target.

* `HistoryRequest.matched`: the rows of a request without a limit and an offset.
* `consistent_iff`: the number is that of the rows, the pages make them up and nothing is thrown
  exactly when the target is none of an organization or a system, or has eight characters and as
  many rows of that country.
-/

namespace Waechter.StatsManager

open Lib

/-- A row of the table `ConnectionHistoryEntry`. -/
structure ConnectionHistoryRow where
  id : Int
  itemId : Int
  remoteHostId : Int
  port : Int := 0
  startTime : Sec
  endTime : Sec
  dataIn : Int := 0
  dataOut : Int := 0

/-- The database with its past connections. The table of the hosts checks the family. -/
structure HistoryDb extends Db where
  connectionHistory : List ConnectionHistoryRow
  family_check : ∀ host ∈ hosts, host.family = 4 ∨ host.family = 6

/-- `WConnectionHistoryRequest`. -/
structure HistoryRequest where
  requestId : UInt32
  targetName : String := ""
  hostTarget : Option IPAddress := none
  offset : Nat := 0

/-- `WConnectionHistoryResponseEntry`. -/
structure HistoryResponseEntry where
  appName : String
  endpoint : Endpoint
  dataIn : WBytes
  dataOut : WBytes
  startTime : Sec
  endTime : Sec

/-- `WConnectionHistoryResponse`. -/
structure HistoryResponse where
  requestId : UInt32
  entries : List HistoryResponseEntry := []
  numTotalEntries : Nat := 0

/-- `std::string::substr(pos)`; `none` is a `std::out_of_range`. -/
def substrAt (str : String) (pos : Nat) : Option String :=
  if pos ≤ str.toList.length then some (substr str pos) else none

/-! ## Queries -/

namespace HistoryDb

/-- `CE.join(TrafficItem).on(CE.ItemID == TrafficItem.ID)`. -/
def withItems (db : HistoryDb) : List (ConnectionHistoryRow × TrafficItemRow) :=
  db.connectionHistory.flatMap fun ce =>
    (db.trafficItems.filter (ce.itemId = ·.id)).map fun item => (ce, item)

/-- `CE.join(Host).on(CE.RemoteHostID == Host.ID)`. -/
def withHosts (db : HistoryDb) : List (ConnectionHistoryRow × HostRow) :=
  db.connectionHistory.flatMap fun ce =>
    (db.hosts.filter (ce.remoteHostId = ·.id)).map fun host => (ce, host)

/-- `CE.join(Host).on(CE.RemoteHostID == Host.ID).join(Asn).on(Asn.ID == Host.AsnID).where(p)`. -/
def ofAsns (db : HistoryDb) (p : AsnRow → Bool) : List (ConnectionHistoryRow × HostRow) :=
  db.withHosts.flatMap fun row =>
    (db.asns.filter fun asn => some asn.id = row.2.asnId ∧ p asn).map fun _ => row

theorem withHosts_check (db : HistoryDb) :
    ∀ row ∈ db.withHosts, row.2.family = 4 ∨ row.2.family = 6 := by
  intro row hrow
  obtain ⟨ce, -, hrow⟩ := List.mem_flatMap.mp hrow
  obtain ⟨host, hhost, rfl⟩ := List.mem_map.mp hrow
  exact db.family_check host (List.mem_of_mem_filter hhost)

theorem ofAsns_check (db : HistoryDb) (p : AsnRow → Bool) :
    ∀ row ∈ db.ofAsns p, row.2.family = 4 ∨ row.2.family = 6 := by
  intro row hrow
  obtain ⟨row', hrow', hmap⟩ := List.mem_flatMap.mp hrow
  obtain ⟨asn, -, rfl⟩ := List.mem_map.mp hmap
  exact db.withHosts_check row' hrow'

end HistoryDb

variable (order : IterOrder)

/-- `Result.front()`, where the result is not empty. -/
def front {α : Type} (rows : List α) : Option α := (order.order rows).head?

/-- `.limit(100u).offset(Request.Offset)`. -/
def page {α : Type} (rows : List α) (offset : Nat) : List α :=
  ((order.order rows).drop offset).take 100

/-! ## Entries -/

/-- `BuildHistoryEndpoint`; `none` is an unknown family. -/
def buildHistoryEndpoint (row : ConnectionHistoryRow × HostRow) : Option Endpoint :=
  let port := UInt16.ofInt row.1.port
  if row.2.family = 4 then
    -- other lengths are the zero address
    if row.2.ipAddress.length = 4 then
      some { address := IPAddress.setBytes {} row.2.ipAddress .ipv4, port }
    else some { address := { family := .ipv4 }, port }
  else if row.2.family = 6 then
    some { address := IPAddress.setBytes {} row.2.ipAddress .ipv6, port }
  else none

/-- The entry of a past connection. -/
def historyEntry (ce : ConnectionHistoryRow) (appName : String) (endpoint : Endpoint) :
    HistoryResponseEntry :=
  { appName, endpoint, dataIn := ce.dataIn.toNat, dataOut := ce.dataOut.toNat,
    startTime := ce.startTime, endTime := ce.endTime }

/-- `AppendEndpointHistoryEntries`. -/
def appendEndpointHistoryEntries (rows : List (ConnectionHistoryRow × HostRow)) :
    List HistoryResponseEntry :=
  rows.filterMap fun row => (buildHistoryEndpoint row).map (historyEntry row.1 "")

/-- The entries of a request for a host, which do not say the endpoint. -/
def appEntries (rows : List (ConnectionHistoryRow × TrafficItemRow)) : List HistoryResponseEntry :=
  rows.map fun row => historyEntry row.1 row.2.name {}

theorem length_appendEndpointHistoryEntries {rows : List (ConnectionHistoryRow × HostRow)}
    (h : ∀ row ∈ rows, row.2.family = 4 ∨ row.2.family = 6) :
    (appendEndpointHistoryEntries rows).length = rows.length := by
  induction rows with
  | nil => rfl
  | cons row rows ih =>
    rw [List.forall_mem_cons] at h
    have hsome : ∃ endpoint, buildHistoryEndpoint row = some endpoint := by
      unfold buildHistoryEndpoint
      rcases h.1 with h4 | h6
      · rw [if_pos h4]
        split <;> exact ⟨_, rfl⟩
      · rw [if_neg (by rw [h6]; decide), if_pos h6]
        exact ⟨_, rfl⟩
    obtain ⟨endpoint, hendpoint⟩ := hsome
    have hrest := ih h.2
    unfold appendEndpointHistoryEntries at hrest ⊢
    rw [List.filterMap_cons_some (by rw [hendpoint]; rfl), List.length_cons, List.length_cons,
      hrest]

/-! ## Requests -/

/-- What a helper has done: whether it has finished the promise with the empty string, and the
response it has filled. -/
structure Handled where
  bFinished : Bool := false
  response : HistoryResponse

/-- The response of a request whose target is not there. -/
def notFound (request : HistoryRequest) : Handled :=
  { bFinished := true, response := { requestId := request.requestId } }

/-- `ProcessHostHistoryRequest`. -/
def processHostHistoryRequest (db : HistoryDb) (request : HistoryRequest) (ip : IPAddress) :
    Handled :=
  match front order (db.hosts.filter (·.ipAddress = getBytesVector ip)) with
  | none => notFound request
  | some host =>
    let count := (db.withItems.filter (·.1.remoteHostId = host.id)).length
    let rows := page order (db.withItems.filter (·.1.remoteHostId = host.id)) request.offset
    { response :=
        { requestId := request.requestId, entries := appEntries rows, numTotalEntries := count } }

/-- `ProcessAppHistoryRequest`. -/
def processAppHistoryRequest (db : HistoryDb) (request : HistoryRequest) : Handled :=
  match front order (db.trafficItems.filter (·.name = request.targetName)) with
  | none => notFound request
  | some item =>
    let count := (db.withHosts.filter (·.1.itemId = item.id)).length
    let rows := page order (db.withHosts.filter (·.1.itemId = item.id)) request.offset
    { response :=
        { requestId := request.requestId, entries := appendEndpointHistoryEntries rows,
          numTotalEntries := count } }

/-- The response from the number of rows of one condition on the systems and the page of another. -/
def asnResponse (db : HistoryDb) (request : HistoryRequest) (counted selected : AsnRow → Bool) :
    Handled :=
  { response :=
      { requestId := request.requestId
        entries := appendEndpointHistoryEntries (page order (db.ofAsns selected) request.offset)
        numTotalEntries := (db.ofAsns counted).length } }

/-- `ProcessCountryHistoryRequest`. -/
def processCountryHistoryRequest (db : HistoryDb) (request : HistoryRequest) : Option Handled := do
  let counted ← substrAt request.targetName 8
  let selected ← substrAt request.targetName 8
  return asnResponse order db request (·.country = counted) (·.country = selected)

/-- `ProcessOrgHistoryRequest`. -/
def processOrgHistoryRequest (db : HistoryDb) (request : HistoryRequest) : Option Handled := do
  let counted ← substrAt request.targetName 8
  let selected ← substrAt request.targetName 4
  return asnResponse order db request (·.country = counted) (·.organization = selected)

/-- `ProcessAsnHistoryRequest`. -/
def processAsnHistoryRequest (db : HistoryDb) (request : HistoryRequest) : Option Handled := do
  let asnInt := parseInt (← substrAt request.targetName 4)
  if asnInt = 0 then return notFound request
  let counted ← substrAt request.targetName 8
  return asnResponse order db request (·.country = counted) (·.number = asnInt.toNat)

/-- `WStatsManager::ProcessHistoryRequest` up to the last `Finish`; `none` is a `std::out_of_range`
that leaves it. -/
def processHistoryRequest (db : HistoryDb) (request : HistoryRequest) : Option Handled :=
  match request.hostTarget with
  | some ip => some (processHostHistoryRequest order db request ip)
  | none =>
    if startsWith request.targetName "asn:" then processAsnHistoryRequest order db request
    else if startsWith request.targetName "org:" then processOrgHistoryRequest order db request
    else if startsWith request.targetName "country:" then
      processCountryHistoryRequest order db request
    else some (processAppHistoryRequest order db request)

/-! ## All rows of a request -/

/-- What the row query of a request matches, without a limit and an offset; there is no row query
for a target that is not there. -/
def HistoryRequest.matched (db : HistoryDb) (request : HistoryRequest) :
    List HistoryResponseEntry :=
  match request.hostTarget with
  | some ip =>
    match front order (db.hosts.filter (·.ipAddress = getBytesVector ip)) with
    | none => []
    | some host =>
      appEntries (order.order (db.withItems.filter (·.1.remoteHostId = host.id)))
  | none =>
    if startsWith request.targetName "asn:" then
      let asnInt := parseInt (substr request.targetName 4)
      if asnInt = 0 then []
      else appendEndpointHistoryEntries (order.order (db.ofAsns (·.number = asnInt.toNat)))
    else if startsWith request.targetName "org:" then
      appendEndpointHistoryEntries
        (order.order (db.ofAsns (·.organization = substr request.targetName 4)))
    else if startsWith request.targetName "country:" then
      appendEndpointHistoryEntries
        (order.order (db.ofAsns (·.country = substr request.targetName 8)))
    else
      match front order (db.trafficItems.filter (·.name = request.targetName)) with
      | none => []
      | some item =>
        appendEndpointHistoryEntries
          (order.order (db.withHosts.filter (·.1.itemId = item.id)))

/-- The request for another page. -/
def HistoryRequest.at (request : HistoryRequest) (offset : Nat) : HistoryRequest :=
  { request with offset }

/-- A request counts and pages consistently: nothing is thrown, the number of entries is that of the
rows, and the pages make up the rows. -/
structure Consistent (db : HistoryDb) (request : HistoryRequest) : Prop where
  returns : ∀ offset, processHistoryRequest order db (request.at offset) ≠ none
  total : ∀ offset handled, processHistoryRequest order db (request.at offset) = some handled →
    handled.response.numTotalEntries = (request.matched order db).length
  pages : ∀ n, (request.matched order db).length ≤ 100 * n →
    ((List.range n).flatMap fun k =>
      ((processHistoryRequest order db (request.at (100 * k))).map (·.response.entries)).getD []) =
        request.matched order db

/-- The number is asked for the rows of that country, and the text of an organization or a system
reaches to it. -/
def Counts (db : HistoryDb) (request : HistoryRequest) (selected : AsnRow → Bool) : Prop :=
  8 ≤ request.targetName.toList.length ∧
    (db.ofAsns (·.country = substr request.targetName 8)).length = (db.ofAsns selected).length

/-- The target is no organization or system, or a system of the number 0, or it counts. -/
def TargetCounts (db : HistoryDb) (request : HistoryRequest) : Prop :=
  request.hostTarget = none →
    (startsWith request.targetName "asn:" = true →
      parseInt (substr request.targetName 4) ≠ 0 →
        Counts db request (·.number = (parseInt (substr request.targetName 4)).toNat)) ∧
    (startsWith request.targetName "asn:" = false →
      startsWith request.targetName "org:" = true →
        Counts db request (·.organization = substr request.targetName 4))

/-! ## Pages -/

theorem flatMap_pages {α : Type} (l : List α) (width : Nat) : ∀ n,
    ((List.range n).flatMap fun k => (l.drop (width * k)).take width) = l.take (width * n)
  | 0 => by rw [Nat.mul_zero, List.take_zero]; rfl
  | n + 1 => by
    rw [List.range_succ, List.flatMap_append, flatMap_pages l width n, List.flatMap_singleton,
      Nat.mul_succ, List.take_add]

/-- The pages of a query, entry by entry. -/
theorem flatMap_page {α β : Type} (rows : List α) (f : α → Option β) {n : Nat}
    (h : (rows.filterMap f).length = rows.length) (hn : (rows.filterMap f).length ≤ 100 * n) :
    ((List.range n).flatMap fun k => (page order rows (100 * k)).filterMap f) =
      (order.order rows).filterMap f := by
  have hlength : (order.order rows).length ≤ 100 * n := by
    rw [(order.perm rows).length_eq, ← h]
    exact hn
  have hpages := congrArg (List.filterMap f) (flatMap_pages (order.order rows) 100 n)
  rw [List.take_of_length_le hlength] at hpages
  rw [← hpages, List.filterMap_flatMap]
  rfl

theorem length_le_of_startsWith {str pre : String} (h : startsWith str pre = true) :
    pre.toList.length ≤ str.toList.length :=
  (List.isPrefixOf_iff_prefix.mp h).length_le

theorem length_filterMap_order {α β : Type} (rows : List α) (f : α → Option β) :
    ((order.order rows).filterMap f).length = (rows.filterMap f).length :=
  ((order.perm rows).filterMap f).length_eq

theorem substrAt_of_le {str : String} {pos : Nat} (h : pos ≤ str.toList.length) :
    substrAt str pos = some (substr str pos) := if_pos h

theorem appEntries_eq (rows : List (ConnectionHistoryRow × TrafficItemRow)) :
    appEntries rows = rows.filterMap fun row => some (historyEntry row.1 row.2.name {}) :=
  List.filterMap_eq_map.symm ▸ rfl

/-! ## When a request is consistent -/

section

variable {order} {db : HistoryDb} {request : HistoryRequest}

/-- A request that is answered with pages of one query is consistent exactly when it counts as many
rows as that query has. -/
theorem consistent_pages_iff {α : Type} (rows : List α) (f : α → Option HistoryResponseEntry)
    (count : Nat) (hprocess : ∀ offset, ∃ handled,
      processHistoryRequest order db (request.at offset) = some handled ∧
      handled.response.entries = (page order rows offset).filterMap f ∧
      handled.response.numTotalEntries = count)
    (hmatched : request.matched order db = (order.order rows).filterMap f)
    (hrows : (rows.filterMap f).length = rows.length) :
    Consistent order db request ↔ count = rows.length := by
  have hlength : (request.matched order db).length = rows.length := by
    rw [hmatched, length_filterMap_order, hrows]
  constructor
  · intro h
    obtain ⟨handled, hhandled, -, hcount⟩ := hprocess 0
    rw [← hcount, h.total 0 handled hhandled, hlength]
  · intro hcount
    refine ⟨fun offset hnone => ?_, fun offset handled hhandled => ?_, fun n hn => ?_⟩
    · obtain ⟨handled, hhandled, -⟩ := hprocess offset
      rw [hnone] at hhandled
      cases hhandled
    · obtain ⟨handled', hhandled', -, hcount'⟩ := hprocess offset
      rw [hhandled'] at hhandled
      cases hhandled
      rw [hcount', hcount, hlength]
    · rw [hmatched, ← flatMap_page order rows f hrows (by rw [hrows, ← hlength]; exact hn)]
      refine List.flatMap_congr fun k _ => ?_
      obtain ⟨handled, hhandled, hentries, -⟩ := hprocess (100 * k)
      rw [hhandled, ← hentries]
      rfl

/-- Nothing is there, and nothing is asked for. -/
theorem consistent_notFound (hmatched : request.matched order db = [])
    (hprocess : ∀ offset, processHistoryRequest order db (request.at offset) =
      some (notFound (request.at offset))) : Consistent order db request := by
  refine (consistent_pages_iff ([] : List Unit) (fun _ => none) 0
    (fun offset => ⟨_, hprocess offset, ?_, rfl⟩) ?_ rfl).mpr rfl
  · exact (List.filterMap_none _).symm
  · rw [hmatched]
    exact (List.filterMap_none _).symm

/-- A request for the rows of some systems. -/
theorem consistent_asns_iff (counted selected : AsnRow → Bool)
    (hmatched : request.matched order db =
      appendEndpointHistoryEntries (order.order (db.ofAsns selected)))
    (hprocess : ∀ offset, processHistoryRequest order db (request.at offset) =
      some (asnResponse order db (request.at offset) counted selected)) :
    Consistent order db request ↔ (db.ofAsns counted).length = (db.ofAsns selected).length :=
  consistent_pages_iff _ _ _ (fun offset => ⟨_, hprocess offset, rfl, rfl⟩) hmatched
    (length_appendEndpointHistoryEntries (db.ofAsns_check selected))

theorem consistent_host {ip : IPAddress} (hhost : request.hostTarget = some ip) :
    Consistent order db request := by
  cases hfront : front order (db.hosts.filter (·.ipAddress = getBytesVector ip)) with
  | none =>
    refine consistent_notFound ?_ fun offset => ?_
    · simp only [HistoryRequest.matched, hhost, hfront]
    · simp only [processHistoryRequest, HistoryRequest.at, hhost, processHostHistoryRequest, hfront]
  | some host =>
    refine (consistent_pages_iff (db.withItems.filter (·.1.remoteHostId = host.id))
      (fun row => some (historyEntry row.1 row.2.name {})) _ (fun offset => ?_) ?_ ?_).mpr rfl
    · simp only [processHistoryRequest, HistoryRequest.at, hhost, processHostHistoryRequest, hfront]
      exact ⟨_, rfl, appEntries_eq _, rfl⟩
    · simp only [HistoryRequest.matched, hhost, hfront]
      exact appEntries_eq _
    · rw [← appEntries_eq, appEntries, List.length_map]

theorem consistent_app (hhost : request.hostTarget = none)
    (hasn : startsWith request.targetName "asn:" = false)
    (horg : startsWith request.targetName "org:" = false)
    (hcountry : startsWith request.targetName "country:" = false) :
    Consistent order db request := by
  have hprocess : ∀ offset, processHistoryRequest order db (request.at offset) =
      some (processAppHistoryRequest order db (request.at offset)) := by
    intro offset
    simp only [processHistoryRequest, HistoryRequest.at, hhost, hasn, horg, hcountry,
      Bool.false_eq_true, if_false]
  cases hfront : front order (db.trafficItems.filter (·.name = request.targetName)) with
  | none =>
    refine consistent_notFound ?_ fun offset => ?_
    · simp only [HistoryRequest.matched, hhost, hasn, horg, hcountry, Bool.false_eq_true, if_false,
        hfront]
    · have hfront' : front order
          (db.trafficItems.filter (·.name = (request.at offset).targetName)) = none := hfront
      rw [hprocess, processAppHistoryRequest, hfront']
  | some item =>
    refine (consistent_pages_iff (db.withHosts.filter (·.1.itemId = item.id))
      (fun row => (buildHistoryEndpoint row).map (historyEntry row.1 "")) _ (fun offset => ?_) ?_
      (length_appendEndpointHistoryEntries fun row hrow =>
        db.withHosts_check row (List.mem_of_mem_filter hrow))).mpr rfl
    · have hfront' : front order
          (db.trafficItems.filter (·.name = (request.at offset).targetName)) = some item := hfront
      rw [hprocess, processAppHistoryRequest, hfront']
      exact ⟨_, rfl, rfl, rfl⟩
    · simp only [HistoryRequest.matched, hhost, hasn, horg, hcountry, Bool.false_eq_true, if_false,
        hfront]
      rfl

theorem consistent_country (hhost : request.hostTarget = none)
    (hasn : startsWith request.targetName "asn:" = false)
    (horg : startsWith request.targetName "org:" = false)
    (hcountry : startsWith request.targetName "country:" = true) :
    Consistent order db request := by
  -- the prefix is as long as the part that is cut off
  have hlength : 8 ≤ request.targetName.toList.length := length_le_of_startsWith hcountry
  refine (consistent_asns_iff (·.country = substr request.targetName 8)
    (·.country = substr request.targetName 8) ?_ fun offset => ?_).mpr rfl
  · simp only [HistoryRequest.matched, hhost, hasn, horg, hcountry, Bool.false_eq_true, if_false,
      if_true]
  · simp only [processHistoryRequest, HistoryRequest.at, hhost, hasn, horg, hcountry,
      Bool.false_eq_true, if_false, if_true, processCountryHistoryRequest, substrAt_of_le hlength]
    rfl

theorem consistent_org_iff (hhost : request.hostTarget = none)
    (hasn : startsWith request.targetName "asn:" = false)
    (horg : startsWith request.targetName "org:" = true) :
    Consistent order db request ↔
      Counts db request (·.organization = substr request.targetName 4) := by
  have hshort : 4 ≤ request.targetName.toList.length := length_le_of_startsWith horg
  have hprocess : ∀ offset, processHistoryRequest order db (request.at offset) =
      processOrgHistoryRequest order db (request.at offset) := by
    intro offset
    simp only [processHistoryRequest, HistoryRequest.at, hhost, hasn, horg, Bool.false_eq_true,
      if_false, if_true]
  by_cases hlength : 8 ≤ request.targetName.toList.length
  · rw [Counts, and_iff_right hlength]
    refine consistent_asns_iff _ _ ?_ fun offset => ?_
    · simp only [HistoryRequest.matched, hhost, hasn, horg, Bool.false_eq_true, if_false, if_true]
    · rw [hprocess]
      simp only [processOrgHistoryRequest, HistoryRequest.at, substrAt_of_le hlength,
        substrAt_of_le hshort]
      rfl
  · refine iff_of_false (fun h => h.returns 0 ?_) fun h => hlength h.1
    have hthrow : substrAt (request.at 0).targetName 8 = none := if_neg hlength
    rw [hprocess, processOrgHistoryRequest, hthrow]
    rfl

variable (request) in
theorem processAsnHistoryRequest_eq (hshort : 4 ≤ request.targetName.toList.length) :
    processAsnHistoryRequest order db request =
      if parseInt (substr request.targetName 4) = 0 then some (notFound request)
      else (substrAt request.targetName 8).map fun counted =>
        asnResponse order db request (·.country = counted)
          (·.number = (parseInt (substr request.targetName 4)).toNat) := by
  rw [processAsnHistoryRequest, substrAt_of_le hshort, Option.bind_eq_bind, Option.bind_some]
  generalize parseInt (substr request.targetName 4) = asnInt
  by_cases hnumber : asnInt = 0
  · simp only [if_pos hnumber]
    rfl
  · simp only [if_neg hnumber]
    cases substrAt request.targetName 8 <;> rfl

theorem consistent_asn_iff (hhost : request.hostTarget = none)
    (hasn : startsWith request.targetName "asn:" = true) :
    Consistent order db request ↔ (parseInt (substr request.targetName 4) ≠ 0 →
      Counts db request (·.number = (parseInt (substr request.targetName 4)).toNat)) := by
  have hshort : 4 ≤ request.targetName.toList.length := length_le_of_startsWith hasn
  have hprocess : ∀ offset, processHistoryRequest order db (request.at offset) =
      if parseInt (substr request.targetName 4) = 0 then some (notFound (request.at offset))
      else (substrAt request.targetName 8).map fun counted =>
        asnResponse order db (request.at offset) (·.country = counted)
          (·.number = (parseInt (substr request.targetName 4)).toNat) := by
    intro offset
    refine Eq.trans ?_ (processAsnHistoryRequest_eq (request.at offset) hshort)
    simp only [processHistoryRequest, HistoryRequest.at, hhost, hasn, if_true]
  by_cases hnumber : parseInt (substr request.targetName 4) = 0
  · refine iff_of_true (consistent_notFound ?_ fun offset => ?_) fun h => absurd hnumber h
    · simp only [HistoryRequest.matched, hhost, hasn, if_true, hnumber]
    · rw [hprocess, if_pos hnumber]
  · rw [imp_iff_right hnumber]
    by_cases hlength : 8 ≤ request.targetName.toList.length
    · rw [Counts, and_iff_right hlength]
      refine consistent_asns_iff _ _ ?_ fun offset => ?_
      · simp only [HistoryRequest.matched, hhost, hasn, if_true, if_neg hnumber]
      · rw [hprocess, if_neg hnumber, substrAt_of_le hlength, Option.map_some]
    · refine iff_of_false (fun h => h.returns 0 ?_) fun h => hlength h.1
      have hthrow : substrAt request.targetName 8 = none := if_neg hlength
      rw [hprocess, if_neg hnumber, hthrow, Option.map_none]

end

/-- **A request counts and pages consistently exactly when its target counts**: one of a host,
an application or a country always is. -/
theorem consistent_iff (db : HistoryDb) (request : HistoryRequest) :
    Consistent order db request ↔ TargetCounts db request := by
  cases hhost : request.hostTarget with
  | some ip =>
    refine iff_of_true (consistent_host hhost) fun hnone => ?_
    rw [hhost] at hnone
    cases hnone
  | none =>
    rw [TargetCounts, imp_iff_right hhost]
    cases hasn : startsWith request.targetName "asn:" with
    | true =>
      rw [consistent_asn_iff hhost hasn]
      exact ⟨fun h => ⟨fun _ => h, (fun hf => nomatch hf)⟩, fun h => h.1 rfl⟩
    | false =>
      cases horg : startsWith request.targetName "org:" with
      | true =>
        rw [consistent_org_iff hhost hasn horg]
        exact ⟨fun h => ⟨(fun hf => nomatch hf), fun _ _ => h⟩, fun h => h.2 rfl rfl⟩
      | false =>
        refine iff_of_true ?_ ⟨(fun hf => nomatch hf), fun _ hf => nomatch hf⟩
        cases hcountry : startsWith request.targetName "country:" with
        | true => exact consistent_country hhost hasn horg hcountry
        | false => exact consistent_app hhost hasn horg hcountry

/-- One past connection to a host of the organization ACME. -/
def acmeDb : HistoryDb where
  asns := [{ id := 1, number := 64496, organization := "ACME", country := "us" }]
  hosts := [{ id := 1, family := 4, ipAddress := [1, 0, 0, 1], asnId := some 1 }]
  connectionHistory := [{ id := 1, itemId := 1, remoteHostId := 1, startTime := 0, endTime := 1 }]
  family_check := by decide

/-- The request for that organization counts the rows of the country without a name, none, and
returns the connection. -/
theorem inconsistent_org :
    ¬ Consistent .stored acmeDb { requestId := 1, targetName := "org:ACME" } := by
  intro h
  have htotal := h.total 0 _ rfl
  revert htotal
  decide

end Waechter.StatsManager
