import Mathlib.Algebra.Group.Nat.Defs
import Mathlib.Algebra.Group.Prod
import Waechter.Lib.Buckets
import Waechter.Lib.Calendar
import Waechter.Lib.Run
import Waechter.Lib.UMap
import Waechter.Util.IPAddress
import Waechter.Util.TrafficItem

/-!
# The statistics

`WStatsManager` (`Db/StatsManager.cpp`): `UpdateAppStats` and `UpdateFilterStats` add to the current
snapshot, `MakeSnapshot` writes it to the database and starts a new one, and `ProcessStatsRequest`
sums the rows of a time range up in buckets of hours, days or months.

The tables are lists of rows in the order of insertion; an `INTEGER PRIMARY KEY` is drawn as the
largest one so far plus one. `order` is the order in which the hash maps are visited,
`WIP2Asn::LookupSync` and `WIPAddress::FromString` (which calls `inet_pton`) are parameters, and
times are not bounded by the range of `tm_year`.

Nothing in a traffic event says what kind of item it belongs to, but only the rows of applications
have a `HostID`. A request for the whole system adds up all of them.

* `fixedGrid`, `monthGrid`: the buckets of a request cut the range at the hours, days or months.
* `bucketOf_mem_iff`: every snapshot of the range has its bucket.
* `total_system`: what a request for the system adds up.
-/

namespace Waechter

open Lib

/-- `WSec`. -/
abbrev Sec := Int

namespace StatsManager

/-- `WTrafficStats`. -/
structure TrafficStats where
  bytesIn : WBytes := 0
  bytesOut : WBytes := 0

/-- `WItemStats`. -/
structure ItemStats where
  applicationPath : String := ""
  traffic : UMap IPAddress TrafficStats := ∅

/-- `WSnapshot`. -/
structure Snapshot where
  apps : UMap TrafficItemId ItemStats := ∅
  filters : UMap String TrafficStats := ∅

/-! ## The current snapshot -/

/-- `WStatsManager::UpdateFilterStats`. -/
def updateFilterStats (s : Snapshot) (filterName : String) (bytesIn bytesOut : WBytes) : Snapshot :=
  if bytesIn = 0 ∧ bytesOut = 0 then s
  else
    match s.filters.lookup filterName with
    | some stats => { s with
        filters := s.filters.insert filterName
          { bytesIn := stats.bytesIn + bytesIn, bytesOut := stats.bytesOut + bytesOut } }
    | none => { s with filters := s.filters.insert filterName { bytesIn, bytesOut } }

/-- `WStatsManager::UpdateAppStats`. -/
def updateAppStats (s : Snapshot) (appId : TrafficItemId) (applicationPath : String)
    (remoteHost : IPAddress) (bytesIn bytesOut : WBytes) : Snapshot :=
  -- empty traffic is only pushed to bring the average down to 0
  if bytesIn = 0 ∧ bytesOut = 0 then s
  else
    match s.apps.lookup appId with
    | some app =>
      let name := if app.applicationPath = "" then applicationPath else app.applicationPath
      let stats := match app.traffic.lookup remoteHost with
        | some stats =>
          { bytesIn := stats.bytesIn + bytesIn, bytesOut := stats.bytesOut + bytesOut }
        | none => { bytesIn, bytesOut }
      { s with
        apps := s.apps.insert appId
          { applicationPath := name, traffic := app.traffic.insert remoteHost stats } }
    | none => { s with
        apps := s.apps.insert appId
          { applicationPath,
            traffic := (∅ : UMap IPAddress TrafficStats).insert remoteHost
              { bytesIn, bytesOut } } }

/-! ## The database -/

structure AsnRow where
  id : Int
  number : Nat
  organization : String
  country : String

structure HostRow where
  id : Int
  family : Int
  ipAddress : List UInt8
  asnId : Option Int

structure TrafficItemRow where
  id : Int
  name : String

structure TrafficSnapshotRow where
  id : Int
  start : Sec

structure TrafficEventRow where
  id : Int
  snapshotId : Int
  itemId : Int
  hostId : Option Int
  bytesIn : Int
  bytesOut : Int

structure Db where
  asns : List AsnRow := []
  hosts : List HostRow := []
  trafficItems : List TrafficItemRow := []
  trafficSnapshots : List TrafficSnapshotRow := []
  trafficEvents : List TrafficEventRow := []

/-- The key SQLite draws for a new row. -/
def nextId (ids : List Int) : Int := ids.foldr max 0 + 1

/-- `WIP2AsnLookupResult`. -/
structure AsnLookupResult where
  asn : Nat
  country : String
  organization : String

/-- `WIPAddress::GetBytesVector`. -/
def getBytesVector (ip : IPAddress) : List UInt8 :=
  match ip.family with
  | .ipv4 => ip.bytes.toList.take 4
  | .ipv6 => ip.bytes.toList
  | .unknown => []

/-- `EIPFamily::Type` as a number, 4 for the unknown one. -/
def familyNumber (ip : IPAddress) : Int :=
  match ip.family with
  | .unknown => 4
  | .ipv4 => 4
  | .ipv6 => 6

namespace Db

/-- The `ID` of the item of that name, inserted when there is none. -/
def findOrInsertItem (db : Db) (name : String) : Int × Db :=
  match db.trafficItems.find? (·.name = name) with
  | some row => (row.id, db)
  | none =>
    let id := nextId (db.trafficItems.map (·.id))
    (id, { db with trafficItems := db.trafficItems ++ [{ id, name }] })

/-- The `ID` of the autonomous system, inserted when there is none. -/
def findOrInsertAsn (db : Db) (asn : AsnLookupResult) : Int × Db :=
  match db.asns.find? fun row =>
    row.number = asn.asn ∧ row.country = asn.country ∧ row.organization = asn.organization with
  | some row => (row.id, db)
  | none =>
    let id := nextId (db.asns.map (·.id))
    (id, { db with
      asns := db.asns ++ [
        { id, number := asn.asn, organization := asn.organization, country := asn.country }] })

/-- The `ID` of the host, inserted when there is none. -/
def findOrInsertHost (db : Db) (ip : IPAddress) (asnId : Int) : Int × Db :=
  match db.hosts.find? (·.ipAddress = getBytesVector ip) with
  | some row => (row.id, db)
  | none =>
    let id := nextId (db.hosts.map (·.id))
    (id, { db with
      hosts := db.hosts ++ [
        { id, family := familyNumber ip, ipAddress := getBytesVector ip,
          asnId := if 0 < asnId then some asnId else none }] })

/-- Insert a traffic event. -/
def insertEvent (db : Db) (snapshotId itemId : Int) (hostId : Option Int) (traffic : TrafficStats) :
    Db :=
  { db with
    trafficEvents := db.trafficEvents ++ [
      { id := nextId (db.trafficEvents.map (·.id)), snapshotId, itemId, hostId,
        bytesIn := traffic.bytesIn, bytesOut := traffic.bytesOut }] }

end Db

variable (order : IterOrder)

/-- The rows of the traffic of an application with one host. -/
def writeTraffic (lookupSync : IPAddress → Option AsnLookupResult) (snapshotId itemId : Int)
    (db : Db) (e : IPAddress × TrafficStats) : Db :=
  let (asnId, db) := match lookupSync e.1 with
    | some asn => db.findOrInsertAsn asn
    | none => (0, db)
  let (hostId, db) := db.findOrInsertHost e.1 asnId
  db.insertEvent snapshotId itemId (some hostId) e.2

/-- The rows of an application; one without a path is skipped. -/
def writeApp (lookupSync : IPAddress → Option AsnLookupResult) (snapshotId : Int) (db : Db)
    (app : ItemStats) : Db :=
  if app.applicationPath = "" then db
  else
    let (itemId, db) := db.findOrInsertItem app.applicationPath
    (order.entries app.traffic).foldl (writeTraffic lookupSync snapshotId itemId) db

/-- The row of a filter, which has no host. -/
def writeFilter (snapshotId : Int) (db : Db) (e : String × TrafficStats) : Db :=
  let (itemId, db) := db.findOrInsertItem e.1
  db.insertEvent snapshotId itemId none e.2

/-- What `WStatsManager::MakeSnapshot` writes of the snapshot it took. -/
def writeSnapshot (now : Sec) (lookupSync : IPAddress → Option AsnLookupResult) (db : Db)
    (s : Snapshot) : Db :=
  let snapshotId := nextId (db.trafficSnapshots.map (·.id))
  let db := { db with
    trafficSnapshots := db.trafficSnapshots ++ [{ id := snapshotId, start := now }] }
  let db := (order.values s.apps).foldl (writeApp order lookupSync snapshotId) db
  (order.entries s.filters).foldl (writeFilter snapshotId) db

/-! ## Requests -/

/-- `WStatsRequest`. -/
structure StatsRequest where
  requestId : UInt32
  startTime : Sec
  endTime : Sec
  target : String

/-- `WStatData`. -/
structure StatData where
  bytesIn : WBytes := 0
  bytesOut : WBytes := 0
  timestamp : Sec

/-- `WStatsResponse`. -/
structure StatsResponse where
  dataPoints : List StatData
  requestId : UInt32

/-- `struct tm`, without the fields that `timegm` does not read. -/
structure Tm where
  tmSec : Int
  tmMin : Int
  tmHour : Int
  tmMday : Int
  tmMon : Int
  tmYear : Int

/-- `gmtime_r`. -/
def gmtime (t : Sec) : Tm :=
  let day := t / 86400
  let month := Calendar.monthIndex day
  { tmSec := t % 60
    tmMin := t / 60 % 60
    tmHour := t / 3600 % 24
    tmMday := day - Calendar.firstDay month + 1
    tmMon := month % 12
    tmYear := month / 12 - 1900 }

/-- `timegm`. -/
def timegm (tm : Tm) : Sec :=
  86400 * (Calendar.firstDay (12 * (tm.tmYear + 1900) + tm.tmMon) + tm.tmMday - 1) +
    3600 * tm.tmHour + 60 * tm.tmMin + tm.tmSec

/-- The width of the buckets of a request: `none` for months. -/
def bucketSecs (duration : Sec) : Option Sec :=
  if 31 * 86400 < duration then none
  else if duration ≤ 24 * 3600 then some 3600
  else some 86400

/-- `GetBucketStart`: a time rounded to the start of its bucket. The division of `int64_t` rounds
towards 0. -/
def getBucketStart (secs : Option Sec) (t : Sec) : Sec :=
  match secs with
  | none => timegm { gmtime t with tmMday := 1, tmHour := 0, tmMin := 0, tmSec := 0 }
  | some secs => t.tdiv secs * secs

/-- `NextBucket`. -/
def nextBucket (secs : Option Sec) (t : Sec) : Sec :=
  match secs with
  | none =>
    let tm := gmtime t
    if 11 < tm.tmMon + 1 then timegm { tm with tmMon := 0, tmYear := tm.tmYear + 1 }
    else timegm { tm with tmMon := tm.tmMon + 1 }
  | some secs => t + secs

/-- The empty buckets of a request. -/
def initialBuckets (secs : Option Sec) (request : StatsRequest) : List StatData :=
  (Buckets.range (getBucketStart secs) (nextBucket secs) request.startTime request.endTime).map
    fun t => { timestamp := t }

/-- The start of the bucket of a snapshot. It is written when its interval ends, so it belongs to
the bucket of the second before. -/
def bucketOf (secs : Option Sec) (snapshotStart : Sec) : Sec :=
  getBucketStart secs (max 0 (snapshotStart - 1))

/-- `Accumulate`. -/
def accumulate (secs : Option Sec) (buckets : List StatData) (row : Sec × TrafficEventRow) :
    List StatData :=
  buckets.map fun data =>
    if data.timestamp = bucketOf secs row.1 then
      { data with
        bytesIn := data.bytesIn + row.2.bytesIn.toNat
        bytesOut := data.bytesOut + row.2.bytesOut.toNat }
    else data

/-- `ETargetType`. -/
inductive TargetType where
  | system
  | binaryOrFilter
  | asn
  | country
  | organization
  | host
  deriving DecidableEq

/-- `WStringFormat::StartsWith`. -/
def startsWith (str pre : String) : Bool := pre.toList.isPrefixOf str.toList

/-- `std::string::substr(pos)`. -/
def substr (str : String) (pos : Nat) : String := String.ofList (str.toList.drop pos)

/-- The value of leading decimal digits, `none` when there is none. -/
def leadingNumber (cs : List Char) : Option Nat :=
  match cs.takeWhile Char.isDigit with
  | [] => none
  | digits => some (digits.foldl (fun n c => 10 * n + (c.toNat - '0'.toNat)) 0)

/-- `isspace`. -/
def isSpace (c : Char) : Bool := c == ' ' || (9 ≤ c.toNat && c.toNat ≤ 13)

/-- `WStringFormat::ParseInt`: `std::stoul`, and 0 when that throws. -/
def parseInt (str : String) : UInt32 :=
  let number (cs : List Char) : Option Nat := (leadingNumber cs).filter (· < 2 ^ 64)
  match str.toList.dropWhile isSpace with
  | '-' :: cs => ((number cs).map fun n => UInt32.ofNat (2 ^ 64 - n)).getD 0
  | '+' :: cs => ((number cs).map UInt32.ofNat).getD 0
  | cs => ((number cs).map UInt32.ofNat).getD 0

def targetType (target : String) : TargetType :=
  if target = "system" then .system
  else if target.toList.head? = some '/' then .binaryOrFilter
  else if target = "LAN" ∨ target = "Internet" ∨ target = "Localhost" then .binaryOrFilter
  else if startsWith target "asn:" then .asn
  else if startsWith target "country:" then .country
  else if startsWith target "org:" then .organization
  else .host

namespace Db

/-- `TE.join(TS).on(TE.SnapshotID == TS.ID)`: the events with the time of their snapshot. -/
def events (db : Db) : List (Sec × TrafficEventRow) :=
  db.trafficEvents.flatMap fun te =>
    (db.trafficSnapshots.filter (te.snapshotId = ·.id)).map fun ts => (ts.start, te)

/-- `TS.Start > Request.StartTime && TS.Start <= Request.EndTime`. -/
def eventsOf (db : Db) (request : StatsRequest) : List (Sec × TrafficEventRow) :=
  db.events.filter fun row => request.startTime < row.1 ∧ row.1 ≤ request.endTime

/-- `.join(TrafficItem).on(TE.ItemID == TrafficItem.ID)`. -/
def joinItems (db : Db) (rows : List (Sec × TrafficEventRow)) :
    List ((Sec × TrafficEventRow) × TrafficItemRow) :=
  rows.flatMap fun row => (db.trafficItems.filter (row.2.itemId = ·.id)).map fun i => (row, i)

/-- `.join(Host).on(TE.HostID == Host.ID)`. -/
def joinHosts (db : Db) (rows : List (Sec × TrafficEventRow)) :
    List ((Sec × TrafficEventRow) × HostRow) :=
  rows.flatMap fun row => (db.hosts.filter (row.2.hostId = some ·.id)).map fun h => (row, h)

/-- `.join(Host).on(TE.HostID == Host.ID).join(Asn).on(Asn.ID == Host.AsnID)`. -/
def joinAsns (db : Db) (rows : List (Sec × TrafficEventRow)) :
    List ((Sec × TrafficEventRow) × AsnRow) :=
  (db.joinHosts rows).flatMap fun (row, h) =>
    (db.asns.filter (some ·.id = h.asnId)).map fun a => (row, a)

end Db

/-- The rows a request selects; `none` when its target is invalid. -/
def selectRows (fromString : String → Option IPAddress) (db : Db) (request : StatsRequest) :
    Option (List (Sec × TrafficEventRow)) :=
  let rows := db.eventsOf request
  let selectAsns (p : AsnRow → Bool) := ((db.joinAsns rows).filter (p ·.2)).map (·.1)
  match targetType request.target with
  | .system => some rows
  | .binaryOrFilter =>
    some (((db.joinItems rows).filter (·.2.name = request.target)).map (·.1))
  | .country => some (selectAsns (·.country = substr request.target 8))
  | .organization => some (selectAsns (·.organization = substr request.target 4))
  | .asn =>
    let asnInt := parseInt (substr request.target 4)
    if asnInt = 0 then none else some (selectAsns (·.number = asnInt.toNat))
  | .host =>
    (fromString request.target).map fun ip =>
      ((db.joinHosts rows).filter (·.2.ipAddress = getBytesVector ip)).map (·.1)

/-- `WStatsManager::ProcessStatsRequest`; `none` is the empty response of an invalid request. -/
def processStatsRequest (fromString : String → Option IPAddress) (db : Db)
    (request : StatsRequest) : Option StatsResponse :=
  let secs := bucketSecs (request.endTime - request.startTime)
  (selectRows fromString db request).map fun rows =>
    { dataPoints := rows.foldl (accumulate secs) (initialBuckets secs request)
      requestId := request.requestId }

/-! ## The buckets -/

/-- Buckets of a fixed width. -/
def fixedGrid (secs : Sec) (h : 0 < secs) :
    Buckets.Grid (getBucketStart (some secs)) (nextBucket (some secs)) where
  point := fun k => k * secs
  index := fun t => t.tdiv secs
  strictMono := fun _ _ hlt => Int.mul_lt_mul_of_pos_right hlt h
  mono := fun _ _ hle => Int.tdiv_le_tdiv h hle
  start_eq := fun _ => rfl
  next_point := fun k => by
    change k * secs + secs = (k + 1) * secs
    rw [Int.add_mul, Int.one_mul]
  start_le := fun t ht => by
    have hle := Int.tdiv_mul_le t (Int.ne_of_gt h)
    rwa [if_pos ht, Int.natCast_zero, Int.add_zero] at hle
  start_zero := by simp [getBucketStart]

theorem gmtime_firstDay (month : Int) :
    gmtime (86400 * Calendar.firstDay month) =
      { tmSec := 0, tmMin := 0, tmHour := 0, tmMday := 1, tmMon := month % 12,
        tmYear := month / 12 - 1900 } := by
  unfold gmtime
  have hday : 86400 * Calendar.firstDay month / 86400 = Calendar.firstDay month := by omega
  simp only [hday, Calendar.monthIndex_firstDay, Tm.mk.injEq, and_true]
  omega

theorem timegm_first (month : Int) :
    timegm { tmSec := 0, tmMin := 0, tmHour := 0, tmMday := 1, tmMon := month % 12,
             tmYear := month / 12 - 1900 } = 86400 * Calendar.firstDay month := by
  have hmonth : 12 * (month / 12 - 1900 + 1900) + month % 12 = month := by omega
  change 86400 * (Calendar.firstDay (12 * (month / 12 - 1900 + 1900) + month % 12) + 1 - 1) +
    3600 * 0 + 60 * 0 + 0 = 86400 * Calendar.firstDay month
  rw [hmonth]
  omega

/-- Buckets of a month each. -/
def monthGrid : Buckets.Grid (getBucketStart none) (nextBucket none) where
  point := fun k => 86400 * Calendar.firstDay k
  index := fun t => Calendar.monthIndex (t / 86400)
  strictMono := fun _ _ hlt => by
    have := Calendar.firstDay_strictMono hlt
    change 86400 * _ < 86400 * _
    omega
  mono := fun _ _ hle => Calendar.monthIndex_mono (Int.ediv_le_ediv (by decide) hle)
  start_eq := fun t => timegm_first (Calendar.monthIndex (t / 86400))
  next_point := fun k => by
    unfold nextBucket
    rw [gmtime_firstDay]
    simp only
    have hnext := timegm_first (k + 1)
    split
    · have hrem : (k + 1) % 12 = 0 := by omega
      have hdiv : (k + 1) / 12 = k / 12 + 1 := by omega
      rw [hrem, hdiv] at hnext
      rw [← hnext]
      congr 2
      omega
    · have hrem : (k + 1) % 12 = k % 12 + 1 := by omega
      have hdiv : (k + 1) / 12 = k / 12 := by omega
      rw [hrem, hdiv] at hnext
      exact hnext
  start_le := fun t _ => by
    have hstart : getBucketStart none t =
        86400 * Calendar.firstDay (Calendar.monthIndex (t / 86400)) := timegm_first _
    have hle := Calendar.firstDay_monthIndex_le (t / 86400)
    rw [hstart]
    omega
  start_zero := by decide

theorem bucketSecs_pos {duration secs : Sec} (h : bucketSecs duration = some secs) : 0 < secs := by
  unfold bucketSecs at h
  split at h
  · cases h
  · split at h <;> cases h <;> decide

/-- The buckets of a request form a grid. -/
def grid (duration : Sec) :
    Buckets.Grid (getBucketStart (bucketSecs duration)) (nextBucket (bucketSecs duration)) :=
  match h : bucketSecs duration with
  | none => monthGrid
  | some secs => fixedGrid secs (by
      unfold bucketSecs at h
      split at h
      · cases h
      · split at h <;> cases h <;> decide)

/-- **A snapshot of the range is added to one of the buckets of the request** as soon as the range
ends after the epoch. -/
theorem bucketOf_mem_iff (duration : Sec) {lo hi t : Int} (hlo : lo < t) (hhi : t ≤ hi) :
    bucketOf (bucketSecs duration) t ∈
        Buckets.range (getBucketStart (bucketSecs duration)) (nextBucket (bucketSecs duration))
          lo hi ↔ 1 ≤ hi := by
  have g := grid duration
  unfold bucketOf
  rw [g.start_mem_range (by omega)]
  rcases Int.lt_or_le 0 t with ht | ht
  · have hle := g.start_le (t - 1) (by omega)
    have hmax : max 0 (t - 1) = t - 1 := max_eq_right (by omega)
    rw [hmax]
    omega
  · have hmax : max 0 (t - 1) = 0 := max_eq_left (by omega)
    rw [hmax, g.start_zero]
    omega

/-! ## What a request for the system adds up -/

/-- The bytes of a row. -/
def TrafficEventRow.bytes (te : TrafficEventRow) : WBytes × WBytes :=
  (te.bytesIn.toNat, te.bytesOut.toNat)

/-- The bytes of all buckets, in and out. -/
def StatsResponse.total (response : StatsResponse) : WBytes × WBytes :=
  (response.dataPoints.map fun d => (d.bytesIn, d.bytesOut)).sum

/-- A data point as a bucket. -/
def StatData.bucket (data : StatData) : Sec × (WBytes × WBytes) :=
  (data.timestamp, (data.bytesIn, data.bytesOut))

theorem map_accumulate (secs : Option Sec) (row : Sec × TrafficEventRow) (buckets : List StatData) :
    (accumulate secs buckets row).map StatData.bucket =
      Buckets.addTo (bucketOf secs row.1) row.2.bytes (buckets.map StatData.bucket) := by
  unfold accumulate Buckets.addTo
  rw [List.map_map, List.map_map]
  refine List.map_congr_left fun d _ => ?_
  by_cases h : d.timestamp = bucketOf secs row.1
  · have hb : d.bucket.1 = bucketOf secs row.1 := h
    rw [Function.comp, Function.comp, if_pos h, if_pos hb]
    rfl
  · have hb : d.bucket.1 ≠ bucketOf secs row.1 := h
    rw [Function.comp, Function.comp, if_neg h, if_neg hb]

theorem map_foldl_accumulate (secs : Option Sec) : ∀ (rows : List (Sec × TrafficEventRow))
    (buckets : List StatData),
    (rows.foldl (accumulate secs) buckets).map StatData.bucket =
      (rows.map fun row => (bucketOf secs row.1, row.2.bytes)).foldl
        (fun bs e => Buckets.addTo e.1 e.2 bs) (buckets.map StatData.bucket)
  | [], _ => rfl
  | row :: rows, buckets => by
    rw [List.foldl_cons, map_foldl_accumulate secs rows, map_accumulate]
    rfl

theorem map_initialBuckets (secs : Option Sec) (request : StatsRequest) :
    (initialBuckets secs request).map StatData.bucket =
      (Buckets.range (getBucketStart secs) (nextBucket secs) request.startTime
        request.endTime).map fun t => (t, (0, 0)) := by
  unfold initialBuckets
  rw [List.map_map]
  rfl

theorem StatsResponse.total_eq (response : StatsResponse) :
    response.total = Buckets.total (response.dataPoints.map StatData.bucket) := by
  unfold StatsResponse.total Buckets.total
  rw [List.map_map]
  rfl

/-- The buckets add up the rows whose bucket is one of the request's. -/
theorem total_accumulate {secs : Option Sec}
    (g : Buckets.Grid (getBucketStart secs) (nextBucket secs)) (request : StatsRequest)
    (rows : List (Sec × TrafficEventRow)) :
    Buckets.total ((rows.foldl (accumulate secs) (initialBuckets secs request)).map
        StatData.bucket) =
      ((rows.filter fun row => bucketOf secs row.1 ∈
        Buckets.range (getBucketStart secs) (nextBucket secs) request.startTime
          request.endTime).map (·.2.bytes)).sum := by
  have hkeys : ((initialBuckets secs request).map StatData.bucket).map Prod.fst =
      Buckets.range (getBucketStart secs) (nextBucket secs) request.startTime request.endTime := by
    rw [map_initialBuckets, List.map_map]
    exact List.map_id' _
  have hnodup : (((initialBuckets secs request).map StatData.bucket).map Prod.fst).Nodup := by
    rw [hkeys]
    exact (g.sorted_range _ _).imp ne_of_lt
  have hzero : Buckets.total ((initialBuckets secs request).map StatData.bucket) = 0 := by
    rw [map_initialBuckets, Buckets.total, List.map_map]
    exact List.sum_eq_zero fun x hx => by
      obtain ⟨t, -, rfl⟩ := List.mem_map.mp hx
      rfl
  rw [map_foldl_accumulate, Buckets.total_foldl_addTo _ hnodup, hzero, zero_add, hkeys,
    List.filter_map, Buckets.total, List.map_map]
  rfl

/-- **Rows of the range are added up** as soon as the range ends after the epoch. A range that ends
at the epoch or before it has no buckets. -/
theorem total_rows {request : StatsRequest} {rows : List (Sec × TrafficEventRow)}
    (hrows : ∀ row ∈ rows, request.startTime < row.1 ∧ row.1 ≤ request.endTime) :
    Buckets.total
        ((rows.foldl (accumulate (bucketSecs (request.endTime - request.startTime)))
          (initialBuckets (bucketSecs (request.endTime - request.startTime)) request)).map
            StatData.bucket) =
      if 1 ≤ request.endTime then (rows.map (·.2.bytes)).sum else 0 := by
  rw [total_accumulate (grid _)]
  have hmem : ∀ row ∈ rows,
      (bucketOf (bucketSecs (request.endTime - request.startTime)) row.1 ∈
        Buckets.range (getBucketStart (bucketSecs (request.endTime - request.startTime)))
          (nextBucket (bucketSecs (request.endTime - request.startTime)))
          request.startTime request.endTime ↔ 1 ≤ request.endTime) :=
    fun row hrow => bucketOf_mem_iff _ (hrows row hrow).1 (hrows row hrow).2
  split
  · rename_i hend
    rw [List.filter_eq_self.mpr fun row hrow => decide_eq_true ((hmem row hrow).mpr hend)]
  · rename_i hend
    rw [List.filter_eq_nil_iff.mpr fun row hrow h =>
      hend ((hmem row hrow).mp (of_decide_eq_true h))]
    rfl

/-- A request for the system. -/
def systemRequest (requestId : UInt32) (startTime endTime : Sec) : StatsRequest :=
  { requestId, startTime, endTime, target := "system" }

section System

variable (fromString : String → Option IPAddress) (db : Db) (requestId : UInt32)
  (startTime endTime : Sec)

theorem processStatsRequest_system :
    processStatsRequest fromString db (systemRequest requestId startTime endTime) =
      some
        { dataPoints := (db.eventsOf (systemRequest requestId startTime endTime)).foldl
            (accumulate (bucketSecs (endTime - startTime)))
            (initialBuckets (bucketSecs (endTime - startTime))
              (systemRequest requestId startTime endTime))
          requestId } := rfl

/-- **A request for the system adds up all rows of its range**, those of applications and those of
filters. A range that ends at the epoch or before it has no buckets. -/
theorem total_system {response : StatsResponse}
    (h : processStatsRequest fromString db (systemRequest requestId startTime endTime) =
      some response) :
    response.total =
      if 1 ≤ endTime then
        ((db.eventsOf (systemRequest requestId startTime endTime)).map (·.2.bytes)).sum
      else 0 := by
  rw [processStatsRequest_system, Option.some.injEq] at h
  subst h
  rw [StatsResponse.total_eq]
  exact @total_rows (systemRequest requestId startTime endTime) _
    fun row hrow => of_decide_eq_true (List.mem_filter.mp hrow).2

end System

end StatsManager

end Waechter
