import Waechter.Daemon.HistoryRequests
import Waechter.Daemon.StatsLoop

/-!
# The request thread

`RequestStats` queues the requests of the clients, and `RequestThreadFunction`
(`Db/StatsManager.cpp`) takes one after the other off the queue and finishes its promise. Helpers
of a history request finish the promise with the empty string when the target is not there, and
`ProcessHistoryRequest` finishes it once more with the response. A request that does not
deserialise ends the thread function, and an exception that leaves it ends the process.

`deserialize` is `DeserializeMessage`, which catches what cereal throws. The statements of the
database succeed, but for a row query whose offset is beyond the integers of SQLite.

* `targetThere_iff`: when a history request is answered once.
* `always_eachOnce_iff`: every request taken off the queue is answered exactly once, and the thread
  goes on, exactly when all of them are answerable.
-/

namespace Waechter.StatsManager

open Lib

/-- `WStatsRequest` as it is deserialised. -/
structure StatsRequest64 where
  requestId : UInt32
  startTime : Int64
  endTime : Int64
  target : String

def StatsRequest64.request (r : StatsRequest64) : StatsRequest :=
  { requestId := r.requestId, startTime := r.startTime.toInt, endTime := r.endTime.toInt,
    target := r.target }

/-- The message types of the requests. -/
inductive RequestType where
  | history
  | stats
  deriving DecidableEq

/-- `WRequestData`, without its promise. -/
structure RequestData where
  type : RequestType
  request : List UInt8

/-- `DeserializeMessage` for both requests. -/
structure Deserialize where
  history : List UInt8 → Option HistoryRequest
  stats : List UInt8 → Option StatsRequest64

/-- What a promise is finished with. -/
inductive Answer where
  | empty
  | history (response : HistoryResponse)
  | stats (response : StatsResponse)

/-- The request thread: it waits for the next request, its function has returned, an exception has
ended the process, or it does not come out of a request. -/
inductive ThreadState where
  | running
  | returned
  | terminated
  | stuck
  deriving DecidableEq

section

variable (order : IterOrder) (fromString : String → Option IPAddress) (deserialize : Deserialize)

/-- `WStatsManager::ProcessHistoryRequest` with its promise. -/
def answerHistory (db : HistoryDb) (request : HistoryRequest) : List Answer × ThreadState :=
  match processHistoryRequest order db request with
  | none => ([], .terminated)
  | some handled =>
    if handled.bFinished then ([.empty, .history handled.response], .running)
    else if request.offset < 2 ^ 63 then ([.history handled.response], .running)
    else ([], .terminated)

/-- `WStatsManager::ProcessStatsRequest` with its promise. -/
def answerStats (db : Db) (r : StatsRequest64) : List Answer × ThreadState :=
  if Populates r.startTime r.endTime then
    match processStatsRequest fromString db r.request with
    | none => ([.empty], .running)
    | some response => ([.stats response], .running)
  else ([], .stuck)

/-- The turn of `WStatsManager::RequestThreadFunction` for a request. -/
def turn (db : HistoryDb) (data : RequestData) : List Answer × ThreadState :=
  match data.type with
  | .history =>
    match deserialize.history data.request with
    | none => ([], .returned)
    | some request => answerHistory order db request
  | .stats =>
    match deserialize.stats data.request with
    | none => ([], .returned)
    | some request => answerStats fromString db.toDb request

end

/-- The queue and the thread. `requested` are the requests so far, `answered` those the thread has
taken off the queue, each with what its promise was finished with. -/
structure RequestQueue where
  thread : ThreadState := .running
  pendingRequests : List RequestData := []
  requested : List RequestData := []
  answered : List (RequestData × List Answer) := []

namespace RequestQueue

inductive Op where
  | requestStats (data : RequestData)
  | turn (db : HistoryDb)

variable (order : IterOrder) (fromString : String → Option IPAddress) (deserialize : Deserialize)

def step (s : RequestQueue) : Op → RequestQueue
  | .requestStats data =>
    { s with pendingRequests := s.pendingRequests ++ [data], requested := s.requested ++ [data] }
  | .turn db =>
    match s.thread, s.pendingRequests with
    | .running, data :: rest =>
      let (answers, thread) := StatsManager.turn order fromString deserialize db data
      { s with thread, pendingRequests := rest, answered := s.answered ++ [(data, answers)] }
    | _, _ => s

/-- The thread is running, what it has taken off the queue was answered once, and the requests it
has not taken off yet are waiting. -/
structure EachOnce (s : RequestQueue) : Prop where
  running : s.thread = .running
  once : ∀ e ∈ s.answered, e.2.length = 1
  inOrder : s.answered.map Prod.fst ++ s.pendingRequests = s.requested

/-! ## Answerable requests -/

/-- The host, the application or the system of a history request is there, and the text of an
organization or a system has eight characters. -/
def TargetThere (db : HistoryDb) (request : HistoryRequest) : Prop :=
  match request.hostTarget with
  | some ip => ∃ host ∈ db.hosts, host.ipAddress = getBytesVector ip
  | none =>
    if startsWith request.targetName "asn:" then
      parseInt (substr request.targetName 4) ≠ 0 ∧ 8 ≤ request.targetName.toList.length
    else if startsWith request.targetName "org:" then 8 ≤ request.targetName.toList.length
    else if startsWith request.targetName "country:" then True
    else ∃ item ∈ db.trafficItems, item.name = request.targetName

/-- A request that deserialises: a history request whose target is there, with an offset SQLite can
take, or a stats request with a range the bucket loop comes through. -/
def Answerable (db : HistoryDb) (data : RequestData) : Prop :=
  match data.type with
  | .history => ∃ request, deserialize.history data.request = some request ∧
      TargetThere db request ∧ request.offset < 2 ^ 63
  | .stats => ∃ request, deserialize.stats data.request = some request ∧
      Populates request.startTime request.endTime

/-- The request the thread is going to take off the queue is answerable. -/
def NextAnswerable (s : RequestQueue) : Op → Prop
  | .requestStats _ => True
  | .turn db => ∀ data ∈ s.pendingRequests.head?, Answerable deserialize db data

variable {order}

theorem front_eq_none_iff {α : Type} (rows : List α) : front order rows = none ↔ rows = [] := by
  rw [front, List.head?_eq_none_iff]
  exact ⟨fun h => List.Perm.eq_nil (h ▸ (order.perm rows).symm),
    fun h => by rw [h]; exact List.Perm.eq_nil (order.perm [])⟩

variable (order) in
theorem front_filter_cases {α : Type} (rows : List α) (p : α → Prop) [DecidablePred p] :
    (front order (rows.filter (p ·)) = none ∧ ¬ ∃ row ∈ rows, p row) ∨
    ∃ row, front order (rows.filter (p ·)) = some row ∧ ∃ row ∈ rows, p row := by
  cases hfront : front order (rows.filter (p ·)) with
  | none =>
    rw [front_eq_none_iff, List.filter_eq_nil_iff] at hfront
    exact .inl ⟨rfl, fun ⟨row, hrow, hp⟩ => hfront row hrow (decide_eq_true hp)⟩
  | some row =>
    refine .inr ⟨row, rfl, ?_⟩
    by_contra hnone
    have hnil : rows.filter (p ·) = [] := List.filter_eq_nil_iff.mpr fun row hrow hp =>
      hnone ⟨row, hrow, of_decide_eq_true hp⟩
    rw [(front_eq_none_iff _).mpr hnil] at hfront
    cases hfront

variable (order) in
/-- **A history request is answered without a helper's answer** exactly when its target is there. -/
theorem targetThere_iff (db : HistoryDb) (request : HistoryRequest) :
    TargetThere db request ↔
      ∃ handled, processHistoryRequest order db request = some handled ∧
        handled.bFinished = false := by
  unfold TargetThere processHistoryRequest
  cases request.hostTarget with
  | some ip =>
    unfold processHostHistoryRequest
    rcases front_filter_cases order db.hosts (·.ipAddress = getBytesVector ip) with
      ⟨hfront, hnone⟩ | ⟨host, hfront, hsome⟩
    · refine iff_of_false hnone ?_
      rintro ⟨handled, h, hfinished⟩
      simp only [hfront] at h
      cases h
      cases hfinished
    · refine iff_of_true hsome ?_
      simp only [hfront]
      exact ⟨_, rfl, rfl⟩
  | none =>
    dsimp only
    split
    · rename_i hasn
      rw [processAsnHistoryRequest_eq request (length_le_of_startsWith hasn)]
      by_cases hnumber : parseInt (substr request.targetName 4) = 0
      · rw [if_pos hnumber]
        refine iff_of_false (fun h => h.1 hnumber) ?_
        rintro ⟨handled, h, hfinished⟩
        cases h
        cases hfinished
      · rw [if_neg hnumber]
        by_cases hlength : 8 ≤ request.targetName.toList.length
        · rw [substrAt_of_le hlength]
          exact iff_of_true ⟨hnumber, hlength⟩ ⟨_, rfl, rfl⟩
        · rw [substrAt, if_neg hlength]
          refine iff_of_false (fun h => hlength h.2) ?_
          rintro ⟨handled, h, -⟩
          cases h
    · split
      · rename_i horg
        have hshort : 4 ≤ request.targetName.toList.length := length_le_of_startsWith horg
        by_cases hlength : 8 ≤ request.targetName.toList.length
        · refine iff_of_true hlength ?_
          rw [processOrgHistoryRequest, substrAt_of_le hlength, substrAt_of_le hshort]
          exact ⟨_, rfl, rfl⟩
        · refine iff_of_false hlength ?_
          rw [processOrgHistoryRequest, substrAt, if_neg hlength]
          rintro ⟨handled, h, -⟩
          cases h
      · split
        · rename_i hcountry
          refine iff_of_true trivial ?_
          have hlength : 8 ≤ request.targetName.toList.length := length_le_of_startsWith hcountry
          rw [processCountryHistoryRequest, substrAt_of_le hlength]
          exact ⟨_, rfl, rfl⟩
        · unfold processAppHistoryRequest
          rcases front_filter_cases order db.trafficItems
              (·.name = request.targetName) with ⟨hfront, hnone⟩ | ⟨item, hfront, hsome⟩
          · refine iff_of_false hnone ?_
            rintro ⟨handled, h, hfinished⟩
            simp only [hfront] at h
            cases h
            cases hfinished
          · refine iff_of_true hsome ?_
            simp only [hfront]
            exact ⟨_, rfl, rfl⟩

variable (order) in
theorem answerHistory_once_iff (db : HistoryDb) (request : HistoryRequest) :
    ((answerHistory order db request).2 = .running ∧
        (answerHistory order db request).1.length = 1) ↔
      TargetThere db request ∧ request.offset < 2 ^ 63 := by
  rw [targetThere_iff order]
  unfold answerHistory
  cases processHistoryRequest order db request with
  | none => simp
  | some handled =>
    cases hfinished : handled.bFinished with
    | true => simp [hfinished]
    | false =>
      simp only [Option.some.injEq, exists_eq_left', hfinished, true_and, Bool.false_eq_true,
        if_false]
      split
      · exact iff_of_true ⟨rfl, rfl⟩ ‹_›
      · exact iff_of_false (fun h => nomatch h.1) ‹_›

theorem answerStats_once_iff (db : Db) (r : StatsRequest64) :
    ((answerStats fromString db r).2 = .running ∧ (answerStats fromString db r).1.length = 1) ↔
      Populates r.startTime r.endTime := by
  unfold answerStats
  split
  · rename_i hpopulates
    refine iff_of_true ?_ hpopulates
    split <;> exact ⟨rfl, rfl⟩
  · rename_i hpopulates
    exact iff_of_false (fun h => nomatch h.1) hpopulates

variable {deserialize}

variable (order) in
/-- **A turn goes on and answers once exactly when the request is answerable.** -/
theorem turn_once_iff (db : HistoryDb) (data : RequestData) :
    ((StatsManager.turn order fromString deserialize db data).2 = .running ∧
        (StatsManager.turn order fromString deserialize db data).1.length = 1) ↔
      Answerable deserialize db data := by
  unfold StatsManager.turn Answerable
  cases data.type with
  | history =>
    cases hrequest : deserialize.history data.request with
    | none => simp
    | some request => simpa [hrequest] using answerHistory_once_iff order db request
  | stats =>
    cases hrequest : deserialize.stats data.request with
    | none => simp
    | some request =>
      simpa [hrequest] using answerStats_once_iff fromString db.toDb request

/-! ## Runs -/

variable {fromString}

theorem step_turn {s : RequestQueue} {db : HistoryDb} {data : RequestData} {rest : List RequestData}
    (hrunning : s.thread = .running) (hpending : s.pendingRequests = data :: rest) :
    step order fromString deserialize s (.turn db) =
      { s with
        thread := (StatsManager.turn order fromString deserialize db data).2
        pendingRequests := rest
        answered :=
          s.answered ++ [(data, (StatsManager.turn order fromString deserialize db data).1)] } := by
  rw [step, hrunning, hpending]

theorem step_turn_of_nil {s : RequestQueue} {db : HistoryDb} (hpending : s.pendingRequests = []) :
    step order fromString deserialize s (.turn db) = s := by
  rw [step, hpending]
  split
  · rename_i h
    cases h
  · rfl

theorem EachOnce.step {s : RequestQueue} (h : EachOnce s) (op : Op)
    (hnext : NextAnswerable deserialize s op) :
    EachOnce (step order fromString deserialize s op) := by
  cases op with
  | requestStats data =>
    exact ⟨h.running, h.once, by rw [RequestQueue.step, ← h.inOrder, List.append_assoc]⟩
  | turn db =>
    cases hpending : s.pendingRequests with
    | nil =>
      rw [step_turn_of_nil hpending]
      exact h
    | cons data rest =>
      have hdata : Answerable deserialize db data := hnext data (by rw [hpending]; rfl)
      obtain ⟨hrunning, honce⟩ := (turn_once_iff order fromString db data).mpr hdata
      have hinOrder := h.inOrder
      rw [hpending] at hinOrder
      rw [step_turn h.running hpending]
      refine ⟨hrunning, fun e he => ?_, ?_⟩
      · rcases List.mem_append.mp he with he | he
        · exact h.once e he
        · rw [List.mem_singleton.mp he]
          exact honce
      · rw [List.map_append, List.append_assoc]
        exact hinOrder

theorem EachOnce.nextAnswerable {s : RequestQueue} (h : EachOnce s) (op : Op)
    (hafter : EachOnce (RequestQueue.step order fromString deserialize s op)) :
    NextAnswerable deserialize s op := by
  cases op with
  | requestStats data => trivial
  | turn db =>
    intro data hdata
    obtain ⟨rest, hpending⟩ : ∃ rest, s.pendingRequests = data :: rest := by
      cases hp : s.pendingRequests with
      | nil =>
        rw [hp] at hdata
        cases hdata
      | cons data' rest =>
        rw [hp] at hdata
        cases hdata
        exact ⟨rest, rfl⟩
    rw [step_turn h.running hpending] at hafter
    exact (turn_once_iff order fromString db data).mp ⟨hafter.running,
      hafter.once _ (List.mem_append_right _ (List.mem_singleton_self _))⟩

variable (order) (fromString) (deserialize)

/-- **Every request is answered exactly once**, in every state of a run, and the thread goes on to
the next one, exactly when every request is answerable when its turn comes. -/
theorem always_eachOnce_iff (ops : List Op) :
    Always (step order fromString deserialize) EachOnce {} ops ↔
      AllSteps (step order fromString deserialize) (NextAnswerable deserialize) {} ops :=
  always_iff_allSteps (fun _ h => h) (fun _ op h hnext => h.step op hnext)
    (fun _ op h hafter => h.nextAnswerable op hafter) ops ⟨rfl, List.forall_mem_nil _, rfl⟩

/-- The message of a history request with the number 1 for `/usr/bin/ssh`. -/
def sshRequest : List UInt8 :=
  [13, 1, 0, 0, 0, 12, 0, 0, 0, 0, 0, 0, 0, 47, 117, 115, 114, 47, 98, 105, 110, 47, 115, 115, 104,
    0, 0, 0, 0, 0, 0, 0, 0, 0, 0, 0, 0]

/-- A request for the history of an application that has none is answered twice. -/
theorem answered_twice :
    let deserialize : Deserialize :=
      { history := fun message => if message = sshRequest then
          some { requestId := 1, targetName := "/usr/bin/ssh" } else none
        stats := fun _ => none }
    ¬ Always (step .stored (fun _ => none) deserialize) EachOnce {}
      [.requestStats { type := .history, request := sshRequest },
        .turn { connectionHistory := [], family_check := by decide }] := by
  rintro deserialize ⟨-, -, h⟩
  have honce := h.once _ (List.mem_singleton_self _)
  revert honce
  decide

end RequestQueue

end Waechter.StatsManager
