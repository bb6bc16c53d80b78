import Waechter.Protocol.HistoryDelivery

/-!
# The new entries of an update

`WConnectionHistory::Push` and `Update` (`Daemon/Data/ConnectionHistory.cpp`) over a run of them.
The counter of new entries is meant to count the entries since the last update; a push on a full
history takes one off again, whether the entry that falls out was new or not.

* `exact_iff`: every update of a run has the entries pushed since the one before that are still
  there, exactly when no update comes after more of them than the history had room for at the one
  before, where it had entries then.
* `exact_fails_full`: the entry that is pushed on a full history is in no update.
-/

namespace Waechter

open Lib

/-- A call of `WConnectionHistory`, with what it reads. -/
inductive HistoryCall : Type 1 where
  | push (env : HistoryEnv) (t : CounterTree) (app : Ref) (remoteEndpoint : Endpoint)
  | update (t : CounterTree)

/-- The history. The last two fields are observations: what it held at the last update, and what was
pushed since. -/
structure PushedHistory where
  server : ConnectionHistory := {}
  kept : List Nat := []
  since : List Nat := []

namespace PushedHistory

/-- One call. -/
def step (s : PushedHistory) : HistoryCall → PushedHistory
  | .push env t app remoteEndpoint =>
    let pushed := ConnectionHistory.push env t app remoteEndpoint s.server
    { s with server := pushed.2, since := s.since ++ pushed.1.toList }
  | .update t =>
    { server := (ConnectionHistory.update t s.server).2, kept := s.server.history, since := [] }

/-- The new entries of an update are those pushed since the last one that are still in the history,
in the order in which they were pushed. -/
def Exact (s : PushedHistory) : HistoryCall → Prop
  | .push .. => True
  | .update t =>
    let updated := ConnectionHistory.update t s.server
    updated.1.newEntries =
      (s.since.filter (· ∈ s.server.history)).map fun id => (id, updated.2.entry id)

/-- An update does not come after more pushes than the history had room for. -/
def HadRoom (s : PushedHistory) : HistoryCall → Prop
  | .push .. => True
  | .update _ => s.kept = [] ∨ s.kept.length + s.since.length ≤ kMaxHistorySize

instance (s : PushedHistory) : (call : HistoryCall) → Decidable (s.HadRoom call)
  | .push .. => .isTrue trivial
  | .update _ => inferInstanceAs (Decidable (_ ∨ _))

/-- The history has the last of its entries, and the counter those that came while there was room.
-/
structure Ok (s : PushedHistory) : Prop where
  window : s.server.InWindow
  history : s.server.history = (s.kept ++ s.since).rtake kMaxHistorySize
  counter : s.server.newItemCounter = min s.since.length (kMaxHistorySize - s.kept.length)
  kept_le : s.kept.length ≤ kMaxHistorySize
  nodup : (s.kept ++ s.since).Nodup
  older : ∀ id ∈ s.kept ++ s.since, id < s.server.nextConnectionId

variable {s : PushedHistory}

/-- An ignored connection leaves everything alone; any other one is a new entry. -/
theorem push_cases (env : HistoryEnv) (t : CounterTree) (app : Ref) (remoteEndpoint : Endpoint)
    (h : ConnectionHistory) :
    ConnectionHistory.push env t app remoteEndpoint h = (none, h) ∨
      (ConnectionHistory.push env t app remoteEndpoint h).1 = some h.nextConnectionId ∧
        let h' := (ConnectionHistory.push env t app remoteEndpoint h).2
        h'.history = pushWindow kMaxHistorySize h.history h.nextConnectionId ∧
          h'.newItemCounter = (if kMaxHistorySize ≤ h.history.length then h.newItemCounter
            else h.newItemCounter + 1) ∧
          h'.nextConnectionId = h.nextConnectionId + 1 := by
  unfold ConnectionHistory.push
  split
  · exact .inl rfl
  · refine .inr ⟨rfl, rfl, ?_, rfl⟩
    simp only [List.length_append, List.length_singleton, Nat.lt_succ_iff, Nat.add_sub_cancel]

theorem Ok.step (hs : s.Ok) (call : HistoryCall) : (s.step call).Ok := by
  cases call with
  | update t =>
    have hwindow : (ConnectionHistory.update t s.server).2.InWindow :=
      hs.window.of_same rfl (Nat.zero_le _) rfl
    refine ⟨hwindow, ?_, (Nat.zero_min _).symm, hs.window.length_le, ?_, fun id hid => ?_⟩
    · rw [PushedHistory.step, List.append_nil, rtake_of_length_le hs.window.length_le]
      rfl
    · rw [PushedHistory.step, List.append_nil]
      exact hs.window.nodup
    · rw [PushedHistory.step, List.append_nil] at hid
      exact hs.window.fresh id hid
  | push env t app remoteEndpoint =>
    rcases push_cases env t app remoteEndpoint s.server with hnone | ⟨hid, hh, hc, hn⟩
    · have hsame : s.step (.push env t app remoteEndpoint) = s := by
        simp only [PushedHistory.step, hnone, Option.toList_none, List.append_nil]
      rw [hsame]
      exact hs
    · set id := s.server.nextConnectionId with hnew
      have hstep : (s.step (.push env t app remoteEndpoint)).since = s.since ++ [id] := by
        simp only [PushedHistory.step, hid, Option.toList_some]
      have hall : s.kept ++ (s.step (.push env t app remoteEndpoint)).since =
          (s.kept ++ s.since) ++ [id] := by
        rw [hstep, List.append_assoc]
      have hlength : s.server.history.length =
          min kMaxHistorySize (s.kept.length + s.since.length) := by
        rw [hs.history, length_rtake, List.length_append]
      have hkept := hs.kept_le
      refine ⟨hs.window.grows (.entry hh hc hn), ?_, ?_, hs.kept_le, ?_, fun i hi => ?_⟩
      · change _ = (s.kept ++ _).rtake kMaxHistorySize
        rw [hall, ← rtake_append_rtake, ← hs.history, ← pushWindow_eq hs.window.length_le]
        exact hh
      · rw [hstep, List.length_append, List.length_singleton]
        change _ = min (s.since.length + 1) (kMaxHistorySize - s.kept.length)
        refine hc.trans ?_
        rw [hs.counter, hlength]
        split <;> omega
      · change (s.kept ++ _).Nodup
        rw [hall]
        refine List.nodup_append.mpr ⟨hs.nodup, List.nodup_singleton _, fun a ha b hb hab => ?_⟩
        rw [List.mem_singleton.mp hb] at hab
        exact absurd (hs.older a ha) (hab ▸ Nat.lt_irrefl _)
      · change i ∈ s.kept ++ _ at hi
        rw [hall] at hi
        refine lt_of_lt_of_eq ?_ hn.symm
        rcases List.mem_append.mp hi with hi | hi
        · exact Nat.lt_succ_of_lt (hs.older i hi)
        · rw [List.mem_singleton.mp hi]
          exact Nat.lt_succ_self _

theorem ok_start : ({} : PushedHistory).Ok :=
  ⟨⟨Nat.zero_le _, Nat.le_refl _, List.nodup_nil, nofun⟩, rfl, rfl, Nat.zero_le _, List.nodup_nil,
    nofun⟩

/-- **One update is exact** when there was room for what was pushed, and only then. -/
theorem Ok.exact_update (hs : s.Ok) (call : HistoryCall) : s.Exact call ↔ s.HadRoom call := by
  cases call with
  | push env t app remoteEndpoint => exact Iff.rfl
  | update t =>
    have hcounter := hs.counter
    have hkept := hs.kept_le
    -- the entries the update takes, and those it is to take
    have htaken : s.server.newItems = s.since.rtake s.server.newItemCounter := by
      have hle : s.server.newItemCounter ≤ kMaxHistorySize :=
        hs.window.counter_le.trans hs.window.length_le
      rw [hs.window.newItems_eq, ← List.rtake, hs.history, rtake_rtake, Nat.min_eq_left hle,
        rtake_append_of_le _ (hcounter ▸ Nat.min_le_left _ _)]
    have hdue : s.since.filter (· ∈ s.server.history) = s.since.rtake kMaxHistorySize := by
      simp only [hs.history]
      exact filter_mem_rtake hs.nodup
    have hexact : s.Exact (.update t) ↔
        s.since.rtake s.server.newItemCounter = s.since.rtake kMaxHistorySize := by
      rw [← htaken, ← hdue]
      constructor
      · intro h
        have hids := congrArg (List.map Prod.fst) h
        rw [ConnectionHistory.update_newEntries, List.map_map] at hids
        exact hids.trans (List.map_id _)
      · intro h
        change (s.server.newItems.map fun id => (id, _)) = _
        rw [h]
        rfl
    rw [hexact, rtake_inj, hcounter]
    simp only [HadRoom, ← List.length_eq_zero_iff]
    omega

/-- **New entries are reported exactly** in the runs that have no update after more pushes than the
history had room for at the update before, unless it was empty then, and in no others. -/
theorem exact_iff (calls : List HistoryCall) :
    AllSteps step Exact {} calls ↔ AllSteps step HadRoom {} calls := by
  constructor
  · intro h
    exact h.imp (fun _ call hs _ => hs.step call) (fun _ call hs => (hs.exact_update call).mp) ok_start
  · intro h
    exact h.imp (fun _ call hs _ => hs.step call) (fun _ call hs => (hs.exact_update call).mpr) ok_start

/-- The tree with one socket, of application 4. -/
private def oneSocket : CounterTree :=
  (run (SystemMap.step SystemMap.recorder) (SystemMap.init 0 "" [])
    [.mapSocket SystemMap.quietTraffic.toMapEnv 9 false 7 false]).toCounterTree

/-- A connection to the name server that nothing ignores. -/
private def opened : HistoryCall :=
  .push {} oneSocket 4 ConnectionHistory.nameServer

private theorem since_opened (s : PushedHistory) :
    (s.step opened).since.length = s.since.length + 1 ∧ (s.step opened).kept = s.kept := by
  have hnew : (ConnectionHistory.push {} oneSocket 4 ConnectionHistory.nameServer s.server).1 =
      some s.server.nextConnectionId := by
    simp only [ConnectionHistory.push, Bool.false_eq_true, or_self, if_false]
  refine ⟨?_, rfl⟩
  simp only [opened, PushedHistory.step, hnew, Option.toList_some, List.length_append,
    List.length_singleton]

private theorem since_run_opened (n : Nat) :
    (run step {} (List.replicate n opened)).since.length = n ∧
      (run step {} (List.replicate n opened)).kept = [] := by
  induction n with
  | zero => exact ⟨rfl, rfl⟩
  | succ n ih =>
    rw [List.replicate_succ', run_concat, (since_opened _).1, (since_opened _).2]
    exact ⟨congrArg Nat.succ ih.1, ih.2⟩

/-- One more push on a full history. -/
private theorem not_exact_opened {full : PushedHistory} (hok : full.Ok)
    (hlength : full.server.history.length = kMaxHistorySize) :
    ¬ ((full.step (.update oneSocket)).step opened).Exact (.update oneSocket) := by
  rw [((hok.step (.update oneSocket)).step opened).exact_update]
  simp only [HadRoom, since_opened]
  rintro (hroom | hroom)
  · change full.server.history = [] at hroom
    rw [hroom, List.length_nil, kMaxHistorySize] at hlength
    omega
  · change full.server.history.length + (0 + 1) ≤ kMaxHistorySize at hroom
    omega

/-- With as many entries as the history takes, an entry that is pushed is in no update. -/
theorem exact_fails_full :
    ¬ AllSteps step Exact {}
      ((List.replicate kMaxHistorySize opened ++ [.update oneSocket, opened]) ++
        [.update oneSocket]) := by
  intro h
  obtain ⟨hsince, hkept⟩ := since_run_opened kMaxHistorySize
  have hok : (run step {} (List.replicate kMaxHistorySize opened)).Ok :=
    run_of_step (fun _ call hs => hs.step call) _ ok_start
  have hexact := h.last
  rw [run_append, run_cons, run_cons, run_nil] at hexact
  refine not_exact_opened hok ?_ hexact
  rw [hok.history, length_rtake, hkept, List.nil_append, hsince, Nat.min_self]

end PushedHistory

end Waechter
