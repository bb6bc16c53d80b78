import Waechter.Daemon.MapUpdate
import Waechter.Daemon.RuleManager
import Waechter.Gui.TrafficTree

/-!
# A client joins

`WDaemonSocket` (`Daemon/Communication/DaemonSocket.cpp`, `DaemonSocket.hpp`): a connection gets
the tree and the rules first (`SendInitialDataToClient`) and is put into `Clients` afterwards
(`OnNewConnection`), while the tree changes and updates go out to the clients there are.

The daemon holds `DataMutex` while it changes the tree, while it sends the tree and while it takes
the updates, so each of these is one step; the statements of `OnNewConnection`, the test of
`HasClients` in `BroadcastTrafficUpdate` and the rest of it are steps of their own.

* `nothingLost_iff`: every change since a client's tree was sent is in an update sent to it or
  still in the log, exactly when no change is left out of the log and no update takes one out
  that does not bring it to the client.
* `lost_while_joining`: a socket that is added between the two parts of `OnNewConnection` never
  reaches the client.
-/

namespace Waechter

open Lib

/-- A message to a client. An update comes with the counters it was built from, as history. -/
inductive DaemonMessage where
  | trafficTree (T : ItemTree)
  | ruleUpdate (u : RuleUpdate)
  | trafficTreeUpdate (t : CounterTree) (u : TrafficTreeUpdates)

/-- How far `OnNewConnection` is with a connection. -/
inductive JoinStage where
  | accepted
  | treeSent
  | rulesSent
  | inClients
  | done
  deriving DecidableEq

/-- `WDaemonSocket`, with the log it sends and what went out to each connection. -/
structure DaemonSocket (ι : Type) where
  mapUpdate : MapUpdate := {}
  hasClients : Bool := false
  clients : List ι := []
  isConnected : ι → Bool := fun _ => true
  stage : ι → JoinStage := fun _ => .accepted
  /-- `BroadcastTrafficUpdate` has found clients and is about to take the updates. -/
  broadcasting : Bool := false
  sent : ι → List DaemonMessage := fun _ => []
  /-- The changes of the tree since it was sent to the connection. No step reads this. -/
  since : ι → List MapChange := fun _ => []

/-- A step of one of the daemon's threads, or the end of a connection. -/
inductive SocketStep (ι : Type) : Type 1 where
  /-- The next statement of `OnNewConnection`, with the tree and the rules at that time. -/
  | onNewConnection (who : ι) (o : IterOrder) (t : CounterTree) (m : RuleManager)
  | change (c : MapChange)
  | ruleChange (u : RuleUpdate) (except : ι)
  | hasClientsTest
  | broadcastTrafficUpdate (o : IterOrder) (t : CounterTree)
  | disconnect (who : ι)

namespace MapUpdate

/-- The change is in the log. -/
def Holds (m : MapUpdate) : MapChange → Prop
  | .markItemForRemoval i => i ∈ m.markedForRemovalItems
  | .addItemRemoval i => i ∈ m.removedItems
  | .addStateChange x => x ∈ m.socketStateChanges
  | .addSocketAddition r => r ∈ m.addedSockets
  | .addTupleAddition e r => (e, r) ∈ m.addedTuples

/-- The update `u`, built from the counters `t`, contains the change. -/
def Contains (t : CounterTree) (u : TrafficTreeUpdates) : MapChange → Prop
  | .markItemForRemoval i => i ∈ u.markedForRemovalItems
  | .addItemRemoval i => i ∈ u.removedItems
  | .addStateChange x => x ∈ u.socketStateChange
  | .addSocketAddition r => socketAddition t r ∈ u.addedSockets
  | .addTupleAddition e r => tupleAddition t e r ∈ u.addedTuples

/-- The change is in the log, is no tuple addition, and if it is a socket addition, then one like
it is in the log whose socket is not pending removal. -/
def Deliverable (t : CounterTree) (m : MapUpdate) : MapChange → Prop
  | .addSocketAddition r =>
    ∃ q ∈ m.addedSockets, socketPending t q = false ∧ socketAddition t q = socketAddition t r
  | .addTupleAddition _ _ => False
  | c => m.Holds c

theorem contains_getUpdates_iff (o : IterOrder) (t : CounterTree) (m : MapUpdate) (c : MapChange) :
    Contains t (m.getUpdates o t).1 c ↔ m.Deliverable t c := by
  cases c with
  | addSocketAddition r =>
    simp only [Contains, getUpdates_addedSockets, Deliverable, List.mem_map, List.mem_filter,
      Bool.not_eq_true', and_assoc]
  | addTupleAddition e r => simp only [Contains, getUpdates_addedTuples, Deliverable, List.not_mem_nil]
  | _ => exact Iff.rfl

theorem holds_record (m : MapUpdate) (c : MapChange) : (m.record true c).Holds c := by
  cases c <;> exact List.mem_append_right _ (List.mem_singleton.mpr rfl)

/-- The log only grows. -/
theorem Holds.record {m : MapUpdate} {c : MapChange} (h : m.Holds c) (d : MapChange) :
    (m.record true d).Holds c := by
  cases d <;> cases c <;> first | exact h | exact List.mem_append_left _ h

theorem record_false (m : MapUpdate) (c : MapChange) : m.record false c = m := by
  cases c <;> rfl

theorem not_holds_empty (c : MapChange) : ¬ ({} : MapUpdate).Holds c := by
  cases c <;> exact List.not_mem_nil

end MapUpdate

namespace DaemonSocket

variable {ι : Type} [DecidableEq ι]

/-- `SendFramedData`: nothing is sent on a closed connection. -/
def send (who : ι) (msgs : List DaemonMessage) (s : DaemonSocket ι) : DaemonSocket ι :=
  { s with
    sent := fun q => if q = who ∧ s.isConnected who then s.sent q ++ msgs else s.sent q }

/-- Send a message to the clients that meet the test. -/
def sendTo (test : ι → Bool) (msg : DaemonMessage) (s : DaemonSocket ι) : DaemonSocket ι :=
  { s with
    sent := fun who =>
      if who ∈ s.clients ∧ test who ∧ s.isConnected who then s.sent who ++ [msg] else s.sent who }

def setStage (who : ι) (stage : JoinStage) (s : DaemonSocket ι) : DaemonSocket ι :=
  { s with stage := Function.update s.stage who stage }

/-- `RemoveInactiveClients`. -/
def removeInactiveClients (s : DaemonSocket ι) : DaemonSocket ι :=
  let clients := s.clients.filter s.isConnected
  { s with clients := clients, hasClients := !clients.isEmpty }

/-- The next statement of `OnNewConnection`. -/
def onNewConnection (who : ι) (o : IterOrder) (t : CounterTree) (m : RuleManager)
    (s : DaemonSocket ι) : DaemonSocket ι :=
  match s.stage who with
  | .accepted =>
    setStage who .treeSent (send who [.trafficTree t.itemTree]
      { s with since := Function.update s.since who [] })
  | .treeSent => setStage who .rulesSent (send who ((m.currentRules o).map .ruleUpdate) s)
  | .rulesSent =>
    setStage who .inClients { s with clients := s.clients ++ [who], hasClients := true }
  | .inClients => setStage who .done (removeInactiveClients s)
  | .done => s

/-- A change of the tree is recorded when there are clients. -/
def change (c : MapChange) (s : DaemonSocket ι) : DaemonSocket ι :=
  { s with
    mapUpdate := s.mapUpdate.record s.hasClients c
    since := fun who => if s.stage who = .accepted then s.since who else s.since who ++ [c] }

/-- `BroadcastTrafficUpdate`, from the lock on. -/
def broadcastTrafficUpdate (o : IterOrder) (t : CounterTree) (s : DaemonSocket ι) :
    DaemonSocket ι :=
  if s.broadcasting then
    let out := s.mapUpdate.getUpdates o t
    sendTo (fun _ => true) (.trafficTreeUpdate t out.1)
      { s with mapUpdate := out.2, broadcasting := false }
  else s

/-- One step. -/
def step (s : DaemonSocket ι) : SocketStep ι → DaemonSocket ι
  | .onNewConnection who o t m => s.onNewConnection who o t m
  | .change c => s.change c
  | .ruleChange u except => s.sendTo (fun who => who ≠ except) (.ruleUpdate u)
  | .hasClientsTest => { s with broadcasting := s.hasClients }
  | .broadcastTrafficUpdate o t => s.broadcastTrafficUpdate o t
  | .disconnect who => { s with isConnected := Function.update s.isConnected who false }

/-- An update sent to the connection contains the change. -/
def SentTo (s : DaemonSocket ι) (who : ι) (c : MapChange) : Prop :=
  ∃ t u, .trafficTreeUpdate t u ∈ s.sent who ∧ MapUpdate.Contains t u c

/-- Every change since the tree was sent to a connection is in an update sent to it, or in the log
for the next one. -/
def NothingLost (s : DaemonSocket ι) : Prop :=
  ∀ who, s.isConnected who → ∀ c ∈ s.since who, s.SentTo who c ∨ s.mapUpdate.Holds c

/-- The condition on a step. -/
def Keeps (s : DaemonSocket ι) : SocketStep ι → Prop
  | .change c => s.hasClients ∨ ∀ who, s.isConnected who → s.stage who ≠ .accepted →
      s.SentTo who c ∨ s.mapUpdate.Holds c
  | .broadcastTrafficUpdate _ t => s.broadcasting → ∀ who, s.isConnected who →
      ∀ c ∈ s.since who, s.SentTo who c ∨ (who ∈ s.clients ∧ s.mapUpdate.Deliverable t c)
  | _ => True

/-! ### Steps -/

omit [DecidableEq ι] in
/-- What was sent stays sent. -/
theorem SentTo.mono {s s' : DaemonSocket ι} {who : ι} {c : MapChange}
    (h : ∀ msg ∈ s.sent who, msg ∈ s'.sent who) (hs : s.SentTo who c) : s'.SentTo who c := by
  obtain ⟨t, u, hmem, hc⟩ := hs
  exact ⟨t, u, h _ hmem, hc⟩

omit [DecidableEq ι] in
/-- A step that sends, and changes neither the log nor the history nor who is connected. -/
theorem NothingLost.of_sent {s s' : DaemonSocket ι} (hs : s.NothingLost)
    (hconnected : ∀ who, s'.isConnected who → s.isConnected who) (hlog : s'.mapUpdate = s.mapUpdate)
    (hsince : ∀ who, ∀ c ∈ s'.since who, c ∈ s.since who)
    (hsent : ∀ who, ∀ msg ∈ s.sent who, msg ∈ s'.sent who) : s'.NothingLost := by
  intro who hwho c hc
  rw [hlog]
  exact (hs who (hconnected who hwho) c (hsince who c hc)).imp_left (SentTo.mono (hsent who))

theorem mem_sent_sendTo (test : ι → Bool) (msg : DaemonMessage) (s : DaemonSocket ι) (who : ι)
    (x : DaemonMessage) : x ∈ (s.sendTo test msg).sent who ↔
      x ∈ s.sent who ∨ (who ∈ s.clients ∧ test who ∧ s.isConnected who) ∧ x = msg := by
  unfold sendTo
  simp only
  split
  · rename_i h
    simp [h]
  · rename_i h
    simp [h]

/-- An update that goes out reaches the clients that meet the test. -/
theorem sentTo_sendTo (test : ι → Bool) (t : CounterTree) (u : TrafficTreeUpdates)
    (s : DaemonSocket ι) (who : ι) (c : MapChange) :
    (s.sendTo test (.trafficTreeUpdate t u)).SentTo who c ↔
      s.SentTo who c ∨ (who ∈ s.clients ∧ test who ∧ s.isConnected who) ∧
        MapUpdate.Contains t u c := by
  constructor
  · rintro ⟨t', u', hmem, hc⟩
    rcases (mem_sent_sendTo test _ s who _).mp hmem with hmem | ⟨hwho, heq⟩
    · exact .inl ⟨t', u', hmem, hc⟩
    · cases heq
      exact .inr ⟨hwho, hc⟩
  · rintro (hs | ⟨hwho, hc⟩)
    · exact hs.mono fun x hx => (mem_sent_sendTo test _ s who x).mpr (.inl hx)
    · exact ⟨t, u, (mem_sent_sendTo test _ s who _).mpr (.inr ⟨hwho, rfl⟩), hc⟩

theorem mem_sent_send (who : ι) (msgs : List DaemonMessage) (s : DaemonSocket ι) (q : ι)
    (x : DaemonMessage) (h : x ∈ s.sent q) : x ∈ (s.send who msgs).sent q := by
  unfold send
  simp only
  split
  · exact List.mem_append_left _ h
  · exact h

theorem NothingLost.onNewConnection {s : DaemonSocket ι} (hs : s.NothingLost) (who : ι)
    (o : IterOrder) (t : CounterTree) (m : RuleManager) :
    (s.onNewConnection who o t m).NothingLost := by
  unfold DaemonSocket.onNewConnection
  split
  · refine hs.of_sent (fun _ h => h) rfl (fun q c hc => ?_) (fun q x => mem_sent_send who _ _ q x)
    by_cases hq : q = who
    · subst hq
      simp [setStage, send] at hc
    · simpa [setStage, send, hq] using hc
  · exact hs.of_sent (fun _ h => h) rfl (fun _ _ h => h) fun q x => mem_sent_send who _ s q x
  · exact hs.of_sent (fun _ h => h) rfl (fun _ _ h => h) fun _ _ h => h
  · exact hs.of_sent (fun _ h => h) rfl (fun _ _ h => h) fun _ _ h => h
  · exact hs

omit [DecidableEq ι] in
/-- A change that is recorded is not lost, and neither is one that every connection has. -/
theorem NothingLost.change {s : DaemonSocket ι} (hs : s.NothingLost) (c : MapChange) :
    (s.change c).NothingLost ↔ s.Keeps (.change c) := by
  have hlog : ∀ d, s.mapUpdate.Holds d → (s.change c).mapUpdate.Holds d := by
    intro d hd
    unfold DaemonSocket.change
    cases hh : s.hasClients with
    | true => exact hd.record c
    | false => rwa [MapUpdate.record_false]
  constructor
  · intro h
    by_cases hh : s.hasClients = true
    · exact .inl hh
    · refine .inr fun who hwho hstage => ?_
      have hc : c ∈ (s.change c).since who := by simp [DaemonSocket.change, hstage]
      have hkept := h who hwho c hc
      unfold DaemonSocket.change at hkept
      rwa [Bool.eq_false_iff.mpr hh, MapUpdate.record_false] at hkept
  · intro hk who hwho d hd
    have hd' : d ∈ s.since who ∨ d = c ∧ s.stage who ≠ .accepted := by
      simp only [DaemonSocket.change] at hd
      split at hd
      · exact .inl hd
      · rename_i hstage
        rcases List.mem_append.mp hd with hd | hd
        · exact .inl hd
        · exact .inr ⟨List.mem_singleton.mp hd, hstage⟩
    rcases hd' with hd | ⟨rfl, hstage⟩
    · exact (hs who hwho d hd).imp id (hlog d)
    · rcases hk with hh | hk
      · refine .inr ?_
        unfold DaemonSocket.change
        rw [hh]
        exact MapUpdate.holds_record _ _
      · exact (hk who hwho hstage).imp id (hlog d)

/-- An update takes everything out of the log: what it does not bring to a connection is lost to
it. -/
theorem NothingLost.broadcastTrafficUpdate {s : DaemonSocket ι} (hs : s.NothingLost)
    (o : IterOrder) (t : CounterTree) :
    (s.broadcastTrafficUpdate o t).NothingLost ↔ s.Keeps (.broadcastTrafficUpdate o t) := by
  have hkeeps : s.Keeps (.broadcastTrafficUpdate o t) ↔ (s.broadcasting = true →
      ∀ who, s.isConnected who → ∀ c ∈ s.since who,
        s.SentTo who c ∨ (who ∈ s.clients ∧ s.mapUpdate.Deliverable t c)) := Iff.rfl
  rw [hkeeps]
  unfold DaemonSocket.broadcastTrafficUpdate
  by_cases hb : s.broadcasting = true
  · rw [if_pos hb]
    have hlost : ∀ (s' : DaemonSocket ι), s'.isConnected = s.isConnected → s'.since = s.since →
        s'.mapUpdate = {} → (s'.NothingLost ↔ ∀ who, s.isConnected who → ∀ c ∈ s.since who,
          s'.SentTo who c) := by
      intro s' h1 h2 h3
      simp only [NothingLost, h1, h2, h3, MapUpdate.not_holds_empty, or_false]
    have hdrained := hlost (sendTo (fun _ => true)
      (.trafficTreeUpdate t (s.mapUpdate.getUpdates o t).1)
      { s with mapUpdate := {}, broadcasting := false }) rfl rfl rfl
    refine hdrained.trans (Iff.trans ?_ (forall_prop_of_true hb).symm)
    refine forall_congr' fun who => forall_congr' fun hwho => forall_congr' fun c =>
      forall_congr' fun _ => ?_
    rw [sentTo_sendTo, MapUpdate.contains_getUpdates_iff]
    exact or_congr Iff.rfl (and_congr_left' ⟨fun h => h.1, fun h => ⟨h, rfl, hwho⟩⟩)
  · rw [if_neg hb]
    exact iff_of_true hs fun h => absurd h hb

/-- One step loses nothing exactly when it meets the condition. -/
theorem NothingLost.step_iff {s : DaemonSocket ι} (hs : s.NothingLost) (x : SocketStep ι) :
    (s.step x).NothingLost ↔ s.Keeps x := by
  cases x with
  | onNewConnection who o t m => exact iff_of_true (hs.onNewConnection who o t m) trivial
  | change c => exact hs.change c
  | ruleChange u except =>
    refine iff_of_true (hs.of_sent (fun _ h => h) rfl (fun _ _ h => h) fun who x hx => ?_) trivial
    exact (mem_sent_sendTo _ _ s who x).mpr (.inl hx)
  | hasClientsTest =>
    exact iff_of_true (hs.of_sent (fun _ h => h) rfl (fun _ _ h => h) fun _ _ h => h) trivial
  | broadcastTrafficUpdate o t => exact hs.broadcastTrafficUpdate o t
  | disconnect who =>
    refine iff_of_true (hs.of_sent (fun q hq => ?_) rfl (fun _ _ h => h) fun _ _ h => h) trivial
    by_cases hqw : q = who
    · subst hqw
      simp [step] at hq
    · simpa [step, hqw] using hq

/-! ### Runs -/

/-- **No change is lost to a client that joins**, throughout a run, exactly when every step of it
meets the condition. -/
theorem nothingLost_iff (steps : List (SocketStep ι)) :
    Always step NothingLost ({} : DaemonSocket ι) steps ↔ AllSteps step Keeps {} steps :=
  always_iff_allSteps (fun _ h => h) (fun _ x hs hx => (hs.step_iff x).mpr hx)
    (fun _ x hs hx => (hs.step_iff x).mp hx) steps fun _ _ _ hc => absurd hc List.not_mem_nil

/-- The first client has its tree, a socket is added, and the client is put into `Clients`. -/
def joinSteps : List (SocketStep (Fin 1)) :=
  [.onNewConnection 0 IterOrder.stored default {}, .change (.addSocketAddition 3),
   .onNewConnection 0 IterOrder.stored default {}, .onNewConnection 0 IterOrder.stored default {},
   .onNewConnection 0 IterOrder.stored default {}, .hasClientsTest,
   .broadcastTrafficUpdate IterOrder.stored default]

/-- **A socket that is added while the first client joins never reaches it**: the update that goes
out afterwards does not have it. -/
theorem lost_while_joining : ¬ (run step ({} : DaemonSocket (Fin 1)) joinSteps).NothingLost := by
  intro h
  rcases h 0 rfl (.addSocketAddition 3) (List.mem_singleton.mpr rfl) with ⟨t, u, hmem, hc⟩ | hlog
  · have hsent : (run step ({} : DaemonSocket (Fin 1)) joinSteps).sent 0 =
        [.trafficTree (default : CounterTree).itemTree,
          .trafficTreeUpdate default (({} : MapUpdate).getUpdates IterOrder.stored default).1] :=
      rfl
    rw [hsent, List.mem_cons, List.mem_singleton] at hmem
    rcases hmem with hmem | hmem
    · cases hmem
    · cases hmem
      exact absurd hc List.not_mem_nil
  · exact absurd hlog List.not_mem_nil

end DaemonSocket

end Waechter
