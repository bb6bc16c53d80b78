import Waechter.Daemon.Books

/-!
# Where the bytes go

What the statistics and the connection history get to see of the bytes pushed to a counter, in
every run of the system map from its constructor on.

* `reportedOnce_iff`: `UpdateFilterStats` and `UpdateAppStats` get every byte pushed up to the last
  refresh once exactly when each refresh but the last closes a time window or finds no recent
  bytes. A counter that is pending removal closes no window any more, so the bytes of its last
  window are passed on again with every tick until it is removed.
* `removal_exact_iff`: the totals of a counter that is reported as removed are the bytes pushed to
  it exactly when none was pushed after the last refresh that closed a window. The bytes between
  that refresh and the close event never get into the totals.
-/

namespace Waechter

open Lib

namespace Books

/-- The statistics got every byte pushed to a counter up to its last refresh, once. -/
def ReportedOnce (b : Books) (who : CounterId) : Prop :=
  ∀ d, b.reported who d = Account.due (b.entries who d)

/-- Every refresh of a counter but the last one closes a time window or finds no recent bytes. -/
def RefreshedInTime (b : Books) (who : CounterId) : Prop :=
  ∀ d, Account.SettledInTime 0 (b.entries who d)

end Books

namespace Removal

/-- The totals are the sums of all bytes ever pushed to the counter. -/
def Exact (x : Removal) : Prop := ∀ d, x.total d = Account.deposited (x.entries d)

/-- No bytes were pushed to the counter after its last refresh that closed a time window. -/
def Settled (x : Removal) : Prop := ∀ d, Account.unsettled (x.entries d) = 0

end Removal

namespace SystemMap

open Books (keep)

/-- The counters of the constructor have no bytes. -/
theorem bytes_init (now : Msec) (hostName : String) {who : CounterId} (hw : who.Tracked)
    (d : PacketDirection) :
    (init now hostName ({} : Books)).toCounterTree.recent d who = 0 ∧
      (init now hostName ({} : Books)).toCounterTree.total d who = 0 := by
  cases who with
  | filter i =>
    rcases i with _ | _ | _ | i
    · cases d <;> exact ⟨rfl, rfl⟩
    · cases d <;> exact ⟨rfl, rfl⟩
    · cases d <;> exact ⟨rfl, rfl⟩
    · exact ⟨rfl, rfl⟩
  | socket r => cases d <;> exact ⟨rfl, rfl⟩
  | tuple u => cases d <;> exact ⟨rfl, rfl⟩
  | _ => exact hw.elim

theorem Kept.init (now : Msec) (hostName : String) :
    Kept 4 (init now hostName ({} : Books)) where
  recent := fun _ hw d => (bytes_init now hostName hw d).1
  total := fun _ hw d => (bytes_init now hostName hw d).2
  fresh := fun _ _ _ => ⟨rfl, rfl⟩
  removals := fun _ hx => nomatch hx
  older :=
    { socket := fun _ _ hr => nomatch hr
      orphan := fun _ _ hr => nomatch hr
      tuple := fun _ _ _ hu => nomatch hu
      itemId := fun _ h0 hr => absurd hr.symm h0 }
  next := Nat.le_refl 4
  reported := fun _ _ _ => rfl

/-- **The books are kept in every run.** -/
theorem kept_run (now : Msec) (hostName : String) (ops : List SystemMapOp) :
    Kept 4 (run (step keep) (init now hostName {}) ops) :=
  run_of_step (fun _ op hs => hs.step op) ops (Kept.init now hostName)

/-! ## Statistics -/

/-- **Every byte is attributed once exactly when the refreshes come in time.** -/
theorem reportedOnce_iff (now : Msec) (hostName : String) (ops : List SystemMapOp)
    (who : CounterId) (hwho : who.IsReported) :
    let books := (run (step keep) (init now hostName {}) ops).listeners
    books.ReportedOnce who ↔ books.RefreshedInTime who := by
  have hs := kept_run now hostName ops
  intro books
  unfold Books.ReportedOnce Books.RefreshedInTime
  refine forall_congr' fun d => ?_
  rw [hs.reported who hwho d]
  exact Account.readOff_eq_due_iff _

/-- A process that is running, and a machine whose clock shows `now`. -/
def tickAt (now : Msec) : TickEnv :=
  { order := .stored
    refreshTime := fun _ => now
    cleanupTime := fun _ => now
    isProcessRunning := fun _ => true
    isUsedPort := fun _ => true }

/-- Traffic of which only the bytes are known. -/
def quietTraffic : TrafficEnv :=
  { order := .stored
    now := 0
    procInfo := fun _ => {}
    endpointPID := fun _ => 0
    determineSocketType := fun _ _ _ => SocketType.unknown }

/-- A socket gets 100 bytes, and a tick follows a second later. -/
def tickRun : List SystemMapOp :=
  [.mapSocket quietTraffic.toMapEnv 9 false 7 false, .pushIncomingTraffic quietTraffic 9 100 none,
   .refreshAllTrafficCounters (tickAt 1000), .refreshAllTrafficCounters (tickAt 2000)]

/-- The statistics get the 100 bytes once. -/
theorem reportedOnce_tick :
    (run (step keep) (init 0 "host" {}) tickRun).listeners.ReportedOnce (.socket 6) ↔
      (run (step keep) (init 0 "host" {}) tickRun).listeners.RefreshedInTime (.socket 6) :=
  reportedOnce_iff 0 "host" tickRun (.socket 6) trivial

/-- The same socket, closed before the first tick. -/
def closedRun : List SystemMapOp :=
  [.mapSocket quietTraffic.toMapEnv 9 false 7 false, .pushIncomingTraffic quietTraffic 9 100 none,
   .markSocketForRemoval .stored 0 9 0, .refreshAllTrafficCounters (tickAt 1000),
   .refreshAllTrafficCounters (tickAt 2000)]

/-- **The bytes of a closed socket are passed on with every tick**: 200 of 100. -/
theorem reportedOnce_fails_closed : ¬ ∀ (ops : List SystemMapOp) (who : CounterId),
    who.IsReported → (run (step keep) (init 0 "host" {}) ops).listeners.ReportedOnce who := by
  intro hall
  have hdown := hall closedRun (.socket 6) trivial .incoming
  have hreported : (run (step keep) (init 0 "host" {}) closedRun).listeners.reported (.socket 6)
      .incoming = 200 := by decide +kernel
  have hpushed : Account.due ((run (step keep) (init 0 "host" {}) closedRun).listeners.entries
      (.socket 6) .incoming) = 100 := by decide +kernel
  rw [hreported, hpushed] at hdown
  exact absurd hdown (by decide)

/-! ## Removal -/

/-- **The totals are exact exactly when nothing is unsettled.** -/
theorem removal_exact_iff (now : Msec) (hostName : String) (ops : List SystemMapOp) (x : Removal)
    (hx : x ∈ (run (step keep) (init now hostName {}) ops).listeners.removals) :
    x.Exact ↔ x.Settled := by
  have hs := kept_run now hostName ops
  unfold Removal.Exact Removal.Settled
  refine forall_congr' fun d => ?_
  rw [hs.removals x hx d]
  exact Account.settled_eq_deposited_iff _

/-- A socket gets 100 bytes and is closed, and the next tick comes when its removal is due. -/
def shortRun : List SystemMapOp :=
  [.mapSocket quietTraffic.toMapEnv 9 false 7 false, .pushIncomingTraffic quietTraffic 9 100 none,
   .markSocketForRemoval .stored 0 9 0, .refreshAllTrafficCounters (tickAt 5000)]

theorem removals_shortRun :
    (run (step keep) (init 0 "host" {}) shortRun).listeners.removals ≠ [] := by
  have hlen : (run (step keep) (init 0 "host" {}) shortRun).listeners.removals.length = 1 := by
    decide +kernel
  intro hnil
  rw [hnil] at hlen
  exact absurd hlen (by decide)

/-- The removal of the socket. -/
def shortRemoval : Removal :=
  (run (step keep) (init 0 "host" {}) shortRun).listeners.removals.head removals_shortRun

theorem removal_exact_short : shortRemoval.Exact ↔ shortRemoval.Settled :=
  removal_exact_iff 0 "host" shortRun shortRemoval (List.head_mem removals_shortRun)

/-- **A socket that is opened, used and closed between two refreshes is removed with totals of
0**, not 100. -/
theorem removal_fails_short : ¬ ∀ (ops : List SystemMapOp) (x : Removal),
    x ∈ (run (step keep) (init 0 "host" {}) ops).listeners.removals → x.Exact := by
  intro hall
  have hdown := hall shortRun shortRemoval (List.head_mem removals_shortRun) .incoming
  have htotal : shortRemoval.total .incoming = 0 := by decide +kernel
  have hpushed : Account.deposited (shortRemoval.entries .incoming) = 100 := by decide +kernel
  rw [htotal, hpushed] at hdown
  exact absurd hdown (by decide)

end SystemMap

end Waechter
