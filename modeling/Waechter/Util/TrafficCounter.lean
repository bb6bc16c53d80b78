import Mathlib.Algebra.Order.Group.Unbundled.Abs
import Waechter.Lib.Account
import Waechter.Util.TrafficItem

/-!
# Traffic counters

`TTrafficCounter<T>` (`Util/TrafficCounter.hpp`): the bytes pushed since the last refresh, the
state that decides whether clients hear about the item, and the grace period before a closed
item is removed. `WTupleCounter` (`Counters.hpp`) overrides `Refresh`.

A counter is an account (`Lib.Account`) for each direction: pushes deposit, and a refresh is a
tick that settles the recent bytes into the totals when it closes a time window
(`closesWindow`). A refresh of a counter that is pending removal, or that comes within the time
window, settles nothing.

* `total_calls`, `recent_calls`: after any list of calls the total is what the ticks settled and
  the recent bytes are what is still pending.
* `total_eq_pushed_iff`: the totals are the bytes pushed exactly when nothing was pushed since
  the last refresh that closed a window.
* `reported_eq_due_iff`: the recent bytes read before every refresh add up to the bytes pushed
  up to the last one exactly when the refreshes settle in time.
-/

namespace Waechter

open Lib

/-- `EPacketDirection`. -/
inductive PacketDirection where
  | outgoing
  | incoming
  deriving DecidableEq, Repr, Inhabited

/-- `ECounterState`. -/
inductive CounterState where
  | inactive
  | active
  | pendingRemoval
  deriving DecidableEq, Repr, Inhabited

/-- `TTrafficCounter<T>`. -/
structure TrafficCounter (T : Type) where
  recentUpload : WBytes := 0
  recentDownload : WBytes := 0
  timeWindowStart : Msec := 0
  removalTimeStamp : Msec := 0
  state : CounterState := .inactive
  /-- The ticks without traffic: a `uint8_t`. -/
  inactiveCounter : UInt8 := 0
  trafficItem : T

instance {T : Type} [Inhabited T] : Inhabited (TrafficCounter T) := ⟨{ trafficItem := default }⟩

namespace TrafficCounter

variable {T : Type}

def recentTrafficTimeWindow : Msec := 1000

/-- The time between pending removal and actual removal. -/
def removalTimeWindow : Msec := 5000

/-- The constructor. -/
def new (now : Msec) (item : T) : TrafficCounter T :=
  { timeWindowStart := now, trafficItem := item }

/-- `PushOutgoingTraffic`. -/
def pushOutgoingTraffic (bytes : WBytes) (c : TrafficCounter T) : TrafficCounter T :=
  { c with recentUpload := c.recentUpload + bytes, state := .active, inactiveCounter := 0 }

/-- `PushIncomingTraffic`. -/
def pushIncomingTraffic (bytes : WBytes) (c : TrafficCounter T) : TrafficCounter T :=
  { c with recentDownload := c.recentDownload + bytes, state := .active, inactiveCounter := 0 }

/-- `IsActive`. -/
def isActive (c : TrafficCounter T) : Bool := c.state = .active

/-- `IsMarkedForRemoval`. -/
def isMarkedForRemoval (c : TrafficCounter T) : Bool := c.state = .pendingRemoval

/-- `DueForRemoval`. -/
def dueForRemoval (now : Msec) (c : TrafficCounter T) : Bool :=
  c.state = .pendingRemoval ∧ c.removalTimeStamp ≤ now

/-- The refresh at `now` closes a time window: the counter is not pending removal and the window
has run for `RecentTrafficTimeWindow`. -/
def closesWindow (now : Msec) (c : TrafficCounter T) : Bool :=
  c.state ≠ .pendingRemoval ∧ recentTrafficTimeWindow ≤ now - c.timeWindowStart

section Item

variable [IsTrafficItem T]

open IsTrafficItem (base setBase)

/-- Change the `ITrafficItem` part of the counter's item. -/
def modifyItem (f : TrafficItem → TrafficItem) (c : TrafficCounter T) : TrafficCounter T :=
  { c with trafficItem := setBase c.trafficItem (f (base c.trafficItem)) }

/-- The speed published for a window with `recent` bytes. -/
def windowSpeed (recent : WBytes) : BytesPerSecond :=
  (recent : Rat) / ((recentTrafficTimeWindow : Rat) / 1000)

/-- A new speed replaces the old one only when it differs by more than 0.01. -/
def speedChanged (new old : BytesPerSecond) : Bool := 1 / 100 < |new - old|

/-- A speed below one byte a second is published as 0. -/
def publishedSpeed (new old : BytesPerSecond) : BytesPerSecond :=
  let speed := if speedChanged new old then new else old
  if speed < 1 then 0 else speed

/-- The part of `Refresh` that runs when the time window has elapsed. -/
def closeWindow (now : Msec) (c : TrafficCounter T) : TrafficCounter T :=
  let item := base c.trafficItem
  let newDownloadSpeed := windowSpeed c.recentDownload
  let newUploadSpeed := windowSpeed c.recentUpload
  let changed := speedChanged newDownloadSpeed item.downloadSpeed ||
    speedChanged newUploadSpeed item.uploadSpeed
  let downloadSpeed := publishedSpeed newDownloadSpeed item.downloadSpeed
  let uploadSpeed := publishedSpeed newUploadSpeed item.uploadSpeed
  -- the sum is cut to eight bits before it is compared, so 255 is followed by 0
  let inactiveCounter := if downloadSpeed = 0 ∧ uploadSpeed = 0 then min (c.inactiveCounter + 1) 255
    else c.inactiveCounter
  { c with
    recentUpload := 0
    recentDownload := 0
    timeWindowStart := now
    state := if 3 ≤ inactiveCounter then .inactive else if changed then .active else c.state
    inactiveCounter := inactiveCounter
    trafficItem := setBase c.trafficItem
      { item with
        downloadSpeed := downloadSpeed
        uploadSpeed := uploadSpeed
        totalDownloadBytes := item.totalDownloadBytes + c.recentDownload
        totalUploadBytes := item.totalUploadBytes + c.recentUpload } }

/-- `TTrafficCounter::Refresh`. -/
def refresh (now : Msec) (c : TrafficCounter T) : TrafficCounter T :=
  if c.state = .pendingRemoval then
    c.modifyItem fun item => { item with downloadSpeed := 0, uploadSpeed := 0 }
  else if recentTrafficTimeWindow ≤ now - c.timeWindowStart then c.closeWindow now
  else c

/-- `MarkForRemoval`. -/
def markForRemoval (now : Msec) (c : TrafficCounter T) : TrafficCounter T :=
  if c.state = .pendingRemoval then c
  else
    { c.modifyItem fun item => { item with downloadSpeed := 0, uploadSpeed := 0 } with
      state := .pendingRemoval
      removalTimeStamp := now + removalTimeWindow }

/-- `TotalDownloadBytes` and `TotalUploadBytes` of the counter's item. -/
def total (d : PacketDirection) (c : TrafficCounter T) : WBytes :=
  match d with
  | .incoming => (base c.trafficItem).totalDownloadBytes
  | .outgoing => (base c.trafficItem).totalUploadBytes

end Item

/-- `GetRecentDownload` and `GetRecentUpload`. -/
def recent (d : PacketDirection) (c : TrafficCounter T) : WBytes :=
  match d with
  | .incoming => c.recentDownload
  | .outgoing => c.recentUpload

end TrafficCounter

/-! ## Calls on a counter -/

/-- The calls that change a counter. -/
inductive CounterCall where
  | pushOutgoingTraffic (bytes : WBytes)
  | pushIncomingTraffic (bytes : WBytes)
  | refresh (now : Msec)
  | markForRemoval (now : Msec)
  deriving DecidableEq

/-- The bytes a call pushes in a direction. -/
def CounterCall.bytes (d : PacketDirection) : CounterCall → WBytes
  | .pushOutgoingTraffic b => if d = .outgoing then b else 0
  | .pushIncomingTraffic b => if d = .incoming then b else 0
  | .refresh _ => 0
  | .markForRemoval _ => 0

/-- The bytes a list of calls pushes in a direction. -/
def pushed (d : PacketDirection) (cs : List CounterCall) : WBytes :=
  (cs.map (CounterCall.bytes d)).sum

namespace TrafficCounter

variable {T : Type} [IsTrafficItem T]

/-- Perform one call. -/
def call (c : TrafficCounter T) : CounterCall → TrafficCounter T
  | .pushOutgoingTraffic b => c.pushOutgoingTraffic b
  | .pushIncomingTraffic b => c.pushIncomingTraffic b
  | .refresh now => c.refresh now
  | .markForRemoval now => c.markForRemoval now

/-- Perform a list of calls. -/
def calls (c : TrafficCounter T) (cs : List CounterCall) : TrafficCounter T := cs.foldl call c

/-- A call as an entry of the counter's account for one direction. -/
def entry (d : PacketDirection) (c : TrafficCounter T) : CounterCall → List Account.Entry
  | .refresh now => [.tick (c.closesWindow now)]
  | .markForRemoval _ => []
  | cc => [.deposit (cc.bytes d)]

/-- The calls as entries, each read in the state the calls before it left. -/
def entries (d : PacketDirection) (c : TrafficCounter T) : List CounterCall → List Account.Entry
  | [] => []
  | cc :: cs => c.entry d cc ++ entries d (c.call cc) cs

/-- The bytes pushed after the last refresh that closed a time window. -/
def unflushed (d : PacketDirection) (c : TrafficCounter T) (cs : List CounterCall) : WBytes :=
  Account.unsettled (c.entries d cs)

/-- Every refresh but the last closes a time window or finds no recent bytes. -/
def FlushedInTime (d : PacketDirection) (c : TrafficCounter T) (cs : List CounterCall) : Prop :=
  Account.SettledInTime (c.recent d) (c.entries d cs)

/-- The sum of the recent bytes read before each refresh. -/
def reported (d : PacketDirection) (c : TrafficCounter T) : List CounterCall → WBytes
  | [] => 0
  | .refresh now :: cs => c.recent d + reported d (c.call (.refresh now)) cs
  | cc :: cs => reported d (c.call cc) cs

/-- The bytes pushed before the last refresh. -/
def pushedUpToRefresh (d : PacketDirection) : List CounterCall → WBytes
  | [] => 0
  | cc :: cs =>
    (if cs.any (fun x => match x with | .refresh _ => true | _ => false) then cc.bytes d else 0) +
      pushedUpToRefresh d cs

@[simp] theorem calls_nil (c : TrafficCounter T) : c.calls [] = c := rfl

@[simp] theorem calls_cons (c : TrafficCounter T) (cc : CounterCall) (cs : List CounterCall) :
    c.calls (cc :: cs) = (c.call cc).calls cs := rfl

omit [IsTrafficItem T] in
@[simp] theorem recent_new (d : PacketDirection) (now : Msec) (item : T) :
    (new now item).recent d = 0 := by
  cases d <;> rfl

/-- A call changes the speeds and the totals of the item and nothing else. -/
theorem trafficItem_call (c : TrafficCounter T) (cc : CounterCall) :
    ∃ b : TrafficItem, (c.call cc).trafficItem = IsTrafficItem.setBase c.trafficItem b ∧
      b.itemId = (IsTrafficItem.base c.trafficItem).itemId := by
  have same : ∃ b : TrafficItem, c.trafficItem = IsTrafficItem.setBase c.trafficItem b ∧
      b.itemId = (IsTrafficItem.base c.trafficItem).itemId :=
    ⟨_, (IsTrafficItem.setBase_base _).symm, rfl⟩
  cases cc with
  | pushOutgoingTraffic b => exact same
  | pushIncomingTraffic b => exact same
  | refresh now =>
    simp only [call, refresh]
    split
    · exact ⟨_, rfl, rfl⟩
    · split
      · exact ⟨_, rfl, rfl⟩
      · exact same
  | markForRemoval now =>
    simp only [call, markForRemoval]
    split
    · exact same
    · exact ⟨_, rfl, rfl⟩

/-! ### What one call does to the account -/

/-- A refresh empties the recent bytes exactly when it closes a window. -/
theorem recent_refresh (d : PacketDirection) (now : Msec) (c : TrafficCounter T) :
    (c.refresh now).recent d = if c.closesWindow now then 0 else c.recent d := by
  unfold refresh closesWindow
  by_cases hp : c.state = .pendingRemoval
  · cases d <;> simp [hp, recent, modifyItem]
  · by_cases hw : recentTrafficTimeWindow ≤ now - c.timeWindowStart
    · cases d <;> simp [hp, hw, recent, closeWindow]
    · simp [hp, hw]

/-- A refresh moves the recent bytes into the total exactly when it closes a window. -/
theorem total_refresh (d : PacketDirection) (now : Msec) (c : TrafficCounter T) :
    (c.refresh now).total d = c.total d + if c.closesWindow now then c.recent d else 0 := by
  unfold refresh closesWindow
  by_cases hp : c.state = .pendingRemoval
  · cases d <;> simp [hp, total, modifyItem]
  · by_cases hw : recentTrafficTimeWindow ≤ now - c.timeWindowStart
    · cases d <;> simp [hp, hw, total, recent, closeWindow]
    · simp [hp, hw]

theorem recent_markForRemoval (d : PacketDirection) (now : Msec) (c : TrafficCounter T) :
    (c.markForRemoval now).recent d = c.recent d := by
  unfold markForRemoval
  split <;> cases d <;> rfl

theorem total_markForRemoval (d : PacketDirection) (now : Msec) (c : TrafficCounter T) :
    (c.markForRemoval now).total d = c.total d := by
  unfold markForRemoval
  split
  · rfl
  · cases d <;> simp [total, modifyItem]

theorem recent_call (d : PacketDirection) (c : TrafficCounter T) (cc : CounterCall) :
    (c.call cc).recent d = Account.pending (c.recent d) (c.entry d cc) := by
  cases cc with
  | pushOutgoingTraffic b => cases d <;> rfl
  | pushIncomingTraffic b => cases d <;> rfl
  | refresh now =>
    simp only [call, recent_refresh, entry, Account.pending]
  | markForRemoval now =>
    simp only [call, recent_markForRemoval, entry, Account.pending]

theorem total_call (d : PacketDirection) (c : TrafficCounter T) (cc : CounterCall) :
    (c.call cc).total d = c.total d + Account.settled (c.recent d) (c.entry d cc) := by
  cases cc with
  | pushOutgoingTraffic b => cases d <;> rfl
  | pushIncomingTraffic b => cases d <;> rfl
  | refresh now => simp only [call, total_refresh, entry, Account.settled, Nat.add_zero]
  | markForRemoval now => simp only [call, total_markForRemoval, entry, Account.settled,
      Nat.add_zero]

/-! ### What a list of calls does to the account -/

/-- The recent bytes are the pending ones. -/
theorem recent_calls (d : PacketDirection) : ∀ (cs : List CounterCall) (c : TrafficCounter T),
    (c.calls cs).recent d = Account.pending (c.recent d) (c.entries d cs)
  | [], _ => rfl
  | cc :: cs, c => by
    rw [calls_cons, recent_calls d cs, recent_call, entries, Account.pending_append]

/-- The totals are what the refreshes settled. -/
theorem total_calls (d : PacketDirection) : ∀ (cs : List CounterCall) (c : TrafficCounter T),
    (c.calls cs).total d = c.total d + Account.settled (c.recent d) (c.entries d cs)
  | [], _ => rfl
  | cc :: cs, c => by
    rw [calls_cons, total_calls d cs, total_call, recent_call, entries, Account.settled_append,
      Nat.add_assoc]

/-- The deposits are the pushes. -/
theorem deposited_entries (d : PacketDirection) : ∀ (cs : List CounterCall) (c : TrafficCounter T),
    Account.deposited (c.entries d cs) = pushed d cs
  | [], _ => rfl
  | cc :: cs, c => by
    rw [entries, Account.deposited_append, deposited_entries d cs]
    unfold pushed
    rw [List.map_cons, List.sum_cons]
    congr 1
    cases cc <;> simp [entry, Account.deposited, CounterCall.bytes]

/-- **The totals are the bytes pushed exactly when nothing is unflushed.** -/
theorem total_eq_pushed_iff {d : PacketDirection} {c : TrafficCounter T} (hr : c.recent d = 0)
    (ht : c.total d = 0) (cs : List CounterCall) :
    (c.calls cs).total d = pushed d cs ↔ c.unflushed d cs = 0 := by
  rw [total_calls, hr, ht, Nat.zero_add, ← deposited_entries d cs c]
  exact Account.settled_eq_deposited_iff _

/-- What the refreshes read off. -/
theorem reported_eq_readOff (d : PacketDirection) :
    ∀ (cs : List CounterCall) (c : TrafficCounter T),
      c.reported d cs = Account.readOff (c.recent d) (c.entries d cs)
  | [], _ => rfl
  | cc :: cs, c => by
    have ih := reported_eq_readOff d cs (c.call cc)
    rw [recent_call] at ih
    cases cc <;> simp only [reported, entries, entry, ih, Account.readOff, Account.pending,
      List.cons_append, List.nil_append]

theorem hasTick_entries (d : PacketDirection) : ∀ (cs : List CounterCall) (c : TrafficCounter T),
    Account.hasTick (c.entries d cs) =
      cs.any fun x => match x with | .refresh _ => true | _ => false
  | [], _ => rfl
  | cc :: cs, c => by
    have ih := hasTick_entries d cs (c.call cc)
    unfold Account.hasTick at ih ⊢
    cases cc <;> simp only [entries, entry, List.any_append, List.any_cons, List.any_nil, ih,
      Bool.or_false, Bool.false_or, Bool.true_or]

/-- What is due is what was pushed before the last refresh. -/
theorem due_entries (d : PacketDirection) : ∀ (cs : List CounterCall) (c : TrafficCounter T),
    Account.due (c.entries d cs) = pushedUpToRefresh d cs
  | [], _ => rfl
  | cc :: cs, c => by
    have ih := due_entries d cs (c.call cc)
    have ht := hasTick_entries d cs (c.call cc)
    cases cc <;>
      simp only [entries, entry, List.cons_append, List.nil_append, Account.due, ih, ht,
        pushedUpToRefresh, CounterCall.bytes, ite_self, Nat.zero_add]

/-- **The bytes read before the refreshes add up to the bytes pushed up to the last one exactly
when the counter is flushed in time.** -/
theorem reported_eq_due_iff {d : PacketDirection} {c : TrafficCounter T} (hr : c.recent d = 0)
    (cs : List CounterCall) :
    c.reported d cs = pushedUpToRefresh d cs ↔ c.FlushedInTime d cs := by
  unfold FlushedInTime
  rw [reported_eq_readOff, ← due_entries d cs c, hr]
  exact Account.readOff_eq_due_iff _

end TrafficCounter

/-- `WTupleCounter::Refresh`: a tuple without traffic for five windows is treated as dead. In the
worst case it is added again once there is traffic for it. -/
def TrafficCounter.refreshTuple (now : Msec) (c : TrafficCounter TupleItem) :
    TrafficCounter TupleItem :=
  let c := c.refresh now
  if c.state ≠ .pendingRemoval ∧ 5 ≤ c.inactiveCounter then c.markForRemoval now else c

end Waechter
