import Waechter.Lib.Run

/-!
# The thread of the WebSocket client

`WWebSocketSource` (`Gui/Communication/WebSocketSource.cpp`): the thread that connects and serves the
connection, the callbacks that `libwebsockets` makes on it, and the timer that starts it again every
five seconds. `Stop` is left out: `WClient` makes a new object when it starts again.

* `attempts_again_iff`: the client can try again exactly as long as it has had no connection. Once
  one is established it never tries again, although it may be closed.
-/

namespace Waechter

open Lib

/-- Where `ListenThreadFunction` is. -/
inductive ThreadAt where
  /-- Before `lws_client_connect_via_info`. -/
  | connecting
  /-- In `lws_service`. -/
  | serving
  /-- Behind the loop. -/
  | leaving
  | ended
  deriving DecidableEq

/-- What `libwebsockets` has of the connection. -/
inductive LwsConnection where
  | none
  | begun
  | established
  deriving DecidableEq

/-- `WWebSocketSource`, after `Start`. -/
structure WebSocketThread where
  thread : ThreadAt := .connecting
  bListenThreadRunning : Bool := true
  bConnected : Bool := false
  bConnectionFailed : Bool := false
  connection : LwsConnection := .none
  /-- The calls of `lws_client_connect_via_info`. -/
  attempts : Nat := 0
  deriving DecidableEq

namespace WebSocketThread

/-- A step of the thread, a callback of the library on it, or the timer on the main thread. -/
inductive Op where
  | connect
  /-- The library gives no connection, and may call `OnConnectionError` before it says so. -/
  | connectFails (called : Bool)
  | established
  | connectionError
  | connectionClosed
  | serviced
  | leave
  | timer

/-- `OnConnected`. -/
def onConnected (s : WebSocketThread) : WebSocketThread :=
  { s with bConnected := true, connection := .established }

/-- `OnConnectionError`. -/
def onConnectionError (s : WebSocketThread) : WebSocketThread :=
  { s with bConnected := false, bConnectionFailed := true, connection := .none }

/-- `OnConnectionClosed`. -/
def onConnectionClosed (s : WebSocketThread) : WebSocketThread :=
  { s with bConnected := false, connection := .none }

/-- `lws_client_connect_via_info` has given a connection. -/
def connect (s : WebSocketThread) : WebSocketThread :=
  { s with thread := .serving, connection := .begun, attempts := s.attempts + 1 }

/-- `lws_client_connect_via_info` has given none. -/
def connectFails (called : Bool) (s : WebSocketThread) : WebSocketThread :=
  let s := if called then s.onConnectionError else s
  { s with thread := .ended, bListenThreadRunning := false, attempts := s.attempts + 1 }

/-- The loop after a call of `lws_service`. -/
def serviced (s : WebSocketThread) : WebSocketThread :=
  if s.bConnectionFailed || !s.bListenThreadRunning then { s with thread := .leaving } else s

/-- The end of `ListenThreadFunction`. -/
def leave (s : WebSocketThread) : WebSocketThread :=
  { s with
    thread := .ended
    bConnected := false
    bListenThreadRunning := false
    connection := .none }

/-- The callback of the timer. It waits for the thread that has ended. -/
def timer (s : WebSocketThread) : WebSocketThread :=
  if !s.bConnected && !s.bListenThreadRunning then
    { s with thread := .connecting, bConnectionFailed := false, bListenThreadRunning := true }
  else s

def step (s : WebSocketThread) : Op → WebSocketThread
  | .connect => if s.thread = .connecting then s.connect else s
  | .connectFails called => if s.thread = .connecting then s.connectFails called else s
  | .established => if s.connection = .begun then s.onConnected else s
  | .connectionError => if s.connection = .begun then s.onConnectionError else s
  | .connectionClosed => if s.connection = .established then s.onConnectionClosed else s
  | .serviced => if s.thread = .serving then s.serviced else s
  | .leave => if s.thread = .leaving then s.leave else s
  | .timer => s.timer

/-! ## The states of a run -/

/-- The states before a connection is established. -/
inductive Trying : WebSocketThread → Prop
  | connecting (n : Nat) : Trying { attempts := n }
  | begun (n : Nat) : Trying { thread := .serving, connection := .begun, attempts := n }
  | failed (n : Nat) : Trying { thread := .serving, bConnectionFailed := true, attempts := n }
  | leaving (n : Nat) : Trying { thread := .leaving, bConnectionFailed := true, attempts := n }
  | ended (n : Nat) (failed : Bool) : Trying
      { thread := .ended, bListenThreadRunning := false, bConnectionFailed := failed, attempts := n }

/-- The states from then on: the thread goes on serving a connection that may be closed. -/
inductive Served (n : Nat) : WebSocketThread → Prop
  | established : Served n
      { thread := .serving, bConnected := true, connection := .established, attempts := n }
  | lost : Served n { thread := .serving, attempts := n }

theorem Trying.step {s : WebSocketThread} (h : Trying s) (op : Op) :
    Trying (step s op) ∨ (step s op).connection = .established ∧ Served s.attempts (step s op) := by
  cases h with
  | connecting n =>
    cases op with
    | connect => exact .inl (.begun (n + 1))
    | connectFails called => exact .inl (by cases called <;> exact .ended (n + 1) _)
    | _ => exact .inl (.connecting n)
  | begun n =>
    cases op with
    | established => exact .inr ⟨rfl, .established⟩
    | connectionError => exact .inl (.failed n)
    | _ => exact .inl (.begun n)
  | failed n =>
    cases op with
    | serviced => exact .inl (.leaving n)
    | _ => exact .inl (.failed n)
  | leaving n =>
    cases op with
    | leave => exact .inl (.ended n true)
    | _ => exact .inl (.leaving n)
  | ended n failed =>
    cases op with
    | timer => exact .inl (.connecting n)
    | _ => exact .inl (.ended n failed)

/-- **Nothing leads out** of those states, and there is no other attempt in them. -/
theorem Served.step {n : Nat} (s : WebSocketThread) (op : Op) (h : Served n s) :
    Served n (step s op) := by
  cases h with
  | established =>
    cases op with
    | connectionClosed => exact .lost
    | _ => exact .established
  | lost => cases op <;> exact .lost

theorem Served.attempts {n : Nat} {s : WebSocketThread} (h : Served n s) : s.attempts = n := by
  cases h <;> rfl

/-- Until then there is a way to another attempt. -/
theorem Trying.exists_attempt {s : WebSocketThread} (h : Trying s) :
    ∃ rest : List Op, s.attempts < (run WebSocketThread.step s rest).attempts := by
  cases h with
  | connecting n => exact ⟨[.connect], Nat.lt_succ_self n⟩
  | begun n =>
    exact ⟨[.connectionError, .serviced, .leave, .timer, .connect], Nat.lt_succ_self n⟩
  | failed n => exact ⟨[.serviced, .leave, .timer, .connect], Nat.lt_succ_self n⟩
  | leaving n => exact ⟨[.leave, .timer, .connect], Nat.lt_succ_self n⟩
  | ended n failed => exact ⟨[.timer, .connect], Nat.lt_succ_self n⟩

/-- A run either has never had a connection, or serves the one it has had. -/
theorem trying_or_served : ∀ (ops : List Op) {s : WebSocketThread}, Trying s →
    (Always step (fun s => s.connection ≠ .established) s ops ∧ Trying (run step s ops)) ∨
    (¬ Always step (fun s => s.connection ≠ .established) s ops ∧
      ∃ n, Served n (run step s ops))
  | [], s, h => by
    refine .inl ⟨?_, h⟩
    cases h <;> exact fun h => nomatch h
  | op :: ops, s, h => by
    have hstart : s.connection ≠ .established := by
      cases h <;> exact fun h => nomatch h
    rcases h.step op with hstep | ⟨hestablished, hserved⟩
    · rcases trying_or_served ops hstep with ⟨halways, hrun⟩ | ⟨hnot, hrun⟩
      · exact .inl ⟨⟨hstart, halways⟩, hrun⟩
      · exact .inr ⟨fun halways => hnot halways.2, hrun⟩
    · exact .inr ⟨fun halways => halways.2.head hestablished, _,
        run_of_step Served.step ops hserved⟩

/-- **One connection and no other**: the client can try again as long as it has had no connection,
and never afterwards, whatever becomes of the one it has had. -/
theorem attempts_again_iff (ops : List Op) :
    (∃ rest : List Op, (run step {} ops).attempts < (run step (run step {} ops) rest).attempts) ↔
      Always step (fun s => s.connection ≠ .established) {} ops := by
  rcases trying_or_served ops (.connecting 0) with ⟨halways, hrun⟩ | ⟨hnot, n, hrun⟩
  · exact ⟨fun _ => halways, fun _ => hrun.exists_attempt⟩
  · refine ⟨fun ⟨rest, hlt⟩ => ?_, fun halways => absurd halways hnot⟩
    have hrest := run_of_step Served.step rest hrun
    rw [hrest.attempts, hrun.attempts] at hlt
    exact absurd hlt (Nat.lt_irrefl n)

/-- A connection that breaks off stays lost, although the timer goes on. -/
example : (run step {} [.connect, .established, .connectionClosed, .serviced, .timer, .timer]) =
    { thread := .serving, attempts := 1 } := by
  decide

end WebSocketThread

end Waechter
