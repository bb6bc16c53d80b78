import Waechter.Protocol.WireFormat
import Waechter.Lib.Run
import Mathlib.Logic.Function.Basic

/-!
# A WebSocket connection

One direction of a connection over `libwebsockets`: `WClientWebSocket`
(`Daemon/Communication/ClientWebSocket.cpp`) sends and `WWebSocketSource`
(`Gui/Communication/WebSocketSource.cpp`) receives, or the other way round. `SendFramed` puts a
message in a queue under a lock and asks the library without it to call `HandleWritable`, which
takes one message off the queue. Messages arrive in order, each in fragments. The steps of the
sending threads and those of the library's own thread fall between one another in any way.

* `delivered_prefix`: what is delivered is what was accepted, in that order, up to what is still
  under way, and no message stays behind for want of a callback.
* `drained`: the library's callbacks alone bring the queue to the peer.
* `conveys_run`: the messages that arrive are those that were sent.
-/

namespace Waechter

open Lib

variable {ι : Type}

/-- Which of the two classes sends. -/
inductive Side where
  | daemon
  | client
  deriving DecidableEq

/-- Where a thread is in `SendFramed`: it has found the connection open, or it has put its message
in the queue. -/
inductive WebSocketCall where
  | idle
  | entered (data : List Byte)
  | pushed
  deriving DecidableEq

/-- A connection, the threads that send on it and the peer. -/
structure WebSocketLink (ι : Type) where
  bConnected : Bool := true
  /-- The library has the connection. The daemon's `Wsi` is null afterwards. -/
  isOpen : Bool := true
  sendQueue : List (List Byte) := []
  calls : ι → WebSocketCall := fun _ => .idle
  /-- `lws_callback_on_writable` was called. -/
  callback : Bool := false
  /-- The library has called `HandleWritable`, which waits for the lock. -/
  writing : Bool := false
  /-- What the peer has yet to receive of each message that was written. -/
  wire : List (List Byte) := []
  receiveBuffer : List Byte := []
  delivered : List (List Byte) := []
  /-- The messages that were put in the queue. -/
  accepted : List (List Byte) := []

namespace WebSocketLink

/-- A step of a sending thread, of the library on either side, or of somebody who closes the
connection. -/
inductive Op (ι : Type) where
  | enter (i : ι) (data : List Byte)
  | push (i : ι)
  | requestWrite (i : ι)
  | writable
  | handleWritable (written : Bool)
  | receive (size : Nat)
  | close
  | closed

/-- `RequestWrite`. The client does not look at `bConnected`. -/
def requestWrite (side : Side) (s : WebSocketLink ι) : WebSocketLink ι :=
  match side with
  | .daemon => if s.isOpen && s.bConnected then { s with callback := true } else s
  | .client => { s with callback := true }

/-- `HandleWritable`. A write that fails ends the daemon's connection; the client tries again. -/
def handleWritable (side : Side) (written : Bool) (s : WebSocketLink ι) : WebSocketLink ι :=
  match s.sendQueue with
  | [] => s
  | front :: rest =>
    if written then
      { s with
        sendQueue := rest
        wire := s.wire ++ [front]
        callback := s.callback || !rest.isEmpty }
    else
      match side with
      | .daemon => { s with bConnected := false }
      | .client => { s with callback := true }

/-- `HandleReceive`, which both classes have. -/
def handleReceive (data : List Byte) (bIsFinalFragment : Bool) (s : WebSocketLink ι) :
    WebSocketLink ι :=
  let receiveBuffer := s.receiveBuffer ++ data
  if bIsFinalFragment then
    { s with receiveBuffer := [], delivered := s.delivered ++ [receiveBuffer] }
  else { s with receiveBuffer := receiveBuffer }

/-! ## The messages on their way -/

/-- The messages that were written and are not delivered. -/
def underWay (s : WebSocketLink ι) : List (List Byte) :=
  match s.wire with
  | [] => []
  | message :: rest => (s.receiveBuffer ++ message) :: rest

/-- The messages are in order; the peer has begun no message that is not on its way; and a message
in the queue of an open connection has a callback before it. -/
structure Ordered (s : WebSocketLink ι) : Prop where
  order : s.delivered ++ s.underWay ++ s.sendQueue = s.accepted
  begun : s.wire = [] → s.receiveBuffer = []
  wakes : s.isOpen = true → s.bConnected = true → s.sendQueue ≠ [] →
    s.callback = true ∨ s.writing = true ∨ ∃ i, s.calls i = .pushed

theorem ordered_start : Ordered ({} : WebSocketLink ι) :=
  ⟨rfl, fun _ => rfl, fun _ _ h => absurd rfl h⟩

variable {side : Side} {s : WebSocketLink ι}

/-- The calls of the threads change, and those who have pushed a message stay. -/
theorem Ordered.of_calls (h : Ordered s) {calls : ι → WebSocketCall}
    (hcalls : ∀ i, s.calls i = .pushed → calls i = .pushed) : Ordered { s with calls := calls } :=
  ⟨h.order, h.begun, fun hopen hconnected hqueue =>
    (h.wakes hopen hconnected hqueue).imp_right fun hw =>
      hw.imp_right fun ⟨i, hi⟩ => ⟨i, hcalls i hi⟩⟩

theorem underWay_concat (hbegun : s.wire = [] → s.receiveBuffer = []) (message : List Byte) :
    underWay { s with wire := s.wire ++ [message] } = s.underWay ++ [message] := by
  unfold underWay
  cases hwire : s.wire with
  | nil =>
    simp only [List.nil_append]
    rw [hbegun hwire, List.nil_append]
  | cons first rest => rfl

theorem handleWritable_nil (h : s.sendQueue = []) (written : Bool) :
    s.handleWritable side written = s := by
  unfold handleWritable
  simp only [h]

theorem handleWritable_written {front : List Byte} {rest : List (List Byte)}
    (h : s.sendQueue = front :: rest) : s.handleWritable side true =
      { s with
        sendQueue := rest
        wire := s.wire ++ [front]
        callback := s.callback || !rest.isEmpty } := by
  unfold handleWritable
  simp only [h, if_true]

theorem handleWritable_failed {front : List Byte} {rest : List (List Byte)}
    (h : s.sendQueue = front :: rest) : s.handleWritable side false =
      match side with
      | .daemon => { s with bConnected := false }
      | .client => { s with callback := true } := by
  unfold handleWritable
  simp only [h, Bool.false_eq_true, if_false]

/-- Whatever woke the library, it asks for the next callback while there are messages. -/
theorem ordered_handleWritable (horder : s.delivered ++ s.underWay ++ s.sendQueue = s.accepted)
    (hbegun : s.wire = [] → s.receiveBuffer = []) (written : Bool) :
    Ordered (s.handleWritable side written) := by
  cases hqueue : s.sendQueue with
  | nil =>
    rw [handleWritable_nil hqueue]
    exact ⟨horder, hbegun, fun _ _ hne => absurd hqueue hne⟩
  | cons front rest =>
    cases written with
    | true =>
      rw [handleWritable_written hqueue]
      refine ⟨?_, fun hwire => ?_, fun _ _ hrest => .inl ?_⟩
      · change s.delivered ++ underWay { s with wire := s.wire ++ [front] } ++ rest = s.accepted
        rw [underWay_concat hbegun, ← horder, hqueue, List.append_assoc, List.append_assoc,
          List.append_assoc]
        rfl
      · exact absurd hwire (List.append_ne_nil_of_right_ne_nil _ (List.cons_ne_nil _ _))
      · change (s.callback || !rest.isEmpty) = true
        rw [List.isEmpty_eq_false_iff.mpr hrest, Bool.not_false, Bool.or_true]
    | false =>
      rw [handleWritable_failed hqueue]
      cases side with
      | daemon => exact ⟨horder, hbegun, fun _ hconnected => nomatch hconnected⟩
      | client => exact ⟨horder, hbegun, fun _ _ _ => .inl rfl⟩

/-- Nothing is about to happen: no thread owes a request, the library owes no callback, and the
peer has received what was written. -/
structure Quiet (s : WebSocketLink ι) : Prop where
  calls : ∀ i, s.calls i ≠ .pushed
  callback : s.callback = false
  writing : s.writing = false
  wire : s.wire = []

theorem Ordered.complete (h : Ordered s) (hopen : s.isOpen = true) (hconnected : s.bConnected = true)
    (hquiet : Quiet s) : s.delivered = s.accepted := by
  have hqueue : s.sendQueue = [] := by
    by_contra hqueue
    rcases h.wakes hopen hconnected hqueue with hcallback | hwriting | ⟨i, hi⟩
    · exact Bool.noConfusion (hquiet.callback.symm.trans hcallback)
    · exact Bool.noConfusion (hquiet.writing.symm.trans hwriting)
    · exact hquiet.calls i hi
  have horder := h.order
  rwa [underWay, hquiet.wire, hqueue, List.append_nil, List.append_nil] at horder

/-! ## Steps -/

variable [DecidableEq ι]

def step (side : Side) (s : WebSocketLink ι) : Op ι → WebSocketLink ι
  | .enter i data =>
    if s.calls i = .idle ∧ s.bConnected ∧ data ≠ [] then
      { s with calls := Function.update s.calls i (.entered data) }
    else s
  | .push i =>
    match s.calls i with
    | .entered data =>
      { s with
        calls := Function.update s.calls i .pushed
        sendQueue := s.sendQueue ++ [data]
        accepted := s.accepted ++ [data] }
    | _ => s
  | .requestWrite i =>
    if s.calls i = .pushed then
      { s with calls := Function.update s.calls i .idle }.requestWrite side
    else s
  | .writable =>
    if s.isOpen ∧ s.callback ∧ s.writing = false then { s with callback := false, writing := true }
    else s
  | .handleWritable written =>
    if s.writing then { s with writing := false }.handleWritable side written else s
  | .receive size =>
    match s.wire with
    | [] => s
    | message :: rest =>
      { s with
        wire := if message.length ≤ size then rest else message.drop size :: rest }.handleReceive
          (message.take size) (message.length ≤ size)
  | .close => { s with bConnected := false }
  | .closed => { s with bConnected := false, isOpen := false }

theorem Ordered.enter (h : Ordered s) (i : ι) (data : List Byte) :
    Ordered (step side s (.enter i data)) := by
  rw [step]
  split
  · rename_i hidle
    refine h.of_calls fun j hj => ?_
    have hji : j ≠ i := by
      rintro rfl
      rw [hidle.1] at hj
      cases hj
    rw [Function.update_of_ne hji, hj]
  · exact h

theorem Ordered.push (h : Ordered s) (i : ι) : Ordered (step side s (.push i)) := by
  rw [step]
  split
  · rename_i data hcall
    refine ⟨?_, h.begun, fun _ _ _ => .inr (.inr ⟨i, Function.update_self ..⟩)⟩
    change s.delivered ++ s.underWay ++ (s.sendQueue ++ [data]) = s.accepted ++ [data]
    rw [← List.append_assoc, h.order]
  · exact h

/-- The request that a thread owes is the callback. -/
theorem Ordered.requestWrite (h : Ordered s) (i : ι) :
    Ordered (step side s (.requestWrite i)) := by
  rw [step]
  split
  · cases side with
    | daemon =>
      rw [WebSocketLink.requestWrite]
      split
      · exact ⟨h.order, h.begun, fun _ _ _ => .inl rfl⟩
      · rename_i hshut
        refine ⟨h.order, h.begun, fun hopen hconnected _ => absurd ?_ hshut⟩
        exact Bool.and_eq_true_iff.mpr ⟨hopen, hconnected⟩
    | client => exact ⟨h.order, h.begun, fun _ _ _ => .inl rfl⟩
  · exact h

theorem Ordered.writable (h : Ordered s) : Ordered (step side s .writable) := by
  rw [step]
  split
  · exact ⟨h.order, h.begun, fun _ _ _ => .inr (.inl rfl)⟩
  · exact h

theorem Ordered.handleWritable (h : Ordered s) (written : Bool) :
    Ordered (step side s (.handleWritable written)) := by
  rw [step]
  split
  · exact ordered_handleWritable (s := { s with writing := false }) h.order h.begun written
  · exact h

theorem Ordered.receive (h : Ordered s) (size : Nat) : Ordered (step side s (.receive size)) := by
  rw [step]
  cases hwire : s.wire with
  | nil => exact h
  | cons message rest =>
    have horder := h.order
    rw [underWay, hwire] at horder
    dsimp only at horder ⊢
    rw [handleReceive]
    by_cases hfinal : message.length ≤ size
    · -- the last fragment makes the message whole
      simp only [hfinal, decide_true, if_true, List.take_of_length_le hfinal]
      refine ⟨?_, fun _ => rfl, h.wakes⟩
      rw [← horder, underWay]
      cases rest with
      | nil => simp only [List.append_assoc, List.nil_append]
      | cons next rest => simp only [List.append_assoc, List.nil_append, List.cons_append]
    · simp only [hfinal, decide_false, if_false, Bool.false_eq_true]
      refine ⟨?_, fun hnil => (nomatch hnil), h.wakes⟩
      rw [← horder, underWay]
      simp only [List.append_assoc, List.take_append_drop]

/-- Every step keeps the order. -/
theorem Ordered.step (s : WebSocketLink ι) (op : Op ι) (h : Ordered s) :
    Ordered (step side s op) := by
  cases op with
  | enter i data => exact h.enter i data
  | push i => exact h.push i
  | requestWrite i => exact h.requestWrite i
  | writable => exact h.writable
  | handleWritable written => exact h.handleWritable written
  | receive size => exact h.receive size
  | close => exact ⟨h.order, h.begun, fun _ hconnected => nomatch hconnected⟩
  | closed => exact ⟨h.order, h.begun, fun hopen => nomatch hopen⟩

/-- **What is delivered is what was accepted**, in that order, in every interleaving; and on an open
connection on which nothing is about to happen everything is delivered. -/
theorem delivered_prefix (side : Side) (ops : List (Op ι)) :
    Always (step side)
      (fun s => s.delivered <+: s.accepted ∧
        (s.isOpen = true → s.bConnected = true → Quiet s → s.delivered = s.accepted))
      ({} : WebSocketLink ι) ops := by
  refine always_of_step (I := Ordered) (fun s h => ⟨?_, h.complete⟩) Ordered.step ops ordered_start
  rw [← h.order, List.append_assoc]
  exact List.prefix_append _ _

/-! ## The library alone -/

/-- An open connection on which every thread has made its request. -/
structure Idle (s : WebSocketLink ι) : Prop extends Ordered s where
  isOpen : s.isOpen = true
  bConnected : s.bConnected = true
  requested : ∀ i, s.calls i ≠ .pushed

/-- One message is taken off the queue. -/
theorem Idle.write (side : Side) {s : WebSocketLink ι} (h : Idle s) (hwriting : s.writing = true)
    {front : List Byte} {rest : List (List Byte)} (hqueue : s.sendQueue = front :: rest) :
    Idle (step side s (.handleWritable true)) ∧
      (step side s (.handleWritable true)).sendQueue = rest ∧
      (step side s (.handleWritable true)).accepted = s.accepted := by
  have hstep : Ordered (step side s (.handleWritable true)) := Ordered.step s _ h.toOrdered
  have hwrite : step side s (.handleWritable true) =
      { s with
        writing := false
        sendQueue := rest
        wire := s.wire ++ [front]
        callback := s.callback || !rest.isEmpty } := by
    rw [step, if_pos hwriting]
    exact handleWritable_written hqueue
  rw [hwrite] at hstep ⊢
  exact ⟨⟨hstep, h.isOpen, h.bConnected, h.requested⟩, rfl, rfl⟩

/-- A message that can be sent. -/
abbrev Sendable := { m : Message // m.Fits }

/-- A thread that sends something sends a message. -/
def SendsMessages : Op ι → Prop
  | .enter _ data => data ∈ Set.range fun m : Sendable => m.1.serialize
  | _ => True

/-- What the threads are sending and have sent are messages. -/
structure OfMessages (s : WebSocketLink ι) : Prop extends Ordered s where
  calls : ∀ i data, s.calls i = .entered data → data ∈ Set.range fun m : Sendable => m.1.serialize
  accepted : ∀ data ∈ s.accepted, data ∈ Set.range fun m : Sendable => m.1.serialize

omit [DecidableEq ι] in
theorem requestWrite_frame (side : Side) (s : WebSocketLink ι) :
    (s.requestWrite side).calls = s.calls ∧ (s.requestWrite side).accepted = s.accepted := by
  have hcallback : ∃ callback, s.requestWrite side = { s with callback := callback } := by
    cases side with
    | daemon =>
      simp only [requestWrite]
      split
      · exact ⟨true, rfl⟩
      · exact ⟨s.callback, rfl⟩
    | client => exact ⟨true, rfl⟩
  obtain ⟨callback, hs⟩ := hcallback
  rw [hs]
  exact ⟨rfl, rfl⟩

omit [DecidableEq ι] in
theorem handleWritable_frame (side : Side) (written : Bool) (s : WebSocketLink ι) :
    (s.handleWritable side written).calls = s.calls ∧
      (s.handleWritable side written).accepted = s.accepted := by
  unfold handleWritable
  split
  · exact ⟨rfl, rfl⟩
  · cases written with
    | true => exact ⟨rfl, rfl⟩
    | false => cases side <;> exact ⟨rfl, rfl⟩

omit [DecidableEq ι] in
theorem handleReceive_frame (data : List Byte) (final : Bool) (s : WebSocketLink ι) :
    (s.handleReceive data final).calls = s.calls ∧
      (s.handleReceive data final).accepted = s.accepted := by
  unfold handleReceive
  cases final <;> exact ⟨rfl, rfl⟩

/-- What a step does to the calls and to what is accepted: nothing, but for those of a thread. -/
theorem frame_step (side : Side) (s : WebSocketLink ι) (op : Op ι) :
    (step side s op).calls = s.calls ∧ (step side s op).accepted = s.accepted ∨
    (∃ i data, op = .enter i data ∧
      (step side s op).calls = Function.update s.calls i (.entered data) ∧
      (step side s op).accepted = s.accepted) ∨
    (∃ i data, s.calls i = .entered data ∧
      (step side s op).calls = Function.update s.calls i .pushed ∧
      (step side s op).accepted = s.accepted ++ [data]) ∨
    ∃ i, (step side s op).calls = Function.update s.calls i .idle ∧
      (step side s op).accepted = s.accepted := by
  cases op with
  | enter i data =>
    rw [step]
    split
    · exact .inr (.inl ⟨i, data, rfl, rfl, rfl⟩)
    · exact .inl ⟨rfl, rfl⟩
  | push i =>
    rw [step]
    split
    · rename_i data hcall
      exact .inr (.inr (.inl ⟨i, data, hcall, rfl, rfl⟩))
    · exact .inl ⟨rfl, rfl⟩
  | requestWrite i =>
    rw [step]
    split
    · exact .inr (.inr (.inr ⟨i, requestWrite_frame side _⟩))
    · exact .inl ⟨rfl, rfl⟩
  | writable =>
    rw [step]
    split
    · exact .inl ⟨rfl, rfl⟩
    · exact .inl ⟨rfl, rfl⟩
  | handleWritable written =>
    rw [step]
    split
    · exact .inl (handleWritable_frame side written _)
    · exact .inl ⟨rfl, rfl⟩
  | receive size =>
    rw [step]
    split
    · exact .inl ⟨rfl, rfl⟩
    · exact .inl (handleReceive_frame _ _ _)
  | close => exact .inl ⟨rfl, rfl⟩
  | closed => exact .inl ⟨rfl, rfl⟩

theorem OfMessages.step {side : Side} (s : WebSocketLink ι) (op : Op ι) (h : OfMessages s)
    (hop : SendsMessages op) : OfMessages (step side s op) := by
  have hordered : Ordered (WebSocketLink.step side s op) := Ordered.step s op h.toOrdered
  rcases frame_step side s op with ⟨hcalls, haccepted⟩ | ⟨i, data, rfl, hcalls, haccepted⟩ |
    ⟨i, data, hdata, hcalls, haccepted⟩ | ⟨i, hcalls, haccepted⟩
  · exact ⟨hordered, hcalls ▸ h.calls, haccepted ▸ h.accepted⟩
  · refine ⟨hordered, fun j p hj => ?_, haccepted ▸ h.accepted⟩
    rw [hcalls] at hj
    by_cases hji : j = i
    · rw [hji, Function.update_self] at hj
      cases hj
      exact hop
    · rw [Function.update_of_ne hji] at hj
      exact h.calls j p hj
  · refine ⟨hordered, fun j p hj => ?_, ?_⟩
    · rw [hcalls] at hj
      by_cases hji : j = i
      · rw [hji, Function.update_self] at hj
        cases hj
      · rw [Function.update_of_ne hji] at hj
        exact h.calls j p hj
    · rw [haccepted, List.forall_mem_append, List.forall_mem_singleton]
      exact ⟨h.accepted, h.calls i data hdata⟩
  · refine ⟨hordered, fun j p hj => ?_, haccepted ▸ h.accepted⟩
    rw [hcalls] at hj
    by_cases hji : j = i
    · rw [hji, Function.update_self] at hj
      cases hj
    · rw [Function.update_of_ne hji] at hj
      exact h.calls j p hj

/-- The messages were accepted, the first ones of them have arrived, and all of them once nothing is
about to happen on an open connection. -/
structure Conveys (s : WebSocketLink ι) (messages : List Sendable) : Prop where
  accepted : s.accepted = messages.map (·.1.serialize)
  arrived : s.delivered.filterMap Message.receive <+: messages.map (·.1.received)
  complete : s.isOpen = true → s.bConnected = true → Quiet s →
    s.delivered.filterMap Message.receive = messages.map (·.1.received)

/-- **The messages that arrive are those that were sent**, in that order, whatever the threads of
the two sides do. -/
theorem conveys_run (side : Side) (ops : List (Op ι)) (h : ∀ op ∈ ops, SendsMessages op) :
    ∃ messages : List Sendable, Conveys (run (step side) ({} : WebSocketLink ι) ops) messages := by
  have hs : OfMessages (run (step side) {} ops) := run_of_forall OfMessages.step ops
    ⟨ordered_start, fun i data hdata => (nomatch hdata), fun data hdata => (nomatch hdata)⟩ h
  generalize run (step side) {} ops = s at hs ⊢
  obtain ⟨messages, hmessages⟩ :
      s.accepted ∈ Set.range (List.map fun m : Sendable => m.1.serialize) := by
    rw [Set.range_list_map]
    exact hs.accepted
  have hreceive : s.accepted.filterMap Message.receive = messages.map (·.1.received) := by
    rw [← hmessages, List.filterMap_map, ← List.filterMap_eq_map]
    refine List.filterMap_congr fun m _ => ?_
    have hload := Message.receive_serialize m.2 []
    rwa [List.append_nil] at hload
  have hprefix : s.delivered <+: s.accepted := by
    rw [← hs.order, List.append_assoc]
    exact List.prefix_append _ _
  refine ⟨messages, hmessages.symm, ?_, fun hopen hconnected hquiet => ?_⟩
  · rw [← hreceive]
    exact hprefix.filterMap _
  · rw [← hreceive, hs.complete hopen hconnected hquiet]

/-- Two threads, of which one makes its request after its message is written. -/
def twoThreads : List (Op Bool) :=
  [.enter true [8], .enter false [8], .push false, .push true, .requestWrite true, .writable,
    .handleWritable true, .writable, .handleWritable true, .requestWrite false, .receive 1]

theorem conveys_twoThreads : ∃ messages : List Sendable,
    Conveys (run (step .daemon) ({} : WebSocketLink Bool) twoThreads) messages :=
  conveys_run .daemon twoThreads <| by
    have hrequest : ∃ m : Message, m.Fits ∧ m.serialize = [8] := ⟨.updateIP2AsnDb, trivial, rfl⟩
    simpa [twoThreads, SendsMessages] using hrequest

end WebSocketLink

end Waechter
