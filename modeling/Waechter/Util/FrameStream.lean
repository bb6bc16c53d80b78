import Waechter.Util.ClientSocket

/-!
# A stream of frames

One thread sends payloads with `WClientSocket::SendFramed`, the listen thread of the peer hands out
what `ReceiveFramed` gives it until the stream ends (`Util/ClientSocket.cpp`). `send` may take fewer
bytes than it is given, `recv` gives between 1 and 4096 of them, and both may be interrupted.

* `sendAll_stream`: what is on the stream when all calls have got through.
* `listenThread_eq`: the listen thread hands out the frames of all bytes it is given.
* `listenThread_sendAll`: the buffers handed out are the payloads.
-/

namespace Waechter

/-! ## Sending -/

/-- What a call of `send` gives: it takes some of the bytes, it is interrupted or it fails. -/
inductive SendResult
  | sent (size : Nat)
  | interrupted
  | failed

/-- The sending side: what the calls of `send` are going to give, and the bytes on the stream. -/
structure Sender where
  bIsConnected : Bool := true
  results : List SendResult
  stream : List Byte := []

namespace Sender

/-- The loop of `Send` over the bytes that are left; `none` when a `send` does not come back. -/
def sendLoop : List SendResult → List Byte → List Byte → Option (Bool × Sender)
  | results, stream, [] => some (true, { results, stream })
  | [], _, _ :: _ => none
  | .interrupted :: results, stream, rest => sendLoop results stream rest
  | .failed :: results, stream, _ => some (false, { bIsConnected := false, results, stream })
  | .sent size :: results, stream, rest =>
    sendLoop results (stream ++ rest.take size) (rest.drop size)

/-- `WClientSocket::Send`. -/
def send (s : Sender) (data : List Byte) : Option (Bool × Sender) :=
  if s.bIsConnected = false ∨ data = [] then some (false, s)
  else sendLoop s.results s.stream data

/-- `WClientSocket::SendFramed`. -/
def sendFramed (s : Sender) (payload : List Byte) : Option (Bool × Sender) :=
  match s.send (lengthHeader payload.length) with
  | some (true, s) => s.send payload
  | other => other

/-- A thread that sends one payload after the other and does not ask what came of it: of an empty
payload `SendFramed` returns `false`. -/
def sendAll (s : Sender) : List (List Byte) → Option Sender
  | [] => some s
  | payload :: payloads =>
    match s.sendFramed payload with
    | some (_, s) => s.sendAll payloads
    | none => none

theorem sendLoop_stream {results : List SendResult} {stream rest : List Byte} {sent : Bool}
    {s : Sender} (h : sendLoop results stream rest = some (sent, s))
    (hopen : s.bIsConnected = true) :
    sent = true ∧ s.stream = stream ++ rest := by
  fun_induction sendLoop results stream rest with
  | case1 results stream =>
    cases h
    exact ⟨rfl, (List.append_nil _).symm⟩
  | case2 => cases h
  | case3 stream rest results _ ih => exact ih h
  | case4 =>
    cases h
    cases hopen
  | case5 stream rest size results _ ih =>
    obtain ⟨hsent, hstream⟩ := ih h
    rw [List.append_assoc, List.take_append_drop] at hstream
    exact ⟨hsent, hstream⟩

/-- A call that leaves the connection open has put its bytes on the stream. -/
theorem send_stream {s s' : Sender} {data : List Byte} {sent : Bool}
    (h : s.send data = some (sent, s')) (hopen : s'.bIsConnected = true) :
    s.bIsConnected = true ∧ s'.stream = s.stream ++ data ∧ (data ≠ [] → sent = true) := by
  unfold send at h
  split at h
  · rename_i hskip
    cases h
    have hdata : data = [] := hskip.resolve_left (by rw [hopen]; exact Bool.noConfusion)
    exact ⟨hopen, by rw [hdata, List.append_nil], fun hne => absurd hdata hne⟩
  · rename_i hgo
    rw [not_or, Bool.not_eq_false] at hgo
    obtain ⟨hsent, hstream⟩ := sendLoop_stream h hopen
    exact ⟨hgo.1, hstream, fun _ => hsent⟩

theorem sendFramed_stream {s s' : Sender} {payload : List Byte} {sent : Bool}
    (h : s.sendFramed payload = some (sent, s')) (hopen : s'.bIsConnected = true) :
    s.bIsConnected = true ∧ s'.stream = s.stream ++ uint32Frames.frame payload := by
  unfold sendFramed at h
  split at h
  · rename_i s₁ hheader
    obtain ⟨hopen₁, hbody, -⟩ := send_stream h hopen
    obtain ⟨hopen₀, hstream, -⟩ := send_stream hheader hopen₁
    refine ⟨hopen₀, ?_⟩
    rw [hbody, hstream, List.append_assoc]
    rfl
  · rename_i hheader
    -- the header is never empty, so it has not got through
    obtain ⟨-, -, hsent⟩ := send_stream h hopen
    cases hsent (List.cons_ne_nil _ _)
    exact absurd h (hheader s')

/-- **What the calls put on the stream** when all of them have got through. -/
theorem sendAll_stream : ∀ (payloads : List (List Byte)) {s s' : Sender},
    s.sendAll payloads = some s' → s'.bIsConnected = true →
      s.bIsConnected = true ∧ s'.stream = s.stream ++ (payloads.map uint32Frames.frame).flatten
  | [], s, s', h, hopen => by
    cases h
    exact ⟨hopen, (List.append_nil _).symm⟩
  | payload :: payloads, s, s', h, hopen => by
    rw [sendAll] at h
    split at h
    · rename_i sent s₁ hframe
      obtain ⟨hopen₁, hrest⟩ := sendAll_stream payloads h hopen
      obtain ⟨hopen₀, hstream⟩ := sendFramed_stream hframe hopen₁
      refine ⟨hopen₀, ?_⟩
      rw [hrest, hstream, List.append_assoc, List.map_cons, List.flatten_cons]
    · cases h

end Sender

/-! ## Receiving -/

/-- The bytes of one `recv` into the buffer of 4096. -/
structure Chunk where
  bytes : List Byte
  size : 1 ≤ bytes.length ∧ bytes.length ≤ 4096

/-- What a call of `recv` gives before the stream ends: some bytes, or it is interrupted. -/
inductive RecvResult
  | received (chunk : Chunk)
  | interrupted

def RecvResult.bytes : RecvResult → List Byte
  | .received chunk => chunk.bytes
  | .interrupted => []

/-- The receiving side, with what the calls of `recv` are going to give. Behind them the stream is
exhausted, and `recv` gives 0. -/
structure Receiver where
  bIsConnected : Bool := true
  incomingBuffer : List Byte := []
  results : List RecvResult

namespace Receiver

/-- `WClientSocket::ReceiveRaw`; `none` is a result of 0 or less. -/
def receiveRaw (s : Receiver) : Option (List Byte) × Receiver :=
  match s.results with
  | [] => (none, { s with bIsConnected := false })
  | .interrupted :: results => (none, { s with results })
  | .received chunk :: results => (some chunk.bytes, { s with results })

/-- `WClientSocket::TryPopBufferedFrame`. -/
def tryPop (s : Receiver) : Option (List Byte) × Receiver :=
  match tryPopBufferedFrame s.incomingBuffer with
  | some (frame, rest) => (some frame, { s with incomingBuffer := rest })
  | none => (none, s)

/-- `WClientSocket::ReceiveFramed`. -/
def receiveFramed (s : Receiver) : Option (List Byte) × Receiver :=
  if s.bIsConnected then
    match s.tryPop with
    | (some frame, s) => (some frame, s)
    | (none, s) =>
      match s.receiveRaw with
      | (none, s) => (none, s)
      | (some data, s) => { s with incomingBuffer := s.incomingBuffer ++ data }.tryPop
  else (none, s)

/-- The calls of `recv` that are still to come, the one that finds the end included. -/
def toCome (s : Receiver) : Nat := s.results.length + s.bIsConnected.toNat

/-- The bytes that are still to come. -/
def toReceive (s : Receiver) : List Byte := s.results.flatMap RecvResult.bytes

theorem tryPop_cases (s : Receiver) :
    (∃ frame rest, uint32Frames.pop s.incomingBuffer = some (frame, rest) ∧
      s.tryPop = (some frame, { s with incomingBuffer := rest })) ∨
    (uint32Frames.pop s.incomingBuffer = none ∧ s.tryPop = (none, s)) := by
  unfold tryPop
  rw [tryPop_eq]
  cases hpop : uint32Frames.pop s.incomingBuffer with
  | none => exact .inr ⟨rfl, rfl⟩
  | some x => exact .inl ⟨x.1, x.2, rfl, rfl⟩

/-- What a call of `ReceiveFramed` does: it hands out a frame that is buffered, finds the end of the
stream, is interrupted, or appends what `recv` gives it and hands out the first frame of that. -/
theorem receiveFramed_cases {s : Receiver} (hopen : s.bIsConnected = true) :
    (∃ frame rest, uint32Frames.pop s.incomingBuffer = some (frame, rest) ∧
      s.receiveFramed = (some frame, { s with incomingBuffer := rest })) ∨
    uint32Frames.pop s.incomingBuffer = none ∧
      ((s.results = [] ∧ s.receiveFramed = (none, { s with bIsConnected := false })) ∨
      (∃ results, s.results = .interrupted :: results ∧
        s.receiveFramed = (none, { s with results })) ∨
      ∃ chunk results, s.results = .received chunk :: results ∧ s.receiveFramed =
        { s with incomingBuffer := s.incomingBuffer ++ chunk.bytes, results }.tryPop) := by
  unfold receiveFramed
  rw [if_pos hopen]
  rcases s.tryPop_cases with ⟨frame, rest, hpop, htry⟩ | ⟨hpop, htry⟩
  · exact .inl ⟨frame, rest, hpop, by rw [htry]⟩
  · refine .inr ⟨hpop, ?_⟩
    rw [htry]
    obtain ⟨conn, buffer, results⟩ := s
    match results with
    | [] => exact .inl ⟨rfl, rfl⟩
    | .interrupted :: results => exact .inr (.inl ⟨results, rfl, rfl⟩)
    | .received chunk :: results => exact .inr (.inr ⟨chunk, results, rfl, rfl⟩)

theorem tryPop_le (s : Receiver) :
    s.tryPop.2.toCome = s.toCome ∧ s.tryPop.2.incomingBuffer.length ≤ s.incomingBuffer.length := by
  rcases s.tryPop_cases with ⟨frame, rest, hpop, htry⟩ | ⟨-, htry⟩
  · rw [htry]
    exact ⟨rfl, Nat.le_of_lt (Lib.Codec.pop_shorter hpop)⟩
  · rw [htry]
    exact ⟨rfl, Nat.le_refl _⟩

/-- A call gets on: with a `recv`, or else the buffer becomes shorter. -/
theorem receiveFramed_decreases {s : Receiver} (hopen : s.bIsConnected = true) :
    Prod.Lex (· < ·) (· < ·)
      (s.receiveFramed.2.toCome, s.receiveFramed.2.incomingBuffer.length)
      (s.toCome, s.incomingBuffer.length) := by
  rcases receiveFramed_cases hopen with ⟨frame, rest, hpop, hcall⟩ |
    ⟨-, ⟨hnil, hcall⟩ | ⟨results, hcons, hcall⟩ | ⟨chunk, results, hcons, hcall⟩⟩
  · rw [hcall]
    exact .right _ (Lib.Codec.pop_shorter hpop)
  · refine .left _ _ ?_
    rw [hcall, toCome, toCome, hopen]
    exact Nat.lt_succ_self _
  · refine .left _ _ ?_
    rw [hcall, toCome, toCome, hcons, List.length_cons]
    dsimp only
    omega
  · refine .left _ _ ?_
    rw [hcall, (tryPop_le _).1, toCome, toCome, hcons, List.length_cons]
    dsimp only
    omega

/-- `WClientSocket::ListenThreadFunction`: the buffers it passes on to `OnData`. The inner loop
stops when there is no whole frame yet, and the outer one enters it again. -/
def listenThread (s : Receiver) : List (List Byte) :=
  if _h : s.bIsConnected then
    match s.receiveFramed.1 with
    | some frame => frame :: listenThread s.receiveFramed.2
    | none => listenThread s.receiveFramed.2
  else []
termination_by (s.toCome, s.incomingBuffer.length)
decreasing_by all_goals exact receiveFramed_decreases _h

/-- The frames of what is buffered and of what is still to come. -/
def undelivered (s : Receiver) : List (List Byte) :=
  (uint32Frames.frames (s.incomingBuffer ++ s.toReceive)).1

theorem tryPop_undelivered (s : Receiver) : s.tryPop.2.bIsConnected = s.bIsConnected ∧
    s.undelivered = s.tryPop.1.toList ++ s.tryPop.2.undelivered := by
  rcases s.tryPop_cases with ⟨frame, rest, hpop, htry⟩ | ⟨-, htry⟩
  · rw [htry, undelivered, Lib.Codec.frames_of_some (Lib.Codec.pop_append hpop _)]
    exact ⟨rfl, rfl⟩
  · rw [htry]
    exact ⟨rfl, rfl⟩

/-- A call hands out the next frame that is undelivered, or none; and it finds the end of the stream
only when no frame is left. -/
theorem receiveFramed_undelivered {s : Receiver} (hopen : s.bIsConnected = true) :
    (s.receiveFramed.2.bIsConnected = true ∧
      s.undelivered = s.receiveFramed.1.toList ++ s.receiveFramed.2.undelivered) ∨
    (s.receiveFramed.2.bIsConnected = false ∧ s.receiveFramed.1 = none ∧ s.undelivered = []) := by
  rcases receiveFramed_cases hopen with ⟨frame, rest, hpop, hcall⟩ |
    ⟨hnone, ⟨hnil, hcall⟩ | ⟨results, hcons, hcall⟩ | ⟨chunk, results, hcons, hcall⟩⟩
  · rw [hcall, undelivered, Lib.Codec.frames_of_some (Lib.Codec.pop_append hpop _)]
    exact .inl ⟨hopen, rfl⟩
  · rw [hcall, undelivered, toReceive, hnil, List.flatMap_nil, List.append_nil,
      Lib.Codec.frames_of_none hnone]
    exact .inr ⟨rfl, rfl, rfl⟩
  · rw [hcall, undelivered, undelivered, toReceive, toReceive, hcons]
    exact .inl ⟨hopen, rfl⟩
  · have happended : s.undelivered =
        undelivered { s with incomingBuffer := s.incomingBuffer ++ chunk.bytes, results } := by
      rw [undelivered, undelivered, toReceive, toReceive, hcons, List.flatMap_cons,
        ← List.append_assoc]
      rfl
    obtain ⟨hconn, hpop⟩ :=
      tryPop_undelivered { s with incomingBuffer := s.incomingBuffer ++ chunk.bytes, results }
    rw [hcall, happended]
    exact .inl ⟨hconn.trans hopen, hpop⟩

/-- **The listen thread hands out the frames** of what is buffered and of what it receives. -/
theorem listenThread_eq (s : Receiver) (hopen : s.bIsConnected = true) :
    s.listenThread = s.undelivered := by
  fun_induction listenThread s with
  | case1 s _ frame hframe ih =>
    rcases receiveFramed_undelivered hopen with ⟨hnext, hrest⟩ | ⟨-, hnone, -⟩
    · rw [hrest, hframe, ih hnext]
      rfl
    · rw [hframe] at hnone
      cases hnone
  | case2 s _ hframe ih =>
    rcases receiveFramed_undelivered hopen with ⟨hnext, hrest⟩ | ⟨hclosed, -, hrest⟩
    · rw [hrest, hframe, ih hnext]
      rfl
    · rw [listenThread, dif_neg (by rw [hclosed]; exact Bool.noConfusion), hrest]
  | case3 s hclosed => exact absurd hopen hclosed

/-- **The buffers handed out are the payloads**, each once and in order, however `send` has split
them up and however the stream is cut into receives. -/
theorem listenThread_sendAll (payloads : List (List Byte))
    (hfits : ∀ payload ∈ payloads, payload.length < 2 ^ 32) {sends : List SendResult} {s : Sender}
    (hsent : Sender.sendAll { results := sends } payloads = some s) (hopen : s.bIsConnected = true)
    (recvs : List RecvResult) (hcut : recvs.flatMap RecvResult.bytes = s.stream) :
    listenThread { results := recvs } = payloads := by
  obtain ⟨-, hstream⟩ := Sender.sendAll_stream payloads hsent hopen
  have hall := Lib.Codec.frames_flatten (c := uint32Frames) payloads hfits []
  rw [List.append_nil] at hall
  rw [listenThread_eq _ rfl, undelivered, toReceive, hcut, hstream, List.nil_append,
    List.nil_append, hall]
  exact List.append_nil _

/-- Two payloads, one of them empty, in three receives. -/
theorem listenThread_sendAll_cut : listenThread { results :=
    [.received ⟨[1, 0], by decide⟩, .interrupted, .received ⟨[0, 0, 7, 0], by decide⟩,
      .received ⟨[0, 0, 0], by decide⟩] } = [[7], []] :=
  have hsent : Sender.sendAll
      { results := [.sent 3, .interrupted, .sent 1, .sent 1, .sent 4] } [[7], []] = some _ := rfl
  listenThread_sendAll [[7], []] (by decide) hsent rfl _ rfl

end Receiver

end Waechter
