import Mathlib.Algebra.Group.Nat.Defs
import Mathlib.Logic.Function.Basic
import Waechter.Lib.Framing
import Waechter.Lib.Run

/-!
# Frames on the client socket

`WClientSocket` (`Util/ClientSocket.cpp`) puts a payload behind its length and sends both with at
least two calls of `send`, and its listen thread cuts what arrives into frames again. Neither side
takes a lock: the steps of the threads that send on one socket may fall between one another, and so
may those of the listen threads of all sockets of a process, which read into one static buffer.

* `Sending.always_wholeFrames`: the stream is whole frames, up to a part of the one that is being
  sent, in every run where no thread puts bytes into the middle of another thread's frame.
* `Listening.always_ownFrames`: a connection delivers the frames of its own bytes in every run where
  `Connect` finds no leftover and no thread reads while another has yet to append.
-/

namespace Waechter

/-- A byte. -/
abbrev Byte := UInt8

/-- The bytes of `static_cast<uint32_t>(Size)` in memory. -/
def lengthHeader (size : Nat) : List Byte :=
  [UInt8.ofNat size, UInt8.ofNat (size / 2 ^ 8), UInt8.ofNat (size / 2 ^ 16),
    UInt8.ofNat (size / 2 ^ 24)]

/-- The `memcpy` of the length. -/
def frameLength (data : List Byte) : Nat :=
  match data with
  | a :: b :: c :: d :: _ =>
    a.toNat + b.toNat * 2 ^ 8 + c.toNat * 2 ^ 16 + d.toNat * 2 ^ 24
  | _ => 0

theorem frameLength_lengthHeader (n : Nat) (h : n < 2 ^ 32) : frameLength (lengthHeader n) = n := by
  simp only [frameLength, lengthHeader, UInt8.toNat_ofNat']
  omega

theorem width_uint32 : 0 < 4 := by decide

/-- The framing of the client socket. -/
def uint32Frames : Lib.Codec Byte where
  width := 4
  header := lengthHeader
  read := frameLength
  bound := 2 ^ 32
  width_pos := width_uint32
  header_length _ := rfl
  read_header := frameLength_lengthHeader

/-- `TryPopBufferedFrame`: the frame and what stays in `IncomingBuffer`. -/
def tryPopBufferedFrame (incomingBuffer : List Byte) : Option (List Byte × List Byte) :=
  if 4 ≤ incomingBuffer.length then
    let frameLength := frameLength (incomingBuffer.take 4)
    if incomingBuffer.length < 4 + frameLength then none
    else some ((incomingBuffer.drop 4).take frameLength, incomingBuffer.drop (4 + frameLength))
  else none

theorem tryPop_eq (buf : List Byte) : tryPopBufferedFrame buf = uint32Frames.pop buf := rfl

variable {ι : Type} [DecidableEq ι]

/-! ## Threads that send on one socket -/

/-- Where a thread is in `SendFramed`: the bytes that the `Send` it is in has still to hand over,
and the payload. -/
inductive Call
  | idle
  | sending (inBody : Bool) (rest payload : List Byte)
  deriving DecidableEq

/-- The bytes of its frame that the call has not handed over. -/
def Call.left : Call → List Byte
  | .idle => []
  | .sending inBody rest payload => if inBody then rest else rest ++ payload

/-- Some of the frame has been handed over. -/
def Call.Begun : Call → Prop
  | .idle => False
  | .sending inBody rest _ => inBody = true ∨ rest.length < 4

instance : (c : Call) → Decidable c.Begun
  | .idle => .isFalse fun h => h
  | .sending inBody rest _ => inferInstanceAs (Decidable (inBody = true ∨ rest.length < 4))

/-- One socket, the threads that send on it, and the bytes the peer receives. `returned` are the
payloads of the calls that have handed over their frame, in that order. -/
structure Sending (ι : Type) where
  bIsConnected : Bool := true
  calls : ι → Call := fun _ => .idle
  stream : List Byte := []
  returned : List (List Byte) := []

namespace Sending

/-- What happens on the socket: a thread calls `SendFramed`, its `send` takes some bytes or fails,
or the socket is closed by somebody else. A `send` that is interrupted is called again. -/
inductive Op (ι : Type)
  | sendFramed (i : ι) (payload : List Byte)
  | send (i : ι) (sent : Nat)
  | failed (i : ι)
  | close

/-- The call after `Send` has handed over what it had. An empty body is not sent. -/
def Call.next (inBody : Bool) (payload : List Byte) : Call :=
  if inBody = false ∧ payload ≠ [] then .sending true payload payload else .idle

/-- The call after `send` has taken `sent` bytes of it. -/
def Call.advance (inBody : Bool) (rest payload : List Byte) (sent : Nat) : Call :=
  if sent < rest.length then .sending inBody (rest.drop sent) payload else Call.next inBody payload

def step (s : Sending ι) : Op ι → Sending ι
  | .sendFramed i payload =>
    if s.calls i = .idle ∧ s.bIsConnected then
      { s with calls :=
          Function.update s.calls i (.sending false (lengthHeader payload.length) payload) }
    else s
  | .send i sent =>
    match s.calls i with
    | .idle => s
    | .sending inBody rest payload =>
      if s.bIsConnected ∧ 0 < sent ∧ sent ≤ rest.length then
        let next := Call.advance inBody rest payload sent
        { s with
          calls := Function.update s.calls i next
          stream := s.stream ++ rest.take sent
          returned := if next = .idle then s.returned ++ [payload] else s.returned }
      else s
  | .failed i =>
    match s.calls i with
    | .idle => s
    | .sending .. => { s with calls := Function.update s.calls i .idle, bIsConnected := false }
  | .close => { s with bIsConnected := false }

/-- The stream of the socket is whole frames, each a length and exactly that payload, of the calls
that have returned. What follows them is a part of the frame of a call that is on, or the
connection has broken off in it. -/
def WholeFrames (s : Sending ι) : Prop :=
  ∃ (order : List (List Byte)) (part : List Byte), order.Perm s.returned ∧ (∀ p ∈ order, p.length < 2 ^ 32) ∧
    s.stream = (order.map uint32Frames.frame).flatten ++ part ∧
    (part ≠ [] → ∃ p rest : List Byte, p.length < 2 ^ 32 ∧ rest ≠ [] ∧ part ++ rest = uint32Frames.frame p ∧
      (s.bIsConnected = true → ∃ i inBody left, s.calls i = .sending inBody left p))

/-- A thread puts bytes on the socket only when no other thread's frame is partly there, and a
payload has a length of 32 bits. -/
def InTurn (s : Sending ι) : Op ι → Prop
  | .sendFramed _ payload => payload.length < 2 ^ 32
  | .send i _ => ∀ j, j ≠ i → ¬ (s.calls j).Begun
  | _ => True

/-- What a call in turn keeps: its payload fits, and what it has handed over and what is left make
its frame. -/
structure Underway (inBody : Bool) (rest payload : List Byte) : Prop where
  fits : payload.length < 2 ^ 32
  rest_ne : rest ≠ []
  header_le : inBody = false → rest.length ≤ 4
  split : ∃ sent, sent ++ (Call.sending inBody rest payload).left = uint32Frames.frame payload

/-- How the stream stands: between two frames, in the middle of one thread's frame, or broken off in
the middle of a frame. -/
inductive Standing (s : Sending ι) : Prop
  | between (hstream : s.stream = (s.returned.map uint32Frames.frame).flatten)
      (hnone : ∀ i, ¬ (s.calls i).Begun)
  | within (i : ι) (inBody : Bool) (rest p : List Byte) (hcall : s.calls i = .sending inBody rest p)
      (hstream : s.stream ++ (s.calls i).left =
        (s.returned.map uint32Frames.frame).flatten ++ uint32Frames.frame p)
      (hothers : ∀ j, j ≠ i → ¬ (s.calls j).Begun)
  | broken (p part rest : List Byte) (hclosed : s.bIsConnected = false) (hp : p.length < 2 ^ 32)
      (hrest : rest ≠ []) (hpart : part ++ rest = uint32Frames.frame p)
      (hstream : s.stream = (s.returned.map uint32Frames.frame).flatten ++ part)

/-- The invariant of the runs in turn. -/
structure Ordered (s : Sending ι) : Prop where
  underway : ∀ i inBody rest p, s.calls i = .sending inBody rest p → Underway inBody rest p
  returned : ∀ p ∈ s.returned, p.length < 2 ^ 32
  standing : Standing s

theorem Underway.left_ne {inBody : Bool} {rest p : List Byte} (h : Underway inBody rest p) :
    (Call.sending inBody rest p).left ≠ [] := by
  cases inBody with
  | true => exact h.rest_ne
  | false => exact fun hnil => h.rest_ne (List.append_eq_nil_iff.mp hnil).1

/-- A call that has not begun has its whole frame before it. -/
theorem Underway.left_eq {inBody : Bool} {rest p : List Byte} (h : Underway inBody rest p)
    (hbegun : ¬ (Call.sending inBody rest p).Begun) :
    (Call.sending inBody rest p).left = uint32Frames.frame p := by
  obtain ⟨sent, hsplit⟩ := h.split
  cases inBody with
  | true => exact absurd (.inl rfl) hbegun
  | false =>
    have hfull : 4 ≤ rest.length := by
      by_contra hlt
      exact hbegun (.inr (by omega))
    have hlen := congrArg List.length hsplit
    simp only [Call.left, Lib.Codec.frame, List.length_append, uint32Frames.header_length,
      Bool.false_eq_true, if_false] at hlen
    have hnone : sent = [] := by
      rw [← List.length_eq_zero_iff]
      have : uint32Frames.width = 4 := rfl
      omega
    rw [← hsplit, hnone, List.nil_append]

omit [DecidableEq ι] in
theorem Ordered.wholeFrames {s : Sending ι} (h : Ordered s) : WholeFrames s := by
  rcases h.standing with ⟨hstream, -⟩ | ⟨i, inBody, rest, p, hcall, hstream, -⟩ |
    ⟨p, part, rest, hclosed, hp, hrest, hpart, hstream⟩
  · exact ⟨s.returned, [], .refl _, h.returned, by rw [hstream, List.append_nil],
      fun hne => absurd rfl hne⟩
  · have hu := h.underway i inBody rest p hcall
    obtain ⟨sent, hsplit⟩ := hu.split
    rw [hcall, ← hsplit, ← List.append_assoc] at hstream
    exact ⟨s.returned, sent, .refl _, h.returned, List.append_cancel_right hstream,
      fun _ => ⟨p, _, hu.fits, hu.left_ne, hsplit, fun _ => ⟨i, inBody, rest, hcall⟩⟩⟩
  · refine ⟨s.returned, part, .refl _, h.returned, hstream, fun _ => ⟨p, rest, hp, hrest, hpart, ?_⟩⟩
    intro hopen
    rw [hclosed] at hopen
    cases hopen

/-! ### One step -/

/-- `send` either hands over the last byte of the frame, or the call is on with the rest of it. -/
theorem advance_cases {inBody : Bool} {rest p : List Byte} (h : Underway inBody rest p) {sent : Nat}
    (hpos : 0 < sent) (hle : sent ≤ rest.length) :
    (Call.advance inBody rest p sent = .idle ∧
      (Call.sending inBody rest p).left = rest.take sent) ∨
    ∃ inBody' rest', Call.advance inBody rest p sent = .sending inBody' rest' p ∧
      Underway inBody' rest' p ∧
      (Call.sending inBody rest p).left =
        rest.take sent ++ (Call.sending inBody' rest' p).left := by
  obtain ⟨before, hsplit⟩ := h.split
  by_cases hlt : sent < rest.length
  · have hleft : (Call.sending inBody rest p).left =
        rest.take sent ++ (Call.sending inBody (rest.drop sent) p).left := by
      cases inBody with
      | true => exact (List.take_append_drop sent rest).symm
      | false =>
        change rest ++ p = _ ++ (_ ++ p)
        rw [← List.append_assoc, List.take_append_drop]
    refine .inr ⟨inBody, rest.drop sent, if_pos hlt, ⟨h.fits, ?_, ?_, ?_⟩, hleft⟩
    · rw [ne_eq, List.drop_eq_nil_iff]
      omega
    · intro hheader
      have := h.header_le hheader
      rw [List.length_drop]
      omega
    · exact ⟨before ++ rest.take sent, by rw [List.append_assoc, ← hleft, hsplit]⟩
  · have htake : rest.take sent = rest := List.take_of_length_le (by omega)
    rw [Call.advance, if_neg hlt, htake]
    cases inBody with
    | true => exact .inl ⟨rfl, rfl⟩
    | false =>
      by_cases hp : p = []
      · exact .inl ⟨if_neg fun hb => hb.2 hp, by rw [hp]; exact List.append_nil rest⟩
      · refine .inr ⟨true, p, if_pos ⟨rfl, hp⟩, ⟨h.fits, hp, fun hb => (nomatch hb), ?_⟩, rfl⟩
        exact ⟨before ++ rest, by rw [List.append_assoc]; exact hsplit⟩

/-- In turn, the stream and what is left of the call make the frame behind the frames before it. -/
theorem Ordered.stream_left {s : Sending ι} (h : Ordered s) {i : ι} {inBody : Bool}
    {rest p : List Byte} (hcall : s.calls i = .sending inBody rest p) (hopen : s.bIsConnected = true)
    (hturn : ∀ j, j ≠ i → ¬ (s.calls j).Begun) :
    s.stream ++ (Call.sending inBody rest p).left =
      (s.returned.map uint32Frames.frame).flatten ++ uint32Frames.frame p := by
  rcases h.standing with ⟨hstream, hnone⟩ | ⟨j, inBody', rest', q, hcall', hstream, hothers⟩ |
    ⟨_, _, _, hclosed, -⟩
  · have hbegun := hnone i
    rw [hcall] at hbegun
    rw [hstream, (h.underway i inBody rest p hcall).left_eq hbegun]
  · by_cases hij : i = j
    · subst hij
      rw [hcall] at hcall' hstream
      cases hcall'
      exact hstream
    · -- nobody else is in a frame, so thread `j` has its whole frame before it
      have hj := hturn j fun hji => hij hji.symm
      have hi := hothers i hij
      rw [hcall'] at hj hstream
      rw [(h.underway j inBody' rest' q hcall').left_eq hj] at hstream
      rw [hcall] at hi
      rw [(h.underway i inBody rest p hcall).left_eq hi, List.append_cancel_right hstream]
  · rw [hopen] at hclosed
    cases hclosed

/-- A thread that leaves its call, or enters one, while no frame is touched. -/
theorem Ordered.of_update {s : Sending ι} (h : Ordered s) (i : ι) (c : Call)
    (hc : ∀ inBody rest p, c = .sending inBody rest p → Underway inBody rest p) :
    ∀ j inBody rest p, Function.update s.calls i c j = .sending inBody rest p →
      Underway inBody rest p := by
  intro j inBody rest p hcall
  by_cases hji : j = i
  · subst hji
    rw [Function.update_self] at hcall
    exact hc _ _ _ hcall
  · rw [Function.update_of_ne hji] at hcall
    exact h.underway j _ _ _ hcall

theorem Ordered.sendFramed {s : Sending ι} (h : Ordered s) (i : ι) {payload : List Byte}
    (hfits : payload.length < 2 ^ 32) : Ordered (step s (.sendFramed i payload)) := by
  rw [step]
  split
  · rename_i hidle
    have hnew : ∀ j, ¬ (Function.update s.calls i
        (.sending false (lengthHeader payload.length) payload) j).Begun ∨ j ≠ i := by
      intro j
      by_cases hji : j = i
      · subst hji
        rw [Function.update_self]
        exact .inl fun hb => hb.elim (fun hf => nomatch hf) (fun hlt => absurd hlt (Nat.lt_irrefl 4))
      · exact .inr hji
    refine ⟨h.of_update i _ ?_, h.returned, ?_⟩
    · rintro _ _ _ ⟨⟩
      exact ⟨hfits, List.cons_ne_nil _ _, fun _ => Nat.le_refl _, [], rfl⟩
    · rcases h.standing with ⟨hstream, hnone⟩ | ⟨j, inBody, rest, q, hcall, hstream, hothers⟩ |
        ⟨p, part, rest, hclosed, hp, hrest, hpart, hstream⟩
      · refine .between hstream fun j => ?_
        rcases hnew j with hb | hji
        · exact hb
        · change ¬ (Function.update s.calls i _ j).Begun
          rw [Function.update_of_ne hji]
          exact hnone j
      · have hji : j ≠ i := by
          rintro rfl
          rw [hidle.1] at hcall
          cases hcall
        refine .within j inBody rest q ?_ ?_ fun k hkj => ?_
        · exact (Function.update_of_ne hji _ _).trans hcall
        · change s.stream ++ (Function.update s.calls i _ j).left = _
          rw [Function.update_of_ne hji]
          exact hstream
        · rcases hnew k with hb | hki
          · exact hb
          · change ¬ (Function.update s.calls i _ k).Begun
            rw [Function.update_of_ne hki]
            exact hothers k hkj
      · exact .broken p part rest hclosed hp hrest hpart hstream
  · exact h

theorem Ordered.send {s : Sending ι} (h : Ordered s) (i : ι) (sent : Nat)
    (hturn : ∀ j, j ≠ i → ¬ (s.calls j).Begun) : Ordered (step s (.send i sent)) := by
  rw [step]
  cases hcall : s.calls i with
  | idle => exact h
  | sending inBody rest p =>
    simp only
    split
    · rename_i hguard
      obtain ⟨hopen, hpos, hle⟩ := hguard
      have hu := h.underway i inBody rest p hcall
      have hstream := h.stream_left hcall hopen hturn
      have hothers : ∀ (c : Call) (j : ι), j ≠ i → ¬ (Function.update s.calls i c j).Begun := by
        intro c j hji
        rw [Function.update_of_ne hji]
        exact hturn j hji
      rcases advance_cases hu hpos hle with ⟨hnext, hleft⟩ | ⟨inBody', rest', hnext, hu', hleft⟩
      · -- the frame is whole
        rw [hnext, if_pos rfl]
        rw [hleft] at hstream
        refine ⟨h.of_update i _ fun _ _ _ hc => (nomatch hc), ?_, .between ?_ fun j => ?_⟩
        · intro q hq
          rcases List.mem_append.mp hq with hq | hq
          · exact h.returned q hq
          · rw [List.mem_singleton.mp hq]
            exact hu.fits
        · rw [List.map_append, List.flatten_append, hstream]
          simp only [List.map_cons, List.map_nil, List.flatten_cons, List.flatten_nil,
            List.append_nil]
        · by_cases hji : j = i
          · subst hji
            change ¬ (Function.update s.calls j .idle j).Begun
            rw [Function.update_self]
            exact fun hb => hb
          · exact hothers _ j hji
      · rw [hnext, if_neg fun hc => nomatch hc]
        rw [hleft, ← List.append_assoc] at hstream
        refine ⟨h.of_update i _ ?_, h.returned, .within i inBody' rest' p ?_ ?_ (hothers _)⟩
        · rintro _ _ _ ⟨⟩
          exact hu'
        · exact Function.update_self ..
        · change _ ++ (Function.update s.calls i _ i).left = _
          rw [Function.update_self]
          exact hstream
    · exact h

theorem Ordered.failed {s : Sending ι} (h : Ordered s) (i : ι) : Ordered (step s (.failed i)) := by
  rw [step]
  cases hcall : s.calls i with
  | idle => exact h
  | sending inBody rest p =>
    have hothers : ∀ j, ¬ (s.calls j).Begun ∨ j = i →
        ¬ (Function.update s.calls i .idle j).Begun := by
      intro j hj
      by_cases hji : j = i
      · rw [hji, Function.update_self]
        exact fun hb => hb
      · rw [Function.update_of_ne hji]
        exact hj.resolve_right hji
    refine ⟨h.of_update i _ fun _ _ _ hc => (nomatch hc), h.returned, ?_⟩
    rcases h.standing with ⟨hstream, hnone⟩ | ⟨j, inBody', rest', q, hcall', hstream, hnone⟩ |
      ⟨q, part, rest', hclosed, hq, hrest, hpart, hstream⟩
    · exact .between hstream fun j => hothers j (.inl (hnone j))
    · by_cases hji : j = i
      · -- the frame breaks off where the thread stopped
        have hu := h.underway j inBody' rest' q hcall'
        obtain ⟨before, hsplit⟩ := hu.split
        rw [hcall', ← hsplit, ← List.append_assoc] at hstream
        exact .broken q before _ rfl hu.fits hu.left_ne hsplit (List.append_cancel_right hstream)
      · refine .within j inBody' rest' q ?_ ?_ fun k hkj => hothers k (.inl (hnone k hkj))
        · exact (Function.update_of_ne hji _ _).trans hcall'
        · change s.stream ++ (Function.update s.calls i _ j).left = _
          rw [Function.update_of_ne hji]
          exact hstream
    · exact .broken q part rest' rfl hq hrest hpart hstream

theorem Ordered.close {s : Sending ι} (h : Ordered s) : Ordered (step s .close) := by
  refine ⟨h.underway, h.returned, ?_⟩
  rcases h.standing with ⟨hstream, hnone⟩ | ⟨i, inBody, rest, p, hcall, hstream, hothers⟩ |
    ⟨p, part, rest, -, hp, hrest, hpart, hstream⟩
  · exact .between hstream hnone
  · exact .within i inBody rest p hcall hstream hothers
  · exact .broken p part rest rfl hp hrest hpart hstream

theorem Ordered.step (s : Sending ι) (op : Op ι) (h : Ordered s) (hturn : InTurn s op) :
    Ordered (step s op) := by
  cases op with
  | sendFramed i payload => exact h.sendFramed i hturn
  | send i sent => exact h.send i sent hturn
  | failed i => exact h.failed i
  | close => exact h.close

omit [DecidableEq ι] in
theorem ordered_start : Ordered ({} : Sending ι) :=
  ⟨fun _ _ _ _ hc => (nomatch hc), fun _ hp => absurd hp List.not_mem_nil,
    .between rfl fun _ hb => hb⟩

/-! ### Whole frames -/

/-- **The stream is whole frames** in every state of a run in which no thread puts bytes into the
middle of another thread's frame. -/
theorem always_wholeFrames (ops : List (Op ι)) (hturn : Lib.AllSteps step InTurn {} ops) :
    Lib.Always step WholeFrames {} ops :=
  Lib.always_of_allSteps (fun _ h => h.wholeFrames) (fun s o h hG => h.step s o hG) ops
    ordered_start hturn

/-- Two threads one after the other. -/
theorem always_wholeFrames_two : Lib.Always step WholeFrames ({} : Sending Bool)
    [.sendFramed true [7, 8], .sendFramed false [], .send true 1, .send true 3, .send true 2,
      .send false 4] := by
  refine always_wholeFrames _ ?_
  simp only [Lib.AllSteps, InTurn]
  decide

omit [DecidableEq ι] in
/-- When every call has returned, the peer's listener delivers what was sent, call by call. -/
theorem WholeFrames.peer_delivers {s : Sending ι} (h : WholeFrames s) (hopen : s.bIsConnected = true)
    (hidle : ∀ i, s.calls i = .idle) :
    ∃ order : List (List Byte), order.Perm s.returned ∧
      uint32Frames.frames s.stream = (order, []) := by
  obtain ⟨order, part, hperm, hfits, hstream, hpart⟩ := h
  have hnone : part = [] := by
    by_contra hne
    obtain ⟨p, rest, -, -, -, hcall⟩ := hpart hne
    obtain ⟨i, inBody, left, hcall⟩ := hcall hopen
    rw [hidle i] at hcall
    cases hcall
  refine ⟨order, hperm, ?_⟩
  rw [hstream, hnone, Lib.Codec.frames_flatten order hfits]
  simp only [Lib.Codec.frames, Lib.Codec.framesUpTo, List.length_nil, List.append_nil]

/-- Two threads send a byte each. Both headers go out before both bodies: the peer takes the start
of the second header for the first payload and is out of step from there on. -/
theorem frames_torn : ¬ Lib.Always step WholeFrames ({} : Sending Bool)
    [.sendFramed true [1], .sendFramed false [2], .send true 4, .send false 4, .send true 1,
      .send false 1] := by
  rintro ⟨-, -, -, -, -, -, h⟩
  obtain ⟨order, -, hframes⟩ := WholeFrames.peer_delivers h rfl (by decide)
  have hrest : (uint32Frames.frames _).2 = [] := congrArg Prod.snd hframes
  exact absurd hrest (by decide)

end Sending

/-! ## The listen threads of a process -/

/-- Where a listen thread is: outside of `recv`, in it, or with that many received bytes in the
static buffer that are not in `IncomingBuffer` yet. -/
inductive Phase
  | idle
  | waiting
  | copied (bytesRead : Nat)
  deriving DecidableEq

/-- Bytes are in the static buffer that are not in `IncomingBuffer` yet. -/
def Phase.isCopied : Phase → Bool
  | .copied _ => true
  | _ => false

/-- A client socket with its listen thread, what its present connection has received, and the frames
`OnData` was called with on it. -/
structure Listener where
  bIsConnected : Bool := false
  incomingBuffer : List Byte := []
  phase : Phase := .idle
  received : List Byte := []
  delivered : List (List Byte) := []

/-- The client sockets of a process and the static `IoBuf` of `ReceiveFramed`. -/
structure Listening (ι : Type) where
  ioBuf : List Byte := List.replicate 4096 0
  sockets : ι → Listener := fun _ => {}

namespace Listening

/-- What happens to a socket: it is connected or closed, its listen thread begins `ReceiveFramed`,
`recv` copies bytes into the static buffer or is interrupted, the thread appends what was copied. -/
inductive Op (ι : Type)
  | connect (i : ι)
  | close (i : ι)
  | receiveFramed (i : ι)
  | recv (i : ι) (data : List Byte)
  | interrupted (i : ι)
  | append (i : ι)

/-- `TryPopBufferedFrame` in `ReceiveFramed`, and `OnData` when it has a frame. -/
def Listener.deliver (x : Listener) : Option Listener :=
  (tryPopBufferedFrame x.incomingBuffer).map fun (frame, rest) =>
    { x with incomingBuffer := rest, delivered := x.delivered ++ [frame] }

def set (s : Listening ι) (i : ι) (x : Listener) : Listening ι :=
  { s with sockets := Function.update s.sockets i x }

def step (s : Listening ι) : Op ι → Listening ι
  | .connect i =>
    let x := s.sockets i
    if x.bIsConnected then s
    else set s i { x with bIsConnected := true, received := [], delivered := [] }
  | .close i =>
    let x := s.sockets i
    -- a `recv` that is on returns; what is already copied is still appended
    set s i
      { x with bIsConnected := false, phase := if x.phase = .waiting then .idle else x.phase }
  | .receiveFramed i =>
    let x := s.sockets i
    if x.phase = .idle ∧ x.bIsConnected then
      set s i ((Listener.deliver x).getD { x with phase := .waiting })
    else s
  | .recv i data =>
    let x := s.sockets i
    if x.phase = .waiting ∧ data ≠ [] ∧ data.length ≤ 4096 then
      { ioBuf := data ++ s.ioBuf.drop data.length
        sockets := Function.update s.sockets i
          { x with phase := .copied data.length, received := x.received ++ data } }
    else s
  | .interrupted i =>
    let x := s.sockets i
    if x.phase = .waiting then set s i { x with phase := .idle } else s
  | .append i =>
    let x := s.sockets i
    match x.phase with
    | .copied bytesRead =>
      let x := { x with
        incomingBuffer := x.incomingBuffer ++ s.ioBuf.take bytesRead, phase := .idle }
      set s i ((Listener.deliver x).getD x)
    | _ => s

/-- The frames a fresh object delivers for the bytes: `TryPopBufferedFrame` until it has none. -/
def freshFrames (received : List Byte) : List (List Byte) := (uint32Frames.frames received).1

/-- Every connection delivers the frames of the bytes it has received: all of them when its thread
waits for more, and none out of order before that. -/
def OwnFrames (s : Listening ι) : Prop :=
  ∀ i, (s.sockets i).delivered <+: freshFrames (s.sockets i).received ∧
    ((s.sockets i).phase = .waiting → (s.sockets i).delivered = freshFrames (s.sockets i).received)

/-- `Connect` finds nothing of an earlier connection, and `recv` no bytes of another socket in the
static buffer that are still to be appended. -/
def Apart (s : Listening ι) : Op ι → Prop
  | .connect i => (s.sockets i).bIsConnected = true ∨
      (s.sockets i).incomingBuffer = [] ∧ (s.sockets i).phase.isCopied = false
  | .recv i _ => ∀ j, j ≠ i → (s.sockets j).phase.isCopied = false
  | _ => True

/-- Received bytes that are still in the static buffer. -/
def inFlight (ioBuf : List Byte) : Phase → List Byte
  | .copied bytesRead => ioBuf.take bytesRead
  | _ => []

@[simp] theorem inFlight_idle (io : List Byte) : inFlight io .idle = [] := rfl

@[simp] theorem inFlight_waiting (io : List Byte) : inFlight io .waiting = [] := rfl

@[simp] theorem inFlight_copied (io : List Byte) (n : Nat) : inFlight io (.copied n) = io.take n := rfl

theorem inFlight_eq_nil (io : List Byte) {phase : Phase} (h : phase.isCopied = false) :
    inFlight io phase = [] := by
  cases phase with
  | idle => rfl
  | waiting => rfl
  | copied n => cases h

/-- What is delivered, and what is held and in flight, are the connection's bytes; a thread in
`recv` has delivered what it could. -/
structure Held (ioBuf : List Byte) (x : Listener) : Prop where
  own : uint32Frames.frames x.received =
    (x.delivered ++ (uint32Frames.frames (x.incomingBuffer ++ inFlight ioBuf x.phase)).1,
      (uint32Frames.frames (x.incomingBuffer ++ inFlight ioBuf x.phase)).2)
  waiting : x.phase = .waiting → uint32Frames.pop x.incomingBuffer = none

theorem Held.ownFrames {ioBuf : List Byte} {x : Listener} (h : Held ioBuf x) :
    x.delivered <+: freshFrames x.received ∧
      (x.phase = .waiting → x.delivered = freshFrames x.received) := by
  rw [freshFrames, h.own]
  refine ⟨List.prefix_append _ _, fun hwait => ?_⟩
  rw [hwait, inFlight_waiting, List.append_nil, Lib.Codec.frames_of_none (h.waiting hwait)]
  exact (List.append_nil _).symm

/-- Nothing held, nothing in flight: a new connection begins as a fresh object does. -/
theorem held_fresh (ioBuf : List Byte) {x : Listener} (hreceived : x.received = [])
    (hdelivered : x.delivered = []) (hbuffer : x.incomingBuffer = [])
    (hphase : x.phase.isCopied = false) : Held ioBuf x := by
  refine ⟨?_, fun _ => ?_⟩
  · rw [hreceived, hdelivered, hbuffer, inFlight_eq_nil _ hphase]
    rfl
  · rw [hbuffer]
    rfl

/-- A thread that neither copies nor appends holds what it held. -/
theorem Held.of_idle {ioBuf : List Byte} {x : Listener} (h : Held ioBuf x)
    (hphase : x.phase.isCopied = false) (b : Bool) :
    Held ioBuf { x with bIsConnected := b, phase := .idle } := by
  refine ⟨?_, fun hwait => nomatch hwait⟩
  have hown := h.own
  rw [inFlight_eq_nil _ hphase] at hown
  exact hown

/-- `TryPopBufferedFrame` delivers the next frame of the connection. -/
theorem Held.deliver {ioBuf : List Byte} {x y : Listener} (h : Held ioBuf x) (hphase : x.phase = .idle)
    (hpop : Listener.deliver x = some y) : Held ioBuf y := by
  simp only [Listener.deliver, tryPop_eq, Option.map_eq_some_iff] at hpop
  obtain ⟨⟨frame, rest⟩, hpop, rfl⟩ := hpop
  refine ⟨?_, fun hwait => ?_⟩
  · have hown := h.own
    rw [hphase] at hown
    simp only [inFlight_idle, List.append_nil] at hown
    simp only [hphase, inFlight_idle, List.append_nil, List.append_assoc, hown,
      Lib.Codec.frames_of_some hpop, List.singleton_append]
  · rw [hphase] at hwait
    cases hwait

theorem deliver_eq_none {x : Listener} (h : Listener.deliver x = none) :
    uint32Frames.pop x.incomingBuffer = none := by
  simpa only [Listener.deliver, tryPop_eq, Option.map_eq_none_iff] using h

/-- What every socket holds. -/
def AllHeld (s : Listening ι) : Prop := ∀ i, Held s.ioBuf (s.sockets i)

theorem AllHeld.set {s : Listening ι} (h : AllHeld s) (i : ι) {x : Listener}
    (hx : Held s.ioBuf x) : AllHeld (set s i x) := by
  intro j
  change Held s.ioBuf (Function.update s.sockets i x j)
  by_cases hji : j = i
  · subst hji
    rw [Function.update_self]
    exact hx
  · rw [Function.update_of_ne hji]
    exact h j

theorem AllHeld.connect {s : Listening ι} (h : AllHeld s) (i : ι) (hapart : Apart s (.connect i)) :
    AllHeld (step s (.connect i)) := by
  simp only [step]
  split
  · exact h
  · rename_i hclosed
    obtain ⟨hbuffer, hphase⟩ := hapart.resolve_left hclosed
    exact h.set i (held_fresh _ rfl rfl hbuffer hphase)

theorem AllHeld.close {s : Listening ι} (h : AllHeld s) (i : ι) : AllHeld (step s (.close i)) := by
  simp only [step]
  refine h.set i ?_
  split
  · rename_i hwait
    exact (h i).of_idle (by rw [hwait]; rfl) false
  · exact ⟨(h i).own, (h i).waiting⟩

theorem AllHeld.receiveFramed {s : Listening ι} (h : AllHeld s) (i : ι) :
    AllHeld (step s (.receiveFramed i)) := by
  simp only [step]
  split
  · rename_i hguard
    refine h.set i ?_
    cases hpop : Listener.deliver (s.sockets i) with
    | some y => exact (h i).deliver hguard.1 hpop
    | none =>
      have hown := (h i).own
      have hnone := deliver_eq_none hpop
      rw [hguard.1] at hown
      exact ⟨hown, fun _ => hnone⟩
  · exact h

theorem AllHeld.recv {s : Listening ι} (h : AllHeld s) (i : ι) (data : List Byte)
    (hapart : Apart s (.recv i data)) : AllHeld (step s (.recv i data)) := by
  simp only [step]
  split
  · rename_i hguard
    obtain ⟨hwait, -, -⟩ := hguard
    intro j
    change Held _ (Function.update s.sockets i _ j)
    by_cases hji : j = i
    · subst hji
      rw [Function.update_self]
      have hown := (h j).own
      rw [hwait, inFlight_waiting, List.append_nil,
        Lib.Codec.frames_of_none ((h j).waiting hwait), List.append_nil] at hown
      refine ⟨?_, fun hwait => nomatch hwait⟩
      simp only [inFlight_copied, List.take_left]
      rw [Lib.Codec.frames_append, hown]
    · -- another thread has nothing in the static buffer
      rw [Function.update_of_ne hji]
      have hown := (h j).own
      rw [inFlight_eq_nil _ (hapart j hji)] at hown
      refine ⟨?_, (h j).waiting⟩
      rw [inFlight_eq_nil _ (hapart j hji)]
      exact hown
  · exact h

theorem AllHeld.append {s : Listening ι} (h : AllHeld s) (i : ι) : AllHeld (step s (.append i)) := by
  simp only [step]
  cases hphase : (s.sockets i).phase with
  | idle => exact h
  | waiting => exact h
  | copied bytesRead =>
    have hown := (h i).own
    rw [hphase, inFlight_copied] at hown
    have hheld : Held s.ioBuf { s.sockets i with
        incomingBuffer := (s.sockets i).incomingBuffer ++ s.ioBuf.take bytesRead
        phase := .idle } := by
      refine ⟨?_, fun hwait => nomatch hwait⟩
      rw [inFlight_idle, List.append_nil]
      exact hown
    refine h.set i ?_
    cases hpop : Listener.deliver { s.sockets i with
        incomingBuffer := (s.sockets i).incomingBuffer ++ s.ioBuf.take bytesRead
        phase := .idle } with
    | some y => exact hheld.deliver rfl hpop
    | none => exact hheld

theorem AllHeld.step (s : Listening ι) (op : Op ι) (h : AllHeld s) (hapart : Apart s op) :
    AllHeld (step s op) := by
  cases op with
  | connect i => exact h.connect i hapart
  | close i => exact h.close i
  | receiveFramed i => exact h.receiveFramed i
  | recv i data => exact h.recv i data hapart
  | append i => exact h.append i
  | interrupted i =>
    simp only [Listening.step]
    split
    · rename_i hwait
      exact h.set i ((h i).of_idle (by rw [hwait]; rfl) _)
    · exact h

omit [DecidableEq ι] in
theorem allHeld_start : AllHeld ({} : Listening ι) :=
  fun _ => held_fresh _ rfl rfl rfl rfl

end Listening

/-! ## The WebSocket client -/

/-- `WWebSocketSource`: `ReceiveBuffer`, and of its present connection what it has received (the
bytes of each callback and whether they end a message) and what it has delivered. -/
structure WebSocketSource where
  bConnected : Bool := false
  receiveBuffer : List Byte := []
  received : List (List Byte × Bool) := []
  delivered : List (List Byte) := []

namespace WebSocketSource

/-- The callbacks of the WebSocket library. -/
inductive Op
  | established
  | closed
  | receive (data : List Byte) (bIsFinalFragment : Bool)

/-- `HandleReceive`. -/
def handleReceive (s : WebSocketSource) (data : List Byte) (bIsFinalFragment : Bool) :
    WebSocketSource :=
  let receiveBuffer := s.receiveBuffer ++ data
  if bIsFinalFragment then
    { s with receiveBuffer := [], delivered := s.delivered ++ [receiveBuffer] }
  else { s with receiveBuffer := receiveBuffer }

def step (s : WebSocketSource) : Op → WebSocketSource
  | .established =>
    if s.bConnected then s else { s with bConnected := true, received := [], delivered := [] }
  | .closed => { s with bConnected := false }
  | .receive data final =>
    if s.bConnected then
      { handleReceive s data final with received := s.received ++ [(data, final)] }
    else s

/-- A fresh object after the same callbacks. -/
def fresh (received : List (List Byte × Bool)) : WebSocketSource :=
  received.foldl (fun s x => handleReceive s x.1 x.2) {}

/-- The connection delivers what a fresh object delivers. -/
def OwnMessages (s : WebSocketSource) : Prop := s.delivered = (fresh s.received).delivered

/-- A connection is established on an empty buffer. -/
def Clean (s : WebSocketSource) : Op → Prop
  | .established => s.bConnected = true ∨ s.receiveBuffer = []
  | _ => True

/-- The object is where a fresh one would be. -/
structure AsFresh (s : WebSocketSource) : Prop where
  delivered : s.delivered = (fresh s.received).delivered
  receiveBuffer : s.receiveBuffer = (fresh s.received).receiveBuffer

theorem AsFresh.step (s : WebSocketSource) (op : Op) (h : AsFresh s) (hclean : Clean s op) :
    AsFresh (step s op) := by
  cases op with
  | established =>
    simp only [WebSocketSource.step]
    split
    · exact h
    · rename_i hclosed
      exact ⟨rfl, hclean.resolve_left hclosed⟩
  | closed => exact ⟨h.delivered, h.receiveBuffer⟩
  | receive data final =>
    simp only [WebSocketSource.step]
    split
    · have hfresh : fresh (s.received ++ [(data, final)]) =
          handleReceive (fresh s.received) data final := List.foldl_concat ..
      cases final with
      | true => exact ⟨by rw [hfresh]; simp [handleReceive, h.delivered, h.receiveBuffer],
          by rw [hfresh]; rfl⟩
      | false => exact ⟨by rw [hfresh]; exact h.delivered,
          by rw [hfresh]; simp [handleReceive, h.receiveBuffer]⟩
    · exact h

end WebSocketSource

/-! ## Own frames -/

namespace Listening

/-- **A connection delivers what a fresh object would**, in every state of a run in which `Connect`
finds no leftover of the connection before it and no two threads use the static buffer at once; and
so does the WebSocket client. -/
theorem always_ownFrames (ops : List (Op ι)) (hapart : Lib.AllSteps step Apart {} ops)
    (calls : List WebSocketSource.Op)
    (hclean : Lib.AllSteps WebSocketSource.step WebSocketSource.Clean {} calls) :
    Lib.Always step OwnFrames {} ops ∧
      Lib.Always WebSocketSource.step WebSocketSource.OwnMessages {} calls :=
  ⟨Lib.always_of_allSteps (fun _ h i => (h i).ownFrames) (fun s o h hG => h.step s o hG) ops
      allHeld_start hapart,
    Lib.always_of_allSteps (fun _ h => h.delivered)
      (fun s o h hG => WebSocketSource.AsFresh.step s o h hG) calls
      (show WebSocketSource.AsFresh {} from ⟨rfl, rfl⟩) hclean⟩

/-- A frame in two parts, while another socket listens, and a reconnect. -/
theorem always_ownFrames_reconnect :
    Lib.Always step OwnFrames ({} : Listening Bool) [.connect true, .connect false,
      .receiveFramed true, .receiveFramed false, .recv true [1, 0, 0], .append true, .recv false [0],
      .append false, .receiveFramed true, .recv true [0, 9], .append true, .close true,
      .connect true] ∧
    Lib.Always WebSocketSource.step WebSocketSource.OwnMessages {} [.established,
      .receive [1] false, .receive [2] true, .closed, .established] := by
  refine always_ownFrames _ ?_ _ ?_
  · simp only [Lib.AllSteps, Apart]
    decide
  · simp only [Lib.AllSteps, WebSocketSource.Clean]
    decide

/-- The connection breaks off in the middle of a frame. `Close` and `Connect` keep the five bytes,
and the first frame of the next connection is cut out of them and of its own first byte. -/
theorem frame_of_two_connections : ¬ Lib.Always step OwnFrames ({} : Listening Unit)
    [.connect (), .receiveFramed (), .recv () [2, 0, 0, 0, 7], .append (), .close (), .connect (),
      .receiveFramed (), .recv () [1, 0, 0, 0, 9], .append ()] := by
  rintro ⟨-, -, -, -, -, -, -, -, -, h⟩
  have hown : [[7, 1]] <+: freshFrames [1, 0, 0, 0, 9] := (h ()).1
  exact absurd hown (by decide)

/-- Two threads read before either appends: the first appends the bytes of the second. -/
example : ((Lib.run step ({} : Listening Bool) [.connect true, .connect false,
    .receiveFramed true, .receiveFramed false, .recv true [1, 0, 0, 0, 5],
    .recv false [1, 0, 0, 0, 6], .append true]).sockets true).delivered = [[6]] := by decide

end Listening

end Waechter
