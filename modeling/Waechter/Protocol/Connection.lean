import Waechter.Protocol.TrafficControl
import Waechter.Protocol.WireFormat
import Waechter.Util.FrameStream

/-!
# A connection

What arrives of the messages that one thread sends on a Unix socket: they are saved, framed and sent
in as many calls of `send` as it takes, and cut into frames and loaded again on the other side
(`Util/Messages.hpp`, `Util/ClientSocket.cpp`, `Util/Socket.hpp`). Either side can break off.

* `received_prefix`: whatever breaks off, the messages received are the first ones of those that
  were sent. None is lost among them, none comes twice, none is torn.
* `refines_connection`: the helper process that loads its messages from the socket has the traffic
  control that the limits of the daemon say.
-/

namespace Waechter

open Lib

/-! ## Sending until it fails -/

namespace Sender

theorem sendLoop_prefix {results : List SendResult} {stream rest : List Byte} {sent : Bool}
    {s : Sender} (h : sendLoop results stream rest = some (sent, s)) :
    ∃ part, part <+: rest ∧ s.stream = stream ++ part := by
  fun_induction sendLoop results stream rest with
  | case1 results stream =>
    cases h
    exact ⟨[], List.nil_prefix, (List.append_nil _).symm⟩
  | case2 => cases h
  | case3 stream rest results _ ih => exact ih h
  | case4 =>
    cases h
    exact ⟨[], List.nil_prefix, (List.append_nil _).symm⟩
  | case5 size results stream rest _ ih =>
    obtain ⟨part, hpart, hstream⟩ := ih h
    refine ⟨rest.take size ++ part, ?_, by rw [hstream, List.append_assoc]⟩
    have hsplit := (List.prefix_append_right_inj (rest.take size)).mpr hpart
    rwa [List.take_append_drop] at hsplit

/-- Once the connection is closed nothing more is sent. -/
theorem sendAll_closed : ∀ (payloads : List (List Byte)) {s s' : Sender},
    s.sendAll payloads = some s' → s.bIsConnected = false → s' = s
  | [], s, s', h, _ => by
    cases h
    rfl
  | payload :: payloads, s, s', h, hclosed => by
    have hframe : s.sendFramed payload = some (false, s) := by
      rw [sendFramed, send, if_pos (.inl hclosed)]
    rw [sendAll, hframe] at h
    exact sendAll_closed payloads h hclosed

/-- A call puts a part of its bytes on the stream. -/
theorem send_prefix {s s' : Sender} {data : List Byte} {sent : Bool}
    (h : s.send data = some (sent, s')) :
    ∃ part, part <+: data ∧ s'.stream = s.stream ++ part := by
  unfold send at h
  split at h
  · cases h
    exact ⟨[], List.nil_prefix, (List.append_nil _).symm⟩
  · exact sendLoop_prefix h

theorem sendFramed_prefix {s s' : Sender} {payload : List Byte} {sent : Bool}
    (h : s.sendFramed payload = some (sent, s')) :
    ∃ part, part <+: uint32Frames.frame payload ∧ s'.stream = s.stream ++ part := by
  unfold sendFramed at h
  split at h
  · rename_i s₁ hheader
    obtain ⟨header, hpart, hstream⟩ := send_prefix hheader
    cases hopen₁ : s₁.bIsConnected with
    | false =>
      -- the header has closed the connection, so the payload is not sent
      rw [send, if_pos (.inl hopen₁)] at h
      cases h
      exact ⟨header, hpart.trans (List.prefix_append _ _), hstream⟩
    | true =>
      obtain ⟨-, hwhole, -⟩ := send_stream hheader hopen₁
      obtain ⟨body, hbody, hstream'⟩ := send_prefix h
      refine ⟨lengthHeader payload.length ++ body, ?_, ?_⟩
      · exact (List.prefix_append_right_inj _).mpr hbody
      · rw [hstream', hwhole, List.append_assoc]
  · obtain ⟨part, hpart, hstream⟩ := send_prefix h
    exact ⟨part, hpart.trans (List.prefix_append _ _), hstream⟩

/-- **What is on the stream**, whatever has come of the calls: a part of the frames. -/
theorem sendAll_prefix : ∀ (payloads : List (List Byte)) {s s' : Sender},
    s.sendAll payloads = some s' → s.bIsConnected = true →
      ∃ part, part <+: (payloads.map uint32Frames.frame).flatten ∧ s'.stream = s.stream ++ part
  | [], s, s', h, _ => by
    cases h
    exact ⟨[], List.nil_prefix, (List.append_nil _).symm⟩
  | payload :: payloads, s, s', h, hopen => by
    rw [List.map_cons, List.flatten_cons]
    rw [sendAll] at h
    split at h
    · rename_i sent s₁ hframe
      cases hopen₁ : s₁.bIsConnected with
      | false =>
        cases sendAll_closed payloads h hopen₁
        obtain ⟨part, hpart, hstream⟩ := sendFramed_prefix hframe
        exact ⟨part, hpart.trans (List.prefix_append _ _), hstream⟩
      | true =>
        obtain ⟨-, hstream⟩ := sendFramed_stream hframe hopen₁
        obtain ⟨part, hpart, hstream'⟩ := sendAll_prefix payloads h hopen₁
        refine ⟨uint32Frames.frame payload ++ part, ?_, ?_⟩
        · exact (List.prefix_append_right_inj _).mpr hpart
        · rw [hstream', hstream, List.append_assoc]
    · cases h

end Sender

/-! ## Receiving what was sent -/

namespace Receiver

section Code

variable {α β : Type} {encode : α → List Byte} {decode : List Byte → Option β}
  {arrives : α → β} {messages : List α} (hdecode : ∀ m ∈ messages, decode (encode m) = some (arrives m))
  (hsize : ∀ m ∈ messages, (encode m).length < 2 ^ 32)

include hdecode in
theorem filterMap_encode : (messages.map encode).filterMap decode = messages.map arrives := by
  rw [List.filterMap_map, ← List.filterMap_eq_map]
  exact List.filterMap_congr hdecode

include hsize in
theorem size_encode : ∀ payload ∈ messages.map encode, payload.length < uint32Frames.bound := by
  intro payload hpayload
  obtain ⟨m, hm, rfl⟩ := List.mem_map.mp hpayload
  exact hsize m hm

include hdecode hsize

/-- What arrives when the calls of `send` and of `recv` have had any results. -/
theorem decoded_prefix {s s' : Sender} (hopen : s.bIsConnected = true) (hfresh : s.stream = [])
    (hsent : s.sendAll (messages.map encode) = some s') {r : Receiver}
    (hlisten : r.bIsConnected = true) (hbuffer : r.incomingBuffer = [])
    (hstream : r.toReceive <+: s'.stream) :
    r.listenThread.filterMap decode <+: messages.map arrives := by
  obtain ⟨part, hpart, hs'⟩ := Sender.sendAll_prefix _ hsent hopen
  rw [hs', hfresh, List.nil_append] at hstream
  have hframes := Codec.frames_prefix (size_encode hsize) (hstream.trans hpart)
  rw [listenThread_eq r hlisten, undelivered, hbuffer, List.nil_append,
    ← filterMap_encode hdecode]
  exact hframes.filterMap decode

/-- What arrives when all calls have got through and all bytes are received. -/
theorem decoded_all {s s' : Sender} (hfresh : s.stream = [])
    (hsent : s.sendAll (messages.map encode) = some s') (hopen : s'.bIsConnected = true)
    {r : Receiver} (hlisten : r.bIsConnected = true) (hbuffer : r.incomingBuffer = [])
    (hstream : r.toReceive = s'.stream) :
    r.listenThread.filterMap decode = messages.map arrives := by
  obtain ⟨-, hs'⟩ := Sender.sendAll_stream _ hsent hopen
  have hall := Codec.frames_flatten _ (size_encode hsize) []
  rw [List.append_nil] at hall
  rw [listenThread_eq r hlisten, undelivered, hbuffer, List.nil_append, hstream, hs', hfresh,
    List.nil_append, hall, ← filterMap_encode hdecode]
  exact congrArg _ (List.append_nil _)

end Code

end Receiver

/-! ## Messages of the daemon and its clients -/

namespace Message

/-- What the other side makes of the frames: a frame that is no message is dropped. -/
def arriving (recvs : List RecvResult) : List Message :=
  (Receiver.listenThread { results := recvs }).filterMap receive

variable {messages : List Message} (hfits : ∀ m ∈ messages, m.Fits)
  (hsize : ∀ m ∈ messages, m.serialize.length < 2 ^ 32)
include hfits hsize

/-- **The messages that arrive are the first ones that were sent**, wherever the two sides have
broken off, and all of them when neither has. -/
theorem arriving_prefix {sends : List SendResult} {s : Sender}
    (hsent : Sender.sendAll { results := sends } (messages.map serialize) = some s)
    {recvs : List RecvResult} (hstream : recvs.flatMap RecvResult.bytes <+: s.stream) :
    arriving recvs <+: messages.map received ∧
      (s.bIsConnected = true → recvs.flatMap RecvResult.bytes = s.stream →
        arriving recvs = messages.map received) := by
  have hreceive : ∀ m ∈ messages, receive m.serialize = some m.received := by
    intro m hm
    have hload := receive_serialize (hfits m hm) []
    rwa [List.append_nil] at hload
  exact ⟨Receiver.decoded_prefix hreceive hsize rfl rfl hsent rfl rfl hstream,
    fun hopen hall => Receiver.decoded_all hreceive hsize rfl hsent hopen rfl rfl hall⟩

end Message

/-- Of two requests the second one is torn. -/
theorem Message.arriving_torn : Message.arriving
    [.received ⟨[1, 0], by decide⟩, .interrupted, .received ⟨[0, 0, 8, 1], by decide⟩] <+:
      [.updateIP2AsnDb, .updateIP2AsnDb] :=
  have hsent : Sender.sendAll { results := [.sent 3, .interrupted, .sent 1, .sent 1, .sent 2, .failed] }
      ([Message.updateIP2AsnDb, .updateIP2AsnDb].map Message.serialize) = some _ := rfl
  have hfits : ∀ m ∈ [Message.updateIP2AsnDb, .updateIP2AsnDb], m.Fits :=
    List.forall_mem_cons.mpr ⟨trivial, List.forall_mem_singleton.mpr trivial⟩
  (Message.arriving_prefix hfits (by decide) hsent ⟨[0], rfl⟩).1

/-! ## Messages to the helper process -/

namespace IPLink

open IPLinkProc

/-- What the helper process makes of the frames: a frame that is no message is dropped. -/
def arriving (recvs : List RecvResult) : List IPLinkMsg :=
  (Receiver.listenThread { results := recvs }).filterMap fun frame =>
    (Wire.ipLinkMsg.load frame).map Prod.fst

/-- What the daemon says in a message about a class: the name of an interface, and a rate that is a
double. -/
def Sayable : IPLinkMsg → Prop
  | .setupHtbClass msg => Plain msg.interfaceName ∧ msg.interfaceName.length < 2 ^ 31 ∧
      Binary64.Fits msg.rateLimit
  | .removeHtbClass msg => Plain msg.interfaceName ∧ msg.interfaceName.length < 2 ^ 31
  | .exit | .lookupEndpoints _ => False

theorem char_lt {c : Char} (h : nameChar c = true) : c.toNat < 256 := by
  simp only [nameChar, Char.isAlphanum, Char.isAlpha, Char.isUpper, Char.isLower, Char.isDigit,
    Bool.or_eq_true, Bool.and_eq_true, decide_eq_true_eq, UInt32.le_iff_toNat_le] at h
  rcases h with (((⟨-, h⟩ | ⟨-, h⟩) | ⟨-, h⟩) | rfl) | rfl
  · exact Nat.lt_of_le_of_lt h (by decide)
  · exact Nat.lt_of_le_of_lt h (by decide)
  · exact Nat.lt_of_le_of_lt h (by decide)
  · decide
  · decide

theorem string_fits {name : String} (hplain : Plain name) (hlength : name.length < 2 ^ 31) :
    Archive.string.Fits name := by
  refine ⟨?_, fun c hc => char_lt (hplain c hc)⟩
  rw [String.length_toList]
  omega

theorem length_setupHtbClass (msg : SetupHtbClassMsg) :
    (Wire.ipLinkMsg.save (.setupHtbClass msg) 0).length = 36 + msg.interfaceName.length := by
  change (Wire.ipLinkFields.save (1, some msg, none, none) 0).length = _
  simp only [Wire.ipLinkFields, Wire.setupHtbClass, Archive.length_prod, Archive.length_uint8,
    Archive.length_pointer, Option.elim_some, Option.elim_none, Archive.length_ofFields,
    Archive.length_uint32, Archive.length_uint16, Archive.length_double, Archive.length_string,
    Archive.length_bool]
  omega

theorem length_removeHtbClass (msg : RemoveHtbClassMsg) :
    (Wire.ipLinkMsg.save (.removeHtbClass msg) 0).length = 28 + msg.interfaceName.length := by
  change (Wire.ipLinkFields.save (2, none, some msg, none) 0).length = _
  simp only [Wire.ipLinkFields, Wire.removeHtbClass, Archive.length_prod, Archive.length_uint8,
    Archive.length_pointer, Option.elim_some, Option.elim_none, Archive.length_ofFields,
    Archive.length_uint32, Archive.length_uint16, Archive.length_string, Archive.length_bool]
  omega

/-- What is said fits, and has a frame. -/
theorem Sayable.fits : ∀ {msg : IPLinkMsg}, Sayable msg →
    Wire.ipLinkMsg.Fits msg ∧ (Wire.ipLinkMsg.save msg 0).length < 2 ^ 32
  | .setupHtbClass msg, ⟨hplain, hlength, hrate⟩ => by
    refine ⟨⟨trivial, ?_, nofun, nofun⟩, ?_⟩
    · rintro _ ⟨⟩
      exact ⟨trivial, trivial, hrate, string_fits hplain hlength, trivial⟩
    · rw [length_setupHtbClass]
      omega
  | .removeHtbClass msg, ⟨hplain, hlength⟩ => by
    refine ⟨⟨trivial, nofun, ?_, nofun⟩, ?_⟩
    · rintro _ ⟨⟩
      exact ⟨trivial, trivial, string_fits hplain hlength, trivial⟩
    · rw [length_removeHtbClass]
      omega

/-- A call says what can be said, when its rate is a double. -/
theorem sayable_step {s : IPLink} {o : Op} (hsaid : ∀ msg ∈ s.sent, Sayable msg)
    (hplain : Plain s.networkInterfaceName) (hlength : s.networkInterfaceName.length < 2 ^ 31)
    (hrate : ∀ rate ∈ o.rate, Binary64.Fits rate) : ∀ msg ∈ (s.step o).sent, Sayable msg := by
  have hname (d : LimitDirection) :
      Plain (s.interfaceName d) ∧ (s.interfaceName d).length < 2 ^ 31 := by
    cases d with
    | upload => exact ⟨hplain, hlength⟩
    | download => exact ⟨plain_ifbDev, show ifbDev.length < 2 ^ 31 by decide⟩
  intro msg hmsg
  cases does_step s o with
  | nothing hs =>
    rw [hs] at hmsg
    exact hsaid msg hmsg
  | update old rate hold hop hactive hsent =>
    rw [hsent, List.mem_append, List.mem_singleton] at hmsg
    rcases hmsg with hmsg | rfl
    · exact hsaid msg hmsg
    · exact ⟨(hname _).1, (hname _).2, hrate rate hop⟩
  | make rate hold hop hactive hsent =>
    rw [hsent, List.mem_append, List.mem_singleton] at hmsg
    rcases hmsg with hmsg | rfl
    · exact hsaid msg hmsg
    · exact ⟨(hname _).1, (hname _).2, hrate rate hop⟩
  | drop old hold hop hactive hsent =>
    rw [hsent, List.mem_append, List.mem_singleton] at hmsg
    rcases hmsg with hmsg | rfl
    · exact hsaid msg hmsg
    · exact hname _

theorem networkInterfaceName_step (s : IPLink) (o : Op) :
    (s.step o).networkInterfaceName = s.networkInterfaceName := by
  cases does_step s o with
  | nothing hs => rw [hs]
  | update _ _ _ _ _ _ hname => exact hname
  | make _ _ _ _ _ hname => exact hname
  | drop _ _ _ _ _ hname => exact hname

theorem sayable_run : ∀ (ops : List Op) {s : IPLink}, (∀ msg ∈ s.sent, Sayable msg) →
    Plain s.networkInterfaceName → s.networkInterfaceName.length < 2 ^ 31 →
    (∀ o ∈ ops, ∀ rate ∈ o.rate, Binary64.Fits rate) →
    ∀ msg ∈ (run step s ops).sent, Sayable msg
  | [], _, hsaid, _, _, _ => hsaid
  | o :: ops, s, hsaid, hplain, hlength, hrates => by
    rw [List.forall_mem_cons] at hrates
    have hstep := sayable_step hsaid hplain hlength hrates.1
    rw [← networkInterfaceName_step s o] at hplain hlength
    exact sayable_run ops hstep hplain hlength hrates.2

/-- **The traffic control behind the socket**: the helper process loads its messages from the stream
that the daemon has sent, and has what the limits say. -/
theorem refines_connection {ingressInterface mainInterface : String}
    (hingress : Plain ingressInterface) (hmain : Plain mainInterface)
    (hifb : mainInterface ≠ ifbDev) (hlength : mainInterface.length < 2 ^ 31) (n : TcState)
    {ops : List Op} (hrates : ∀ o ∈ ops, ∀ rate ∈ o.rate, Binary64.Fits rate)
    (hcount : allocations (start mainInterface) ops < 2 ^ 16) {sends : List SendResult} {s : Sender}
    (hsent : Sender.sendAll { results := sends } ((run step (start mainInterface) ops).sent.map
      fun msg => Wire.ipLinkMsg.save msg 0) = some s)
    (hopen : s.bIsConnected = true) {recvs : List RecvResult}
    (hall : recvs.flatMap RecvResult.bytes = s.stream) :
    Refines (ops.foldl ask fun _ => none) (run step (start mainInterface) ops)
      ((arriving recvs).foldl processMessage
        (init ifbDev ingressInterface mainInterface n).2) := by
  have hsaid := sayable_run ops (s := start mainInterface) (fun _ hmsg => nomatch hmsg) hmain
    hlength hrates
  obtain ⟨messages, hmessages, hrefines⟩ := refines_from ops (refines_start hingress hmain n)
    (.init mainInterface) (by rwa [Nat.zero_add]) hmain hifb
  have harrive : arriving recvs = (run step (start mainInterface) ops).sent.map id := by
    refine Receiver.decoded_all (fun msg hmsg => ?_) (fun msg hmsg => (hsaid msg hmsg).fits.2) rfl
      hsent hopen rfl rfl hall
    have hload := Wire.ipLinkMsg.load_save (hsaid msg hmsg).fits.1 0 []
    rw [List.append_nil] at hload
    rw [hload, Option.map_some, id_eq]
  rw [harrive, List.map_id, hmessages]
  exact hrefines

/-- The frame of a limit of 1000 bytes per second. -/
def limitFrame : List Byte :=
  [40, 0, 0, 0, 1, 1, 0, 0, 0x80, 1, 0, 0, 0, 11, 0, 0, 0, 0, 0, 0, 0x40, 0x8f, 0x40,
    4, 0, 0, 0, 0, 0, 0, 0, 101, 116, 104, 48, 0, 0, 0, 0, 0, 0, 0, 0, 0]

theorem limitFrame_sent : ((run step (start "eth0") [.getUploadLimit 7 1000]).sent.map
    fun msg => Wire.ipLinkMsg.save msg 0) = [limitFrame.drop 4] := by
  decide +kernel

theorem refines_limitFrame :
    Refines ([Op.getUploadLimit 7 1000].foldl ask fun _ => none)
      (run step (start "eth0") [.getUploadLimit 7 1000])
      ((arriving [.received ⟨limitFrame, by decide⟩]).foldl processMessage
        (init ifbDev "eth1" "eth0" fun _ => {}).2) :=
  have hsent : Sender.sendAll { results := [.sent 4, .sent 10, .interrupted, .sent 30] }
      [limitFrame.drop 4] = some _ := rfl
  refines_connection (by decide) (by decide) (by decide) (by decide) (fun _ => {})
    (by decide +kernel) (by decide) (limitFrame_sent ▸ hsent) rfl rfl

end IPLink

end Waechter
