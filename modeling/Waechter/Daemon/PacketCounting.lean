import Waechter.Daemon.Actions
import Waechter.Daemon.Books
import Waechter.Daemon.KernelSync
import Waechter.EBPF.Traffic
import Waechter.Lib.Fifo

/-!
# From the packets to the totals

The way of a packet to the counter of the system: the traffic program lets it pass and puts an event
into the ring buffer (`EBPF/EBPFTraffic.h`), `TEbpfRingBuffer::Poll` takes each over, and every
turn of `WWaechterEbpf::UpdateData` handles one (`Daemon/EBPF/EbpfRingBuffer.hpp`,
`WaechterEbpf.cpp`). Packets, rule changes, ticks and everything else the daemon does come in any
order.

* `handled_run`: the events are handled in the order in which they were put into the ring buffer,
  each once.
* `counted_run`: the bytes of the system are those of the IP packets that passed while there was
  room in the ring buffer, less those of the events that are still waiting.
-/

namespace Waechter

open Lib

/-! ## The bytes of the system -/

namespace CounterTree

/-- The bytes of the system's counter, the recent ones included. -/
def systemBytes (d : PacketDirection) (t : CounterTree) : WBytes :=
  t.systemCounter.total d + t.systemCounter.recent d

theorem deposited_entry {T : Type} [IsTrafficItem T] (d : PacketDirection) (c : TrafficCounter T)
    (cc : CounterCall) : Account.deposited (c.entry d cc) = cc.bytes d := by
  cases cc <;> simp [TrafficCounter.entry, Account.deposited, CounterCall.bytes]

/-- A call on the counter of the system adds the bytes it pushes, any other call none. -/
theorem systemBytes_applyCall (d : PacketDirection) (who : CounterId) (c : CounterCall)
    (t : CounterTree) : (t.applyCall who c).systemBytes d =
      t.systemBytes d + if who = .system then c.bytes d else 0 := by
  have htotal := t.total_applyCall d who .system c
  have hrecent := t.recent_applyCall d who .system c
  by_cases hwho : who = .system
  · subst hwho
    have hsum := Account.settled_add_pending (t.entry d .system c) (t.recent d .system)
    have hdeposited : Account.deposited (t.entry d .system c) = c.bytes d :=
      deposited_entry d t.systemCounter c
    rw [if_pos rfl] at htotal hrecent
    change (t.applyCall .system c).total d .system + (t.applyCall .system c).recent d .system =
      t.total d .system + t.recent d .system + _
    rw [htotal, hrecent, if_pos rfl, Nat.add_assoc, hsum, hdeposited, Nat.add_assoc]
  · rw [if_neg (Ne.symm hwho)] at htotal hrecent
    change (t.applyCall who c).total d .system + (t.applyCall who c).recent d .system = _
    rw [htotal, hrecent, if_neg hwho]
    rfl

/-- No change of the maps and items touches them. -/
theorem systemBytes_change (d : PacketDirection) (m : Change) (t : CounterTree) :
    (m.apply t).systemBytes d = t.systemBytes d := by
  cases m <;> rfl

end CounterTree

namespace SystemMap

variable {σ : Type} (h : Handler σ)

/-- The bytes of the system are the same. -/
def SameBytes (s s' : SystemMap σ) : Prop := ∀ d, s'.systemBytes d = s.systemBytes d

namespace SameBytes

variable {s s' s'' : SystemMap σ}

theorem refl (s : SystemMap σ) : SameBytes s s := fun _ => rfl

theorem trans (hs : SameBytes s s') (hs' : SameBytes s' s'') : SameBytes s s'' :=
  fun d => (hs' d).trans (hs d)

theorem foldl {α : Type} {f : SystemMap σ → α → SystemMap σ}
    (hf : ∀ s a, SameBytes s (f s a)) : ∀ (l : List α) (s : SystemMap σ), SameBytes s (l.foldl f s)
  | [], s => refl s
  | a :: l, s => (hf s a).trans (foldl hf l (f s a))

/-- A call on another counter, or one without bytes. -/
theorem call (who : CounterId) (c : CounterCall) (hc : who ≠ .system ∨ ∀ d, c.bytes d = 0)
    (s : SystemMap σ) : SameBytes s (call h who c s) := by
  intro d
  refine (CounterTree.systemBytes_applyCall d who c s.toCounterTree).trans ?_
  rcases hc with hwho | hzero
  · rw [if_neg hwho, Nat.add_zero]
  · rw [hzero, ite_self, Nat.add_zero]

theorem change (m : Change) (s : SystemMap σ) : SameBytes s (modify m.apply s) :=
  fun d => CounterTree.systemBytes_change d m s.toCounterTree

theorem edit (r : Ref) (f : SocketItem → SocketItem) (s : SystemMap σ) :
    SameBytes s (modify (·.editSocket r f) s) := change (.editSocket r f) s

variable {h}

/-- A path without bytes for the system. -/
theorem of_does {C : CounterId → CounterCall → Prop} {K : Action → Prop}
    (hs : Does h C K s s')
    (hC : ∀ who c, C who c → who ≠ .system ∨ ∀ d, c.bytes d = 0) : SameBytes s s' :=
  hs.keeps (I := SameBytes s) (fun _ _ hI => hI)
    (fun who c s' hc hI => hI.trans (call h who c (hC who c hc) s'))
    (fun _ _ _ hI => hI) (fun m s' _ _ hI => hI.trans (change m s')) (refl s)

/-- A path without calls. -/
theorem of_silent (hs : Does h (fun _ _ => False) (fun _ => True) s s') : SameBytes s s' :=
  of_does hs fun _ _ => False.elim

variable (h)

theorem pushFilters (d : PacketDirection) (bytes : WBytes) (remote : Endpoint) (s : SystemMap σ) :
    SameBytes s (pushFilters h d bytes remote s) := by
  unfold SystemMap.pushFilters
  refine foldl (fun s i => ?_) _ s
  split
  · exact call h (.filter i) (pushCall d bytes) (.inl nofun) s
  · exact refl s

theorem pushTrafficForSocket (d : PacketDirection) (bytes : WBytes) (r : Ref) (s : SystemMap σ) :
    SameBytes s (pushTrafficForSocket h d bytes r s) := by
  have hparents := ((call h (.socket r) (pushCall d bytes) (.inl nofun) s).trans
    (call h (.process (s.socket r).parentProcess) (pushCall d bytes) (.inl nofun) _)).trans
    (call h (.app (s.process (s.socket r).parentProcess).parentApp) (pushCall d bytes)
      (.inl nofun) _)
  exact (hparents.trans (pushFilters h d bytes _ _)).trans (edit _ _ _)

theorem pushTuple (now : Msec) (d : PacketDirection) (bytes : WBytes) (remote : Endpoint) (r : Ref)
    (s : SystemMap σ) : SameBytes s (pushTuple h now d bytes remote r s) := by
  have hget : SameBytes s (getOrCreateUDPTupleCounter h now r remote s).2 := by
    unfold getOrCreateUDPTupleCounter
    split
    · exact refl s
    · exact change (.addTuple now r remote) s
  unfold SystemMap.pushTuple
  simp only
  have hpushed := (hget.trans (call h (.tuple (getOrCreateUDPTupleCounter h now r remote s).1)
    (pushCall d bytes) (.inl nofun) _)).trans (pushFilters h d bytes remote _)
  split
  · exact hpushed
  · exact hpushed

theorem doPacketParsing (env : TrafficEnv) (d : PacketDirection) (bytes : WBytes)
    (header : Option PacketHeader) (r : Ref) (s : SystemMap σ) :
    SameBytes s (doPacketParsing h env d bytes header r s) := by
  unfold SystemMap.doPacketParsing
  simp only
  split
  · exact refl s
  · split
    · exact refl s
    · rename_i header
      have hedit := edit r (fun _ => (applyPacketHeader env d header (s.socket r).trafficItem).1) s
      have htuple := hedit.trans (pushTuple h env.now d bytes (header.remote d) r _)
      split <;> split
      · exact htuple
      · exact hedit
      · exact htuple
      · exact hedit

/-- The bytes of a closed socket's parents are pushed again without any. -/
theorem closeSocket (now : Msec) (r : Ref) (s : SystemMap σ) :
    SameBytes s (closeSocket h now r s) := by
  have hclosed := (call h (.socket r) (.markForRemoval now) (.inl nofun) s).trans
    (edit r (fun item => { item with connectionState := .closed }) _)
  have hprocess := hclosed.trans (call h (.process (s.socket r).parentProcess)
    (.pushIncomingTraffic 0) (.inl nofun) _)
  refine (hprocess.trans (call h (.app _) (.pushOutgoingTraffic 0) (.inl nofun) _)).trans
    (call h .system (.pushIncomingTraffic 0) (.inr fun d => ?_) _)
  cases d <;> rfl

theorem markSocketForRemoval (o : IterOrder) (now : Msec) (cookie : SocketCookie)
    (localPort : UInt32) (s : SystemMap σ) :
    SameBytes s (markSocketForRemoval h o now cookie localPort s) := by
  unfold SystemMap.markSocketForRemoval
  split
  · exact refl s
  · simp only
    split
    · split
      · exact (closeSocket h now _ s).trans (closeSocket h now _ _)
      · exact closeSocket h now _ s
    · exact closeSocket h now _ s

theorem reparentAcceptedSocket (r : Ref) (s : SystemMap σ) :
    SameBytes s (reparentAcceptedSocket h r s) := by
  unfold SystemMap.reparentAcceptedSocket
  simp only
  split
  · exact refl s
  · exact change (.orphan _ r) s

/-! ### Ticks -/

variable (env : TickEnv)

theorem refreshSocket (s : SystemMap σ) (r : Ref) : SameBytes s (refreshSocket h env s r) := by
  have htuple : ∀ (s : SystemMap σ) (u : Ref), SameBytes s (refreshTuple h env s u) := by
    intro s u
    have hrefreshed := call h (.tuple u) (.refresh (env.refreshTime (.tuple u))) (.inl nofun) s
    unfold refreshTuple
    simp only
    split
    · exact hrefreshed.trans (call h (.tuple u) _ (.inl nofun) _)
    · exact hrefreshed
  exact (call h (.socket r) (.refresh (env.refreshTime (.socket r))) (.inl nofun) _).trans
    (foldl htuple _ _)

/-- A refresh moves the recent bytes to the totals. -/
theorem refreshCounters (s : SystemMap σ) : SameBytes s (refreshCounters h env s) := by
  have hfilter : ∀ (s : SystemMap σ) (i : Nat), SameBytes s (refreshFilter h env s i) := by
    intro s i
    unfold refreshFilter
    split
    · exact refl s
    · exact call h (.filter i) _ (.inl nofun) _
  have happ : ∀ (s : SystemMap σ) (a : Ref),
      SameBytes s (SystemMap.call h (.app a) (.refresh (env.refreshTime (.app a))) s) :=
    fun s a => call h (.app a) _ (.inl nofun) s
  have hprocess : ∀ (s : SystemMap σ) (p : Ref),
      SameBytes s (SystemMap.call h (.process p) (.refresh (env.refreshTime (.process p))) s) :=
    fun s p => call h (.process p) _ (.inl nofun) s
  unfold SystemMap.refreshCounters
  exact ((((call h .system (.refresh _) (.inr fun _ => rfl) s).trans (foldl hfilter _ _)).trans
    (foldl happ _ _)).trans (foldl hprocess _ _)).trans (foldl (refreshSocket h env) _ _)

theorem removeProcess (pid : ProcessId) (p : Ref) (s : SystemMap σ) :
    SameBytes s (removeProcess h env pid p s) := by
  have hzero : ∀ d, (CounterCall.pushIncomingTraffic 0).bytes d = 0 := fun d => by cases d <;> rfl
  have hcalls := (call h .system (.pushIncomingTraffic 0) (.inr hzero) s).trans
    (call h (.app (s.process p).parentApp) (.pushIncomingTraffic 0) (.inl nofun) _)
  have hdropped (l : List (SocketCookie × Ref)) := hcalls.trans (of_silent
    (Does.foldl_snd (c := (([] : List Endpoint), _)) l fun acc e _ =>
      does_dropProcessSocket (h := h) env (fun _ _ => trivial) acc e))
  unfold SystemMap.removeProcess
  exact (((hdropped _).trans (change (.eraseAppProcess _ pid) _)).trans
    (change (.eraseTrafficItem _) _)).trans (change (.eraseProcess pid) _)

theorem cleanup (s : SystemMap σ) : SameBytes s (cleanup h env s) := by
  have hprocess : ∀ (s : SystemMap σ) (e : ProcessId × Ref),
      SameBytes s (cleanupProcess h env s e) := by
    intro s e
    have hmarked := call h (.process e.2) (.markForRemoval (env.cleanupTime (.process e.2)))
      (.inl nofun) s
    unfold cleanupProcess
    simp only
    split <;> split
    · exact hmarked.trans (removeProcess h env e.1 e.2 _)
    · exact hmarked
    · exact removeProcess h env e.1 e.2 s
    · exact refl s
  have hsocket : ∀ (s : SystemMap σ) (e : SocketCookie × Ref),
      SameBytes s (cleanupSocket h env s e) := fun s e =>
    of_does (C := fun who _ => who ≠ .system) (K := fun _ => True)
      (does_cleanupSocket env (fun _ _ => trivial) e s fun _ => nofun) fun _ _ => .inl
  have happ : ∀ (s : SystemMap σ) (e : String × Ref), SameBytes s (cleanupApp s e) := fun s e =>
    of_silent (h := h) (does_cleanupApp (fun _ _ => trivial) e s)
  exact ((foldl hprocess _ s).trans (foldl hsocket _ _)).trans (foldl happ _ _)

/-! ### Events -/

/-- What happens to the socket of traffic, once that is counted for the system. -/
theorem pushSocket (env : TrafficEnv) (d : PacketDirection) (bytes : WBytes)
    (header : Option PacketHeader) (r : Ref) (s : SystemMap σ) :
    SameBytes s (SystemMap.doPacketParsing h env d bytes header r
      (SystemMap.pushTrafficForSocket h d bytes r s)) :=
  (pushTrafficForSocket h d bytes r s).trans (doPacketParsing h env d bytes header r _)

theorem mapSocketFromTrafficEvent (env : TrafficEnv) (cookie : SocketCookie) (d : PacketDirection)
    (header : Option PacketHeader) (s : SystemMap σ) :
    SameBytes s (mapSocketFromTrafficEvent h env cookie d header s).2 :=
  of_silent (does_mapSocketFromTrafficEvent (fun _ _ => trivial) env cookie d header s
    fun _ _ _ => trivial)

theorem mapSocket (env : MapEnv) (cookie : SocketCookie) (established : Bool) (pid : ProcessId)
    (silentFail : Bool) (s : SystemMap σ) :
    SameBytes s (mapSocket h env cookie established pid silentFail s).2 :=
  of_silent (does_mapSocket (fun _ _ => trivial) env cookie established pid silentFail s)

/-- An event that is neither traffic nor the end of a socket, for the socket it is about. -/
theorem processSocketEvent (order : IterOrder) (event : NetEvent) (r : Ref) (s : SystemMap σ) :
    SameBytes s (mergeSyntheticSocket h order r (processSocketEvent h event r s)) :=
  (of_silent (does_processSocketEvent event r (fun _ => trivial) (fun _ => trivial) s)).trans
    (of_silent (does_mergeSyntheticSocket order r (fun _ => trivial) (fun _ _ => trivial)
      (fun _ => trivial) _))

end SameBytes

/-- The bytes an event counts for the system. -/
def eventBytes (d : PacketDirection) : NetEvent → WBytes
  | .traffic direction bytes _ => if direction = d then bytes else 0
  | _ => 0

theorem systemBytes_pushIncomingTraffic (env : TrafficEnv) (cookie : SocketCookie)
    (bytes : WBytes) (header : Option PacketHeader) (s : SystemMap σ) (d : PacketDirection) :
    (pushIncomingTraffic h env cookie bytes header s).systemBytes d =
      s.systemBytes d + eventBytes d (.traffic .incoming bytes header) := by
  have hcall : (call h .system (.pushIncomingTraffic bytes) s).systemBytes d =
      s.systemBytes d + eventBytes d (.traffic .incoming bytes header) := by
    refine (CounterTree.systemBytes_applyCall d .system _ s.toCounterTree).trans ?_
    cases d <;> rfl
  unfold pushIncomingTraffic
  simp only
  split
  · exact hcall
  · exact (SameBytes.pushSocket h env .incoming bytes header _ _ d).trans hcall

theorem systemBytes_pushOutgoingTraffic (env : TrafficEnv) (cookie : SocketCookie)
    (bytes : WBytes) (header : Option PacketHeader) (s : SystemMap σ) (d : PacketDirection) :
    (pushOutgoingTraffic h env cookie bytes header s).systemBytes d =
      s.systemBytes d + eventBytes d (.traffic .outgoing bytes header) := by
  have hcall : (call h .system (.pushOutgoingTraffic bytes) s).systemBytes d =
      s.systemBytes d + eventBytes d (.traffic .outgoing bytes header) := by
    refine (CounterTree.systemBytes_applyCall d .system _ s.toCounterTree).trans ?_
    cases d <;> rfl
  unfold pushOutgoingTraffic
  simp only
  generalize call h .system (.pushOutgoingTraffic bytes) s = s1 at hcall ⊢
  cases s1.sockets.lookup cookie with
  | some r => exact (SameBytes.pushSocket h env .outgoing bytes header r s1 d).trans hcall
  | none =>
    have hmapped :=
      (SameBytes.mapSocketFromTrafficEvent h env cookie .outgoing header s1 d).trans hcall
    simp only
    split
    · exact hmapped
    · exact (SameBytes.pushSocket h env .outgoing bytes header _ _ d).trans hmapped

/-- **An event adds its own bytes** to those of the system, and nothing else. -/
theorem systemBytes_updateData (env : TrafficEnv) (event : SocketEvent) (s : SystemMap σ)
    (d : PacketDirection) : (updateData h env event s).systemBytes d =
      s.systemBytes d + eventBytes d event.data := by
  have hmapped : SameBytes s (mapSocket h env.toMapEnv event.cookie event.data.isEstablished
      event.pid event.data.silentFail s).2 :=
    SameBytes.mapSocket h _ _ _ _ _ s
  unfold updateData
  simp only
  split
  · rename_i bytes header he
    rw [he, systemBytes_pushIncomingTraffic, ← he, hmapped d]
  · rename_i bytes header he
    rw [he, systemBytes_pushOutgoingTraffic, ← he, hmapped d]
  · rename_i localPort he
    rw [he]
    rw [he] at hmapped
    exact (SameBytes.markSocketForRemoval h _ _ _ _ _ d).trans (hmapped d)
  · rename_i hin hout hclosed
    have hnone : eventBytes d event.data = 0 := by
      cases hdata : event.data with
      | traffic direction bytes header =>
        cases direction with
        | incoming => exact absurd hdata (hin bytes header)
        | outgoing => exact absurd hdata (hout bytes header)
      | _ => rfl
    rw [hnone, Nat.add_zero]
    split
    · exact hmapped d
    · rename_i r hr
      have hsocket : SameBytes s (mergeSyntheticSocket h env.order r
          (processSocketEvent h event.data r (mapSocket h env.toMapEnv event.cookie
            event.data.isEstablished event.pid event.data.silentFail s).2)) :=
        hmapped.trans (SameBytes.processSocketEvent h env.order event.data r _)
      split
      · refine (SameBytes.reparentAcceptedSocket h r _ d).trans (hsocket d)
      · exact hsocket d

end SystemMap

/-! ## The way of the events -/

/-- An event of a hook that is no traffic program. -/
abbrev HookEvent :=
  { event : SocketEvent // ∀ d bytes header, event.data ≠ .traffic d bytes header }

/-- What the daemon does besides handling events. -/
abbrev OtherOp := { op : RuleOp // ∀ env tenv event, op ≠ .updateData env tenv event }

/-- `ParsePacket` on the bytes of an event. -/
def parsePacket (rawData : List UInt8) : Option PacketHeader :=
  match (PacketHeader.parsePacketL3 (PACKET_HEADER_SIZE + 1) PACKET_HEADER_SIZE).run rawData with
  | some (some (true, header)) => some header
  | _ => none

/-- The event of a packet as the daemon takes it. -/
def SocketTrafficEvent.received (e : SocketTrafficEvent) : SocketEvent :=
  { cookie := e.cookie, pid := 0, data := .traffic e.direction e.bytes (parsePacket e.rawData) }

/-- `MakeSocketEvent2` reserves a record: not for cookie 0, and not when the ring buffer is full. -/
def makeSocketEvent2 (cookie : SocketCookie) (room : Bool) : Bool := cookie ≠ 0 && room

/-- The daemon, and the events on their way to it. -/
structure PacketFlow where
  map : SystemMap RuleManager
  /-- The ring buffer `socket_event_ring`. -/
  ring : List SocketEvent := []
  /-- `Data` of `TEbpfRingBuffer`. -/
  data : List SocketEvent := []

namespace PacketFlow

/-- What happens, with what is read from outside. -/
inductive Op : Type 1 where
  /-- A packet comes to the traffic program; there is room in the ring buffer or not. -/
  | packet (d : PacketDirection) (timestamp : Nat) (room : Bool) (skb : SkBuff)
  /-- Another hook puts an event into the ring buffer. -/
  | hook (event : HookEvent)
  /-- `RingBufferCallback`, which `Poll` calls for every event in the ring buffer. -/
  | pushData
  /-- One turn of the loop of `WWaechterEbpf::UpdateData`. -/
  | updateData (env : RuleEnv) (tenv : SystemMap.TrafficEnv)
  | other (op : OtherOp)

/-- The verdict on a packet and its event, with the rules the kernel has. -/
def judge (s : PacketFlow) (d : PacketDirection) (timestamp : Nat) (room : Bool) (skb : SkBuff) :
    Verdict × Option SocketTrafficEvent :=
  program d s.map.listeners.kernel timestamp (makeSocketEvent2 skb.cookie room) skb

/-- The events an operation puts into the ring buffer. -/
def emitted (s : PacketFlow) : Op → List SocketEvent
  | .packet d timestamp room skb =>
    ((s.judge d timestamp room skb).2.map SocketTrafficEvent.received).toList
  | .hook event => [event.1]
  | _ => []

/-- The event a turn of `UpdateData` handles. -/
def handled (s : PacketFlow) : Op → List SocketEvent
  | .updateData _ _ => s.data.head?.toList
  | _ => []

def step (s : PacketFlow) (op : Op) : PacketFlow :=
  match op with
  | .packet .. => { s with ring := s.ring ++ s.emitted op }
  | .hook _ => { s with ring := s.ring ++ s.emitted op }
  | .pushData =>
    match s.ring with
    | [] => s
    | event :: ring => { s with ring, data := s.data ++ [event] }
  | .updateData env tenv =>
    match s.data with
    | [] => s
    | event :: data =>
      { s with map := SystemMap.updateData (RuleManager.listener env) tenv event s.map, data }
  | .other op => { s with map := SystemMap.ruleStep s.map op.1 }

/-- The events that wait, in their order. -/
def waiting (s : PacketFlow) : List SocketEvent := s.data ++ s.ring

/-- Each step is one of a queue. -/
theorem waiting_step (s : PacketFlow) (op : Op) :
    s.waiting ++ s.emitted op = s.handled op ++ (step s op).waiting := by
  cases op with
  | updateData env tenv =>
    simp only [waiting, emitted, handled, step, List.append_nil]
    cases hdata : s.data with
    | nil => simp [hdata]
    | cons event data => rfl
  | pushData =>
    simp only [waiting, emitted, handled, step, List.append_nil, List.nil_append]
    cases hring : s.ring with
    | nil => rw [hring, List.append_nil]
    | cons event ring => rw [List.append_assoc, List.singleton_append]
  | _ => simp [waiting, emitted, handled, step]

/-- **The events are handled in order**, each once: those that were handled, with those that wait,
are those that were put into the ring buffer. -/
theorem handled_run (s : PacketFlow) (ops : List Op) :
    s.waiting ++ collect step emitted s ops =
      collect step handled s ops ++ (run step s ops).waiting :=
  collect_fifo (I := fun _ => True) (fun _ _ _ => trivial) (fun s op _ => waiting_step s op) ops
    trivial

/-- The bytes the events in a list count for the system. -/
def listBytes (d : PacketDirection) (events : List SocketEvent) : WBytes :=
  (events.map fun event => SystemMap.eventBytes d event.data).sum

theorem listBytes_append (d : PacketDirection) (events events' : List SocketEvent) :
    listBytes d (events ++ events') = listBytes d events + listBytes d events' := by
  rw [listBytes, List.map_append, List.sum_append]
  rfl

instance (skb : SkBuff) : Decidable skb.isIP := inferInstanceAs (Decidable (_ ∨ _))

/-- The bytes of an IP packet of a socket that passes while there is room in the ring buffer. -/
def passed (d : PacketDirection) (s : PacketFlow) : Op → List WBytes
  | .packet direction timestamp room skb =>
    if direction = d ∧ skb.isIP ∧ skb.cookie ≠ 0 ∧ room = true ∧
        (s.judge direction timestamp room skb).1 = .pass then [skb.len] else []
  | _ => []

/-- A packet that passes is reported when it is one of the internet protocol and a record was
reserved. -/
theorem cgskb_event_of_pass {d : PacketDirection} {m : SocketRulesMap} {now : Nat} {reserved : Bool}
    {skb : SkBuff} (hpass : (cgskb d m now reserved skb).1 = .pass) :
    (cgskb d m now reserved skb).2 =
      if skb.isIP ∧ reserved = true then some (trafficEvent d now skb) else none := by
  unfold cgskb at hpass ⊢
  unfold SkBuff.isIP
  by_cases hproto : skb.protocol ≠ ETH_P_IP ∧ skb.protocol ≠ ETH_P_IPV6
  · rw [if_pos hproto, if_neg fun h => h.1.elim hproto.1 hproto.2]
  · have hip : skb.protocol = ETH_P_IP ∨ skb.protocol = ETH_P_IPV6 := by
      by_contra hnot
      exact hproto (not_or.mp hnot)
    rw [if_neg hproto] at hpass ⊢
    split at hpass
    · cases hpass
    · rename_i hzero
      split at hpass
      · cases hpass
      · rename_i hown
        rw [if_neg hzero, if_neg hown]
        simp only [hip, true_and]

/-- The event of a packet has its bytes, and there is one exactly when the packet counts. -/
theorem listBytes_packet (s : PacketFlow) (d direction : PacketDirection) (timestamp : Nat)
    (room : Bool) (skb : SkBuff) :
    listBytes d (s.emitted (.packet direction timestamp room skb)) =
      (s.passed d (.packet direction timestamp room skb)).sum := by
  have hjudge : s.judge direction timestamp room skb = cgskb direction s.map.listeners.kernel
      timestamp (makeSocketEvent2 skb.cookie room) skb := by
    cases direction <;> rfl
  simp only [emitted, passed]
  cases hverdict : (s.judge direction timestamp room skb).1 with
  | drop =>
    rw [hjudge] at hverdict ⊢
    rw [cgskb_event_of_drop _ _ _ _ _ hverdict]
    simp [listBytes]
  | pass =>
    rw [hjudge] at hverdict ⊢
    rw [cgskb_event_of_pass hverdict]
    have hreserved : skb.isIP ∧ makeSocketEvent2 skb.cookie room = true ↔
        skb.isIP ∧ skb.cookie ≠ 0 ∧ room = true := by
      simp [makeSocketEvent2]
    by_cases hmade : skb.isIP ∧ skb.cookie ≠ 0 ∧ room = true
    · rw [if_pos (hreserved.mpr hmade)]
      simp only [hmade.1, hmade.2.1, hmade.2.2, and_true, ne_eq, not_false_eq_true]
      have hbytes : listBytes d ((some (trafficEvent direction timestamp skb)).map
          SocketTrafficEvent.received).toList = if direction = d then skb.len else 0 := rfl
      rw [hbytes]
      split <;> rfl
    · rw [if_neg fun h => hmade (hreserved.mp h),
        if_neg fun h => hmade ⟨h.2.1, h.2.2.1, h.2.2.2.1⟩]
      rfl

/-- What is no event adds nothing. -/
theorem sameBytes_other (op : OtherOp) (s : SystemMap RuleManager) :
    SystemMap.SameBytes s (SystemMap.ruleStep s op.1) := by
  obtain ⟨op, hop⟩ := op
  cases op with
  | updateData env tenv event => exact absurd rfl (hop env tenv event)
  | loadSystemRule env => exact .refl s
  | handleRuleChange env update => exact .refl s
  | takeItemId => exact .refl s
  | processInitialApps env o =>
    exact .of_silent (SystemMap.does_processInitialApps o s)
  | reparentOrphanedSocket env now endpoint pid =>
    exact .of_silent (SystemMap.does_reparentOrphanedSocket (fun _ _ => trivial) (fun _ => trivial)
      (fun _ _ => trivial) (fun _ _ => trivial) now endpoint pid s)
  | refreshAllTrafficCounters env tick =>
    exact (SystemMap.SameBytes.refreshCounters _ tick s).trans
      (SystemMap.SameBytes.cleanup _ tick _)

/-- The bytes of the system with those of the events that wait. -/
def bytes (d : PacketDirection) (s : PacketFlow) : WBytes :=
  s.map.systemBytes d + listBytes d s.waiting

/-- **One step** adds the bytes of the packet that passes. -/
theorem bytes_step (d : PacketDirection) (s : PacketFlow) (op : Op) :
    (step s op).bytes d = s.bytes d + (s.passed d op).sum := by
  cases op with
  | packet direction timestamp room skb =>
    rw [← listBytes_packet]
    simp only [bytes, waiting, step, listBytes_append, Nat.add_assoc]
  | hook event =>
    have hnone : listBytes d [event.1] = 0 := by
      obtain ⟨event, hevent⟩ := event
      cases hdata : event.data with
      | traffic direction bytes header => exact absurd hdata (hevent direction bytes header)
      | _ => simp [listBytes, hdata, SystemMap.eventBytes]
    simp only [bytes, waiting, step, emitted, passed, listBytes_append, hnone, List.sum_nil,
      Nat.add_zero]
  | pushData =>
    simp only [bytes, waiting, step, passed, List.sum_nil, Nat.add_zero]
    cases hring : s.ring with
    | nil => rw [hring]
    | cons event ring => rw [List.append_assoc, List.singleton_append]
  | updateData env tenv =>
    simp only [bytes, waiting, step, passed, List.sum_nil, Nat.add_zero]
    cases hdata : s.data with
    | nil => rw [hdata]
    | cons event data =>
      simp only
      rw [SystemMap.systemBytes_updateData, Nat.add_assoc]
      rfl
  | other op =>
    simp only [bytes, waiting, step, passed, List.sum_nil, Nat.add_zero]
    rw [sameBytes_other op s.map d]

/-- The daemon once the sockets that exist already are mapped; no event is there yet. -/
def start (now : Msec) (hostName : String) (env : SystemMap.MapEnv)
    (isProcessRunning : ProcessId → Bool) (listeningSockets : List SystemMap.ListenSocketInfo) :
    PacketFlow :=
  { map := SystemMap.started now hostName env isProcessRunning listeningSockets }

theorem bytes_start (d : PacketDirection) (now : Msec) (hostName : String) (env : SystemMap.MapEnv)
    (isProcessRunning : ProcessId → Bool) (listeningSockets : List SystemMap.ListenSocketInfo) :
    (start now hostName env isProcessRunning listeningSockets).bytes d = 0 := by
  have hmapped : SystemMap.SameBytes (SystemMap.init now hostName ({} : RuleManager))
      (SystemMap.started now hostName env isProcessRunning listeningSockets) :=
    .of_silent (SystemMap.does_addExistingSockets (fun _ _ => trivial) env isProcessRunning
      (fun _ _ => trivial) listeningSockets _)
  have hinit : (SystemMap.init now hostName ({} : RuleManager)).systemBytes d = 0 := by
    cases d <;> rfl
  exact (hmapped d).trans hinit

/-- **Every packet that passes counts once**, after every run of the daemon and the traffic
programs: the bytes of the system, with those of the events that are not handled yet, are the bytes
of the IP packets that passed while there was room in the ring buffer. A packet that the rules of
that moment drop counts for nothing. -/
theorem counted_run (d : PacketDirection) (now : Msec) (hostName : String) (env : SystemMap.MapEnv)
    (isProcessRunning : ProcessId → Bool) (listeningSockets : List SystemMap.ListenSocketInfo)
    (ops : List Op) :
    let s₀ := start now hostName env isProcessRunning listeningSockets
    let s := run step s₀ ops
    s.map.systemBytes d + listBytes d s.waiting =
      (collect step (passed d) s₀ ops).sum := by
  intro s₀ s
  have hsum := collect_sum (bytes_step d) ops s₀
  rw [bytes_start, Nat.zero_add] at hsum
  exact hsum

end PacketFlow

end Waechter
