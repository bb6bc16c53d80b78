import Waechter.Daemon.PidFlow

/-!
# Datagrams

The hooks of `EBPF/EBPFUdp.h`, which report the local port of a socket when a datagram is sent or
received. A send is hooked in pieces: a probe on the call notes the socket in `UdpSkByPid`, the
program on the exit of `udp_sendmsg` notes its cookie in `UdpSocketCookieByPid`, and a probe on the
return takes both and emits the event. Both maps have the thread as their key. The exit of
`udpv6_sendmsg` is not hooked, so that a cookie is only there for the datagrams that go out as IPv4.

The threads run in any order; what a thread calls is a list of `Call`s, each with the hooks the
kernel runs for it, the exit program before the probe on the return. A new key does not get into a
map that is full.

* `run_events`: what a thread reports depends on its own calls only.
* `reported_of_inserted`: with room in the maps, every datagram on a bound socket is reported once,
  but for those sent as IPv6, which are never reported.
* `ownCookies_iff`: the exact condition for every event to carry the cookie of its own socket. The
  return of `udp_sendmsg` leaves the cookie where it was when the socket is missing.
-/

namespace Waechter

open Lib

/-- A kernel socket with what `bpf_get_socket_cookie` gives for it. -/
structure Sk where
  address : UInt64
  cookie : SocketCookie
  deriving DecidableEq

namespace UdpHooks

open PidFlow (InetAddr tgid)

/-- What `EmitIfBound` reads of the socket when it runs; there is no address for other families. -/
structure Bound where
  inetSport : UInt16
  addr : Option InetAddr
  /-- The ring buffer has room for the event. -/
  reserved : Bool

structure State where
  udpSkByPid : UMap UInt64 Sk := ∅
  udpSocketCookieByPid : UMap UInt64 SocketCookie := ∅
  portToPid : PortToPid := ∅
  /-- The events, with the thread and the socket they are about. -/
  events : List (UInt64 × Sk × SocketEvent) := []

/-- `bpf_map_update_elem` with `BPF_ANY`; `room` says that the map is not full. -/
def update {V : Type} (m : UMap UInt64 V) (thread : UInt64) (v : V) (room : Bool) : UMap UInt64 V :=
  if (m.lookup thread).isSome ∨ room then m.insert thread v else m

/-- The event of `EmitIfBound`. -/
def bindEvent (thread : UInt64) (sk : Sk) (cookie : SocketCookie) (b : Bound) :
    List (Sk × SocketEvent) :=
  if b.inetSport = 0 then []
  else
    match b.addr with
    | none => []
    | some addr =>
      if b.reserved ∧ cookie ≠ 0 then
        [(sk, { cookie := cookie, pid := tgid thread, data := addr.bindEvent b.inetSport true })]
      else []

/-- `EmitIfBound`. -/
def emitIfBound (thread : UInt64) (sk : Sk) (cookie : SocketCookie) (b : Bound) (s : State) :
    State :=
  { s with
    portToPid := s.portToPid.emitIfBound (thread >>> 32).toUInt32 b.inetSport
    events := s.events ++ (bindEvent thread sk cookie b).map fun e => (thread, e) }

/-- `fexit_udp_sendmsg`. -/
def fexitUdpSendmsg (thread : UInt64) (sk : Sk) (room : Bool) (s : State) : State :=
  { s with udpSocketCookieByPid := update s.udpSocketCookieByPid thread sk.cookie room }

/-- `enter_udp4_sendmsg`. -/
def enterUdp4Sendmsg (thread : UInt64) (sk : Sk) (room : Bool) (s : State) : State :=
  { s with udpSkByPid := update s.udpSkByPid thread sk room }

/-- `enter_udp6_sendmsg`. -/
def enterUdp6Sendmsg (thread : UInt64) (sk : Sk) (room : Bool) (s : State) : State :=
  { s with udpSkByPid := update s.udpSkByPid thread sk room }

/-- `Cleanup`. -/
def cleanup (thread : UInt64) (s : State) : State :=
  { s with
    udpSkByPid := s.udpSkByPid.erase thread
    udpSocketCookieByPid := s.udpSocketCookieByPid.erase thread }

/-- `ret_udp4_sendmsg`, which returns at once when there is no socket. -/
def retUdp4Sendmsg (thread : UInt64) (b : Bound) (s : State) : State :=
  match s.udpSkByPid.lookup thread with
  | none => s
  | some sk =>
    match s.udpSocketCookieByPid.lookup thread with
    | none => cleanup thread s
    | some cookie =>
      cleanup thread (emitIfBound thread sk cookie b
        { s with udpSkByPid := s.udpSkByPid.erase thread })

/-- `ret_udp6_sendmsg`. -/
def retUdp6Sendmsg (thread : UInt64) (b : Bound) (s : State) : State :=
  match s.udpSkByPid.lookup thread with
  | none => cleanup thread s
  | some sk =>
    match s.udpSocketCookieByPid.lookup thread with
    | none => cleanup thread s
    | some cookie =>
      cleanup thread (emitIfBound thread sk cookie b
        { s with udpSkByPid := s.udpSkByPid.erase thread })

/-- `fexit_udp_recvmsg`. -/
def fexitUdpRecvmsg (thread : UInt64) (sk : Sk) (room : Bool) (b : Bound) (s : State) : State :=
  let s := emitIfBound thread sk sk.cookie b
    { s with udpSocketCookieByPid := update s.udpSocketCookieByPid thread sk.cookie room }
  { s with udpSocketCookieByPid := s.udpSocketCookieByPid.erase thread }

/-- `fexit_udp6_recvmsg`. -/
def fexitUdp6Recvmsg (thread : UInt64) (sk : Sk) (room : Bool) (b : Bound) (s : State) : State :=
  let s := emitIfBound thread sk sk.cookie b
    { s with udpSocketCookieByPid := update s.udpSocketCookieByPid thread sk.cookie room }
  { s with udpSocketCookieByPid := s.udpSocketCookieByPid.erase thread }

inductive Hook where
  | fexitUdpSendmsg (sk : Sk) (room : Bool)
  | enterUdp4Sendmsg (sk : Sk) (room : Bool)
  | enterUdp6Sendmsg (sk : Sk) (room : Bool)
  | retUdp4Sendmsg (b : Bound)
  | retUdp6Sendmsg (b : Bound)
  | fexitUdpRecvmsg (sk : Sk) (room : Bool) (b : Bound)
  | fexitUdp6Recvmsg (sk : Sk) (room : Bool) (b : Bound)

/-- A hook runs in a thread. -/
def step (s : State) : UInt64 × Hook → State
  | (thread, .fexitUdpSendmsg sk room) => fexitUdpSendmsg thread sk room s
  | (thread, .enterUdp4Sendmsg sk room) => enterUdp4Sendmsg thread sk room s
  | (thread, .enterUdp6Sendmsg sk room) => enterUdp6Sendmsg thread sk room s
  | (thread, .retUdp4Sendmsg b) => retUdp4Sendmsg thread b s
  | (thread, .retUdp6Sendmsg b) => retUdp6Sendmsg thread b s
  | (thread, .fexitUdpRecvmsg sk room b) => fexitUdpRecvmsg thread sk room b s
  | (thread, .fexitUdp6Recvmsg sk room b) => fexitUdp6Recvmsg thread sk room b s

/-! ## One thread -/

/-- What the maps hold for a thread, and what it reported. -/
structure View where
  sk : Option Sk := none
  cookie : Option SocketCookie := none
  events : List (Sk × SocketEvent) := []

/-- The part of the state that is about a thread. -/
def view (thread : UInt64) (s : State) : View where
  sk := s.udpSkByPid.lookup thread
  cookie := s.udpSocketCookieByPid.lookup thread
  events := s.events.filterMap fun e => if e.1 = thread then some e.2 else none

/-- An update, as far as the entry of the thread is concerned. -/
def View.update {V : Type} (old : Option V) (v : V) (room : Bool) : Option V :=
  if old.isSome ∨ room then some v else old

/-- A probe on a return, with whether it cleans up when there is no socket. -/
def View.ret (thread : UInt64) (always : Bool) (b : Bound) (v : View) : View :=
  match v.sk with
  | none => if always then { v with cookie := none } else v
  | some sk =>
    match v.cookie with
    | none => { v with sk := none }
    | some cookie =>
      { sk := none, cookie := none, events := v.events ++ bindEvent thread sk cookie b }

section

variable {thread : UInt64} {always : Bool} {b : Bound} {v : View} {sk : Sk} {cookie : SocketCookie}

theorem View.ret_none (hsk : v.sk = none) :
    v.ret thread always b = if always then { v with sk := none, cookie := none } else v := by
  obtain ⟨sk, cookie, events⟩ := v
  subst hsk
  rfl

theorem View.ret_bare (hsk : v.sk = some sk) (hcookie : v.cookie = none) :
    v.ret thread always b = { v with sk := none, cookie := none } := by
  obtain ⟨sk, cookie, events⟩ := v
  subst hsk hcookie
  rfl

theorem View.ret_some (hsk : v.sk = some sk) (hcookie : v.cookie = some cookie) :
    v.ret thread always b =
      { sk := none, cookie := none, events := v.events ++ bindEvent thread sk cookie b } := by
  obtain ⟨sk, cookie, events⟩ := v
  subst hsk hcookie
  rfl

end

/-- A hook that runs in the thread. -/
def View.step (thread : UInt64) (v : View) : Hook → View
  | .fexitUdpSendmsg sk room => { v with cookie := update v.cookie sk.cookie room }
  | .enterUdp4Sendmsg sk room => { v with sk := update v.sk sk room }
  | .enterUdp6Sendmsg sk room => { v with sk := update v.sk sk room }
  | .retUdp4Sendmsg b => v.ret thread false b
  | .retUdp6Sendmsg b => v.ret thread true b
  | .fexitUdpRecvmsg sk _ b =>
    { v with cookie := none, events := v.events ++ bindEvent thread sk sk.cookie b }
  | .fexitUdp6Recvmsg sk _ b =>
    { v with cookie := none, events := v.events ++ bindEvent thread sk sk.cookie b }

/-- The hooks that run in the thread. -/
def hooksOf (thread : UInt64) : List (UInt64 × Hook) → List Hook :=
  List.filterMap fun o => if o.1 = thread then some o.2 else none

theorem lookup_update {V : Type} (m : UMap UInt64 V) (thread other : UInt64) (v : V) (room : Bool) :
    (update m other v room).lookup thread =
      if other = thread then View.update (m.lookup thread) v room else m.lookup thread := by
  unfold update View.update
  by_cases h : other = thread
  · rw [if_pos h, h]
    split
    · exact AList.lookup_insert m
    · rfl
  · rw [if_neg h]
    split
    · exact AList.lookup_insert_ne (Ne.symm h)
    · rfl

theorem lookup_erase {V : Type} (m : UMap UInt64 V) (thread other : UInt64) :
    (m.erase other).lookup thread = if other = thread then none else m.lookup thread := by
  rw [UMap.lookup_erase_ite]
  simp only [eq_comm]

theorem events_emit (thread other : UInt64) (events : List (UInt64 × Sk × SocketEvent))
    (new : List (Sk × SocketEvent)) :
    (events ++ new.map fun e => (other, e)).filterMap
        (fun e => if e.1 = thread then some e.2 else none) =
      events.filterMap (fun e => if e.1 = thread then some e.2 else none) ++
        if other = thread then new else [] := by
  rw [List.filterMap_append, List.filterMap_map]
  congr 1
  by_cases h : other = thread
  · simp [h]
  · simp [h]

/-- The view of a thread, from its parts. -/
theorem view_eq {thread : UInt64} {s : State} {v : View} (hsk : s.udpSkByPid.lookup thread = v.sk)
    (hcookie : s.udpSocketCookieByPid.lookup thread = v.cookie)
    (hevents : (s.events.filterMap fun e => if e.1 = thread then some e.2 else none) = v.events) :
    view thread s = v := by
  unfold view
  rw [hsk, hcookie, hevents]

theorem view_cleanup (thread other : UInt64) (s : State) :
    view thread (cleanup other s) =
      if other = thread then { view thread s with sk := none, cookie := none }
      else view thread s := by
  refine view_eq ((lookup_erase _ _ _).trans ?_) ((lookup_erase _ _ _).trans ?_) ?_
  · split <;> rfl
  · split <;> rfl
  · split <;> rfl

theorem view_emitIfBound (thread other : UInt64) (sk : Sk) (cookie : SocketCookie) (b : Bound)
    (s : State) : view thread (emitIfBound other sk cookie b s) =
      { view thread s with
        events := (view thread s).events ++
          if other = thread then bindEvent other sk cookie b else [] } :=
  view_eq rfl rfl (events_emit thread other s.events _)

/-- The probe on a return that found socket and cookie. -/
theorem view_report (thread other : UInt64) (sk : Sk) (cookie : SocketCookie) (b : Bound)
    (s : State) : view thread (cleanup other (emitIfBound other sk cookie b
        { s with udpSkByPid := s.udpSkByPid.erase other })) =
      if other = thread then
        { sk := none
          cookie := none
          events := (view thread s).events ++ bindEvent other sk cookie b }
      else view thread s := by
  rw [view_cleanup, view_emitIfBound]
  by_cases h : other = thread
  · rw [if_pos h, if_pos h, if_pos h]
    rfl
  · rw [if_neg h, if_neg h, if_neg h, List.append_nil]
    exact view_eq ((lookup_erase _ _ _).trans (if_neg h)) rfl rfl

/-- A hook on the exit of a receive. -/
theorem view_recv (thread other : UInt64) (sk : Sk) (room : Bool) (b : Bound) (s : State) :
    view thread (fexitUdpRecvmsg other sk room b s) =
      if other = thread then
        { view thread s with
          cookie := none
          events := (view thread s).events ++ bindEvent other sk sk.cookie b }
      else view thread s := by
  have hcookie : ((update s.udpSocketCookieByPid other sk.cookie room).erase other).lookup thread =
      if other = thread then none else s.udpSocketCookieByPid.lookup thread := by
    rw [lookup_erase, lookup_update]
    split <;> rfl
  refine view_eq ?_ (hcookie.trans ?_) ((events_emit thread other s.events _).trans ?_)
  · split <;> rfl
  · split <;> rfl
  · split
    · rfl
    · exact List.append_nil _

/-- A hook that runs in the thread. -/
theorem view_step_own (other : UInt64) (s : State) (hook : Hook) :
    view other (step s (other, hook)) = (view other s).step other hook := by
  have hupdate {V : Type} (m : UMap UInt64 V) (v : V) (room : Bool) :
      (update m other v room).lookup other = View.update (m.lookup other) v room :=
    (lookup_update m other other v room).trans (if_pos rfl)
  have hclean := view_cleanup other other s
  rw [if_pos rfl] at hclean
  cases hook with
  | fexitUdpSendmsg sk room =>
    exact view_eq rfl (hupdate s.udpSocketCookieByPid sk.cookie room) rfl
  | enterUdp4Sendmsg sk room => exact view_eq (hupdate s.udpSkByPid sk room) rfl rfl
  | enterUdp6Sendmsg sk room => exact view_eq (hupdate s.udpSkByPid sk room) rfl rfl
  | fexitUdpRecvmsg sk room b => exact (view_recv other other sk room b s).trans (if_pos rfl)
  | fexitUdp6Recvmsg sk room b => exact (view_recv other other sk room b s).trans (if_pos rfl)
  | retUdp4Sendmsg b =>
    change view other (retUdp4Sendmsg other b s) = (view other s).ret other false b
    unfold retUdp4Sendmsg
    cases hsk : s.udpSkByPid.lookup other with
    | none => exact ((View.ret_none (v := view other s) hsk).trans (if_neg Bool.false_ne_true)).symm
    | some sk =>
      cases hcookie : s.udpSocketCookieByPid.lookup other with
      | none => exact hclean.trans (View.ret_bare (v := view other s) hsk hcookie).symm
      | some cookie =>
        exact ((view_report other other sk cookie b s).trans (if_pos rfl)).trans
          (View.ret_some (v := view other s) hsk hcookie).symm
  | retUdp6Sendmsg b =>
    change view other (retUdp6Sendmsg other b s) = (view other s).ret other true b
    unfold retUdp6Sendmsg
    cases hsk : s.udpSkByPid.lookup other with
    | none => exact hclean.trans ((View.ret_none (v := view other s) hsk).trans (if_pos rfl)).symm
    | some sk =>
      cases hcookie : s.udpSocketCookieByPid.lookup other with
      | none => exact hclean.trans (View.ret_bare (v := view other s) hsk hcookie).symm
      | some cookie =>
        exact ((view_report other other sk cookie b s).trans (if_pos rfl)).trans
          (View.ret_some (v := view other s) hsk hcookie).symm

/-- A hook that runs in another thread. -/
theorem view_step_other {thread other : UInt64} (h : other ≠ thread) (s : State) (hook : Hook) :
    view thread (step s (other, hook)) = view thread s := by
  have hupdate {V : Type} (m : UMap UInt64 V) (v : V) (room : Bool) :
      (update m other v room).lookup thread = m.lookup thread :=
    (lookup_update m thread other v room).trans (if_neg h)
  have hclean := view_cleanup thread other s
  rw [if_neg h] at hclean
  have hreport (sk : Sk) (cookie : SocketCookie) (b : Bound) :=
    (view_report thread other sk cookie b s).trans (if_neg h)
  cases hook with
  | fexitUdpSendmsg sk room =>
    exact view_eq rfl (hupdate s.udpSocketCookieByPid sk.cookie room) rfl
  | enterUdp4Sendmsg sk room => exact view_eq (hupdate s.udpSkByPid sk room) rfl rfl
  | enterUdp6Sendmsg sk room => exact view_eq (hupdate s.udpSkByPid sk room) rfl rfl
  | fexitUdpRecvmsg sk room b => exact (view_recv thread other sk room b s).trans (if_neg h)
  | fexitUdp6Recvmsg sk room b => exact (view_recv thread other sk room b s).trans (if_neg h)
  | retUdp4Sendmsg b =>
    change view thread (retUdp4Sendmsg other b s) = _
    unfold retUdp4Sendmsg
    split
    · rfl
    · split
      · exact hclean
      · exact hreport _ _ b
  | retUdp6Sendmsg b =>
    change view thread (retUdp6Sendmsg other b s) = _
    unfold retUdp6Sendmsg
    split
    · exact hclean
    · split
      · exact hclean
      · exact hreport _ _ b

/-- **A hook is about its own thread.** -/
theorem view_step (thread : UInt64) (s : State) (o : UInt64 × Hook) :
    view thread (step s o) = (if o.1 = thread then some o.2 else none).elim (view thread s)
      ((view thread s).step thread) := by
  obtain ⟨other, hook⟩ := o
  by_cases h : other = thread
  · rw [if_pos h]
    subst h
    exact view_step_own other s hook
  · rw [if_neg h]
    exact view_step_other h s hook

/-- **A thread runs on its own.** -/
theorem view_run (thread : UInt64) (trace : List (UInt64 × Hook)) (s : State) :
    view thread (run step s trace) =
      run (View.step thread) (view thread s) (hooksOf thread trace) :=
  run_view (view_step thread) trace s

/-! ## Calls -/

/-- What a thread calls, with whether the maps have room and what `EmitIfBound` reads. -/
inductive Call where
  /-- `udp_sendmsg`. -/
  | sendmsg (sk : Sk) (skRoom cookieRoom : Bool) (b : Bound)
  /-- `udpv6_sendmsg`. -/
  | sendmsg6 (sk : Sk) (skRoom : Bool) (b : Bound)
  /-- `udpv6_sendmsg` to an IPv4-mapped address, which calls `udp_sendmsg`. -/
  | sendmsgMapped (sk : Sk) (outerRoom skRoom cookieRoom : Bool) (b outer : Bound)
  /-- `udp_recvmsg`. -/
  | recvmsg (sk : Sk) (room : Bool) (b : Bound)
  /-- `udpv6_recvmsg`. -/
  | recvmsg6 (sk : Sk) (room : Bool) (b : Bound)

namespace Call

/-- The hooks that run for a call. -/
def hooks : Call → List Hook
  | sendmsg sk skRoom cookieRoom b =>
    [.enterUdp4Sendmsg sk skRoom, .fexitUdpSendmsg sk cookieRoom, .retUdp4Sendmsg b]
  | sendmsg6 sk skRoom b => [.enterUdp6Sendmsg sk skRoom, .retUdp6Sendmsg b]
  | sendmsgMapped sk outerRoom skRoom cookieRoom b outer =>
    [.enterUdp6Sendmsg sk outerRoom, .enterUdp4Sendmsg sk skRoom, .fexitUdpSendmsg sk cookieRoom,
      .retUdp4Sendmsg b, .retUdp6Sendmsg outer]
  | recvmsg sk room b => [.fexitUdpRecvmsg sk room b]
  | recvmsg6 sk room b => [.fexitUdp6Recvmsg sk room b]

/-- What a call reports, when a cookie may be left from the calls before. -/
def reports (thread : UInt64) (left : Option SocketCookie) : Call → List (Sk × SocketEvent)
  | sendmsg sk skRoom cookieRoom b =>
    if skRoom ∧ (left.isSome ∨ cookieRoom) then bindEvent thread sk sk.cookie b else []
  | sendmsg6 sk skRoom b =>
    match left with
    | some cookie => if skRoom then bindEvent thread sk cookie b else []
    | none => []
  | sendmsgMapped sk outerRoom skRoom cookieRoom b _ =>
    if (outerRoom ∨ skRoom) ∧ (left.isSome ∨ cookieRoom) then bindEvent thread sk sk.cookie b
    else []
  | recvmsg sk _ b => bindEvent thread sk sk.cookie b
  | recvmsg6 sk _ b => bindEvent thread sk sk.cookie b

/-- The cookie that a call leaves for the next one: that of an IPv4 socket which did not get into
`UdpSkByPid`. -/
def leaves (left : Option SocketCookie) : Call → Option SocketCookie
  | sendmsg sk false cookieRoom _ => if left.isSome ∨ cookieRoom then some sk.cookie else none
  | _ => none

/-- **A call**, between calls that are complete. -/
theorem run_hooks (thread : UInt64) (call : Call) (left : Option SocketCookie)
    (events : List (Sk × SocketEvent)) :
    run (View.step thread) { sk := none, cookie := left, events := events } call.hooks =
      { sk := none
        cookie := call.leaves left
        events := events ++ call.reports thread left } := by
  cases call with
  | sendmsg sk skRoom cookieRoom b =>
    cases skRoom <;> cases cookieRoom <;> cases left <;>
      simp [hooks, run, View.step, View.update, View.ret, leaves, reports]
  | sendmsg6 sk skRoom b =>
    cases skRoom <;> cases left <;>
      simp [hooks, run, View.step, View.update, View.ret, leaves, reports]
  | sendmsgMapped sk outerRoom skRoom cookieRoom b outer =>
    cases outerRoom <;> cases skRoom <;> cases cookieRoom <;> cases left <;>
      simp [hooks, run, View.step, View.update, View.ret, leaves, reports]
  | recvmsg sk room b => rfl
  | recvmsg6 sk room b => rfl

end Call

/-- What a thread reports. -/
def reported (thread : UInt64) : Option SocketCookie → List Call → List (Sk × SocketEvent)
  | _, [] => []
  | left, call :: calls => call.reports thread left ++ reported thread (call.leaves left) calls

theorem run_calls (thread : UInt64) : ∀ (calls : List Call) (left : Option SocketCookie)
    (events : List (Sk × SocketEvent)),
    (run (View.step thread) { sk := none, cookie := left, events := events }
      (calls.flatMap Call.hooks)).events = events ++ reported thread left calls
  | [], _, events => (List.append_nil events).symm
  | call :: calls, left, events => by
    rw [List.flatMap_cons, run_append, call.run_hooks, run_calls thread calls, reported,
      List.append_assoc]

/-- The threads make these calls, in any order of their hooks. -/
def Interleaves (trace : List (UInt64 × Hook)) (calls : UInt64 → List Call) : Prop :=
  ∀ thread, hooksOf thread trace = (calls thread).flatMap Call.hooks

/-- The events of a thread. -/
def eventsOf (thread : UInt64) (s : State) : List (Sk × SocketEvent) := (view thread s).events

/-- **What a thread reports** depends on its own calls only. -/
theorem run_events {trace : List (UInt64 × Hook)} {calls : UInt64 → List Call}
    (h : Interleaves trace calls) (thread : UInt64) :
    eventsOf thread (run step {} trace) = reported thread none (calls thread) := by
  unfold eventsOf
  rw [view_run, h thread]
  exact run_calls thread (calls thread) none []

/-! ### With room in the maps -/

/-- Every new key got into its map. -/
def Call.Inserted : Call → Prop
  | sendmsg _ skRoom cookieRoom _ => skRoom = true ∧ cookieRoom = true
  | sendmsg6 _ skRoom _ => skRoom = true
  | sendmsgMapped _ outerRoom skRoom cookieRoom _ _ =>
    outerRoom = true ∧ skRoom = true ∧ cookieRoom = true
  | recvmsg _ room _ => room = true
  | recvmsg6 _ room _ => room = true

/-- The event a call has by itself: none for a datagram that is sent as IPv6. -/
def Call.event (thread : UInt64) : Call → List (Sk × SocketEvent)
  | sendmsg sk _ _ b => bindEvent thread sk sk.cookie b
  | sendmsg6 _ _ _ => []
  | sendmsgMapped sk _ _ _ b _ => bindEvent thread sk sk.cookie b
  | recvmsg sk _ b => bindEvent thread sk sk.cookie b
  | recvmsg6 sk _ b => bindEvent thread sk sk.cookie b

theorem Call.Inserted.leaves {call : Call} (h : call.Inserted) (left : Option SocketCookie) :
    call.leaves left = none := by
  cases call with
  | sendmsg sk skRoom cookieRoom b =>
    obtain ⟨rfl, -⟩ := h
    rfl
  | sendmsg6 sk skRoom b => rfl
  | sendmsgMapped sk outerRoom skRoom cookieRoom b outer => rfl
  | recvmsg sk room b => rfl
  | recvmsg6 sk room b => rfl

theorem Call.Inserted.reports {call : Call} (h : call.Inserted) (thread : UInt64) :
    call.reports thread none = call.event thread := by
  cases call with
  | sendmsg sk skRoom cookieRoom b =>
    obtain ⟨rfl, rfl⟩ := h
    rfl
  | sendmsg6 sk skRoom b => rfl
  | sendmsgMapped sk outerRoom skRoom cookieRoom b outer =>
    obtain ⟨rfl, rfl, rfl⟩ := h
    rfl
  | recvmsg sk room b => rfl
  | recvmsg6 sk room b => rfl

/-- **With room in the maps**, in whatever order the threads run, each reports the datagrams it
sends as IPv4 and those it receives, once and in order, and none that it sends as IPv6. -/
theorem reported_of_inserted (trace : List (UInt64 × Hook)) (calls : UInt64 → List Call)
    (h : Interleaves trace calls) (hroom : ∀ thread, ∀ call ∈ calls thread, call.Inserted)
    (thread : UInt64) :
    eventsOf thread (run step {} trace) = (calls thread).flatMap (Call.event thread) := by
  rw [run_events h]
  have hall := hroom thread
  generalize calls thread = cs at hall
  induction cs with
  | nil => rfl
  | cons call cs ih =>
    rw [List.forall_mem_cons] at hall
    rw [reported, hall.1.reports, hall.1.leaves, ih hall.2, List.flatMap_cons]

/-- A socket on port 5353 that can be reported. -/
def mdns : Bound := { inetSport := 5353, addr := some (.inet 0), reserved := true }

/-- The calls of two threads: one sends, the other receives. -/
def twoThreads (thread : UInt64) : List Call :=
  if thread = 1 then [.sendmsg ⟨0xA0, 7⟩ true true mdns]
  else if thread = 2 then [.recvmsg ⟨0xB0, 8⟩ true mdns] else []

/-- The receive returns while the send is under way. -/
def twoThreadsTrace : List (UInt64 × Hook) :=
  [(1, .enterUdp4Sendmsg ⟨0xA0, 7⟩ true), (2, .fexitUdpRecvmsg ⟨0xB0, 8⟩ true mdns),
    (1, .fexitUdpSendmsg ⟨0xA0, 7⟩ true), (1, .retUdp4Sendmsg mdns)]

theorem reported_of_inserted_twoThreads :
    eventsOf 1 (run step {} twoThreadsTrace) = (twoThreads 1).flatMap (Call.event 1) := by
  refine reported_of_inserted twoThreadsTrace twoThreads (fun thread => ?_) (fun thread => ?_) 1
  · by_cases h1 : thread = 1
    · rw [h1]
      rfl
    · by_cases h2 : thread = 2
      · rw [h2]
        rfl
      · simp [hooksOf, twoThreadsTrace, twoThreads, h1, h2, eq_comm]
  · unfold twoThreads
    split
    · exact List.forall_mem_singleton.mpr ⟨rfl, rfl⟩
    split
    · exact List.forall_mem_singleton.mpr rfl
    · exact List.forall_mem_nil _

/-! ### Whose cookie it is -/

/-- `EmitIfBound` emits an event with that cookie. -/
def Bound.Emits (b : Bound) (cookie : SocketCookie) : Prop :=
  b.inetSport ≠ 0 ∧ b.addr.isSome ∧ b.reserved = true ∧ cookie ≠ 0

/-- A call does not report a socket with a cookie that was left for another one. -/
def Call.Clean (left : Option SocketCookie) : Call → Prop
  | sendmsg6 sk skRoom b =>
    skRoom = true → ∀ cookie ∈ left, b.Emits cookie → cookie = sk.cookie
  | _ => True

theorem bindEvent_own_iff (thread : UInt64) (sk : Sk) (cookie : SocketCookie) (b : Bound) :
    (∀ e ∈ bindEvent thread sk cookie b, e.2.cookie = e.1.cookie) ↔
      (b.Emits cookie → cookie = sk.cookie) := by
  obtain ⟨inetSport, addr, reserved⟩ := b
  unfold bindEvent Bound.Emits
  dsimp only
  by_cases hport : inetSport = 0
  · simp [hport]
  · cases addr with
    | none => simp [hport]
    | some addr =>
      by_cases hr : reserved = true ∧ cookie ≠ 0
      · simp [hport, hr]
      · rw [if_neg hport]
        dsimp only
        rw [if_neg hr]
        exact iff_of_true (List.forall_mem_nil _) fun h => absurd h.2.2 hr

theorem own_bindEvent (thread : UInt64) (sk : Sk) (b : Bound) :
    ∀ e ∈ bindEvent thread sk sk.cookie b, e.2.cookie = e.1.cookie :=
  (bindEvent_own_iff thread sk sk.cookie b).mpr fun _ => rfl

theorem own_ite (thread : UInt64) (sk : Sk) (b : Bound) (p : Prop) [Decidable p] :
    ∀ e ∈ if p then bindEvent thread sk sk.cookie b else [], e.2.cookie = e.1.cookie := by
  split
  · exact own_bindEvent thread sk b
  · exact List.forall_mem_nil _

/-- **A call reports its socket with the cookie of the socket** exactly when it is clean. -/
theorem Call.reports_own_iff (thread : UInt64) (call : Call) (left : Option SocketCookie) :
    (∀ e ∈ call.reports thread left, e.2.cookie = e.1.cookie) ↔ call.Clean left := by
  cases call with
  | sendmsg sk skRoom cookieRoom b =>
    exact iff_of_true (own_ite thread sk b _) trivial
  | sendmsg6 sk skRoom b =>
    unfold Call.reports Call.Clean
    cases left with
    | none => exact iff_of_true (List.forall_mem_nil _) fun _ => nofun
    | some cookie =>
      cases skRoom with
      | false => exact iff_of_true (List.forall_mem_nil _) nofun
      | true =>
        have hown := bindEvent_own_iff thread sk cookie b
        simpa using hown
  | sendmsgMapped sk outerRoom skRoom cookieRoom b outer =>
    exact iff_of_true (own_ite thread sk b _) trivial
  | recvmsg sk room b => exact iff_of_true (own_bindEvent thread sk b) trivial
  | recvmsg6 sk room b => exact iff_of_true (own_bindEvent thread sk b) trivial

theorem reported_own_iff (thread : UInt64) : ∀ (calls : List Call) (left : Option SocketCookie),
    (∀ e ∈ reported thread left calls, e.2.cookie = e.1.cookie) ↔
      AllSteps (fun left call => Call.leaves left call) Call.Clean left calls
  | [], _ => iff_of_true (List.forall_mem_nil _) trivial
  | call :: calls, left => by
    rw [reported, List.forall_mem_append, call.reports_own_iff, reported_own_iff thread calls]
    rfl

/-- **Every event carries the cookie of its own socket**, in whatever order the threads run, exactly
when no thread sends an IPv6 datagram right after an IPv4 one whose socket found no room in
`UdpSkByPid` while its cookie did in `UdpSocketCookieByPid`: that cookie is still there. -/
theorem ownCookies_iff (trace : List (UInt64 × Hook)) (calls : UInt64 → List Call)
    (h : Interleaves trace calls) :
    (∀ thread, ∀ e ∈ eventsOf thread (run step {} trace), e.2.cookie = e.1.cookie) ↔
      ∀ thread,
        AllSteps (fun left call => Call.leaves left call) Call.Clean none (calls thread) := by
  refine forall_congr' fun thread => ?_
  rw [run_events h]
  exact reported_own_iff thread (calls thread) none

/-- A thread sends an IPv4 datagram when `UdpSkByPid` is full, and then an IPv6 one. -/
def fullMap (thread : UInt64) : List Call :=
  if thread = 1 then [.sendmsg ⟨0xA0, 7⟩ false true mdns, .sendmsg6 ⟨0xB0, 8⟩ true mdns] else []

theorem ownCookies_iff_fullMap :
    (∀ thread, ∀ e ∈ eventsOf thread
        (run step {} (((fullMap 1).flatMap Call.hooks).map fun hook => (1, hook))),
      e.2.cookie = e.1.cookie) ↔
      ∀ thread,
        AllSteps (fun left call => Call.leaves left call) Call.Clean none (fullMap thread) := by
  refine ownCookies_iff _ fullMap fun thread => ?_
  by_cases h1 : thread = 1
  · rw [h1]
    rfl
  · simp [hooksOf, fullMap, h1, eq_comm]

end UdpHooks

end Waechter
