import Mathlib.Tactic.Linarith
import Waechter.Daemon.Actions
import Waechter.Daemon.ByteAccounting

/-!
# Traffic and the filters

The filters of `WSystemMap::RegisterDefaultFilters` (`Daemon/Data/SystemMap.cpp`) get the bytes of
an event in two places: `PushTrafficForSocket` asks them about the remote endpoint of the socket,
and `DoPacketParsing` about the one of a datagram.

* `filterFunctions_disjoint`: no address belongs to two filters.
* `filteredOnce_iff`: of an event the filters get one share at most exactly when it is not asked
  about twice with an answer: a datagram of a UDP socket that is connected.
* `filteredOnce_fails_connected`: a datagram to the address its socket is connected to counts twice.
-/

namespace Waechter

open Lib

/-! ## Address classes -/

namespace IPAddress

/-- What the filters test, in the order of `RegisterDefaultFilters`. -/
def filterFunctions : List (IPAddress → Bool) := [isInternetAddress, isLANAddress, isLocalhost]

theorem isInternetAddress_isLANAddress (a : IPAddress) :
    ¬(a.isInternetAddress = true ∧ a.isLANAddress = true) := by
  unfold isInternetAddress isLANAddress
  cases a.family with
  | unknown => simp
  | ipv4 => grind
  | ipv6 => grind

theorem isInternetAddress_isLocalhost (a : IPAddress) :
    ¬(a.isInternetAddress = true ∧ a.isLocalhost = true) := by
  unfold isInternetAddress isLocalhost
  cases a.family with
  | unknown => simp
  | ipv4 => grind
  | ipv6 => grind

theorem isLANAddress_isLocalhost (a : IPAddress) :
    ¬(a.isLANAddress = true ∧ a.isLocalhost = true) := by
  unfold isLANAddress isLocalhost
  cases a.family with
  | unknown => simp
  | ipv4 => grind
  | ipv6 =>
    rintro ⟨hlan, hlocal⟩
    have hzero : a.bytes[0] = 0 := by
      have hall := List.all_eq_true.mp (Bool.and_eq_true_iff.mp hlocal).1
      refine eq_of_beq (hall a.bytes[0] (List.mem_iff_getElem.mpr ⟨0, by simp, ?_⟩))
      simp
    rw [hzero] at hlan
    exact absurd (show ((0 : UInt8) &&& 0xFE == 0xFC) = true from hlan) (by decide)

/-- **The filters are disjoint.** -/
theorem filterFunctions_disjoint :
    filterFunctions.Pairwise fun f g => ∀ a, ¬(f a = true ∧ g a = true) := by
  simp only [filterFunctions, List.pairwise_cons, List.mem_cons, List.not_mem_nil, or_false,
    forall_eq_or_imp, forall_eq, List.Pairwise.nil, false_imp_iff, implies_true, and_true]
  exact ⟨⟨isInternetAddress_isLANAddress, isInternetAddress_isLocalhost⟩, isLANAddress_isLocalhost⟩

/-- Some filter takes the address. -/
def isFiltered (a : IPAddress) : Bool := filterFunctions.any (· a)

theorem countP_le_one {α : Type} {a : α} : ∀ {l : List (α → Bool)},
    (l.Pairwise fun f g => ∀ a, ¬(f a = true ∧ g a = true)) → l.countP (· a) ≤ 1
  | [], _ => Nat.zero_le 1
  | f :: l, h => by
    rw [List.pairwise_cons] at h
    rw [List.countP_cons]
    split
    · rename_i hf
      have hrest : l.countP (· a) = 0 :=
        List.countP_eq_zero.mpr fun g hg hga => h.1 g hg a ⟨hf, hga⟩
      omega
    · exact countP_le_one h.2

/-- One filter at most takes an address. -/
theorem countP_filterFunctions (a : IPAddress) :
    filterFunctions.countP (· a) = if a.isFiltered then 1 else 0 := by
  have hle := countP_le_one (a := a) filterFunctions_disjoint
  have hpos : 0 < filterFunctions.countP (· a) ↔ a.isFiltered = true := by
    rw [List.countP_pos_iff, isFiltered, List.any_eq_true]
  split
  · rename_i ha
    have := hpos.mpr ha
    omega
  · rename_i ha
    have := mt hpos.mp ha
    omega

end IPAddress

/-! ## The shares of an event -/

/-- The functions of the filters. -/
def CounterTree.filterFunctions (t : CounterTree) : List (IPAddress → Bool) :=
  t.filterCounters.map (·.filterFunction)

/-- The recent bytes of all filters together. -/
def CounterTree.filterBytes (d : PacketDirection) (t : CounterTree) : WBytes :=
  (t.filterCounters.map fun f => f.toTrafficCounter.recent d).sum

namespace SystemMap

variable {σ : Type}

/-- A handler that logs which filter gets traffic. -/
def shareLog : Handler (List Nat) := fun n _ log =>
  match n with
  | .call (.filter i) (.pushIncomingTraffic _) => log ++ [i]
  | .call (.filter i) (.pushOutgoingTraffic _) => log ++ [i]
  | _ => log

/-- `n` shares of an event with these bytes went to the filters. -/
structure Shares (bytes : WBytes) (n : Nat) (s s' : SystemMap (List Nat)) : Prop where
  log : s'.listeners.length = s.listeners.length + n
  bytes : ∀ d, s'.filterBytes d ≤ s.filterBytes d + n * bytes
  functions : s'.filterFunctions = s.filterFunctions

theorem Shares.trans {bytes : WBytes} {m n : Nat} {s₁ s₂ s₃ : SystemMap (List Nat)}
    (h₁ : Shares bytes m s₁ s₂) (h₂ : Shares bytes n s₂ s₃) : Shares bytes (m + n) s₁ s₃ where
  log := by rw [h₂.log, h₁.log, Nat.add_assoc]
  bytes d := by
    rw [Nat.add_mul, ← Nat.add_assoc]
    exact (h₂.bytes d).trans (Nat.add_le_add_right (h₁.bytes d) _)
  functions := h₂.functions.trans h₁.functions

/-- What leaves the filters and the log alone is no share. -/
theorem Shares.of_eq {bytes : WBytes} {s s' : SystemMap (List Nat)}
    (hlog : s'.listeners = s.listeners) (hfilters : s'.filterCounters = s.filterCounters) :
    Shares bytes 0 s s' where
  log := by rw [hlog, Nat.add_zero]
  bytes d := by simp only [CounterTree.filterBytes, hfilters, Nat.zero_mul, Nat.add_zero, le_refl]
  functions := by simp only [CounterTree.filterFunctions, hfilters]

theorem Shares.keep {bytes : WBytes} {n : Nat} {s₁ s₂ s₃ : SystemMap (List Nat)}
    (h : Shares bytes n s₁ s₂) (hlog : s₃.listeners = s₂.listeners)
    (hfilters : s₃.filterCounters = s₂.filterCounters) : Shares bytes n s₁ s₃ :=
  h.trans (.of_eq hlog hfilters)

/-! ### The loop over the filters -/

theorem map_modify_of_eq {α β : Type} {g : α → β} {f : α → α} (hf : ∀ x, g (f x) = g x) :
    ∀ (l : List α) (i : Nat), (l.modify i f).map g = l.map g
  | [], _ => by simp
  | x :: l, 0 => by simp [hf]
  | x :: l, i + 1 => by simp [map_modify_of_eq hf l i]

theorem sum_modify_le {α : Type} {g : α → Nat} {f : α → α} {b : Nat}
    (hf : ∀ x, g (f x) ≤ g x + b) :
    ∀ (l : List α) (i : Nat), ((l.modify i f).map g).sum ≤ (l.map g).sum + b
  | [], _ => by simp
  | x :: l, 0 => by
    have := hf x
    simp only [List.modify_zero_cons, List.map_cons, List.sum_cons]
    omega
  | x :: l, i + 1 => by
    have := sum_modify_le hf l i
    simp only [List.modify_succ_cons, List.map_cons, List.sum_cons]
    omega

/-- One filter gets the event. -/
theorem shares_callFilter (i : Nat) (d : PacketDirection) (bytes : WBytes)
    (s : SystemMap (List Nat)) :
    Shares bytes 1 s (call shareLog (.filter i) (pushCall d bytes) s) where
  log := by cases d <;> exact List.length_append
  bytes d' := by
    rw [Nat.one_mul]
    refine sum_modify_le (fun f => ?_) s.filterCounters i
    cases d <;> cases d' <;>
      simp only [pushCall, TrafficCounter.call, TrafficCounter.pushIncomingTraffic,
        TrafficCounter.pushOutgoingTraffic, TrafficCounter.recent, Nat.le_add_right, le_refl]
  functions := map_modify_of_eq (f := fun f : FilterCounter =>
    { f with toTrafficCounter := f.toTrafficCounter.call (pushCall d bytes) }) (fun _ => rfl)
    s.filterCounters i

/-- Each turn asks one filter, and what it answers does not depend on the turns before. -/
theorem shares_loop (d : PacketDirection) (bytes : WBytes) (remote : Endpoint) :
    ∀ (l : List Nat) (s : SystemMap (List Nat)),
      Shares bytes (l.countP fun i => s.filterFunctions[i]?.any (· remote.address)) s
        (l.foldl (fun s i =>
          if (s.filterCounters[i]?).any fun f => f.filterFunction remote.address then
            call shareLog (.filter i) (pushCall d bytes) s
          else s) s)
  | [], s => .of_eq rfl rfl
  | i :: l, s => by
    have hasked : (s.filterFunctions[i]?.any (· remote.address)) =
        (s.filterCounters[i]?).any fun f => f.filterFunction remote.address := by
      rw [CounterTree.filterFunctions, List.getElem?_map, Option.any_map]
    rw [List.countP_cons, hasked, List.foldl_cons, Nat.add_comm]
    split
    · have hcall := shares_callFilter i d bytes s
      refine hcall.trans ?_
      rw [← hcall.functions]
      exact shares_loop d bytes remote l _
    · rw [Nat.zero_add]
      exact shares_loop d bytes remote l s

/-- The loop gives the event to one filter, or to none. -/
theorem shares_pushFilters (d : PacketDirection) (bytes : WBytes) (remote : Endpoint)
    {s : SystemMap (List Nat)} (hs : s.filterFunctions = IPAddress.filterFunctions) :
    Shares bytes (if remote.address.isFiltered then 1 else 0) s
      (pushFilters shareLog d bytes remote s) := by
  have hlength : s.filterCounters.length = 3 := by
    rw [← List.length_map (·.filterFunction)]
    exact congrArg List.length hs
  have hloop := shares_loop d bytes remote (List.range s.filterCounters.length) s
  rw [hs, hlength] at hloop
  rw [← IPAddress.countP_filterFunctions, pushFilters, hlength]
  exact hloop

/-! ### An event -/

/-- A datagram that `DoPacketParsing` counts for a tuple of the socket. -/
def countsDatagram (d : PacketDirection) (header : PacketHeader) (item : SocketItem) : Bool :=
  header.l4Proto = .udp ∧ !(header.remote d).address.isZero ∧
    ¬(!item.socketTuple.localEndpoint.address.isZero ∧
      !item.socketTuple.remoteEndpoint.address.isZero ∧ item.socketTuple.protocol = .tcp)

/-- The shares of a packet that is parsed. -/
def datagramShares (d : PacketDirection) (header : Option PacketHeader) (item : SocketItem) : Nat :=
  match header with
  | none => 0
  | some header =>
    if countsDatagram d header item ∧ (header.remote d).address.isFiltered then 1 else 0

theorem shares_pushTuple (now : Msec) (d : PacketDirection) (bytes : WBytes) (remote : Endpoint)
    (r : Ref) {s : SystemMap (List Nat)} (hs : s.filterFunctions = IPAddress.filterFunctions) :
    Shares bytes (if remote.address.isFiltered then 1 else 0) s
      (pushTuple shareLog now d bytes remote r s) := by
  have hget : Shares bytes 0 s (getOrCreateUDPTupleCounter shareLog now r remote s).2 := by
    unfold getOrCreateUDPTupleCounter
    split <;> exact .of_eq rfl rfl
  have hcall : Shares bytes 0 s (call shareLog
      (.tuple (getOrCreateUDPTupleCounter shareLog now r remote s).1) (pushCall d bytes)
      (getOrCreateUDPTupleCounter shareLog now r remote s).2) :=
    hget.keep (by cases d <;> rfl) rfl
  have hfilters := hcall.trans
    (shares_pushFilters d bytes remote (hcall.functions.trans hs))
  rw [Nat.zero_add] at hfilters
  unfold pushTuple
  cases htuple : haveUDPTuple remote (s.socket r).trafficItem s.toCounterTree with
  | true => exact hfilters
  | false => exact hfilters.keep rfl rfl

theorem shares_doPacketParsing (env : TrafficEnv) (d : PacketDirection) (bytes : WBytes)
    (header : Option PacketHeader) (r : Ref) {s : SystemMap (List Nat)}
    (hs : s.filterFunctions = IPAddress.filterFunctions) :
    Shares bytes (datagramShares d header (s.socket r).trafficItem) s
      (doPacketParsing shareLog env d bytes header r s) := by
  cases header with
  | none =>
    unfold doPacketParsing
    simp only
    split <;> exact .of_eq rfl rfl
  | some header =>
    by_cases htcp : !(s.socket r).trafficItem.socketTuple.localEndpoint.address.isZero ∧
        !(s.socket r).trafficItem.socketTuple.remoteEndpoint.address.isZero ∧
          (s.socket r).trafficItem.socketTuple.protocol = .tcp
    · have hnone : datagramShares d (some header) (s.socket r).trafficItem = 0 :=
        if_neg fun hc => (of_decide_eq_true hc.1).2.2 htcp
      rw [hnone, doPacketParsing]
      simp only
      rw [if_pos htcp]
      exact .of_eq rfl rfl
    have hedit : Shares bytes 0 s (modify (·.editSocket r fun _ =>
        (applyPacketHeader env d header (s.socket r).trafficItem).1) s) := .of_eq rfl rfl
    by_cases hudp : header.l4Proto = .udp ∧ !(header.remote d).address.isZero
    · have hcounts : countsDatagram d header (s.socket r).trafficItem = true :=
        decide_eq_true ⟨hudp.1, hudp.2, htcp⟩
      have htuple := hedit.trans (shares_pushTuple env.now d bytes (header.remote d) r
        (hedit.functions.trans hs))
      rw [Nat.zero_add] at htuple
      simp only [datagramShares, hcounts, true_and, doPacketParsing, if_neg htcp, if_pos hudp]
      generalize (if (header.remote d).address.isFiltered = true then 1 else 0) = n at htuple ⊢
      split
      · exact htuple.keep rfl rfl
      · exact htuple
    · have hnone : datagramShares d (some header) (s.socket r).trafficItem = 0 :=
        if_neg fun hc => hudp ⟨(of_decide_eq_true hc.1).1, (of_decide_eq_true hc.1).2.1⟩
      simp only [hnone, doPacketParsing, if_neg htcp, if_neg hudp]
      split
      · exact hedit.keep rfl rfl
      · exact hedit

/-- The shares that `PushTrafficForSocket` gives to the filters. -/
theorem shares_pushTrafficForSocket (d : PacketDirection) (bytes : WBytes) (r : Ref)
    {s : SystemMap (List Nat)} (hs : s.filterFunctions = IPAddress.filterFunctions) :
    Shares bytes
      (if (s.socket r).trafficItem.socketTuple.remoteEndpoint.address.isFiltered then 1 else 0) s
      (pushTrafficForSocket shareLog d bytes r s) := by
  unfold pushTrafficForSocket
  simp only
  have hcalls (app : Ref) : Shares bytes 0 s (call shareLog (.app app) (pushCall d bytes)
      (call shareLog (.process (s.socket r).parentProcess) (pushCall d bytes)
        (call shareLog (.socket r) (pushCall d bytes) s))) := by
    cases d <;> exact .of_eq rfl rfl
  have hfilters := (hcalls (s.process (s.socket r).parentProcess).parentApp).trans
    (shares_pushFilters d bytes (s.socket r).trafficItem.socketTuple.remoteEndpoint hs)
  rw [Nat.zero_add] at hfilters
  exact hfilters.keep rfl rfl

/-- The push leaves the addresses and the protocol of the sockets as they are. -/
theorem socketTuple_pushTrafficForSocket (h : Handler σ) (d : PacketDirection) (bytes : WBytes)
    (r q : Ref) (s : SystemMap σ) :
    ((pushTrafficForSocket h d bytes r s).socket q).trafficItem.socketTuple =
      (s.socket q).trafficItem.socketTuple := by
  have hdoes : Does h (fun _ _ => True)
      (fun a => a = .change (.editSocket r fun item => { item with connectionState := .connected })) s
      (pushTrafficForSocket h d bytes r s) :=
    does_pushTrafficForSocket (fun _ _ _ => trivial) d bytes r trivial trivial rfl
  refine hdoes.keeps (I := fun s' => (s'.socket q).trafficItem.socketTuple =
    (s.socket q).trafficItem.socketTuple) (fun _ _ hI => hI) (fun who c s' _ hI => ?_)
    (fun _ _ _ hI => hI) (fun m s' _ hm hI => ?_) rfl
  · exact (congrArg Prod.fst (CounterTree.visible_applyCall who c s'.toCounterTree q)).trans hI
  · cases hm
    refine Eq.trans ?_ hI
    simp only [modify, Change.apply, CounterTree.editSocket, CounterTree.modifySocket,
      Function.update_apply]
    split
    · rename_i hq
      rw [hq]
    · rfl

/-! ## Runs -/

theorem filterFunctions_call (h : Handler σ) (who : CounterId) (c : CounterCall)
    (s : SystemMap σ) : (call h who c s).filterFunctions = s.filterFunctions := by
  cases who with
  | filter i =>
    exact map_modify_of_eq (f := fun f : FilterCounter =>
      { f with toTrafficCounter := f.toTrafficCounter.call c }) (fun _ => rfl) s.filterCounters i
  | _ => rfl

/-- The filters test the classes of `RegisterDefaultFilters` in every run. -/
theorem filterFunctions_run (now : Msec) (hostName : String) (ops : List SystemMapOp) :
    (run (step shareLog) (init now hostName []) ops).filterFunctions =
      IPAddress.filterFunctions := by
  refine run_of_step (I := fun s : SystemMap (List Nat) =>
    s.filterFunctions = IPAddress.filterFunctions) (fun s op hs => ?_) ops rfl
  refine (does_step s op).keeps (I := fun s : SystemMap (List Nat) =>
      s.filterFunctions = IPAddress.filterFunctions) (fun _ _ hI => hI)
    (fun who c s _ hI => (filterFunctions_call shareLog who c s).trans hI) (fun _ _ _ hI => hI)
    (fun m s _ _ hI => ?_) hs
  refine Eq.trans ?_ hI
  cases m <;> rfl

/-- Handle a traffic event. -/
def pushTraffic (h : Handler σ) (env : TrafficEnv) (d : PacketDirection) (cookie : SocketCookie)
    (bytes : WBytes) (header : Option PacketHeader) (s : SystemMap σ) : SystemMap σ :=
  match d with
  | .incoming => pushIncomingTraffic h env cookie bytes header s
  | .outgoing => pushOutgoingTraffic h env cookie bytes header s

/-- One filter at most gets the event, once, and all of them together no more than its bytes. -/
def FilteredOnce (bytes : WBytes) (s s' : SystemMap (List Nat)) : Prop :=
  s'.listeners.length ≤ s.listeners.length + 1 ∧
    ∀ d, s'.filterBytes d ≤ s.filterBytes d + bytes

/-- The socket has no remote endpoint that a filter takes when the event is a datagram that is
counted for one of its tuples and for a filter. -/
def AskedOnce (d : PacketDirection) (cookie : SocketCookie) (header : Option PacketHeader)
    (t : CounterTree) : Prop :=
  ∀ r packet, t.sockets.lookup cookie = some r → header = some packet →
    countsDatagram d packet (t.socket r).trafficItem = true →
    (packet.remote d).address.isFiltered = true →
    (t.socket r).trafficItem.socketTuple.remoteEndpoint.address.isFiltered = false

theorem filteredOnce_iff_of_shares {bytes : WBytes} {n : Nat} {s s' : SystemMap (List Nat)}
    (h : Shares bytes n s s') : FilteredOnce bytes s s' ↔ n ≤ 1 := by
  unfold FilteredOnce
  rw [h.log]
  constructor
  · rintro ⟨hlog, -⟩
    omega
  · intro hn
    refine ⟨by omega, fun d => (h.bytes d).trans ?_⟩
    exact Nat.add_le_add_left ((Nat.mul_le_mul_right bytes hn).trans_eq (Nat.one_mul bytes)) _

theorem datagramShares_le_one (d : PacketDirection) (header : Option PacketHeader)
    (item : SocketItem) : datagramShares d header item ≤ 1 := by
  unfold datagramShares
  split
  · exact Nat.zero_le 1
  · split
    · exact Nat.le_refl 1
    · exact Nat.zero_le 1

/-- The shares of an event of one socket: the two places add up. -/
theorem shares_pushSocket (env : TrafficEnv) (d : PacketDirection) (bytes : WBytes)
    (header : Option PacketHeader) (r : Ref) {s : SystemMap (List Nat)}
    (hs : s.filterFunctions = IPAddress.filterFunctions) :
    Shares bytes
      ((if (s.socket r).trafficItem.socketTuple.remoteEndpoint.address.isFiltered then 1 else 0) +
        datagramShares d header (s.socket r).trafficItem) s
      (doPacketParsing shareLog env d bytes header r (pushTrafficForSocket shareLog d bytes r s)) := by
  have hpush := shares_pushTrafficForSocket d bytes r hs
  have hparse := hpush.trans (shares_doPacketParsing env d bytes header r
    (hpush.functions.trans hs))
  have hsame : datagramShares d header
      ((pushTrafficForSocket shareLog d bytes r s).socket r).trafficItem =
        datagramShares d header (s.socket r).trafficItem := by
    unfold datagramShares countsDatagram
    rw [socketTuple_pushTrafficForSocket]
  rw [hsame] at hparse
  exact hparse

/-- The shares of an event of a socket of the map. -/
theorem shares_known (env : TrafficEnv) (d : PacketDirection) {cookie : SocketCookie}
    (bytes : WBytes) (header : Option PacketHeader) {r : Ref} {s : SystemMap (List Nat)}
    (hs : s.filterFunctions = IPAddress.filterFunctions) (hr : s.sockets.lookup cookie = some r) :
    Shares bytes
      ((if (s.socket r).trafficItem.socketTuple.remoteEndpoint.address.isFiltered then 1 else 0) +
        datagramShares d header (s.socket r).trafficItem) s
      (pushTraffic shareLog env d cookie bytes header s) := by
  have hsystem : Shares bytes 0 s (call shareLog .system (pushCall d bytes) s) := by
    cases d <;> exact .of_eq rfl rfl
  have hpush := hsystem.trans
    (shares_pushSocket env d bytes header r (hsystem.functions.trans hs))
  rw [Nat.zero_add] at hpush
  cases d with
  | incoming =>
    have hr' : (call shareLog .system (.pushIncomingTraffic bytes) s).sockets.lookup cookie =
      some r := hr
    simp only [pushTraffic, pushIncomingTraffic, hr']
    exact hpush
  | outgoing =>
    have hr' : (call shareLog .system (.pushOutgoingTraffic bytes) s).sockets.lookup cookie =
      some r := hr
    simp only [pushTraffic, pushOutgoingTraffic, hr']
    exact hpush

theorem shares_findOrMapApplication (o : IterOrder) (now : Msec)
    (exePath commandLine appName : String) (bytes : WBytes) (s : SystemMap (List Nat)) :
    Shares bytes 0 s (findOrMapApplication shareLog o now exePath commandLine appName s).2 := by
  unfold findOrMapApplication
  simp only
  split
  · exact .of_eq rfl rfl
  · split <;> exact .of_eq rfl rfl

theorem shares_findOrMapProcess (now : Msec) (pid : ProcessId) (app : Ref) (bytes : WBytes)
    (s : SystemMap (List Nat)) :
    Shares bytes 0 s (findOrMapProcess shareLog now pid app s).2 := by
  unfold findOrMapProcess
  split <;> exact .of_eq rfl rfl

theorem shares_findOrMapSocket (now : Msec) (cookie : SocketCookie) (process : Ref)
    (bytes : WBytes) (s : SystemMap (List Nat)) :
    Shares bytes 0 s (findOrMapSocket now cookie process s).2 := by
  unfold findOrMapSocket
  split <;> exact .of_eq rfl rfl

/-- Mapping a socket gives nothing to the filters. -/
theorem shares_mapNewSocket (env : MapEnv) (cookie : SocketCookie) (pid : ProcessId)
    (bytes : WBytes) (s : SystemMap (List Nat)) :
    Shares bytes 0 s (mapNewSocket shareLog env cookie pid s).2 :=
  ((shares_findOrMapApplication _ _ _ _ _ bytes s).trans
    (shares_findOrMapProcess _ _ _ bytes _)).trans (shares_findOrMapSocket _ _ _ bytes _)

theorem shares_mapSocketFromTrafficEvent (env : TrafficEnv) (cookie : SocketCookie)
    (d : PacketDirection) (header : Option PacketHeader) (bytes : WBytes)
    {s : SystemMap (List Nat)} :
    Shares bytes 0 s (mapSocketFromTrafficEvent shareLog env cookie d header s).2 := by
  have hmap (pid : ProcessId) :
      Shares bytes 0 s (mapSocket shareLog env.toMapEnv cookie false pid false s).2 := by
    unfold mapSocket
    split
    · exact .of_eq rfl rfl
    · split
      · split <;> exact .of_eq rfl rfl
      · split
        · exact .of_eq rfl rfl
        · exact shares_mapNewSocket env.toMapEnv cookie pid bytes s
  unfold mapSocketFromTrafficEvent
  split
  · exact .of_eq rfl rfl
  · simp only
    split
    · exact .of_eq rfl rfl
    · split
      · exact hmap _
      · exact (hmap _).keep rfl rfl

/-- A socket that the event itself maps has no remote endpoint yet. -/
theorem filteredOnce_unknown (env : TrafficEnv) (d : PacketDirection) {cookie : SocketCookie}
    (bytes : WBytes) (header : Option PacketHeader) {s : SystemMap (List Nat)}
    (hs : s.filterFunctions = IPAddress.filterFunctions)
    (hunknown : s.sockets.lookup cookie = none) :
    FilteredOnce bytes s (pushTraffic shareLog env d cookie bytes header s) := by
  cases d with
  | incoming =>
    have hunknown' : (call shareLog .system (.pushIncomingTraffic bytes) s).sockets.lookup cookie =
      none := hunknown
    simp only [pushTraffic, pushIncomingTraffic, hunknown']
    exact (filteredOnce_iff_of_shares (n := 0) (.of_eq rfl rfl)).mpr (Nat.zero_le 1)
  | outgoing =>
    have hunknown' : (call shareLog .system (.pushOutgoingTraffic bytes) s).sockets.lookup cookie =
      none := hunknown
    have hsystem : Shares bytes 0 s (call shareLog .system (.pushOutgoingTraffic bytes) s) :=
      .of_eq rfl rfl
    have hmap := hsystem.trans
      (shares_mapSocketFromTrafficEvent env cookie .outgoing header bytes)
    simp only [pushTraffic, pushOutgoingTraffic, hunknown']
    split
    · exact (filteredOnce_iff_of_shares hmap).mpr (Nat.zero_le 1)
    · rename_i r hr
      obtain ⟨packet, rfl⟩ : ∃ packet, header = some packet := by
        cases header with
        | none => cases hr
        | some packet => exact ⟨packet, rfl⟩
      obtain ⟨-, -, hmade, hnew, -, hremote⟩ :=
        newSocket_mapSocketFromTrafficEvent env .outgoing packet hunknown' hr
      have hpush := hmap.trans (shares_pushSocket env .outgoing bytes (some packet) r
        (hmap.functions.trans hs))
      have hfirst : ((mapSocketFromTrafficEvent shareLog env cookie .outgoing (some packet)
          (call shareLog .system (.pushOutgoingTraffic bytes) s)).2.socket
            r).trafficItem.socketTuple.remoteEndpoint.address.isFiltered = false := by
        rw [hremote, hmade, hnew.item]
        rfl
      rw [hfirst, if_neg Bool.false_ne_true] at hpush
      refine (filteredOnce_iff_of_shares hpush).mpr ?_
      have := datagramShares_le_one .outgoing (some packet)
        ((mapSocketFromTrafficEvent shareLog env cookie .outgoing (some packet)
          (call shareLog .system (.pushOutgoingTraffic bytes) s)).2.socket r).trafficItem
      omega

/-- **The filters partition an event** exactly when they are asked about it once: it is no datagram
of a socket with a remote endpoint. -/
theorem filteredOnce_iff (now : Msec) (hostName : String) (ops : List SystemMapOp)
    (env : TrafficEnv) (d : PacketDirection) (cookie : SocketCookie) (bytes : WBytes)
    (header : Option PacketHeader) :
    let s := run (step shareLog) (init now hostName []) ops
    FilteredOnce bytes s (pushTraffic shareLog env d cookie bytes header s) ↔
      AskedOnce d cookie header s.toCounterTree := by
  have hs := filterFunctions_run now hostName ops
  intro s
  cases hlookup : s.sockets.lookup cookie with
  | none =>
    refine iff_of_true (filteredOnce_unknown env d bytes header hs hlookup) ?_
    intro r packet hr
    rw [hlookup] at hr
    cases hr
  | some r =>
    rw [filteredOnce_iff_of_shares (shares_known env d bytes header hs hlookup)]
    constructor
    · intro hle r' packet hr' hheader hcounts htaken
      rw [hlookup] at hr'
      cases hr'
      subst hheader
      by_contra hremote
      rw [Bool.not_eq_false] at hremote
      rw [if_pos hremote, datagramShares, if_pos ⟨hcounts, htaken⟩] at hle
      omega
    · intro hasked
      have hdatagram := datagramShares_le_one d header (s.socket r).trafficItem
      by_cases hremote :
          (s.socket r).trafficItem.socketTuple.remoteEndpoint.address.isFiltered = true
      · have hnone : datagramShares d header (s.socket r).trafficItem = 0 := by
          unfold datagramShares
          cases header with
          | none => rfl
          | some packet =>
            refine if_neg fun hc => ?_
            rw [hasked r packet hlookup rfl hc.1 hc.2] at hremote
            cases hremote
        rw [if_pos hremote, hnone]
      · rw [if_neg hremote, Nat.zero_add]
        exact hdatagram

/-! ### A connected UDP socket -/

/-- Process 7 connects a UDP socket to 10.0.0.2, port 53. -/
def connectedUdp : List SystemMapOp :=
  [.mapSocket quietTraffic.toMapEnv 9 false 7 false,
   .processSocketEvent (.socketConnect4 17 53 0x0200000a) 6]

/-- A datagram from 10.0.0.1 to 10.0.0.2, port 53. -/
def nameRequest : PacketHeader :=
  { src := { address := .ipv4 (quad 10 0 0 1), port := 4000 }
    dst := { address := .ipv4 (quad 10 0 0 2), port := 53 }
    l4Proto := .udp }

/-- **The LAN filter gets the datagram of a connected socket twice.** -/
theorem filteredOnce_fails_connected : ¬ ∀ (ops : List SystemMapOp) (env : TrafficEnv)
    (d : PacketDirection) (cookie : SocketCookie) (bytes : WBytes) (header : Option PacketHeader),
      FilteredOnce bytes (run (step shareLog) (init 0 "host" []) ops)
        (pushTraffic shareLog env d cookie bytes header
          (run (step shareLog) (init 0 "host" []) ops)) := by
  intro hall
  have honce := hall connectedUdp quietTraffic .outgoing 9 100 (some nameRequest)
  exact absurd (honce.2 .outgoing) (by decide)

end SystemMap

end Waechter
