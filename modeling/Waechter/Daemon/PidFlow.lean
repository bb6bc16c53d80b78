import Waechter.Daemon.ByteAccounting
import Waechter.Daemon.ProcessIds
import Waechter.Daemon.SocketStateParser
import Waechter.EBPF.PortToPid

/-!
# Process ids from end to end

A PID gets into `WSystemMap::Processes` from three sides: with the events of the kernel programs,
where those of established and accepted connections carry the owner of their port from
`port_to_pid`; with the answers to the lookups of orphaned sockets; and from the tables in `/proc`
that the daemon reads itself.

`ParseTcpFile` and `ParseUdpFile` store -1 for a socket that nobody has open. `PrePopulatePortToPid`
writes it to `port_to_pid`, from where it comes back as the PID of an event, and `LookupEndpoints`
answers with it.

* `validPids_step_iff`: when a step leaves every PID positive.
* `always_validPids_iff`: the exact condition on the steps of a run.
* `always_validPids_of_owned`: enough is that every socket in the tables has an owner.
-/

namespace Waechter

open Lib

namespace PidFlow

open PortToPid SystemMap

/-- `Tgid` of `UpdateData`, a `WProcessId`, from the `PidTgId` of an event. -/
def tgid (pidTgId : UInt64) : ProcessId := (pidTgId >>> 32).toUInt32.toInt32.toInt

/-- `PidTgId` of a process. The lower half, where the kernel has the thread, is not read. -/
def pidTgId (pid : UInt32) : UInt64 := pid.toUInt64 <<< 32

theorem tgid_pidTgId (pid : UInt32) : tgid (pidTgId pid) = pid.toInt32.toInt := by
  have hshift : ((pid.toUInt64 <<< 32) >>> 32).toUInt32 = pid := by
    apply UInt32.toNat.inj
    have := pid.toNat_lt
    simp [UInt64.toNat_shiftLeft, UInt64.toNat_shiftRight, Nat.shiftLeft_eq,
      Nat.shiftRight_eq_div_pow]
    omega
  unfold tgid pidTgId
  rw [hshift]

/-- A PID of 31 bits comes through. -/
theorem tgid_nonneg {pid : UInt32} (h : pid.toNat < 2 ^ 31) : 0 ≤ tgid (pidTgId pid) := by
  rw [tgid_pidTgId]
  have hint : pid.toInt32.toInt = pid.toNat :=
    BitVec.toInt_eq_toNat_of_lt (x := pid.toBitVec) (by simp; omega)
  rw [hint]
  exact Int.natCast_nonneg _

theorem toNat_ofInt_lt {pid : Int} (h : 0 ≤ pid) (hlt : pid < 2 ^ 31) :
    (UInt32.ofInt pid).toNat < 2 ^ 31 := by
  obtain ⟨n, rfl⟩ := Int.eq_ofNat_of_zero_le h
  simp [UInt32.ofInt]
  omega

/-- The process that is current in a hook. The PIDs of the kernel do not exceed 2^22. -/
structure Task where
  pid : UInt32
  valid : pid.toNat ≤ 2 ^ 22

theorem Task.lt (task : Task) : task.pid.toNat < 2 ^ 31 :=
  task.valid.trans_lt (by decide)

/-- The address of a `bind`. -/
inductive InetAddr where
  | inet (addr4 : UInt32)
  | inet6 (addr6 : Vector UInt32 4)

/-- The two addresses of a connection. -/
inductive InetPair where
  | inet (addr4 remoteAddr4 : UInt32)
  | inet6 (addr6 remoteAddr6 : Vector UInt32 4)

def InetAddr.bindEvent (port : UInt16) (implicitBind : Bool) : InetAddr → NetEvent
  | .inet addr4 => .socketBind4 port.toUInt32 implicitBind addr4
  | .inet6 addr6 => .socketBind6 port.toUInt32 implicitBind addr6

def InetPair.establishedEvent (lport dport : UInt16) (isAccept : Bool) : InetPair → NetEvent
  | .inet addr4 remoteAddr4 =>
    .tcpSocketEstablished4 lport.toUInt32 dport.toUInt32 isAccept addr4 remoteAddr4
  | .inet6 addr6 remoteAddr6 =>
    .tcpSocketEstablished6 lport.toUInt32 dport.toUInt32 isAccept addr6 remoteAddr6

def InetPair.acceptEvent (lport dport : UInt16) (type : UInt32) : InetPair → NetEvent
  | .inet addr4 remoteAddr4 =>
    .socketAccept4 lport.toUInt32 dport.toUInt32 type addr4 remoteAddr4
  | .inet6 addr6 remoteAddr6 =>
    .socketAccept6 lport.toUInt32 dport.toUInt32 type addr6 remoteAddr6

/-- The system map, `port_to_pid`, and the events between the two, in the ring buffer and in
`SocketEventQueue`. -/
structure State (σ : Type) where
  map : SystemMap σ
  portToPid : PortToPid := ∅
  socketEvents : List SocketEvent := []

/-- The hooks of the kernel, and what the daemon and its helper process do. -/
inductive Op : Type 1 where
  | socketBind (task : Task) (cookie : SocketCookie) (reserved : Bool) (port : UInt16)
      (addr : InetAddr)
  /-- The tracepoint, with the process that created the socket. -/
  | inetSockSetState (task creator : Task) (cookie : SocketCookie) (reserved : Bool)
      (lport : UInt16)
  | onTcpListen (task : Task) (lport : UInt16)
  | onTcpClose (task : Task) (cookie : SocketCookie) (reserved wasListening : Bool)
      (lport : UInt16)
  | onTcpEstablished (task : Task) (cookie : SocketCookie) (reserved : Bool) (lport dport : UInt16)
      (addrs : InetPair)
  | sockGraft (task : Task) (cookie : SocketCookie) (reserved : Bool) (lport dport : UInt16)
      (type : UInt32) (addrs : InetPair)
  | emitIfBound (task : Task) (cookie : SocketCookie) (reserved : Bool) (sport : UInt16)
      (addr : InetAddr)
  /-- An event of another hook, with the current process or without one. -/
  | emit (task : Option Task) (cookie : SocketCookie) (data : NetEvent)
  | prePopulatePortToPid (tables : ProcTables)
  /-- The helper process looks up an endpoint, and the daemon receives the answer. -/
  | onDataReceived (now : Msec) (tables : ProcTables) (endpoint : Endpoint)
  | updateData (env : TrafficEnv)
  | addExistingSockets (env : MapEnv) (isProcessRunning : ProcessId → Bool) (tables : ProcTables)
  | processInitialApps (o : IterOrder)
  | refreshAllTrafficCounters (env : TickEnv)
  | takeItemId

namespace State

variable {σ : Type}

/-- `MakeSocketEvent` and `bpf_ringbuf_submit`; `reserved` says that the ring buffer has room. -/
def submit (reserved : Bool) (cookie : SocketCookie) (pid : UInt32) (data : NetEvent)
    (s : State σ) : State σ :=
  if reserved ∧ cookie ≠ 0 then
    { s with socketEvents := s.socketEvents ++
        [{ cookie := cookie, pid := tgid (pidTgId pid), data := data }] }
  else s

variable (h : Handler σ)

def step (s : State σ) : Op → State σ
  | .socketBind task cookie reserved port addr =>
    submit reserved cookie task.pid (addr.bindEvent port false)
      { s with portToPid :=
          PortToPid.socketBind s.portToPid (reserved && cookie ≠ 0) task.pid port }
  | .inetSockSetState task creator cookie reserved lport =>
    submit reserved cookie task.pid .tcpSocketListening
      { s with portToPid :=
          PortToPid.inetSockSetState s.portToPid (some ⟨creator.pid, cookie⟩) lport }
  | .onTcpListen task lport =>
    { s with portToPid := PortToPid.onTcpListen s.portToPid task.pid lport }
  | .onTcpClose task cookie reserved wasListening lport =>
    submit reserved cookie task.pid (.socketClosed lport.toUInt32)
      { s with portToPid := PortToPid.onTcpClose s.portToPid wasListening lport }
  | .onTcpEstablished task cookie reserved lport dport addrs =>
    let result := PortToPid.onTcpEstablished s.portToPid (reserved && cookie ≠ 0) task.pid lport
    let s := { s with portToPid := result.1 }
    match result.2 with
    | none => s
    | some e => submit true cookie e.pid (addrs.establishedEvent lport dport e.isAccept) s
  | .sockGraft task cookie reserved lport dport type addrs =>
    submit reserved cookie (PortToPid.sockGraft s.portToPid task.pid lport)
      (addrs.acceptEvent lport dport type) s
  | .emitIfBound task cookie reserved sport addr =>
    if sport = 0 then s
    else submit reserved cookie task.pid (addr.bindEvent sport true)
      { s with portToPid := PortToPid.emitIfBound s.portToPid task.pid sport }
  | .emit task cookie data => submit true cookie ((task.map Task.pid).getD 0) data s
  | .prePopulatePortToPid tables =>
    let sockets := (SocketStateParser.parseData tables).knownListeningSockets
    { s with
      portToPid := sockets.foldl (fun m info => prePopulate m info.localEndpoint.port info.pid)
        s.portToPid }
  | .onDataReceived now tables endpoint =>
    let pid := SocketStateParser.lookupEndpoint (SocketStateParser.parseData tables) endpoint
    { s with
      map := reparentOrphanedSocket h now endpoint pid s.map
      portToPid := PortToPid.onDataReceived s.portToPid endpoint.port pid }
  | .updateData env =>
    match s.socketEvents with
    | [] => s
    | event :: events =>
      { s with map := SystemMap.updateData h env event s.map, socketEvents := events }
  | .addExistingSockets env isProcessRunning tables =>
    let sockets := (SocketStateParser.parseData tables).knownListeningSockets
    { s with map := SystemMap.addExistingSockets h env isProcessRunning sockets s.map }
  | .processInitialApps o => { s with map := SystemMap.processInitialApps h o s.map }
  | .refreshAllTrafficCounters env =>
    { s with map := SystemMap.refreshAllTrafficCounters h env s.map }
  | .takeItemId => { s with map := SystemMap.takeItemId s.map }

/-- The system map as the daemon constructs it, and nothing known about any port. -/
def init (now : Msec) (hostName : String) (listeners : σ) : State σ :=
  { map := SystemMap.init now hostName listeners }

/-! ## What should hold -/

/-- Every PID in `Processes` is positive. -/
def ValidPids (s : State σ) : Prop := ∀ pid ∈ s.map.pids, 0 < pid

/-- A lookup attaches the socket that waits for it to the process of an owner it found, or not at
all. -/
def AttachesFound (s : State σ) : Op → Prop
  | .onDataReceived now tables endpoint =>
    ∀ r, s.map.orphanedSockets.lookup endpoint = some r →
      let s' := step h s (.onDataReceived now tables endpoint)
      (s'.map.socket r).parentProcess = (s.map.socket r).parentProcess ∨
        ∃ pid, tables.Owns endpoint pid ∧
          s'.map.processes.lookup pid = some (s'.map.socket r).parentProcess
  | _ => True

/-- The condition on a step: the next event does not create a process with a negative PID, and an
endpoint that a socket waits for is not one that nobody has open. -/
def Respects (s : State σ) : Op → Prop
  | .updateData _ => ∀ event ∈ s.socketEvents.head?,
      s.map.Creates event.cookie event.pid → 0 ≤ event.pid
  | .onDataReceived _ tables endpoint =>
    (s.map.orphanedSockets.lookup endpoint).isSome → ¬tables.Ownerless endpoint
  | _ => True

/-! ## One step -/

variable {h} {s : State σ}

@[simp] theorem map_submit (reserved : Bool) (cookie : SocketCookie) (pid : UInt32)
    (data : NetEvent) (s : State σ) : (submit reserved cookie pid data s).map = s.map := by
  unfold submit
  split <;> rfl

theorem ValidPids.grows {s' : State σ} (hs : s.ValidPids) (hmap : Grows s.map s'.map) :
    s'.ValidPids := by
  intro pid hpid
  rcases hmap.new pid hpid with hpid | hpos
  · exact hs pid hpid
  · exact hpos

/-- The next event. -/
theorem validPids_updateData_iff (hs : s.ValidPids) (env : TrafficEnv) (event : SocketEvent)
    (events : List SocketEvent) :
    ({ s with
        map := SystemMap.updateData h env event s.map
        socketEvents := events } : State σ).ValidPids ↔
      (s.map.Creates event.cookie event.pid → 0 ≤ event.pid) := by
  have hgrows := grows_updateData (h := h) env event s.map
  have hmapped := pids_mapSocket (h := h) env.toMapEnv event.cookie event.data.isEstablished
    event.pid event.data.silentFail s.map
  constructor
  · intro hs' hcreates
    refine (hs' event.pid (hgrows.kept ?_)).le
    rw [hmapped, if_pos hcreates]
    exact Set.mem_insert event.pid s.map.pids
  · intro hnonneg pid hpid
    rcases hgrows.new pid hpid with hpid | hpos
    · rw [hmapped] at hpid
      split at hpid
      · rename_i hcreates
        rcases Set.mem_insert_iff.mp hpid with rfl | hpid
        · exact lt_of_le_of_ne (hnonneg hcreates) hcreates.2.1.symm
        · exact hs pid hpid
      · exact hs pid hpid
    · exact hpos

/-- The answer of a lookup. -/
theorem validPids_onDataReceived_iff (hs : s.ValidPids) (now : Msec) (tables : ProcTables)
    (endpoint : Endpoint) :
    (step h s (.onDataReceived now tables endpoint)).ValidPids ↔
      Respects s (.onDataReceived now tables endpoint) := by
  have hpids := pids_reparentOrphanedSocket (h := h) now endpoint
    (SocketStateParser.lookupEndpoint (SocketStateParser.parseData tables) endpoint) s.map
  have hcases := SocketStateParser.lookupEndpoint_cases tables endpoint
  unfold ValidPids step Respects
  simp only
  rw [hpids]
  constructor
  · rintro hs' horphan hnone
    rcases hcases with ⟨-, hfound⟩ | ⟨hpid, -⟩ | ⟨-, hfound⟩
    · exact hfound hnone
    · rw [hpid, if_pos ⟨horphan, by decide⟩] at hs'
      exact absurd (hs' (-1) (Set.mem_insert _ _)) (by decide)
    · exact hfound hnone
  · intro hfound pid hpid
    split at hpid
    · rename_i hattached
      rcases Set.mem_insert_iff.mp hpid with rfl | hpid
      · rcases hcases with ⟨hzero, -⟩ | ⟨-, hnone⟩ | ⟨howns, -⟩
        · exact absurd hzero hattached.2
        · exact absurd hnone (hfound hattached.1)
        · exact howns.1
      · exact hs pid hpid
    · exact hs pid hpid

/-- **When a step leaves every PID positive.** -/
theorem validPids_step_iff (hs : s.ValidPids) (op : Op) :
    (step h s op).ValidPids ↔ Respects s op := by
  have hkept : ∀ s' : State σ, s'.map.pids ⊆ s.map.pids → (s'.ValidPids ↔ True) :=
    fun s' hsub => iff_true_intro fun pid hpid => hs pid (hsub hpid)
  have hsame : ∀ s' : State σ, s'.map = s.map → (s'.ValidPids ↔ True) := by
    intro s' hmap
    refine hkept s' ?_
    rw [hmap]
  cases op with
  | socketBind | inetSockSetState | onTcpListen | onTcpClose | sockGraft | emit |
      prePopulatePortToPid =>
    exact hsame _ (by simp [step])
  | onTcpEstablished =>
    refine hsame _ ?_
    simp only [step]
    split <;> simp
  | emitIfBound =>
    refine hsame _ ?_
    simp only [step]
    split <;> simp
  | onDataReceived now tables endpoint => exact validPids_onDataReceived_iff hs now tables endpoint
  | updateData env =>
    simp only [step, Respects]
    split
    · rename_i hnil
      simpa [hnil] using hs
    · rename_i event events hcons
      rw [hcons]
      simpa using validPids_updateData_iff hs env event events
  | addExistingSockets env isProcessRunning tables =>
    exact iff_true_intro (hs.grows (grows_addExistingSockets env isProcessRunning _ s.map))
  | processInitialApps o =>
    exact hkept _ (pids_foldl (fun s _ => pids_of_shape (shape_notify h _ s)) _ s.map).subset
  | refreshAllTrafficCounters env => exact hkept _ (pids_refreshAllTrafficCounters env s.map)
  | takeItemId => exact hkept _ (Set.Subset.refl _)

/-- A lookup that does not find an owner attaches nothing. -/
theorem attachesFound_of_respects (op : Op) (hop : Respects s op) : AttachesFound h s op := by
  cases op with
  | onDataReceived now tables endpoint =>
    intro r horphan
    have hnone := hop (Option.isSome_iff_exists.mpr ⟨r, horphan⟩)
    rcases parent_reparentOrphanedSocket (h := h) now
      (SocketStateParser.lookupEndpoint (SocketStateParser.parseData tables) endpoint)
      horphan with ⟨-, hkept⟩ | ⟨hpid, hattached⟩
    · exact .inl hkept
    · rcases SocketStateParser.lookupEndpoint_cases tables endpoint with
        ⟨hzero, -⟩ | ⟨-, hfailed⟩ | ⟨howns, -⟩
      · exact absurd hzero hpid
      · exact absurd hfailed hnone
      · exact .inr ⟨_, howns, hattached⟩
  | _ => trivial

/-! ## Where a negative PID comes from -/

/-- Every process in the map is one that a `WProcessId` can name. -/
def CleanMap (m : PortToPid) : Prop := ∀ port pid, m.lookup port = some pid → pid.toNat < 2 ^ 31

/-- And every process in the events between the kernel and the daemon. -/
structure Clean (s : State σ) : Prop where
  portToPid : CleanMap s.portToPid
  socketEvents : ∀ event ∈ s.socketEvents, 0 ≤ event.pid

/-- The tables name an owner, of 32 bits, of every socket that listens or is looked up. -/
def Owned (s : State σ) : Op → Prop
  | .prePopulatePortToPid tables =>
    ∀ info ∈ (SocketStateParser.parseData tables).knownListeningSockets,
      0 < info.pid ∧ info.pid < 2 ^ 31
  | .onDataReceived _ tables endpoint =>
    ((s.map.orphanedSockets.lookup endpoint).isSome → ¬tables.Ownerless endpoint) ∧
      SocketStateParser.lookupEndpoint (SocketStateParser.parseData tables) endpoint < 2 ^ 31
  | _ => True

theorem CleanMap.update {m : PortToPid} (hm : CleanMap m) (port : UInt16) {pid : UInt32}
    (hpid : pid.toNat < 2 ^ 31) (flag : UpdateFlag) : CleanMap (m.update port pid flag) := by
  have hinsert : CleanMap (m.insert port pid) := by
    intro port' pid' hlookup
    rw [UMap.lookup_insert_ite] at hlookup
    split at hlookup
    · exact Option.some.inj hlookup ▸ hpid
    · exact hm port' pid' hlookup
  unfold PortToPid.update
  cases flag with
  | any => exact hinsert
  | noExist =>
    simp only
    split
    · exact hm
    · exact hinsert

theorem CleanMap.erase {m : PortToPid} (hm : CleanMap m) (port : UInt16) :
    CleanMap (m.erase port) := by
  intro port' pid' hlookup
  by_cases hport : port' = port
  · rw [hport, AList.lookup_erase] at hlookup
    cases hlookup
  · rw [AList.lookup_erase_ne hport] at hlookup
    exact hm port' pid' hlookup

theorem Clean.submit (hs : s.Clean) (reserved : Bool) (cookie : SocketCookie) {pid : UInt32}
    (hpid : pid.toNat < 2 ^ 31) (data : NetEvent) : (submit reserved cookie pid data s).Clean := by
  unfold State.submit
  split
  · refine ⟨hs.portToPid, fun event hevent => ?_⟩
    rcases List.mem_append.mp hevent with hevent | hevent
    · exact hs.socketEvents event hevent
    · rw [List.mem_singleton.mp hevent]
      exact tgid_nonneg hpid
  · exact hs

/-- The process reported with a connection is the owner of the port or the current one. -/
theorem CleanMap.onTcpEstablished {m : PortToPid} (hm : CleanMap m) (reserved : Bool) (task : Task)
    (lport : UInt16) :
    CleanMap (PortToPid.onTcpEstablished m reserved task.pid lport).1 ∧
      ∀ e ∈ (PortToPid.onTcpEstablished m reserved task.pid lport).2, e.pid.toNat < 2 ^ 31 := by
  have howner : ∀ o, ownerPid m lport = some o → o.toNat < 2 ^ 31 := by
    intro o ho
    unfold ownerPid at ho
    split at ho
    · exact hm lport o ho
    · cases ho
  unfold PortToPid.onTcpEstablished
  constructor
  · simp only
    split
    · exact hm.update lport task.lt .noExist
    · exact hm
  · intro e he
    simp only [Option.mem_def, Option.ite_none_right_eq_some, Option.some.injEq] at he
    rw [← he.2]
    simp only
    split
    · rename_i o ho
      split
      · exact howner o ho
      · exact task.lt
    · exact task.lt

theorem CleanMap.sockGraft {m : PortToPid} (hm : CleanMap m) (task : Task) (lport : UInt16) :
    (PortToPid.sockGraft m task.pid lport).toNat < 2 ^ 31 := by
  unfold PortToPid.sockGraft
  split
  · rename_i owner howner
    split
    · exact hm lport owner howner
    · exact task.lt
  · exact task.lt

theorem CleanMap.prePopulate {m : PortToPid} (hm : CleanMap m) (port : UInt16) {pid : ProcessId}
    (hpos : 0 ≤ pid) (hlt : pid < 2 ^ 31) : CleanMap (PortToPid.prePopulate m port pid) :=
  hm.update port (toNat_ofInt_lt hpos hlt) .any

/-- A step keeps what is between the kernel and the daemon clean. -/
theorem Clean.step (hs : s.Clean) (op : Op) (hop : Owned s op) : (step h s op).Clean := by
  have hmap : CleanMap s.portToPid := hs.portToPid
  have hwrite : ∀ {m : PortToPid}, CleanMap m → ({ s with portToPid := m } : State σ).Clean :=
    fun hm => ⟨hm, hs.socketEvents⟩
  cases op with
  | socketBind task cookie reserved port addr =>
    refine Clean.submit (hwrite ?_) reserved cookie task.lt _
    unfold PortToPid.socketBind
    split
    · exact hmap.update port task.lt .any
    · exact hmap
  | inetSockSetState task creator cookie reserved lport =>
    refine Clean.submit (hwrite ?_) reserved cookie task.lt _
    unfold PortToPid.inetSockSetState
    simp only
    split
    · exact hmap.update lport creator.lt .any
    · exact hmap
  | onTcpListen task lport =>
    refine hwrite ?_
    unfold PortToPid.onTcpListen
    split
    · exact hmap.update lport task.lt .any
    · exact hmap
  | onTcpClose task cookie reserved wasListening lport =>
    refine Clean.submit (hwrite ?_) reserved cookie task.lt _
    unfold PortToPid.onTcpClose
    split
    · exact hmap.erase lport
    · exact hmap
  | onTcpEstablished task cookie reserved lport dport addrs =>
    obtain ⟨hwritten, hreported⟩ := hmap.onTcpEstablished (reserved && cookie ≠ 0) task lport
    unfold State.step
    simp only
    split
    · exact hwrite hwritten
    · rename_i e he
      exact (hwrite hwritten).submit true cookie (hreported e he) _
  | sockGraft task cookie reserved lport dport type addrs =>
    exact hs.submit reserved cookie (hmap.sockGraft task lport) _
  | emitIfBound task cookie reserved sport addr =>
    unfold State.step
    simp only
    split
    · exact hs
    · rename_i hport
      refine Clean.submit (hwrite ?_) reserved cookie task.lt _
      unfold PortToPid.emitIfBound
      rw [if_neg hport]
      exact hmap.update sport task.lt .any
  | emit task cookie data =>
    refine hs.submit true cookie ?_ data
    cases task with
    | none => decide
    | some task => exact task.lt
  | prePopulatePortToPid tables =>
    have hloop : ∀ (infos : List ListenSocketInfo) (m : PortToPid),
        (∀ info ∈ infos, 0 < info.pid ∧ info.pid < 2 ^ 31) → CleanMap m →
        CleanMap (infos.foldl
          (fun m info => PortToPid.prePopulate m info.localEndpoint.port info.pid) m) := by
      intro infos
      induction infos with
      | nil => exact fun _ _ hm => hm
      | cons info infos ih =>
        intro m hinfos hm
        rw [List.forall_mem_cons] at hinfos
        exact ih _ hinfos.2 (hm.prePopulate _ hinfos.1.1.le hinfos.1.2)
    exact hwrite (hloop _ _ hop hmap)
  | onDataReceived now tables endpoint =>
    refine ⟨?_, hs.socketEvents⟩
    change CleanMap (PortToPid.onDataReceived s.portToPid endpoint.port _)
    unfold PortToPid.onDataReceived
    split
    · rename_i hpos
      exact hmap.update _ (toNat_ofInt_lt hpos.1.le hop.2) .any
    · exact hmap
  | updateData env =>
    unfold State.step
    simp only
    split
    · exact hs
    · rename_i event events hcons
      exact ⟨hs.portToPid, fun e he => hs.socketEvents e (hcons ▸ List.mem_cons_of_mem _ he)⟩
  | addExistingSockets | processInitialApps | refreshAllTrafficCounters | takeItemId =>
    exact ⟨hs.portToPid, hs.socketEvents⟩

/-- A step with sockets that all have an owner meets the condition. -/
theorem Clean.respects (hs : s.Clean) (op : Op) (hop : Owned s op) : Respects s op := by
  cases op with
  | updateData env =>
    intro event hevent _
    exact hs.socketEvents event (List.mem_of_mem_head? hevent)
  | onDataReceived now tables endpoint => exact hop.1
  | _ => trivial

/-! ## Runs -/

theorem validPids_init (now : Msec) (hostName : String) (listeners : σ) :
    (init now hostName listeners).ValidPids := by
  intro pid hpid
  cases hpid

/-- **PIDs stay valid from end to end exactly when every step meets the condition.** -/
theorem always_validPids_iff (h : Handler σ) (now : Msec) (hostName : String) (listeners : σ)
    (ops : List Op) :
    (Always (step h) ValidPids (init now hostName listeners) ops ∧
        AllSteps (step h) (AttachesFound h) (init now hostName listeners) ops) ↔
      AllSteps (step h) Respects (init now hostName listeners) ops := by
  have hvalid : Always (step h) ValidPids (init now hostName listeners) ops ↔
      AllSteps (step h) Respects (init now hostName listeners) ops :=
    always_iff_allSteps (I := ValidPids) (fun _ hs => hs)
    (fun s op hs hop => (validPids_step_iff hs op).mpr hop)
    (fun s op hs hs' => (validPids_step_iff hs op).mp hs') ops
    (validPids_init now hostName listeners)
  constructor
  · exact fun hall => hvalid.mp hall.1
  · exact fun hall => ⟨hvalid.mpr hall, hall.mono fun s op => attachesFound_of_respects op⟩

/-- **PIDs stay valid when every listening socket and every socket that is looked up has an
owner.** -/
theorem always_validPids_of_owned (h : Handler σ) (now : Msec) (hostName : String) (listeners : σ)
    (ops : List Op) (hops : AllSteps (step h) Owned (init now hostName listeners) ops) :
    Always (step h) ValidPids (init now hostName listeners) ops := by
  refine always_of_allSteps (I := fun s => s.ValidPids ∧ s.Clean) (fun _ hs => hs.1) ?_ ops
    ⟨validPids_init now hostName listeners, ⟨?_, ?_⟩⟩ hops
  · intro s op hs hop
    exact ⟨(validPids_step_iff hs.1 op).mpr (hs.2.respects op hop), hs.2.step op hop⟩
  · intro port pid hlookup
    cases hlookup
  · intro event hevent
    cases hevent

/-! ### A socket nobody has open -/

/-- A listening socket on port 80 of the local host, in no process. -/
def unownedTables : ProcTables :=
  { tcp := [
      { localAddress := "0100007F"
        localPort := 80
        remoteAddress := "00000000:0000"
        state := SocketStateParser.TCP_LISTEN
        inode := 5 }] }

def idleTask : Task := ⟨0, by decide⟩

def serverTask : Task := ⟨7, by decide⟩

/-- The daemon starts while nobody has the socket open, and then a connection to the port is
established. -/
def unownedListener : List Op :=
  [.prePopulatePortToPid unownedTables,
   .onTcpEstablished idleTask 9 true 80 5000 (.inet 0x0100007f 0x0100007f),
   .updateData quietTraffic]

/-- Process 7 accepts a connection, and the lookup of the accepted socket finds no process. -/
def failedLookup : List Op :=
  [.onTcpListen serverTask 80,
   .sockGraft idleTask 9 true 80 5000 SOCK_STREAM (.inet 0x0100007f 0x0100007f),
   .updateData quietTraffic,
   .onDataReceived 0 unownedTables acceptedEndpoint]

/-- **Both end in the process -1**, and the lookup attaches the socket to it. -/
theorem validPids_fails :
    ¬Always (step fun _ _ (u : Unit) => u) ValidPids (init 0 "host" ()) unownedListener ∧
      ¬AllSteps (step fun _ _ (u : Unit) => u) (AttachesFound fun _ _ (u : Unit) => u)
        (init 0 "host" ()) failedLookup := by
  constructor
  · intro hall
    have hmem : -1 ∈ (run (step fun _ _ (u : Unit) => u) (init 0 "host" ())
        unownedListener).map.pids := by
      change (AList.lookup _ _).isSome = true
      decide +kernel
    exact absurd (hall.last (-1) hmem) (by decide)
  · intro hall
    obtain ⟨-, -, -, hlookup, -⟩ := hall
    rcases hlookup 6 (by decide +kernel) with hkept | ⟨pid, ⟨-, line, -, -, hfd⟩, -⟩
    · revert hkept
      decide +kernel
    · exact List.not_mem_nil hfd

end State

end PidFlow

end Waechter
