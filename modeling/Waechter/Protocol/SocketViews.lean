import Waechter.Daemon.ByteAccounting
import Waechter.Daemon.StateChanges
import Waechter.Gui.ShownSockets

/-!
# The sockets a client shows

A run of the system map with a client: the operations record what they change
(`Daemon/Data/MapUpdate.cpp`), `BroadcastTrafficUpdate` sends what was recorded
(`Daemon/Communication/DaemonSocket.cpp`), and the client applies it
(`Gui/Windows/TrafficTree.cpp`). The client joins at once here; `Protocol.Joining` has the steps.

* `announces_of_quiet`: in a run whose operations are quiet about the sockets the client knows,
  every change of such a socket is recorded, and the next update leaves the client with the
  daemon's values or marks or removes the socket.
* `announces_fails_datagram`: the first datagram of a connected UDP socket sets its state, and the
  client is not told.
-/

namespace Waechter

open Lib

/-- The map with a client that may be there, and the sockets that an operation has changed since the
last update while the client knew them. -/
structure ShownRun (σ : Type) where
  map : SystemMap σ
  client : Option Client := none
  changed : Ref → Bool := fun _ => false

/-- An operation, an update for the clients, or the client joins or leaves. The update comes with
the orders of the maps of the daemon and of the client. -/
inductive ShownOp : Type 1 where
  | operation (op : SystemMapOp)
  | getUpdates (daemon client : IterOrder)
  | join (o : IterOrder)
  /-- Other clients may be connected. -/
  | leave (hasClients : Bool)

namespace ShownRun

variable {σ : Type} (h : Handler σ)

/-- What the client shows of a socket. -/
def shown (s : ShownRun σ) (r : Ref) : Option SocketView := s.client.bind (·.shown r)

/-- The socket was sent to the client. -/
def sent (s : ShownRun σ) (r : Ref) : Bool :=
  SystemMap.isSocket r s.map.toCounterTree && (s.shown r).isSome

/-- The update that the daemon builds. -/
def updates (o : IterOrder) (s : ShownRun σ) : TrafficTreeUpdates :=
  (s.map.mapUpdate.getUpdates o s.map.toCounterTree).1

def step (s : ShownRun σ) : ShownOp → ShownRun σ
  | .operation op =>
    let map := SystemMap.step h s.map op
    { s with
      map := map
      changed := fun r => s.changed r || s.sent r && decide (map.view r ≠ s.map.view r) }
  | .getUpdates daemon client =>
    if s.map.hasClients then
      { map := { s.map with
          mapUpdate := (s.map.mapUpdate.getUpdates daemon s.map.toCounterTree).2 }
        client := s.client.map (·.updateFromBuffer client (s.updates daemon)) }
    else s
  | .join o =>
    { map := { s.map with hasClients := true }
      client := some (({} : Client).loadFromBuffer o s.map.itemTree) }
  | .leave hasClients => { map := { s.map with hasClients := hasClients } }

/-- A change of a socket that was sent is recorded, and after an update the client has the values of
the sockets that were changed since the last one. A mark or a removal will do. -/
def Announces (s : ShownRun σ) : ShownOp → Prop
  | .operation op => ∀ r, s.sent r = true →
    (SystemMap.step h s.map op).view r ≠ s.map.view r →
      SystemMap.Announced r (SystemMap.step h s.map op)
  | .getUpdates daemon client => s.map.hasClients = true → ∀ r, s.changed r = true →
    (step h s (.getUpdates daemon client)).shown r = some (s.map.view r) ∨
      r ∈ (s.updates daemon).markedForRemovalItems ∨ r ∈ (s.updates daemon).removedItems
  | _ => True

/-- An operation is quiet about the sockets that were sent. -/
def Quiet (s : ShownRun σ) : ShownOp → Prop
  | .operation op => ∀ r, s.sent r = true → op.QuietAt r s.map.toCounterTree
  | _ => True

/-- The invariant: the client indexes sockets by ids of the daemon's, and what was changed is
announced. -/
structure Inv (s : ShownRun σ) : Prop where
  ids : s.map.shape.Ids
  own : ∀ c, s.client = some c → c.OwnIds
  known : ∀ c i, s.client = some c → (c.shown i).isSome → i ≠ 0 → s.map.shape.sockId i = i
  clients : s.client.isSome → s.map.hasClients = true
  announced : ∀ r, s.changed r = true → s.sent r = true ∧ SystemMap.Announced r s.map

theorem Inv.init (now : Msec) (hostName : String) (listeners : σ) :
    Inv { map := SystemMap.init now hostName listeners } where
  ids := ⟨fun _ hr => absurd rfl hr, fun _ hr => absurd rfl hr, fun _ hr => absurd rfl hr⟩
  own := nofun
  known := nofun
  clients := nofun
  announced := nofun

variable {h} {s : ShownRun σ}

theorem Inv.stands (hs : s.Inv) {r : Ref} (hr : s.sent r = true) :
    SystemMap.Stands r s.map.shape := by
  have hsocket := of_decide_eq_true (Bool.and_eq_true_iff.mp hr).1
  exact ⟨hs.ids, hsocket.1, hsocket.2⟩

theorem client_of_sent {r : Ref} (hr : s.sent r = true) :
    ∃ c, s.client = some c ∧ (c.shown r).isSome := by
  have hshown := (Bool.and_eq_true_iff.mp hr).2
  unfold shown at hshown
  cases hc : s.client with
  | none =>
    rw [hc] at hshown
    cases hshown
  | some c =>
    rw [hc] at hshown
    exact ⟨c, rfl, hshown⟩

/-- The items of an addition have other ids than the sockets. -/
theorem spares_updates (hs : s.Inv) {r : Ref} (hr : s.sent r = true) {daemon : IterOrder}
    (hmarked : r ∉ (s.updates daemon).markedForRemovalItems)
    (hremoved : r ∉ (s.updates daemon).removedItems) : Client.Spares (s.updates daemon) r := by
  refine ⟨hmarked, hremoved, fun a ha => ?_⟩
  rw [updates, MapUpdate.getUpdates_addedSockets] at ha
  obtain ⟨q, -, rfl⟩ := List.mem_map.mp ha
  obtain ⟨-, hpos, hid⟩ := hs.stands hr
  have hne (a : Ref) (hzero : s.map.shape.sockId a = 0) (ha : a = r) : False :=
    hpos (hid.symm.trans (ha ▸ hzero))
  constructor
  · intro heq
    obtain ⟨happ, -, hzero⟩ := hs.ids.app
      (s.map.process (s.map.socket q).parentProcess).parentApp fun h0 => hpos (heq.trans h0)
    exact hne _ hzero (happ.symm.trans heq.symm)
  · intro heq
    obtain ⟨hprocess, -, hzero⟩ := hs.ids.process (s.map.socket q).parentProcess
      fun h0 => hpos (heq.trans h0)
    exact hne _ hzero (hprocess.symm.trans heq.symm)

/-- What an operation leaves of the invariant, and what it announces. -/
theorem Inv.operation (hs : s.Inv) {op : SystemMapOp} (hquiet : s.Quiet (.operation op)) :
    (step h s (.operation op)).Inv ∧ Announces h s (.operation op) := by
  have hdoes := SystemMap.does_step (h := h) s.map op
  have htells (r : Ref) (hr : s.sent r = true) :
      SystemMap.Tells r s.map (SystemMap.step h s.map op) := by
    obtain ⟨c, hc, -⟩ := client_of_sent hr
    exact SystemMap.tells_step (hs.stands hr) (hs.clients (by rw [hc]; rfl)) (hquiet r hr)
  have hannounces : Announces h s (.operation op) := by
    intro r hr hchanged
    rcases (htells r hr).shown with h' | ⟨hview, -⟩
    · exact h'
    · exact absurd hview hchanged
  have hsent (r : Ref) (hr : s.sent r = true) : (step h s (.operation op)).sent r = true := by
    have hstands := hdoes.stands (hs.stands hr)
    exact Bool.and_eq_true_iff.mpr ⟨decide_eq_true ⟨hstands.pos, hstands.id⟩,
      (Bool.and_eq_true_iff.mp hr).2⟩
  refine ⟨⟨hdoes.ids hs.ids, hs.own, fun c i hc hi hpos => ?_, fun hc => ?_, fun r hr => ?_⟩,
    hannounces⟩
  · exact (hdoes.stands ⟨hs.ids, hpos, hs.known c i hc hi hpos⟩).id
  · exact hdoes.hasClients.trans (hs.clients hc)
  · rcases Bool.or_eq_true_iff.mp hr with hr | hr
    · obtain ⟨hr, hannounced⟩ := hs.announced r hr
      exact ⟨hsent r hr, (htells r hr).announced hannounced⟩
    · obtain ⟨hr, hchanged⟩ := Bool.and_eq_true_iff.mp hr
      exact ⟨hsent r hr, hannounces r hr (of_decide_eq_true hchanged)⟩

/-- **An update leaves the client with the values of what was changed.** -/
theorem Inv.getUpdates (hs : s.Inv) (daemon client : IterOrder) :
    (step h s (.getUpdates daemon client)).Inv ∧ Announces h s (.getUpdates daemon client) := by
  have htuples : (s.updates daemon).addedTuples = [] := MapUpdate.getUpdates_addedTuples _ _ _
  constructor
  · change Inv (if s.map.hasClients = true then _ else s)
    split
    · refine ⟨hs.ids, fun c hc => ?_, fun c i hc hi hpos => ?_, fun hc => ?_, nofun⟩
      · obtain ⟨c, hc', rfl⟩ := Option.map_eq_some_iff.mp hc
        exact (Client.known_updateFromBuffer client htuples (hs.own c hc')).1
      · obtain ⟨c, hc', rfl⟩ := Option.map_eq_some_iff.mp hc
        rcases (Client.known_updateFromBuffer client htuples (hs.own c hc')).2 i hi with hi | ha
        · exact hs.known c i hc' hi hpos
        · -- a socket that was added has its id
          obtain ⟨a, ha, rfl⟩ := ha
          rw [updates, MapUpdate.getUpdates_addedSockets] at ha
          obtain ⟨q, -, rfl⟩ := List.mem_map.mp ha
          have hid := (hs.ids.socket q hpos).1
          exact (congrArg s.map.shape.sockId hid).trans rfl
      · rw [Option.isSome_map] at hc
        exact hs.clients hc
    · exact hs
  · intro hclients r hr
    obtain ⟨hsent, hannounced⟩ := hs.announced r hr
    by_cases hmarked : r ∈ (s.updates daemon).markedForRemovalItems
    · exact .inr (.inl hmarked)
    · by_cases hremoved : r ∈ (s.updates daemon).removedItems
      · exact .inr (.inr hremoved)
      · refine .inl ?_
        obtain ⟨c, hc, hshown⟩ := client_of_sent hsent
        have hcarries : Carries (s.updates daemon).socketStateChange r (s.map.view r) :=
          (hannounced.resolve_right (not_or.mpr ⟨hmarked, hremoved⟩))
        have hupdated := Client.shown_updateFromBuffer client htuples (hs.own c hc) hshown
          (spares_updates hs hsent hmarked hremoved) hcarries
        rw [shown, step, if_pos hclients, hc]
        exact hupdated

theorem Inv.join (hs : s.Inv) (o : IterOrder) : (step h s (.join o)).Inv := by
  have hown : (({} : Client).loadFromBuffer o s.map.itemTree).OwnIds :=
    Client.ownIds_loadFromBuffer (fun r hr => (hs.ids.socket r hr).2) _
  refine ⟨hs.ids, fun c hc => ?_, fun c i hc hi hpos => ?_, fun _ => rfl, nofun⟩
  · cases hc
    exact hown
  · cases hc
    obtain ⟨r, hr⟩ := Client.lookup_of_shown hi
    have hid : s.map.shape.sockId r = i := (hown i r hr).1
    have hr' := (hs.ids.socket r (hid ▸ hpos)).1
    rw [hid] at hr'
    exact hr' ▸ hid

/-- **One step of a run that is quiet about what the client knows.** -/
theorem Inv.step (hs : s.Inv) {op : ShownOp} (hquiet : s.Quiet op) :
    (step h s op).Inv ∧ Announces h s op := by
  cases op with
  | operation op => exact hs.operation hquiet
  | getUpdates daemon client => exact hs.getUpdates daemon client
  | join o => exact ⟨hs.join o, trivial⟩
  | leave hasClients => exact ⟨⟨hs.ids, nofun, nofun, nofun, nofun⟩, trivial⟩

/-- **Every visible change of a socket is announced** in a run whose operations are quiet about the
sockets that were sent. -/
theorem announces_of_quiet (now : Msec) (hostName : String) (listeners : σ) (ops : List ShownOp)
    (hquiet : AllSteps (ShownRun.step h) Quiet
      { map := SystemMap.init now hostName listeners } ops) :
    AllSteps (ShownRun.step h) (Announces h)
      { map := SystemMap.init now hostName listeners } ops :=
  hquiet.imp (fun _ _ hs hop => (hs.step hop).1) (fun _ _ hs hop => (hs.step hop).2)
    (Inv.init now hostName listeners)

/-- The client joins; process 7 opens a UDP socket and binds it to 10.0.0.1, port 4000. -/
def boundSocket : List ShownOp :=
  [.join .stored, .operation (.mapSocket SystemMap.quietEnv 9 false 7 false),
   .getUpdates .stored .stored,
   .operation (.processSocketEvent (.socketBind4 4000 false 0x0100000a) 6),
   .getUpdates .stored .stored]

/-- The client is told of the address. -/
theorem announces_of_quiet_bound :
    AllSteps (ShownRun.step fun _ _ (u : Unit) => u) (Announces fun _ _ (u : Unit) => u)
      { map := SystemMap.init 0 "host" () } boundSocket :=
  announces_of_quiet 0 "host" () boundSocket
    ⟨trivial, fun _ _ => trivial, trivial, fun _ _ => trivial, trivial, trivial⟩

/-- The socket is connected to 10.0.0.2, port 53, and the client is told. -/
def connectedSocket : List ShownOp :=
  boundSocket ++ [.operation (.processSocketEvent (.socketConnect4 17 53 0x0200000a) 6),
    .getUpdates .stored .stored]

/-- A datagram from 10.0.0.1, port 4000, to 10.0.0.2, port 53. -/
def request : PacketHeader :=
  { src := { address := .ipv4 (quad 10 0 0 1), port := 4000 }
    dst := { address := .ipv4 (quad 10 0 0 2), port := 53 }
    l4Proto := .udp }

/-- **The first datagram makes the socket connected**, and nothing is recorded. -/
theorem announces_fails_datagram : ¬ ∀ ops : List ShownOp,
    AllSteps (ShownRun.step fun _ _ (u : Unit) => u) (Announces fun _ _ (u : Unit) => u)
      { map := SystemMap.init 0 "host" () } ops := by
  intro hall
  have hlast := (hall (connectedSocket ++
    [.operation (.pushOutgoingTraffic SystemMap.quietTraffic 9 100 (some request))])).last
  have hannounced := hlast 6 (by decide) (by decide)
  rcases hannounced with ⟨before, x, after, hlog, -⟩ | hmarked | hremoved
  · have hnone : (before ++ x :: after) = [] := hlog.symm.trans (by decide)
    exact absurd hnone (by simp)
  · exact absurd hmarked (by decide)
  · exact absurd hremoved (by decide)

end ShownRun

end Waechter
