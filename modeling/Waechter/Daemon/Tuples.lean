import Waechter.Daemon.ByteAccounting
import Waechter.Daemon.StateChanges

/-!
# The tuples of a UDP socket

A UDP socket keeps its remote endpoints twice: `UDPPerConnectionCounters` maps an endpoint to its
counter, and the vector `UDPPerConnectionTraffic` of its item holds the items of the tuples
(`Daemon/Data/SystemMap.cpp`). The removal of a process clears the vector of each socket that it
holds, and the counters of the socket in `Sockets` under the key it holds it under.

* `TupleInv`: each tuple is in both, under its own endpoint, and its id in `TrafficItems` is no
  other item's.
* `KeepsTuples`: the condition on a step: what a removed process holds is in `Sockets` under that
  key, or has no tuples.
* `always_tuplesMatch`: then both always hold the same tuples.
* `tuplesMatch_fails`: a socket that was given to another process is held under its item id.
-/

namespace Waechter

open Lib

namespace TreeShape

/-- **The counters and the items of a socket's tuples match.** -/
structure TuplesMatch (t : TreeShape) (r : Ref) : Prop where
  keys : ∀ e, (∃ u, t.sockTuples r e = some u) ↔ e ∈ (t.sockTraffic r).map t.tupEnd
  nodup : ((t.sockTraffic r).map t.tupEnd).Nodup
  /-- A counter is one of the item with its endpoint. -/
  item : ∀ e u, t.sockTuples r e = some u → u ∈ t.sockTraffic r ∧ t.tupEnd u = e
  listed : ∀ u ∈ t.sockTraffic r, t.items (t.tupId u) ≠ none

/-- A tuple of a socket, with an id of its own. -/
structure OwnTuple (t : TreeShape) (r : Ref) (e : Endpoint) (u : Ref) : Prop where
  tuple : t.TupleOk r e u
  listed : t.items u ≠ none
  lt : u < t.next
  pos : u ≠ 0
  sockId : t.sockId u = 0
  procId : t.procId u = 0
  appId : t.appId u = 0

/-- The invariant. -/
structure TupleInv (t : TreeShape) : Prop where
  ids : t.Ids
  pos : 0 < t.next
  own : ∀ r e u, t.sockTuples r e = some u → t.OwnTuple r e u
  traffic : ∀ r u, u ∈ t.sockTraffic r ↔ ∃ e, t.sockTuples r e = some u
  nodup : ∀ r, (t.sockTraffic r).Nodup

namespace TupleInv

variable {t : TreeShape}

theorem tuplesMatch (h : TupleInv t) (r : Ref) : t.TuplesMatch r where
  keys e := by
    rw [List.mem_map]
    constructor
    · rintro ⟨u, hu⟩
      exact ⟨u, (h.traffic r u).mpr ⟨e, hu⟩, (h.own r e u hu).tuple.endpoint⟩
    · rintro ⟨u, hu, rfl⟩
      obtain ⟨e, he⟩ := (h.traffic r u).mp hu
      exact ⟨u, (h.own r e u he).tuple.endpoint.symm ▸ he⟩
  nodup := by
    refine (List.nodup_map_iff_inj_on (h.nodup r)).mpr fun u hu v hv huv => ?_
    obtain ⟨e, he⟩ := (h.traffic r u).mp hu
    obtain ⟨f, hf⟩ := (h.traffic r v).mp hv
    rw [(h.own r e u he).tuple.endpoint, (h.own r f v hf).tuple.endpoint] at huv
    exact Option.some.inj (he.symm.trans (huv ▸ hf))
  item e u hu := ⟨(h.traffic r u).mpr ⟨e, hu⟩, (h.own r e u hu).tuple.endpoint⟩
  listed u hu := by
    obtain ⟨e, he⟩ := (h.traffic r u).mp hu
    rw [(h.own r e u he).tuple.itemId]
    exact (h.own r e u he).listed

/-- A socket without items has no counters. -/
theorem sockTuples_eq_none (h : TupleInv t) {r : Ref} (hr : t.sockTraffic r = []) (e : Endpoint) :
    t.sockTuples r e = none := by
  by_contra hne
  obtain ⟨u, hu⟩ := Option.ne_none_iff_exists'.mp hne
  have hmem := (h.traffic r u).mpr ⟨e, hu⟩
  rw [hr] at hmem
  exact absurd hmem List.not_mem_nil

/-- The id of another item is none of a tuple's. -/
theorem ne_of_id (h : TupleInv t) {r : Ref} {e : Endpoint} {u : Ref} (hu : t.sockTuples r e = some u)
    {i : TrafficItemId} (hi : (∃ q, t.sockId q = i) ∨ (∃ q, t.procId q = i) ∨ ∃ q, t.appId q = i) :
    u ≠ i := by
  have hown := h.own r e u hu
  rintro rfl
  rcases hi with ⟨q, rfl⟩ | ⟨q, rfl⟩ | ⟨q, rfl⟩
  · have hq := (h.ids.socket q hown.pos).1
    exact hown.pos ((congrArg t.sockId hq).symm.trans hown.sockId)
  · have hq := (h.ids.process q hown.pos).1
    exact hown.pos ((congrArg t.procId hq).symm.trans hown.procId)
  · have hq := (h.ids.app q hown.pos).1
    exact hown.pos ((congrArg t.appId hq).symm.trans hown.appId)

/-- What leaves the tuples alone. -/
theorem of_same (h : TupleInv t) {t' : TreeShape} (hids : t'.Ids) (hnext : t.next ≤ t'.next)
    (htuples : t'.sockTuples = t.sockTuples) (htraffic : t'.sockTraffic = t.sockTraffic)
    (hown : ∀ r e u, t.sockTuples r e = some u → t.OwnTuple r e u → t'.OwnTuple r e u) :
    TupleInv t' where
  ids := hids
  pos := h.pos.trans_le hnext
  own r e u hu := by
    rw [htuples] at hu
    exact hown r e u hu (h.own r e u hu)
  traffic r u := by
    rw [htuples, htraffic]
    exact h.traffic r u
  nodup r := by
    rw [htraffic]
    exact h.nodup r

/-- Other items come and go; the tuples stay in `TrafficItems` and keep their ids. -/
theorem of_items (h : TupleInv t) {t' : TreeShape} (hids : t'.Ids) (hnext : t.next ≤ t'.next)
    (htuples : t'.sockTuples = t.sockTuples) (htraffic : t'.sockTraffic = t.sockTraffic)
    (hkept : t'.tupSock = t.tupSock ∧ t'.tupId = t.tupId ∧ t'.tupEnd = t.tupEnd)
    (hown : ∀ r e u, t.sockTuples r e = some u → t.OwnTuple r e u →
      t'.items u ≠ none ∧ t'.sockId u = t.sockId u ∧ t'.procId u = t.procId u ∧
        t'.appId u = t.appId u) : TupleInv t' := by
  refine h.of_same hids hnext htuples htraffic fun r e u hu hold => ?_
  obtain ⟨hitems, hsock, hproc, happ⟩ := hown r e u hu hold
  obtain ⟨hparent, hid, hend⟩ := hkept
  refine ⟨⟨hparent ▸ hold.tuple.parent, hid ▸ hold.tuple.itemId, hend ▸ hold.tuple.endpoint⟩, hitems,
    hold.lt.trans_le hnext, hold.pos, hsock.trans hold.sockId, hproc.trans hold.procId,
    happ.trans hold.appId⟩

attribute [local grind =] Function.update_apply
attribute [local grind cases] OwnTuple TupleOk

/-- An id that is no tuple's leaves `TrafficItems`. -/
theorem eraseTrafficItem (h : TupleInv t) {i : TrafficItemId}
    (hi : (∃ q, t.sockId q = i) ∨ (∃ q, t.procId q = i) ∨ ∃ q, t.appId q = i) :
    TupleInv (t.eraseTrafficItem i) := by
  refine h.of_items (h.ids.of_same (Nat.le_refl _) rfl rfl rfl) (Nat.le_refl _) rfl rfl
    ⟨rfl, rfl, rfl⟩ fun r e u hu hold => ⟨?_, rfl, rfl, rfl⟩
  simp only [TreeShape.eraseTrafficItem, Function.update_of_ne (h.ne_of_id hu hi)]
  exact hold.listed

/-- The tuples of a socket go, and the items of a socket that has none or is the same. -/
theorem dropTuples (h : TupleInv t) {q r : Ref} {us : List Ref} (hus : IsTuplesOf t q us)
    (hqr : q = r ∨ t.sockTraffic q = [] ∧ t.sockTraffic r = []) :
    TupleInv (((t.eraseTrafficItems (us.map t.tupId)).clearTupleCounters q).clearTupleItems r) where
  ids := h.ids.of_same (Nat.le_refl _) rfl rfl rfl
  pos := h.pos
  own x e u hu := by
    simp only [clearTupleItems, clearTupleCounters] at hu
    split at hu
    · cases hu
    · rename_i hx
      obtain ⟨htuple, hlisted, hlt, hpos, hsock, hproc, happ⟩ := h.own x e u hu
      refine ⟨⟨htuple.parent, htuple.itemId, htuple.endpoint⟩, ?_, hlt, hpos, hsock, hproc, happ⟩
      -- the tuple is one of another socket
      have hother : u ∉ us.map t.tupId := by
        intro hmem
        obtain ⟨v, hv, rfl⟩ := List.mem_map.mp hmem
        obtain ⟨f, hf⟩ := (hus v).mp hv
        have hown := (h.own q f v hf).tuple
        rw [hown.itemId] at htuple
        exact hx (htuple.parent.symm.trans hown.parent)
      simp only [clearTupleItems, clearTupleCounters, eraseTrafficItems, if_neg hother]
      exact hlisted
  traffic x u := by
    have hold := h.traffic x u
    have hnone := fun hx => h.sockTuples_eq_none (r := x) hx
    simp only [clearTupleItems, clearTupleCounters, eraseTrafficItems, Function.update_apply]
    grind
  nodup x := by
    simp only [clearTupleItems, clearTupleCounters, eraseTrafficItems, Function.update_apply]
    split
    · exact List.nodup_nil
    · exact h.nodup x

/-- A new tuple gets the next id. -/
theorem addTuple (h : TupleInv t) {r : Ref} {e : Endpoint} (he : t.sockTuples r e = none) :
    TupleInv (t.addTuple r e) where
  ids := h.ids.of_same (Nat.le_succ _) rfl rfl rfl
  pos := Nat.succ_pos _
  own x f u hu := by
    have hfresh : t.sockId t.next = 0 ∧ t.procId t.next = 0 ∧ t.appId t.next = 0 := by
      refine ⟨h.ids.fresh, ?_, ?_⟩
      · by_contra hne
        exact Nat.lt_irrefl _ (h.ids.process _ hne).2.1
      · by_contra hne
        exact Nat.lt_irrefl _ (h.ids.app _ hne).2.1
    simp only [TreeShape.addTuple] at hu
    split at hu
    · rename_i hx
      cases Option.some.inj hu
      refine ⟨⟨?_, ?_, ?_⟩, ?_, Nat.lt_succ_self _, h.pos.ne', hfresh.1, hfresh.2.1, hfresh.2.2⟩
      · simp [TreeShape.addTuple, hx.1]
      · simp [TreeShape.addTuple]
      · simp [TreeShape.addTuple, hx.2]
      · simp [TreeShape.addTuple]
    · obtain ⟨htuple, hlisted, hlt, hpos, hsock, hproc, happ⟩ := h.own x f u hu
      have hne : u ≠ t.next := hlt.ne
      refine ⟨⟨?_, ?_, ?_⟩, ?_, Nat.lt_succ_of_lt hlt, hpos, hsock, hproc, happ⟩ <;>
        simp only [TreeShape.addTuple, Function.update_of_ne hne]
      · exact htuple.parent
      · exact htuple.itemId
      · exact htuple.endpoint
      · exact hlisted
  traffic x u := by
    have hold := h.traffic x u
    simp only [TreeShape.addTuple, Function.update_apply]
    grind
  nodup x := by
    simp only [TreeShape.addTuple, Function.update_apply]
    split
    · refine List.nodup_append.mpr ⟨h.nodup r, List.nodup_singleton _, fun u hu v hv => ?_⟩
      obtain ⟨f, hf⟩ := (h.traffic r u).mp hu
      rw [List.mem_singleton.mp hv]
      exact (h.own r f u hf).lt.ne
    · exact h.nodup x

/-- A tuple that expires. -/
theorem eraseTuple (h : TupleInv t) {r : Ref} {e : Endpoint} {u : Ref}
    (hu : t.sockTuples r e = some u) :
    TupleInv ((t.eraseTrafficItem (t.tupId u)).eraseTuple r e) where
  ids := h.ids.of_same (Nat.le_refl _) rfl rfl rfl
  pos := h.pos
  own x f v hv := by
    simp only [TreeShape.eraseTuple, TreeShape.eraseTrafficItem] at hv
    split at hv
    · cases hv
    · rename_i hx
      obtain ⟨htuple, hlisted, hlt, hpos, hsock, hproc, happ⟩ := h.own x f v hv
      refine ⟨⟨htuple.parent, htuple.itemId, htuple.endpoint⟩, ?_, hlt, hpos, hsock, hproc, happ⟩
      have hown := (h.own r e u hu).tuple
      have hne : v ≠ t.tupId u := by
        rw [hown.itemId]
        rintro rfl
        exact hx ⟨htuple.parent.symm.trans hown.parent, htuple.endpoint.symm.trans hown.endpoint⟩
      simp only [TreeShape.eraseTuple, TreeShape.eraseTrafficItem, Function.update_of_ne hne]
      exact hlisted
  traffic x v := by
    have hold := h.traffic x v
    have hend := fun f hf => (h.own x f v hf).tuple.endpoint
    simp only [TreeShape.eraseTuple, TreeShape.eraseTrafficItem, Function.update_apply]
    grind
  nodup x := by
    simp only [TreeShape.eraseTuple, TreeShape.eraseTrafficItem, Function.update_apply]
    split
    · exact (h.nodup r).filter _
    · exact h.nodup x

theorem addSocket (h : TupleInv t) (c : SocketCookie) (p : Ref) : TupleInv (t.addSocket c p) where
  ids := h.ids.addSocket c p
  pos := Nat.succ_pos _
  own x e u hu := by
    simp only [TreeShape.addSocket] at hu
    split at hu
    · cases hu
    · obtain ⟨htuple, hlisted, hlt, hpos, hsock, hproc, happ⟩ := h.own x e u hu
      have hne : u ≠ t.next := hlt.ne
      refine ⟨⟨htuple.parent, htuple.itemId, htuple.endpoint⟩, ?_, Nat.lt_succ_of_lt hlt, hpos, ?_,
        hproc, happ⟩ <;> simp only [TreeShape.addSocket, Function.update_of_ne hne]
      · exact hlisted
      · exact hsock
  traffic x u := by
    have hold := h.traffic x u
    simp only [TreeShape.addSocket, Function.update_apply]
    grind
  nodup x := by
    simp only [TreeShape.addSocket, Function.update_apply]
    split
    · exact List.nodup_nil
    · exact h.nodup x

theorem registerApp (h : TupleInv t) (key : String) (a : Ref) : TupleInv (t.registerApp key a) := by
  refine h.of_items (h.ids.of_same (Nat.le_refl _) rfl rfl rfl) (Nat.le_refl _) rfl rfl
    ⟨rfl, rfl, rfl⟩ fun r e u hu hold => ⟨?_, rfl, rfl, rfl⟩
  simp only [TreeShape.registerApp, Function.update_apply]
  split
  · exact Option.some_ne_none _
  · exact hold.listed

theorem addApp (h : TupleInv t) (key : String) : TupleInv (t.addApp key) := by
  refine h.of_items (h.ids.addApp key) (Nat.le_succ _) rfl rfl ⟨rfl, rfl, rfl⟩
    fun r e u hu hold => ⟨?_, rfl, rfl, ?_⟩
  · simp only [TreeShape.addApp, TreeShape.registerApp, Function.update_of_ne hold.lt.ne]
    exact hold.listed
  · simp only [TreeShape.addApp, TreeShape.registerApp, Function.update_of_ne hold.lt.ne]

theorem addProcess (h : TupleInv t) (pid : ProcessId) (a : Ref) : TupleInv (t.addProcess pid a) := by
  refine h.of_items (h.ids.addProcess pid a) (Nat.le_succ _) rfl rfl ⟨rfl, rfl, rfl⟩
    fun r e u hu hold => ⟨?_, rfl, ?_, rfl⟩
  · simp only [TreeShape.addProcess, Function.update_of_ne hold.lt.ne]
    exact hold.listed
  · simp only [TreeShape.addProcess, Function.update_of_ne hold.lt.ne]

end TupleInv

end TreeShape

/-! ## Outside of the cleanup -/

/-- A change that is none of the cleanup's. -/
def Change.NotCleanup : Change → Prop
  | .eraseTrafficItem _ => False
  | .clearTupleCounters _ => False
  | .clearTupleItems _ => False
  | .eraseSocket _ => False
  | .eraseProcessSocket .. => False
  | .eraseAppProcess .. => False
  | .eraseProcess _ => False
  | .eraseTuple .. => False
  | .eraseApp _ => False
  | _ => True

def Action.NotCleanup : Action → Prop
  | .change m => m.NotCleanup
  | _ => True

theorem Action.Maps.notCleanup {a : Action} (ha : a.Maps) : a.NotCleanup := by
  cases a with
  | change m => cases m <;> trivial
  | _ => trivial

/-- **Every other change keeps the invariant.** -/
theorem TreeShape.TupleInv.change {m : Change} {t : CounterTree} (h : t.shape.TupleInv)
    (hm : m.Proper t) (hnot : m.NotCleanup) : (m.apply t).shape.TupleInv := by
  rw [Change.shape_apply hm]
  have hids := h.ids.onShape m
  cases m with
  | addTuple now r e => exact h.addTuple hm
  | addSocket now c p => exact h.addSocket c p
  | addProcess now pid a => exact h.addProcess pid a
  | addApp now key commandLine appName => exact h.addApp key
  | registerApp key a => exact h.registerApp key a
  | upgradeApp existingKey key commandLine appName a =>
    exact h.of_items hids (Nat.le_refl _) rfl rfl ⟨rfl, rfl, rfl⟩
      fun r e u hu hold => ⟨hold.listed, rfl, rfl, rfl⟩
  | attachSocket r p =>
    exact h.of_items hids (Nat.le_refl _) rfl rfl ⟨rfl, rfl, rfl⟩
      fun r e u hu hold => ⟨hold.listed, rfl, rfl, rfl⟩
  | forgetOrphan e =>
    exact h.of_items hids (Nat.le_refl _) rfl rfl ⟨rfl, rfl, rfl⟩
      fun r e u hu hold => ⟨hold.listed, rfl, rfl, rfl⟩
  | orphan e r =>
    exact h.of_items hids (Nat.le_refl _) rfl rfl ⟨rfl, rfl, rfl⟩
      fun r e u hu hold => ⟨hold.listed, rfl, rfl, rfl⟩
  | takeItemId =>
    exact h.of_items hids (Nat.le_succ _) rfl rfl ⟨rfl, rfl, rfl⟩
      fun r e u hu hold => ⟨hold.listed, rfl, rfl, rfl⟩
  | dropSynthetic p existing =>
    have herased := h.eraseTrafficItem (i := t.shape.sockId existing.2) (.inl ⟨existing.2, rfl⟩)
    exact herased.of_items hids (Nat.le_refl _) rfl rfl ⟨rfl, rfl, rfl⟩
      fun r e u hu hold => ⟨hold.listed, rfl, rfl, rfl⟩
  | editSocket r f => exact h
  | _ => exact hnot.elim

namespace SystemMap

variable {σ : Type} {h : Handler σ} {s s' : SystemMap σ}

theorem Does.tupleInv {C : CounterId → CounterCall → Prop} (hdoes : Does h C Action.NotCleanup s s')
    (hs : s.shape.TupleInv) : s'.shape.TupleInv := by
  refine hdoes.keeps (I := fun s => s.shape.TupleInv) (fun _ _ hs => hs)
    (fun who c s _ hs => ?_) (fun _ _ _ hs => hs) (fun m s hm hK hs => hs.change hm hK) hs
  rw [shape_call]
  exact hs

/-- **Every operation but the cleanup keeps the invariant.** -/
theorem does_notCleanup (s : SystemMap σ) (op : SystemMapOp)
    (hop : ∀ env, op ≠ .refreshAllTrafficCounters env) :
    Does h (fun _ _ => True) Action.NotCleanup s (step h s op) := by
  have hmaps : ∀ a : Action, a.Maps → a.NotCleanup := fun _ => Action.Maps.notCleanup
  cases op with
  | mapSocket env cookie established pid silentFail =>
    exact does_mapSocket hmaps env cookie established pid silentFail s
  | mapSocketFromTrafficEvent env cookie d header =>
    exact does_mapSocketFromTrafficEvent hmaps env cookie d header s fun _ _ _ => trivial
  | addExistingSockets env isProcessRunning listeningSockets =>
    exact does_addExistingSockets hmaps env isProcessRunning (fun _ _ => trivial) listeningSockets s
  | processInitialApps o => exact does_processInitialApps o s
  | processSocketEvent event r =>
    simp only [step]
    split
    · exact does_processSocketEvent event r (fun _ => trivial) (fun _ => trivial) s
    · exact .refl s
  | mergeSyntheticSocket o r =>
    simp only [step]
    split
    · exact does_mergeSyntheticSocket o r (fun _ => trivial) (fun _ _ => trivial)
        (fun _ => trivial) s
    · exact .refl s
  | markSocketForRemoval o now cookie localPort =>
    exact does_markSocketForRemoval (fun _ _ _ => trivial) o now cookie localPort
      (fun _ _ _ _ => ⟨trivial, trivial⟩) (fun _ _ => trivial) fun _ => trivial
  | reparentAcceptedSocket r =>
    simp only [step]
    split
    · rename_i hr
      exact does_reparentAcceptedSocket hr fun _ => trivial
    · exact .refl s
  | reparentOrphanedSocket now endpoint pid =>
    exact does_reparentOrphanedSocket hmaps (fun _ => trivial) (fun _ _ => trivial)
      (fun _ _ => trivial) now endpoint pid s
  | pushIncomingTraffic env cookie bytes header =>
    exact does_pushIncomingTraffic (fun _ _ _ => trivial) env cookie bytes header
      (fun _ _ => ⟨trivial, trivial⟩) (fun _ _ => ⟨fun _ => trivial, fun _ => trivial⟩)
      fun _ => trivial
  | pushOutgoingTraffic env cookie bytes header =>
    exact does_pushOutgoingTraffic (fun _ _ _ => trivial) env cookie bytes header hmaps
      (fun _ _ => ⟨trivial, trivial⟩) (fun _ _ => ⟨fun _ => trivial, fun _ => trivial⟩)
      fun _ => trivial
  | refreshAllTrafficCounters env => exact absurd rfl (hop env)
  | takeItemId => exact does_change .takeItemId trivial trivial

end SystemMap

/-! ## The cleanup -/

/-- A counter that is marked at a time is not due at that time, if it was not before. -/
theorem TrafficCounter.dueForRemoval_of_mark {T : Type} [IsTrafficItem T] {c : TrafficCounter T}
    {now : Msec} (h : (c.markForRemoval now).dueForRemoval now = true) :
    c.dueForRemoval now = true := by
  unfold markForRemoval at h
  split at h
  · exact h
  · have hdue : now + removalTimeWindow ≤ now := (of_decide_eq_true h).2
    exact absurd hdue (not_le.mpr (lt_add_of_pos_right now (by decide)))

namespace TreeShape

/-- What a process holds under a key is in `Sockets` under it, or neither has tuples. -/
def HeldRight (t : TreeShape) (k : SocketCookie) (r : Ref) : Prop :=
  t.socks k = some r ∨ t.sockTraffic r = [] ∧ ∀ q, t.socks k = some q → t.sockTraffic q = []

/-- Another socket that is dropped leaves it so. -/
theorem HeldRight.drop {t t' : TreeShape} {k k' : SocketCookie} {r r' : Ref} (hk : t.HeldRight k r)
    (h : t.HeldRight k' r') (hsocks : t'.socks = Function.update t.socks k none)
    (htraffic : ∀ q, t'.sockTraffic q = t.sockTraffic q ∨ t'.sockTraffic q = [])
    (hr : t'.sockTraffic r = []) : t'.HeldRight k' r' := by
  have hempty : ∀ {q}, t.sockTraffic q = [] → t'.sockTraffic q = [] := by
    intro q hq
    exact (htraffic q).elim (fun heq => heq.trans hq) id
  unfold HeldRight
  simp only [hsocks, Function.update_apply]
  by_cases hkk : k' = k
  · -- nothing is under the key any more
    subst hkk
    refine .inr ⟨?_, fun q hq => ?_⟩
    · rcases h with hr' | ⟨hr', -⟩
      · rcases hk with hr'' | ⟨-, hall⟩
        · rw [hr''] at hr'
          exact Option.some.inj hr' ▸ hr
        · exact hempty (hall r' hr')
      · exact hempty hr'
    · rw [if_pos rfl] at hq
      exact nomatch hq
  · simp only [if_neg hkk]
    exact h.imp id fun ⟨hr', hall⟩ => ⟨hempty hr', fun q hq => hempty (hall q hq)⟩

/-- The invariant while processes are removed: what the removed ones hold is held right. -/
structure Cleaning (held : SocketCookie → Ref → Prop) (t t₀ : TreeShape) : Prop where
  inv : t.TupleInv
  procSocks : t.procSocks = t₀.procSocks
  right : ∀ k r, held k r → t.HeldRight k r

end TreeShape

namespace SystemMap

variable {σ : Type} {h : Handler σ} {held : SocketCookie → Ref → Prop} {t₀ : TreeShape}

/-- **A held socket is dropped.** -/
theorem cleaning_dropProcessSocket (env : TickEnv) {acc : List Endpoint × SystemMap σ}
    (hacc : acc.2.shape.Cleaning held t₀) {k : SocketCookie} {r : Ref} (hheld : held k r) :
    (dropProcessSocket h env acc (k, r)).2.shape.Cleaning held t₀ := by
  have hright := hacc.right k r hheld
  cases hsock : acc.2.shape.socks k with
  | none =>
    have herased := hacc.inv.eraseTrafficItem (i := acc.2.shape.sockId r) (.inl ⟨r, rfl⟩)
    have hempty : acc.2.shape.sockTraffic r = [] := by
      rcases hright with hr | ⟨hr, -⟩
      · exact nomatch hsock.symm.trans hr
      · exact hr
    have htraffic : Function.update acc.2.shape.sockTraffic r [] = acc.2.shape.sockTraffic :=
      Function.update_eq_self_iff.mpr hempty.symm
    rw [shape_dropProcessSocket_none env acc r hsock]
    refine ⟨?_, hacc.procSocks, fun k' r' h' => ?_⟩
    · exact herased.of_items (herased.ids.of_same (Nat.le_refl _) rfl rfl rfl) (Nat.le_refl _) rfl
        htraffic ⟨rfl, rfl, rfl⟩ fun x e u hu hold => ⟨hold.listed, rfl, rfl, rfl⟩
    · exact hright.drop (hacc.right k' r' h') rfl (fun q => .inl (congrFun htraffic q))
        (Function.update_self ..)
  | some q =>
    have hqr : q = r ∨ acc.2.shape.sockTraffic q = [] ∧ acc.2.shape.sockTraffic r = [] := by
      rcases hright with hr | ⟨hr, hall⟩
      · exact .inl (Option.some.inj (hsock.symm.trans hr))
      · exact .inr ⟨hall q hsock, hr⟩
    have herased := hacc.inv.eraseTrafficItem (i := acc.2.shape.sockId r) (.inl ⟨r, rfl⟩)
    have htuples := isTuplesOf_values env.order acc.2 q
    have hdropped := herased.dropTuples htuples hqr
    have htraffic : ∀ x, Function.update acc.2.shape.sockTraffic r [] x = acc.2.shape.sockTraffic x ∨
        Function.update acc.2.shape.sockTraffic r [] x = [] := by
      intro x
      rw [Function.update_apply]
      split
      · exact .inr rfl
      · exact .inl rfl
    have hinv : (((((acc.2.shape.eraseTrafficItem (acc.2.shape.sockId r)).eraseTrafficItems
        ((env.order.values (acc.2.socket q).udpPerConnectionCounters).map
          acc.2.shape.tupId)).clearTupleCounters q).clearTupleItems r).eraseSocket k).TupleInv :=
      hdropped.of_items (hdropped.ids.of_same (Nat.le_refl _) rfl rfl rfl) (Nat.le_refl _) rfl rfl
        ⟨rfl, rfl, rfl⟩ fun x e u hu hold => ⟨hold.listed, rfl, rfl, rfl⟩
    rcases shape_dropProcessSocket (h := h) env acc (r := r) hsock with hout | ⟨e, hout⟩
    · rw [hout]
      exact ⟨hinv, hacc.procSocks, fun k' r' h' => hright.drop (hacc.right k' r' h') rfl htraffic
        (Function.update_self ..)⟩
    · rw [hout]
      refine ⟨?_, hacc.procSocks, fun k' r' h' => hright.drop (hacc.right k' r' h') rfl htraffic
        (Function.update_self ..)⟩
      exact hinv.of_items (hinv.ids.of_same (Nat.le_refl _) rfl rfl rfl) (Nat.le_refl _) rfl rfl
        ⟨rfl, rfl, rfl⟩ fun x e u hu hold => ⟨hold.listed, rfl, rfl, rfl⟩

/-- **A process is removed.** -/
theorem cleaning_removeProcess (env : TickEnv) {s : SystemMap σ} (hs : s.shape.Cleaning held t₀)
    (pid : ProcessId) {p : Ref} (hheld : ∀ k r, t₀.procSocks p k = some r → held k r) :
    (removeProcess h env pid p s).shape.Cleaning held t₀ := by
  have hdropped : (droppedSockets h env p s).2.shape.Cleaning held t₀ := by
    unfold droppedSockets
    set s₁ := call h (.app (s.process p).parentApp) (.pushIncomingTraffic 0)
      (call h .system (.pushIncomingTraffic 0) s) with hs₁
    have hshape : s₁.shape = s.shape := by
      rw [hs₁, shape_call, shape_call]
    refine List.foldlRecOn
      (motive := fun acc : List Endpoint × SystemMap σ => acc.2.shape.Cleaning held t₀)
      (env.order.entries (s₁.process p).trafficItem.sockets) (dropProcessSocket h env)
      (hshape.symm ▸ hs) fun acc hacc (k, r) hentry => cleaning_dropProcessSocket env hacc (hheld k r ?_)
    rw [← hs.procSocks, ← hshape]
    exact (env.order.mem_entries _ k r).mp hentry
  set t := (droppedSockets h env p s).2.shape
  have herased := hdropped.inv.eraseTrafficItem (i := t.procId p) (.inr (.inl ⟨p, rfl⟩))
  rw [shape_removeProcess]
  refine ⟨?_, hdropped.procSocks, hdropped.right⟩
  exact herased.of_items (herased.ids.of_same (Nat.le_refl _) rfl rfl rfl) (Nat.le_refl _) rfl rfl
    ⟨rfl, rfl, rfl⟩ fun x e u hu hold => ⟨hold.listed, rfl, rfl, rfl⟩

/-- The calls of the loop over the processes. -/
def MarksProcess (env : TickEnv) (who : CounterId) (c : CounterCall) : Prop :=
  ∀ p, who = .process p → c = .markForRemoval (env.cleanupTime (.process p))

/-- The process is due for removal at the tick. -/
def IsDue (env : TickEnv) (s : SystemMap σ) (p : Ref) : Prop :=
  (s.process p).dueForRemoval (env.cleanupTime (.process p)) = true

/-- **A process that is due was due before the loop came to it.** One that is marked in its turn has
its time before it. -/
theorem Does.isDue {env : TickEnv} {s s' : SystemMap σ}
    (hdoes : Does h (MarksProcess env) Action.Drops s s') {p : Ref} (hdue : IsDue env s' p) :
    IsDue env s p := by
  have hkeeps := hdoes.keeps (I := fun x => IsDue env x p → IsDue env s p) (fun _ _ hI => hI)
    (fun who c x hwho hI hx => hI ?_) (fun _ _ _ hI => hI) (fun m x _ hm hI hx => hI ?_) id
  · exact hkeeps hdue
  · cases who with
    | process q =>
      obtain rfl := hwho q rfl
      have hprocess : (SystemMap.call h (.process q)
          (.markForRemoval (env.cleanupTime (.process q))) x).process p = if p = q then { x.process q with
            toTrafficCounter := (x.process q).markForRemoval (env.cleanupTime (.process q)) }
          else x.process p := Function.update_apply ..
      unfold IsDue at hx ⊢
      rw [hprocess] at hx
      split at hx
      · rename_i hpq
        subst hpq
        exact TrafficCounter.dueForRemoval_of_mark hx
      · exact hx
    | _ => exact hx
  · cases m with
    | eraseProcessSocket q c =>
      have hprocess : (modify (Change.eraseProcessSocket q c).apply x).process p =
          if p = q then { x.process q with
            trafficItem := { (x.process q).trafficItem with
              sockets := (x.process q).trafficItem.sockets.erase c } }
          else x.process p := Function.update_apply ..
      unfold IsDue at hx ⊢
      rw [hprocess] at hx
      split at hx
      · rename_i hpq
        exact hpq ▸ hx
      · exact hx
    | _ => first | exact hx | exact hm.elim

/-- What the processes hold that are due. -/
def DueHolds (env : TickEnv) (s : SystemMap σ) (k : SocketCookie) (r : Ref) : Prop :=
  ∃ pid p, s.processes.lookup pid = some p ∧ IsDue env s p ∧ s.shape.procSocks p k = some r

/-- **The processes are cleaned up.** -/
theorem tupleInv_cleanedProcesses (env : TickEnv) {s : SystemMap σ} (hs : s.shape.TupleInv)
    (hright : ∀ k r, DueHolds env s k r → s.shape.HeldRight k r) :
    ((env.order.entries s.processes).foldl (cleanupProcess h env) s).shape.TupleInv := by
  have hloop := List.foldlRecOn (motive := fun s' : SystemMap σ =>
      s'.shape.Cleaning (DueHolds env s) s.shape ∧ Does h (MarksProcess env) Action.Drops s s')
    (env.order.entries s.processes) (cleanupProcess h env) ⟨⟨hs, rfl, hright⟩, .refl s⟩
    fun s' ⟨hclean, hdoes⟩ entry hentry => ?_
  · exact hloop.1.inv
  · obtain ⟨pid, p⟩ := entry
    have hp := (env.order.mem_entries _ pid p).mp hentry
    have hturn : Does h (MarksProcess env) Action.Drops s' (cleanupProcess h env s' (pid, p)) :=
      does_cleanupProcess env (fun _ => id) (fun _ _ habove q hq => (hq ▸ habove).elim) (pid, p)
        (fun q hq => CounterId.process.inj hq ▸ rfl) s'
    refine ⟨?_, hdoes.trans hturn⟩
    unfold cleanupProcess at hturn ⊢
    simp only at hturn ⊢
    set s₁ := if !env.isProcessRunning pid ∧ !(s'.process p).isMarkedForRemoval then
        markItemForRemoval (s'.process p).trafficItem.itemId
          (call h (.process p) (.markForRemoval (env.cleanupTime (.process p))) s')
      else s' with hs₁
    have hshape : s₁.shape = s'.shape := by
      rw [hs₁]
      split
      · rw [shape_markItemForRemoval, shape_call]
      · rfl
    have hmark : Does h (MarksProcess env) Action.Drops s' s₁ := by
      rw [hs₁]
      split
      · exact (does_call (fun q hq => CounterId.process.inj hq ▸ rfl) s').record
          (.markItemForRemoval _) ⟨_, .inl rfl⟩
      · exact .refl s'
    split
    · rename_i hdue
      refine cleaning_removeProcess env (hshape.symm ▸ hclean) pid fun k r hk => ?_
      exact ⟨pid, p, hp, (hdoes.trans hmark).isDue hdue, hk⟩
    · exact hshape.symm ▸ hclean

/-- **The sockets are cleaned up.** -/
theorem tupleInv_cleanupSocket (env : TickEnv) {s : SystemMap σ} (hs : s.shape.TupleInv)
    (entry : SocketCookie × Ref) : (cleanupSocket h env s entry).shape.TupleInv := by
  obtain ⟨c, r⟩ := entry
  unfold cleanupSocket
  simp only
  split
  · have herased := hs.eraseTrafficItem (i := s.shape.sockId r) (.inl ⟨r, rfl⟩)
    have hdropped := herased.dropTuples (isTuplesOf_values env.order s r) (.inl rfl)
    rw [shape_removeSocket]
    exact hdropped.of_items (hdropped.ids.of_same (Nat.le_refl _) rfl rfl rfl) (Nat.le_refl _) rfl rfl
      ⟨rfl, rfl, rfl⟩ fun x e u hu hold => ⟨hold.listed, rfl, rfl, rfl⟩
  · set s₁ := if isStaleSocket env r s.toCounterTree then
        call h (.socket r) (.markForRemoval (env.cleanupTime (.socket r))) s
      else s with hs₁
    have hshape : s₁.shape = s.shape := by
      rw [hs₁]
      split
      · rw [shape_call]
      · rfl
    refine foldl_entries (fun s' : SystemMap σ => s'.shape.TupleInv)
      (fun s' e => s'.shape.sockTuples r e) (SystemMap.cleanupTuple h env r)
      (env.order.entries (s₁.socket r).udpPerConnectionCounters) (s := s₁)
      (fun s' e u _ hI hu => ?_) (env.order.nodup_entries _) (env.order.lookup_of_mem_entries _)
      (hshape.symm ▸ hs)
    rw [shape_cleanupTuple]
    split
    · refine ⟨hI.eraseTuple hu, fun f hf => ?_⟩
      simp only [TreeShape.eraseTuple, TreeShape.eraseTrafficItem, true_and, if_neg hf]
    · exact ⟨hI, fun _ _ => rfl⟩

theorem tupleInv_cleanupApp {s : SystemMap σ} (hs : s.shape.TupleInv) (entry : String × Ref) :
    (cleanupApp s entry).shape.TupleInv := by
  rcases shape_cleanupApp entry.1 entry.2 s with ⟨-, hout⟩ | hout
  · have herased := hs.eraseTrafficItem (i := s.shape.appId entry.2) (.inr (.inr ⟨entry.2, rfl⟩))
    rw [hout]
    exact herased.of_items (herased.ids.of_same (Nat.le_refl _) rfl rfl rfl) (Nat.le_refl _) rfl rfl
      ⟨rfl, rfl, rfl⟩ fun x e u hu hold => ⟨hold.listed, rfl, rfl, rfl⟩
  · rw [hout]
    exact hs

/-- **A tick keeps the invariant** when what the removed processes hold is held right. -/
theorem tupleInv_refreshAllTrafficCounters (env : TickEnv) {s : SystemMap σ}
    (hs : s.shape.TupleInv)
    (hright : ∀ k r, DueHolds env (refreshCounters h env s) k r → s.shape.HeldRight k r) :
    (refreshAllTrafficCounters h env s).shape.TupleInv := by
  have hshape := shape_refreshCounters (h := h) env s
  have hprocesses := tupleInv_cleanedProcesses (h := h) env (s := refreshCounters h env s)
    (hshape.symm ▸ hs) fun k r hk => hshape.symm ▸ hright k r hk
  have hsockets := List.foldlRecOn (motive := fun s : SystemMap σ => s.shape.TupleInv)
    (env.order.entries ((env.order.entries (refreshCounters h env s).processes).foldl
      (cleanupProcess h env) (refreshCounters h env s)).sockets) (cleanupSocket h env) hprocesses
    fun s hs entry _ => tupleInv_cleanupSocket env hs entry
  exact List.foldlRecOn (motive := fun s : SystemMap σ => s.shape.TupleInv) _ cleanupApp hsockets
    fun s hs entry _ => tupleInv_cleanupApp hs entry

/-- The counters and the items of the tuples of each socket in `Sockets` match. -/
def TuplesMatch (s : SystemMap σ) : Prop :=
  ∀ c r, s.sockets.lookup c = some r → s.shape.TuplesMatch r

/-- The condition on a step: what a process that is due for removal holds is in `Sockets` under the
same key, or has no tuples, nor has what is in `Sockets` under that key. -/
def KeepsTuples (h : Handler σ) (s : SystemMap σ) : SystemMapOp → Prop
  | .refreshAllTrafficCounters env =>
    ∀ k r, DueHolds env (refreshCounters h env s) k r → s.shape.HeldRight k r
  | _ => True

/-- **One step keeps the invariant.** -/
theorem tupleInv_step {s : SystemMap σ} (hs : s.shape.TupleInv) (op : SystemMapOp)
    (hop : KeepsTuples h s op) : (step h s op).shape.TupleInv := by
  cases op with
  | refreshAllTrafficCounters env => exact tupleInv_refreshAllTrafficCounters env hs hop
  | _ => exact (does_notCleanup s _ fun env h => by cases h).tupleInv hs

theorem tupleInv_init (now : Msec) (hostName : String) (listeners : σ) :
    (init now hostName listeners).shape.TupleInv := by
  refine ⟨⟨fun r h => absurd rfl h, fun r h => absurd rfl h, fun r h => absurd rfl h⟩,
    Nat.zero_lt_succ _, fun r e u hu => ?_, fun r u => ?_, fun r => List.nodup_nil⟩
  · cases hu
  · refine iff_of_false List.not_mem_nil fun ⟨e, he⟩ => ?_
    cases he

/-- **The tuples of every socket always match** in a run whose ticks meet the condition. -/
theorem always_tuplesMatch (h : Handler σ) (now : Msec) (hostName : String) (listeners : σ)
    (ops : List SystemMapOp)
    (hops : AllSteps (step h) (KeepsTuples h) (init now hostName listeners) ops) :
    Always (step h) TuplesMatch (init now hostName listeners) ops := by
  refine always_of_allSteps (I := fun s => s.shape.TupleInv)
    (fun s hs c r _ => hs.tuplesMatch r) (fun s op hs hop => tupleInv_step hs op hop) ops
    (tupleInv_init now hostName listeners) hops

/-! ### A forked socket -/

/-- A machine whose clock shows `now`, and no process is running. -/
def stoppedAt (now : Msec) : TickEnv := { tickAt now with isProcessRunning := fun _ => false }

/-- A datagram from 10.0.0.1, port 4000, to a name server. -/
def nameQuery : PacketHeader :=
  { src := { address := .ipv4 (quad 10 0 0 1), port := 4000 }
    dst := { address := .ipv4 (quad 10 0 0 2), port := 53 }
    l4Proto := .udp }

/-- Process 7 sends a datagram. -/
def sends : List SystemMapOp :=
  [.mapSocket quietTraffic.toMapEnv 9 false 7 false,
   .pushOutgoingTraffic quietTraffic 9 100 (some nameQuery)]

/-- It exits, and its socket belongs to process 8, which sends a datagram and exits. -/
def forked : List SystemMapOp :=
  [.refreshAllTrafficCounters (stoppedAt 0), .refreshAllTrafficCounters (stoppedAt 5000),
   .reparentOrphanedSocket 5000 nameQuery.src 8,
   .pushOutgoingTraffic quietTraffic 9 100 (some nameQuery),
   .refreshAllTrafficCounters (stoppedAt 6000), .refreshAllTrafficCounters (stoppedAt 11000)]

theorem lookup_shape {s : SystemMap σ} {c : SocketCookie} {r : Ref}
    (hr : s.sockets.lookup c = some r) : s.shape.socks c = some r := hr

/-- A socket with a counter and no item. -/
theorem not_tuplesMatch {s : SystemMap σ} {r u : Ref} {e : Endpoint}
    (hitems : (s.socket r).trafficItem.udpPerConnectionTraffic = [])
    (hcounter : (s.socket r).udpPerConnectionCounters.lookup e = some u) :
    ¬s.shape.TuplesMatch r := by
  intro hmatch
  have hmem : u ∈ (s.socket r).trafficItem.udpPerConnectionTraffic := (hmatch.item e u hcounter).1
  rw [hitems] at hmem
  exact absurd hmem List.not_mem_nil

/-- The daemon alone. -/
def alone : SystemMap Unit := init 0 "host" ()

/-- The process holds its socket under its cookie. -/
theorem always_tuplesMatch_sends :
    Always (step fun _ _ (u : Unit) => u) TuplesMatch alone
      (sends ++ forked.take 2) := by
  have hheld : ∀ {env : TickEnv} {s : SystemMap Unit}, s.processes.entries = [⟨7, 5⟩] →
      (s.process 5).trafficItem.sockets.entries = [⟨9, 6⟩] →
      ∀ k r, DueHolds env s k r → k = 9 ∧ r = 6 := by
    rintro env s hprocesses hsockets k r ⟨pid, p, hp, -, hk⟩
    obtain ⟨-, rfl⟩ := UMap.lookup_single hprocesses hp
    exact UMap.lookup_single hsockets hk
  refine always_tuplesMatch _ 0 "host" () _ ⟨trivial, trivial, fun k r hk => ?_, fun k r hk => ?_,
    trivial⟩
  · obtain ⟨rfl, rfl⟩ := hheld (by decide +kernel) (by decide +kernel) k r hk
    exact .inl (lookup_shape (by decide +kernel))
  · obtain ⟨rfl, rfl⟩ := hheld (by decide +kernel) (by decide +kernel) k r hk
    exact .inl (lookup_shape (by decide +kernel))

/-- The daemon after the second process has exited. -/
def leftOver : SystemMap Unit := run (step fun _ _ (u : Unit) => u) alone (sends ++ forked)

/-- **The counter of the second datagram stays and its item is gone.** -/
theorem tuplesMatch_fails : ¬∀ ops : List SystemMapOp,
    Always (step fun _ _ (u : Unit) => u) TuplesMatch alone ops := by
  intro hall
  have hmatch : leftOver.TuplesMatch := (hall (sends ++ forked)).last
  have hsocket : leftOver.sockets.lookup 9 = some 6 := by decide +kernel
  have hitems : (leftOver.socket 6).trafficItem.udpPerConnectionTraffic = [] := by decide +kernel
  have hcounter : (leftOver.socket 6).udpPerConnectionCounters.lookup nameQuery.dst = some 9 := by
    decide +kernel
  exact not_tuplesMatch hitems hcounter (hmatch 9 6 hsocket)

end SystemMap

end Waechter
