import Waechter.Daemon.ItemTree
import Waechter.Daemon.Marks
import Waechter.Daemon.Tuples

/-!
# What leaves the tree

What the cleanup of `WSystemMap` (`Daemon/Data/SystemMap.cpp`) takes out of the tree of items and
out of `TrafficItems`, against the ids it records with `AddItemRemoval`.

* `Told`: what leaves from one shape to the next is in a list of ids, with a lemma for each change.
* `Within`: cleaning up puts nothing anywhere.
* `tells_removeProcess`, `tells_removeSocket`, `tells_cleanupTuple`, `tells_cleanupApp`: what each
  kind of removal records covers what leaves.
-/

namespace Waechter

open Lib

namespace TreeShape

variable {t t' t'' : TreeShape} {E : Ref → Prop} {l l' : List TrafficItemId}

/-! ## What leaves and is told -/

/-- What leaves the tree and the maps from one shape to the next is in the list. The sockets of `E`
may lose tuples beside it. -/
structure Told (E : Ref → Prop) (l : List TrafficItemId) (t t' : TreeShape) : Prop where
  appId : t'.appId = t.appId
  procId : t'.procId = t.procId
  sockId : t'.sockId = t.sockId
  tupId : t'.tupId = t.tupId
  items : ∀ i, t.items i ≠ none → t'.items i ≠ none ∨ i ∈ l
  app : ∀ a, t.HasApp a → t'.HasApp a ∨ t.appId a ∈ l
  process : ∀ p, t.HasProcess p → t'.HasProcess p ∨ t.procId p ∈ l
  socket : ∀ r, t.HasSocket r → t'.HasSocket r ∨ (t.sockId r ∈ l ∧ E r)
  traffic : ∀ r u, t.HasSocket r → u ∈ t.sockTraffic r →
    u ∈ t'.sockTraffic r ∨ t.tupId u ∈ l ∨ E r
  /-- The tuple counters, and the tuple counters of what leaves `Sockets`. -/
  counted : ∀ q e u, t.sockTuples q e = some u → t'.sockTuples q e = some u ∨ t.tupId u ∈ l
  socks : ∀ c q, t.socks c = some q → t'.socks c = some q ∨
    ∀ e u, t.sockTuples q e = some u → t.tupId u ∈ l

namespace Told

theorem refl (t : TreeShape) : Told E [] t t where
  appId := rfl
  procId := rfl
  sockId := rfl
  tupId := rfl
  items _ := .inl
  app _ := .inl
  process _ := .inl
  socket _ := .inl
  traffic _ _ _ := .inl
  counted _ _ _ := .inl
  socks _ _ := .inl

theorem trans (h : Told E l t t') (h' : Told E l' t' t'') : Told E (l ++ l') t t'' where
  appId := h'.appId.trans h.appId
  procId := h'.procId.trans h.procId
  sockId := h'.sockId.trans h.sockId
  tupId := h'.tupId.trans h.tupId
  items i hi := (h.items i hi).elim
    (fun hi' => (h'.items i hi').imp_right (List.mem_append_right l))
    fun hi' => .inr (List.mem_append_left l' hi')
  app a ha := (h.app a ha).elim
    (fun ha' => (h'.app a ha').imp_right fun hl => List.mem_append_right l (h.appId ▸ hl))
    fun hl => .inr (List.mem_append_left l' hl)
  process p hp := (h.process p hp).elim
    (fun hp' => (h'.process p hp').imp_right fun hl => List.mem_append_right l (h.procId ▸ hl))
    fun hl => .inr (List.mem_append_left l' hl)
  socket r hr := (h.socket r hr).elim
    (fun hr' => (h'.socket r hr').imp_right fun hl =>
      ⟨List.mem_append_right l (h.sockId ▸ hl.1), hl.2⟩)
    fun hl => .inr ⟨List.mem_append_left l' hl.1, hl.2⟩
  traffic r u hr hu := by
    rcases h.traffic r u hr hu with hu' | hl | hE
    · rcases h.socket r hr with hr' | hl
      · rcases h'.traffic r u hr' hu' with hu'' | hl | hE
        · exact .inl hu''
        · exact .inr (.inl (List.mem_append_right l (h.tupId ▸ hl)))
        · exact .inr (.inr hE)
      · exact .inr (.inr hl.2)
    · exact .inr (.inl (List.mem_append_left l' hl))
    · exact .inr (.inr hE)
  counted q e u hu := (h.counted q e u hu).elim
    (fun hu' => (h'.counted q e u hu').imp_right fun hl =>
      List.mem_append_right l (h.tupId ▸ hl))
    fun hl => .inr (List.mem_append_left l' hl)
  socks c q hq := by
    rcases h.socks c q hq with hq' | hall
    · rcases h'.socks c q hq' with hq'' | hall
      · exact .inl hq''
      · refine .inr fun e u hu => ?_
        rcases h.counted q e u hu with hu' | hl
        · exact List.mem_append_right l (h.tupId ▸ hall e u hu')
        · exact List.mem_append_left l' hl
    · exact .inr fun e u hu => List.mem_append_left l' (hall e u hu)

/-- **What leaves the tree is in the list**, when the tuples of the sockets of `E` are. -/
theorem inTree (h : Told E l t t')
    (hE : ∀ r, t.HasSocket r → E r → ∀ u, u ∈ t.sockTraffic r → t.tupId u ∈ l)
    {i : TrafficItemId} (hi : t.InTree i) : t'.InTree i ∨ i ∈ l := by
  rcases hi with ⟨a, ha, rfl⟩ | ⟨p, hp, rfl⟩ | ⟨r, hr, rfl⟩ | ⟨u, ⟨r, hr, hu⟩, rfl⟩
  · exact (h.app a ha).imp_left fun ha' => .inl ⟨a, ha', congrFun h.appId a⟩
  · exact (h.process p hp).imp_left fun hp' => .inr (.inl ⟨p, hp', congrFun h.procId p⟩)
  · exact (h.socket r hr).imp (fun hr' => .inr (.inr (.inl ⟨r, hr', congrFun h.sockId r⟩)))
      And.left
  · rcases h.socket r hr with hr' | hl
    · rcases h.traffic r u hr hu with hu' | hl | hE'
      · exact .inl (.inr (.inr (.inr ⟨u, ⟨r, hr', hu'⟩, congrFun h.tupId u⟩)))
      · exact .inr hl
      · exact .inr (hE r hr hE' u hu)
    · exact .inr (hE r hr hl.2 u hu)

theorem mono (h : Told E l t t') (hl : l ⊆ l') : Told E l' t t' where
  appId := h.appId
  procId := h.procId
  sockId := h.sockId
  tupId := h.tupId
  items i hi := (h.items i hi).imp_right fun hi => hl hi
  app a ha := (h.app a ha).imp_right fun ha => hl ha
  process p hp := (h.process p hp).imp_right fun hp => hl hp
  socket r hr := (h.socket r hr).imp_right (And.imp_left fun hr => hl hr)
  traffic r u hr hu := (h.traffic r u hr hu).imp_right (Or.imp_left fun hu => hl hu)
  counted q e u hu := (h.counted q e u hu).imp_right fun hu => hl hu
  socks c q hq := (h.socks c q hq).imp_right fun hall e u hu => hl (hall e u hu)

/-- More sockets may lose tuples. -/
theorem widen (h : Told E l t t') {E' : Ref → Prop} (hE : ∀ r, E r → E' r) : Told E' l t t' :=
  { h with
    socket := fun r hr => (h.socket r hr).imp_right fun hl => ⟨hl.1, hE r hl.2⟩
    traffic := fun r u hr hu => (h.traffic r u hr hu).imp_right (Or.imp_right (hE r)) }

/-- Two steps for one list. -/
theorem seq (h : Told E l t t') (h' : Told E l t' t'') : Told E l t t'' :=
  (h.trans h').mono (List.append_subset.mpr ⟨List.Subset.refl l, List.Subset.refl l⟩)

/-! ### Changes -/

section Changes

attribute [local grind =] Function.update_apply

theorem orphan (e : Endpoint) (r : Ref) (t : TreeShape) : Told E l t (t.orphan e r) :=
  ⟨rfl, rfl, rfl, rfl, fun _ => .inl, fun _ => .inl, fun _ => .inl, fun _ => .inl,
    fun _ _ _ => .inl, fun _ _ _ => .inl, fun _ _ => .inl⟩

theorem eraseTrafficItems {is : List TrafficItemId} (his : is ⊆ l) (t : TreeShape) :
    Told E l t (t.eraseTrafficItems is) := by
  refine ⟨rfl, rfl, rfl, rfl, fun i hi => ?_, fun _ => .inl, fun _ => .inl, fun _ => .inl,
    fun _ _ _ => .inl, fun _ _ _ => .inl, fun _ _ => .inl⟩
  simp only [TreeShape.eraseTrafficItems]
  by_cases hmem : i ∈ is
  · exact .inr (his hmem)
  · rw [if_neg hmem]
    exact .inl hi

theorem eraseTrafficItem {i : TrafficItemId} (hi : i ∈ l) (t : TreeShape) :
    Told E l t (t.eraseTrafficItem i) := by
  refine ⟨rfl, rfl, rfl, rfl, fun j hj => ?_, fun _ => .inl, fun _ => .inl, fun _ => .inl,
    fun _ _ _ => .inl, fun _ _ _ => .inl, fun _ _ => .inl⟩
  simp only [TreeShape.eraseTrafficItem]
  grind

theorem clearTupleCounters {r : Ref}
    (hl : ∀ e u, t.sockTuples r e = some u → t.tupId u ∈ l) :
    Told E l t (t.clearTupleCounters r) := by
  refine ⟨rfl, rfl, rfl, rfl, fun _ => .inl, fun _ => .inl, fun _ => .inl, fun _ => .inl,
    fun _ _ _ => .inl, fun q e u hu => ?_, fun _ _ => .inl⟩
  simp only [TreeShape.clearTupleCounters]
  by_cases hq : q = r
  · exact .inr (hl e u (hq ▸ hu))
  · rw [if_neg hq]
    exact .inl hu

theorem clearTupleItems {r : Ref} (hE : E r) (t : TreeShape) : Told E l t (t.clearTupleItems r) := by
  refine ⟨rfl, rfl, rfl, rfl, fun _ => .inl, fun _ => .inl, fun _ => .inl, fun _ => .inl,
    fun q u _ hu => ?_, fun _ _ _ => .inl, fun _ _ => .inl⟩
  simp only [TreeShape.clearTupleItems]
  grind

theorem eraseSocket {c : SocketCookie}
    (hl : ∀ q, t.socks c = some q → ∀ e u, t.sockTuples q e = some u → t.tupId u ∈ l) :
    Told E l t (t.eraseSocket c) := by
  refine ⟨rfl, rfl, rfl, rfl, fun _ => .inl, fun _ => .inl, fun _ => .inl, fun _ => .inl,
    fun _ _ _ => .inl, fun _ _ _ => .inl, fun d q hq => ?_⟩
  simp only [TreeShape.eraseSocket]
  by_cases hd : d = c
  · exact .inr (hl q (hd ▸ hq))
  · rw [Function.update_of_ne hd]
    exact .inl hq

theorem eraseProcess (pid : ProcessId) (t : TreeShape) : Told E l t (t.eraseProcess pid) :=
  ⟨rfl, rfl, rfl, rfl, fun _ => .inl, fun _ => .inl, fun _ => .inl, fun _ => .inl,
    fun _ _ _ => .inl, fun _ _ _ => .inl, fun _ _ => .inl⟩

theorem eraseProcessSocket {p : Ref} {c : SocketCookie}
    (hl : ∀ r, t.HasProcess p → t.procSocks p c = some r → t.sockId r ∈ l ∧ E r) :
    Told E l t (t.eraseProcessSocket p c) := by
  refine ⟨rfl, rfl, rfl, rfl, fun _ => .inl, fun _ => .inl, fun _ => .inl, fun r hr => ?_,
    fun _ _ _ => .inl, fun _ _ _ => .inl, fun _ _ => .inl⟩
  obtain ⟨q, d, hq, hr⟩ := hr
  by_cases hlost : q = p ∧ d = c
  · obtain ⟨rfl, rfl⟩ := hlost
    exact .inr (hl r hq hr)
  · exact .inl ⟨q, d, hq, (if_neg hlost).trans hr⟩

/-- A process goes with its sockets. -/
theorem eraseAppProcess {a : Ref} {pid : ProcessId}
    (hl : ∀ p, t.appProcs a pid = some p → t.procId p ∈ l ∧
      ∀ c r, t.procSocks p c = some r → t.sockId r ∈ l ∧ E r) :
    Told E l t (t.eraseAppProcess a pid) := by
  have hprocess (p : Ref) (hp : t.HasProcess p) : (t.eraseAppProcess a pid).HasProcess p ∨
      (t.procId p ∈ l ∧ ∀ c r, t.procSocks p c = some r → t.sockId r ∈ l ∧ E r) := by
    obtain ⟨b, q, hb, hp⟩ := hp
    by_cases hlost : b = a ∧ q = pid
    · obtain ⟨rfl, rfl⟩ := hlost
      exact .inr (hl p hp)
    · exact .inl ⟨b, q, hb, (if_neg hlost).trans hp⟩
  refine ⟨rfl, rfl, rfl, rfl, fun _ => .inl, fun _ => .inl,
    fun p hp => (hprocess p hp).imp_right And.left, fun r hr => ?_,
    fun _ _ _ => .inl, fun _ _ _ => .inl, fun _ _ => .inl⟩
  obtain ⟨p, c, hp, hr⟩ := hr
  exact (hprocess p hp).imp (fun hp' => ⟨p, c, hp', hr⟩) fun h => h.2 c r hr

theorem eraseTuple {r : Ref} {e : Endpoint}
    (hl : ∀ u, t.sockTuples r e = some u → t.tupId u ∈ l)
    (htraffic : ∀ u, t.HasSocket r → u ∈ t.sockTraffic r → t.tupEnd u = e → t.tupId u ∈ l) :
    Told E l t (t.eraseTuple r e) := by
  refine ⟨rfl, rfl, rfl, rfl, fun _ => .inl, fun _ => .inl, fun _ => .inl, fun _ => .inl,
    fun q u hq hu => ?_, fun q f u hu => ?_, fun _ _ => .inl⟩
  · simp only [TreeShape.eraseTuple]
    by_cases hqr : q = r
    · subst hqr
      rw [Function.update_self]
      by_cases hend : t.tupEnd u = e
      · exact .inr (.inl (htraffic u hq hu hend))
      · exact .inl (List.mem_filter.mpr ⟨hu, by simp [hend]⟩)
    · rw [Function.update_of_ne hqr]
      exact .inl hu
  · simp only [TreeShape.eraseTuple]
    by_cases hlost : q = r ∧ f = e
    · obtain ⟨rfl, rfl⟩ := hlost
      exact .inr (hl u hu)
    · rw [if_neg hlost]
      exact .inl hu

/-- An application goes when it holds no process. -/
theorem eraseApp {k : String}
    (hl : ∀ a, t.sysApps k = some a → t.appId a ∈ l ∧ ∀ pid, t.appProcs a pid = none) :
    Told E l t (t.eraseApp k) := by
  have happ (a : Ref) (ha : t.HasApp a) : (t.eraseApp k).HasApp a ∨
      (t.appId a ∈ l ∧ ∀ pid, t.appProcs a pid = none) := by
    obtain ⟨d, hd⟩ := ha
    by_cases hlost : d = k
    · exact .inr (hl a (hlost ▸ hd))
    · exact .inl ⟨d, (Function.update_of_ne hlost ..).trans hd⟩
  have hprocess (p : Ref) (hp : t.HasProcess p) : (t.eraseApp k).HasProcess p := by
    obtain ⟨a, pid, ha, hp⟩ := hp
    rcases happ a ha with ha' | ⟨-, hnone⟩
    · exact ⟨a, pid, ha', hp⟩
    · rw [hnone] at hp
      cases hp
  refine ⟨rfl, rfl, rfl, rfl, fun _ => .inl, fun a ha => (happ a ha).imp_right And.left,
    fun p hp => .inl (hprocess p hp), fun r hr => ?_, fun _ _ _ => .inl, fun _ _ _ => .inl,
    fun _ _ => .inl⟩
  obtain ⟨p, c, hp, hr⟩ := hr
  exact .inl ⟨p, c, hprocess p hp, hr⟩

end Changes

end Told

/-! ## What cleaning up leaves -/

/-- The second shape holds nothing that the first one does not. -/
structure Within (t t' : TreeShape) : Prop where
  next : t'.next = t.next
  sysApps : ∀ k a, t'.sysApps k = some a → t.sysApps k = some a
  apps : ∀ k a, t'.apps k = some a → t.apps k = some a
  procs : ∀ pid p, t'.procs pid = some p → t.procs pid = some p
  socks : ∀ c r, t'.socks c = some r → t.socks c = some r
  appProcs : ∀ a pid p, t'.appProcs a pid = some p → t.appProcs a pid = some p
  procSocks : ∀ p c r, t'.procSocks p c = some r → t.procSocks p c = some r
  sockTuples : ∀ r e u, t'.sockTuples r e = some u → t.sockTuples r e = some u
  sockTraffic : ∀ r u, u ∈ t'.sockTraffic r → u ∈ t.sockTraffic r
  procApp : t'.procApp = t.procApp
  sockProc : t'.sockProc = t.sockProc
  sockId : t'.sockId = t.sockId
  procId : t'.procId = t.procId
  tupEnd : t'.tupEnd = t.tupEnd

namespace Within

theorem refl (t : TreeShape) : Within t t :=
  ⟨rfl, fun _ _ => id, fun _ _ => id, fun _ _ => id, fun _ _ => id, fun _ _ _ => id,
    fun _ _ _ => id, fun _ _ _ => id, fun _ _ => id, rfl, rfl, rfl, rfl, rfl⟩

theorem trans (h : Within t t') (h' : Within t' t'') : Within t t'' where
  next := h'.next.trans h.next
  sysApps k a ha := h.sysApps k a (h'.sysApps k a ha)
  apps k a ha := h.apps k a (h'.apps k a ha)
  procs pid p hp := h.procs pid p (h'.procs pid p hp)
  socks c r hr := h.socks c r (h'.socks c r hr)
  appProcs a pid p hp := h.appProcs a pid p (h'.appProcs a pid p hp)
  procSocks p c r hr := h.procSocks p c r (h'.procSocks p c r hr)
  sockTuples r e u hu := h.sockTuples r e u (h'.sockTuples r e u hu)
  sockTraffic r u hu := h.sockTraffic r u (h'.sockTraffic r u hu)
  procApp := h'.procApp.trans h.procApp
  sockProc := h'.sockProc.trans h.sockProc
  sockId := h'.sockId.trans h.sockId
  procId := h'.procId.trans h.procId
  tupEnd := h'.tupEnd.trans h.tupEnd

attribute [local grind =] Function.update_apply

theorem change {m : Change} (hm : m.Drops) (t : TreeShape) : Within t (m.onShape t) := by
  cases m with
  | orphan e r => exact { refl t with }
  | eraseTrafficItem i => exact { refl t with }
  | clearTupleCounters r =>
    refine { refl t with sockTuples := ?_ }
    simp only [Change.onShape, TreeShape.clearTupleCounters]
    grind
  | clearTupleItems r =>
    refine { refl t with sockTraffic := ?_ }
    simp only [Change.onShape, TreeShape.clearTupleItems]
    grind
  | eraseSocket c =>
    refine { refl t with socks := ?_ }
    simp only [Change.onShape, TreeShape.eraseSocket]
    grind
  | eraseProcessSocket p c =>
    refine { refl t with procSocks := ?_ }
    simp only [Change.onShape, TreeShape.eraseProcessSocket]
    grind
  | eraseAppProcess a pid =>
    refine { refl t with appProcs := ?_ }
    simp only [Change.onShape, TreeShape.eraseAppProcess]
    grind
  | eraseProcess pid =>
    refine { refl t with procs := ?_ }
    simp only [Change.onShape, TreeShape.eraseProcess]
    grind
  | eraseTuple r e =>
    refine { refl t with sockTuples := ?_, sockTraffic := ?_ } <;>
      simp only [Change.onShape, TreeShape.eraseTuple]
    · grind
    · grind
  | eraseApp key =>
    refine { refl t with sysApps := ?_, apps := ?_ } <;>
      simp only [Change.onShape, TreeShape.eraseApp]
    · grind
    · grind
  | _ => exact absurd hm id

end Within

end TreeShape

namespace SystemMap

open TreeShape

variable {σ : Type} {h : Handler σ} {C : CounterId → CounterCall → Prop} {K : Action → Prop}
  {s s' s'' : SystemMap σ} {E : Ref → Prop} {l l' : List TrafficItemId}

/-! ## The log -/

/-- From the first state to the second one, these removals are recorded if a client is there. -/
def Logs (s s' : SystemMap σ) (l : List TrafficItemId) : Prop :=
  s'.hasClients = s.hasClients ∧ (s.hasClients = true →
    s'.mapUpdate.removedItems = s.mapUpdate.removedItems ++ l)

namespace Logs

theorem refl (s : SystemMap σ) : Logs s s [] := ⟨rfl, fun _ => (List.append_nil _).symm⟩

/-- What changes neither the log nor who listens. -/
theorem of_same (hlog : s'.mapUpdate.removedItems = s.mapUpdate.removedItems)
    (hclients : s'.hasClients = s.hasClients) : Logs s s' [] :=
  ⟨hclients, fun _ => by rw [hlog, List.append_nil]⟩

theorem trans (hs : Logs s s' l) (hs' : Logs s' s'' l') : Logs s s'' (l ++ l') := by
  refine ⟨hs'.1.trans hs.1, fun hclients => ?_⟩
  rw [hs'.2 (hs.1.trans hclients), hs.2 hclients, List.append_assoc]

/-- A step beside the log. -/
theorem and_then (hs : Logs s s' l) (hs' : Logs s' s'' []) : Logs s s'' l := by
  have hboth := hs.trans hs'
  rwa [List.append_nil] at hboth

/-- One removal is recorded. -/
theorem of_removal {i : TrafficItemId} (hlog : s'.mapUpdate = s.mapUpdate.addItemRemoval s.hasClients i)
    (hclients : s'.hasClients = s.hasClients) : Logs s s' [i] := by
  refine ⟨hclients, fun htrack => ?_⟩
  rw [hlog, htrack]
  rfl

end Logs

/-- From the first state to the second one, what leaves the tree and the maps is recorded. The
sockets of `E` may lose tuples beside it. -/
def TellsRemovals (E : Ref → Prop) (s s' : SystemMap σ) : Prop :=
  ∃ l, Logs s s' l ∧ Told E l s.shape s'.shape

namespace TellsRemovals

theorem refl (s : SystemMap σ) : TellsRemovals E s s := ⟨[], .refl s, .refl _⟩

theorem trans (hs : TellsRemovals E s s') (hs' : TellsRemovals E s' s'') :
    TellsRemovals E s s'' := by
  obtain ⟨l, hlog, htold⟩ := hs
  obtain ⟨l', hlog', htold'⟩ := hs'
  exact ⟨l ++ l', hlog.trans hlog', htold.trans htold'⟩

end TellsRemovals

theorem logs_dropProcessTuples (us : List Ref) (s : SystemMap σ) :
    Logs s (us.foldl (dropProcessTuple h) s) (us.map s.shape.tupId) := by
  induction us generalizing s with
  | nil => exact .refl s
  | cons u us ih =>
    have hturn : Logs s (dropProcessTuple h s u) [s.shape.tupId u] := .of_removal rfl rfl
    have hid : (dropProcessTuple h s u).shape.tupId = s.shape.tupId := by
      simp [dropProcessTuple, TreeShape.eraseTrafficItem]
    have hrest := hturn.trans (ih (dropProcessTuple h s u))
    rw [hid] at hrest
    exact hrest

theorem logs_dropSocketTuples (us : List Ref) (s : SystemMap σ) :
    Logs s (us.foldl dropSocketTuple s) (us.map s.shape.tupId) := by
  induction us generalizing s with
  | nil => exact .refl s
  | cons u us ih =>
    have hturn : Logs s (dropSocketTuple s u) [s.shape.tupId u] := .of_removal rfl rfl
    have hid : (dropSocketTuple s u).shape.tupId = s.shape.tupId := by
      simp [dropSocketTuple, TreeShape.eraseTrafficItem]
    have hrest := hturn.trans (ih (dropSocketTuple s u))
    rw [hid] at hrest
    exact hrest

/-! ## The removal of a process -/

/-- The tuples of the counter under a cookie. -/
def tuplesUnder (env : TickEnv) (c : SocketCookie) (s : SystemMap σ) : List Ref :=
  match s.sockets.lookup c with
  | some q => env.order.values (s.socket q).udpPerConnectionCounters
  | none => []

theorem logs_dropProcessCounter (env : TickEnv) (r counter : Ref)
    (acc : List Endpoint × SystemMap σ) :
    Logs acc.2 (dropProcessCounter h env r counter acc).2
      ((env.order.values (acc.2.socket counter).udpPerConnectionCounters).map
        acc.2.shape.tupId) := by
  unfold dropProcessCounter
  simp only
  split
  · exact (logs_dropProcessTuples (h := h) _ (modify (·.orphan _ counter) acc.2)).and_then
      (.of_same rfl rfl)
  · exact (logs_dropProcessTuples (h := h) _ acc.2).and_then (.of_same rfl rfl)

theorem logs_dropProcessSocket (env : TickEnv) (acc : List Endpoint × SystemMap σ)
    (c : SocketCookie) (r : Ref) :
    Logs acc.2 (dropProcessSocket h env acc (c, r)).2
      (acc.2.shape.sockId r :: (tuplesUnder env c acc.2).map acc.2.shape.tupId) := by
  set s1 := addItemRemoval (acc.2.socket r).trafficItem.itemId
    (modify (·.eraseTrafficItem (acc.2.socket r).trafficItem.itemId) acc.2) with hs1
  have hfirst : Logs acc.2 s1 [acc.2.shape.sockId r] := .of_removal rfl rfl
  have hlook : s1.sockets.lookup c = acc.2.sockets.lookup c := rfl
  have hid : s1.shape.tupId = acc.2.shape.tupId := by
    rw [hs1, shape_addItemRemoval, shape_modify, CounterTree.shape_eraseTrafficItem]
    rfl
  unfold dropProcessSocket tuplesUnder
  simp only [← hs1, hlook]
  cases acc.2.sockets.lookup c with
  | none => exact hfirst.and_then (.of_same rfl rfl)
  | some q =>
    have hcounter := logs_dropProcessCounter (h := h) env r q (acc.1, s1)
    have hcounters : (s1.socket q).udpPerConnectionCounters =
        (acc.2.socket q).udpPerConnectionCounters := rfl
    simp only [hid, hcounters] at hcounter
    exact (hfirst.trans hcounter).and_then (.of_same rfl rfl)

/-- **One turn of the loop over the sockets of a removed process.** -/
theorem told_dropProcessSocket (env : TickEnv) (acc : List Endpoint × SystemMap σ)
    {c : SocketCookie} {r : Ref} (hE : E r) :
    Told E (acc.2.shape.sockId r :: (tuplesUnder env c acc.2).map acc.2.shape.tupId)
      acc.2.shape (dropProcessSocket h env acc (c, r)).2.shape := by
  unfold tuplesUnder
  cases hq : acc.2.sockets.lookup c with
  | none =>
    rw [shape_dropProcessSocket_none env acc r hq]
    refine ((Told.eraseTrafficItem List.mem_cons_self _).seq (.clearTupleItems hE _)).seq
      (.eraseSocket fun q hq' => ?_)
    exact absurd (hq.symm.trans hq') (by simp)
  | some q =>
    have hus := isTuplesOf_values env.order acc.2 q
    have hshape := shape_dropProcessSocket (h := h) env acc (r := r) (q := q) hq
    simp only at hshape ⊢
    generalize env.order.values (acc.2.socket q).udpPerConnectionCounters = us at hus hshape ⊢
    have htold := (((Told.eraseTrafficItem (E := E)
      (l := acc.2.shape.sockId r :: us.map acc.2.shape.tupId) List.mem_cons_self acc.2.shape).seq
      (.eraseTrafficItems (List.subset_cons_self _ _) _)).seq
      (.clearTupleCounters (r := q) fun e u hu => List.mem_cons_of_mem _
        (List.mem_map_of_mem ((hus u).mpr ⟨e, hu⟩)))).seq (.clearTupleItems hE _)
    have hdropped := htold.seq (.eraseSocket (c := c) fun q' hq' e u hu => by
      have hsame : q' = q := Option.some.inj (hq'.symm.trans hq)
      simp only [hsame, TreeShape.clearTupleItems, TreeShape.clearTupleCounters, if_true] at hu
      cases hu)
    rcases hshape with he | ⟨e, he⟩
    · rw [he]
      exact hdropped
    · rw [he]
      exact hdropped.seq (.orphan e q _)

theorem Does.within (hs : Does h C K s s') (hK : ∀ m, K (.change m) → m.Drops) :
    Within s.shape s'.shape :=
  hs.keeps (I := fun s' => Within s.shape s'.shape) (fun _ _ hI => hI)
    (fun who c s' _ hI => by rw [shape_call]; exact hI) (fun _ _ _ hI => hI)
    (fun m s' hm hm' hI => by
      rw [shape_modify, Change.shape_apply hm]
      exact hI.trans (.change (hK m hm') _)) (.refl _)

/-- The applications and the processes of the maps hold what they held. -/
def SameHolders (t t' : TreeShape) : Prop :=
  t'.sysApps = t.sysApps ∧ t'.apps = t.apps ∧ t'.procs = t.procs ∧ t'.appProcs = t.appProcs ∧
    t'.procSocks = t.procSocks

theorem holders_dropProcessSocket (env : TickEnv) (acc : List Endpoint × SystemMap σ)
    (entry : SocketCookie × Ref) :
    SameHolders acc.2.shape (dropProcessSocket h env acc entry).2.shape := by
  obtain ⟨c, r⟩ := entry
  cases hq : acc.2.sockets.lookup c with
  | none =>
    rw [shape_dropProcessSocket_none env acc r hq]
    exact ⟨rfl, rfl, rfl, rfl, rfl⟩
  | some q =>
    rcases shape_dropProcessSocket (h := h) env acc (r := r) hq with he | ⟨e, he⟩
    · rw [he]
      exact ⟨rfl, rfl, rfl, rfl, rfl⟩
    · rw [he]
      exact ⟨rfl, rfl, rfl, rfl, rfl⟩

/-- The sockets of a process that is removed are told, and their cookies leave `Sockets`. -/
theorem told_dropProcessSockets (env : TickEnv) : ∀ (es : List (SocketCookie × Ref))
    (acc : List Endpoint × SystemMap σ), (∀ e ∈ es, E e.2) →
    let out := (es.foldl (dropProcessSocket h env) acc).2
    SameHolders acc.2.shape out.shape ∧ Within acc.2.shape out.shape ∧
      ∃ l, Logs acc.2 out l ∧ Told E l acc.2.shape out.shape ∧
        ∀ e ∈ es, acc.2.shape.sockId e.2 ∈ l ∧ out.shape.socks e.1 = none
  | [], acc, _ => ⟨⟨rfl, rfl, rfl, rfl, rfl⟩, .refl _, [], .refl _, .refl _,
      fun _ he => absurd he List.not_mem_nil⟩
  | e :: es, acc, hE => by
    have hheld := holders_dropProcessSocket (h := h) env acc e
    have hwithin := (does_dropProcessSocket (h := h) (C := fun _ _ => True) (K := Action.Drops)
      env (fun _ => id) acc e).within fun _ => id
    have hlog := logs_dropProcessSocket (h := h) env acc e.1 e.2
    have htold := told_dropProcessSocket (h := h) env acc (c := e.1)
      (hE e List.mem_cons_self)
    have hgone : (dropProcessSocket h env acc e).2.shape.socks e.1 = none :=
      AList.lookup_erase _ _
    obtain ⟨hheld', hwithin', l', hlog', htold', hall⟩ := told_dropProcessSockets env es
      (dropProcessSocket h env acc e) fun e' he' => hE e' (List.mem_cons_of_mem _ he')
    refine ⟨⟨hheld'.1.trans hheld.1, hheld'.2.1.trans hheld.2.1, hheld'.2.2.1.trans hheld.2.2.1,
      hheld'.2.2.2.1.trans hheld.2.2.2.1, hheld'.2.2.2.2.trans hheld.2.2.2.2⟩,
      hwithin.trans hwithin', _, hlog.trans hlog', htold.trans htold', fun e' he' => ?_⟩
    rcases List.mem_cons.mp he' with rfl | he'
    · refine ⟨List.mem_append_left _ List.mem_cons_self, ?_⟩
      rw [Option.eq_none_iff_forall_ne_some]
      intro r hr
      exact absurd (hwithin'.socks _ r hr) (by simp [hgone])
    · obtain ⟨hmem, hnone⟩ := hall e' he'
      rw [hwithin.sockId] at hmem
      exact ⟨List.mem_append_right _ hmem, hnone⟩

/-- **A process that is removed is told, with its sockets.** -/
theorem tells_removeProcess (env : TickEnv) (pid : ProcessId) (p : Ref) (s : SystemMap σ)
    (hE : ∀ c r, s.shape.procSocks p c = some r → E r)
    (hown : ∀ q, s.shape.appProcs (s.shape.procApp p) pid = some q → q = p) :
    let out := removeProcess h env pid p s
    TellsRemovals E s out ∧
      (∀ c r, s.shape.procSocks p c = some r → out.shape.socks c = none) ∧
      out.shape.procs = Function.update s.shape.procs pid none ∧
      (∀ a q x, out.shape.appProcs a q = some x →
        ¬(a = s.shape.procApp p ∧ q = pid) ∧ s.shape.appProcs a q = some x) ∧
      out.shape.sysApps = s.shape.sysApps ∧ out.shape.apps = s.shape.apps := by
  intro out
  set s1 := call h (.app (s.process p).parentApp) (.pushIncomingTraffic 0)
    (call h .system (.pushIncomingTraffic 0) s) with hs1
  have hshape1 : s1.shape = s.shape := by
    rw [hs1]
    simp
  have hmem : ∀ c r, (c, r) ∈ env.order.entries (s1.process p).trafficItem.sockets ↔
      s.shape.procSocks p c = some r := by
    intro c r
    rw [env.order.mem_entries, ← hshape1]
    rfl
  have hsockets := told_dropProcessSockets (h := h) (E := E) env
    (env.order.entries (s1.process p).trafficItem.sockets) ([], s1)
    fun e he => hE e.1 e.2 ((hmem e.1 e.2).mp he)
  have hdropped : (List.foldl (dropProcessSocket h env) ([], s1)
      (env.order.entries (s1.process p).trafficItem.sockets)) = droppedSockets h env p s := rfl
  simp only [hdropped, hshape1] at hsockets
  obtain ⟨hheld, hwithin, l, hlog, htold, hall⟩ := hsockets
  have hshape := shape_removeProcess (h := h) env pid p s
  have hprocId := congrFun hwithin.procId p
  rw [hprocId] at hshape
  have hsocketsGone (c : SocketCookie) (r : Ref) (hr : s.shape.procSocks p c = some r) :
      (droppedSockets h env p s).2.shape.socks c = none := (hall (c, r) ((hmem c r).mpr hr)).2
  refine ⟨⟨l ++ [s.shape.procId p], ?_, ?_⟩, fun c r hr => ?_, ?_, fun a q x hx => ?_, ?_, ?_⟩
  · have hlast : Logs (droppedSockets h env p s).2 out [s.shape.procId p] := by
      rw [← hprocId]
      exact .of_removal rfl rfl
    exact ((Logs.of_same rfl rfl : Logs s s1 []).trans hlog).trans hlast
  · rw [show out.shape = _ from hshape]
    refine ((htold.mono (List.subset_append_left _ _)).seq (.eraseAppProcess fun q hq => ?_)).seq
      ((Told.eraseTrafficItem (by simp) _).seq (.eraseProcess pid _))
    rw [hheld.2.2.2.1] at hq
    rw [hown q hq, hheld.2.2.2.2, hprocId, hwithin.sockId]
    refine ⟨by simp, fun c r hr => ⟨List.mem_append_left _ ?_, hE c r hr⟩⟩
    exact (hall (c, r) ((hmem c r).mpr hr)).1
  · rw [show out.shape = _ from hshape]
    exact hsocketsGone c r hr
  · rw [show out.shape = _ from hshape]
    exact congrArg (Function.update · pid none) hheld.2.2.1
  · rw [show out.shape = _ from hshape] at hx
    simp only [TreeShape.eraseProcess, TreeShape.eraseTrafficItem, TreeShape.eraseAppProcess] at hx
    split at hx
    · cases hx
    · rename_i hne
      exact ⟨hne, hheld.2.2.2.1 ▸ hx⟩
  · rw [show out.shape = _ from hshape]
    exact hheld.1
  · rw [show out.shape = _ from hshape]
    exact hheld.2.1

/-! ## The removal of a socket -/

/-- **A socket that is removed is told, with its tuples**, when nothing else has its places. -/
theorem tells_removeSocket (env : TickEnv) {c : SocketCookie} {r : Ref} (s : SystemMap σ)
    (hplace : ∀ q, s.shape.procSocks (s.shape.sockProc r) c = some q → q = r)
    (hsock : ∀ q, s.shape.socks c = some q → q = r) :
    TellsRemovals (· = r) s (removeSocket h env c r s) := by
  set us := env.order.values (s.socket r).udpPerConnectionCounters with hus
  set s1 := us.foldl (fun s u => notify h (.onUDPTupleRemoved u) s)
    (notify h (.onSocketRemoved r) s) with hs1
  have htree : s1.toCounterTree = s.toCounterTree := toCounterTree_notifyRemoved us _
  have hlog1 : Logs s s1 [] := by
    have hkept : ∀ (us : List Ref) (s : SystemMap σ),
        Logs s (us.foldl (fun s u => notify h (.onUDPTupleRemoved u) s) s) [] := by
      intro us
      induction us with
      | nil => exact .refl
      | cons u us ih => exact fun s => (Logs.of_same rfl rfl).and_then (ih _)
    exact (Logs.of_same rfl rfl).and_then (hkept us _)
  set s2 := modify (·.eraseProcessSocket (s1.socket r).parentProcess c) s1 with hs2
  have hid : s2.shape.sockId r = s.shape.sockId r := by
    rw [hs2, shape_modify, CounterTree.shape_eraseProcessSocket, shape_toCounterTree]
    exact congrArg (fun t => t.shape.sockId r) htree
  set s3 := addItemRemoval (s2.socket r).trafficItem.itemId
    (modify (·.eraseTrafficItem (s2.socket r).trafficItem.itemId) s2) with hs3
  have hlog3 : Logs s s3 [s.shape.sockId r] := by
    have hrecord : Logs s1 s3 [s.shape.sockId r] := by
      rw [← hid]
      exact .of_removal rfl rfl
    exact hlog1.trans hrecord
  have htup : s3.shape.tupId = s.shape.tupId := by
    rw [hs3, shape_addItemRemoval, shape_modify, CounterTree.shape_eraseTrafficItem,
      shape_toCounterTree, hs2, shape_modify, CounterTree.shape_eraseProcessSocket,
      shape_toCounterTree]
    exact congrArg (fun t => t.shape.tupId) htree
  have htuples := isTuplesOf_values env.order s r
  refine ⟨s.shape.sockId r :: us.map s.shape.tupId, ?_, ?_⟩
  · have hlog := hlog3.trans (logs_dropSocketTuples us s3)
    rw [htup] at hlog
    have hcleared : ∀ s' : SystemMap σ, Logs s' (modify (·.eraseSocket c)
        (modify (·.clearTupleItems r) (modify (·.clearTupleCounters r) s'))) [] :=
      fun _ => .of_same rfl rfl
    exact hlog.and_then (hcleared _)
  · rw [shape_removeSocket, ← hus]
    have hmem : us.map s.shape.tupId ⊆ s.shape.sockId r :: us.map s.shape.tupId :=
      List.subset_cons_self _ _
    refine (((((Told.eraseProcessSocket (E := (· = r)) (t := s.shape) (p := s.shape.sockProc r)
      (c := c) fun q _ hq => ?_).seq (.eraseTrafficItem List.mem_cons_self _)).seq
        (.eraseTrafficItems hmem _)).seq (.clearTupleCounters (r := r) fun e u hu => ?_)).seq
          (.clearTupleItems (E := (· = r)) rfl _)).seq (.eraseSocket fun q hq e u hu => ?_)
    · rw [hplace q hq]
      exact ⟨List.mem_cons_self, rfl⟩
    · exact hmem (List.mem_map_of_mem ((htuples u).mpr ⟨e, hu⟩))
    · rw [hsock q hq] at hu
      simp only [TreeShape.clearTupleItems, TreeShape.clearTupleCounters, if_true] at hu
      cases hu

/-- A tuple that expires is told. -/
theorem tells_cleanupTuple (env : TickEnv) {r : Ref} {e : Endpoint} {u : Ref} {s : SystemMap σ}
    (hs : s.shape.TupleInv) (hu : s.shape.sockTuples r e = some u) :
    TellsRemovals E s (cleanupTuple h env r s (e, u)) := by
  have hshape := shape_cleanupTuple (h := h) env r s e u
  by_cases hdue : (s.tuple u).dueForRemoval (env.cleanupTime (.tuple u)) = true
  · rw [if_pos hdue] at hshape
    refine ⟨[s.shape.tupId u], ?_, ?_⟩
    · unfold cleanupTuple
      rw [if_pos hdue]
      exact .of_removal rfl rfl
    · rw [hshape]
      refine (Told.eraseTrafficItem List.mem_cons_self _).seq
        (.eraseTuple (fun v hv => ?_) fun v _ hv hend => ?_)
      · rw [Option.some.inj (hu.symm.trans hv)]
        exact List.mem_cons_self
      · -- the item is the one of the counter under its endpoint
        obtain ⟨f, hf⟩ := (hs.traffic r v).mp hv
        have hfe : f = e := (hs.own r f v hf).tuple.endpoint.symm.trans hend
        rw [Option.some.inj (hu.symm.trans (hfe ▸ hf))]
        exact List.mem_cons_self
  · unfold cleanupTuple
    rw [if_neg hdue]
    exact .refl s

/-- An application that is removed is told. -/
theorem tells_cleanupApp {k : String} {a : Ref} {s : SystemMap σ}
    (happ : ∀ b, s.shape.sysApps k = some b → b = a) :
    TellsRemovals E s (cleanupApp s (k, a)) := by
  have hlog : Logs s (cleanupApp s (k, a)) [s.shape.appId a] ∨ cleanupApp s (k, a) = s := by
    unfold cleanupApp
    simp only
    split
    · exact .inl (.of_removal rfl rfl)
    · exact .inr rfl
  rcases hlog with hlog | hsame
  · rcases shape_cleanupApp k a s with ⟨hnone, hshape⟩ | hsame
    · refine ⟨[s.shape.appId a], hlog, ?_⟩
      rw [hshape]
      refine (Told.eraseTrafficItem List.mem_cons_self _).seq (.eraseApp fun b hb => ?_)
      rw [happ b hb]
      exact ⟨List.mem_cons_self, hnone⟩
    · rw [hsame]
      exact .refl s
  · rw [hsame]
    exact .refl s

end SystemMap

end Waechter
