import Waechter.Daemon.RuleManager
import Waechter.Daemon.TreeShape
import Waechter.Lib.Writes

/-!
# What a recomputation puts into the kernel

`UpdateRuleCache` computes the effective rules of what the items of an application hold, under the
cookie each of them is held under, and `SyncRules` writes what changed into the kernel. Between
the steps of the rule manager the cache is `Clean`: every entry is what the kernel has. Cookie 0 is
left out: it is no socket's, and a system rule is written under it past the cache.

* `kernelValue_recompute`: the kernel then holds, under every cookie, what was computed last for
  it, or what it held before.
* `mem_visits`: what is computed, read off the shape of the trees.
* `inSync_recompute`: a recomputation that covers a change of the rules keeps the kernel in sync.
* `lookup_updateRuleCache`, `exists_updateRuleCache`: an entry of the cache is as it was, or it is to
  be written with what was computed; there is one for every cookie something was computed for.
* `inForce_removeEmptyRules`: removing the default rules changes no effective rules.
-/

namespace Waechter

open Lib

namespace RuleManager

/-! ## The kernel and the cache -/

/-- The rules the kernel holds under a cookie. No entry counts as the default rule. -/
def kernelValue (m : RuleManager) (c : SocketCookie) : TrafficItemRulesBase :=
  (m.kernel.lookup c).getD {}

/-- What the kernel will hold under a cookie once the cache is written. -/
def cachedValue (m : RuleManager) (c : SocketCookie) : TrafficItemRulesBase :=
  ((m.socketCookieRules.lookup c).map (·.rules)).getD (m.kernelValue c)

/-- An entry that need not be written is what the kernel has. -/
def Pending (m : RuleManager) : Prop :=
  ∀ c e, c ≠ 0 → m.socketCookieRules.lookup c = some e → e.dirty = true ∨ e.rules = m.kernelValue c

/-- Every entry of the cache is written. -/
def Clean (m : RuleManager) : Prop :=
  ∀ c e, c ≠ 0 → m.socketCookieRules.lookup c = some e → e.dirty = false ∧ e.rules = m.kernelValue c

theorem Clean.pending {m : RuleManager} (h : m.Clean) : m.Pending :=
  fun c e hc he => .inr (h c e hc he).2

theorem Clean.cachedValue {m : RuleManager} (h : m.Clean) {c : SocketCookie} (hc : c ≠ 0) :
    m.cachedValue c = m.kernelValue c := by
  unfold RuleManager.cachedValue
  cases he : m.socketCookieRules.lookup c with
  | none => rfl
  | some e => exact (h c e hc he).2

/-! ## What is computed -/

/-- The entry `UpdateRuleCache` computes for a socket. -/
def socketVisit (effectiveProcRules : TrafficItemRules) (t : CounterTree) (m : RuleManager)
    (entry : SocketCookie × Ref) : SocketCookie × TrafficItemRulesBase :=
  (entry.1, (getEffectiveRules effectiveProcRules
    (rulesOf m.socketRules (t.socket entry.2).trafficItem.itemId)).asBase)

/-- The entries for the sockets of a process. -/
def processVisits (o : IterOrder) (effectiveAppRules : TrafficItemRules) (t : CounterTree)
    (m : RuleManager) (p : Ref) : List (SocketCookie × TrafficItemRulesBase) :=
  let item := (t.process p).trafficItem
  (o.entries item.sockets).map (socketVisit
    (getEffectiveRules effectiveAppRules (rulesOf m.processRules item.itemId)) t m)

/-- The entries for the sockets of an application. -/
def appVisits (o : IterOrder) (t : CounterTree) (m : RuleManager) (a : Ref) :
    List (SocketCookie × TrafficItemRulesBase) :=
  let item := (t.app a).trafficItem
  (o.values item.processes).flatMap (processVisits o
    (getEffectiveRules m.systemRules (rulesOf m.applicationRules item.itemId)) t m)

/-- The applications `UpdateRuleCache` comes to. -/
def rootApps (o : IterOrder) (t : CounterTree) (root : TrafficItemId × TrafficItemType) :
    List Ref :=
  match root.2 with
  | .system => o.values t.systemApplications
  | .application => [root.1]
  | _ => []

/-- Everything `UpdateRuleCache` computes, in its order. -/
def visits (o : IterOrder) (t : CounterTree) (root : TrafficItemId × TrafficItemType)
    (m : RuleManager) : List (SocketCookie × TrafficItemRulesBase) :=
  (rootApps o t root).flatMap (appVisits o t m)

/-- Two managers that agree on the rules compute the same for a process. -/
theorem processVisits_congr {m m' : RuleManager} (h : SameRules m m') (o : IterOrder)
    (r : TrafficItemRules) (t : CounterTree) (p : Ref) :
    processVisits o r t m' p = processVisits o r t m p := by
  unfold processVisits
  simp only [h.processRules]
  refine List.map_congr_left fun e _ => ?_
  unfold socketVisit
  rw [h.socketRules]

theorem appVisits_congr {m m' : RuleManager} (h : SameRules m m') (o : IterOrder) (t : CounterTree)
    (a : Ref) : appVisits o t m' a = appVisits o t m a := by
  unfold appVisits
  simp only [h.systemRules, h.applicationRules]
  exact List.flatMap_congr fun p _ => processVisits_congr h o _ t p

/-! ## Updating the cache -/

/-- A step that computes entries: the cache has them, and the kernel is left alone. -/
structure Computes (f : RuleManager → RuleManager)
    (entries : RuleManager → List (SocketCookie × TrafficItemRulesBase)) : Prop where
  pending : ∀ m, m.Pending → (f m).Pending
  kernel : ∀ m, (f m).kernel = m.kernel
  sameRules : ∀ m, SameRules m (f m)
  cachedValue : ∀ m, (f m).cachedValue = writes (entries m) m.cachedValue

/-- A loop whose turns compute entries that depend on the rules only. -/
theorem Computes.foldl {α : Type} {f : RuleManager → α → RuleManager}
    {entries : α → RuleManager → List (SocketCookie × TrafficItemRulesBase)}
    (hf : ∀ a, Computes (fun m => f m a) (entries a))
    (hcongr : ∀ a m m', SameRules m m' → entries a m' = entries a m) : ∀ (l : List α),
    Computes (fun m => l.foldl f m) fun m => l.flatMap fun a => entries a m
  | [] => ⟨fun _ h => h, fun _ => rfl, SameRules.refl, fun _ => rfl⟩
  | a :: l => by
    have ih := Computes.foldl hf hcongr l
    refine ⟨fun m hm => ih.pending _ ((hf a).pending m hm),
      fun m => (ih.kernel _).trans ((hf a).kernel m),
      fun m => ((hf a).sameRules m).trans (ih.sameRules _), fun m => ?_⟩
    have hrest : (l.flatMap fun b => entries b (f m a)) = l.flatMap fun b => entries b m :=
      List.flatMap_congr fun b _ => hcongr b m _ ((hf a).sameRules m)
    rw [List.foldl_cons, ih.cachedValue, (hf a).cachedValue, hrest, List.flatMap_cons,
      writes_append]

/-- The entry of a cookie after effective rules were computed for it. -/
def updatedEntry (rules : TrafficItemRulesBase) (socketId : TrafficItemId) :
    Option CookieRules → CookieRules
  | some cached => if cached.rules = rules then cached else { cached with rules, dirty := true }
  | none => { rules, socketId, dirty := true }

theorem rules_updatedEntry (rules : TrafficItemRulesBase) (socketId : TrafficItemId)
    (cached : Option CookieRules) : (updatedEntry rules socketId cached).rules = rules := by
  unfold updatedEntry
  split
  · split
    · assumption
    · rfl
  · rfl

/-- An entry that is not to be written is the one that was there. -/
theorem dirty_updatedEntry (rules : TrafficItemRulesBase) (socketId : TrafficItemId)
    (cached : Option CookieRules) :
    (updatedEntry rules socketId cached).dirty = true ∨
      cached = some (updatedEntry rules socketId cached) := by
  unfold updatedEntry
  split
  · split
    · exact .inr rfl
    · exact .inl rfl
  · exact .inl rfl

theorem lookup_cacheSocket (p : TrafficItemRules) (t : CounterTree) (m : RuleManager)
    (entry : SocketCookie × Ref) (c : SocketCookie) :
    (cacheSocket p t m entry).socketCookieRules.lookup c =
      if c = entry.1 then
        some (updatedEntry (socketVisit p t m entry).2 (t.socket entry.2).trafficItem.itemId
          (m.socketCookieRules.lookup entry.1))
      else m.socketCookieRules.lookup c := by
  unfold cacheSocket updatedEntry socketVisit
  simp only
  cases hl : m.socketCookieRules.lookup entry.1 with
  | none => simp only [UMap.lookup_insert_ite]
  | some cached =>
    simp only
    split
    · by_cases hc : c = entry.1
      · rw [if_pos hc, hc, hl]
      · rw [if_neg hc]
    · simp only [UMap.lookup_insert_ite]

theorem kernel_cacheSocket (p : TrafficItemRules) (t : CounterTree) (m : RuleManager)
    (entry : SocketCookie × Ref) : (cacheSocket p t m entry).kernel = m.kernel := by
  unfold cacheSocket
  simp only
  split
  · split <;> rfl
  · rfl

theorem computes_cacheSocket (p : TrafficItemRules) (t : CounterTree) (entry : SocketCookie × Ref) :
    Computes (fun m => cacheSocket p t m entry) fun m => [socketVisit p t m entry] := by
  have hvalue : ∀ m c, (cacheSocket p t m entry).kernelValue c = m.kernelValue c := by
    intro m c
    unfold kernelValue
    rw [kernel_cacheSocket]
  refine ⟨fun m hm c e h0 he => ?_, fun m => kernel_cacheSocket p t m entry,
    fun m => sameRules_cacheSocket p t m entry, fun m => funext fun c => ?_⟩
  · rw [lookup_cacheSocket] at he
    rw [hvalue]
    split at he
    · rename_i hc
      rw [← Option.some.inj he]
      rcases dirty_updatedEntry (socketVisit p t m entry).2 (t.socket entry.2).trafficItem.itemId
        (m.socketCookieRules.lookup entry.1) with hd | hsame
      · exact .inl hd
      · rw [hc]
        exact hm entry.1 _ (hc ▸ h0) hsame
    · exact hm c e h0 he
  · unfold RuleManager.cachedValue
    rw [lookup_cacheSocket, hvalue]
    simp only [writes, List.foldl_cons, List.foldl_nil, Function.update_apply]
    by_cases hc : c = entry.1
    · rw [if_pos hc, Option.map_some, rules_updatedEntry,
        if_pos (show c = (socketVisit p t m entry).1 from hc)]
      rfl
    · rw [if_neg hc, if_neg (show ¬ c = (socketVisit p t m entry).1 from hc)]

theorem computes_cacheProcess (o : IterOrder) (r : TrafficItemRules) (t : CounterTree) (p : Ref) :
    Computes (fun m => cacheProcess o r t m p) fun m => processVisits o r t m p := by
  have hloop : ∀ q, Computes
      (fun m => (o.entries (t.process p).trafficItem.sockets).foldl (cacheSocket q t) m)
      fun m => (o.entries (t.process p).trafficItem.sockets).flatMap
        fun e => [socketVisit q t m e] := by
    intro q
    refine Computes.foldl (computes_cacheSocket q t) (fun e m m' h => ?_) _
    unfold socketVisit
    rw [h.socketRules]
  have hvisits : ∀ m, processVisits o r t m p = (o.entries (t.process p).trafficItem.sockets).flatMap
      fun e => [socketVisit (getEffectiveRules r
        (rulesOf m.processRules (t.process p).trafficItem.itemId)) t m e] := by
    intro m
    exact List.map_eq_flatMap
  constructor
  · exact fun m hm => (hloop _).pending m hm
  · exact fun m => (hloop _).kernel m
  · exact fun m => (hloop _).sameRules m
  · intro m
    rw [hvisits]
    exact (hloop _).cachedValue m

theorem computes_cacheApp (o : IterOrder) (t : CounterTree) (a : Ref) :
    Computes (fun m => cacheApp o t m a) fun m => appVisits o t m a := by
  have hloop : ∀ r, Computes
      (fun m => (o.values (t.app a).trafficItem.processes).foldl (cacheProcess o r t) m)
      fun m => (o.values (t.app a).trafficItem.processes).flatMap (processVisits o r t m) :=
    fun r => Computes.foldl (computes_cacheProcess o r t)
      (fun p m m' h => processVisits_congr h o r t p) _
  constructor
  · exact fun m hm => (hloop _).pending m hm
  · exact fun m => (hloop _).kernel m
  · exact fun m => (hloop _).sameRules m
  · exact fun m => (hloop _).cachedValue m

theorem computes_updateRuleCache (o : IterOrder) (t : CounterTree)
    (root : TrafficItemId × TrafficItemType) :
    Computes (updateRuleCache o t root) (visits o t root) := by
  have hloop := Computes.foldl (computes_cacheApp o t) (fun a m m' h => appVisits_congr h o t a)
    (rootApps o t root)
  have hf : updateRuleCache o t root = fun m => (rootApps o t root).foldl (cacheApp o t) m := by
    funext m
    obtain ⟨i, ty⟩ := root
    cases ty <;> rfl
  rw [hf]
  exact hloop

/-! ## Writing the cache -/

/-- The cache after one entry is written, if it is dirty. -/
theorem lookup_syncSocket {m : RuleManager} {c : SocketCookie} {e : CookieRules}
    (he : m.socketCookieRules.lookup c = some e) (q : SocketCookie) :
    (syncSocket m (c, e)).socketCookieRules.lookup q =
      if q = c then some { e with dirty := false } else m.socketCookieRules.lookup q := by
  unfold syncSocket
  by_cases hd : e.dirty = true
  · rw [if_pos hd]
    exact UMap.lookup_insert_ite _ _ _ _
  · rw [if_neg hd]
    by_cases hq : q = c
    · rw [if_pos hq, hq, he, ← Bool.eq_false_iff.mpr hd]
    · rw [if_neg hq]

/-- One entry that is written, if it is dirty. -/
theorem syncSocket_spec {m : RuleManager} (hm : m.Pending) {c : SocketCookie} {e : CookieRules}
    (he : m.socketCookieRules.lookup c = some e) :
    (syncSocket m (c, e)).Pending ∧ (syncSocket m (c, e)).cachedValue = m.cachedValue := by
  unfold syncSocket
  by_cases hd : e.dirty = true
  · rw [if_pos hd]
    refine ⟨fun q x h0 hx => ?_, funext fun q => ?_⟩
    · simp only [kernelValue, UMap.lookup_insert_ite] at hx ⊢
      split at hx
      · rename_i hq
        rw [← Option.some.inj hx, if_pos hq]
        exact .inr rfl
      · rename_i hq
        rw [if_neg hq]
        exact hm q x h0 hx
    · simp only [RuleManager.cachedValue, kernelValue, UMap.lookup_insert_ite]
      by_cases hq : q = c
      · rw [if_pos hq, if_pos hq, hq, he]
        rfl
      · rw [if_neg hq, if_neg hq]
  · rw [if_neg hd]
    exact ⟨hm, rfl⟩

/-- The other entries of a list after the first one is written. -/
theorem lookup_of_syncSocket {m : RuleManager} {c : SocketCookie} {e : CookieRules}
    {l : List (SocketCookie × CookieRules)} (hc : c ∉ l.map Prod.fst)
    (he : m.socketCookieRules.lookup c = some e)
    (hl : ∀ x ∈ l, m.socketCookieRules.lookup x.1 = some x.2) :
    ∀ x ∈ l, (syncSocket m (c, e)).socketCookieRules.lookup x.1 = some x.2 := by
  intro x hx
  have hne : x.1 ≠ c := fun h => hc (h ▸ List.mem_map.mpr ⟨x, hx, rfl⟩)
  rw [lookup_syncSocket he, if_neg hne]
  exact hl x hx

/-- The cache after all entries are written. -/
theorem lookup_foldl_syncSocket : ∀ (l : List (SocketCookie × CookieRules)) {m : RuleManager},
    (l.map Prod.fst).Nodup → (∀ e ∈ l, m.socketCookieRules.lookup e.1 = some e.2) →
    ∀ c e, (l.foldl syncSocket m).socketCookieRules.lookup c = some e →
      e.dirty = false ∨ c ∉ l.map Prod.fst ∧ m.socketCookieRules.lookup c = some e
  | [], m, _, _, c, e, he => .inr ⟨List.not_mem_nil, he⟩
  | (c, e) :: l, m, hn, hl, q, x, hx => by
    rw [List.map_cons, List.nodup_cons] at hn
    rw [List.forall_mem_cons] at hl
    rcases lookup_foldl_syncSocket l hn.2 (lookup_of_syncSocket hn.1 hl.1 hl.2) q x hx with
      hx | ⟨hq, hx⟩
    · exact .inl hx
    · rw [lookup_syncSocket hl.1] at hx
      split at hx
      · exact .inl (by rw [← Option.some.inj hx])
      · rename_i hne
        exact .inr ⟨by simp only [List.map_cons, List.mem_cons, not_or]; exact ⟨hne, hq⟩, hx⟩

/-- All entries are written. -/
theorem foldl_syncSocket : ∀ (l : List (SocketCookie × CookieRules)) {m : RuleManager}, m.Pending →
    (l.map Prod.fst).Nodup → (∀ e ∈ l, m.socketCookieRules.lookup e.1 = some e.2) →
    (l.foldl syncSocket m).Pending ∧ (l.foldl syncSocket m).cachedValue = m.cachedValue
  | [], m, hm, _, _ => ⟨hm, rfl⟩
  | (c, e) :: l, m, hm, hn, hl => by
    rw [List.map_cons, List.nodup_cons] at hn
    rw [List.forall_mem_cons] at hl
    obtain ⟨h1, h2⟩ := syncSocket_spec hm hl.1
    obtain ⟨i1, i2⟩ := foldl_syncSocket l h1 hn.2 (lookup_of_syncSocket hn.1 hl.1 hl.2)
    exact ⟨i1, i2.trans h2⟩

/-- No entry of the cache is to be written. -/
def Settled (m : RuleManager) : Prop :=
  ∀ c e, m.socketCookieRules.lookup c = some e → e.dirty = false

/-- `SyncRules` leaves nothing to be written. -/
theorem settled_syncRules (o : IterOrder) (m : RuleManager) : (syncRules o m).Settled := by
  intro c e he
  rcases lookup_foldl_syncSocket (o.entries m.socketCookieRules) (o.nodup_entries _)
    (o.lookup_of_mem_entries _) c e he with hd | ⟨hc, hm⟩
  · exact hd
  · exact absurd (List.mem_map.mpr ⟨(c, e), (o.mem_entries _ c e).mpr hm, rfl⟩) hc

/-- **`SyncRules` makes the kernel hold what is cached.** -/
theorem syncRules_spec {m : RuleManager} (hm : m.Pending) (o : IterOrder) :
    (syncRules o m).Clean ∧
      ∀ c, c ≠ 0 → (syncRules o m).kernelValue c = m.cachedValue c := by
  obtain ⟨h1, h2⟩ := foldl_syncSocket (o.entries m.socketCookieRules) hm
    (o.nodup_entries _) (o.lookup_of_mem_entries _)
  have hclean : (syncRules o m).Clean := by
    intro c e h0 he
    have hd : e.dirty = false := settled_syncRules o m c e he
    refine ⟨hd, (h1 c e h0 he).resolve_left ?_⟩
    rw [hd]
    exact Bool.false_ne_true
  exact ⟨hclean, fun c hc => (hclean.cachedValue hc).symm.trans (congrFun h2 c)⟩

/-- **A recomputation.** The kernel holds under every cookie what was computed last for it, or
what it held before. -/
theorem kernelValue_recompute {m : RuleManager} (hm : m.Clean) (o o' : IterOrder) (t : CounterTree)
    (root : TrafficItemId × TrafficItemType) :
    (syncRules o' (updateRuleCache o t root m)).Clean ∧
      ∀ c, c ≠ 0 → (syncRules o' (updateRuleCache o t root m)).kernelValue c =
        writes (visits o t root m) m.kernelValue c := by
  have hcompute := computes_updateRuleCache o t root
  obtain ⟨h1, h2⟩ := syncRules_spec (hcompute.pending m hm.pending) o'
  refine ⟨h1, fun c hc => ?_⟩
  rw [h2 c hc, hcompute.cachedValue]
  exact writes_congr _ (hm.cachedValue hc)

end RuleManager

/-! ## Effective rules on the shape of the trees -/

namespace TreeShape

/-- An application that a recomputation from the root comes to. -/
def IsRootApp (t : TreeShape) (root : TrafficItemId × TrafficItemType) (a : Ref) : Prop :=
  match root.2 with
  | .system => ∃ k, t.sysApps k = some a
  | .application => a = root.1
  | _ => False

/-- A recomputation from the root computes rules for the cookie: those of socket `r` as a socket of
process `p` of application `a`. -/
def Reached (t : TreeShape) (root : TrafficItemId × TrafficItemType) (c : SocketCookie)
    (a p r : Ref) : Prop :=
  t.IsRootApp root a ∧ (∃ pid, t.appProcs a pid = some p) ∧ t.procSocks p c = some r

end TreeShape

namespace RuleManager

/-- The rules of a socket as one of this process and this application. -/
def inForce (m : RuleManager) (t : TreeShape) (a p r : Ref) : TrafficItemRulesBase :=
  (effectiveSocketRules m.systemRules (rulesOf m.applicationRules (t.appId a))
    (rulesOf m.processRules (t.procId p)) (rulesOf m.socketRules (t.sockId r))).asBase

/-- The effective rules of a socket. -/
def effective (m : RuleManager) (t : TreeShape) (r : Ref) : TrafficItemRulesBase :=
  m.inForce t (t.procApp (t.sockProc r)) (t.sockProc r) r

theorem SameRules.inForce {m m' : RuleManager} (h : SameRules m m') (t : TreeShape) (a p r : Ref) :
    m'.inForce t a p r = m.inForce t a p r := by
  unfold RuleManager.inForce
  rw [h.systemRules, h.applicationRules, h.processRules, h.socketRules]

theorem mem_rootApps (o : IterOrder) (t : CounterTree) (root : TrafficItemId × TrafficItemType)
    (a : Ref) : a ∈ rootApps o t root ↔ t.shape.IsRootApp root a := by
  obtain ⟨i, ty⟩ := root
  cases ty with
  | system => exact o.mem_values _ a
  | application => exact List.mem_singleton
  | _ => exact iff_of_false List.not_mem_nil id

/-- What holds of all sockets that a recomputation comes to, as it finds them. -/
theorem forall_reached_iff (o : IterOrder) (t : CounterTree) (root : TrafficItemId × TrafficItemType)
    (P : SocketCookie → Ref → Ref → Ref → Prop) :
    (∀ c a p r, t.shape.Reached root c a p r → P c a p r) ↔
      ∀ a ∈ rootApps o t root, ∀ p ∈ o.values (t.app a).trafficItem.processes,
        ∀ e ∈ o.entries (t.process p).trafficItem.sockets, P e.1 a p e.2 := by
  simp only [mem_rootApps, IterOrder.mem_values, Prod.forall, IterOrder.mem_entries]
  constructor
  · exact fun h a ha p hp c r hr => h c a p r ⟨ha, hp, hr⟩
  · exact fun h c a p r hreached => h a hreached.1 p hreached.2.1 c r hreached.2.2

/-- What is computed, read off the shape. -/
theorem mem_visits (o : IterOrder) (t : CounterTree) (root : TrafficItemId × TrafficItemType)
    (m : RuleManager) (v : SocketCookie × TrafficItemRulesBase) :
    v ∈ visits o t root m ↔
      ∃ a p r, t.shape.Reached root v.1 a p r ∧ v.2 = m.inForce t.shape a p r := by
  obtain ⟨c, b⟩ := v
  simp only [visits, appVisits, processVisits, List.mem_flatMap, List.mem_map, mem_rootApps,
    IterOrder.mem_values, socketVisit, Prod.mk.injEq, Prod.exists, IterOrder.mem_entries]
  constructor
  · rintro ⟨a, ha, p, hp, k, r, hr, rfl, rfl⟩
    exact ⟨a, p, r, ⟨ha, hp, hr⟩, rfl⟩
  · rintro ⟨a, p, r, ⟨ha, hp, hr⟩, rfl⟩
    exact ⟨a, ha, p, hp, c, r, hr, rfl, rfl⟩

/-- Every socket in `Sockets` but those of `x` has its effective rules in the kernel. -/
def InSync (x : SocketCookie → Prop) (t : TreeShape) (m : RuleManager) : Prop :=
  ∀ c r, t.socks c = some r → ¬ x c → m.kernelValue c = m.effective t r

/-- The rules change from those of `m` to those of `m'`, and a recomputation from the root
suffices: what it computes for the cookie of a socket are the effective rules of the socket, and
those of a socket it computes nothing for stay. -/
def Covers (t : TreeShape) (root : TrafficItemId × TrafficItemType) (m m' : RuleManager) : Prop :=
  ∀ c r, t.socks c = some r →
    (∀ a p q, t.Reached root c a p q → m'.inForce t a p q = m'.effective t r) ∧
      ((∀ a p q, ¬ t.Reached root c a p q) → m'.effective t r = m.effective t r)

/-- What a recomputation comes to under no item keeps its entry in the kernel. -/
theorem kernelValue_of_not_reached {m : RuleManager} (hclean : m.Clean) (o o' : IterOrder)
    (t : CounterTree) (root : TrafficItemId × TrafficItemType) {c : SocketCookie} (hc : c ≠ 0)
    (hnone : ∀ a p q, ¬ t.shape.Reached root c a p q) :
    (syncRules o' (updateRuleCache o t root m)).kernelValue c = m.kernelValue c := by
  rw [(kernelValue_recompute hclean o o' t root).2 c hc]
  refine writes_of_notMem _ _ fun v hv hvc => ?_
  obtain ⟨a, p, q, h, _⟩ := (mem_visits o t root m v).mp hv
  exact hnone a p q (hvc ▸ h)

/-- A recomputation puts into the kernel what all sockets held under a cookie agree on. -/
theorem kernelValue_of_reached {m : RuleManager} (hclean : m.Clean) (o o' : IterOrder)
    (t : CounterTree) (root : TrafficItemId × TrafficItemType) {c : SocketCookie} (hc : c ≠ 0)
    {rules : TrafficItemRulesBase} (hsome : ∃ a p q, t.shape.Reached root c a p q)
    (hrules : ∀ a p q, t.shape.Reached root c a p q → m.inForce t.shape a p q = rules) :
    (syncRules o' (updateRuleCache o t root m)).kernelValue c = rules := by
  obtain ⟨a, p, q, h⟩ := hsome
  rw [(kernelValue_recompute hclean o o' t root).2 c hc]
  refine writes_of_mem _ _ ⟨(c, m.inForce t.shape a p q), ?_, rfl⟩ fun v hv hvc => ?_
  · exact (mem_visits o t root m _).mpr ⟨a, p, q, h, rfl⟩
  · obtain ⟨a, p, q, h, hv⟩ := (mem_visits o t root m v).mp hv
    rw [hv]
    exact hrules a p q (hvc ▸ h)

/-- **A recomputation that suffices.** Whatever it computes something for is in sync afterwards. -/
theorem inSync_recompute {t : CounterTree} {root : TrafficItemId × TrafficItemType}
    {x : SocketCookie → Prop} {m m' : RuleManager} (hlive : ∀ c r, t.shape.socks c = some r → c ≠ 0)
    (hs : InSync x t.shape m) (hclean : m'.Clean)
    (hkernel : ∀ c, c ≠ 0 → m'.kernelValue c = m.kernelValue c)
    (hcovers : Covers t.shape root m m') (o o' : IterOrder) :
    (syncRules o' (updateRuleCache o t root m')).Clean ∧
      InSync (fun c => x c ∧ ∀ a p q, ¬ t.shape.Reached root c a p q) t.shape
        (syncRules o' (updateRuleCache o t root m')) := by
  have hrules := (sameRules_updateRuleCache o t root m').trans (sameRules_syncRules o' _)
  refine ⟨(kernelValue_recompute hclean o o' t root).1, fun c r hr hx => ?_⟩
  obtain ⟨hreached, hother⟩ := hcovers c r hr
  have heff : (syncRules o' (updateRuleCache o t root m')).effective t.shape r =
      m'.effective t.shape r := hrules.inForce t.shape _ _ r
  rw [heff]
  by_cases h : ∃ a p q, t.shape.Reached root c a p q
  · exact kernelValue_of_reached hclean o o' t root (hlive c r hr) h hreached
  · have hnone : ∀ a p q, ¬ t.shape.Reached root c a p q := fun a p q hq => h ⟨a, p, q, hq⟩
    rw [kernelValue_of_not_reached hclean o o' t root (hlive c r hr) hnone,
      hkernel c (hlive c r hr), hother hnone]
    exact hs c r hr fun hxc => hx ⟨hxc, hnone⟩

/-! ## Which entries are to be written -/

/-- What the turns of `UpdateRuleCache` keep. -/
theorem updateRuleCache_keeps {I : RuleManager → Prop} (o : IterOrder) (t : CounterTree)
    (root : TrafficItemId × TrafficItemType) {m : RuleManager}
    (hsocket : ∀ m' q c a p r, t.shape.Reached root c a p r → I m' →
      (socketVisit q t m' (c, r)).2 = m.inForce t.shape a p r → I (cacheSocket q t m' (c, r)))
    (h : I m) : I (updateRuleCache o t root m) := by
  have happ : ∀ m' a, t.shape.IsRootApp root a → SameRules m m' ∧ I m' →
      SameRules m (cacheApp o t m' a) ∧ I (cacheApp o t m' a) := by
    rintro m₁ a ha ⟨hsame₁, h₁⟩
    unfold cacheApp
    refine List.foldlRecOn (motive := fun m' => SameRules m m' ∧ I m') _ _ ⟨hsame₁, h₁⟩
      fun m₂ ⟨hsame₂, h₂⟩ p hp => ?_
    obtain ⟨pid, hp⟩ := (o.mem_values _ p).mp hp
    unfold cacheProcess
    refine List.foldlRecOn (motive := fun m' => SameRules m m' ∧ I m') _ _ ⟨hsame₂, h₂⟩
      fun m₃ ⟨hsame₃, h₃⟩ entry hentry => ?_
    obtain ⟨c, r⟩ := entry
    refine ⟨hsame₃.trans (sameRules_cacheSocket _ t m₃ (c, r)), hsocket m₃ _ c a p r
      ⟨ha, ⟨pid, hp⟩, (o.mem_entries _ c r).mp hentry⟩ h₃ ?_⟩
    unfold socketVisit inForce effectiveSocketRules
    rw [hsame₁.systemRules, hsame₁.applicationRules, hsame₂.processRules, hsame₃.socketRules]
    rfl
  unfold updateRuleCache
  obtain ⟨i, ty⟩ := root
  cases ty with
  | system =>
    refine (List.foldlRecOn (motive := fun m' => SameRules m m' ∧ I m') _ _ ⟨.refl m, h⟩
      fun m' hm' a ha => happ m' a ?_ hm').2
    exact (o.mem_values _ a).mp ha
  | application => exact (happ m i rfl ⟨.refl m, h⟩).2
  | _ => exact h

/-- An entry of the cache after a recomputation: it is as it was, or it is to be written with the
rules of a socket that is held under its cookie. The entry of a cookie that had one keeps its
socket. -/
def Recached (t : TreeShape) (root : TrafficItemId × TrafficItemType) (m : RuleManager)
    (c : SocketCookie) (e : CookieRules) : Prop :=
  m.socketCookieRules.lookup c = some e ∨
    e.dirty = true ∧ (∃ a p r, t.Reached root c a p r ∧ e.rules = m.inForce t a p r) ∧
      ((∃ e₀, m.socketCookieRules.lookup c = some e₀ ∧ e.socketId = e₀.socketId) ∨
        ∃ a p r, t.Reached root c a p r ∧ e.socketId = t.sockId r)

theorem lookup_updateRuleCache (o : IterOrder) (t : CounterTree)
    (root : TrafficItemId × TrafficItemType) (m : RuleManager) {c : SocketCookie} {e : CookieRules}
    (he : (updateRuleCache o t root m).socketCookieRules.lookup c = some e) :
    Recached t.shape root m c e := by
  refine updateRuleCache_keeps
    (I := fun m' => ∀ c e, m'.socketCookieRules.lookup c = some e → Recached t.shape root m c e)
    o t root ?_ (fun _ _ he => .inl he) c e he
  intro m' q d a p r hreached ih hvisit c e he
  rw [lookup_cacheSocket, hvisit] at he
  split at he
  · rename_i hc
    obtain rfl : c = d := hc
    have he' : e = updatedEntry (m.inForce t.shape a p r) (t.shape.sockId r)
      (m'.socketCookieRules.lookup c) := (Option.some.inj he).symm
    rw [he']
    unfold updatedEntry
    cases hcached : m'.socketCookieRules.lookup c with
    | none => exact .inr ⟨rfl, ⟨a, p, r, hreached, rfl⟩, .inr ⟨a, p, r, hreached, rfl⟩⟩
    | some cached =>
      dsimp only
      split
      · exact ih c cached hcached
      · refine .inr ⟨rfl, ⟨a, p, r, hreached, rfl⟩, ?_⟩
        rcases ih c cached hcached with hold | ⟨-, -, hsocket⟩
        · exact .inl ⟨cached, hold, rfl⟩
        · exact hsocket
  · exact ih c e he

/-- A loop comes to each of its turns. -/
theorem foldl_reaches {α β : Type} {f : β → α → β} {Q : β → Prop} (hkeep : ∀ b a, Q b → Q (f b a))
    {x : α} (hx : ∀ b, Q (f b x)) : ∀ (l : List α) (b : β), x ∈ l → Q (l.foldl f b)
  | a :: l, b, hmem => by
    rcases List.mem_cons.mp hmem with rfl | hmem
    · exact List.foldlRecOn l f (hx b) fun b hb a _ => hkeep b a hb
    · exact foldl_reaches hkeep hx l (f b a) hmem

/-- **There is an entry for every cookie rules were computed for**, with these rules if they are the
same for every socket held under it. -/
theorem exists_updateRuleCache (o : IterOrder) (t : CounterTree)
    (root : TrafficItemId × TrafficItemType) (m : RuleManager) {c : SocketCookie} {a p r : Ref}
    (hreached : t.shape.Reached root c a p r) {rules : TrafficItemRulesBase}
    (hrules : ∀ a p r, t.shape.Reached root c a p r → m.inForce t.shape a p r = rules) :
    ∃ e, (updateRuleCache o t root m).socketCookieRules.lookup c = some e ∧ e.rules = rules := by
  have hkeep : ∀ q (m : RuleManager) (entry : SocketCookie × Ref),
      m.socketCookieRules.lookup c ≠ none →
      (cacheSocket q t m entry).socketCookieRules.lookup c ≠ none := by
    intro q m entry h
    rw [lookup_cacheSocket]
    split
    · exact Option.some_ne_none _
    · exact h
  have hprocess : ∀ q (m : RuleManager), (cacheProcess o q t m p).socketCookieRules.lookup c ≠ none := by
    intro q m
    refine foldl_reaches (hkeep _) (x := (c, r)) (fun m => ?_) _ m
      ((o.mem_entries _ c r).mpr hreached.2.2)
    rw [lookup_cacheSocket, if_pos rfl]
    exact Option.some_ne_none _
  have hkeepProcess : ∀ q (m : RuleManager) p, m.socketCookieRules.lookup c ≠ none →
      (cacheProcess o q t m p).socketCookieRules.lookup c ≠ none :=
    fun q m p h => List.foldlRecOn
      (motive := fun m : RuleManager => m.socketCookieRules.lookup c ≠ none) _ _ h
      fun m hm entry _ => hkeep _ m entry hm
  have happ : ∀ m : RuleManager, (cacheApp o t m a).socketCookieRules.lookup c ≠ none :=
    fun m => foldl_reaches (hkeepProcess _) (hprocess _) _ m ((o.mem_values _ p).mpr hreached.2.1)
  have hkeepApp : ∀ (m : RuleManager) a, m.socketCookieRules.lookup c ≠ none →
      (cacheApp o t m a).socketCookieRules.lookup c ≠ none :=
    fun m a h => List.foldlRecOn
      (motive := fun m : RuleManager => m.socketCookieRules.lookup c ≠ none) _ _ h
      fun m hm p _ => hkeepProcess _ m p hm
  have hcached : (updateRuleCache o t root m).socketCookieRules.lookup c ≠ none := by
    have ha := hreached.1
    unfold updateRuleCache
    obtain ⟨i, ty⟩ := root
    cases ty with
    | system => exact foldl_reaches hkeepApp happ _ m ((o.mem_values _ a).mpr ha)
    | application => exact (show a = i from ha) ▸ happ m
    | _ => exact ha.elim
  obtain ⟨e, he⟩ := Option.ne_none_iff_exists'.mp hcached
  refine ⟨e, he, ?_⟩
  have hvalue := congrFun ((computes_updateRuleCache o t root).cachedValue m) c
  unfold RuleManager.cachedValue at hvalue
  rw [he] at hvalue
  refine hvalue.trans (writes_of_mem _ _ ⟨(c, m.inForce t.shape a p r), ?_, rfl⟩ fun v hv hc => ?_)
  · exact (mem_visits o t root m _).mpr ⟨a, p, r, hreached, rfl⟩
  · obtain ⟨a, p, r, h, hv⟩ := (mem_visits o t root m v).mp hv
    rw [hv]
    exact hrules a p r (hc ▸ h)

/-! ## Default rules -/

/-- The rules are equal up to the rule type. -/
structure SameButType (r r' : TrafficItemRules) : Prop where
  base : r'.asBase = r.asBase
  uploadLimit : r'.uploadLimit = r.uploadLimit
  downloadLimit : r'.downloadLimit = r.downloadLimit

/-- The rule type of the parent does not count. -/
theorem SameButType.getEffectiveRules {p p' : TrafficItemRules} (h : SameButType p p')
    (r : TrafficItemRules) :
    SameButType (Waechter.getEffectiveRules p r) (Waechter.getEffectiveRules p' r) := by
  obtain ⟨hb, hu, hd⟩ := h
  simp only [TrafficItemRules.asBase] at hb
  constructor <;>
    simp only [Waechter.getEffectiveRules, TrafficItemRules.asBase, hb, hu, hd]

theorem sameButType_of_isDefault {r : TrafficItemRules} (h : r.isDefault = true) :
    SameButType r {} := by
  obtain ⟨⟨us, ds, um, dm⟩, ul, dl, ty⟩ := r
  simp only [TrafficItemRules.isDefault, Bool.and_eq_true, decide_eq_true_eq] at h
  obtain ⟨⟨⟨⟨⟨rfl, rfl⟩, rfl⟩, rfl⟩, rfl⟩, rfl⟩ := h
  exact ⟨rfl, rfl, rfl⟩

/-- What `RemoveEmptyRules` leaves of a rule. -/
def dropDefault (r : TrafficItemRules) : TrafficItemRules := if r.isDefault then {} else r

/-- A default rule has no effect, whatever its type. -/
theorem sameButType_dropDefault {p p' : TrafficItemRules} (h : SameButType p p')
    (r : TrafficItemRules) :
    SameButType (Waechter.getEffectiveRules p r) (Waechter.getEffectiveRules p' (dropDefault r)) := by
  unfold dropDefault
  split
  · rename_i hd
    unfold TrafficItemRules.isDefault at hd
    simp only [Bool.and_eq_true, decide_eq_true_eq] at hd
    obtain ⟨⟨⟨⟨⟨h1, h2⟩, h3⟩, h4⟩, h5⟩, h6⟩ := hd
    have hlimit : ∀ l : BytesPerSecond, getEffectiveLimit l 0 r.ruleType = l := by
      intro l
      unfold getEffectiveLimit
      by_cases hl : l = 0 <;> simp [hl]
    obtain ⟨hb, hu, hdl⟩ := h
    simp only [TrafficItemRules.asBase] at hb
    constructor
    · simp only [Waechter.getEffectiveRules, TrafficItemRules.asBase, h1, h2, h3, h4, hb,
        getEffectiveSwitchState, getEffectiveMark]
      cases r.ruleType <;> simp
    · simp only [Waechter.getEffectiveRules, h5, hlimit, hu]
      rfl
    · simp only [Waechter.getEffectiveRules, h6, hlimit, hdl]
      rfl
  · exact h.getEffectiveRules r

theorem rulesOf_eraseIf (map : UMap TrafficItemId TrafficItemRules) (i : TrafficItemId) :
    rulesOf (UMap.eraseIf TrafficItemRules.isDefault map) i = dropDefault (rulesOf map i) := by
  unfold rulesOf dropDefault
  rw [UMap.lookup_eraseIf]
  cases map.lookup i with
  | none => simp
  | some r => by_cases hr : r.isDefault = true <;> simp [Option.filter, hr]

/-- **Removing the default rules changes no effective rules.** -/
theorem inForce_removeEmptyRules (m : RuleManager) (t : TreeShape) (a p r : Ref) :
    m.removeEmptyRules.inForce t a p r = m.inForce t a p r := by
  have hsystem : SameButType m.systemRules (dropDefault m.systemRules) := by
    unfold dropDefault
    split
    · rename_i hd
      exact sameButType_of_isDefault hd
    · exact ⟨rfl, rfl, rfl⟩
  unfold inForce effectiveSocketRules
  simp only [removeEmptyRules, rulesOf_eraseIf]
  exact (sameButType_dropDefault (sameButType_dropDefault (sameButType_dropDefault hsystem _) _)
    _).base

theorem Clean.removeEmptyRules {m : RuleManager} (h : m.Clean) : m.removeEmptyRules.Clean := by
  intro c e h0 he
  simp only [RuleManager.removeEmptyRules, UMap.lookup_eraseIf, Option.filter_eq_some_iff] at he
  exact h c e h0 he.1

theorem InSync.removeEmptyRules {x : SocketCookie → Prop} {t : TreeShape} {m : RuleManager}
    (h : InSync x t m) : InSync x t m.removeEmptyRules := by
  intro c r hr hx
  unfold effective
  rw [inForce_removeEmptyRules]
  exact h c r hr hx

end RuleManager

end Waechter
