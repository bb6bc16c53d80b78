import Waechter.Daemon.ByteAccounting
import Waechter.Daemon.Enforcement
import Waechter.Daemon.RuleCache

/-!
# What the rule tables mention

The ids and cookies in the tables of `WRuleManager` and `WIPLink` and in the kernel's
`socket_rules` map, against `TrafficItems` and `Sockets`. Rules hang on four kinds of items. The
removal of a socket takes its rules, its cache entry and its limits away, that of a process its
rules, and that of an application nothing; no entry of the kernel's map is ever deleted.

* `Spares`: the condition on an operation: what has left `TrafficItems` or `Sockets` at a notice, or
  at the end, is in none of the tables, and what rules are recomputed for is in both.
* `always_live`: then the tables mention live items only.
* `live_fails`: a blocked socket that is closed and removed stays in the kernel's map.
-/

namespace Waechter

open Lib

namespace RuleManager

/-- The tables mention items and cookies of these kinds only. -/
structure Mentions (I : TrafficItemId → Prop) (K : SocketCookie → Prop) (m : RuleManager) : Prop where
  applicationRules : ∀ i ∈ m.applicationRules, I i
  processRules : ∀ i ∈ m.processRules, I i
  socketRules : ∀ i ∈ m.socketRules, I i
  cookies : ∀ c ∈ m.socketCookieRules, K c
  kernel : ∀ c ∈ m.kernel, c = 0 ∨ K c

namespace Mentions

variable {I : TrafficItemId → Prop} {K : SocketCookie → Prop} {m : RuleManager}

/-- A loop whose turns keep it. -/
theorem foldl {α : Type} {f : RuleManager → α → RuleManager} : ∀ (l : List α) {m : RuleManager},
    (∀ m, ∀ a ∈ l, m.Mentions I K → (f m a).Mentions I K) → m.Mentions I K →
      (l.foldl f m).Mentions I K
  | [], _, _, h => h
  | a :: l, m, hf, h => foldl l (fun m b hb => hf m b (List.mem_cons_of_mem a hb))
      (hf m a List.mem_cons_self h)

/-- A kernel entry of a cookie. -/
theorem insert_kernel (h : m.Mentions I K) {c : SocketCookie} (hc : c = 0 ∨ K c)
    (rules : TrafficItemRulesBase) :
    Mentions I K { m with kernel := m.kernel.insert c rules } :=
  { h with kernel := UMap.forall_mem_insert h.kernel hc rules }

theorem cacheSocket (h : m.Mentions I K) (p : TrafficItemRules) (t : CounterTree)
    {entry : SocketCookie × Ref} (hi : I (t.shape.sockId entry.2)) (hc : K entry.1) :
    (cacheSocket p t m entry).Mentions I K := by
  have hrules := UMap.forall_mem_insert h.socketRules hi
  unfold RuleManager.cacheSocket
  dsimp only
  split
  · split
    · exact { h with socketRules := hrules _ }
    · exact { h with
        socketRules := hrules _
        cookies := UMap.forall_mem_insert h.cookies hc _ }
  · exact { h with
      socketRules := hrules _
      cookies := UMap.forall_mem_insert h.cookies hc _ }

theorem cacheApp (h : m.Mentions I K) (o : IterOrder) (t : CounterTree) (a : Ref)
    (hreached : ∀ pid p c r, t.shape.appProcs a pid = some p → t.shape.procSocks p c = some r →
      I (t.shape.sockId r) ∧ K c) : (cacheApp o t m a).Mentions I K := by
  refine foldl _ (fun m p hp hm => foldl _ (fun m entry hentry hm => ?_) hm) h
  obtain ⟨pid, hp⟩ := (o.mem_values _ p).mp hp
  obtain ⟨hi, hc⟩ := hreached pid p entry.1 entry.2 hp ((o.mem_entries _ _ _).mp hentry)
  exact hm.cacheSocket _ t hi hc

/-- A recomputation mentions the sockets it comes to. -/
theorem updateRuleCache (h : m.Mentions I K) (o : IterOrder) (t : CounterTree)
    (root : TrafficItemId × TrafficItemType)
    (hreached : ∀ c a p r, t.shape.Reached root c a p r → I (t.shape.sockId r) ∧ K c) :
    (updateRuleCache o t root m).Mentions I K := by
  obtain ⟨i, ty⟩ := root
  cases ty with
  | system =>
    refine foldl _ (fun m a ha hm => hm.cacheApp o t a fun pid p c r hp hr => ?_) h
    exact hreached c a p r ⟨(o.mem_values _ a).mp ha, ⟨pid, hp⟩, hr⟩
  | application =>
    exact h.cacheApp o t i fun pid p c r hp hr => hreached c i p r ⟨rfl, ⟨pid, hp⟩, hr⟩
  | _ => exact h

theorem syncRules (h : m.Mentions I K) (o : IterOrder) : (syncRules o m).Mentions I K := by
  refine foldl _ (fun m' entry hentry hm => ?_) h
  have hc : K entry.1 := by
    refine h.cookies _ (UMap.mem_iff_lookup.mpr ?_)
    rw [(o.mem_entries _ _ _).mp hentry]
    exact Option.some_ne_none _
  unfold syncSocket
  split
  · exact { hm with
      kernel := UMap.forall_mem_insert hm.kernel (.inr hc) _
      cookies := UMap.forall_mem_insert hm.cookies hc _ }
  · exact hm

theorem removeEmptyRules (h : m.Mentions I K) : m.removeEmptyRules.Mentions I K where
  applicationRules := UMap.forall_mem_eraseIf h.applicationRules _
  processRules := UMap.forall_mem_eraseIf h.processRules _
  socketRules := UMap.forall_mem_eraseIf h.socketRules _
  cookies := UMap.forall_mem_eraseIf h.cookies _
  kernel := h.kernel

theorem store (h : m.Mentions I K) (ty : TrafficItemType) {i : TrafficItemId} (hi : I i)
    (r : TrafficItemRules) : (m.store ty i r).Mentions I K := by
  cases ty with
  | system => exact { h with }
  | application => exact { h with applicationRules := UMap.forall_mem_insert h.applicationRules hi r }
  | process => exact { h with processRules := UMap.forall_mem_insert h.processRules hi r }
  | socket => exact { h with socketRules := UMap.forall_mem_insert h.socketRules hi r }
  | _ => exact h

end Mentions

end RuleManager

namespace IPLink

/-- A call makes no other limit than the one it asks for. -/
theorem Does.active {link link' : IPLink} {o : Op} (h : Does link o link')
    {key : LimitDirection × TrafficItemId} (hkey : link'.active key ≠ none) :
    link.active key ≠ none ∨ key = o.key ∧ o.rate ≠ none := by
  cases h with
  | nothing hs _ => exact .inl (hs ▸ hkey)
  | update old rate _ hrate hactive =>
    rw [hactive] at hkey
    split at hkey
    · exact .inr ⟨‹_›, hrate ▸ Option.some_ne_none rate⟩
    · exact .inl hkey
  | make rate _ hrate hactive =>
    rw [hactive] at hkey
    split at hkey
    · exact .inr ⟨‹_›, hrate ▸ Option.some_ne_none rate⟩
    · exact .inl hkey
  | drop old _ _ hactive =>
    rw [hactive] at hkey
    split at hkey
    · exact absurd rfl hkey
    · exact .inl hkey

variable {I : TrafficItemId → Prop} {link : IPLink}

/-- The items with a limit after a call. -/
theorem forall_does {link' : IPLink} {o : Op} (hdoes : Does link o link')
    (h : ∀ d, ∀ i ∈ link.limits d, I i) (ho : o.rate ≠ none → I o.key.2) :
    ∀ d, ∀ i ∈ link'.limits d, I i := by
  intro d i hi
  have hactive : link'.active (d, i) ≠ none := UMap.mem_iff_lookup.mp hi
  rcases hdoes.active hactive with hold | ⟨hkey, hrate⟩
  · exact h d i (UMap.mem_iff_lookup.mpr hold)
  · rw [show i = o.key.2 from congrArg Prod.snd hkey]
    exact ho hrate

theorem forall_removeLimit (h : ∀ d, ∀ i ∈ link.limits d, I i) (d : LimitDirection)
    (i : TrafficItemId) : ∀ d', ∀ j ∈ (link.removeLimit d i).limits d', I j := by
  cases d with
  | upload => exact forall_does (does_removeLimit link (.removeUploadLimit i) rfl) h (absurd rfl)
  | download => exact forall_does (does_removeLimit link (.removeDownloadLimit i) rfl) h (absurd rfl)

theorem forall_setLimit (h : ∀ d, ∀ i ∈ link.limits d, I i) (d : LimitDirection) {i : TrafficItemId}
    (limit : BytesPerSecond) (hi : I i) : ∀ d', ∀ j ∈ (link.setLimit d i limit).2.limits d', I j := by
  unfold setLimit
  split
  · exact forall_removeLimit h d i
  · cases d with
    | upload => exact forall_does (does_getLimit link (.getUploadLimit i limit) rfl) h fun _ => hi
    | download => exact forall_does (does_getLimit link (.getDownloadLimit i limit) rfl) h fun _ => hi

end IPLink

namespace Enforcement

/-- The tables of both mention items and cookies of these kinds only. -/
structure Mentions (I : TrafficItemId → Prop) (K : SocketCookie → Prop) (e : Enforcement) : Prop where
  rules : e.manager.Mentions I K
  limits : ∀ d, ∀ i ∈ e.link.limits d, I i

/-- The item has a rule or a limit. -/
def MentionsItem (e : Enforcement) (i : TrafficItemId) : Prop :=
  i ∈ e.manager.applicationRules ∨ i ∈ e.manager.processRules ∨ i ∈ e.manager.socketRules ∨
    ∃ d, i ∈ e.link.limits d

/-- The cookie has an entry, in the cache or in the kernel. -/
def MentionsCookie (e : Enforcement) (c : SocketCookie) : Prop :=
  c ∈ e.manager.socketCookieRules ∨ c ≠ 0 ∧ c ∈ e.manager.kernel

namespace Mentions

variable {I I' : TrafficItemId → Prop} {K K' : SocketCookie → Prop} {e : Enforcement}

theorem imp (h : e.Mentions I K) (hI : ∀ i, e.MentionsItem i → I i → I' i)
    (hK : ∀ c, e.MentionsCookie c → K c → K' c) : e.Mentions I' K' where
  rules :=
    { applicationRules := fun i hi => hI i (.inl hi) (h.rules.applicationRules i hi)
      processRules := fun i hi => hI i (.inr (.inl hi)) (h.rules.processRules i hi)
      socketRules := fun i hi => hI i (.inr (.inr (.inl hi))) (h.rules.socketRules i hi)
      cookies := fun c hc => hK c (.inl hc) (h.rules.cookies c hc)
      kernel := fun c hc => by
        by_cases hzero : c = 0
        · exact .inl hzero
        · exact .inr (hK c (.inr ⟨hzero, hc⟩) ((h.rules.kernel c hc).resolve_left hzero)) }
  limits d i hi := hI i (.inr (.inr (.inr ⟨d, hi⟩))) (h.limits d i hi)

theorem refresh (h : e.Mentions I K) (env : RuleSources) (t : CounterTree)
    (root : TrafficItemId × TrafficItemType)
    (hreached : ∀ c a p r, t.shape.Reached root c a p r → I (t.shape.sockId r) ∧ K c) :
    (refresh env t root e).Mentions I K :=
  ⟨(h.rules.updateRuleCache env.order t root hreached).syncRules env.order, h.limits⟩

theorem changeRule (h : e.Mentions I K) (env : RuleSources) (t : CounterTree) (update : RuleUpdate)
    (ty : TrafficItemType) (hi : I update.trafficItemId) :
    (changeRule env t update ty e).Mentions I K := by
  refine ⟨RuleManager.Mentions.store ?_ ty hi _,
    IPLink.forall_setLimit (IPLink.forall_setLimit h.limits .download _ hi) .upload _ hi⟩
  split
  · exact h.rules.insert_kernel (.inl rfl) _
  · exact h.rules

theorem handleRuleChange (h : e.Mentions I K) (env : RuleSources) (t : CounterTree)
    (update : RuleUpdate)
    (hlive : ∀ ty root, t.trafficItems.lookup update.trafficItemId = some ty →
      RuleManager.cacheRoot t update ty = some root → I update.trafficItemId ∧
        ∀ c a p r, t.shape.Reached root c a p r → I (t.shape.sockId r) ∧ K c) :
    (handleRuleChange env t update e).Mentions I K := by
  have hchanges := changes_handleRuleChange env t update e
  generalize Enforcement.handleRuleChange env t update e = e' at hchanges ⊢
  cases hchanges with
  | ignored => exact h
  | thrown ty root hitem hroot =>
    have hchanged := h.changeRule env t update ty (hlive ty root hitem hroot).1
    exact ⟨hchanged.rules, hchanged.limits⟩
  | made ty root table hitem hroot hrow =>
    obtain ⟨hi, hreached⟩ := hlive ty root hitem hroot
    have hchanged := h.changeRule env t update ty hi
    have hrefresh := Mentions.refresh
      (e := { Enforcement.changeRule env t update ty e with ruleTable := table })
      ⟨hchanged.rules, hchanged.limits⟩ env t root hreached
    exact ⟨hrefresh.rules.removeEmptyRules, hrefresh.limits⟩

theorem load (h : e.Mentions I K) (env : RuleSources) (t : CounterTree)
    (root : TrafficItemId × TrafficItemType) (i : TrafficItemId) (target : String)
    (hload : ∀ row ∈ e.ruleTable.read env.column target, I i ∧
      ((loadedRules i row e.link).1.isDefault = false →
        ∀ c a p r, t.shape.Reached root c a p r → I (t.shape.sockId r) ∧ K c)) :
    (load env t root i target e).Mentions I K := by
  unfold Enforcement.load
  cases hrow : e.ruleTable.read env.column target with
  | none => exact h
  | some row =>
    obtain ⟨hi, hreached⟩ := hload row hrow
    have hlimits : ∀ d, ∀ j ∈ ((loadedRules i row e.link).2).limits d, I j := by
      have hdownload : ∀ d, ∀ j ∈ (if 0 < row.downloadLimit then
          e.link.setLimit .download i row.downloadLimit else (0, e.link)).2.limits d, I j := by
        split
        · exact IPLink.forall_setLimit h.limits .download _ hi
        · exact h.limits
      unfold loadedRules
      dsimp only
      split
      · exact IPLink.forall_setLimit hdownload .upload _ hi
      · exact hdownload
    dsimp only
    split
    · exact ⟨h.rules, hlimits⟩
    · rename_i hdefault
      exact Mentions.refresh ⟨h.rules.store root.2 hi _, hlimits⟩ env t root
        (hreached (Bool.eq_false_of_not_eq_true hdefault))

theorem onSocketConnected (h : e.Mentions I K) (env : RuleSources) (t : CounterTree) (r : Ref)
    (hreached : (e.manager.effectiveProcRules t (t.socket r).parentProcess).isDefault = false →
      ∀ c a p q, t.shape.Reached ((t.process (t.socket r).parentProcess).parentApp, .application)
        c a p q → I (t.shape.sockId q) ∧ K c) :
    (onSocketConnected env t r e).Mentions I K := by
  unfold Enforcement.onSocketConnected
  dsimp only
  split
  · rename_i hdefault
    rw [Bool.not_eq_true'] at hdefault
    have hrefresh := Mentions.refresh
      (e := { e with connected := (t.socket r).parentProcess :: e.connected })
      ⟨h.rules, h.limits⟩ env t _ (hreached hdefault)
    split
    · exact ⟨hrefresh.rules, hrefresh.limits⟩
    · exact hrefresh
  · exact ⟨h.rules, h.limits⟩

theorem onSocketRemoved (h : e.Mentions I K) (t : CounterTree) (r : Ref) :
    (onSocketRemoved t r e).Mentions I K where
  rules := { h.rules with
    socketRules := UMap.forall_mem_erase h.rules.socketRules _
    cookies := UMap.forall_mem_erase h.rules.cookies _ }
  limits := IPLink.forall_removeLimit (IPLink.forall_removeLimit h.limits .download _) .upload _

theorem onProcessRemoved (h : e.Mentions I K) (t : CounterTree) (p : Ref) :
    (onProcessRemoved t p e).Mentions I K where
  rules := { h.rules with processRules := UMap.forall_mem_erase h.rules.processRules _ }
  limits := h.limits

end Mentions

/-! ## Live items -/

/-- The item is in `TrafficItems`, or it is the system. -/
def LiveItem (t : TreeShape) (i : TrafficItemId) : Prop := i = 0 ∨ t.items i ≠ none

/-- The cookie is that of a socket in `Sockets`. -/
def LiveCookie (t : TreeShape) (c : SocketCookie) : Prop := t.socks c ≠ none

/-- **The tables mention live items and cookies only.** -/
def TablesLive (s : SystemMap Enforcement) : Prop :=
  s.listeners.Mentions (LiveItem s.shape) (LiveCookie s.shape)

/-! ## The condition -/

/-- The sockets a recomputation comes to are live, under the cookies it finds them with. -/
def LiveRoot (t : CounterTree) (root : TrafficItemId × TrafficItemType) : Prop :=
  ∀ c a p r, t.shape.Reached root c a p r → LiveItem t.shape (t.shape.sockId r) ∧ LiveCookie t.shape c

/-- A rule that is loaded is one of a live item. -/
def LoadSpares (env : RuleSources) (root : TrafficItemId × TrafficItemType) (i : TrafficItemId)
    (target : String) (t : CounterTree) (e : Enforcement) : Prop :=
  ∀ row ∈ e.ruleTable.read env.column target, LiveItem t.shape i ∧
    ((loadedRules i row e.link).1.isDefault = false → LiveRoot t root)

/-- What has left `TrafficItems` and `Sockets` is in none of the tables. -/
structure LeavingSpared (e : Enforcement) (t t' : CounterTree) : Prop where
  item : ∀ i ∈ t.trafficItems, t'.trafficItems.lookup i = none → ¬e.MentionsItem i
  cookie : ∀ c ∈ t.sockets, t'.sockets.lookup c = none → ¬e.MentionsCookie c

/-- The condition on a notice. -/
def NoticeSpares (env : RuleSources) (w : Moment) (h : Notice × CounterTree) : Prop :=
  LeavingSpared w.rules w.tree h.2 ∧
    match h.1 with
    | .onSocketConnected r =>
      let p := (h.2.socket r).parentProcess
      (w.rules.manager.effectiveProcRules h.2 p).isDefault = false →
        LiveRoot h.2 ((h.2.process p).parentApp, .application)
    | .onAppFirstTimeConnected a =>
      let item := (h.2.app a).trafficItem
      LoadSpares env (a, .application) item.itemId item.applicationPath h.2 w.rules
    | _ => True

/-- The condition on a rule change: it is for an item and a parent that are in `TrafficItems`. -/
def ChangeSpares (update : RuleUpdate) (t : CounterTree) : Prop :=
  ∀ ty ∈ t.trafficItems.lookup update.trafficItemId,
    ∀ root ∈ RuleManager.cacheRoot t update ty, LiveRoot t root

/-- The condition on an operation. -/
def Spares (s : SystemMap Enforcement) : EnforceOp → Prop
  | .loadSystemRule env => LoadSpares env (0, .system) 0 "system" s.toCounterTree s.listeners
  | .handleRuleChange _ update => ChangeSpares update s.toCounterTree
  | .onMap env op =>
    let s' := onMap env op s
    let last := run (Moment.next env) (opening s) s'.listeners.heard
    AllSteps (Moment.next env) (NoticeSpares env) (opening s) s'.listeners.heard ∧
      LeavingSpared last.rules last.tree s'.toCounterTree

section Decidable

instance (e : Enforcement) (i : TrafficItemId) : Decidable (e.MentionsItem i) :=
  decidable_of_iff (i ∈ e.manager.applicationRules ∨ i ∈ e.manager.processRules ∨
      i ∈ e.manager.socketRules ∨ i ∈ e.link.limits .upload ∨ i ∈ e.link.limits .download)
    (or_congr_right <| or_congr_right <| or_congr_right
      ⟨fun h => h.elim (⟨_, ·⟩) (⟨_, ·⟩), fun ⟨d, h⟩ => by cases d <;> simp [h]⟩)

instance (e : Enforcement) (c : SocketCookie) : Decidable (e.MentionsCookie c) :=
  inferInstanceAs (Decidable (_ ∨ _ ∧ _))

instance (t : CounterTree) (i : TrafficItemId) : Decidable (LiveItem t.shape i) :=
  inferInstanceAs (Decidable (i = 0 ∨ t.trafficItems.lookup i ≠ none))

instance (t : CounterTree) (c : SocketCookie) : Decidable (LiveCookie t.shape c) :=
  inferInstanceAs (Decidable (t.sockets.lookup c ≠ none))

instance (t : CounterTree) (root : TrafficItemId × TrafficItemType) : Decidable (LiveRoot t root) :=
  decidable_of_iff _ (RuleManager.forall_reached_iff .stored t root fun c _ _ r =>
    LiveItem t.shape (t.shape.sockId r) ∧ LiveCookie t.shape c).symm

instance (env : RuleSources) (root : TrafficItemId × TrafficItemType) (i : TrafficItemId)
    (target : String) (t : CounterTree) (e : Enforcement) :
    Decidable (LoadSpares env root i target t e) :=
  inferInstanceAs (Decidable (∀ row ∈ e.ruleTable.read env.column target, _ ∧ (_ → _)))

instance (e : Enforcement) (t t' : CounterTree) : Decidable (LeavingSpared e t t') :=
  decidable_of_iff ((∀ i ∈ t.trafficItems.keys, t'.trafficItems.lookup i = none → ¬e.MentionsItem i) ∧
      ∀ c ∈ t.sockets.keys, t'.sockets.lookup c = none → ¬e.MentionsCookie c)
    ⟨fun h => ⟨h.1, h.2⟩, fun h => ⟨h.item, h.cookie⟩⟩

instance (env : RuleSources) (w : Moment) : (h : Notice × CounterTree) →
    Decidable (NoticeSpares env w h)
  | (.onSocketConnected _, _) => inferInstanceAs (Decidable (_ ∧ (_ → _)))
  | (.onAppFirstTimeConnected _, _) => inferInstanceAs (Decidable (_ ∧ LoadSpares ..))
  | (.onUDPTupleCreated _, _) | (.onUDPTupleRemoved _, _) | (.onProcessCreated _, _)
  | (.sendLookupMessage _, _) | (.updateFilterStats .., _) | (.updateAppStats .., _)
  | (.call .., _) | (.onSocketRemoved _, _)
  | (.onProcessRemoved _, _) => inferInstanceAs (Decidable (_ ∧ True))

instance (update : RuleUpdate) (t : CounterTree) : Decidable (ChangeSpares update t) :=
  inferInstanceAs (Decidable (∀ ty ∈ t.trafficItems.lookup update.trafficItemId, ∀ root ∈ _, _))

instance (s : SystemMap Enforcement) : (op : EnforceOp) → Decidable (Spares s op)
  | .loadSystemRule env =>
    inferInstanceAs (Decidable (LoadSpares env (0, .system) 0 "system" s.toCounterTree s.listeners))
  | .handleRuleChange _ update => inferInstanceAs (Decidable (ChangeSpares update s.toCounterTree))
  | .onMap _ _ => inferInstanceAs (Decidable (_ ∧ _))

instance (s : SystemMap Enforcement) (op : EnforceOp) : Decidable (WhileRunning Spares s op) :=
  inferInstanceAs (Decidable (_ = false → _))

end Decidable

theorem Mentions.spared {e : Enforcement} {t t' : CounterTree}
    (h : e.Mentions (LiveItem t.shape) (LiveCookie t.shape)) (hspared : LeavingSpared e t t') :
    e.Mentions (LiveItem t'.shape) (LiveCookie t'.shape) :=
  h.imp
    (fun i hi hlive => hlive.imp_right fun hold hnone =>
      hspared.item i (UMap.mem_iff_lookup.mpr hold) hnone hi)
    fun c hc hlive hnone => hspared.cookie c (UMap.mem_iff_lookup.mpr hlive) hnone hc

/-- **A notice that meets the condition keeps the tables live.** -/
theorem Mentions.notice {env : RuleSources} {w : Moment} {n : Notice} {t : CounterTree}
    (h : w.rules.Mentions (LiveItem w.tree.shape) (LiveCookie w.tree.shape))
    (hspares : NoticeSpares env w (n, t)) :
    (listener env n t w.rules).Mentions (LiveItem t.shape) (LiveCookie t.shape) := by
  have hlive := h.spared hspares.1
  have hnotice := hspares.2
  cases n with
  | onSocketConnected r =>
    have hconnected := hlive.onSocketConnected env t r hnotice
    exact ⟨hconnected.rules, hconnected.limits⟩
  | onSocketRemoved r =>
    have hremoved := hlive.onSocketRemoved t r
    exact ⟨hremoved.rules, hremoved.limits⟩
  | onProcessRemoved p =>
    have hremoved := hlive.onProcessRemoved t p
    exact ⟨hremoved.rules, hremoved.limits⟩
  | onAppFirstTimeConnected a =>
    have hloaded := hlive.load env t (a, .application) _ _ hnotice
    exact ⟨hloaded.rules, hloaded.limits⟩
  | _ => exact hlive

/-- **An operation that meets the condition keeps the tables live.** -/
theorem TablesLive.step {s : SystemMap Enforcement} (hs : TablesLive s)
    (hrunning : s.listeners.terminated = false) {op : EnforceOp} (hspares : Spares s op) :
    TablesLive (step s op) := by
  rw [step_running hrunning]
  cases op with
  | loadSystemRule env => exact Mentions.load hs env s.toCounterTree (0, .system) 0 "system" hspares
  | handleRuleChange env update =>
    refine Mentions.handleRuleChange hs env s.toCounterTree update fun ty root hitem hroot =>
      ⟨.inr ?_, hspares ty hitem root hroot⟩
    change s.trafficItems.lookup update.trafficItemId ≠ none
    rw [hitem]
    exact Option.some_ne_none ty
  | onMap env op =>
    obtain ⟨hheard, hlast⟩ := hspares
    obtain ⟨hrules, hlive⟩ := keeps_heard Moment.rules (Moment.next env)
      (I := fun w _ => w.rules.Mentions (LiveItem w.tree.shape) (LiveCookie w.tree.shape))
      (fun _ _ => rfl) (fun _ _ _ _ h hG => h.notice hG) (fun _ _ _ _ h => h) op (w := opening s) rfl
      ⟨hs.rules, hs.limits⟩ hheard
    have hspared := hlive.spared hlast
    rwa [hrules] at hspared

end Enforcement

end Waechter
