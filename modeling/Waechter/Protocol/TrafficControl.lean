import Waechter.Daemon.IPLink
import Waechter.Daemon.IPLinkProc

/-!
# The limits and the traffic control

The daemon keeps the limits (`WIPLink`), the helper process the classes and filters that enforce
them. The process executes what the daemon sends in order, starting from the state `Init` leaves.

* `refines_run`: whatever the calls, each active limit has its class and its filter at the latest
  rate, and the interfaces have no other ones, as long as the two directions have different
  interfaces and the class ids do not start again.
* `ifb_shared`: when the network interface is the IFB device itself, the two root limits share a
  class.
-/

namespace Waechter

open Lib

namespace IPLink

/-- An interface has what the limits of its direction say: each limit of an item its class and its
filter, the root limit the rate of class 10, and there are no other classes, but for the inner one,
and no other filters. -/
structure Shows (limits : TrafficItemId → Option BandwidthLimit) (v : TcDevice) : Prop where
  installed : ∀ item limit, item ≠ 0 → limits item = some limit →
    v.classes.lookup limit.minorId.toNat =
        some (IPLinkProc.classAt (.ofLimit limit.rateLimit)) ∧
      v.filters.lookup limit.mark = some limit.minorId.toNat
  classes : ∀ minor htbClass, v.classes.lookup minor = some htbClass → minor = 1 ∨ minor = 10 ∨
    ∃ item limit, item ≠ 0 ∧ limits item = some limit ∧ limit.minorId.toNat = minor
  filters : ∀ mark minor, v.filters.lookup mark = some minor →
    ∃ item limit, item ≠ 0 ∧ limits item = some limit ∧ limit.mark = mark ∧
      limit.minorId.toNat = minor
  root : v.classes.lookup 10 = some (IPLinkProc.classAt
    (((limits 0).map fun limit => .ofLimit limit.rateLimit).getD .oneGbit))

/-- The interfaces have what the limits say, and those are the latest ones: `table` holds them by
direction and item. No two limits share an id. -/
structure Refines (table : LimitDirection × TrafficItemId → Option BytesPerSecond) (s : IPLink)
    (n : TcState) : Prop where
  latest : ∀ key, (s.active key).map (·.rateLimit) = table key
  distinct : ∀ key key' limit limit', s.active key = some limit → s.active key' = some limit' →
    limit.mark = limit'.mark ∨ limit.minorId = limit'.minorId → key = key'
  interfaces : ∀ d, Shows (fun item => s.active (d, item)) (n (s.interfaceName d))

/-- The traffic control when the messages of a run are executed after `Init`. -/
def control (ingressInterface mainInterface : String) (s : IPLink) (n : TcState) : TcState :=
  s.sent.foldl IPLinkProc.processMessage
    (IPLinkProc.init ifbDev ingressInterface mainInterface n).2

/-! ## Start -/

/-- The daemon after its start. -/
def start (mainInterface : String) : IPLink := { networkInterfaceName := mainInterface }

theorem active_start (mainInterface : String) (key : LimitDirection × TrafficItemId) :
    (start mainInterface).active key = none := by
  obtain ⟨d, item⟩ := key
  cases d <;> rfl

theorem plain_ifbDev : IPLinkProc.Plain ifbDev := by decide

/-- What the interfaces have in common after `Init`. -/
theorem init_interface {ingressInterface mainInterface : String}
    (hingress : IPLinkProc.Plain ingressInterface) (hmain : IPLinkProc.Plain mainInterface)
    (n : TcState) (d : LimitDirection) :
    (IPLinkProc.init ifbDev ingressInterface mainInterface n).2
      ((start mainInterface).interfaceName d) = IPLinkProc.freshDevice := by
  rw [IPLinkProc.init_eq plain_ifbDev hingress hmain]
  cases d with
  | upload => exact Function.update_self ..
  | download =>
    by_cases h : ifbDev = mainInterface
    · simp only [interfaceName, Command.on, h, Function.update_self]
    · simp only [interfaceName, Command.on, Function.update_of_ne h, Function.update_self]

theorem shows_fresh : Shows (fun _ => none) IPLinkProc.freshDevice := by
  refine ⟨fun _ _ _ h => (nomatch h), fun minor htbClass h => ?_,
    fun mark minor h => Option.noConfusion rfl (heq_of_eq h), ?_⟩
  · rw [IPLinkProc.freshDevice, UMap.lookup_insert_ite, UMap.lookup_insert_ite] at h
    split at h
    · exact .inr (.inl ‹_›)
    · split at h
      · exact .inl ‹_›
      · exact Option.noConfusion rfl (heq_of_eq h)
  · rw [IPLinkProc.freshDevice, UMap.lookup_insert_ite, if_pos rfl]
    rfl

theorem refines_start {ingressInterface mainInterface : String}
    (hingress : IPLinkProc.Plain ingressInterface) (hmain : IPLinkProc.Plain mainInterface)
    (n : TcState) :
    Refines (fun _ => none) (start mainInterface)
      (control ingressInterface mainInterface (start mainInterface) n) := by
  refine ⟨fun key => by rw [active_start, Option.map_none], fun key _ limit _ h => ?_, fun d => ?_⟩
  · rw [active_start] at h
    exact Option.noConfusion rfl (heq_of_eq h)
  · rw [show control ingressInterface mainInterface (start mainInterface) n
      ((start mainInterface).interfaceName d) = IPLinkProc.freshDevice from
        init_interface hingress hmain n d]
    simp only [active_start]
    exact shows_fresh

/-! ## A message -/

section Message

variable {limits : TrafficItemId → Option BandwidthLimit} {v : TcDevice} {item : TrafficItemId}
  {limit : BandwidthLimit}

/-- The limits of other items do not have the ids of the limit. -/
def Others (limits : TrafficItemId → Option BandwidthLimit) (item : TrafficItemId)
    (limit : BandwidthLimit) : Prop :=
  ∀ item' limit', item' ≠ item → limits item' = some limit' →
    limit'.mark ≠ limit.mark ∧ limit'.minorId.toNat ≠ limit.minorId.toNat

/-- The limit of an item is set up, for the first time or with a new rate. -/
theorem Shows.put (h : Shows limits v) (hothers : Others limits item limit) (hitem : item ≠ 0)
    (hten : limit.minorId.toNat ≠ 10)
    (hold : ∀ old, limits item = some old → old.mark = limit.mark ∧ old.minorId = limit.minorId) :
    Shows (Function.update limits item (some limit))
      { classes := v.classes.insert limit.minorId.toNat
          (IPLinkProc.classAt (.ofLimit limit.rateLimit))
        filters := v.filters.insert limit.mark limit.minorId.toNat } := by
  have hself : Function.update limits item (some limit) item = some limit :=
    Function.update_self ..
  -- what was there belongs to another item, or is the limit itself
  have hkeep : ∀ item' limit', limits item' = some limit' →
      ∃ new, Function.update limits item (some limit) item' = some new ∧
        new.mark = limit'.mark ∧ new.minorId = limit'.minorId := by
    intro item' limit' hlimit'
    by_cases hne : item' = item
    · subst hne
      obtain ⟨hmark, hminor⟩ := hold limit' hlimit'
      exact ⟨limit, hself, hmark.symm, hminor.symm⟩
    · exact ⟨limit', by rw [Function.update_of_ne hne, hlimit'], rfl, rfl⟩
  refine ⟨fun item' limit' hitem' hlimit' => ?_, fun minor htbClass hclass => ?_,
    fun mark minor hfilter => ?_, ?_⟩
  · by_cases hne : item' = item
    · rw [hne, hself] at hlimit'
      cases hlimit'
      exact ⟨by rw [UMap.lookup_insert_ite, if_pos rfl], by rw [UMap.lookup_insert_ite, if_pos rfl]⟩
    · rw [Function.update_of_ne hne] at hlimit'
      obtain ⟨hmark, hminor⟩ := hothers item' limit' hne hlimit'
      rw [UMap.lookup_insert_ite, if_neg hminor, UMap.lookup_insert_ite, if_neg hmark]
      exact h.installed item' limit' hitem' hlimit'
  · rw [UMap.lookup_insert_ite] at hclass
    split at hclass
    · rename_i hminor
      exact .inr (.inr ⟨item, limit, hitem, hself, hminor.symm⟩)
    · refine (h.classes minor htbClass hclass).imp_right (Or.imp_right ?_)
      rintro ⟨item', limit', hitem', hlimit', hminor⟩
      obtain ⟨new, hnew, -, hnewminor⟩ := hkeep item' limit' hlimit'
      exact ⟨item', new, hitem', hnew, hnewminor ▸ hminor⟩
  · rw [UMap.lookup_insert_ite] at hfilter
    split at hfilter
    · rename_i hmark
      exact ⟨item, limit, hitem, hself, hmark.symm, Option.some.inj hfilter⟩
    · obtain ⟨item', limit', hitem', hlimit', hmark, hminor⟩ := h.filters mark minor hfilter
      obtain ⟨new, hnew, hnewmark, hnewminor⟩ := hkeep item' limit' hlimit'
      exact ⟨item', new, hitem', hnew, hnewmark.trans hmark, hnewminor ▸ hminor⟩
  · rw [UMap.lookup_insert_ite, if_neg hten.symm, Function.update_of_ne hitem.symm]
    exact h.root

/-- The limit of an item is removed. -/
theorem Shows.drop (h : Shows limits v) (hothers : Others limits item limit) (hitem : item ≠ 0)
    (hten : limit.minorId.toNat ≠ 10) (hlimit : limits item = some limit) :
    Shows (Function.update limits item none)
      { classes := v.classes.erase limit.minorId.toNat
        filters := v.filters.erase limit.mark } := by
  refine ⟨fun item' limit' hitem' hlimit' => ?_, fun minor htbClass hclass => ?_,
    fun mark minor hfilter => ?_, ?_⟩
  · by_cases hne : item' = item
    · rw [hne, Function.update_self] at hlimit'
      exact Option.noConfusion rfl (heq_of_eq hlimit')
    · rw [Function.update_of_ne hne] at hlimit'
      obtain ⟨hmark, hminor⟩ := hothers item' limit' hne hlimit'
      rw [UMap.lookup_erase_ite, if_neg hminor, UMap.lookup_erase_ite, if_neg hmark]
      exact h.installed item' limit' hitem' hlimit'
  · rw [UMap.lookup_erase_ite] at hclass
    split at hclass
    · exact Option.noConfusion rfl (heq_of_eq hclass)
    · rename_i hminor
      refine (h.classes minor htbClass hclass).imp_right (Or.imp_right ?_)
      rintro ⟨item', limit', hitem', hlimit', hminor'⟩
      have hne : item' ≠ item := by
        rintro rfl
        rw [hlimit] at hlimit'
        cases hlimit'
        exact hminor hminor'.symm
      exact ⟨item', limit', hitem', by rw [Function.update_of_ne hne, hlimit'], hminor'⟩
  · rw [UMap.lookup_erase_ite] at hfilter
    split at hfilter
    · exact Option.noConfusion rfl (heq_of_eq hfilter)
    · rename_i hmark
      obtain ⟨item', limit', hitem', hlimit', hmark', hminor'⟩ := h.filters mark minor hfilter
      have hne : item' ≠ item := by
        rintro rfl
        rw [hlimit] at hlimit'
        cases hlimit'
        exact hmark hmark'.symm
      exact ⟨item', limit', hitem', by rw [Function.update_of_ne hne, hlimit'], hmark', hminor'⟩
  · rw [UMap.lookup_erase_ite, if_neg hten.symm, Function.update_of_ne hitem.symm]
    exact h.root

/-- The rate of the root limit is set, or reset. -/
theorem Shows.setRoot (h : Shows limits v)
    (hten : ∀ item limit, limits item = some limit → limit.minorId.toNat ≠ 10)
    (new : Option BandwidthLimit) :
    Shows (Function.update limits 0 new)
      { v with
        classes := v.classes.insert 10 (IPLinkProc.classAt
          ((new.map fun limit => .ofLimit limit.rateLimit).getD .oneGbit)) } := by
  have hne {item : TrafficItemId} (hitem : item ≠ 0) :
      Function.update limits 0 new item = limits item := Function.update_of_ne hitem _ _
  refine ⟨fun item limit hitem hlimit => ?_, fun minor htbClass hclass => ?_,
    fun mark minor hfilter => ?_, ?_⟩
  · rw [hne hitem] at hlimit
    rw [UMap.lookup_insert_ite, if_neg (hten item limit hlimit)]
    exact h.installed item limit hitem hlimit
  · rw [UMap.lookup_insert_ite] at hclass
    split at hclass
    · exact .inr (.inl ‹_›)
    · refine (h.classes minor htbClass hclass).imp_right (Or.imp_right ?_)
      rintro ⟨item, limit, hitem, hlimit, hminor⟩
      exact ⟨item, limit, hitem, by rw [hne hitem, hlimit], hminor⟩
  · obtain ⟨item, limit, hitem, hlimit, hids⟩ := h.filters mark minor hfilter
    exact ⟨item, limit, hitem, by rw [hne hitem, hlimit], hids⟩
  · rw [UMap.lookup_insert_ite, if_pos rfl, Function.update_self]

end Message

/-! ## A call -/

variable {s s' : IPLink} {n : TcState} {key : LimitDirection × TrafficItemId}

/-- The interfaces of the directions are two. -/
theorem interfaceName_inj (hmain : s.networkInterfaceName ≠ ifbDev) {d d' : LimitDirection}
    (h : s.interfaceName d' = s.interfaceName d) : d' = d := by
  cases d <;> cases d'
  · rfl
  · exact absurd h.symm hmain
  · exact absurd h hmain
  · rfl

theorem interfaceName_congr (h : s'.networkInterfaceName = s.networkInterfaceName)
    (d : LimitDirection) : s'.interfaceName d = s.interfaceName d := by
  cases d
  · exact h
  · rfl

/-- A message about one direction leaves the other one alone. -/
theorem interfaces_on (hmain : s.networkInterfaceName ≠ ifbDev)
    (hname : s'.networkInterfaceName = s.networkInterfaceName) {new : Option BandwidthLimit}
    (hactive : ∀ key', s'.active key' = if key' = key then new else s.active key')
    (h : ∀ d, Shows (fun item => s.active (d, item)) (n (s.interfaceName d)))
    {f : TcDevice → TcDevice}
    (hf : Shows (Function.update (fun item => s.active (key.1, item)) key.2 new)
      (f (n (s.interfaceName key.1)))) (d : LimitDirection) :
    Shows (fun item => s'.active (d, item))
      (Command.on (s.interfaceName key.1) f n (s'.interfaceName d)) := by
  rw [interfaceName_congr hname]
  by_cases hd : d = key.1
  · subst hd
    rw [Command.on, Function.update_self]
    have hsame : (fun item => s'.active (key.1, item)) =
        Function.update (fun item => s.active (key.1, item)) key.2 new := by
      funext item
      simp only [hactive, Function.update_apply, Prod.ext_iff, true_and]
    rw [hsame]
    exact hf
  · rw [Command.on, Function.update_of_ne fun heq => hd (interfaceName_inj hmain heq)]
    have hsame : (fun item => s'.active (d, item)) = fun item => s.active (d, item) := by
      funext item
      rw [hactive, if_neg fun heq => hd (congrArg (·.1) heq)]
    rw [hsame]
    exact h d

/-- The interfaces of a state have plain names. -/
theorem plain_interfaceName (hmain : IPLinkProc.Plain s.networkInterfaceName) (d : LimitDirection) :
    IPLinkProc.Plain (s.interfaceName d) := by
  cases d
  · exact hmain
  · exact plain_ifbDev

/-- The ids of the counters leave class 10 to the root. -/
theorem minorId_ne_ten {k : Nat} (hs : Numbered k s) (hk : k < 2 ^ 16) {limit : BandwidthLimit}
    (hlimit : s.active key = some limit) : limit.minorId.toNat ≠ 10 := by
  obtain ⟨j, hj, hhas⟩ := hs.allocated key limit hlimit
  exact fun hten => hhas.minorId_ne (Nat.lt_of_le_of_lt hj hk) (UInt16.toNat_inj.mp hten)

theorem others_of_numbered {k : Nat} (hs : Numbered k s) {limit : BandwidthLimit}
    (hlimit : s.active key = some limit) :
    Others (fun item => s.active (key.1, item)) key.2 limit := by
  intro item limit' hne hlimit'
  have hown := fun hids => hne (congrArg (·.2) (hs.own (key.1, item) key limit' limit hlimit' hlimit
    hids))
  exact ⟨fun hmark => hown (.inl hmark), fun hminor => hown (.inr (UInt16.toNat_inj.mp hminor))⟩

/-- The message for a limit that is set up makes its interface show it. -/
theorem shows_setup {k k' : Nat} (hs : Numbered k s) (hk : k < 2 ^ 16) (hs' : Numbered k' s')
    (hk' : k' < 2 ^ 16) {limit : BandwidthLimit} {v : TcDevice}
    (h : Shows (fun item => s.active (key.1, item)) v)
    (hactive : ∀ key', s'.active key' = if key' = key then some limit else s.active key')
    (hold : ∀ old, s.active key = some old → old.mark = limit.mark ∧ old.minorId = limit.minorId) :
    Shows (Function.update (fun item => s.active (key.1, item)) key.2 (some limit))
      (if decide (key.2 = 0) then
        { v with
          classes := v.classes.insert 10 (IPLinkProc.classAt (.ofLimit limit.rateLimit)) }
      else
        { classes := v.classes.insert limit.minorId.toNat
            (IPLinkProc.classAt (.ofLimit limit.rateLimit))
          filters := v.filters.insert limit.mark limit.minorId.toNat }) := by
  have hnew : s'.active key = some limit := by rw [hactive, if_pos rfl]
  by_cases hroot : key.2 = 0
  · simp only [hroot, decide_true, if_true]
    exact h.setRoot (fun item limit hlimit => minorId_ne_ten hs hk hlimit) (some limit)
  · simp only [hroot, decide_false, Bool.false_eq_true, if_false]
    refine h.put (fun item limit' hne hlimit' => ?_) hroot (minorId_ne_ten hs' hk' hnew) hold
    refine others_of_numbered hs' hnew item limit' hne ?_
    simp only
    rw [hactive, if_neg fun heq => hne (congrArg (·.2) heq)]
    exact hlimit'

/-- The message for a limit that is dropped takes it off its interface. -/
theorem shows_remove {k : Nat} (hs : Numbered k s) (hk : k < 2 ^ 16) {limit : BandwidthLimit}
    {v : TcDevice} (h : Shows (fun item => s.active (key.1, item)) v)
    (hlimit : s.active key = some limit) :
    Shows (Function.update (fun item => s.active (key.1, item)) key.2 none)
      (if limit.isRoot then
        { v with classes := v.classes.insert 10 (IPLinkProc.classAt .oneGbit) }
      else
        { classes := v.classes.erase limit.minorId.toNat
          filters := v.filters.erase limit.mark }) := by
  rw [(hs.labelled key limit hlimit).2]
  by_cases hroot : key.2 = 0
  · simp only [hroot, decide_true, if_true]
    exact h.setRoot (fun item limit hlimit => minorId_ne_ten hs hk hlimit) none
  · simp only [hroot, decide_false, Bool.false_eq_true, if_false]
    exact h.drop (others_of_numbered hs hlimit) hroot (minorId_ne_ten hs hk hlimit) hlimit

/-- **The messages of a call carry the refinement over it.** -/
theorem Refines.step {table : LimitDirection × TrafficItemId → Option BytesPerSecond} {k k' : Nat}
    (h : Refines table s n) (hs : Numbered k s) (hk : k < 2 ^ 16) {o : Op}
    (hs' : Numbered k' (s.step o)) (hk' : k' < 2 ^ 16)
    (hplain : IPLinkProc.Plain s.networkInterfaceName) (hmain : s.networkInterfaceName ≠ ifbDev) :
    ∃ messages, (s.step o).sent = s.sent ++ messages ∧
      (s.step o).networkInterfaceName = s.networkInterfaceName ∧
      Refines (ask table o) (s.step o) (messages.foldl IPLinkProc.processMessage n) := by
  have hlatest : ∀ key, ((s.step o).active key).map (·.rateLimit) = ask table o key := by
    intro key
    have htable : (fun key => (s.active key).map (·.rateLimit)) = table := funext h.latest
    rw [← htable]
    exact congrFun (table_step s o) key
  cases does_step s o with
  | nothing hsame hold =>
    refine ⟨[], by rw [hsame, List.append_nil], by rw [hsame], hlatest, hs'.own, ?_⟩
    rw [hsame]
    exact h.interfaces
  | update old rate hold hrate hactive hsent hname hmark hminor =>
    refine ⟨_, hsent, hname, hlatest, hs'.own, ?_⟩
    rw [List.foldl_cons, List.foldl_nil, setupMsg,
      IPLinkProc.processMessage_setup (plain_interfaceName hplain _)]
    refine interfaces_on hmain hname hactive h.interfaces ?_
    refine shows_setup hs hk hs' hk' (h.interfaces o.key.1) hactive fun old' hold' => ?_
    rw [hold] at hold'
    cases hold'
    exact ⟨rfl, rfl⟩
  | make rate hold hrate hactive hsent hname hmark hminor =>
    refine ⟨_, hsent, hname, hlatest, hs'.own, ?_⟩
    rw [List.foldl_cons, List.foldl_nil, setupMsg,
      IPLinkProc.processMessage_setup (plain_interfaceName hplain _)]
    refine interfaces_on hmain hname hactive h.interfaces ?_
    refine shows_setup hs hk hs' hk' (h.interfaces o.key.1) hactive fun old hold' => ?_
    rw [hold] at hold'
    exact Option.noConfusion rfl (heq_of_eq hold')
  | drop old hold hrate hactive hsent hname hmark hminor =>
    refine ⟨_, hsent, hname, hlatest, hs'.own, ?_⟩
    have hdirection := (hs.labelled o.key old hold).1
    rw [List.foldl_cons, List.foldl_nil, removeMsg, hdirection,
      IPLinkProc.processMessage_remove (plain_interfaceName hplain _)]
    refine interfaces_on hmain hname hactive h.interfaces ?_
    exact shows_remove hs hk (h.interfaces o.key.1) hold

/-! ## Runs -/

theorem refines_from : ∀ (ops : List Op) {s : IPLink} {n : TcState}
      {table : LimitDirection × TrafficItemId → Option BytesPerSecond} {k : Nat},
      Refines table s n → Numbered k s → k + allocations s ops < 2 ^ 16 → IPLinkProc.Plain s.networkInterfaceName →
      s.networkInterfaceName ≠ ifbDev →
      ∃ messages, (run step s ops).sent = s.sent ++ messages ∧
        Refines (ops.foldl ask table) (run step s ops) (messages.foldl IPLinkProc.processMessage n)
  | [], s, n, table, k, h, _, _, _, _ => ⟨[], (List.append_nil _).symm, h⟩
  | o :: ops, s, n, table, k, h, hs, hcount, hplain, hmain => by
    rw [allocations, ← Nat.add_assoc] at hcount
    have hk : k < 2 ^ 16 := by omega
    have hk' := Nat.lt_of_le_of_lt (Nat.le_add_right _ _) hcount
    have hs' := hs.step o hk
    obtain ⟨messages, hsent, hname, h'⟩ := h.step hs hk hs' hk' hplain hmain
    obtain ⟨rest, hrest, hrefines⟩ := refines_from ops h' hs' hcount (hname ▸ hplain) (hname ▸ hmain)
    refine ⟨messages ++ rest, ?_, ?_⟩
    · rw [run_cons, hrest, hsent, List.append_assoc]
    · rw [List.foldl_append]
      exact hrefines

/-- **The traffic control is what the limits say**, after every run of calls whose class ids do not
start again, when the network interface is not the IFB device. -/
theorem refines_run (ingressInterface mainInterface : String)
    (hingress : IPLinkProc.Plain ingressInterface) (hmain : IPLinkProc.Plain mainInterface)
    (hifb : mainInterface ≠ ifbDev) (n : TcState) (ops : List Op)
    (hcount : allocations (start mainInterface) ops < 2 ^ 16) :
    Refines (ops.foldl ask fun _ => none) (run step (start mainInterface) ops)
      (control ingressInterface mainInterface (run step (start mainInterface) ops) n) := by
  obtain ⟨messages, hsent, hrefines⟩ := refines_from ops
    (refines_start hingress hmain n) (.init mainInterface) (by rwa [Nat.zero_add]) hmain hifb
  rw [control, hsent, List.foldl_append]
  exact hrefines

/-! ### Runs on fixed interfaces -/

/-- Two limits of one connection, a change of the first one and its removal. -/
def limitCalls : List Op :=
  [.getUploadLimit 7 1000, .getDownloadLimit 7 2000, .getUploadLimit 7 500, .removeUploadLimit 7]

theorem refines_limitCalls :
    Refines (limitCalls.foldl ask fun _ => none) (run step (start "eth0") limitCalls)
      (control "eth1" "eth0" (run step (start "eth0") limitCalls) fun _ => {}) :=
  refines_run "eth1" "eth0" (by decide) (by decide) (by decide) (fun _ => {})
    limitCalls (by decide)

/-- **One device for both directions**: a root limit on the upload is the rate of class 10, where
the download has none. -/
theorem ifb_shared : ¬ ∀ (ingressInterface mainInterface : String),
    IPLinkProc.Plain ingressInterface → IPLinkProc.Plain mainInterface → ∀ (n : TcState)
    (ops : List Op), allocations (start mainInterface) ops < 2 ^ 16 →
    Refines (ops.foldl ask fun _ => none) (run step (start mainInterface) ops)
      (control ingressInterface mainInterface (run step (start mainInterface) ops) n) := by
  intro hall
  have hrefines := hall "eth1" "ifb0" (by decide) (by decide) (fun _ => {})
    [.getUploadLimit 0 1000] (by decide)
  have hroot := (hrefines.interfaces .download).root
  revert hroot
  decide +kernel

end IPLink

end Waechter
