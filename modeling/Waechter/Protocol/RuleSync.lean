import Waechter.Daemon.RuleManager
import Waechter.Lib.Run

/-!
# Rules of the daemon and its clients

Any number of clients edit rules at once: an edit is stored at once by the client that makes it
(`Gui/Util/RuleWidget.cpp`, `Gui/ClientRuleManager.cpp`) and sent to the daemon, which handles it
and broadcasts it to every client but the sender. Each connection delivers in order.

* `agrees_of_quiet`: when no message is in flight, every client shows the daemon's rule for an
  item, but for the client whose edit was handled last when another one's edit reached it after
  it had made its own.
* `edits_cross`: two clients that edit one item at the same time end up with different rules.
-/

namespace Waechter

open Lib

/-- What a user changes of a rule. -/
inductive RuleEdit where
  /-- `DrawBlockOptionPopup`. -/
  | switch (isUpload : Bool) (setState : SwitchState)
  /-- `DrawLimitOptionPopup`. -/
  | limit (isUpload : Bool) (limit : BytesPerSecond)

/-- The rule after an edit. -/
def RuleEdit.apply (r : TrafficItemRules) : RuleEdit → TrafficItemRules
  | .switch true s => { r with ruleType := .explicit, uploadSwitch := s }
  | .switch false s => { r with ruleType := .explicit, downloadSwitch := s }
  | .limit true l => { r with ruleType := .explicit, uploadLimit := l }
  | .limit false l => { r with ruleType := .explicit, downloadLimit := l }

/-- `WClientRuleManager`, and the two directions of its connection, oldest message first. -/
structure RuleClient where
  rules : UMap TrafficItemId TrafficItemRules := ∅
  toDaemon : List RuleUpdate := []
  toClient : List RuleUpdate := []

namespace RuleClient

/-- What the client shows for an item. -/
def shown (c : RuleClient) (i : TrafficItemId) : RuleView := (rulesOf c.rules i).shown

/-- An edit: the rule is stored and sent. -/
def edit (i parentApp : TrafficItemId) (e : RuleEdit) (c : RuleClient) : RuleClient :=
  let rules := e.apply (rulesOf c.rules i)
  { c with
    rules := c.rules.insert i rules
    toDaemon := c.toDaemon ++ [{ rules := rules, trafficItemId := i, parentAppId := parentApp }] }

/-- `HandleRuleUpdate` on the next message. -/
def handleRuleUpdate (c : RuleClient) : RuleClient :=
  match c.toClient with
  | [] => c
  | u :: rest =>
    { c with toClient := rest, rules := c.rules.insert u.trafficItemId u.rules.received }

end RuleClient

/-- The daemon and its clients. The last two fields are the history of a run; no step reads
them. -/
structure RuleSystem (ι : Type) where
  daemon : RuleManager
  client : ι → RuleClient
  /-- The sender of the update of an item that the daemon handled last. -/
  lastSender : TrafficItemId → Option ι := fun _ => none
  /-- The client got an update of the item after its own last edit of it. -/
  overtaken : ι → TrafficItemId → Bool := fun _ _ => false

/-- A step of a party. The daemon handles a message with the tree it has at that time. -/
inductive RuleStep (ι : Type) : Type 1 where
  | edit (who : ι) (item parentApp : TrafficItemId) (e : RuleEdit)
  | handle (who : ι) (env : RuleEnv) (t : CounterTree)
  | deliver (who : ι)

namespace RuleSystem

variable {ι : Type} [DecidableEq ι]

/-- `BroadcastMessage` to everyone but the sender. -/
def broadcast (u : RuleUpdate) (sender : ι) (client : ι → RuleClient) (who : ι) : RuleClient :=
  if who = sender then client who
  else { client who with toClient := (client who).toClient ++ [u] }

/-- The daemon takes the next message of a client. -/
def handle (who : ι) (env : RuleEnv) (t : CounterTree) (s : RuleSystem ι) : RuleSystem ι :=
  match (s.client who).toDaemon with
  | [] => s
  | u :: rest =>
    let client := Function.update s.client who { s.client who with toDaemon := rest }
    let out := RuleManager.handleRuleChange env t { u with rules := u.rules.received } s.daemon
    match out.2 with
    | none => { s with client := client }
    | some update =>
      { s with
        daemon := out.1
        client := broadcast update who client
        lastSender := Function.update s.lastSender u.trafficItemId (some who) }

/-- One step. -/
def step (s : RuleSystem ι) : RuleStep ι → RuleSystem ι
  | .edit who item parentApp e =>
    { s with
      client := Function.update s.client who ((s.client who).edit item parentApp e)
      overtaken := fun q j => if q = who ∧ j = item then false else s.overtaken q j }
  | .handle who env t => handle who env t s
  | .deliver who =>
    { s with
      client := Function.update s.client who (s.client who).handleRuleUpdate
      overtaken := fun q j =>
        if q = who ∧ (s.client who).toClient.head?.map (·.trafficItemId) = some j then true
        else s.overtaken q j }

/-- No message is in flight. -/
def Quiet (s : RuleSystem ι) : Prop :=
  ∀ who, (s.client who).toDaemon = [] ∧ (s.client who).toClient = []

/-- The step does not turn down an update of the item, which the daemon knows as one of type
`ty`. -/
def Accepts (ty : TrafficItemType) (item : TrafficItemId) (s : RuleSystem ι) : RuleStep ι → Prop
  | .handle who _ t =>
    (∀ j, t.trafficItems.lookup j = some .system → j = 0) ∧
      ∀ u, (s.client who).toDaemon.head? = some u → u.trafficItemId = item →
        t.trafficItems.lookup item = some ty ∧ (RuleManager.cacheRoot t u ty).isSome
  | _ => True

/-- The last of the messages about an item. -/
def lastAbout (item : TrafficItemId) (us : List RuleUpdate) : Option RuleUpdate :=
  (us.filter (·.trafficItemId = item)).getLast?

/-- The invariant for one item of type `ty`. -/
structure Agreement (ty : TrafficItemType) (item : TrafficItemId) (s : RuleSystem ι) : Prop where
  /-- A client that nothing has reached since its edit shows what it sent. -/
  sent : ∀ who u, s.overtaken who item = false →
    lastAbout item (s.client who).toDaemon = some u →
    (s.client who).shown item = u.rules.shown
  /-- When that was handled last, it is the daemon's rule. -/
  last : ∀ who, s.lastSender item = some who → s.overtaken who item = false →
    lastAbout item (s.client who).toDaemon = none →
    (s.client who).shown item = (s.daemon.held ty item).shown
  /-- The last message on its way to any other client is the daemon's rule. -/
  underway : ∀ who u, s.lastSender item ≠ some who →
    lastAbout item (s.client who).toClient = some u → u.rules.shown = (s.daemon.held ty item).shown
  /-- Without a message on its way, it shows the daemon's rule. -/
  settled : ∀ who, s.lastSender item ≠ some who → lastAbout item (s.client who).toClient = none →
    lastAbout item (s.client who).toDaemon = none →
    (s.client who).shown item = (s.daemon.held ty item).shown

theorem lastAbout_concat (item : TrafficItemId) (us : List RuleUpdate) (u : RuleUpdate) :
    lastAbout item (us ++ [u]) = if u.trafficItemId = item then some u else lastAbout item us := by
  unfold lastAbout
  rw [List.filter_append]
  split
  · rename_i h
    simp [h]
  · rename_i h
    simp [h]

theorem lastAbout_cons (item : TrafficItemId) (us : List RuleUpdate) (u : RuleUpdate) :
    lastAbout item (u :: us) =
      if u.trafficItemId = item then some ((lastAbout item us).getD u) else lastAbout item us := by
  unfold lastAbout
  rw [List.filter_cons]
  split
  · rename_i h
    rw [if_pos (of_decide_eq_true h), List.getLast?_cons]
  · rename_i h
    rw [if_neg (by simpa using h)]

/-! ### Steps -/

theorem shown_insert (m : UMap TrafficItemId TrafficItemRules) (i j : TrafficItemId)
    (r : TrafficItemRules) :
    (rulesOf (m.insert i r) j).shown = if j = i then r.shown else (rulesOf m j).shown := by
  simp only [rulesOf, UMap.lookup_insert_ite]
  split <;> rfl

theorem shown_edit (c : RuleClient) (i parentApp j : TrafficItemId) (e : RuleEdit) :
    (c.edit i parentApp e).shown j =
      if j = i then (e.apply (rulesOf c.rules i)).shown else c.shown j :=
  shown_insert c.rules i j _

/-- What a delivery makes a client show. -/
theorem shown_handleRuleUpdate {c : RuleClient} {u : RuleUpdate} {rest : List RuleUpdate}
    (h : c.toClient = u :: rest) (j : TrafficItemId) :
    c.handleRuleUpdate.shown j = if j = u.trafficItemId then u.rules.shown else c.shown j := by
  unfold RuleClient.handleRuleUpdate
  rw [h]
  exact shown_insert c.rules u.trafficItemId j _

variable {ty : TrafficItemType} {item : TrafficItemId} {s : RuleSystem ι}

/-- An edit is on its way to the daemon. -/
theorem Agreement.edit (hs : Agreement ty item s) (who : ι) (i parentApp : TrafficItemId)
    (e : RuleEdit) : Agreement ty item (s.step (.edit who i parentApp e)) := by
  have hclient : ∀ q, q ≠ who → (s.step (.edit who i parentApp e)).client q = s.client q :=
    fun q hq => Function.update_of_ne hq _ _
  have hself : (s.step (.edit who i parentApp e)).client who =
      (s.client who).edit i parentApp e := Function.update_self _ _ _
  have hup : lastAbout item ((s.client who).edit i parentApp e).toDaemon =
      if i = item then some ⟨e.apply (rulesOf (s.client who).rules i), i, parentApp⟩
      else lastAbout item (s.client who).toDaemon := lastAbout_concat item _ _
  have hover : ∀ q, i ≠ item → (s.step (.edit who i parentApp e)).overtaken q item =
      s.overtaken q item := fun q hi => if_neg fun h => hi h.2.symm
  -- the client has a message about the item on its way now, or the edit is about another item
  have hcases : ∀ q, (q = who ∧ i = item) ∨
      ((s.step (.edit who i parentApp e)).overtaken q item = s.overtaken q item ∧
        lastAbout item ((s.step (.edit who i parentApp e)).client q).toDaemon =
          lastAbout item (s.client q).toDaemon ∧
        ((s.step (.edit who i parentApp e)).client q).toClient = (s.client q).toClient ∧
        ((s.step (.edit who i parentApp e)).client q).shown item = (s.client q).shown item) := by
    intro q
    by_cases hq : q = who
    · subst hq
      by_cases hi : i = item
      · exact Or.inl ⟨rfl, hi⟩
      · refine Or.inr ⟨hover q hi, ?_, ?_, ?_⟩
        · rw [hself, hup, if_neg hi]
        · rw [hself]
          rfl
        · rw [hself, shown_edit, if_neg (Ne.symm hi)]
    · refine Or.inr ⟨if_neg fun h => hq h.1, ?_, ?_, ?_⟩ <;> rw [hclient q hq]
  constructor
  · intro q u ho hu
    rcases hcases q with ⟨rfl, rfl⟩ | ⟨h1, h2, _, h4⟩
    · rw [hself, hup, if_pos rfl] at hu
      rw [hself, shown_edit, if_pos rfl, ← Option.some.inj hu]
    · rw [h4]
      exact hs.sent q u (h1 ▸ ho) (h2 ▸ hu)
  · intro q hlast ho hu
    rcases hcases q with ⟨rfl, rfl⟩ | ⟨h1, h2, _, h4⟩
    · rw [hself, hup, if_pos rfl] at hu
      exact absurd hu (by simp)
    · rw [h4]
      exact hs.last q hlast (h1 ▸ ho) (h2 ▸ hu)
  · intro q u hlast hu
    rcases hcases q with ⟨rfl, rfl⟩ | ⟨_, _, h3, _⟩
    · rw [hself] at hu
      exact hs.underway q u hlast hu
    · exact hs.underway q u hlast (h3 ▸ hu)
  · intro q hlast hd hu
    rcases hcases q with ⟨rfl, rfl⟩ | ⟨_, h2, h3, h4⟩
    · rw [hself, hup, if_pos rfl] at hu
      exact absurd hu (by simp)
    · rw [h4]
      exact hs.settled q hlast (h3 ▸ hd) (h2 ▸ hu)

/-- A delivery overtakes an edit, or settles what the client shows. -/
theorem Agreement.deliver (hs : Agreement ty item s) (who : ι) :
    Agreement ty item (s.step (.deliver who)) := by
  have hclient : ∀ q, q ≠ who → (s.step (.deliver who)).client q = s.client q :=
    fun q hq => Function.update_of_ne hq _ _
  have hself : (s.step (.deliver who)).client who = (s.client who).handleRuleUpdate :=
    Function.update_self _ _ _
  cases hmsg : (s.client who).toClient with
  | nil =>
    have hsame : s.step (.deliver who) = s := by
      unfold step
      simp only [hmsg, RuleClient.handleRuleUpdate, List.head?_nil, Option.map_none,
        reduceCtorEq, and_false, if_false]
      rw [Function.update_eq_self]
    rw [hsame]
    exact hs
  | cons u rest =>
    have hdown : ((s.client who).handleRuleUpdate).toClient = rest := by
      unfold RuleClient.handleRuleUpdate
      rw [hmsg]
    have hup : ((s.client who).handleRuleUpdate).toDaemon = (s.client who).toDaemon := by
      unfold RuleClient.handleRuleUpdate
      rw [hmsg]
    have hshown := shown_handleRuleUpdate hmsg item
    have hover : ∀ q, (s.step (.deliver who)).overtaken q item =
        if q = who ∧ u.trafficItemId = item then true else s.overtaken q item := by
      intro q
      simp only [step, hmsg, List.head?_cons, Option.map_some, Option.some.injEq]
    have hlast : lastAbout item (s.client who).toClient =
        if u.trafficItemId = item then some ((lastAbout item rest).getD u)
        else lastAbout item rest := by
      rw [hmsg]
      exact lastAbout_cons item rest u
    constructor
    · intro q v ho hv
      rw [hover] at ho
      by_cases hq : q = who
      · subst hq
        by_cases hu : u.trafficItemId = item
        · rw [if_pos ⟨rfl, hu⟩] at ho
          exact absurd ho (by simp)
        · rw [if_neg fun h => hu h.2] at ho
          rw [hself, hup] at hv
          rw [hself, hshown, if_neg (Ne.symm hu)]
          exact hs.sent q v ho hv
      · rw [if_neg fun h => hq h.1] at ho
        rw [hclient q hq] at hv ⊢
        exact hs.sent q v ho hv
    · intro q hl ho hv
      rw [hover] at ho
      by_cases hq : q = who
      · subst hq
        by_cases hu : u.trafficItemId = item
        · rw [if_pos ⟨rfl, hu⟩] at ho
          exact absurd ho (by simp)
        · rw [if_neg fun h => hu h.2] at ho
          rw [hself, hup] at hv
          rw [hself, hshown, if_neg (Ne.symm hu)]
          exact hs.last q hl ho hv
      · rw [if_neg fun h => hq h.1] at ho
        rw [hclient q hq] at hv ⊢
        exact hs.last q hl ho hv
    · intro q v hl hv
      by_cases hq : q = who
      · subst hq
        rw [hself, hdown] at hv
        refine hs.underway q v hl ?_
        rw [hlast, hv]
        split <;> rfl
      · rw [hclient q hq] at hv
        exact hs.underway q v hl hv
    · intro q hl hd hv
      by_cases hq : q = who
      · subst hq
        rw [hself, hdown] at hd
        rw [hself, hup] at hv
        rw [hself, hshown]
        by_cases hu : u.trafficItemId = item
        · rw [if_pos hu.symm]
          refine hs.underway q u hl ?_
          rw [hlast, if_pos hu, hd]
          rfl
        · rw [if_neg (Ne.symm hu)]
          refine hs.settled q hl ?_ hv
          rw [hlast, if_neg hu, hd]
      · rw [hclient q hq] at hd hv ⊢
        exact hs.settled q hl hd hv

/-- What one handled message does to the system. -/
theorem handle_cases (who : ι) (env : RuleEnv) (t : CounterTree) {u : RuleUpdate}
    {rest : List RuleUpdate} (hmsg : (s.client who).toDaemon = u :: rest) :
    let s' := s.step (.handle who env t)
    let out := RuleManager.handleRuleChange env t { u with rules := u.rules.received } s.daemon
    s'.overtaken = s.overtaken ∧ s'.daemon = out.1 ∧
      (s'.client who).toDaemon = rest ∧
      (∀ q, q ≠ who → (s'.client q).toDaemon = (s.client q).toDaemon) ∧
      (∀ q j, (s'.client q).shown j = (s.client q).shown j) ∧
      (s'.client who).toClient = (s.client who).toClient ∧
      (∀ q, q ≠ who → (s'.client q).toClient = (s.client q).toClient ++ out.2.toList) ∧
      s'.lastSender = (if out.2.isSome then
        Function.update s.lastSender u.trafficItemId (some who) else s.lastSender) := by
  intro s' out
  have hs' : s' = handle who env t s := rfl
  have hself : ∀ c : RuleClient, Function.update s.client who c who = c :=
    fun c => Function.update_self _ _ _
  have hother : ∀ (c : RuleClient) q, q ≠ who → Function.update s.client who c q = s.client q :=
    fun c q hq => Function.update_of_ne hq _ _
  rw [hs']
  unfold handle
  rw [hmsg]
  simp only
  cases hout : (RuleManager.handleRuleChange env t { u with rules := u.rules.received }
      s.daemon).2 with
  | none =>
    have hunchanged := RuleManager.handleRuleChange_ignored _ _ _ _ hout
    refine ⟨rfl, hunchanged.symm, ?_, fun q hq => ?_, fun q j => ?_, ?_, fun q hq => ?_, ?_⟩
    · simp only [hself]
    · simp only [hother _ q hq]
    · by_cases hq : q = who
      · subst hq
        simp only [hself]
        rfl
      · simp only [hother _ q hq]
    · simp only [hself]
    · simp only [hother _ q hq, Option.toList_none, List.append_nil]
    · simp
  | some update =>
    refine ⟨rfl, rfl, ?_, fun q hq => ?_, fun q j => ?_, ?_, fun q hq => ?_, ?_⟩
    · simp only [broadcast, if_pos, hself]
    · simp only [broadcast, if_neg hq, hother _ q hq]
    · by_cases hq : q = who
      · subst hq
        simp only [broadcast, if_pos, hself]
        rfl
      · simp only [broadcast, if_neg hq, hother _ q hq]
        rfl
    · simp only [broadcast, if_pos, hself]
    · simp only [broadcast, if_neg hq, hother _ q hq, Option.toList_some]
    · simp

/-- A handled message that is about the item becomes the daemon's rule, and goes to everyone
else. -/
theorem Agreement.handle (hsystem : ty = .system → item = 0) (hty : RuleManager.Stores ty)
    (hs : Agreement ty item s) (who : ι) (env : RuleEnv) (t : CounterTree)
    (haccepts : Accepts ty item s (.handle who env t)) :
    Agreement ty item (s.step (.handle who env t)) := by
  cases hmsg : (s.client who).toDaemon with
  | nil =>
    have hsame : s.step (.handle who env t) = s := by
      unfold step RuleSystem.handle
      simp only [hmsg]
    rw [hsame]
    exact hs
  | cons u rest =>
    obtain ⟨hover, hdaemon, hupself, hupother, hshown, hdownself, hdownother, hlast⟩ :=
      handle_cases who env t hmsg
    have hup : lastAbout item (s.client who).toDaemon =
        if u.trafficItemId = item then some ((lastAbout item rest).getD u)
        else lastAbout item rest := by
      rw [hmsg]
      exact lastAbout_cons item rest u
    by_cases hu : u.trafficItemId = item
    · -- the update is about the item, and it is accepted
      obtain ⟨hknown, hroot⟩ := haccepts.2 u (by rw [hmsg]; rfl) hu
      obtain ⟨hheld, rules, hrules, hout⟩ := RuleManager.held_handleRuleChange env t
        { u with rules := u.rules.received } s.daemon hty (hu ▸ hknown) hroot ty item
      rw [if_pos ⟨rfl, Or.inr hu.symm⟩, shown_received, ← hdaemon] at hheld
      rw [hout] at hdownother hlast
      simp only [Option.isSome_some, if_true, hu] at hlast
      have hsender : (s.step (.handle who env t)).lastSender item = some who := by
        rw [hlast, Function.update_self]
      constructor
      · intro q v ho hv
        rw [hshown]
        rw [hover] at ho
        by_cases hq : q = who
        · subst hq
          rw [hupself] at hv
          refine hs.sent q v ho ?_
          rw [hup, if_pos hu, hv]
          rfl
        · rw [hupother q hq] at hv
          exact hs.sent q v ho hv
      · intro q hl ho hv
        have hq : q = who := Option.some.inj (hl.symm.trans hsender)
        subst hq
        rw [hupself] at hv
        rw [hover] at ho
        rw [hshown, hheld]
        refine hs.sent q u ho ?_
        rw [hup, if_pos hu, hv]
        rfl
      · intro q v hl hv
        have hq : q ≠ who := fun hq => hl (hq ▸ hsender)
        rw [hdownother q hq, Option.toList_some, lastAbout_concat, if_pos hu] at hv
        rw [hheld, ← Option.some.inj hv]
        exact hrules
      · intro q hl hd hv
        have hq : q ≠ who := fun hq => hl (hq ▸ hsender)
        rw [hdownother q hq, Option.toList_some, lastAbout_concat, if_pos hu] at hd
        exact absurd hd (by simp)
    · -- the update is about another item
      have hheld : ((s.step (.handle who env t)).daemon.held ty item).shown =
          (s.daemon.held ty item).shown := by
        rw [hdaemon]
        refine RuleManager.held_handleRuleChange_of_ne _ _ _ _ _ _ fun ty' hty' h => ?_
        rcases h.2 with h2 | h2
        · have h0 := haccepts.1 _ (h2 ▸ hty')
          exact hu (h0.trans (hsystem (h.1.trans h2)).symm)
        · exact hu h2.symm
      have hsender : (s.step (.handle who env t)).lastSender item = s.lastSender item := by
        rw [hlast]
        split
        · exact Function.update_of_ne (Ne.symm hu) _ _
        · rfl
      have hdown : ∀ q, lastAbout item ((s.step (.handle who env t)).client q).toClient =
          lastAbout item (s.client q).toClient := by
        intro q
        by_cases hq : q = who
        · rw [hq, hdownself]
        · rw [hdownother q hq]
          cases hout : (RuleManager.handleRuleChange env t
              { u with rules := u.rules.received } s.daemon).2 with
          | none => rw [Option.toList_none, List.append_nil]
          | some v =>
            have hv := (RuleManager.handleRuleChange_broadcast _ _ _ _ hout).1
            rw [Option.toList_some, lastAbout_concat, if_neg fun h => hu (hv.symm.trans h)]
      have hupall : ∀ q, lastAbout item ((s.step (.handle who env t)).client q).toDaemon =
          lastAbout item (s.client q).toDaemon := by
        intro q
        by_cases hq : q = who
        · rw [hq, hupself, hup, if_neg hu]
        · rw [hupother q hq]
      constructor
      · intro q v ho hv
        rw [hshown]
        exact hs.sent q v (hover ▸ ho) (hupall q ▸ hv)
      · intro q hl ho hv
        rw [hshown, hheld]
        exact hs.last q (hsender ▸ hl) (hover ▸ ho) (hupall q ▸ hv)
      · intro q v hl hv
        rw [hheld]
        exact hs.underway q v (hsender ▸ hl) (hdown q ▸ hv)
      · intro q hl hd hv
        rw [hshown, hheld]
        exact hs.settled q (hsender ▸ hl) (hdown q ▸ hd) (hupall q ▸ hv)

/-! ## Agreement -/

/-- All clients have the daemon's rules, and no message is in flight: `OnNewConnection` has sent
the current rules and nothing has been edited since. -/
structure Fresh (ty : TrafficItemType) (item : TrafficItemId) (s : RuleSystem ι) : Prop where
  quiet : s.Quiet
  shown : ∀ who, (s.client who).shown item = (s.daemon.held ty item).shown
  unsent : s.lastSender item = none

omit [DecidableEq ι] in
theorem Agreement.of_fresh (hs : Fresh ty item s) : Agreement ty item s where
  sent := fun who u _ hu => by
    rw [(hs.quiet who).1] at hu
    exact absurd hu (by simp [lastAbout])
  last := fun _ hl => absurd (hs.unsent.symm.trans hl) (by simp)
  underway := fun who u _ hu => by
    rw [(hs.quiet who).2] at hu
    exact absurd hu (by simp [lastAbout])
  settled := fun who _ _ _ => hs.shown who

/-- **Once no message is in flight every client shows the daemon's rule for the item**, but for the
client whose update was handled last when another one reached it after it had made its own. -/
theorem agrees_of_quiet (hsystem : ty = .system → item = 0) (hty : RuleManager.Stores ty)
    (hs : Fresh ty item s) (steps : List (RuleStep ι))
    (haccepts : AllSteps step (Accepts ty item) s steps) (hquiet : (run step s steps).Quiet)
    (who : ι) (hwho : (run step s steps).lastSender item = some who →
      (run step s steps).overtaken who item = false) :
    ((run step s steps).client who).shown item =
      ((run step s steps).daemon.held ty item).shown := by
  have hinv : Agreement ty item (run step s steps) := by
    refine run_of_allSteps (fun s o h hG => ?_) steps (Agreement.of_fresh hs) haccepts
    cases o with
    | edit who i parentApp e => exact h.edit who i parentApp e
    | handle who env t => exact h.handle hsystem hty who env t hG
    | deliver who => exact h.deliver who
  have hup : lastAbout item ((run step s steps).client who).toDaemon = none := by
    rw [(hquiet who).1]
    rfl
  have hdown : lastAbout item ((run step s steps).client who).toClient = none := by
    rw [(hquiet who).2]
    rfl
  by_cases hl : (run step s steps).lastSender item = some who
  · exact hinv.last who hl (hwho hl) hup
  · exact hinv.settled who hl hdown hup

/-! ### Two clients -/

/-- The daemon knows one application, item 4. -/
def oneAppTree : CounterTree :=
  { (default : CounterTree) with
    trafficItems := ((∅ : UMap TrafficItemId TrafficItemType).insert 4 .application).insert 0
      .system }

/-- No limit gets a mark, and the database is empty. -/
def plainEnv : RuleEnv :=
  { order := .stored
    downloadMark := fun _ _ => 0
    uploadMark := fun _ _ => 0
    dbRule := fun _ => none }

/-- Two clients without rules. -/
def twoClients : RuleSystem (Fin 2) := { daemon := {}, client := fun _ => {} }

theorem fresh_twoClients : Fresh .application 4 twoClients :=
  ⟨fun _ => ⟨rfl, rfl⟩, fun _ => rfl, rfl⟩

theorem system_oneAppTree {j : TrafficItemId}
    (hj : oneAppTree.trafficItems.lookup j = some .system) : j = 0 := by
  simp only [oneAppTree, UMap.lookup_insert_ite, AList.lookup_empty] at hj
  split at hj
  · assumption
  · split at hj <;> exact absurd hj (by simp)

/-- One client blocks the application, and the other one hears of it. -/
def blockSteps : List (RuleStep (Fin 2)) :=
  [.edit 0 4 4 (.switch false .block), .handle 0 plainEnv oneAppTree, .deliver 1]

theorem agrees_block :
    ((run step twoClients blockSteps).client 1).shown 4 =
      ((run step twoClients blockSteps).daemon.held .application 4).shown := by
  have hsystem : TrafficItemType.application = .system → (4 : TrafficItemId) = 0 :=
    fun h => absurd h (by decide)
  refine agrees_of_quiet hsystem trivial fresh_twoClients blockSteps
    ⟨trivial, ⟨fun _ hj => system_oneAppTree hj, fun u hu _ => ?_⟩, trivial, trivial⟩ ?_ 1 ?_
  · rw [← Option.some.inj hu]
    exact ⟨by decide, by decide⟩
  · exact fun who => match who with
      | 0 => ⟨by decide, by decide⟩
      | 1 => ⟨by decide, by decide⟩
  · exact fun h => absurd h (by decide)

/-- The clients block and allow the application at the same time. -/
def crossSteps : List (RuleStep (Fin 2)) :=
  [.edit 0 4 4 (.switch false .block), .edit 1 4 4 (.switch false .allow),
   .handle 0 plainEnv oneAppTree, .handle 1 plainEnv oneAppTree, .deliver 0, .deliver 1]

/-- **Two edits that cross**: the daemon and the first client end with allow, the second client
with block. -/
theorem edits_cross : ¬ ∀ steps : List (RuleStep (Fin 2)), (run step twoClients steps).Quiet →
    ∀ who, ((run step twoClients steps).client who).shown 4 =
      ((run step twoClients steps).daemon.held .application 4).shown := by
  intro hall
  have hquiet : (run step twoClients crossSteps).Quiet := fun who => match who with
    | 0 => ⟨by decide, by decide⟩
    | 1 => ⟨by decide, by decide⟩
  exact absurd (hall crossSteps hquiet 1) (by decide)

end RuleSystem

end Waechter
