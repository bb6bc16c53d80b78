import Waechter.Lib.Run
import Waechter.Util.IPLinkMsg

/-!
# Bandwidth limits

`WIPLink` (`Daemon/Net/IPLink.hpp`, `IPLink.cpp`): the active limits of each direction by item,
with the mark and the class id each of them got, and the messages sent to the helper process. A
limit that is dropped from its table tells the process to remove its class (`~WBandwidthLimit`),
since the callers of `GetUploadLimit` and `GetDownloadLimit` do not keep what they get.

* `table_step`: the tables hold the latest rate that was asked for.
* `Numbered.step`: every limit has the mark and the class id of its allocation.
-/

namespace Waechter

open Lib

/-- `ELimitDirection`. -/
inductive LimitDirection where
  | upload
  | download
  deriving DecidableEq

/-- `WBandwidthLimit`. -/
structure BandwidthLimit where
  direction : LimitDirection
  mark : UInt32
  minorId : UInt16
  isRoot : Bool
  rateLimit : BytesPerSecond
  deriving DecidableEq

/-- `WIPLink`. -/
structure IPLink where
  networkInterfaceName : String
  nextMark : UInt32 := 1
  /-- 10 is root. -/
  nextMinorId : UInt16 := 11
  activeUploadLimits : UMap TrafficItemId BandwidthLimit := ∅
  activeDownloadLimits : UMap TrafficItemId BandwidthLimit := ∅
  /-- What was sent over `IpProcSocket`. -/
  sent : List IPLinkMsg := []

/-- The limit has the ids of the allocation with this number. -/
def BandwidthLimit.Has (limit : BandwidthLimit) (j : Nat) : Prop :=
  limit.mark = UInt32.ofNat (1 + j) ∧ limit.minorId = UInt16.ofNat (11 + j)

/-- The ids of different allocations are different, before the counters are through. -/
theorem BandwidthLimit.Has.inj {l l' : BandwidthLimit} {j j' : Nat} (h : l.Has j) (h' : l'.Has j')
    (hj : j < 2 ^ 16) (hj' : j' < 2 ^ 16) (hids : l.mark = l'.mark ∨ l.minorId = l'.minorId) :
    j = j' := by
  rcases hids with hmark | hminor
  · have heq := congrArg UInt32.toNat (h.1.symm.trans (hmark.trans h'.1))
    simp only [UInt32.toNat_ofNat'] at heq
    omega
  · have heq := congrArg UInt16.toNat (h.2.symm.trans (hminor.trans h'.2))
    simp only [UInt16.toNat_ofNat'] at heq
    omega

/-- No limit gets the class of the root. -/
theorem BandwidthLimit.Has.minorId_ne {l : BandwidthLimit} {j : Nat} (h : l.Has j) (hj : j + 1 < 2 ^ 16) :
    l.minorId ≠ 10 := by
  intro hten
  have heq := congrArg UInt16.toNat (h.2.symm.trans hten)
  simp only [UInt16.toNat_ofNat'] at heq
  have : (10 : UInt16).toNat = 10 := rfl
  omega

namespace IPLink

def ifbDev : String := "ifb0"

/-- The table of a direction. -/
def limits (s : IPLink) : LimitDirection → UMap TrafficItemId BandwidthLimit
  | .upload => s.activeUploadLimits
  | .download => s.activeDownloadLimits

def setLimits (s : IPLink) (d : LimitDirection) (table : UMap TrafficItemId BandwidthLimit) :
    IPLink :=
  match d with
  | .upload => { s with activeUploadLimits := table }
  | .download => { s with activeDownloadLimits := table }

/-- The interface of a direction. -/
def interfaceName (s : IPLink) : LimitDirection → String
  | .upload => s.networkInterfaceName
  | .download => ifbDev

/-- `SendMessage`. -/
def send (msg : IPLinkMsg) (s : IPLink) : IPLink := { s with sent := s.sent ++ [msg] }

/-- `SetupHTBLimitClass`. -/
def setupHtbLimitClass (limit : BandwidthLimit) (ifName : String) (isRoot : Bool) (s : IPLink) :
    IPLink :=
  s.send (.setupHtbClass
    { interfaceName := ifName
      mark := limit.mark
      minorId := limit.minorId
      isRoot := isRoot
      rateLimit := limit.rateLimit })

/-- `~WBandwidthLimit`. -/
def destroy (limit : BandwidthLimit) (s : IPLink) : IPLink :=
  s.send (.removeHtbClass
    { interfaceName := s.interfaceName limit.direction
      mark := limit.mark
      minorId := limit.minorId
      isRoot := limit.isRoot })

/-- The body `GetUploadLimit` and `GetDownloadLimit` share. -/
def getLimit (d : LimitDirection) (item : TrafficItemId) (rate : BytesPerSecond) (s : IPLink) :
    BandwidthLimit × IPLink :=
  match (s.limits d).lookup item with
  | some existing =>
    if existing.rateLimit ≠ rate then
      let updated := { existing with rateLimit := rate }
      (updated, (s.setLimits d ((s.limits d).insert item updated)).setupHtbLimitClass updated
        (s.interfaceName d) (item = 0))
    else (existing, s)
  | none =>
    let new : BandwidthLimit :=
      { direction := d
        mark := s.nextMark
        minorId := s.nextMinorId
        isRoot := item = 0
        rateLimit := rate }
    let s := { s with nextMark := s.nextMark + 1, nextMinorId := s.nextMinorId + 1 }
    (new, (s.setLimits d ((s.limits d).insert item new)).setupHtbLimitClass new
      (s.interfaceName d) (item = 0))

/-- `GetUploadLimit`. -/
def getUploadLimit := getLimit .upload

/-- `GetDownloadLimit`. -/
def getDownloadLimit := getLimit .download

/-- The body `RemoveUploadLimit` and `RemoveDownloadLimit` share. -/
def removeLimit (d : LimitDirection) (item : TrafficItemId) (s : IPLink) : IPLink :=
  match (s.limits d).lookup item with
  | some limit => (s.setLimits d ((s.limits d).erase item)).destroy limit
  | none => s

/-- `RemoveUploadLimit`. -/
def removeUploadLimit := removeLimit .upload

/-- `RemoveDownloadLimit`. -/
def removeDownloadLimit := removeLimit .download

/-- A call. -/
inductive Op where
  | getUploadLimit (item : TrafficItemId) (limit : BytesPerSecond)
  | getDownloadLimit (item : TrafficItemId) (limit : BytesPerSecond)
  | removeUploadLimit (item : TrafficItemId)
  | removeDownloadLimit (item : TrafficItemId)

/-- The state after a call. -/
def step (s : IPLink) : Op → IPLink
  | .getUploadLimit item limit => (s.getUploadLimit item limit).2
  | .getDownloadLimit item limit => (s.getDownloadLimit item limit).2
  | .removeUploadLimit item => s.removeUploadLimit item
  | .removeDownloadLimit item => s.removeDownloadLimit item

/-- The call makes a new limit. -/
def allocates (s : IPLink) : Op → Bool
  | .getUploadLimit item _ => (s.activeUploadLimits.lookup item).isNone
  | .getDownloadLimit item _ => (s.activeDownloadLimits.lookup item).isNone
  | _ => false

/-- How many limits a run makes. -/
def allocations : IPLink → List Op → Nat
  | _, [] => 0
  | s, o :: os => (if s.allocates o then 1 else 0) + allocations (s.step o) os

/-! ## Reading after a call -/

@[simp] theorem limits_setLimits (s : IPLink) (d d' : LimitDirection)
    (table : UMap TrafficItemId BandwidthLimit) :
    (s.setLimits d table).limits d' = if d' = d then table else s.limits d' := by
  cases d <;> cases d' <;> rfl

@[simp] theorem interfaceName_setLimits (s : IPLink) (d d' : LimitDirection)
    (table : UMap TrafficItemId BandwidthLimit) :
    (s.setLimits d table).interfaceName d' = s.interfaceName d' := by
  cases d <;> cases d' <;> rfl

@[simp] theorem sent_setLimits (s : IPLink) (d : LimitDirection)
    (table : UMap TrafficItemId BandwidthLimit) : (s.setLimits d table).sent = s.sent := by
  cases d <;> rfl

/-- The direction and the item of a call, and the limit it asks for. -/
def Op.key : Op → LimitDirection × TrafficItemId
  | .getUploadLimit item _ | .removeUploadLimit item => (.upload, item)
  | .getDownloadLimit item _ | .removeDownloadLimit item => (.download, item)

def Op.rate : Op → Option BytesPerSecond
  | .getUploadLimit _ limit | .getDownloadLimit _ limit => some limit
  | .removeUploadLimit _ | .removeDownloadLimit _ => none

/-- The active limit of a direction and an item. -/
def active (s : IPLink) (key : LimitDirection × TrafficItemId) : Option BandwidthLimit :=
  (s.limits key.1).lookup key.2

/-- The message that sets up the class of a limit, and the one that removes it. -/
def setupMsg (s : IPLink) (key : LimitDirection × TrafficItemId) (limit : BandwidthLimit) :
    IPLinkMsg :=
  .setupHtbClass ⟨s.interfaceName key.1, limit.mark, limit.minorId, key.2 = 0, limit.rateLimit⟩

def removeMsg (s : IPLink) (limit : BandwidthLimit) : IPLinkMsg :=
  .removeHtbClass ⟨s.interfaceName limit.direction, limit.mark, limit.minorId, limit.isRoot⟩

/-- What a call does: nothing, a new rate for a limit that is there, a new limit, or the end of
one. -/
inductive Does (s : IPLink) (o : Op) (s' : IPLink) : Prop
  | nothing (hs : s' = s) (hold : (s.active o.key).map (·.rateLimit) = o.rate)
  | update (old : BandwidthLimit) (rate : BytesPerSecond) (hold : s.active o.key = some old)
      (hrate : o.rate = some rate)
      (hactive : ∀ key, s'.active key =
        if key = o.key then some { old with rateLimit := rate } else s.active key)
      (hsent : s'.sent = s.sent ++ [s.setupMsg o.key { old with rateLimit := rate }])
      (hname : s'.networkInterfaceName = s.networkInterfaceName)
      (hmark : s'.nextMark = s.nextMark) (hminor : s'.nextMinorId = s.nextMinorId)
  | make (rate : BytesPerSecond) (hold : s.active o.key = none) (hrate : o.rate = some rate)
      (hactive : ∀ key, s'.active key =
        if key = o.key then some ⟨o.key.1, s.nextMark, s.nextMinorId, o.key.2 = 0, rate⟩
        else s.active key)
      (hsent : s'.sent = s.sent ++
        [s.setupMsg o.key ⟨o.key.1, s.nextMark, s.nextMinorId, o.key.2 = 0, rate⟩])
      (hname : s'.networkInterfaceName = s.networkInterfaceName)
      (hmark : s'.nextMark = s.nextMark + 1) (hminor : s'.nextMinorId = s.nextMinorId + 1)
  | drop (old : BandwidthLimit) (hold : s.active o.key = some old) (hrate : o.rate = none)
      (hactive : ∀ key, s'.active key = if key = o.key then none else s.active key)
      (hsent : s'.sent = s.sent ++ [s.removeMsg old])
      (hname : s'.networkInterfaceName = s.networkInterfaceName)
      (hmark : s'.nextMark = s.nextMark) (hminor : s'.nextMinorId = s.nextMinorId)

theorem active_setLimits (s : IPLink) (d : LimitDirection) (item : TrafficItemId)
    {table : UMap TrafficItemId BandwidthLimit} {v : Option BandwidthLimit}
    (htable : ∀ i, table.lookup i = if i = item then v else (s.limits d).lookup i)
    (key : LimitDirection × TrafficItemId) :
    (s.setLimits d table).active key = if key = (d, item) then v else s.active key := by
  obtain ⟨d', i⟩ := key
  simp only [active, limits_setLimits, Prod.mk.injEq]
  by_cases hd : d' = d
  · subst hd
    simp only [if_true, htable, true_and]
  · simp only [hd, if_false, false_and]

theorem does_getLimit (s : IPLink) (o : Op) {rate : BytesPerSecond} (hrate : o.rate = some rate) :
    Does s o (s.getLimit o.key.1 o.key.2 rate).2 := by
  unfold getLimit
  cases hold : (s.limits o.key.1).lookup o.key.2 with
  | some old =>
    simp only
    split
    · refine .update old rate hold hrate (fun key => ?_) ?_ ?_ ?_ ?_
      · exact active_setLimits s o.key.1 o.key.2 (fun i => UMap.lookup_insert_ite _ _ _ i) key
      · simp only [setupHtbLimitClass, send, sent_setLimits, setupMsg]
      all_goals cases o.key.1 <;> rfl
    · rename_i hsame
      refine .nothing rfl ?_
      rw [active, hold, hrate, Option.map_some, not_not.mp hsame]
  | none =>
    simp only
    refine .make rate hold hrate (fun key => ?_) ?_ ?_ ?_ ?_
    · exact active_setLimits _ o.key.1 o.key.2 (fun i => UMap.lookup_insert_ite _ _ _ i) key
    · simp only [setupHtbLimitClass, send, sent_setLimits, setupMsg]
      rfl
    all_goals cases o.key.1 <;> rfl

theorem does_removeLimit (s : IPLink) (o : Op) (hrate : o.rate = none) :
    Does s o (s.removeLimit o.key.1 o.key.2) := by
  unfold removeLimit
  cases hold : (s.limits o.key.1).lookup o.key.2 with
  | some old =>
    refine .drop old hold hrate (fun key => ?_) ?_ ?_ ?_ ?_
    · exact active_setLimits s o.key.1 o.key.2 (fun i => UMap.lookup_erase_ite _ _ i) key
    · simp only [destroy, send, sent_setLimits, removeMsg, interfaceName_setLimits]
    all_goals cases o.key.1 <;> rfl
  | none =>
    refine .nothing rfl ?_
    rw [active, hold, hrate]
    rfl

theorem does_step (s : IPLink) (o : Op) : Does s o (s.step o) := by
  cases o with
  | getUploadLimit item limit => exact does_getLimit s (.getUploadLimit item limit) rfl
  | getDownloadLimit item limit => exact does_getLimit s (.getDownloadLimit item limit) rfl
  | removeUploadLimit item => exact does_removeLimit s (.removeUploadLimit item) rfl
  | removeDownloadLimit item => exact does_removeLimit s (.removeDownloadLimit item) rfl

/-! ## The latest limits -/

/-- What a call asks for: the limits by direction and item. -/
def ask (table : LimitDirection × TrafficItemId → Option BytesPerSecond) (o : Op) :
    LimitDirection × TrafficItemId → Option BytesPerSecond :=
  Function.update table o.key o.rate

/-- **The tables hold the latest limits.** -/
theorem table_step (s : IPLink) (o : Op) :
    (fun key => ((s.step o).active key).map (·.rateLimit)) =
      ask (fun key => (s.active key).map (·.rateLimit)) o := by
  funext key
  rw [ask, Function.update_apply]
  cases does_step s o with
  | nothing hs hold =>
    rw [hs]
    split
    · rename_i hkey
      rw [hkey, hold]
    · rfl
  | update old rate hold hrate hactive =>
    rw [hactive]
    split
    · rw [hrate, Option.map_some]
    · rfl
  | make rate hold hrate hactive =>
    rw [hactive]
    split
    · rw [hrate, Option.map_some]
    · rfl
  | drop old hold hrate hactive =>
    rw [hactive]
    split
    · rw [hrate, Option.map_none]
    · rfl

/-! ## Marks and class ids -/

theorem allocates_eq (s : IPLink) (o : Op) :
    s.allocates o = true ↔ s.active o.key = none ∧ o.rate ≠ none := by
  cases o <;> simp [allocates, active, Op.key, Op.rate, limits]

/-- The limits of a run with `n` allocations: the ids of a limit are those of its allocation, and no
two limits share one. -/
structure Numbered (n : Nat) (s : IPLink) : Prop where
  nextMark : s.nextMark = UInt32.ofNat (1 + n)
  nextMinorId : s.nextMinorId = UInt16.ofNat (11 + n)
  labelled : ∀ key limit, s.active key = some limit →
    limit.direction = key.1 ∧ limit.isRoot = decide (key.2 = 0)
  allocated : ∀ key limit, s.active key = some limit → ∃ j < n, limit.Has j
  own : ∀ key key' limit limit', s.active key = some limit → s.active key' = some limit' →
    limit.mark = limit'.mark ∨ limit.minorId = limit'.minorId → key = key'

theorem Numbered.init (name : String) : Numbered 0 { networkInterfaceName := name } := by
  have hnone (key : LimitDirection × TrafficItemId) (limit : BandwidthLimit) :
      ¬ (({ networkInterfaceName := name } : IPLink).active key = some limit) := by
    obtain ⟨d, i⟩ := key
    cases d <;> exact fun h => Option.noConfusion rfl (heq_of_eq h)
  exact ⟨rfl, rfl, fun key limit h => absurd h (hnone key limit),
    fun key limit h => absurd h (hnone key limit),
    fun key _ limit _ h => absurd h (hnone key limit)⟩

/-- One call keeps the numbering. -/
theorem Numbered.step {n : Nat} {s : IPLink} (h : Numbered n s) (o : Op) (hn : n < 2 ^ 16) :
    Numbered (n + if s.allocates o then 1 else 0) (s.step o) := by
  have hkept (hno : ¬ (s.active o.key = none ∧ o.rate ≠ none)) :
      n + (if s.allocates o then 1 else 0) = n := by
    rw [if_neg fun hmade => hno ((allocates_eq s o).mp hmade), Nat.add_zero]
  cases does_step s o with
  | nothing hs hold =>
    rw [hs, hkept]
    · exact h
    · rintro ⟨hnone, hrate⟩
      rw [hnone] at hold
      exact hrate hold.symm
  | update old rate hold hrate hactive hsent hname hmark hminor =>
    rw [hkept fun hno => Option.noConfusion rfl (heq_of_eq (hno.1.symm.trans hold))]
    -- the limit under any key has the ids of the one before
    have hback : ∀ key limit, (s.step o).active key = some limit → ∃ limit',
        s.active key = some limit' ∧ limit.mark = limit'.mark ∧ limit.minorId = limit'.minorId ∧
          limit.direction = limit'.direction ∧ limit.isRoot = limit'.isRoot := by
      intro key limit hlimit
      rw [hactive] at hlimit
      split at hlimit
      · rename_i hkey
        cases hlimit
        exact ⟨old, hkey ▸ hold, rfl, rfl, rfl, rfl⟩
      · exact ⟨limit, hlimit, rfl, rfl, rfl, rfl⟩
    refine ⟨hmark.trans h.nextMark, hminor.trans h.nextMinorId, fun key limit hlimit => ?_,
      fun key limit hlimit => ?_, fun key key' limit limit' hlimit hlimit' hids => ?_⟩
    · obtain ⟨l, hl, -, -, hdirection, hroot⟩ := hback key limit hlimit
      rw [hdirection, hroot]
      exact h.labelled key l hl
    · obtain ⟨l, hl, hlmark, hlminor, -, -⟩ := hback key limit hlimit
      obtain ⟨j, hj, hhas⟩ := h.allocated key l hl
      exact ⟨j, hj, hlmark.trans hhas.1, hlminor.trans hhas.2⟩
    · obtain ⟨l, hl, hlmark, hlminor, -, -⟩ := hback key limit hlimit
      obtain ⟨l', hl', hlmark', hlminor', -, -⟩ := hback key' limit' hlimit'
      rw [hlmark, hlmark', hlminor, hlminor'] at hids
      exact h.own key key' l l' hl hl' hids
  | make rate hold hrate hactive hsent hname hmark hminor =>
    have hmade : s.allocates o = true :=
      (allocates_eq s o).mpr ⟨hold, fun hnone => Option.noConfusion rfl
        (heq_of_eq (hnone.symm.trans hrate))⟩
    rw [if_pos hmade]
    have hnew : BandwidthLimit.Has ⟨o.key.1, s.nextMark, s.nextMinorId, o.key.2 = 0, rate⟩ n :=
      ⟨h.nextMark, h.nextMinorId⟩
    have hcases : ∀ key limit, (s.step o).active key = some limit →
        key = o.key ∧ limit = ⟨o.key.1, s.nextMark, s.nextMinorId, o.key.2 = 0, rate⟩ ∨
          s.active key = some limit := by
      intro key limit hlimit
      rw [hactive] at hlimit
      split at hlimit
      · exact .inl ⟨‹_›, (Option.some.inj hlimit).symm⟩
      · exact .inr hlimit
    -- an id of an older limit is not the new one
    have hfresh : ∀ key limit, s.active key = some limit →
        ¬ (limit.mark = s.nextMark ∨ limit.minorId = s.nextMinorId) := by
      intro key limit hlimit hids
      obtain ⟨j, hj, hhas⟩ := h.allocated key limit hlimit
      exact absurd (BandwidthLimit.Has.inj hhas hnew (Nat.lt_trans hj hn) hn hids) (Nat.ne_of_lt hj)
    refine ⟨?_, ?_, fun key limit hlimit => ?_, fun key limit hlimit => ?_,
      fun key key' limit limit' hlimit hlimit' hids => ?_⟩
    · rw [hmark, h.nextMark]
      exact (UInt32.ofNat_add (1 + n) 1).symm
    · rw [hminor, h.nextMinorId]
      exact (UInt16.ofNat_add (11 + n) 1).symm
    · rcases hcases key limit hlimit with ⟨rfl, rfl⟩ | hlimit
      · exact ⟨rfl, rfl⟩
      · exact h.labelled key limit hlimit
    · rcases hcases key limit hlimit with ⟨rfl, rfl⟩ | hlimit
      · exact ⟨n, Nat.lt_succ_self n, hnew⟩
      · obtain ⟨j, hj, hhas⟩ := h.allocated key limit hlimit
        exact ⟨j, Nat.lt_succ_of_lt hj, hhas⟩
    · rcases hcases key limit hlimit with ⟨rfl, rfl⟩ | hlimit
      · rcases hcases key' limit' hlimit' with ⟨rfl, rfl⟩ | hlimit'
        · rfl
        · exact absurd (hids.imp Eq.symm Eq.symm) (hfresh key' limit' hlimit')
      · rcases hcases key' limit' hlimit' with ⟨rfl, rfl⟩ | hlimit'
        · exact absurd hids (hfresh key limit hlimit)
        · exact h.own key key' limit limit' hlimit hlimit' hids
  | drop old hold hrate hactive hsent hname hmark hminor =>
    rw [hkept fun hno => hno.2 hrate]
    have hback : ∀ key limit, (s.step o).active key = some limit → s.active key = some limit := by
      intro key limit hlimit
      rw [hactive] at hlimit
      split at hlimit
      · cases hlimit
      · exact hlimit
    exact ⟨hmark.trans h.nextMark, hminor.trans h.nextMinorId,
      fun key limit hlimit => h.labelled key limit (hback key limit hlimit),
      fun key limit hlimit => h.allocated key limit (hback key limit hlimit),
      fun key key' limit limit' hlimit hlimit' =>
        h.own key key' limit limit' (hback key limit hlimit) (hback key' limit' hlimit')⟩

end IPLink

end Waechter
