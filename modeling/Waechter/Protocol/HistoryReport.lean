import Waechter.Protocol.HistoryDelivery

/-!
# What the history reports of a closed connection

`WConnectionHistoryEntry::Update` samples the bytes of an entry while its set has members. When the
set becomes empty, `HandleEmptySet` stores the base data of the set and leaves the sample alone, and
that is what the next `Update` and every later `Serialize` report.

* `always_reported_iff`: over any run the reports of closed entries are what was stored, exactly
  when the entries that are closed have the data of their sets by then.
-/

namespace Waechter

open Lib

/-- The clients are told of the row what was stored, in the closing change and in the list. -/
structure HistoryRow.Reported (s : ConnectionHistory) (row : HistoryRow) : Prop where
  change : ∀ t, ∀ c ∈ (s.update t).1.changes, c.1 = row.connectionId → c.2 = (row.dataIn, row.dataOut)
  list : ∀ e ∈ s.serialize.newEntries, e.1 = row.connectionId →
    (e.2.dataIn, e.2.dataOut) = (row.dataIn, row.dataOut)

/-- What can happen to the history: a notice of the system map, or an `Update` with the counters of
that moment. -/
inductive HistoryOp : Type 1 where
  | event (e : ConnectionHistory.Event)
  | update (t : CounterTree)

namespace ConnectionHistory

variable {s : ConnectionHistory}

/-- One step. -/
def stepReport (s : ConnectionHistory) : HistoryOp → ConnectionHistory
  | .event e => s.handle e
  | .update t => (s.update t).2

/-- Every row that was written is reported as it is. -/
def Reported (s : ConnectionHistory) : Prop := ∀ row ∈ s.database, row.Reported s

/-- The departure does not close a listed entry without the data of its set. -/
def Complete (s : ConnectionHistory) (x : ConnectionKey × Departure) : Prop :=
  ∀ set ∈ s.activeConnections.lookup x.1, (set.remove x.2).connections = [] →
    ∀ id ∈ set.parentEntry, id ∈ s.history →
      (s.entry id).dataIn = set.baseDataIn + x.2.dataIn ∧
        (s.entry id).dataOut = set.baseDataOut + x.2.dataOut

/-- Every departure of the step, one after the other. -/
def Completes (s : ConnectionHistory) : HistoryOp → Prop
  | .event e => AllSteps (fun s x => untrack e.tree x.1 x.2 s) Complete s (removedBy e)
  | .update _ => True

/-! ## The entries -/

theorem foldl_update {α : Type} (g : Nat → α) (i : Nat) : ∀ (l : List Nat) (f : Nat → α),
    l.foldl (fun f k => Function.update f k (g k)) f i = if i ∈ l then g i else f i
  | [], f => rfl
  | k :: l, f => by
    rw [List.foldl_cons, foldl_update g i l]
    by_cases hl : i ∈ l
    · rw [if_pos hl, if_pos (List.mem_cons_of_mem k hl)]
    · rw [if_neg hl]
      by_cases hk : i = k
      · rw [hk, Function.update_self, if_pos List.mem_cons_self]
      · rw [Function.update_of_ne hk, if_neg (List.not_mem_cons_of_ne_of_not_mem hk hl)]

/-- `Update` goes through the entries of the history. -/
theorem entry_update (t : CounterTree) (id : Nat) :
    (s.update t).2.entry id = if id ∈ s.history then (updateEntry t s id).1 else s.entry id := by
  simp only [update, List.foldl_map]
  exact foldl_update (fun id => (updateEntry t s id).1) id s.history s.entry

/-- An entry without an active set keeps its sample. -/
theorem updateEntry_of_setOf_none {t : CounterTree} {id : Nat} (h : s.setOf id = none) :
    (updateEntry t s id).1.dataIn = (s.entry id).dataIn ∧
      (updateEntry t s id).1.dataOut = (s.entry id).dataOut ∧
      ((updateEntry t s id).1.state = .open ↔ (s.entry id).state = .open) := by
  unfold updateEntry
  simp only [h]
  split
  · rename_i hstate
    simp only [hstate, reduceCtorEq]
    exact ⟨trivial, trivial, trivial⟩
  · exact ⟨rfl, rfl, Iff.rfl⟩

/-- No entry is opened or closed while its set is active. -/
theorem state_updateEntry (t : CounterTree) (id : Nat) :
    (updateEntry t s id).1.state = .open ↔ (s.entry id).state = .open := by
  simp only [updateEntry]
  split
  · split
    · rename_i hstate
      simp only [hstate, reduceCtorEq]
    · exact Iff.rfl
  · split
    · split
      · rename_i hstate
        simp only [hstate, reduceCtorEq]
      · exact Iff.rfl
    · exact Iff.rfl

theorem state_entry_update (t : CounterTree) (id : Nat) :
    ((s.update t).2.entry id).state = .open ↔ (s.entry id).state = .open := by
  rw [entry_update]
  split
  · exact state_updateEntry t id
  · exact Iff.rfl

/-- An entry that is not open has no active set. -/
theorem Linked.setOf_none (h : Linked s) {id : Nat} (hstate : (s.entry id).state ≠ .open) :
    s.setOf id = none := by
  refine List.find?_eq_none.mpr fun set hset hid => ?_
  obtain ⟨e, he, rfl⟩ := List.mem_map.mp hset
  have hlookup : s.activeConnections.lookup e.1 = some e.2 := AList.mem_lookup_iff.mpr he
  exact hstate (h.opened e.1 e.2 id hlookup (of_decide_eq_true hid)).2

/-- The set of an entry is the one that has it. -/
theorem Linked.setOf_some (h : Linked s) {key : ConnectionKey} {set : ConnectionSet} {id : Nat}
    (hset : s.activeConnections.lookup key = some set) (hparent : set.parentEntry = some id) :
    s.setOf id = some set := by
  cases hfind : s.setOf id with
  | none =>
    have hmem : set ∈ s.activeConnections.entries.map fun e => e.2 :=
      List.mem_map.mpr ⟨⟨key, set⟩, AList.mem_lookup_iff.mp hset, rfl⟩
    exact absurd (decide_eq_true hparent) (List.find?_eq_none.mp hfind set hmem)
  | some other =>
    obtain ⟨e, he, rfl⟩ := List.mem_map.mp (List.mem_of_find?_eq_some hfind)
    have hlookup : s.activeConnections.lookup e.1 = some e.2 := AList.mem_lookup_iff.mpr he
    have hother : e.2.parentEntry = some id :=
      of_decide_eq_true (List.find?_some
        (p := fun set : ConnectionSet => decide (set.parentEntry = some id)) hfind)
    rw [h.own e.1 key e.2 set id hlookup hset hother hparent, hset] at hlookup
    exact hlookup.symm

theorem Linked.update (h : Linked s) (t : CounterTree) : Linked (s.update t).2 := by
  refine ⟨h.nonempty, fun key set id hkey hid => ?_, h.own, h.made, h.old, fun set hset => ?_⟩
  · obtain ⟨hlt, hopen⟩ := h.opened key set id hkey hid
    exact ⟨hlt, (state_entry_update t id).mpr hopen⟩
  · obtain ⟨hempty, hrow⟩ := h.closed set hset
    refine ⟨hempty, fun id hid => ?_⟩
    obtain ⟨hstate, row⟩ := hrow id hid
    exact ⟨fun hopen => hstate ((state_entry_update t id).mp hopen), row⟩

/-! ## The rows -/

/-- A row belongs to an entry that is not open, and the listed ones are old. -/
structure Filed (s : ConnectionHistory) : Prop where
  rows : ∀ row ∈ s.database, row.connectionId < s.nextConnectionId ∧
    (s.entry row.connectionId).state ≠ .open
  listed : ∀ id ∈ s.history, id < s.nextConnectionId

/-- A listed entry has the data of its row. -/
def Agreed (s : ConnectionHistory) : Prop :=
  ∀ row ∈ s.database, row.connectionId ∈ s.history →
    (s.entry row.connectionId).dataIn = row.dataIn ∧ (s.entry row.connectionId).dataOut = row.dataOut

/-- What is reported of a row is the sample of its entry, while it is listed. -/
theorem reported_iff_agreed (hlinked : Linked s) (hfiled : Filed s) : Reported s ↔ Agreed s := by
  constructor
  · intro hreported row hrow hlisted
    have hdata := (hreported row hrow).list (row.connectionId, s.entry row.connectionId)
      (List.mem_map.mpr ⟨_, hlisted, rfl⟩) rfl
    exact ⟨congrArg (·.1) hdata, congrArg (·.2) hdata⟩
  · intro hagreed row hrow
    refine ⟨fun t c hc hid => ?_, fun e he hid => ?_⟩
    · obtain ⟨x, hx, rfl⟩ := List.mem_map.mp hc
      obtain ⟨id, hlisted, rfl⟩ := List.mem_map.mp (List.mem_filter.mp hx).1
      simp only at hid ⊢
      subst hid
      obtain ⟨hin, hout⟩ := hagreed row hrow hlisted
      obtain ⟨hin', hout', -⟩ := updateEntry_of_setOf_none (t := t)
        (hlinked.setOf_none (hfiled.rows row hrow).2)
      rw [hin', hout', hin, hout]
    · obtain ⟨id, hlisted, rfl⟩ := List.mem_map.mp he
      simp only at hid ⊢
      subst hid
      obtain ⟨hin, hout⟩ := hagreed row hrow hlisted
      rw [hin, hout]

theorem filed_update (h : Filed s) (t : CounterTree) : Filed (s.update t).2 :=
  ⟨fun row hrow => ⟨(h.rows row hrow).1, fun hopen =>
    (h.rows row hrow).2 ((state_entry_update t row.connectionId).mp hopen)⟩, h.listed⟩

/-- `Update` leaves the closed entries alone. -/
theorem agreed_update (hlinked : Linked s) (hfiled : Filed s) (h : Agreed s) (t : CounterTree) :
    Agreed (s.update t).2 := by
  intro row hrow hlisted
  obtain ⟨hin, hout⟩ := h row hrow hlisted
  obtain ⟨hin', hout', -⟩ := updateEntry_of_setOf_none (t := t)
    (hlinked.setOf_none (hfiled.rows row hrow).2)
  have hentry := entry_update (s := s) t row.connectionId
  rw [if_pos (show row.connectionId ∈ s.history from hlisted)] at hentry
  rw [hentry, hin', hout']
  exact ⟨hin, hout⟩

/-! ## A departure -/

/-- What a departure does to the entries and the rows: it closes the entry of the set it empties, or
nothing. -/
inductive Departs (x : ConnectionKey × Departure) (s s' : ConnectionHistory) : Prop
  | none (hdatabase : s'.database = s.database) (hentry : s'.entry = s.entry) (hcomplete : s.Complete x)
  | closes (set : ConnectionSet) (id : Nat) (row : HistoryRow)
      (hset : s.activeConnections.lookup x.1 = some set) (hempty : (set.remove x.2).connections = [])
      (hparent : set.parentEntry = some id)
      (hid : row.connectionId = id) (hin : row.dataIn = set.baseDataIn + x.2.dataIn)
      (hout : row.dataOut = set.baseDataOut + x.2.dataOut)
      (hdatabase : s'.database = s.database ++ [row])
      (hentry : s'.entry = Function.update s.entry id { s.entry id with state := .pendingClose })

theorem departs_untrack (h : Linked s) (t : CounterTree) (x : ConnectionKey × Departure) :
    Departs x s (untrack t x.1 x.2 s) := by
  unfold untrack
  cases hkey : s.activeConnections.lookup x.1 with
  | none =>
    refine .none rfl rfl fun set hset => ?_
    rw [hkey] at hset
    cases hset
  | some set =>
    simp only
    by_cases hempty : (set.remove x.2).connections = []
    · simp only [hempty, if_true, handleEmptySet]
      have hsame : (set.remove x.2).parentEntry = set.parentEntry := rfl
      rw [hsame]
      cases hparent : set.parentEntry with
      | none =>
        refine .none rfl rfl fun set' hset' _ id hid => ?_
        rw [hkey] at hset'
        cases hset'
        rw [hparent] at hid
        cases hid
      | some id =>
        have hopen := (h.opened x.1 set id hkey hparent).2
        simp only [hopen, ne_eq, not_true_eq_false, if_false, writeToDatabase]
        exact .closes set id _ hkey hempty hparent rfl rfl rfl rfl rfl
    · simp only [hempty, if_false]
      refine .none rfl rfl fun set' hset' hempty' => ?_
      rw [hkey] at hset'
      cases hset'
      exact absurd hempty' hempty

/-- The sample of no entry changes. -/
theorem Departs.data {x : ConnectionKey × Departure} {s s' : ConnectionHistory}
    (hd : Departs x s s') (i : Nat) :
    (s'.entry i).dataIn = (s.entry i).dataIn ∧ (s'.entry i).dataOut = (s.entry i).dataOut := by
  cases hd with
  | none hdatabase hentry hcomplete => rw [hentry]; exact ⟨rfl, rfl⟩
  | closes set id new hset hempty hparent hid hin hout hdatabase hentry =>
    rw [hentry, Function.update_apply]
    split
    · rename_i hi
      rw [hi]
      exact ⟨rfl, rfl⟩
    · exact ⟨rfl, rfl⟩

theorem Departs.filed {x : ConnectionKey × Departure} {s s' : ConnectionHistory}
    (hd : Departs x s s') (hlinked : Linked s) (h : Filed s) (hhistory : s'.history = s.history)
    (hnext : s'.nextConnectionId = s.nextConnectionId) : Filed s' := by
  refine ⟨fun row hrow => ?_, fun id hid => ?_⟩
  · rw [hnext]
    cases hd with
    | none hdatabase hentry hcomplete =>
      rw [hdatabase] at hrow
      rw [hentry]
      exact h.rows row hrow
    | closes set id new hset hempty hparent hid hin hout hdatabase hentry =>
      rw [hentry]
      have hnew : (Function.update s.entry id { s.entry id with state := .pendingClose } id).state ≠
          .open := by
        rw [Function.update_self]
        exact EntryState.noConfusion
      rw [hdatabase, List.mem_append, List.mem_singleton] at hrow
      rcases hrow with hrow | rfl
      · refine ⟨(h.rows row hrow).1, ?_⟩
        by_cases hsame : row.connectionId = id
        · rw [hsame]
          exact hnew
        · rw [Function.update_of_ne hsame]
          exact (h.rows row hrow).2
      · rw [hid]
        exact ⟨(hlinked.opened x.1 set id hset hparent).1, hnew⟩
  · rw [hnext]
    exact h.listed id (hhistory ▸ hid)

/-- **A departure keeps the agreement exactly when the entry it closes has the data.** -/
theorem Departs.agreed_iff {x : ConnectionKey × Departure} {s s' : ConnectionHistory}
    (hd : Departs x s s') (hhistory : s'.history = s.history) :
    Agreed s' ↔ Agreed s ∧ s.Complete x := by
  have hdata := hd.data
  cases hd with
  | none hdatabase hentry hcomplete =>
    unfold Agreed
    rw [hdatabase, hentry, hhistory]
    exact ⟨fun h => ⟨h, hcomplete⟩, And.left⟩
  | closes set id new hset hempty hparent hid hin hout hdatabase hentry =>
    have hcomplete : s.Complete x ↔ (id ∈ s.history →
        (s.entry id).dataIn = new.dataIn ∧ (s.entry id).dataOut = new.dataOut) := by
      rw [hin, hout]
      constructor
      · exact fun h => h set hset hempty id hparent
      · intro h set' hset' _ id' hid'
        rw [hset] at hset'
        cases hset'
        rw [hparent] at hid'
        cases hid'
        exact h
    unfold Agreed
    rw [hdatabase, hhistory, hcomplete, List.forall_mem_append, List.forall_mem_singleton, hid]
    simp only [hdata]

/-- The departures of a step. -/
theorem agreed_foldl (t : CounterTree) : ∀ (l : List (ConnectionKey × Departure))
    {s : ConnectionHistory}, Linked s → Filed s →
    Filed (l.foldl (fun s x => untrack t x.1 x.2 s) s) ∧
      (Agreed (l.foldl (fun s x => untrack t x.1 x.2 s) s) ↔
        Agreed s ∧ AllSteps (fun s x => untrack t x.1 x.2 s) Complete s l)
  | [], s, _, hfiled => ⟨hfiled, by simp only [List.foldl_nil, AllSteps, and_true]⟩
  | x :: l, s, hlinked, hfiled => by
    obtain ⟨hhistory, -, hnext⟩ := untrack_history (s := s) t x.1 x.2
    have hd := departs_untrack hlinked t x
    obtain ⟨hfiled', hagreed'⟩ := agreed_foldl t l (hlinked.untrack t x.1 x.2)
      (hd.filed hlinked hfiled hhistory hnext)
    refine ⟨hfiled', ?_⟩
    rw [List.foldl_cons, hagreed', hd.agreed_iff hhistory, AllSteps, and_assoc]

/-! ## An arrival -/

theorem entry_push (env : HistoryEnv) (t : CounterTree) (app : Ref) (e : Endpoint) {id : Nat}
    (hid : id < s.nextConnectionId) : (push env t app e s).2.entry id = s.entry id := by
  unfold push
  split
  · rfl
  · exact Function.update_of_ne (Nat.ne_of_lt hid) _ _

theorem entry_track (env : HistoryEnv) (t : CounterTree) (app : Ref) (key : ConnectionKey)
    (item : CounterId) {id : Nat} (hid : id < s.nextConnectionId) :
    (track env t app key item s).entry id = s.entry id := by
  unfold track
  split
  · split <;> rfl
  · exact entry_push env t app key.2 hid

/-- The entries of a history that grows are the listed ones and perhaps the next. -/
theorem Grows.listed {s' : ConnectionHistory} (h : Grows s s') {id : Nat} (hid : id ∈ s'.history) :
    id ∈ s.history ∨ id = s.nextConnectionId ∧ s'.nextConnectionId = s.nextConnectionId + 1 := by
  cases h with
  | same hhistory _ _ => exact .inl (hhistory ▸ hid)
  | entry hhistory _ hnext =>
    rw [hhistory] at hid
    have hmem : id ∈ s.history ++ [s.nextConnectionId] := by
      unfold pushWindow at hid
      split at hid
      · exact List.mem_of_mem_tail hid
      · exact hid
    rw [List.mem_append, List.mem_singleton] at hmem
    exact hmem.imp_right fun hnew => ⟨hnew, hnext⟩

theorem Grows.next_le {s' : ConnectionHistory} (h : Grows s s') :
    s.nextConnectionId ≤ s'.nextConnectionId := by
  cases h with
  | same _ _ hnext => exact hnext.ge
  | entry _ _ hnext => exact hnext ▸ Nat.le_succ _

/-- A step that makes at most a new entry. -/
theorem Filed.grows {s' : ConnectionHistory} (h : Filed s) (hg : Grows s s')
    (hdatabase : s'.database = s.database)
    (hentry : ∀ id < s.nextConnectionId, s'.entry id = s.entry id) :
    Filed s' ∧ (Agreed s → Agreed s') := by
  refine ⟨⟨fun row hrow => ?_, fun id hid => ?_⟩, fun hagreed row hrow hid => ?_⟩
  · rw [hdatabase] at hrow
    obtain ⟨hlt, hstate⟩ := h.rows row hrow
    exact ⟨Nat.lt_of_lt_of_le hlt hg.next_le, by rwa [hentry _ hlt]⟩
  · rcases hg.listed hid with hold | ⟨rfl, hnext⟩
    · exact Nat.lt_of_lt_of_le (h.listed id hold) hg.next_le
    · exact hnext ▸ Nat.lt_succ_self _
  · rw [hdatabase] at hrow
    have hlt := (h.rows row hrow).1
    rw [hentry _ hlt]
    rcases hg.listed hid with hold | ⟨hnew, -⟩
    · exact hagreed row hrow hold
    · exact absurd hlt (hnew ▸ Nat.lt_irrefl _)

/-! ## Runs -/

/-- What holds after every step. -/
structure Closing (s : ConnectionHistory) : Prop where
  linked : Linked s
  filed : Filed s
  agreed : Agreed s

/-- A notice keeps the agreement when the entries it closes have their data, and only then. -/
theorem agreed_handle (e : Event) (hlinked : Linked s) (hfiled : Filed s) :
    Filed (s.handle e) ∧ (Agreed s → s.Completes (.event e) → Agreed (s.handle e)) ∧
      (Agreed (s.handle e) → s.Completes (.event e)) := by
  have hquiet (hnone : removedBy e = []) (hdatabase : (s.handle e).database = s.database)
      (hentry : ∀ id < s.nextConnectionId, (s.handle e).entry id = s.entry id) :
      Filed (s.handle e) ∧ (Agreed s → s.Completes (.event e) → Agreed (s.handle e)) ∧
        (Agreed (s.handle e) → s.Completes (.event e)) := by
    obtain ⟨hfiled', hagreed⟩ := hfiled.grows (grows_handle s e) hdatabase hentry
    have hcompletes : s.Completes (.event e) := by simp only [Completes, hnone, AllSteps]
    exact ⟨hfiled', fun h _ => hagreed h, fun _ => hcompletes⟩
  have hdepart (gone : List CounterId) (hout : s.handle e =
      { (removedBy e).foldl (fun s x => untrack e.tree x.1 x.2 s) s with gone := gone }) :
      Filed (s.handle e) ∧ (Agreed s → s.Completes (.event e) → Agreed (s.handle e)) ∧
        (Agreed (s.handle e) → s.Completes (.event e)) := by
    obtain ⟨hfiled', hagreed⟩ := agreed_foldl e.tree (removedBy e) hlinked hfiled
    rw [hout]
    exact ⟨⟨hfiled'.rows, hfiled'.listed⟩, fun h hcompletes => hagreed.mpr ⟨h, hcompletes⟩,
      fun h => (hagreed.mp h).2⟩
  cases hnotice : e.notice with
  | onSocketConnected r =>
    refine hquiet (by simp only [removedBy, hnotice]) ?_ fun id hid => ?_
    · simp only [handle, hnotice, onSocketConnected]
      split
      · rfl
      · exact track_database ..
    · simp only [handle, hnotice, onSocketConnected]
      split
      · rfl
      · exact entry_track _ _ _ _ _ hid
  | onUDPTupleCreated u =>
    refine hquiet (by simp only [removedBy, hnotice]) ?_ fun id hid => ?_
    · simp only [handle, hnotice]
      exact track_database ..
    · simp only [handle, hnotice]
      exact entry_track _ _ _ _ _ hid
  | onSocketRemoved r =>
    exact hdepart (s.handle e).gone (by simp only [handle, removedBy, hnotice, onSocketRemoved])
  | onUDPTupleRemoved u =>
    exact hdepart (s.handle e).gone (by
      simp only [handle, removedBy, hnotice, onUDPTupleRemoved, List.foldl_cons, List.foldl_nil])
  | _ =>
    refine hquiet ?_ ?_ fun id _ => ?_
    · simp only [removedBy, hnotice]
    · simp only [handle, hnotice]
    · simp only [handle, hnotice]

/-- Every report of a stored entry has the stored data, throughout a run, exactly when every entry
that is closed has the data of its set. -/
theorem always_reported_iff (ops : List HistoryOp) :
    Always stepReport Reported {} ops ↔ AllSteps stepReport Completes {} ops := by
  refine always_iff_allSteps (I := Closing)
    (fun s h => (reported_iff_agreed h.linked h.filed).mpr h.agreed) ?_ ?_ ops
    ⟨linked_start, ⟨fun _ h => absurd h List.not_mem_nil, fun _ h => absurd h List.not_mem_nil⟩,
      fun _ h => absurd h List.not_mem_nil⟩
  · intro s o h hcompletes
    cases o with
    | event e =>
      obtain ⟨hfiled, hkeep, -⟩ := agreed_handle e h.linked h.filed
      exact ⟨h.linked.handle e, hfiled, hkeep h.agreed hcompletes⟩
    | update t =>
      exact ⟨h.linked.update t, filed_update h.filed t,
        agreed_update h.linked h.filed h.agreed t⟩
  · intro s o h hreported
    cases o with
    | event e =>
      obtain ⟨hfiled, -, hbreak⟩ := agreed_handle e h.linked h.filed
      exact hbreak ((reported_iff_agreed (h.linked.handle e) hfiled).mp hreported)
    | update t => trivial

end ConnectionHistory

end Waechter
