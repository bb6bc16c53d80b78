import Waechter.Daemon.SystemRule

/-!
# The rule table

`WriteAppRuleToDb`, `WriteSystemRuleToDb` and the row that `OnAppFirstTimeConnected` reads back
(`Daemon/Rules/RuleManager.cpp`). The table keeps the limits as they are written, but its columns
are integers: what is read of one is a 64-bit integer (`IntegerColumn`).

* `written_iff`: `WriteAppRuleToDb` writes what it should unless it takes the default rule for an
  application without a row; then it reads the id of a row that is not there.
* `written_writeSystemRuleToDb`: `WriteSystemRuleToDb` always does.
* `persists_iff`: what is read back is what was written if the limits are whole as well.
-/

namespace Waechter

open Lib

/-- A row of `Rule`. -/
structure RuleRow where
  id : Nat
  target : String
  rule : DbRule

/-- The table `Rule`: `ID` is its primary key, and a target has one row at most. -/
structure RuleTable where
  rows : List RuleRow := []
  ids : (rows.map (·.id)).Nodup := by decide
  targets : (rows.map (·.target)).Nodup := by decide

instance : Inhabited RuleTable := ⟨{}⟩

/-- What is read of a number in an `INTEGER` column. -/
structure IntegerColumn where
  read : BytesPerSecond → Int
  /-- A 64-bit integer is read as it is. -/
  read_int : ∀ n : Int, -2 ^ 63 ≤ n → n < 2 ^ 63 → read n = n
  read_bounds : ∀ x, -2 ^ 63 ≤ read x ∧ read x < 2 ^ 63

/-- A limit that a 64-bit integer can hold. -/
def Whole (x : BytesPerSecond) : Prop := ∃ n : Int, -2 ^ 63 ≤ n ∧ n < 2 ^ 63 ∧ x = n

/-- Exactly those are read as they were written. -/
theorem IntegerColumn.read_eq_iff (column : IntegerColumn) (x : BytesPerSecond) :
    (column.read x : BytesPerSecond) = x ↔ Whole x := by
  constructor
  · intro h
    exact ⟨column.read x, (column.read_bounds x).1, (column.read_bounds x).2, h.symm⟩
  · rintro ⟨n, hlo, hhi, rfl⟩
    rw [column.read_int n hlo hhi]

/-- The columns of a rule. -/
def DbRule.ofRules (r : TrafficItemRules) : DbRule :=
  ⟨r.downloadLimit, r.uploadLimit, r.downloadSwitch, r.uploadSwitch⟩

/-- A row as it is read. -/
def DbRule.read (column : IntegerColumn) (row : DbRule) : DbRule :=
  { row with
    downloadLimit := column.read row.downloadLimit
    uploadLimit := column.read row.uploadLimit }

namespace RuleTable

variable {table table' : RuleTable} {target : String}

/-- `select(..).where(Rule.Target == target)`. -/
def select (table : RuleTable) (target : String) : Option RuleRow :=
  table.rows.find? (·.target = target)

theorem mem_of_select {row : RuleRow} (h : table.select target = some row) :
    row ∈ table.rows ∧ row.target = target :=
  ⟨List.mem_of_find?_eq_some h, by simpa using List.find?_some h⟩

theorem select_eq_none_iff : table.select target = none ↔ ∀ row ∈ table.rows, row.target ≠ target := by
  simp [select]

/-- The id the next row gets. -/
def nextId (table : RuleTable) : Nat := (table.rows.map (·.id)).foldr max 0 + 1

theorem lt_nextId {row : RuleRow} (h : row ∈ table.rows) : row.id < table.nextId := by
  have hle : ∀ l : List Nat, ∀ i ∈ l, i ≤ l.foldr max 0 := by
    intro l
    induction l with
    | nil => exact List.forall_mem_nil _
    | cons j l ih =>
      intro i hi
      rcases List.mem_cons.mp hi with rfl | hi
      · exact Nat.le_max_left _ _
      · exact (ih i hi).trans (Nat.le_max_right _ _)
  exact Nat.lt_succ_of_le (hle _ _ (List.mem_map.mpr ⟨row, h, rfl⟩))

/-- `insert_into(Rule).set(..)` for a target without a row. -/
def insertInto (table : RuleTable) (target : String) (rule : DbRule)
    (hnone : table.select target = none) : RuleTable where
  rows := table.rows ++ [⟨table.nextId, target, rule⟩]
  ids := by
    rw [List.map_append, List.nodup_append]
    refine ⟨table.ids, List.nodup_singleton _, fun i hi j hj => ?_⟩
    obtain ⟨row, hrow, rfl⟩ := List.mem_map.mp hi
    rw [List.mem_singleton.mp hj]
    exact Nat.ne_of_lt (lt_nextId hrow)
  targets := by
    rw [List.map_append, List.nodup_append]
    refine ⟨table.targets, List.nodup_singleton _, fun s hs s' hs' => ?_⟩
    obtain ⟨row, hrow, rfl⟩ := List.mem_map.mp hs
    rw [List.mem_singleton.mp hs']
    exact select_eq_none_iff.mp hnone row hrow

/-- `remove_from(Rule).where(Rule.ID == id)`. -/
def removeFrom (table : RuleTable) (id : Nat) : RuleTable where
  rows := table.rows.filter (·.id ≠ id)
  ids := (List.filter_sublist.map _).nodup table.ids
  targets := (List.filter_sublist.map _).nodup table.targets

/-- The columns of the row with an id are set. -/
def setRow (id : Nat) (rule : DbRule) (row : RuleRow) : RuleRow :=
  if row.id = id then { row with rule } else row

theorem id_setRow (id : Nat) (rule : DbRule) (row : RuleRow) : (setRow id rule row).id = row.id := by
  unfold setRow; split <;> rfl

theorem target_setRow (id : Nat) (rule : DbRule) (row : RuleRow) :
    (setRow id rule row).target = row.target := by
  unfold setRow; split <;> rfl

/-- `update(Rule).set(..).where(Rule.ID == id)`. -/
def update (table : RuleTable) (id : Nat) (rule : DbRule) : RuleTable where
  rows := table.rows.map (setRow id rule)
  ids := by
    rw [List.map_map, show (·.id) ∘ setRow id rule = (·.id) from funext (id_setRow id rule)]
    exact table.ids
  targets := by
    rw [List.map_map, show (·.target) ∘ setRow id rule = (·.target) from
      funext (target_setRow id rule)]
    exact table.targets

/-! ## The writers -/

/-- What `RuleResult.front().ID.value()` throws for an empty result. -/
def nonExistingRow : String := "accessing value in non-existing row"

/-- `WriteAppRuleToDb`, for the path of the application. Its first test is for both, no row and a
rule that is not the default one. -/
def writeAppRuleToDb (rules : TrafficItemRules) (path : String) (table : RuleTable) :
    Except String RuleTable :=
  match h : table.select path with
  | none =>
    if rules.isDefault then .error nonExistingRow
    else .ok (table.insertInto path (.ofRules rules) h)
  | some row =>
    if rules.isDefault then .ok (table.removeFrom row.id)
    else .ok (table.update row.id (.ofRules rules))

/-- `WriteSystemRuleToDb`. -/
def writeSystemRuleToDb (rules : TrafficItemRules) (table : RuleTable) : RuleTable :=
  match h : table.select "system" with
  | none =>
    if rules.isDefault then table else table.insertInto "system" (.ofRules rules) h
  | some row =>
    if rules.isDefault then table.removeFrom row.id
    else table.update row.id (.ofRules rules)

/-- A rule is written for a target: its row is there unless the rule is the default one, and the
other rows are as before. -/
structure Written (rules : TrafficItemRules) (target : String) (table table' : RuleTable) :
    Prop where
  row : ∀ rule, (∃ row ∈ table'.rows, row.target = target ∧ row.rule = rule) ↔
    rules.isDefault = false ∧ rule = .ofRules rules
  others : ∀ row, row.target ≠ target → (row ∈ table'.rows ↔ row ∈ table.rows)

variable {rules : TrafficItemRules}

theorem written_insertInto (hdefault : rules.isDefault = false) (hnone : table.select target = none) :
    Written rules target table (table.insertInto target (.ofRules rules) hnone) := by
  constructor
  · intro rule
    simp only [insertInto, List.mem_append, List.mem_singleton, hdefault, true_and]
    constructor
    · rintro ⟨row, hrow | rfl, htarget, rfl⟩
      · exact absurd htarget (select_eq_none_iff.mp hnone row hrow)
      · rfl
    · rintro rfl
      exact ⟨_, .inr rfl, rfl, rfl⟩
  · intro row hne
    simp only [insertInto, List.mem_append, List.mem_singleton]
    refine or_iff_left ?_
    rintro rfl
    exact hne rfl

theorem written_removeFrom {row : RuleRow} (hdefault : rules.isDefault = true)
    (hrow : table.select target = some row) : Written rules target table (table.removeFrom row.id) := by
  obtain ⟨hmem, htarget⟩ := mem_of_select hrow
  constructor
  · intro rule
    simp only [removeFrom, List.mem_filter, decide_eq_true_eq, hdefault, Bool.true_eq_false,
      false_and, iff_false]
    rintro ⟨other, ⟨hother, hne⟩, hsame, -⟩
    exact hne (congrArg RuleRow.id
      (List.inj_on_of_nodup_map table.targets hother hmem (hsame.trans htarget.symm)))
  · intro other hne
    simp only [removeFrom, List.mem_filter, decide_eq_true_eq, and_iff_left_iff_imp]
    intro hother hid
    rw [List.inj_on_of_nodup_map table.ids hother hmem hid] at hne
    exact hne htarget

theorem written_update {row : RuleRow} (hdefault : rules.isDefault = false)
    (hrow : table.select target = some row) :
    Written rules target table (table.update row.id (.ofRules rules)) := by
  obtain ⟨hmem, htarget⟩ := mem_of_select hrow
  -- the row with that id is the one with the target
  have hid : ∀ other ∈ table.rows, other.id = row.id ↔ other.target = target := by
    intro other hother
    constructor
    · intro h
      rw [List.inj_on_of_nodup_map table.ids hother hmem h, htarget]
    · intro h
      rw [List.inj_on_of_nodup_map table.targets hother hmem (h.trans htarget.symm)]
  constructor
  · intro rule
    simp only [update, List.mem_map, exists_exists_and_eq_and, hdefault, true_and, target_setRow]
    constructor
    · rintro ⟨other, hother, hsame, rfl⟩
      rw [setRow, if_pos ((hid other hother).mpr hsame)]
    · rintro rfl
      exact ⟨row, hmem, htarget, by rw [setRow, if_pos rfl]⟩
  · intro other hne
    simp only [update, List.mem_map]
    constructor
    · rintro ⟨other', hother', rfl⟩
      rw [target_setRow] at hne
      rwa [setRow, if_neg fun h => hne ((hid other' hother').mp h)]
    · intro hother
      exact ⟨other, hother, by rw [setRow, if_neg fun h => hne ((hid other hother).mp h)]⟩

/-- **`WriteSystemRuleToDb` writes the rule**, whatever the table holds. -/
theorem written_writeSystemRuleToDb (rules : TrafficItemRules) (table : RuleTable) :
    Written rules "system" table (table.writeSystemRuleToDb rules) := by
  unfold writeSystemRuleToDb
  split
  · rename_i hnone
    split
    · rename_i hdefault
      refine ⟨fun rule => ?_, fun row _ => Iff.rfl⟩
      simp only [hdefault, Bool.true_eq_false, false_and, iff_false, not_exists, not_and]
      exact fun row hrow htarget => absurd htarget (select_eq_none_iff.mp hnone row hrow)
    · exact written_insertInto (Bool.eq_false_iff.mpr ‹_›) hnone
  · split
    · exact written_removeFrom ‹_› ‹_›
    · exact written_update (Bool.eq_false_iff.mpr ‹_›) ‹_›

/-- **`WriteAppRuleToDb` writes the rule** unless it takes the default one where there is no row. -/
theorem written_iff (rules : TrafficItemRules) (path : String) (table : RuleTable) :
    (∃ table', table.writeAppRuleToDb rules path = .ok table' ∧ Written rules path table table') ↔
      (rules.isDefault = true → table.select path ≠ none) := by
  unfold writeAppRuleToDb
  split
  · rename_i hnone
    by_cases hdefault : rules.isDefault = true
    · simp [hdefault, hnone]
    · simp [hdefault, written_insertInto (Bool.eq_false_iff.mpr hdefault) hnone]
  · rename_i row hrow
    by_cases hdefault : rules.isDefault = true
    · simp [hdefault, hrow, written_removeFrom hdefault hrow]
    · simp [hdefault, written_update (Bool.eq_false_iff.mpr hdefault) hrow]

theorem Written.select (h : Written rules target table table') :
    (table'.select target).map (·.rule) =
      if rules.isDefault then none else some (.ofRules rules) := by
  cases hselect : table'.select target with
  | none =>
    by_cases hdefault : rules.isDefault = true
    · simp [hdefault]
    · obtain ⟨row, hrow, htarget, -⟩ := (h.row _).mpr ⟨Bool.eq_false_iff.mpr hdefault, rfl⟩
      exact absurd htarget (select_eq_none_iff.mp hselect row hrow)
  | some row =>
    obtain ⟨hmem, htarget⟩ := mem_of_select hselect
    obtain ⟨hdefault, hrule⟩ := (h.row row.rule).mp ⟨row, hmem, htarget, rfl⟩
    simp [hdefault, hrule]

/-- The row of the system rule by itself. -/
theorem select_writeSystemRuleToDb (rules : TrafficItemRules) (table : RuleTable) :
    ((table.writeSystemRuleToDb rules).select "system").map (·.rule) =
      SystemRuleState.writeSystemRuleToDb rules ((table.select "system").map (·.rule)) := by
  rw [(written_writeSystemRuleToDb rules table).select]
  cases table.select "system" <;> rfl

/-- The table, as a query for a target reads it. -/
def read (column : IntegerColumn) (table : RuleTable) (target : String) : Option DbRule :=
  (table.select target).map fun row => row.rule.read column

theorem Written.read (h : Written rules target table table') (column : IntegerColumn) :
    table'.read column target =
      if rules.isDefault then none else some ((DbRule.ofRules rules).read column) := by
  have hread : table'.read column target =
      ((table'.select target).map (·.rule)).map (DbRule.read column) := by
    rw [Option.map_map]
    rfl
  rw [hread, h.select]
  split <;> rfl

end RuleTable

/-! ## The reader -/

/-- What a client shows of a row that is loaded. -/
def DbRule.shown (row : DbRule) : RuleView :=
  ⟨row.uploadSwitch, row.downloadSwitch, row.uploadLimit, row.downloadLimit⟩

/-- **The rule that is loaded is the one of the row**: a rule that is not stored is the default
one. -/
theorem shown_onAppFirstTimeConnected (env : RuleEnv) (t : CounterTree) (app : Ref)
    (m : RuleManager) (hnew : (rulesOf m.applicationRules (t.app app).trafficItem.itemId).shown = {}) :
    (rulesOf (m.onAppFirstTimeConnected env t app).applicationRules
        (t.app app).trafficItem.itemId).shown =
      ((env.dbRule (t.app app).trafficItem.applicationPath).map DbRule.shown).getD {} := by
  unfold RuleManager.onAppFirstTimeConnected
  cases hrow : env.dbRule (t.app app).trafficItem.applicationPath with
  | none =>
    simp only [hrow]
    exact hnew
  | some row =>
    simp only [hrow, Option.map_some, Option.getD_some]
    split
    · rename_i hdefault
      exact hnew.trans (shown_of_isDefault hdefault).symm
    · rw [((RuleManager.sameRules_updateRuleCache _ _ _ _).trans
        (RuleManager.sameRules_syncRules _ _)).applicationRules]
      simp only [rulesOf, UMap.lookup_insert_ite, if_true, Option.getD_some]
      rfl

/-! ## The round trip -/

/-- Once the application of a path is connected for the first time, while it has no rule yet, its
rule is the one that was written, as long as the row of the path is the one the table has. -/
def Restores (column : IntegerColumn) (rules : TrafficItemRules) (path : String)
    (table : RuleTable) : Prop :=
  ∀ (env : RuleEnv) (t : CounterTree) (app : Ref) (m : RuleManager),
    env.dbRule path = table.read column path → (t.app app).trafficItem.applicationPath = path →
    (rulesOf m.applicationRules (t.app app).trafficItem.itemId).shown = {} →
      (rulesOf (m.onAppFirstTimeConnected env t app).applicationRules
        (t.app app).trafficItem.itemId).shown = rules.shown

/-- `WriteAppRuleToDb` writes a rule that is restored later. -/
def Persists (column : IntegerColumn) (rules : TrafficItemRules) (path : String)
    (table : RuleTable) : Prop :=
  ∃ table', table.writeAppRuleToDb rules path = .ok table' ∧ RuleTable.Written rules path table table' ∧
    Restores column rules path table'

/-- A tree whose applications all have a path. -/
def appTree (path : String) : CounterTree :=
  { (default : CounterTree) with app := fun _ =>
    { toTrafficCounter := .new 0 { applicationPath := path } } }

theorem shown_read_ofRules (column : IntegerColumn) (rules : TrafficItemRules) :
    ((DbRule.ofRules rules).read column).shown = rules.shown ↔
      Whole rules.uploadLimit ∧ Whole rules.downloadLimit := by
  rw [← column.read_eq_iff, ← column.read_eq_iff]
  simp [DbRule.shown, DbRule.read, DbRule.ofRules, TrafficItemRules.shown]

theorem whole_of_isDefault {rules : TrafficItemRules} (h : rules.isDefault = true) :
    Whole rules.uploadLimit ∧ Whole rules.downloadLimit := by
  have hshown := shown_of_isDefault h
  simp only [TrafficItemRules.shown, RuleView.mk.injEq] at hshown
  rw [hshown.2.2.1, hshown.2.2.2]
  exact ⟨⟨0, by decide, by decide, rfl⟩, ⟨0, by decide, by decide, rfl⟩⟩

/-- What was written is restored exactly when the limits are whole. -/
theorem restores_iff (column : IntegerColumn) {rules : TrafficItemRules} {path : String}
    {table table' : RuleTable} (h : RuleTable.Written rules path table table') :
    Restores column rules path table' ↔ Whole rules.uploadLimit ∧ Whole rules.downloadLimit := by
  have hloaded : ((table'.read column path).map DbRule.shown).getD {} = rules.shown ↔
      Whole rules.uploadLimit ∧ Whole rules.downloadLimit := by
    rw [h.read column]
    by_cases hdefault : rules.isDefault = true
    · simp [hdefault, shown_of_isDefault hdefault, whole_of_isDefault hdefault]
    · simp [hdefault, shown_read_ofRules]
  rw [← hloaded]
  constructor
  · intro hrestores
    have hread := hrestores { SystemRuleState.bareEnv with dbRule := table'.read column }
      (appTree path) 0 {} rfl rfl rfl
    rwa [shown_onAppFirstTimeConnected _ (appTree path) 0 {} rfl] at hread
  · intro hread env t app m hrow hpath hnew
    rw [shown_onAppFirstTimeConnected env t app m hnew, hpath, hrow, hread]

/-- **The round trip of a rule.** -/
theorem persists_iff (column : IntegerColumn) (rules : TrafficItemRules) (path : String)
    (table : RuleTable) :
    Persists column rules path table ↔
      (rules.isDefault = true → table.select path ≠ none) ∧ Whole rules.uploadLimit ∧
        Whole rules.downloadLimit := by
  rw [← RuleTable.written_iff]
  constructor
  · rintro ⟨table', hwrite, hwritten, hrestores⟩
    exact ⟨⟨table', hwrite, hwritten⟩, (restores_iff column hwritten).mp hrestores⟩
  · rintro ⟨⟨table', hwrite, hwritten⟩, hwhole⟩
    exact ⟨table', hwrite, hwritten, (restores_iff column hwritten).mpr hwhole⟩

/-- A real number in the column is cut off at the point, and at the ends of the type. -/
def IntegerColumn.cast : IntegerColumn where
  read x := max (-2 ^ 63) (min (2 ^ 63 - 1) (x.num.tdiv x.den))
  read_int n hlo hhi := by
    rw [Rat.num_intCast, Rat.den_intCast, Nat.cast_one, Int.tdiv_one]
    omega
  read_bounds x := by omega

/-- The user opens the limit of an application without a rule and confirms the 0 it shows. -/
theorem persists_not_always : ¬ ∀ (column : IntegerColumn) (rules : TrafficItemRules)
    (path : String) (table : RuleTable), Persists column rules path table := by
  intro h
  obtain ⟨table', hwrite, -⟩ := h .cast { ruleType := .explicit } "/usr/bin/chat" {}
  rw [show RuleTable.writeAppRuleToDb _ _ {} = .error RuleTable.nonExistingRow from rfl] at hwrite
  cases hwrite

end Waechter
