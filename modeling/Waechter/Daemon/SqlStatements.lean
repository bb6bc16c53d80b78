import Mathlib.Data.List.TakeWhile
import Waechter.Daemon.DbMigrations
import Waechter.Lib.SqlScript

/-!
# The statements of a migration

What `ExecuteStatements` passes to `ExecuteRaw`, against the statements that the script has by the
rules of SQL.

* `respectsSql_iff`: they are the same exactly when no statement holds a semicolon and what lies
  between the statements is only white space that the function trims.
* `splits_literal`: it cuts a literal at the semicolon inside it.
-/

namespace Waechter.DbMigrations

open Lib.Sql

/-- What `find_first_not_of` skips. -/
def isTrimmed (c : Char) : Bool := c ∈ [' ', '\t', '\r', '\n']

/-- The statements of the script in SQL, each without the white space in front of it. -/
def sqlStatements (sql : List Char) : List (List Char) :=
  ((segments sql).filter isStatement).map fun segment => (text segment).dropWhile isTrimmed

/-- `ExecuteStatements`, when every `ExecuteRaw` returns, executes the statements of the script. -/
def RespectsSql (sql : List Char) : Prop :=
  ∀ (o : Outcome) (e : WEntry) (db : Db), (∀ i, o.executes i = true) →
    executeStatements o e 0 (statements sql) db =
      some { db with executed := db.executed ++ (sqlStatements sql).map (e, ·) }

/-- No statement holds a semicolon, in a literal, a quoted name, a comment or the body of a trigger,
and what is no statement holds no comment and no form feed. -/
def Splittable (sql : List Char) : Prop :=
  ∀ segment ∈ segments sql,
    if isStatement segment then ';' ∉ text segment
    else ∀ c ∈ text segment, c = ';' ∨ isTrimmed c = true

instance (sql : List Char) : Decidable (Splittable sql) :=
  have (segment : List Token) : Decidable (∀ c ∈ text segment, c = ';' ∨ isTrimmed c = true) :=
    List.decidableBAll _ _
  List.decidableBAll _ _

/-! ## One segment -/

theorem statements_eq (sql : List Char) :
    statements sql = ((sql.splitOn ';').map (List.dropWhile isTrimmed)).filter (· ≠ []) := rfl

theorem mem_dropWhile_isTrimmed {c : Char} (hc : isTrimmed c = false) {l : List Char}
    (h : c ∈ l) : c ∈ l.dropWhile isTrimmed := by
  rw [← List.takeWhile_append_dropWhile (p := isTrimmed) (l := l), List.mem_append] at h
  refine h.resolve_left fun htaken => ?_
  rw [List.mem_takeWhile_imp htaken] at hc
  exact Bool.noConfusion hc

theorem statements_eq_nil_iff (sql : List Char) :
    statements sql = [] ↔ ∀ c ∈ sql, c = ';' ∨ isTrimmed c = true := by
  have hpieces : statements sql = [] ↔
      ∀ piece ∈ sql.splitOn ';', ∀ c ∈ piece, isTrimmed c = true := by
    simp [statements_eq, List.filter_eq_nil_iff, List.dropWhile_eq_nil_iff]
  rw [hpieces]
  constructor
  · intro h c hc
    by_cases hsemi : c = ';'
    · exact .inl hsemi
    · obtain ⟨piece, hpiece, hcp⟩ := (exists_mem_splitOn_iff ';' c sql).mpr ⟨hc, hsemi⟩
      exact .inr (h piece hpiece c hcp)
  · intro h piece hpiece c hcp
    obtain ⟨hc, hsemi⟩ := (exists_mem_splitOn_iff ';' c sql).mp ⟨piece, hpiece, hcp⟩
    exact (h c hc).resolve_left hsemi

theorem statements_of_notMem {sql : List Char} (h : ';' ∉ sql)
    (hne : sql.dropWhile isTrimmed ≠ []) : statements sql = [sql.dropWhile isTrimmed] := by
  rw [statements_eq, List.splitOn_eq_singleton h, List.map_singleton,
    List.filter_eq_self.mpr (by simpa using hne)]

/-- No statement that is passed holds a semicolon. -/
theorem notMem_of_mem_statements {sql s : List Char} (h : s ∈ statements sql) : ';' ∉ s := by
  rw [statements_eq, List.mem_filter, List.mem_map] at h
  obtain ⟨⟨piece, hpiece, rfl⟩, -⟩ := h
  intro hsemi
  have hc := (List.dropWhile_suffix isTrimmed).mem hsemi
  exact ((exists_mem_splitOn_iff ';' ';' sql).mp ⟨piece, hpiece, hc⟩).2 rfl

/-- A statement of the script begins, behind white space and comments, with a character that is
neither a semicolon nor trimmed. -/
theorem exists_visible {segment : List Token} (hlexed : ∀ t ∈ segment, t.Lexed)
    (h : isStatement segment = true) :
    ∃ c ∈ text segment, c ≠ ';' ∧ isTrimmed c = false := by
  rw [isStatement, List.any_eq_true] at h
  obtain ⟨t, ht, hkind⟩ := h
  rw [decide_eq_true_iff] at hkind
  obtain ⟨hblank, hsemi⟩ := visible_of_lexed (hlexed t ht) hkind.1 hkind.2
  refine ⟨t.head, List.mem_flatMap.mpr ⟨t, ht, List.mem_cons_self⟩, hsemi, ?_⟩
  by_contra htrim
  have : isBlank t.head = true := by
    rw [Bool.not_eq_false] at htrim
    simp only [isTrimmed, isBlank, decide_eq_true_eq, List.mem_cons, List.not_mem_nil,
      or_false] at htrim ⊢
    tauto
  rw [this] at hblank
  exact Bool.noConfusion hblank

/-- What the function passes of one segment, when it is what SQL has there. -/
theorem statements_segment_iff {segment : List Token} (hlexed : ∀ t ∈ segment, t.Lexed) :
    (statements (text segment) =
        if isStatement segment then [(text segment).dropWhile isTrimmed] else []) ↔
      if isStatement segment then ';' ∉ text segment
      else ∀ c ∈ text segment, c = ';' ∨ isTrimmed c = true := by
  split
  · rename_i hstatement
    obtain ⟨c, hc, -, htrim⟩ := exists_visible hlexed hstatement
    refine ⟨fun heq hsemi => ?_, fun h => statements_of_notMem h ?_⟩
    · exact notMem_of_mem_statements (heq ▸ List.mem_singleton_self _)
        (mem_dropWhile_isTrimmed (by decide) hsemi)
    · exact List.ne_nil_of_mem (mem_dropWhile_isTrimmed htrim hc)
  · exact statements_eq_nil_iff _

/-- Something is passed of a segment that is a statement. -/
theorem length_statements_segment {segment : List Token} (hlexed : ∀ t ∈ segment, t.Lexed) :
    (if isStatement segment then [(text segment).dropWhile isTrimmed] else []).length ≤
      (statements (text segment)).length := by
  split
  · rename_i hstatement
    obtain ⟨c, hc, hsemi, htrim⟩ := exists_visible hlexed hstatement
    refine List.length_pos_iff.mpr fun hnil => ?_
    rcases (statements_eq_nil_iff _).mp hnil c hc with rfl | h
    · exact hsemi rfl
    · exact Bool.noConfusion (h.symm.trans htrim)
  · exact Nat.zero_le _

/-! ## The script -/

theorem statements_eq_flatMap (sql : List Char) :
    statements sql = (segments sql).flatMap fun segment => statements (text segment) := by
  rw [statements_eq, splitOn_script, List.map_flatMap, List.filter_flatMap]
  rfl

theorem sqlStatements_eq_flatMap (sql : List Char) :
    sqlStatements sql = (segments sql).flatMap fun segment =>
      if isStatement segment then [(text segment).dropWhile isTrimmed] else [] := by
  rw [sqlStatements]
  induction segments sql with
  | nil => rfl
  | cons segment rest ih =>
    rw [List.flatMap_cons, ← ih]
    cases h : isStatement segment <;> simp [h]

theorem statements_eq_iff (sql : List Char) :
    statements sql = sqlStatements sql ↔ Splittable sql := by
  rw [statements_eq_flatMap, sqlStatements_eq_flatMap,
    flatMap_eq_iff fun _ h => length_statements_segment (lexed_of_mem_segments h)]
  exact forall₂_congr fun _ h => statements_segment_iff (lexed_of_mem_segments h)

theorem respectsSql_iff_eq (sql : List Char) :
    RespectsSql sql ↔ statements sql = sqlStatements sql := by
  constructor
  · intro h
    have hrun := h { readable := 0 } ⟨0, ⟨[], true, []⟩⟩ {} fun _ => rfl
    rw [executeStatements_eq, if_pos fun _ _ => rfl, Option.some_inj, Db.mk.injEq] at hrun
    exact List.map_injective_iff.mpr (Prod.mk_right_injective _) hrun.2
  · intro h o e db hexecutes
    rw [executeStatements_eq, if_pos fun _ _ => hexecutes _, h]

/-- **When the statements are those of SQL.** -/
theorem respectsSql_iff (sql : List Char) : RespectsSql sql ↔ Splittable sql :=
  (respectsSql_iff_eq sql).trans (statements_eq_iff sql)

/-- The literal is cut in two. -/
theorem splits_literal : ¬ RespectsSql "INSERT INTO T VALUES('a;b');".toList := by
  rw [respectsSql_iff_eq]
  decide

end Waechter.DbMigrations
