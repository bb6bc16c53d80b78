import Mathlib.Algebra.Group.Int.Defs
import Mathlib.Algebra.Group.Nat.Defs
import Mathlib.Data.List.Basic
import Mathlib.Order.MinMax
import Waechter.Lib.Run

/-!
# Database migrations

`WDbMigrations` (`Daemon/Db/DbMigrations.hpp`). Every start of the daemon runs `apply` on what the
runs before it left in the database. What the files hold is fixed; what a run meets when it opens,
reads and executes them is its `RunEnv`. Of the database we keep the recorded versions and the
statements that were executed and committed, each with the file it comes from.

* `recordedComplete_iff`: a recorded version vouches for every migration up to it, after any number
  of runs, exactly when no run records a version past a migration that it could not apply whole.
* `skipped_after_failure`: the run goes on after a rollback, and the next run skips what failed.
-/

namespace Waechter.DbMigrations

/-! ## The migration files -/

/-- A directory entry of a search path. -/
structure DirEntry where
  name : List Char
  isRegularFile : Bool
  content : List Char
  deriving DecidableEq

/-- `WEntry`; the path stands for the file it leads to. -/
structure WEntry where
  version : Int
  file : DirEntry
  deriving DecidableEq

/-- The leading digits of a file name. -/
def leadingDigits (name : List Char) : List Char := name.takeWhile Char.isDigit

/-- `std::stoll` on digits: it throws when the value is no `int64_t`. -/
def stoll (digits : List Char) : Option Int :=
  let n := digits.foldl (fun n c => 10 * n + (c.toNat - '0'.toNat)) 0
  if n < 2 ^ 63 then some n else none

/-- The entries of a directory that are migrations. The only backend is SQLite, so the test for
`.sqlite.sql` passes everything. -/
def isMigration (e : DirEntry) : Bool :=
  e.isRegularFile && ".sql".toList.isSuffixOf e.name && !(leadingDigits e.name).isEmpty

/-- The loop over the `directory_iterator`; `none` when `std::stoll` throws. -/
def scanDirectory : List DirEntry → Option (List WEntry)
  | [] => some []
  | e :: rest =>
    if isMigration e then do
      let v ← stoll (leadingDigits e.name)
      let found ← scanDirectory rest
      return { version := v, file := e } :: found
    else scanDirectory rest

/-- `FindMigrations`: the first search path that is a directory (`some`) and holds a migration. -/
def findMigrations : List (Option (List DirEntry)) → Option (List WEntry)
  | [] => some []
  | none :: dirs => findMigrations dirs
  | some dir :: dirs => do
    let found ← scanDirectory dir
    if found.isEmpty then findMigrations dirs else return found

/-- The statements of a text: split at `;`, trimmed on the left, without the blank ones. -/
def statements (sql : List Char) : List (List Char) :=
  ((sql.splitOn ';').map (List.dropWhile (· ∈ [' ', '\t', '\r', '\n']))).filter (· ≠ [])

/-! ## One run -/

/-- The database: the `Migration` table, and what was executed and committed. -/
structure Db where
  recorded : List Int := []
  executed : List (WEntry × List Char) := []
  deriving DecidableEq

/-- What a run meets when it applies one file: whether it opens, how much of it can be read, which
`ExecuteRaw` calls return, and whether the insert and the commit do. -/
structure Outcome where
  opens : Bool := true
  readable : Nat
  executes : Nat → Bool := fun _ => true
  records : Bool := true
  commits : Bool := true

/-- `Buf.str()`: a file that does not open, or that fails in the middle, is only logged. -/
def Outcome.read (o : Outcome) (e : WEntry) : List Char :=
  if o.opens then e.file.content.take o.readable else []

/-- `ExecuteStatements`, from the `i`-th statement on; `none` is an exception. -/
def executeStatements (o : Outcome) (e : WEntry) : Nat → List (List Char) → Db → Option Db
  | _, [], db => some db
  | i, s :: rest, db =>
    if o.executes i then
      executeStatements o e (i + 1) rest { db with executed := db.executed ++ [(e, s)] }
    else none

/-- The insert into `Migration`: `Version` is its primary key. -/
def recordVersion (o : Outcome) (e : WEntry) (db : Db) : Option Db :=
  if o.records ∧ e.version ∉ db.recorded then
    some { db with recorded := db.recorded ++ [e.version] }
  else none

/-- The loop body of `Apply`. After an exception the transaction is rolled back, and the loop goes
on. -/
def applyOne (currentVersion : Int) (outcome : WEntry → Outcome) (db : Db) (e : WEntry) : Db :=
  if e.version ≤ currentVersion then db
  else
    let o := outcome e
    let committed := do
      let work ← executeStatements o e 0 (statements (o.read e)) db
      let work ← recordVersion o e work
      if o.commits then some work else none
    committed.getD db

/-- `SELECT MAX(Version)`, `-1` on the empty table. -/
def currentVersion (db : Db) : Int := db.recorded.foldl max (-1)

/-- The migrations of the files. When `FindMigrations` throws, `Apply` ends before its loop. -/
def migrations (dirs : List (Option (List DirEntry))) : List WEntry :=
  (findMigrations dirs).getD []

variable (dirs : List (Option (List DirEntry)))

/-- What one run meets: the order `std::sort` leaves the migrations in (equal versions in any
order) and the outcome of each. -/
structure RunEnv where
  order : List WEntry
  perm : order.Perm (migrations dirs)
  sorted : order.Pairwise fun a b => a.version ≤ b.version
  outcome : WEntry → Outcome

variable {dirs}

/-- `Apply`. -/
def apply (db : Db) (env : RunEnv dirs) : Db :=
  env.order.foldl (applyOne (currentVersion db) env.outcome) db

/-! ## What a run does -/

/-- The statements of a file that were executed and committed. -/
def Db.of (db : Db) (e : WEntry) : List (List Char) :=
  db.executed.filterMap fun x => if x.1 = e then some x.2 else none

/-- Everything that was read of the file executes, and its version can be inserted. -/
def Outcome.Succeeds (o : Outcome) (e : WEntry) : Prop :=
  (∀ i < (statements (o.read e)).length, o.executes i = true) ∧ o.records = true ∧
    o.commits = true

instance (o : Outcome) (e : WEntry) : Decidable (o.Succeeds e) := inferInstanceAs (Decidable (_ ∧ _))

theorem executeStatements_eq (o : Outcome) (e : WEntry) :
    ∀ (ss : List (List Char)) (i : Nat) (db : Db), executeStatements o e i ss db =
      if ∀ j < ss.length, o.executes (i + j) = true then
        some { db with executed := db.executed ++ ss.map (e, ·) }
      else none
  | [], i, db => by simp [executeStatements]
  | s :: ss, i, db => by
    rw [executeStatements, executeStatements_eq o e ss]
    have hshift : (∀ j < (s :: ss).length, o.executes (i + j) = true) ↔
        o.executes i = true ∧ ∀ j < ss.length, o.executes (i + 1 + j) = true := by
      rw [List.length_cons, Nat.forall_lt_succ_left]
      simp only [Nat.add_zero, Nat.add_assoc, Nat.add_comm 1]
    by_cases hs : o.executes i = true
    · simp only [hs, if_true, hshift, true_and, List.append_assoc, List.map_cons,
        List.singleton_append]
    · rw [if_neg hs, if_neg fun h => hs (hshift.mp h).1]

/-- **What the loop body does.** A pending migration whose outcome is a success is committed as a
whole, with its record, unless its version is in the table already. -/
theorem applyOne_eq (cv : Int) (outcome : WEntry → Outcome) (db : Db) (e : WEntry) :
    applyOne cv outcome db e =
      if cv < e.version ∧ (outcome e).Succeeds e ∧ e.version ∉ db.recorded then
        { recorded := db.recorded ++ [e.version]
          executed := db.executed ++ (statements ((outcome e).read e)).map (e, ·) }
      else db := by
  unfold applyOne
  by_cases hcv : e.version ≤ cv
  · rw [if_pos hcv, if_neg fun h => absurd h.1 (by omega)]
  · rw [if_neg hcv]
    simp only [executeStatements_eq, Nat.zero_add, recordVersion, Outcome.Succeeds,
      show cv < e.version by omega, true_and]
    by_cases hex : ∀ j < (statements ((outcome e).read e)).length, (outcome e).executes j = true
    · by_cases hrec : (outcome e).records = true ∧ e.version ∉ db.recorded
      · by_cases hc : (outcome e).commits = true
        · rw [if_pos hex, if_pos ⟨⟨hex, hrec.1, hc⟩, hrec.2⟩]
          simp [hrec, hc]
        · rw [if_pos hex, if_neg fun h => hc h.1.2.2]
          simp [hrec, hc]
      · rw [if_pos hex, if_neg fun h => hrec ⟨h.1.2.1, h.2⟩]
        simp [hrec]
    · rw [if_neg hex, if_neg fun h => hex h.1.1]
      rfl

/-- The migration would be recorded if its version were not in the table. -/
def Passes (cv : Int) (outcome : WEntry → Outcome) (e : WEntry) : Prop :=
  cv < e.version ∧ (outcome e).Succeeds e

instance (cv : Int) (outcome : WEntry → Outcome) (e : WEntry) : Decidable (Passes cv outcome e) :=
  inferInstanceAs (Decidable (_ ∧ _))

/-- The migration whose statements are committed for a version: the first in the loop's order. -/
def firstOf (cv : Int) (outcome : WEntry → Outcome) (order : List WEntry) (v : Int) :
    Option WEntry :=
  order.find? fun g => decide (Passes cv outcome g ∧ g.version = v)

theorem mem_recorded_foldl (cv : Int) (outcome : WEntry → Outcome) (v : Int) :
    ∀ (order : List WEntry) (db : Db),
      v ∈ (order.foldl (applyOne cv outcome) db).recorded ↔
        v ∈ db.recorded ∨ ∃ g ∈ order, Passes cv outcome g ∧ g.version = v
  | [], db => by simp
  | g :: order, db => by
    rw [List.foldl_cons, mem_recorded_foldl cv outcome v order, applyOne_eq,
      List.exists_mem_cons_iff]
    split
    · rename_i h
      simp only [List.mem_append, List.mem_singleton, or_assoc, Passes, h.1, h.2.1, true_and,
        eq_comm (a := v)]
    · rename_i h
      constructor
      · rintro (hv | hv)
        · exact .inl hv
        · exact .inr (.inr hv)
      · rintro (hv | ⟨hg, rfl⟩ | hv)
        · exact .inl hv
        · by_contra hno
          exact h ⟨hg.1, hg.2, fun hmem => hno (.inl hmem)⟩
        · exact .inr hv

theorem of_append (db : Db) (r : List Int) (e f : WEntry) (ss : List (List Char)) :
    ({ recorded := r, executed := db.executed ++ ss.map (e, ·) } : Db).of f =
      db.of f ++ if e = f then ss else [] := by
  simp only [Db.of, List.filterMap_append, List.filterMap_map]
  by_cases hef : e = f
  · subst hef
    simp
  · simp [hef]

theorem of_foldl (cv : Int) (outcome : WEntry → Outcome) (f : WEntry) :
    ∀ (order : List WEntry) (db : Db), (order.foldl (applyOne cv outcome) db).of f =
      db.of f ++ if f.version ∉ db.recorded ∧ firstOf cv outcome order f.version = some f then
        statements ((outcome f).read f) else []
  | [], db => by simp [firstOf]
  | g :: order, db => by
    rw [List.foldl_cons, of_foldl cv outcome f order, applyOne_eq]
    -- only the first of a version can be committed
    by_cases hpass : Passes cv outcome g ∧ g.version = f.version
    · have hfirst : firstOf cv outcome (g :: order) f.version = some g := by
        simp [firstOf, hpass]
      obtain ⟨⟨hcv, hsucc⟩, hv⟩ := hpass
      by_cases hrec : g.version ∈ db.recorded
      · rw [if_neg fun h => h.2.2 hrec]
        simp [← hv, hrec]
      · rw [if_pos ⟨hcv, hsucc, hrec⟩, of_append, hfirst]
        have hrec' : f.version ∉ db.recorded := hv ▸ hrec
        by_cases hgf : g = f
        · subst hgf
          simp [hrec]
        · simp [hgf, hrec', hv]
    · have hfirst : firstOf cv outcome (g :: order) f.version =
          firstOf cv outcome order f.version := by
        simp only [firstOf, List.find?_cons, hpass, decide_false]
      rw [hfirst]
      split
      · rename_i h
        have hv : g.version ≠ f.version := fun hv => hpass ⟨⟨h.1, h.2.1⟩, hv⟩
        have hgf : g ≠ f := fun hgf => hv (congrArg WEntry.version hgf)
        simp [of_append, hgf, hv.symm]
      · rfl

/-! ## The recorded versions -/

theorem le_currentVersion {db : Db} {v : Int} (h : v ∈ db.recorded) : v ≤ currentVersion db := by
  have hfold : ∀ (l : List Int) (a : Int), a ≤ l.foldl max a ∧ ∀ x ∈ l, x ≤ l.foldl max a := by
    intro l
    induction l with
    | nil => simp
    | cons y l ih =>
      intro a
      obtain ⟨hmax, hmem⟩ := ih (max a y)
      rw [List.foldl_cons, List.forall_mem_cons]
      exact ⟨(le_max_left _ _).trans hmax, (le_max_right _ _).trans hmax, hmem⟩
  exact (hfold db.recorded (-1)).2 v h

theorem currentVersion_mem {db : Db} (h : 0 ≤ currentVersion db) :
    currentVersion db ∈ db.recorded := by
  have hfold : ∀ (l : List Int) (a : Int), l.foldl max a = a ∨ l.foldl max a ∈ l := by
    intro l
    induction l with
    | nil => simp
    | cons y l ih =>
      intro a
      rw [List.foldl_cons, List.mem_cons]
      rcases ih (max a y) with hmax | hmem
      · rcases max_choice a y with ha | hy
        · exact .inl (hmax.trans ha)
        · exact .inr (.inl (hmax.trans hy))
      · exact .inr (.inr hmem)
  rcases hfold db.recorded (-1) with hnone | hmem
  · rw [currentVersion, hnone] at h
    omega
  · exact hmem

theorem stoll_nonneg {digits : List Char} {v : Int} (h : stoll digits = some v) : 0 ≤ v := by
  simp only [stoll] at h
  split at h
  · rw [← Option.some.inj h]
    omega
  · cases h

theorem scanDirectory_nonneg : ∀ (dir : List DirEntry) {found : List WEntry},
    scanDirectory dir = some found → ∀ e ∈ found, 0 ≤ e.version
  | [], found, h, e, he => by
    cases h
    cases he
  | x :: dir, found, h, e, he => by
    rw [scanDirectory] at h
    split at h
    · obtain ⟨v, hv, h⟩ := Option.bind_eq_some_iff.mp h
      obtain ⟨rest, hrest, h⟩ := Option.bind_eq_some_iff.mp h
      cases h
      rcases List.mem_cons.mp he with rfl | he
      · exact stoll_nonneg hv
      · exact scanDirectory_nonneg dir hrest e he
    · exact scanDirectory_nonneg dir h e he

theorem findMigrations_nonneg : ∀ (dirs : List (Option (List DirEntry))) {found : List WEntry},
    findMigrations dirs = some found → ∀ e ∈ found, 0 ≤ e.version
  | [], found, h, e, he => by
    cases h
    cases he
  | none :: dirs, found, h, e, he => findMigrations_nonneg dirs h e he
  | some dir :: dirs, found, h, e, he => by
    rw [findMigrations] at h
    obtain ⟨scanned, hscan, h⟩ := Option.bind_eq_some_iff.mp h
    split at h
    · exact findMigrations_nonneg dirs h e he
    · cases h
      exact scanDirectory_nonneg dir hscan e he

/-- A version is read from digits. -/
theorem version_nonneg {e : WEntry} (h : e ∈ migrations dirs) : 0 ≤ e.version := by
  unfold migrations at h
  cases hfound : findMigrations dirs with
  | none =>
    rw [hfound] at h
    cases h
  | some found =>
    rw [hfound] at h
    exact findMigrations_nonneg dirs hfound e h

/-! ## Migrations are recorded only when complete -/

variable (dirs) in
/-- Of every migration up to a recorded version all statements were executed and committed. -/
def Complete (db : Db) : Prop :=
  ∀ v ∈ db.recorded, ∀ f ∈ migrations dirs, f.version ≤ v →
    (statements f.file.content).Sublist (db.of f)

/-- Every statement of the file is in what could be read of it. -/
def Outcome.ReadsWhole (o : Outcome) (f : WEntry) : Prop :=
  (statements f.file.content).Sublist (statements (o.read f))

/-- The run does not record past a migration it cannot apply: if a pending migration can be
recorded, then each pending one up to it that is not blank was read whole, can be recorded, and is
the first of its version. -/
def RecordsInOrder (db : Db) (env : RunEnv dirs) : Prop :=
  ∀ g ∈ migrations dirs, Passes (currentVersion db) env.outcome g →
    ∀ f ∈ migrations dirs, currentVersion db < f.version → f.version ≤ g.version →
      statements f.file.content ≠ [] →
        (env.outcome f).ReadsWhole f ∧
          firstOf (currentVersion db) env.outcome env.order f.version = some f

variable (dirs) in
/-- What the runs so far leave: nothing is committed without its record. -/
structure Kept (db : Db) : Prop where
  complete : Complete dirs db
  recorded : ∀ f, db.of f ≠ [] → f.version ∈ db.recorded

theorem apply_of (db : Db) (env : RunEnv dirs) (f : WEntry) :
    (apply db env).of f = db.of f ++ if f.version ∉ db.recorded ∧
      firstOf (currentVersion db) env.outcome env.order f.version = some f then
        statements ((env.outcome f).read f) else [] :=
  of_foldl _ _ f _ db

theorem mem_apply_recorded (db : Db) (env : RunEnv dirs) (v : Int) :
    v ∈ (apply db env).recorded ↔ v ∈ db.recorded ∨
      ∃ g ∈ migrations dirs, Passes (currentVersion db) env.outcome g ∧ g.version = v := by
  rw [apply, mem_recorded_foldl]
  simp only [env.perm.mem_iff]

theorem firstOf_spec {cv : Int} {outcome : WEntry → Outcome} {order : List WEntry} {v : Int}
    {f : WEntry} (h : firstOf cv outcome order v = some f) :
    f ∈ order ∧ Passes cv outcome f ∧ f.version = v := by
  have hprop := List.find?_some h
  exact ⟨List.mem_of_find?_eq_some h, of_decide_eq_true hprop⟩

theorem Kept.apply {db : Db} {env : RunEnv dirs} (h : Kept dirs db)
    (hord : RecordsInOrder db env) : Kept dirs (apply db env) where
  complete := by
    intro v hv f hf hle
    have hgrows : (db.of f).Sublist ((DbMigrations.apply db env).of f) := by
      rw [apply_of]
      exact List.sublist_append_left _ _
    rcases (mem_apply_recorded db env v).mp hv with hold | ⟨g, hg, hpass, rfl⟩
    · exact (h.complete v hold f hf hle).trans hgrows
    · by_cases hpending : currentVersion db < f.version
      · by_cases hblank : statements f.file.content = []
        · rw [hblank]
          exact List.nil_sublist _
        · obtain ⟨hwhole, hfirst⟩ := hord g hg hpass f hf hpending hle hblank
          have hnew : f.version ∉ db.recorded := fun hmem => by
            have := le_currentVersion hmem
            omega
          rw [apply_of, if_pos ⟨hnew, hfirst⟩]
          exact hwhole.trans (List.sublist_append_right _ _)
      · -- it was passed over: the version in the table vouches for it
        have hcv : f.version ≤ currentVersion db := by omega
        have hmem := currentVersion_mem (le_trans (version_nonneg hf) hcv)
        exact (h.complete _ hmem f hf hcv).trans hgrows
  recorded := by
    intro f hne
    rw [mem_apply_recorded]
    rw [apply_of] at hne
    by_cases hold : db.of f = []
    · rw [hold, List.nil_append] at hne
      have hfirst := (ite_ne_right_iff.mp hne).1.2
      obtain ⟨hmem, hpass, -⟩ := firstOf_spec hfirst
      exact .inr ⟨f, env.perm.mem_iff.mp hmem, hpass, rfl⟩
    · exact .inl (h.recorded f hold)

/-- A run that records past a migration breaks the law at once. -/
theorem Kept.recordsInOrder {db : Db} {env : RunEnv dirs} (h : Kept dirs db)
    (hcomplete : Complete dirs (DbMigrations.apply db env)) : RecordsInOrder db env := by
  intro g hg hpass f hf hpending hle hblank
  have hv := (mem_apply_recorded db env g.version).mpr (.inr ⟨g, hg, hpass, rfl⟩)
  have hsub := hcomplete _ hv f hf hle
  have hnew : f.version ∉ db.recorded := fun hmem => by
    have := le_currentVersion hmem
    omega
  have hnone : db.of f = [] := by
    by_contra hne
    exact hnew (h.recorded f hne)
  rw [apply_of, hnone, List.nil_append] at hsub
  split at hsub
  · rename_i hfirst
    exact ⟨hsub, hfirst.2⟩
  · exact absurd (List.sublist_nil.mp hsub) hblank

/-- **Migrations are recorded only when complete**, after any number of runs on an empty database,
exactly when no run records past a migration that it could not apply. -/
theorem recordedComplete_iff (envs : List (RunEnv dirs)) :
    Lib.Always apply (Complete dirs) {} envs ↔ Lib.AllSteps apply RecordsInOrder {} envs := by
  refine Lib.always_iff_allSteps (fun _ h => h.complete) (fun _ _ h => h.apply)
    (fun _ _ h => h.recordsInOrder) envs (I := Kept dirs) ?_
  exact ⟨fun _ hv => absurd hv List.not_mem_nil, fun _ hne => absurd rfl hne⟩

/-- Two migrations in `./migrations`. -/
def twoMigrations : List (Option (List DirEntry)) :=
  [some [{ name := "2_b.sql".toList, isRegularFile := true, content := "B;".toList },
    { name := "1_a.sql".toList, isRegularFile := true, content := "A;".toList }], none]

/-- A run over the two in order. -/
def runOfTwo (outcome : WEntry → Outcome) : RunEnv twoMigrations where
  order := (migrations twoMigrations).reverse
  perm := List.reverse_perm _
  sorted := by decide
  outcome := outcome

/-- The statement of the first migration fails once: it is rolled back, the loop records the second,
and no later run comes back to the first. -/
theorem skipped_after_failure : ¬ Lib.Always apply (Complete twoMigrations) {}
    [runOfTwo fun e => { readable := 2, executes := fun _ => e.version ≠ 1 },
      runOfTwo fun _ => { readable := 2 }] := by
  rintro ⟨-, -, h⟩
  have hsub := h 2 (by decide) ⟨1, ⟨"1_a.sql".toList, true, "A;".toList⟩⟩ (by decide) (by decide)
  exact absurd hsub (by decide)

/-- A migration that does not open is recorded at once. -/
example : (apply {} (runOfTwo fun e => { opens := e.version ≠ 1, readable := 2 })).recorded =
    [1, 2] := by decide

end Waechter.DbMigrations
