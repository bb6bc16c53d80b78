import Waechter.Daemon.IP2Asn

/-!
# Updates of the ASN database

`WIP2Asn::UpdateDatabase` removes the TSV file, the archive and the index, and then starts the
download; `ExtractDatabase` returns true when both files open, whatever the reads and writes did,
and `Init` loads what is there. Lookups go on in between.

* `updated_eq`: the state an update leaves.
* `newOrOld_iff`: an update leaves the complete new database or the state before it exactly when the
  extraction wrote the complete new database, or just what was there before.
* `database_lost`: after a download that leaves no archive the old database is gone.
-/

namespace Waechter

open Lib

/-! ## What an extraction writes -/

/-- Both files open. -/
def Extraction.Opens (x : Extraction) : Prop := x.inputOpens = true ∧ x.outputOpens = true

/-- What the reads gave is written, up to the first write that is short. -/
def Extraction.Writes (x : Extraction) (content : List Char) : Prop :=
  x.Opens ∧ ∃ whole rest, x.reads = whole ++ rest ∧ (∀ r ∈ whole, r.data.length ≤ r.taken) ∧
    match rest with
    | [] => content = whole.flatMap GzRead.data
    | r :: _ => r.taken < r.data.length ∧ content = whole.flatMap GzRead.data ++ r.data.take r.taken

theorem writeReads_whole : ∀ {whole : List GzRead} (rest : List GzRead),
    (∀ r ∈ whole, r.data.length ≤ r.taken) →
      writeReads (whole ++ rest) = whole.flatMap GzRead.data ++ writeReads rest
  | [], _, _ => rfl
  | r :: whole, rest, h => by
    rw [List.forall_mem_cons] at h
    rw [List.cons_append, writeReads, if_neg (Nat.not_lt.mpr h.1), writeReads_whole rest h.2,
      List.flatMap_cons, List.append_assoc]

theorem exists_split_reads : ∀ reads : List GzRead, ∃ whole rest, reads = whole ++ rest ∧
    (∀ r ∈ whole, r.data.length ≤ r.taken) ∧ ∀ r ∈ rest.head?, r.taken < r.data.length
  | [] => ⟨[], [], rfl, fun _ h => (nomatch h), fun _ h => nomatch h⟩
  | r :: reads => by
    by_cases hr : r.taken < r.data.length
    · exact ⟨[], r :: reads, rfl, fun _ h => (nomatch h), fun _ h => Option.some.inj h ▸ hr⟩
    · obtain ⟨whole, rest, rfl, hwhole, hrest⟩ := exists_split_reads reads
      exact ⟨r :: whole, rest, rfl, List.forall_mem_cons.mpr ⟨Nat.not_lt.mp hr, hwhole⟩, hrest⟩

theorem Extraction.extractDatabase_eq_some_iff (x : Extraction) (tsv : IP2AsnDB.TsvFile) :
    x.extractDatabase = some tsv ↔ x.Opens ∧ writeReads x.reads = tsv.content := by
  obtain ⟨content, hsize⟩ := tsv
  unfold extractDatabase Opens
  cases x.inputOpens <;> cases x.outputOpens <;> simp

theorem Extraction.extractDatabase_eq_none_iff (x : Extraction) :
    x.extractDatabase = none ↔ ¬ x.Opens := by
  unfold extractDatabase Opens
  cases x.inputOpens <;> cases x.outputOpens <;> simp

/-- **What `ExtractDatabase` leaves when it returns true.** -/
theorem Extraction.writes_iff (x : Extraction) (tsv : IP2AsnDB.TsvFile) :
    x.extractDatabase = some tsv ↔ x.Writes tsv.content := by
  rw [extractDatabase_eq_some_iff, Writes]
  refine and_congr_right fun _ => ⟨fun hcontent => ?_, ?_⟩
  · obtain ⟨whole, rest, hreads, hwhole, hrest⟩ := exists_split_reads x.reads
    refine ⟨whole, rest, hreads, hwhole, ?_⟩
    rw [hreads, writeReads_whole rest hwhole] at hcontent
    cases rest with
    | nil => rw [← hcontent, writeReads, List.append_nil]
    | cons r rest =>
      have hshort := hrest r rfl
      rw [writeReads, if_pos hshort] at hcontent
      exact ⟨hshort, hcontent.symm⟩
  · rintro ⟨whole, rest, hreads, hwhole, hrest⟩
    rw [hreads, writeReads_whole rest hwhole]
    cases rest with
    | nil => rw [hrest, writeReads, List.append_nil]
    | cons r rest => rw [hrest.2, writeReads, if_pos hrest.1]

namespace IP2Asn

variable (pton : InetPton) (sorts : IP2AsnDB.Sorts)

/-! ## The state an update leaves -/

/-- The index that is mapped after a TSV file was put in place and its index was written. -/
def freshIndex (index : IP2AsnDB.IndexOutcome) (tsv : IP2AsnDB.TsvFile) :
    Option IP2AsnDB.IndexView :=
  (IP2AsnDB.init pton sorts index { tsv := some tsv, idx := none }).2

/-- The operation is a lookup. -/
def Op.IsLookup : Op → Prop
  | .lookup _ | .lookupSync _ => True
  | _ => False

/-- An update: `UpdateDatabase`, the lookups until the download thread is done, and its end. -/
def update (lookups : List Op) (x : Extraction) (index : IP2AsnDB.IndexOutcome) (s : IP2Asn) :
    IP2Asn :=
  run (step pton sorts) s (.updateDatabase :: (lookups ++ [.finishUpdate x index]))

/-- During an update lookups leave the state as it is. -/
theorem step_updating {s : IP2Asn} (h : s.bUpdateInProgress = true) {op : Op} (hop : op.IsLookup) :
    step pton sorts s op = s := by
  have haddress (ip : IPAddress) : (lookupAddress s ip).1 = s := by
    unfold lookupAddress
    split
    · rfl
    · rw [if_pos h]
  cases op with
  | init | updateDatabase | finishUpdate => exact hop.elim
  | lookup ip =>
    change (lookupThread s ip).1 = s
    unfold lookupThread
    split
    · rfl
    · split
      · rfl
      · exact haddress ip
  | lookupSync ip =>
    change (lookupSync s ip).1 = s
    unfold lookupSync
    split
    · rfl
    · split
      · rfl
      · rfl

theorem run_updating {s : IP2Asn} (h : s.bUpdateInProgress = true) : ∀ {lookups : List Op},
    (∀ op ∈ lookups, op.IsLookup) → run (step pton sorts) s lookups = s
  | [], _ => rfl
  | op :: lookups, hlookups => by
    rw [List.forall_mem_cons] at hlookups
    rw [run_cons, step_updating pton sorts h hlookups.1, run_updating h hlookups.2]

/-- A new index leaves the TSV file in place. -/
theorem tsv_init (index : IP2AsnDB.IndexOutcome) (disk : IP2AsnDB.Disk) :
    (IP2AsnDB.init pton sorts index disk).1.tsv = disk.tsv := by
  unfold IP2AsnDB.init
  split
  · rfl
  · split
    · rfl
    · split
      · rfl
      · split <;> rfl

/-- **The state an update leaves**: the files are what the extraction wrote, and when it returned
true the database is the one of that file. -/
theorem updated_eq {s : IP2Asn} (hidle : s.bUpdateInProgress = false) {lookups : List Op}
    (hlookups : ∀ op ∈ lookups, op.IsLookup) (x : Extraction) (index : IP2AsnDB.IndexOutcome) :
    let s' := update pton sorts lookups x index s
    s'.disk.tsv = x.extractDatabase ∧ s'.cache = s.cache ∧ s'.bUpdateInProgress = false ∧
      s'.database = match x.extractDatabase with
        | none => s.database
        | some tsv => some (freshIndex pton sorts index tsv) := by
  have hstart : step pton sorts s .updateDatabase =
      { s with disk := { tsv := none, idx := none }, bUpdateInProgress := true } :=
    if_neg (by rw [hidle]; exact Bool.false_ne_true)
  dsimp only
  rw [update, run_cons, run_append, hstart, run_updating pton sorts rfl hlookups, run_cons, run_nil]
  unfold step finishUpdate
  dsimp only
  rw [if_neg Bool.noConfusion]
  cases x.extractDatabase with
  | none => exact ⟨rfl, rfl, rfl, rfl⟩
  | some tsv =>
    exact ⟨tsv_init pton sorts index _, cache_init pton sorts index _, rfl, rfl⟩

/-! ## The new database or the old one -/

/-- The answer of a complete new database. -/
def newAnswer (new : IP2AsnDB.TsvFile) (ip : IPAddress) : Option IP2AsnDB.LookupResult :=
  if isSpecial ip then none
  else AsnSource.answer { view := freshIndex pton sorts .written new, tsv := some new } ip

/-- After the update the new database is there as a whole, or the files and the database are what
they were before, and every lookup answers from the new one or as before. -/
structure NewOrOld (new : IP2AsnDB.TsvFile) (s s' : IP2Asn) : Prop where
  database : (s'.disk.tsv = some new ∧ ∃ view, freshIndex pton sorts .written new = some view ∧
      s'.database = some (some view)) ∨
    (s'.disk.tsv = s.disk.tsv ∧ s'.database = s.database)
  lookup : ∀ ip, (lookupThread s' ip).2 = newAnswer pton sorts new ip ∨
    (lookupThread s' ip).2 = (lookupThread s ip).2
  lookupSync : ∀ ip, (lookupSync s' ip).2 = newAnswer pton sorts new ip ∨
    (lookupSync s' ip).2 = (lookupSync s ip).2 ∨ (lookupSync s' ip).2 = (lookupThread s ip).2

/-- The extraction wrote the complete new database, and its index was built. -/
def Complete (new : IP2AsnDB.TsvFile) (x : Extraction) (index : IP2AsnDB.IndexOutcome) : Prop :=
  x.Writes new.content ∧ freshIndex pton sorts index new ≠ none

/-- The extraction left what was there before: no file where there was none, or the same file, with
the database it had. -/
def LeavesSame (s : IP2Asn) (x : Extraction) (index : IP2AsnDB.IndexOutcome) : Prop :=
  match s.disk.tsv with
  | none => ¬ x.Opens
  | some old => x.Writes old.content ∧ s.database = some (freshIndex pton sorts index old)

theorem freshIndex_eq (index : IP2AsnDB.IndexOutcome) (tsv : IP2AsnDB.TsvFile) :
    freshIndex pton sorts index tsv = (IP2AsnDB.buildIndex pton sorts tsv).bind fun idx =>
      match index with
      | .written => IP2AsnDB.mapIndex idx
      | _ => none := by
  have hreuse : IP2AsnDB.reuse { tsv := some tsv, idx := none } tsv = none := rfl
  unfold freshIndex IP2AsnDB.init
  dsimp only
  rw [hreuse]
  cases IP2AsnDB.buildIndex pton sorts tsv with
  | none => rfl
  | some idx => cases index <;> rfl

/-- An index that is there is the one that is written whole. -/
theorem freshIndex_eq_some {index : IP2AsnDB.IndexOutcome} {tsv : IP2AsnDB.TsvFile}
    {view : IP2AsnDB.IndexView} (h : freshIndex pton sorts index tsv = some view) :
    freshIndex pton sorts .written tsv = some view := by
  rw [freshIndex_eq, Option.bind_eq_some_iff] at h ⊢
  obtain ⟨idx, hbuild, hmap⟩ := h
  refine ⟨idx, hbuild, ?_⟩
  cases index with
  | written => exact hmap
  | cut k => exact nomatch hmap
  | notOpened => exact nomatch hmap

/-- What is remembered is answered as before, and what is not as the new database says, or as
before. -/
theorem newOrOld_of_database {new : IP2AsnDB.TsvFile} {s s' : IP2Asn}
    (hidle : s.bUpdateInProgress = false) (hidle' : s'.bUpdateInProgress = false)
    (hcache : s'.cache = s.cache)
    (hdatabase : (s'.disk.tsv = some new ∧ ∃ view, freshIndex pton sorts .written new = some view ∧
        s'.database = some (some view)) ∨
      (s'.disk.tsv = s.disk.tsv ∧ s'.database = s.database)) :
    NewOrOld pton sorts new s s' := by
  have hanswer : s'.answer = newAnswer pton sorts new ∧ s'.database ≠ none ∨
      s'.answer = s.answer ∧ s'.database = s.database := by
    rcases hdatabase with ⟨htsv, view, hview, hnew⟩ | ⟨htsv, hold⟩
    · refine .inl ⟨funext fun ip => ?_, by rw [hnew]; exact Option.some_ne_none _⟩
      rw [answer, newAnswer, htsv, hnew, hview]
      rfl
    · refine .inr ⟨funext fun ip => ?_, hold⟩
      rw [answer, answer, htsv, hold]
  have hlookups (ip : IPAddress) :
      ((lookupThread s' ip).2 = newAnswer pton sorts new ip ∨
        (lookupThread s' ip).2 = (lookupThread s ip).2) ∧
      ((lookupSync s' ip).2 = newAnswer pton sorts new ip ∨
        (lookupSync s' ip).2 = (lookupSync s ip).2 ∨
        (lookupSync s' ip).2 = (lookupThread s ip).2) := by
    cases hcached : s.cache.entries.lookup ip with
    | none =>
      obtain ⟨hthread, hsync⟩ := lookups_uncached hidle hcached
      obtain ⟨hthread', hsync'⟩ := lookups_uncached (s := s') hidle' (hcache ▸ hcached)
      rw [hthread, hsync, hthread', hsync']
      rcases hanswer with ⟨hnew, -⟩ | ⟨hold, -⟩
      · rw [hnew]
        exact ⟨.inl rfl, .inl rfl⟩
      · rw [hold]
        exact ⟨.inr rfl, .inr (.inl rfl)⟩
    | some result =>
      have hcached' : s'.cache.entries.lookup ip = some result := hcache ▸ hcached
      refine ⟨.inr ?_, ?_⟩
      · unfold lookupThread
        rw [hcached, hcached']
        split <;> rfl
      · cases hip : isSpecial ip with
        | true =>
          refine .inl ?_
          rw [newAnswer, lookupSync, if_pos hip, if_pos hip]
        | false =>
          obtain ⟨hthread, hsync⟩ := lookups_cached hidle hip hcached
          obtain ⟨-, hsync'⟩ := lookups_cached (s := s') hidle' hip hcached'
          rw [hsync, hsync', hthread]
          rcases hanswer with ⟨-, hsome⟩ | ⟨-, hsame⟩
          · obtain ⟨view, hview⟩ := Option.ne_none_iff_exists'.mp hsome
            rw [hview]
            exact .inr (.inr rfl)
          · rw [hsame]
            exact .inr (.inl rfl)
  exact ⟨hdatabase, fun ip => (hlookups ip).1, fun ip => (hlookups ip).2⟩

/-- **When an update leaves the new database or the old one.** -/
theorem newOrOld_iff (new : IP2AsnDB.TsvFile) {s : IP2Asn} (hidle : s.bUpdateInProgress = false)
    {lookups : List Op} (hlookups : ∀ op ∈ lookups, op.IsLookup) (x : Extraction)
    (index : IP2AsnDB.IndexOutcome) :
    NewOrOld pton sorts new s (update pton sorts lookups x index s) ↔
      Complete pton sorts new x index ∨ LeavesSame pton sorts s x index := by
  obtain ⟨htsv, hcache, hidle', hdatabase⟩ := updated_eq pton sorts hidle hlookups x index
  have hiff : NewOrOld pton sorts new s (update pton sorts lookups x index s) ↔ _ :=
    ⟨NewOrOld.database, newOrOld_of_database pton sorts hidle hidle' hcache⟩
  rw [hiff, htsv, hdatabase]
  refine or_congr ?_ ?_
  · rw [Complete, ← x.writes_iff]
    refine and_congr_right fun hnew => ?_
    rw [hnew]
    constructor
    · rintro ⟨view, -, hview⟩
      rw [Option.some.inj hview]
      exact Option.some_ne_none _
    · intro hne
      obtain ⟨view, hview⟩ := Option.ne_none_iff_exists'.mp hne
      exact ⟨view, freshIndex_eq_some pton sorts hview, congrArg some hview⟩
  · unfold LeavesSame
    cases hold : s.disk.tsv with
    | none =>
      rw [← x.extractDatabase_eq_none_iff]
      refine and_iff_left_of_imp fun hnone => ?_
      rw [hnone]
    | some old =>
      dsimp only
      rw [← x.writes_iff]
      refine and_congr_right fun hsame => ?_
      rw [hsame]
      exact eq_comm

/-- A daemon that has opened `tsvA`. -/
def opened : IP2Asn :=
  init IP2AsnDB.ptonAB ⟨.stable _, .stable _⟩ .written { disk := { tsv := some IP2AsnDB.tsvA } }

/-- A download that leaves no archive. -/
def noArchive : Extraction where
  inputOpens := false
  size_lt := by decide

theorem newOrOld_noArchive :
    NewOrOld IP2AsnDB.ptonAB ⟨.stable _, .stable _⟩ IP2AsnDB.tsvB opened
      (update IP2AsnDB.ptonAB ⟨.stable _, .stable _⟩ [.lookup (.ipv4 #v[5, 0, 0, 1])] noArchive
        .written opened) ↔
      Complete IP2AsnDB.ptonAB ⟨.stable _, .stable _⟩ IP2AsnDB.tsvB noArchive .written ∨
        LeavesSame IP2AsnDB.ptonAB ⟨.stable _, .stable _⟩ opened noArchive .written :=
  newOrOld_iff IP2AsnDB.ptonAB ⟨.stable _, .stable _⟩ IP2AsnDB.tsvB rfl
    (List.forall_mem_singleton.mpr (show Op.IsLookup (.lookup _) from trivial)) noArchive .written

/-- After it the old TSV file is gone. -/
theorem database_lost :
    ¬ NewOrOld IP2AsnDB.ptonAB ⟨.stable _, .stable _⟩ IP2AsnDB.tsvB opened
      (update IP2AsnDB.ptonAB ⟨.stable _, .stable _⟩ [] noArchive .written opened) := by
  intro h
  rcases h.database with ⟨htsv, -⟩ | ⟨htsv, -⟩
  · exact nomatch htsv
  · have hold : opened.disk.tsv = some IP2AsnDB.tsvA := tsv_init _ _ _ _
    exact nomatch htsv.trans hold

end IP2Asn

end Waechter
