import Waechter.Lib.Memo
import Waechter.Util.IndexReuse

/-!
# AS numbers of addresses

`WIP2Asn` (`Daemon/Data/IP2Asn.cpp`) answers from a `WIP2AsnDB`, which `Init` opens and
`UpdateDatabase` replaces, and remembers the answers in `Cache`. The lookup thread (`Lookup`) and
`LookupSync` share the cache. An operation is the turn of the thread for a request, a call, or the
end of the download thread; requests wait until `Init` has started the thread.

What `gzopen`, `gzread`, `fopen` and `fwrite` do during an extraction is its `Extraction`. The file
`ip2asn_db.tsv.gz`, which nothing else reads, is left out.

* `Sound.lookups_iff`: when an answer is that of the present database.
* `follows_iff`: all answers are, and the two lookups agree, exactly when no address is looked up
  again that the present database answers differently from the one that was asked first.
* `stale_answer`: the cache outlives the database.
-/

namespace Waechter

open Lib

/-! ## The daemon's state -/

/-- One turn of the loop of `ExtractDatabase`: what `gzread` gave and how much of it `fwrite`
took. -/
structure GzRead where
  data : List Char
  taken : Nat

/-- The bytes the loop writes; it breaks after a short write. -/
def writeReads : List GzRead → List Char
  | [] => []
  | r :: reads =>
    if r.taken < r.data.length then r.data.take r.taken else r.data ++ writeReads reads

/-- What `ExtractDatabase` meets. `bytesRead` is what the last `gzread` returned: 0 at the end of
the archive, and less after an error. -/
structure Extraction where
  inputOpens : Bool := true
  outputOpens : Bool := true
  reads : List GzRead := []
  bytesRead : Int := 0
  size_lt : (writeReads reads).length < 2 ^ 63

/-- `WIP2Asn::ExtractDatabase`: the TSV file it leaves when it returns true. An error of the last
`gzread` is only logged. -/
def Extraction.extractDatabase (x : Extraction) : Option IP2AsnDB.TsvFile :=
  if x.inputOpens = false then none
  else if x.outputOpens = false then none
  else some { content := writeReads x.reads, size_lt := x.size_lt }

/-- A database as lookups see it: its mapped index and the TSV file. -/
structure AsnSource where
  view : Option IP2AsnDB.IndexView
  tsv : Option IP2AsnDB.TsvFile

/-- The answer of a database, with the address and the country in small letters. -/
def AsnSource.answer (source : AsnSource) (ip : IPAddress) : Option IP2AsnDB.LookupResult :=
  (IP2AsnDB.lookup source.view source.tsv ip).map fun result =>
    { result with address := ip, country := result.country.map Char.toLower }

/-- `WIP2Asn`. Of the `Database` we keep its mapped index, which is none when its `Init` failed. -/
structure IP2Asn where
  disk : IP2AsnDB.Disk := {}
  database : Option (Option IP2AsnDB.IndexView) := none
  cache : Memo IPAddress (Option IP2AsnDB.LookupResult) AsnSource := {}
  bUpdateInProgress : Bool := false

namespace IP2Asn

variable (pton : InetPton) (sorts : IP2AsnDB.Sorts)

/-- `WIP2Asn::Init`. -/
def init (index : IP2AsnDB.IndexOutcome) (s : IP2Asn) : IP2Asn :=
  match s.disk.tsv with
  | none => { s with database := none }
  | some _ =>
    let opened := IP2AsnDB.init pton sorts index s.disk
    { s with disk := opened.1, database := some opened.2 }

/-- `WIP2Asn::UpdateDatabase`, up to the start of the download thread. -/
def updateDatabase (s : IP2Asn) : IP2Asn :=
  if s.bUpdateInProgress then s
  else { s with disk := { tsv := none, idx := none }, bUpdateInProgress := true }

/-- The download thread, from the extraction on. -/
def finishUpdate (x : Extraction) (index : IP2AsnDB.IndexOutcome) (s : IP2Asn) : IP2Asn :=
  if s.bUpdateInProgress = false then s
  else
    match x.extractDatabase with
    | none => { s with bUpdateInProgress := false }
    | some tsv =>
      { init pton sorts index { s with disk := { s.disk with tsv := some tsv } } with
        bUpdateInProgress := false }

/-- The addresses that are not looked up. -/
def isSpecial (ip : IPAddress) : Bool := ip.isZero || ip.isLocalhost || ip.isLANAddress

/-- The cache, and behind it the database. -/
def lookupCached (s : IP2Asn) (view : Option IP2AsnDB.IndexView) (ip : IPAddress) :
    IP2Asn × Option IP2AsnDB.LookupResult :=
  let found := s.cache.get AsnSource.answer { view, tsv := s.disk.tsv } ip
  ({ s with cache := found.1 }, found.2)

/-- `WIP2Asn::LookupAddress`. -/
def lookupAddress (s : IP2Asn) (ip : IPAddress) : IP2Asn × Option IP2AsnDB.LookupResult :=
  match s.database with
  | none => (s, none)
  | some view =>
    if s.bUpdateInProgress then (s, none)
    else if isSpecial ip then (s, none)
    else lookupCached s view ip

/-- The turn of `WIP2Asn::LookupThreadFunc` for a request of `WIP2Asn::Lookup`. -/
def lookupThread (s : IP2Asn) (ip : IPAddress) : IP2Asn × Option IP2AsnDB.LookupResult :=
  if ip.isZero then (s, none)
  else
    match s.cache.entries.lookup ip with
    | some result => (s, result)
    | none => lookupAddress s ip

/-- `WIP2Asn::LookupSync`. -/
def lookupSync (s : IP2Asn) (ip : IPAddress) : IP2Asn × Option IP2AsnDB.LookupResult :=
  if isSpecial ip then (s, none)
  else
    match s.database with
    | none => (s, none)
    | some view => if s.bUpdateInProgress then (s, none) else lookupCached s view ip

inductive Op where
  | init (index : IP2AsnDB.IndexOutcome)
  | updateDatabase
  | finishUpdate (x : Extraction) (index : IP2AsnDB.IndexOutcome)
  | lookup (ip : IPAddress)
  | lookupSync (ip : IPAddress)

def step (s : IP2Asn) : Op → IP2Asn
  | .init index => init pton sorts index s
  | .updateDatabase => updateDatabase s
  | .finishUpdate x index => finishUpdate pton sorts x index s
  | .lookup ip => (lookupThread s ip).1
  | .lookupSync ip => (lookupSync s ip).1

/-! ## Answers -/

/-- The answer of the present database. -/
def answer (s : IP2Asn) (ip : IPAddress) : Option IP2AsnDB.LookupResult :=
  if isSpecial ip then none
  else s.database.bind fun view => AsnSource.answer { view, tsv := s.disk.tsv } ip

/-- Outside an update both lookups give the answer of the present database. -/
def FollowsDatabase (s : IP2Asn) : Op → Prop
  | .lookup ip | .lookupSync ip => s.bUpdateInProgress = false →
      (lookupThread s ip).2 = s.answer ip ∧ (lookupSync s ip).2 = s.answer ip
  | _ => True

instance (s : IP2Asn) : (op : Op) → Decidable (FollowsDatabase s op)
  | .lookup _ => inferInstanceAs (Decidable (_ → _ ∧ _))
  | .lookupSync _ => inferInstanceAs (Decidable (_ → _ ∧ _))
  | .init _ => inferInstanceAs (Decidable True)
  | .updateDatabase => inferInstanceAs (Decidable True)
  | .finishUpdate _ _ => inferInstanceAs (Decidable True)

/-- An address that is looked up again outside an update has the same answer in the present database
as in the one that was asked first. -/
def SameAnswer (s : IP2Asn) : Op → Prop
  | .lookup ip | .lookupSync ip => s.bUpdateInProgress = false → isSpecial ip = false →
      ∀ first ∈ s.cache.filledFrom.lookup ip, first.answer ip = s.answer ip
  | _ => True

/-- Every entry of the cache is the answer of the database that was asked for it, and special
addresses have none. -/
structure Sound (s : IP2Asn) : Prop where
  filled : s.cache.Filled AsnSource.answer
  special : ∀ ip, isSpecial ip = true → s.cache.entries.lookup ip = none

theorem isZero_of_not_special {ip : IPAddress} (h : isSpecial ip = false) : ip.isZero = false := by
  unfold isSpecial at h
  rw [Bool.or_eq_false_iff, Bool.or_eq_false_iff] at h
  exact h.1.1

/-- What is not remembered is answered by the present database. -/
theorem lookups_uncached {s : IP2Asn} (hidle : s.bUpdateInProgress = false) {ip : IPAddress}
    (hcache : s.cache.entries.lookup ip = none) :
    (lookupThread s ip).2 = s.answer ip ∧ (lookupSync s ip).2 = s.answer ip := by
  have hget (view : Option IP2AsnDB.IndexView) :
      (lookupCached s view ip).2 = AsnSource.answer { view, tsv := s.disk.tsv } ip := by
    unfold lookupCached Memo.get
    rw [hcache]
  unfold lookupThread lookupAddress lookupSync answer
  rw [hcache]
  cases hip : isSpecial ip with
  | true => cases s.database <;> simp [hidle]
  | false =>
    rw [if_neg (by rw [isZero_of_not_special hip]; exact Bool.false_ne_true)]
    cases s.database with
    | none => exact ⟨rfl, rfl⟩
    | some view =>
      simp only [hidle, Bool.false_eq_true, if_false]
      exact ⟨hget view, hget view⟩

/-- What is remembered is answered from the cache, by `LookupSync` only when there is a database. -/
theorem lookups_cached {s : IP2Asn} (hidle : s.bUpdateInProgress = false) {ip : IPAddress}
    (hip : isSpecial ip = false) {result : Option IP2AsnDB.LookupResult}
    (hcache : s.cache.entries.lookup ip = some result) :
    (lookupThread s ip).2 = result ∧ (lookupSync s ip).2 = s.database.bind fun _ => result := by
  have hget (view : Option IP2AsnDB.IndexView) : (lookupCached s view ip).2 = result := by
    unfold lookupCached Memo.get
    rw [hcache]
  unfold lookupThread lookupSync
  rw [if_neg (by rw [isZero_of_not_special hip]; exact Bool.false_ne_true), hcache, hip]
  refine ⟨rfl, ?_⟩
  cases s.database with
  | none => rfl
  | some view =>
    simp only [hidle, Bool.false_eq_true, if_false]
    exact hget view

/-- **When the answers are those of the present database.** -/
theorem Sound.lookups_iff {s : IP2Asn} (h : s.Sound) (hidle : s.bUpdateInProgress = false)
    (ip : IPAddress) :
    ((lookupThread s ip).2 = s.answer ip ∧ (lookupSync s ip).2 = s.answer ip) ↔
      (isSpecial ip = false →
        ∀ first ∈ s.cache.filledFrom.lookup ip, first.answer ip = s.answer ip) := by
  cases hip : isSpecial ip with
  | true => exact iff_of_true (lookups_uncached hidle (h.special ip hip)) fun hno => nomatch hno
  | false =>
    have hfilled := h.filled ip
    cases hfirst : s.cache.filledFrom.lookup ip with
    | none =>
      rw [hfirst] at hfilled
      exact iff_of_true (lookups_uncached hidle hfilled) fun _ _ hmem => nomatch hmem
    | some first =>
      rw [hfirst] at hfilled
      obtain ⟨hthread, hsync⟩ := lookups_cached hidle hip hfilled
      rw [hthread, hsync]
      constructor
      · rintro ⟨heq, -⟩ _ _ hmem
        exact Option.some.inj hmem ▸ heq
      · intro heq
        have hfirst := heq rfl first rfl
        refine ⟨hfirst, ?_⟩
        unfold answer at hfirst ⊢
        rw [hip] at hfirst ⊢
        cases hdatabase : s.database with
        | none => rfl
        | some view =>
          rw [hdatabase] at hfirst
          exact hfirst

theorem Sound.lookupCached {s : IP2Asn} (h : s.Sound) {view : Option IP2AsnDB.IndexView}
    {ip : IPAddress} (hip : isSpecial ip = false) : Sound (IP2Asn.lookupCached s view ip).1 := by
  refine ⟨h.filled.get { view, tsv := s.disk.tsv } ip, fun q hq => ?_⟩
  have hne : q ≠ ip := by
    rintro rfl
    exact Bool.false_ne_true (hip.symm.trans hq)
  unfold IP2Asn.lookupCached Memo.get Memo.fill
  split
  · exact h.special q hq
  · dsimp only
    rw [UMap.lookup_insert_ite, if_neg hne]
    exact h.special q hq

theorem Sound.lookupSync {s : IP2Asn} (h : s.Sound) (ip : IPAddress) :
    Sound (IP2Asn.lookupSync s ip).1 := by
  unfold IP2Asn.lookupSync
  split
  · exact h
  · rename_i hip
    split
    · exact h
    · split
      · exact h
      · exact h.lookupCached (Bool.eq_false_iff.mpr hip)

theorem Sound.lookupThread {s : IP2Asn} (h : s.Sound) (ip : IPAddress) :
    Sound (IP2Asn.lookupThread s ip).1 := by
  unfold IP2Asn.lookupThread IP2Asn.lookupAddress
  split
  · exact h
  · split
    · exact h
    · split
      · exact h
      · split
        · exact h
        · split
          · exact h
          · rename_i hip
            exact h.lookupCached (Bool.eq_false_iff.mpr hip)

/-- The cache stays as it is when the database is replaced. -/
theorem cache_init (index : IP2AsnDB.IndexOutcome) (s : IP2Asn) :
    (init pton sorts index s).cache = s.cache := by
  unfold init
  split <;> rfl

theorem Sound.of_cache_eq {s s' : IP2Asn} (h : s.Sound) (hcache : s'.cache = s.cache) :
    s'.Sound where
  filled := hcache ▸ h.filled
  special := hcache ▸ h.special

theorem Sound.step {s : IP2Asn} (h : s.Sound) (op : Op) : Sound (IP2Asn.step pton sorts s op) := by
  cases op with
  | init index => exact h.of_cache_eq (cache_init pton sorts index s)
  | updateDatabase =>
    refine h.of_cache_eq ?_
    change (updateDatabase s).cache = s.cache
    unfold updateDatabase
    split <;> rfl
  | finishUpdate x index =>
    refine h.of_cache_eq ?_
    change (finishUpdate pton sorts x index s).cache = s.cache
    unfold finishUpdate
    split
    · rfl
    · split
      · rfl
      · exact cache_init pton sorts index _
  | lookup ip => exact h.lookupThread ip
  | lookupSync ip => exact h.lookupSync ip

theorem sound_start (disk : IP2AsnDB.Disk) : Sound { disk } where
  filled := Memo.filled_empty
  special _ _ := rfl

theorem Sound.followsDatabase_iff {s : IP2Asn} (h : s.Sound) (op : Op) :
    FollowsDatabase s op ↔ SameAnswer s op := by
  cases op with
  | init | updateDatabase | finishUpdate => exact Iff.rfl
  | lookup ip | lookupSync ip => exact forall_congr' fun hidle => h.lookups_iff hidle ip

/-! ## Runs -/

/-- **When every answer is that of the present database.** -/
theorem follows_iff (disk : IP2AsnDB.Disk) (ops : List Op) :
    AllSteps (step pton sorts) FollowsDatabase { disk } ops ↔
      AllSteps (step pton sorts) SameAnswer { disk } ops :=
  ⟨AllSteps.imp (fun _ op h _ => h.step pton sorts op) (fun _ op h => (h.followsDatabase_iff op).mp)
      (sound_start disk),
    AllSteps.imp (fun _ op h _ => h.step pton sorts op)
      (fun _ op h => (h.followsDatabase_iff op).mpr) (sound_start disk)⟩

/-- An archive that is extracted whole. -/
def extracted (tsv : IP2AsnDB.TsvFile) : Extraction where
  reads := [⟨tsv.content, tsv.content.length⟩]
  size_lt := by
    unfold writeReads
    rw [if_neg (Nat.lt_irrefl _), writeReads, List.append_nil]
    exact tsv.size_lt

/-- After an update from `tsvA` to `tsvB`, in which 5.0.0.255 has no row any more, the address still
has the answer of `tsvA`. -/
theorem stale_answer :
    ¬ AllSteps (step IP2AsnDB.ptonAB ⟨.stable _, .stable _⟩) FollowsDatabase
      { disk := { tsv := some IP2AsnDB.tsvA } }
      [.init .written, .lookupSync (.ipv4 #v[5, 0, 0, 255]), .updateDatabase,
        .finishUpdate (extracted IP2AsnDB.tsvB) .written,
        .lookupSync (.ipv4 #v[5, 0, 0, 255])] := by
  decide

end IP2Asn

end Waechter
