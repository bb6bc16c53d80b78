import Waechter.Lib.Run
import Waechter.Util.IP2AsnDB

/-!
# The index of an earlier run

`WIP2AsnDB::Init` maps the index it finds next to the TSV file, when its header is in order and
names the size of the file, and else builds a new one. The file can be replaced between two runs,
and a run can end, or fail, while it writes the index.

A row is here a line with two addresses, whatever else is on it.

* `Known.reuse_eq`: an index is reused when all of it is there and it names the size of the file.
* `belongs_iff`: the index of every successful `Init` belongs to the file exactly when no index was
  built from other rows in a file of the same size.
* `stale_index`: such an index is accepted.
-/

namespace Waechter.IP2AsnDB

open Lib

/-- The TSV file and the index next to it. -/
structure Disk where
  tsv : Option TsvFile := none
  idx : Option (List UInt8) := none

/-- What becomes of an index that is written: all of it, its first bytes, or nothing. -/
inductive IndexOutcome where
  | written
  | cut (k : Nat)
  | notOpened

variable (pton : InetPton) (sorts : Sorts)

/-- The index that `Init` accepts as it is. -/
def reuse (disk : Disk) (tsv : TsvFile) : Option IndexView := do
  let idx ← disk.idx
  let view ← mapIndex idx
  if view.header.tsvSize = UInt64.ofNat tsv.content.length then some view else none

/-- `WIP2AsnDB::Init`: the disk it leaves, and the mapped index when it returns true. -/
def init (outcome : IndexOutcome) (disk : Disk) : Disk × Option IndexView :=
  match disk.tsv with
  | none => (disk, none)
  | some tsv =>
    match reuse disk tsv with
    | some view => (disk, some view)
    | none =>
      match buildIndex pton sorts tsv with
      | none => ({ disk with idx := none }, none)
      | some idx =>
        match outcome with
        | .written => ({ disk with idx := some idx }, mapIndex idx)
        | .cut k => ({ disk with idx := some (idx.take k) }, none)
        | .notOpened => ({ disk with idx := none }, none)

/-! ## Runs -/

/-- The state between two operations. `builtFrom` is the file from which the index on the disk was
built, when all of the index is there; no code reads it. -/
structure State where
  disk : Disk := {}
  view : Option IndexView := none
  builtFrom : Option TsvFile := none

inductive Op where
  | replaceTsv (tsv : Option TsvFile)
  | init (outcome : IndexOutcome)
  | lookup (ip : IPAddress)

/-- The file of the index that `Init` leaves. -/
def newBuiltFrom (outcome : IndexOutcome) (s : State) : Option TsvFile :=
  match s.disk.tsv with
  | none => s.builtFrom
  | some tsv =>
    match reuse s.disk tsv, buildIndex pton sorts tsv, outcome with
    | some _, _, _ => s.builtFrom
    | none, some _, .written => some tsv
    | none, some idx, .cut k => if idx.length ≤ k then some tsv else none
    | none, _, _ => none

/-- `Lookup` only reads. -/
def step (s : State) : Op → State
  | .replaceTsv tsv => { s with disk := { s.disk with tsv } }
  | .init outcome =>
    { disk := (init pton sorts outcome s.disk).1
      view := (init pton sorts outcome s.disk).2
      builtFrom := newBuiltFrom pton sorts outcome s }
  | .lookup _ => s

/-- Every entry of the tables is that of a row of the file, and every row has one. -/
def Belongs (tsv : TsvFile) (v4 : List IndexEntryV4) (v6 : List IndexEntryV6) : Prop :=
  (∀ e ∈ v4, e ∈ v4Entries pton tsv) ∧ (∀ e ∈ v4Entries pton tsv, e ∈ v4) ∧
    (∀ e ∈ v6, e ∈ v6Entries pton tsv) ∧ (∀ e ∈ v6Entries pton tsv, e ∈ v6)

instance (tsv : TsvFile) (v4 : List IndexEntryV4) (v6 : List IndexEntryV6) :
    Decidable (Belongs pton tsv v4 v6) := inferInstanceAs (Decidable (_ ∧ _ ∧ _ ∧ _))

/-- When `Init` returns true its index belongs to the file. -/
def IndexBelongs (s : State) : Op → Prop
  | .init outcome =>
    match (init pton sorts outcome s.disk).2, s.disk.tsv with
    | some view, some tsv => Belongs pton tsv view.v4Entries view.v6Entries
    | _, _ => True
  | _ => True

instance (s : State) : (op : Op) → Decidable (IndexBelongs pton sorts s op)
  | .init outcome => by
    unfold IndexBelongs
    dsimp only
    split <;> infer_instance
  | .replaceTsv _ => inferInstanceAs (Decidable True)
  | .lookup _ => inferInstanceAs (Decidable True)

/-- When `Init` finds an index that was built whole from a file of the size of the present one, the
two have the same rows at the same offsets. -/
def SameSizeSameRows (s : State) : Op → Prop
  | .init _ => ∀ tsv ∈ s.disk.tsv, ∀ built ∈ s.builtFrom,
      built.content.length = tsv.content.length →
        Belongs pton tsv (v4Entries pton built) (v6Entries pton built)
  | _ => True

/-! ## One run of `Init` -/

/-- The index on the disk is whole and of the file `builtFrom`, or it cannot be mapped. -/
def Known (s : State) : Prop :=
  match s.builtFrom with
  | some built => ∃ idx, s.disk.idx = some idx ∧ buildIndex pton sorts built = some idx
  | none => s.disk.idx.bind mapIndex = none

theorem buildIndex_eq_some {tsv : TsvFile} {idx : List UInt8}
    (h : buildIndex pton sorts tsv = some idx) :
    (∃ header, mapIndex idx =
        some ⟨header, sorts.v4.run (v4Entries pton tsv), sorts.v6.run (v6Entries pton tsv)⟩ ∧
      header.tsvSize = UInt64.ofNat tsv.content.length) ∧
      ∀ k < idx.length, mapIndex (idx.take k) = none := by
  unfold buildIndex at h
  dsimp only at h
  split at h
  · rename_i hfits
    cases h
    exact ⟨⟨_, mapIndex_writeIndex hfits, rfl⟩, fun k hk => mapIndex_take hfits hk⟩
  · exact nomatch h

theorem belongs_sorted (tsv built : TsvFile) :
    Belongs pton tsv (sorts.v4.run (v4Entries pton built)) (sorts.v6.run (v6Entries pton built)) ↔
      Belongs pton tsv (v4Entries pton built) (v6Entries pton built) := by
  unfold Belongs
  simp only [(sorts.v4.perm _).mem_iff, (sorts.v6.perm _).mem_iff]

theorem belongs_self (tsv : TsvFile) : Belongs pton tsv (v4Entries pton tsv) (v6Entries pton tsv) :=
  ⟨fun _ => id, fun _ => id, fun _ => id, fun _ => id⟩

theorem ofNat_length_inj (a b : TsvFile) :
    UInt64.ofNat a.content.length = UInt64.ofNat b.content.length ↔
      a.content.length = b.content.length := by
  have ha := a.size_lt
  have hb := b.size_lt
  rw [← UInt64.toNat_inj, UInt64.toNat_ofNat_of_lt' (by rw [UInt64.size]; omega),
    UInt64.toNat_ofNat_of_lt' (by rw [UInt64.size]; omega)]

variable {pton sorts}

/-- An index is reused when it is whole and names the size of the file. -/
theorem Known.reuse_eq {s : State} (h : Known pton sorts s) (tsv : TsvFile) :
    (∃ built ∈ s.builtFrom, built.content.length = tsv.content.length ∧ ∃ header,
      reuse s.disk tsv =
        some ⟨header, sorts.v4.run (v4Entries pton built), sorts.v6.run (v6Entries pton built)⟩) ∨
    ((∀ built ∈ s.builtFrom, built.content.length ≠ tsv.content.length) ∧
      reuse s.disk tsv = none) := by
  unfold Known at h
  unfold reuse
  cases hbuilt : s.builtFrom with
  | none =>
    rw [hbuilt] at h
    refine .inr ⟨fun _ hmem => (nomatch hmem), ?_⟩
    cases hidx : s.disk.idx with
    | none => rfl
    | some idx =>
      rw [hidx] at h
      rw [Option.bind_eq_bind, Option.bind_some, show mapIndex idx = none from h]
      rfl
  | some built =>
    rw [hbuilt] at h
    obtain ⟨idx, hidx, hbuild⟩ := h
    obtain ⟨⟨header, hmap, hsize⟩, -⟩ := buildIndex_eq_some pton sorts hbuild
    simp only [hidx, Option.bind_eq_bind, Option.bind_some, hmap, hsize, ofNat_length_inj]
    by_cases hlength : built.content.length = tsv.content.length
    · exact .inl ⟨built, rfl, hlength, header, if_pos hlength⟩
    · refine .inr ⟨fun b hb => ?_, if_neg hlength⟩
      cases hb
      exact hlength

/-- **What `Init` finds belongs to the file exactly when it was built from the same rows.** -/
theorem Known.indexBelongs_iff {s : State} (h : Known pton sorts s) (op : Op) :
    IndexBelongs pton sorts s op ↔ SameSizeSameRows pton s op := by
  cases op with
  | replaceTsv tsv => exact Iff.rfl
  | lookup ip => exact Iff.rfl
  | init outcome =>
    unfold IndexBelongs SameSizeSameRows init
    dsimp only
    cases htsv : s.disk.tsv with
    | none => exact iff_of_true trivial fun _ hmem => nomatch hmem
    | some tsv =>
      dsimp only
      rcases h.reuse_eq tsv with ⟨built, hbuilt, hlength, header, hreuse⟩ | ⟨hdiffer, hreuse⟩
      · rw [hreuse]
        dsimp only
        rw [belongs_sorted]
        refine ⟨fun hbelongs t ht b hb _ => ?_, fun hsame => hsame tsv rfl built hbuilt hlength⟩
        cases ht
        rw [Option.mem_def] at hbuilt hb
        cases hbuilt.symm.trans hb
        exact hbelongs
      · rw [hreuse]
        dsimp only
        refine iff_of_true ?_ fun t ht b hb hlength => ?_
        · cases hbuild : buildIndex pton sorts tsv with
          | none => trivial
          | some idx =>
            cases outcome with
            | written =>
              obtain ⟨⟨header, hmap, -⟩, -⟩ := buildIndex_eq_some pton sorts hbuild
              dsimp only
              rw [hmap]
              exact (belongs_sorted pton sorts tsv tsv).mpr (belongs_self pton tsv)
            | cut k => trivial
            | notOpened => trivial
        · cases ht
          exact absurd hlength (hdiffer b hb)

/-- **The index on the disk stays known.** -/
theorem Known.step {s : State} (h : Known pton sorts s) (op : Op) :
    Known pton sorts (IP2AsnDB.step pton sorts s op) := by
  cases op with
  | replaceTsv tsv => exact h
  | lookup ip => exact h
  | init outcome =>
    unfold IP2AsnDB.step init newBuiltFrom
    dsimp only
    cases htsv : s.disk.tsv with
    | none => exact h
    | some tsv =>
      dsimp only
      cases hreuse : reuse s.disk tsv with
      | some view => exact h
      | none =>
        dsimp only
        cases hbuild : buildIndex pton sorts tsv with
        | none => rfl
        | some idx =>
          obtain ⟨-, hcut⟩ := buildIndex_eq_some pton sorts hbuild
          cases outcome with
          | written => exact ⟨idx, rfl, hbuild⟩
          | cut k =>
            unfold Known
            dsimp only
            by_cases hk : idx.length ≤ k
            · rw [if_pos hk]
              exact ⟨idx, congrArg some (List.take_of_length_le hk), hbuild⟩
            · rw [if_neg hk]
              exact hcut k (Nat.lt_of_not_le hk)
          | notOpened => rfl

theorem known_start : Known pton sorts {} := rfl

variable (pton sorts)

/-- **When the index of every successful `Init` belongs to the file.** -/
theorem belongs_iff (ops : List Op) :
    AllSteps (step pton sorts) (IndexBelongs pton sorts) {} ops ↔
      AllSteps (step pton sorts) (SameSizeSameRows pton) {} ops :=
  ⟨AllSteps.imp (fun _ op h _ => h.step op) (fun _ op h => (h.indexBelongs_iff op).mp) known_start,
    AllSteps.imp (fun _ op h _ => h.step op) (fun _ op h => (h.indexBelongs_iff op).mpr)
      known_start⟩

/-- Two files of one size with different rows. -/
def tsvA : TsvFile where
  content := "5.0.0.0\t5.0.0.255\t64500\tDE\tExample\n".toList
  size_lt := by decide

def tsvB : TsvFile where
  content := "5.0.0.0\t5.0.0.254\t64500\tDE\tExample\n".toList
  size_lt := by decide

def ptonAB : InetPton := ptonOf [("5.0.0.0", quad 5 0 0 0), ("5.0.0.255", quad 5 0 0 255),
  ("5.0.0.254", quad 5 0 0 254)]

/-- The index of the first file is accepted for the second. -/
theorem stale_index :
    ¬ AllSteps (step ptonAB ⟨.stable _, .stable _⟩) (IndexBelongs ptonAB ⟨.stable _, .stable _⟩) {}
      [.replaceTsv (some tsvA), .init .written, .replaceTsv (some tsvB), .init .written] := by
  decide

end Waechter.IP2AsnDB
