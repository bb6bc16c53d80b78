import Mathlib.Algebra.Group.Nat.Defs
import Waechter.Lib.Records

/-!
# The index file of the ASN database

What `WIP2AsnDB::BuildIndex` writes behind its sorting and `WIP2AsnDB::MapIndex` maps
(`Util/IP2Asn/IP2AsnDB.cpp`): a header and two tables of packed structures, on a little-endian host.
The mapping of an empty file fails; behind the end of another one it shows zeros.

* `mapIndex_writeIndex`: what is written is mapped.
* `mapIndex_take`: of a file that is cut off nothing is mapped.
-/

namespace Waechter.IP2AsnDB

open Lib

/-- `WIP2AsnIndexEntryV4` and `WIP2AsnIndexEntryV6`, by the type of their addresses; `stop` is their
`End`. -/
structure IndexEntry (κ : Type) where
  start : κ
  stop : κ
  offset : UInt64
  deriving DecidableEq

abbrev IndexEntryV4 := IndexEntry UInt32

abbrev IndexEntryV6 := IndexEntry (Vector UInt8 16)

/-- `WIP2AsnIndexHeader`. -/
structure IndexHeader where
  magic : UInt32
  version : UInt16
  entrySizeV4 : UInt16
  entrySizeV6 : UInt16
  reserved : UInt16 := 0
  countV4 : UInt64
  countV6 : UInt64
  tsvSize : UInt64
  deriving DecidableEq

/-- `WIP2AsnIndexView`. -/
structure IndexView where
  header : IndexHeader
  v4Entries : List IndexEntryV4
  v6Entries : List IndexEntryV6
  deriving DecidableEq

/-- `kIndexMagic`. -/
def kIndexMagic : UInt32 := 0x41503249

/-- `kIndexVersion`. -/
def kIndexVersion : UInt16 := 1

def IndexEntry.format {κ : Type} (f : Format κ) : Format (IndexEntry κ) :=
  (f.prod (f.prod .uint64)).ofFields (fun e => (e.start, e.stop, e.offset))
    (fun x => ⟨x.1, x.2.1, x.2.2⟩) fun _ => rfl

def v4Format : Format IndexEntryV4 := IndexEntry.format .uint32

def v6Format : Format IndexEntryV6 := IndexEntry.format (.array 16)

def headerFormat : Format IndexHeader :=
  (Format.uint32.prod (Format.uint16.prod (Format.uint16.prod (Format.uint16.prod
    (Format.uint16.prod (Format.uint64.prod (Format.uint64.prod .uint64))))))).ofFields
    (fun h => (h.magic, h.version, h.entrySizeV4, h.entrySizeV6, h.reserved, h.countV4, h.countV6,
      h.tsvSize))
    (fun (m, v, e4, e6, r, c4, c6, t) => ⟨m, v, e4, e6, r, c4, c6, t⟩) fun _ => rfl

/-- The header `BuildIndex` writes. -/
def newHeader (tsvSize : UInt64) (v4Entries : List IndexEntryV4) (v6Entries : List IndexEntryV6) :
    IndexHeader where
  magic := kIndexMagic
  version := kIndexVersion
  entrySizeV4 := UInt16.ofNat v4Format.size
  entrySizeV6 := UInt16.ofNat v6Format.size
  countV4 := UInt64.ofNat v4Entries.length
  countV6 := UInt64.ofNat v6Entries.length
  tsvSize := tsvSize

/-- The file `BuildIndex` writes. -/
def writeIndex (tsvSize : UInt64) (v4Entries : List IndexEntryV4) (v6Entries : List IndexEntryV6) :
    List UInt8 :=
  headerFormat.write (newHeader tsvSize v4Entries v6Entries) ++
    (v4Format.writeTable v4Entries ++ v6Format.writeTable v6Entries)

/-- `ExpectedSize` in `MapIndex`. -/
def IndexHeader.expectedSize (h : IndexHeader) : UInt64 :=
  UInt64.ofNat headerFormat.size + h.countV4 * h.entrySizeV4.toUInt64 +
    h.countV6 * h.entrySizeV6.toUInt64

/-- `WIP2AsnDB::MapIndex`, for a file that opens. -/
def mapIndex (file : List UInt8) : Option IndexView :=
  let header := headerFormat.readAt file 0
  if file = [] then none
  else if header.magic ≠ kIndexMagic ∨ header.version ≠ kIndexVersion then none
  else if header.expectedSize ≠ UInt64.ofNat file.length then none
  else
    some
      { header
        v4Entries := v4Format.table file headerFormat.size header.countV4.toNat
        v6Entries := v6Format.table file
          (headerFormat.size + (header.countV4 * header.entrySizeV4.toUInt64).toNat)
          header.countV6.toNat }

/-- The bytes of the index of that many entries. -/
def indexSize (countV4 countV6 : Nat) : Nat :=
  headerFormat.size + countV4 * v4Format.size + countV6 * v6Format.size

theorem indexSize_eq (countV4 countV6 : Nat) :
    indexSize countV4 countV6 = 36 + countV4 * 16 + countV6 * 40 := rfl

theorem length_writeIndex (tsvSize : UInt64) (v4Entries : List IndexEntryV4)
    (v6Entries : List IndexEntryV6) : (writeIndex tsvSize v4Entries v6Entries).length =
      indexSize v4Entries.length v6Entries.length := by
  rw [writeIndex, List.length_append, List.length_append, headerFormat.length_write,
    Format.length_writeTable, Format.length_writeTable, indexSize, Nat.add_assoc]

theorem toNat_expectedSize {h : IndexHeader}
    (hfits : 36 + h.countV4.toNat * h.entrySizeV4.toNat + h.countV6.toNat * h.entrySizeV6.toNat <
      2 ^ 64) :
    h.expectedSize.toNat =
      36 + h.countV4.toNat * h.entrySizeV4.toNat + h.countV6.toNat * h.entrySizeV6.toNat := by
  have h36 : (UInt64.ofNat headerFormat.size).toNat = 36 := rfl
  rw [IndexHeader.expectedSize, UInt64.toNat_add, UInt64.toNat_add, UInt64.toNat_mul,
    UInt64.toNat_mul, UInt16.toNat_toUInt64, UInt16.toNat_toUInt64, h36]
  omega

section

variable {tsvSize : UInt64} {v4Entries : List IndexEntryV4} {v6Entries : List IndexEntryV6}

variable (tsvSize) in
/-- The sizes and counts of a header that is written. -/
theorem newHeader_counts (hfits : indexSize v4Entries.length v6Entries.length < 2 ^ 63) :
    let h := newHeader tsvSize v4Entries v6Entries
    h.countV4.toNat = v4Entries.length ∧ h.countV6.toNat = v6Entries.length ∧
      h.entrySizeV4.toNat = 16 ∧ h.entrySizeV6.toNat = 40 := by
  rw [indexSize_eq] at hfits
  exact ⟨UInt64.toNat_ofNat_of_lt' (by rw [UInt64.size]; omega),
    UInt64.toNat_ofNat_of_lt' (by rw [UInt64.size]; omega), rfl, rfl⟩

variable (tsvSize) in
theorem toNat_expectedSize_newHeader
    (hfits : indexSize v4Entries.length v6Entries.length < 2 ^ 63) :
    (newHeader tsvSize v4Entries v6Entries).expectedSize.toNat =
      indexSize v4Entries.length v6Entries.length := by
  obtain ⟨h4, h6, hs4, hs6⟩ := newHeader_counts tsvSize hfits
  rw [indexSize_eq] at hfits ⊢
  rw [toNat_expectedSize (by rw [h4, h6, hs4, hs6]; omega), h4, h6, hs4, hs6]

theorem readAt_writeIndex : headerFormat.readAt (writeIndex tsvSize v4Entries v6Entries) 0 =
    newHeader tsvSize v4Entries v6Entries :=
  headerFormat.readAt_append [] _ _

/-- **What is written is mapped.** -/
theorem mapIndex_writeIndex (hfits : indexSize v4Entries.length v6Entries.length < 2 ^ 63) :
    mapIndex (writeIndex tsvSize v4Entries v6Entries) =
      some ⟨newHeader tsvSize v4Entries v6Entries, v4Entries, v6Entries⟩ := by
  obtain ⟨h4, h6, hs4, hs6⟩ := newHeader_counts tsvSize hfits
  have hsize := toNat_expectedSize_newHeader tsvSize hfits
  have hlength := length_writeIndex tsvSize v4Entries v6Entries
  rw [indexSize_eq] at hfits hsize hlength
  have hne : writeIndex tsvSize v4Entries v6Entries ≠ [] := by
    rw [← List.length_pos_iff, hlength]
    omega
  have hexpected : (newHeader tsvSize v4Entries v6Entries).expectedSize =
      UInt64.ofNat (writeIndex tsvSize v4Entries v6Entries).length := by
    rw [← UInt64.toNat_inj, hsize, hlength, UInt64.toNat_ofNat_of_lt' (by rw [UInt64.size]; omega)]
  rw [mapIndex, readAt_writeIndex, if_neg hne, if_neg (by simp [newHeader]),
    if_neg (not_not.mpr hexpected), h4, h6]
  have hoffset : headerFormat.size + ((newHeader tsvSize v4Entries v6Entries).countV4 *
      (newHeader tsvSize v4Entries v6Entries).entrySizeV4.toUInt64).toNat =
        (headerFormat.write (newHeader tsvSize v4Entries v6Entries) ++
          v4Format.writeTable v4Entries).length := by
    rw [UInt64.toNat_mul, UInt16.toNat_toUInt64, h4, hs4, List.length_append,
      headerFormat.length_write, Format.length_writeTable,
      show v4Format.size = 16 from rfl, Nat.mod_eq_of_lt (by omega)]
  have htable4 := v4Format.table_append v4Entries
    (headerFormat.write (newHeader tsvSize v4Entries v6Entries)) (v6Format.writeTable v6Entries)
  have htable6 := v6Format.table_append v6Entries
    (headerFormat.write (newHeader tsvSize v4Entries v6Entries) ++ v4Format.writeTable v4Entries) []
  rw [headerFormat.length_write] at htable4
  rw [List.append_nil, List.append_assoc] at htable6
  rw [hoffset]
  simp only [writeIndex, htable4, htable6]

/-- The header of a file that is cut off has no more entries, and no bigger ones. -/
theorem header_below {bs bs' : List UInt8} (h : Format.Below bs bs') :
    (headerFormat.read bs).countV4.toNat ≤ (headerFormat.read bs').countV4.toNat ∧
      (headerFormat.read bs).countV6.toNat ≤ (headerFormat.read bs').countV6.toNat ∧
      (headerFormat.read bs).entrySizeV4.toNat ≤ (headerFormat.read bs').entrySizeV4.toNat ∧
      (headerFormat.read bs).entrySizeV6.toNat ≤ (headerFormat.read bs').entrySizeV6.toNat :=
  ⟨((((((h.drop 4).drop 2).drop 2).drop 2).drop 2).take 8).uint64 (List.length_take_le _ _),
    (((((((h.drop 4).drop 2).drop 2).drop 2).drop 2).drop 8).take 8).uint64
      (List.length_take_le _ _),
    (((h.drop 4).drop 2).take 2).uint16 (List.length_take_le _ _),
    ((((h.drop 4).drop 2).drop 2).take 2).uint16 (List.length_take_le _ _)⟩

/-- **Of a file that is cut off nothing is mapped**: its size is not the one its header says. -/
theorem mapIndex_take (hfits : indexSize v4Entries.length v6Entries.length < 2 ^ 63) {k : Nat}
    (hk : k < (writeIndex tsvSize v4Entries v6Entries).length) :
    mapIndex ((writeIndex tsvSize v4Entries v6Entries).take k) = none := by
  obtain ⟨h4, h6, hs4, hs6⟩ := newHeader_counts tsvSize hfits
  have hsize := toNat_expectedSize_newHeader tsvSize hfits
  have hlength := length_writeIndex tsvSize v4Entries v6Entries
  have hheader : headerFormat.readAt (writeIndex tsvSize v4Entries v6Entries) 0 = _ :=
    readAt_writeIndex
  set file := writeIndex tsvSize v4Entries v6Entries with hfile
  have hbelow := header_below (Format.below_bytesAt_take file k 0 headerFormat.size)
  change headerFormat.read (Format.bytesAt file 0 headerFormat.size) = _ at hheader
  rw [hheader, h4, h6, hs4, hs6] at hbelow
  obtain ⟨hb4, hb6, hbs4, hbs6⟩ := hbelow
  have hm4 := Nat.mul_le_mul hb4 hbs4
  have hm6 := Nat.mul_le_mul hb6 hbs6
  rw [indexSize_eq] at hfits hsize hlength
  have hcut : ((headerFormat.readAt (file.take k) 0).expectedSize ≠
      UInt64.ofNat (file.take k).length) := by
    rw [ne_eq, ← UInt64.toNat_inj, toNat_expectedSize (by rw [Format.readAt]; omega),
      List.length_take_of_le (Nat.le_of_lt hk),
      UInt64.toNat_ofNat_of_lt' (by rw [UInt64.size]; omega), Format.readAt]
    by_cases hshort : k < 36
    · omega
    · -- the header is all there, and says how long the file was to be
      have hsame : Format.bytesAt (file.take k) 0 headerFormat.size =
          Format.bytesAt file 0 headerFormat.size :=
        Format.bytesAt_take (Nat.le_of_not_lt hshort)
      rw [hsame, hheader, h4, h6, hs4, hs6]
      omega
  unfold mapIndex
  dsimp only
  rw [if_pos hcut, ite_self, ite_self]

end

end Waechter.IP2AsnDB
