import Mathlib.Data.List.Pairwise
import Waechter.Daemon.AddressForms
import Waechter.Lib.SortedRanges
import Waechter.Util.AddressOrder
import Waechter.Util.AsnIndex

/-!
# The ASN database

`WIP2AsnDB` (`Util/IP2Asn/IP2AsnDB.cpp`) over a TSV file with the rows start, end, AS number,
country and organisation. `BuildIndex` takes every line whose first two fields are addresses,
`Lookup` finds the last entry that starts at or before an address, and `ReadEntryAtOffset` reads
its line again.

A `Char` stands for a byte of the file. `std::sort` is a parameter, as it need not be stable, and
so is `inet_pton`. Assertions are off.

* `lineAt_offset`: at the offset of a line that line is read.
* `lookup_correct_iff`: the lookups answer with the well-formed rows exactly when the other lines
  that are indexed hide none of them and answer nowhere else.
* `lookup_hidden`: a line without an organisation hides the row around it.
-/

namespace Waechter.IP2AsnDB

open Lib

/-! ## Reading a line -/

/-- The TSV file. No file has 2^63 bytes. -/
structure TsvFile where
  content : List Char
  size_lt : content.length < 2 ^ 63

/-- `std::getline`: what is before the delimiter and what is behind it. It fails at the end of the
input. -/
def getline (delim : Char) (input : List Char) : Option (List Char × List Char) :=
  if input = [] then none
  else some (input.takeWhile (· ≠ delim), (input.dropWhile (· ≠ delim)).drop 1)

structure Fields where
  start : List Char
  stop : List Char
  asn : List Char
  country : List Char
  organization : List Char

/-- The calls of `std::getline` in `ReadEntryAtOffset`. The last one fails on an empty rest. -/
def readFields (line : List Char) : Option Fields := do
  let (start, rest) ← getline '\t' line
  let (stop, rest) ← getline '\t' rest
  let (asn, rest) ← getline '\t' rest
  let (country, rest) ← getline '\t' rest
  let (organization, _) ← getline '\n' rest
  return { start, stop, asn, country, organization }

/-- `std::from_chars` for a `uint32_t`: the leading digits, when there are some and they fit. -/
def fromChars (text : List Char) : Option UInt32 :=
  let digits := text.takeWhile Char.isDigit
  let value := digits.foldl (fun n c => 10 * n + (c.toNat - '0'.toNat)) 0
  if digits = [] ∨ 2 ^ 32 ≤ value then none else some (UInt32.ofNat value)

/-- `WIP2AsnLookupResult`. -/
structure LookupResult where
  address : IPAddress := {}
  asn : UInt32
  country : List Char
  organization : List Char
  deriving DecidableEq

def Fields.result (f : Fields) : LookupResult where
  asn := (fromChars f.asn).getD 0
  country := f.country
  organization := f.organization

/-- `WIP2AsnDB::ReadEntryAtOffset`; `none` is a file that does not open. -/
def readEntryAtOffset (tsv : Option TsvFile) (offset : UInt64) : Option LookupResult := do
  let tsv ← tsv
  let (line, _) ← getline '\n' (tsv.content.drop offset.toNat)
  let f ← readFields line
  return f.result

/-! ## The index -/

structure Line where
  offset : Nat
  text : List Char
  deriving DecidableEq

/-- The loop of `BuildIndex`: `tellg` and `getline`. -/
def linesUpTo : Nat → Nat → List Char → List Line
  | 0, _, _ => []
  | fuel + 1, offset, content =>
    match getline '\n' content with
    | none => []
    | some (text, rest) => { offset, text } :: linesUpTo fuel (offset + text.length + 1) rest

/-- The lines of the file. Each takes a character at least. -/
def lines (content : List Char) : List Line := linesUpTo content.length 0 content

/-- What is before the first tab and what is between it and the second one. -/
def startStop (line : List Char) : Option (List Char × List Char) :=
  match line.dropWhile (· ≠ '\t') with
  | [] => none
  | _ :: rest =>
    if '\t' ∈ rest then some (line.takeWhile (· ≠ '\t'), rest.takeWhile (· ≠ '\t')) else none

variable (pton : InetPton)

/-- The addresses of a line, when both are addresses. -/
def range (line : List Char) : Option (IPAddress × IPAddress) := do
  let (start, stop) ← startStop line
  let start ← pton.fromString (String.ofList start)
  let stop ← pton.fromString (String.ofList stop)
  return (start, stop)

/-- The entries of one table, before they are sorted: its family is that of the start. -/
def entries {κ : Type} (isFamily : IPAddress → Bool) (key : IPAddress → κ) (tsv : TsvFile) :
    List (IndexEntry κ) :=
  (lines tsv.content).filterMap fun line => do
    let (start, stop) ← range pton line.text
    if isFamily start then
      some { start := key start, stop := key stop, offset := UInt64.ofNat line.offset }
    else none

def v4Entries (tsv : TsvFile) : List IndexEntryV4 :=
  entries pton (fun a => a.family = .ipv4) IPAddress.toInt tsv

def v6Entries (tsv : TsvFile) : List IndexEntryV6 :=
  entries pton (fun a => a.family ≠ .ipv4) IPAddress.bytes tsv

/-- The two calls of `std::sort`. -/
structure Sorts where
  v4 : @Sorting IndexEntryV4 UInt32 _ IndexEntry.start
  v6 : @Sorting IndexEntryV6 (Vector UInt8 16) _ IndexEntry.start

/-- `WIP2AsnDB::BuildIndex`: the file it writes. Entries that take 2^63 bytes are more than a
`std::vector` holds. -/
def buildIndex (sorts : Sorts) (tsv : TsvFile) : Option (List UInt8) :=
  let v4Entries := sorts.v4.run (v4Entries pton tsv)
  let v6Entries := sorts.v6.run (v6Entries pton tsv)
  if indexSize v4Entries.length v6Entries.length < 2 ^ 63 then
    some (writeIndex (UInt64.ofNat tsv.content.length) v4Entries v6Entries)
  else none

/-- `WIP2AsnDB::LookupIPv4` and `WIP2AsnDB::LookupIPv6`, by the table. -/
def lookupTable {κ : Type} [LinearOrder κ] (tsv : Option TsvFile) (table : List (IndexEntry κ))
    (ip : κ) : Option LookupResult :=
  (findRange IndexEntry.start IndexEntry.stop table ip).bind fun e => readEntryAtOffset tsv e.offset

/-- `WIP2AsnDB::Lookup`; without a mapped index there is no answer. -/
def lookup (view : Option IndexView) (tsv : Option TsvFile) (ip : IPAddress) :
    Option LookupResult := do
  let view ← view
  if ip.family = .ipv4 then lookupTable tsv view.v4Entries ip.toInt
  else lookupTable tsv view.v6Entries ip.bytes

/-! ## The rows -/

/-- A well-formed row. -/
structure Row where
  start : IPAddress
  stop : IPAddress
  result : LookupResult
  deriving DecidableEq

/-- The row is one for the address. -/
def Row.Contains (r : Row) (a : IPAddress) : Prop :=
  r.start.family = a.family ∧ r.start.number ≤ a.number ∧ a.number ≤ r.stop.number

instance (r : Row) (a : IPAddress) : Decidable (r.Contains a) := inferInstanceAs (Decidable (_ ∧ _))

/-- A number in decimal. -/
def asnOf (text : List Char) : Option UInt32 :=
  if text.all Char.isDigit then fromChars text else none

/-- The row of a line: five fields, the last one not empty, with two addresses of one family in
their order and a number. -/
def row (line : List Char) : Option Row := do
  let f ← readFields line
  let start ← pton.fromString (String.ofList f.start)
  let stop ← pton.fromString (String.ofList f.stop)
  let asn ← asnOf f.asn
  if start.family = stop.family ∧ start.number ≤ stop.number then
    some { start, stop, result := { asn, country := f.country, organization := f.organization } }
  else none

def rows (tsv : TsvFile) : List Row := (lines tsv.content).filterMap fun line => row pton line.text

/-- The rows of a family do not overlap. -/
def RowsDisjoint (tsv : TsvFile) : Prop :=
  (rows pton tsv).Pairwise fun r r' => r.start.family = r'.start.family →
    r.stop.number < r'.start.number ∨ r'.stop.number < r.start.number

instance (tsv : TsvFile) : Decidable (RowsDisjoint pton tsv) := List.instDecidablePairwise _

/-- The row whose range contains the address. -/
def rowFor (tsv : TsvFile) (a : IPAddress) : Option Row :=
  (rows pton tsv).find? fun r => r.Contains a

/-- The line that begins at an offset. -/
def lineAt (tsv : TsvFile) (offset : UInt64) : List Char :=
  (tsv.content.drop offset.toNat).takeWhile (· ≠ '\n')

/-- The entry is that of a well-formed row. -/
def IsRow {κ : Type} (tsv : TsvFile) (e : IndexEntry κ) : Prop :=
  (row pton (lineAt tsv e.offset)).isSome = true

/-- The lines that are no rows, and are indexed, do no harm. -/
def OthersHarmless {κ : Type} [LinearOrder κ] (tsv : TsvFile) (l : List (IndexEntry κ)) : Prop :=
  ∀ e ∈ l, ¬ IsRow pton tsv e → Harmless IndexEntry.start IndexEntry.stop l (IsRow pton tsv)
    (fun e => (readFields (lineAt tsv e.offset)).map Fields.result) e

/-! ## Lines and their offsets -/

theorem getline_eq_some_iff {delim : Char} {input text rest : List Char} :
    getline delim input = some (text, rest) ↔ input ≠ [] ∧ text = input.takeWhile (· ≠ delim) ∧
      rest = (input.dropWhile (· ≠ delim)).drop 1 := by
  unfold getline
  split
  · rename_i h
    exact iff_of_false (fun h' => nomatch h') fun h' => h'.1 h
  · rename_i h
    rw [Option.some_inj, Prod.mk.injEq, eq_comm (b := text), eq_comm (b := rest)]
    exact ⟨fun h' => ⟨h, h'⟩, fun h' => h'.2⟩

/-- What the loop finds at an offset is what is read there again. -/
theorem getline_of_mem (full : List Char) : ∀ {fuel offset : Nat} {content : List Char},
    full.drop offset = content → ∀ line ∈ linesUpTo fuel offset content,
      line.offset < full.length ∧
        ∃ rest, getline '\n' (full.drop line.offset) = some (line.text, rest)
  | 0, _, _, _, _, h => nomatch h
  | fuel + 1, offset, content, hdrop, line, h => by
    rw [linesUpTo] at h
    split at h
    · exact nomatch h
    · rename_i text rest hget
      obtain ⟨hne, htext, hrest⟩ := getline_eq_some_iff.mp hget
      rcases List.mem_cons.mp h with rfl | h
      · refine ⟨?_, rest, by rw [hdrop]; exact hget⟩
        by_contra hge
        rw [List.drop_eq_nil_of_le (Nat.le_of_not_lt hge)] at hdrop
        exact hne hdrop.symm
      · refine getline_of_mem full ?_ line h
        have hlength : content.drop text.length = content.dropWhile (· ≠ '\n') := by
          conv_lhs => rw [← List.takeWhile_append_dropWhile (p := (· ≠ '\n')) (l := content)]
          rw [htext]
          exact List.drop_left
        rw [hrest, ← hlength, ← hdrop, List.drop_drop, List.drop_drop, Nat.add_assoc]

/-- `ReadEntryAtOffset` reads the line that begins at the offset. -/
theorem readEntryAtOffset_eq (tsv : TsvFile) (offset : UInt64) :
    readEntryAtOffset (some tsv) offset = (readFields (lineAt tsv offset)).map Fields.result := by
  unfold readEntryAtOffset lineAt
  by_cases hend : tsv.content.drop offset.toNat = []
  · simp only [Option.bind_eq_bind, Option.bind_some, getline, hend]
    rfl
  · simp only [Option.bind_eq_bind, Option.bind_some, getline, if_neg hend]
    cases readFields ((tsv.content.drop offset.toNat).takeWhile (· ≠ '\n')) <;> rfl

section

variable {tsv : TsvFile} {line : Line}

theorem toNat_offset (h : line ∈ lines tsv.content) :
    (UInt64.ofNat line.offset).toNat = line.offset := by
  have hlt := (getline_of_mem tsv.content rfl line h).1
  have hsize := tsv.size_lt
  exact UInt64.toNat_ofNat_of_lt' (by rw [UInt64.size]; omega)

/-- **At the offset of a line that line is read.** -/
theorem lineAt_offset (h : line ∈ lines tsv.content) :
    lineAt tsv (UInt64.ofNat line.offset) = line.text := by
  obtain ⟨-, rest, hget⟩ := getline_of_mem tsv.content rfl line h
  rw [lineAt, toNat_offset h, (getline_eq_some_iff.mp hget).2.1]

end

/-! ## Entries and rows -/

theorem startStop_of_readFields {text : List Char} {f : Fields} (h : readFields text = some f) :
    startStop text = some (f.start, f.stop) := by
  simp only [readFields, Option.bind_eq_bind, Option.bind_eq_some_iff, Prod.exists,
    Option.pure_def, Option.some_inj] at h
  obtain ⟨start, rest, hstart, stop, rest', hstop, asn, rest'', hasn, _, _, _, _, _, _, rfl⟩ := h
  obtain ⟨-, rfl, rfl⟩ := getline_eq_some_iff.mp hstart
  obtain ⟨hne, rfl, rfl⟩ := getline_eq_some_iff.mp hstop
  obtain ⟨hne', -, -⟩ := getline_eq_some_iff.mp hasn
  unfold startStop
  cases hdrop : text.dropWhile (· ≠ '\t') with
  | nil =>
    rw [hdrop] at hne
    exact absurd rfl hne
  | cons c rest =>
    rw [hdrop] at hne'
    change (rest.dropWhile (· ≠ '\t')).drop 1 ≠ [] at hne'
    dsimp only
    rw [if_pos]
    · rfl
    · by_contra htab
      rw [List.dropWhile_eq_nil_iff.mpr fun c hc => by
        simpa using fun heq : c = '\t' => htab (heq ▸ hc)] at hne'
      exact hne' rfl

/-- A line that is a row is indexed with the addresses of the row, and read with its fields. -/
theorem row_eq_some {text : List Char} {r : Row} (h : row pton text = some r) :
    range pton text = some (r.start, r.stop) ∧
      (readFields text).map Fields.result = some r.result ∧
      r.start.family = r.stop.family ∧ r.start.number ≤ r.stop.number := by
  simp only [row, Option.bind_eq_bind, Option.bind_eq_some_iff, Option.ite_none_right_eq_some,
    Option.some_inj] at h
  obtain ⟨f, hfields, start, hstart, stop, hstop, asn, hasn, ⟨hfamily, hle⟩, rfl⟩ := h
  refine ⟨?_, ?_, hfamily, hle⟩
  · simp only [range, startStop_of_readFields hfields, Option.bind_eq_bind, Option.bind_some,
      hstart, hstop]
    rfl
  · have hnumber : fromChars f.asn = some asn := (Option.ite_none_right_eq_some.mp hasn).2
    rw [hfields, Option.map_some, Fields.result, hnumber]
    rfl

theorem fromString_family {text : String} {a : IPAddress} (h : pton.fromString text = some a) :
    a.family = .ipv4 ∨ a.family = .ipv6 := by
  unfold InetPton.fromString at h
  split at h
  · obtain ⟨bytes, -, rfl⟩ := Option.map_eq_some_iff.mp h
    exact .inl rfl
  · obtain ⟨bytes, -, rfl⟩ := Option.map_eq_some_iff.mp h
    exact .inr rfl

theorem range_family {text : List Char} {start stop : IPAddress}
    (h : range pton text = some (start, stop)) : start.family = .ipv4 ∨ start.family = .ipv6 := by
  simp only [range, Option.bind_eq_bind, Option.bind_eq_some_iff, Prod.exists, Option.pure_def,
    Option.some_inj, Prod.mk.injEq] at h
  obtain ⟨_, _, -, _, hstart, _, -, rfl, -⟩ := h
  exact fromString_family pton hstart

theorem mem_entries_iff {κ : Type} {isFamily : IPAddress → Bool} {key : IPAddress → κ}
    {tsv : TsvFile} {e : IndexEntry κ} : e ∈ entries pton isFamily key tsv ↔
      ∃ line ∈ lines tsv.content, ∃ start stop, range pton line.text = some (start, stop) ∧
        isFamily start = true ∧
        e = { start := key start, stop := key stop, offset := UInt64.ofNat line.offset } := by
  simp only [entries, List.mem_filterMap, Option.bind_eq_bind, Option.bind_eq_some_iff, Prod.exists,
    Option.ite_none_right_eq_some, Option.some_inj, eq_comm (b := e)]

/-- How the addresses of a family stand in its table. -/
structure Keying (κ : Type) [LinearOrder κ] where
  family : IPFamily
  key : IPAddress → κ
  address : κ → IPAddress
  address_family : ∀ x, (address x).family = family
  key_address : ∀ x, key (address x) = x
  key_le_iff : ∀ {a b : IPAddress}, a.family = family → b.family = family →
    (key a ≤ key b ↔ a.number ≤ b.number)

section

variable {pton} {κ : Type} [LinearOrder κ] {k : Keying κ} {isFamily : IPAddress → Bool}
  {tsv : TsvFile}

/-- The entry of a row. -/
def Keying.entry (k : Keying κ) (r : Row) (offset : Nat) : IndexEntry κ where
  start := k.key r.start
  stop := k.key r.stop
  offset := UInt64.ofNat offset

theorem Keying.covers_iff {r : Row} {a : IPAddress} {offset : Nat} (hr : r.start.family = k.family)
    (hfamily : r.start.family = r.stop.family) (ha : a.family = k.family) :
    Covers IndexEntry.start IndexEntry.stop (k.entry r offset) (k.key a) ↔ r.Contains a := by
  unfold Covers Row.Contains Keying.entry
  dsimp only
  rw [k.key_le_iff hr ha, k.key_le_iff ha (hfamily ▸ hr), and_iff_right (hr.trans ha.symm)]

/-- The entries of rows are those of the rows of the family. -/
theorem mem_entries_isRow_iff (hisFamily : ∀ a : IPAddress, a.family = .ipv4 ∨ a.family = .ipv6 →
      (isFamily a = true ↔ a.family = k.family)) {e : IndexEntry κ} :
    (e ∈ entries pton isFamily k.key tsv ∧ IsRow pton tsv e) ↔
      ∃ line ∈ lines tsv.content, ∃ r, row pton line.text = some r ∧ r.start.family = k.family ∧
        e = k.entry r line.offset := by
  constructor
  · rintro ⟨hmem, hrow⟩
    obtain ⟨line, hline, start, stop, hrange, hstart, rfl⟩ := (mem_entries_iff pton).mp hmem
    rw [IsRow, lineAt_offset hline, Option.isSome_iff_exists] at hrow
    obtain ⟨r, hr⟩ := hrow
    have hrange' := (row_eq_some pton hr).1
    rw [hrange, Option.some_inj, Prod.mk.injEq] at hrange'
    obtain ⟨rfl, rfl⟩ := hrange'
    exact ⟨line, hline, r, hr, (hisFamily _ (range_family pton hrange)).mp hstart, rfl⟩
  · rintro ⟨line, hline, r, hr, hfamily, rfl⟩
    have hrange := (row_eq_some pton hr).1
    have hstart := (hisFamily _ (range_family pton hrange)).mpr hfamily
    refine ⟨(mem_entries_iff pton).mpr ⟨line, hline, _, _, hrange, hstart, rfl⟩, ?_⟩
    rw [IsRow, Keying.entry, lineAt_offset hline, hr]
    rfl

/-- No address is in the rows of two lines. -/
theorem line_unique (hdisjoint : RowsDisjoint pton tsv) {line line' : Line} {r r' : Row}
    {a : IPAddress} (hline : line ∈ lines tsv.content) (hline' : line' ∈ lines tsv.content)
    (hr : row pton line.text = some r) (hr' : row pton line'.text = some r') (ha : r.Contains a)
    (ha' : r'.Contains a) : line = line' := by
  by_contra hne
  rw [RowsDisjoint, rows, List.pairwise_filterMap] at hdisjoint
  have hsymm : Std.Symm fun l l' : Line => ∀ r, row pton l.text = some r → ∀ r',
      row pton l'.text = some r' → r.start.family = r'.start.family →
        r.stop.number < r'.start.number ∨ r'.stop.number < r.start.number :=
    ⟨fun l l' h r hr r' hr' hfamily => (h r' hr' r hr hfamily.symm).symm⟩
  have hapart := hdisjoint.forall hline hline' hne r hr r' hr' (ha.1.trans ha'.1.symm)
  obtain ⟨-, hstart, hstop⟩ := ha
  obtain ⟨-, hstart', hstop'⟩ := ha'
  omega

/-- The row of an address is the row of any line that has it. -/
theorem rowFor_eq_some (hdisjoint : RowsDisjoint pton tsv) {line : Line} {r : Row} {a : IPAddress}
    (hline : line ∈ lines tsv.content) (hr : row pton line.text = some r) (ha : r.Contains a) :
    rowFor pton tsv a = some r := by
  unfold rowFor
  cases hfind : (rows pton tsv).find? fun r => decide (r.Contains a) with
  | none =>
    rw [List.find?_eq_none] at hfind
    exact absurd (decide_eq_true ha) (hfind r (List.mem_filterMap.mpr ⟨line, hline, hr⟩))
  | some r' =>
    have ha' : r'.Contains a := by simpa using List.find?_some hfind
    obtain ⟨line', hline', hr'⟩ := List.mem_filterMap.mp (List.mem_of_find?_eq_some hfind)
    rw [line_unique hdisjoint hline hline' hr hr' ha ha', hr'] at hr
    exact hr

/-- Addresses of a family with one key are in the same rows. -/
theorem rowFor_address (a : IPAddress) (ha : a.family = k.family) :
    rowFor pton tsv (k.address (k.key a)) = rowFor pton tsv a := by
  have hb := k.address_family (k.key a)
  have hnumber : (k.address (k.key a)).number = a.number :=
    Nat.le_antisymm ((k.key_le_iff hb ha).mp (k.key_address _).le)
      ((k.key_le_iff ha hb).mp (k.key_address _).ge)
  refine congrArg (List.find? · (rows pton tsv)) (funext fun r => decide_eq_decide.mpr ?_)
  unfold Row.Contains
  rw [hnumber, hb, ha]

/-- **When the lookups in one table are right.** -/
theorem lookupTable_correct_iff (hisFamily : ∀ a : IPAddress, a.family = .ipv4 ∨ a.family = .ipv6 →
      (isFamily a = true ↔ a.family = k.family)) (hdisjoint : RowsDisjoint pton tsv) :
    (∀ (s : @Sorting (IndexEntry κ) κ _ IndexEntry.start) (a : IPAddress), a.family = k.family →
      lookupTable (some tsv) (s.run (entries pton isFamily k.key tsv)) (k.key a) =
        (rowFor pton tsv a).map Row.result) ↔
      OthersHarmless pton tsv (entries pton isFamily k.key tsv) := by
  set l := entries pton isFamily k.key tsv with hl
  have hmem (e : IndexEntry κ) : (e ∈ l ∧ IsRow pton tsv e) ↔ ∃ line ∈ lines tsv.content, ∃ r,
      row pton line.text = some r ∧ r.start.family = k.family ∧ e = k.entry r line.offset :=
    mem_entries_isRow_iff hisFamily
  have hiff : (∀ (s : @Sorting (IndexEntry κ) κ _ IndexEntry.start) x,
      (findRange IndexEntry.start IndexEntry.stop (s.run l) x).bind
        (fun e => (readFields (lineAt tsv e.offset)).map Fields.result) =
          (rowFor pton tsv (k.address x)).map Row.result) ↔ OthersHarmless pton tsv l := by
    refine findRange_correct_iff (fun g hg hgood => ?_)
      (fun g hg g' hg' hgood hgood' x hx hx' => ?_) (fun x hout => ?_) (fun x g hg hgood hx => ?_)
    · obtain ⟨line, hline, r, hr, hfamily, rfl⟩ := (hmem g).mp ⟨hg, hgood⟩
      obtain ⟨-, hresult, hfamilies, hle⟩ := row_eq_some pton hr
      refine ⟨?_, (k.key_le_iff hfamily (hfamilies ▸ hfamily)).mpr hle⟩
      rw [Keying.entry, lineAt_offset hline, hresult]
      exact Option.some_ne_none _
    · obtain ⟨line, hline, r, hr, hfamily, rfl⟩ := (hmem g).mp ⟨hg, hgood⟩
      obtain ⟨line', hline', r', hr', hfamily', rfl⟩ := (hmem g').mp ⟨hg', hgood'⟩
      rw [← k.key_address x] at hx hx'
      have hx := (k.covers_iff hfamily (row_eq_some pton hr).2.2.1 (k.address_family x)).mp hx
      have hx' := (k.covers_iff hfamily' (row_eq_some pton hr').2.2.1 (k.address_family x)).mp hx'
      obtain rfl := line_unique hdisjoint hline hline' hr hr' hx hx'
      rw [Option.some.inj (hr.symm.trans hr')]
    · rw [Option.map_eq_none_iff, rowFor, List.find?_eq_none]
      intro r hr hcontains
      have hcontains : r.Contains (k.address x) := of_decide_eq_true hcontains
      obtain ⟨line, hline, hr⟩ := List.mem_filterMap.mp hr
      have hfamily := hcontains.1.trans (k.address_family x)
      obtain ⟨hg, hgood⟩ := (hmem _).mpr ⟨line, hline, r, hr, hfamily, rfl⟩
      refine hout _ hg hgood ?_
      rw [← k.key_address x]
      exact (k.covers_iff hfamily (row_eq_some pton hr).2.2.1 (k.address_family x)).mpr hcontains
    · obtain ⟨line, hline, r, hr, hfamily, rfl⟩ := (hmem g).mp ⟨hg, hgood⟩
      rw [← k.key_address x] at hx
      have hx := (k.covers_iff hfamily (row_eq_some pton hr).2.2.1 (k.address_family x)).mp hx
      rw [rowFor_eq_some hdisjoint hline hr hx, Keying.entry, lineAt_offset hline,
        (row_eq_some pton hr).2.1]
      rfl
  rw [← hiff]
  simp only [lookupTable, readEntryAtOffset_eq]
  constructor
  · intro h s x
    rw [← h s (k.address x) (k.address_family x), k.key_address]
  · intro h s a ha
    rw [h s (k.key a), rowFor_address a ha]

end

/-! ## Lookups -/

def v4Keying : Keying UInt32 where
  family := .ipv4
  key := IPAddress.toInt
  address := IPAddress.ofInt
  address_family _ := rfl
  key_address := IPAddress.toInt_ofInt
  key_le_iff := IPAddress.toInt_le_iff

def v6Keying : Keying (Vector UInt8 16) where
  family := .ipv6
  key := IPAddress.bytes
  address := IPAddress.ipv6
  address_family _ := rfl
  key_address _ := rfl
  key_le_iff := IPAddress.bytes_le_iff

theorem mapIndex_buildIndex {tsv : TsvFile}
    (hfits : indexSize (v4Entries pton tsv).length (v6Entries pton tsv).length < 2 ^ 63)
    (sorts : Sorts) : ∃ header, (buildIndex pton sorts tsv).bind mapIndex =
      some ⟨header, sorts.v4.run (v4Entries pton tsv), sorts.v6.run (v6Entries pton tsv)⟩ := by
  rw [← (sorts.v4.perm _).length_eq, ← (sorts.v6.perm _).length_eq] at hfits
  exact ⟨_, by rw [buildIndex, if_pos hfits, Option.bind_some, mapIndex_writeIndex hfits]⟩

/-- **When the lookups are right**, in a file whose rows do not overlap. -/
theorem lookup_correct_iff {tsv : TsvFile} (hdisjoint : RowsDisjoint pton tsv)
    (hfits : indexSize (v4Entries pton tsv).length (v6Entries pton tsv).length < 2 ^ 63) :
    (∀ (sorts : Sorts) (a : IPAddress), a.family = .ipv4 ∨ a.family = .ipv6 →
      lookup ((buildIndex pton sorts tsv).bind mapIndex) (some tsv) a =
        (rowFor pton tsv a).map Row.result) ↔
      OthersHarmless pton tsv (v4Entries pton tsv) ∧
        OthersHarmless pton tsv (v6Entries pton tsv) := by
  have h4 : (∀ (s : @Sorting IndexEntryV4 UInt32 _ IndexEntry.start) (a : IPAddress),
      a.family = .ipv4 → lookupTable (some tsv) (s.run (v4Entries pton tsv)) a.toInt =
        (rowFor pton tsv a).map Row.result) ↔ OthersHarmless pton tsv (v4Entries pton tsv) :=
    lookupTable_correct_iff (k := v4Keying) (fun a _ => by simp [v4Keying]) hdisjoint
  have h6 : (∀ (s : @Sorting IndexEntryV6 (Vector UInt8 16) _ IndexEntry.start) (a : IPAddress),
      a.family = .ipv6 → lookupTable (some tsv) (s.run (v6Entries pton tsv)) a.bytes =
        (rowFor pton tsv a).map Row.result) ↔ OthersHarmless pton tsv (v6Entries pton tsv) :=
    lookupTable_correct_iff (k := v6Keying)
      (fun a ha => by rcases ha with ha | ha <;> simp [v6Keying, ha]) hdisjoint
  rw [← h4, ← h6]
  constructor
  · intro h
    refine ⟨fun s a ha => ?_, fun s a ha => ?_⟩
    · obtain ⟨header, hmap⟩ := mapIndex_buildIndex pton hfits ⟨s, .stable _⟩
      have hlookup := h ⟨s, .stable _⟩ a (.inl ha)
      rw [hmap] at hlookup
      simpa [lookup, ha] using hlookup
    · obtain ⟨header, hmap⟩ := mapIndex_buildIndex pton hfits ⟨.stable _, s⟩
      have hlookup := h ⟨.stable _, s⟩ a (.inr ha)
      rw [hmap] at hlookup
      simpa [lookup, ha] using hlookup
  · rintro ⟨hright4, hright6⟩ sorts a ha
    obtain ⟨header, hmap⟩ := mapIndex_buildIndex pton hfits sorts
    rw [hmap]
    rcases ha with ha | ha
    · simpa [lookup, ha] using hright4 sorts.v4 a ha
    · simpa [lookup, ha] using hright6 sorts.v6 a ha

/-- An `inet_pton` that knows some IPv4 addresses. -/
def ptonOf (known : List (String × Vector UInt8 4)) : InetPton where
  inet text := if '.' ∈ text.toList ∧ ':' ∉ text.toList then known.lookup text else none
  inet6 _ := none
  dotted := fun h => (Option.ite_none_right_eq_some.mp h).1
  colons := fun h => nomatch h

/-- The network 5.0.0.0/24, and a line without a country and an organisation. -/
def hiddenTsv : TsvFile where
  content := "5.0.0.0\t5.0.0.255\t64500\tDE\tExample\n5.0.0.10\t5.0.0.20\t64501\n".toList
  size_lt := by decide

def hiddenPton : InetPton := ptonOf [("5.0.0.0", #v[5, 0, 0, 0]), ("5.0.0.255", #v[5, 0, 0, 255]),
  ("5.0.0.10", #v[5, 0, 0, 10]), ("5.0.0.20", #v[5, 0, 0, 20])]

theorem lookup_correct_hiddenTsv :
    (∀ (sorts : Sorts) (a : IPAddress), a.family = .ipv4 ∨ a.family = .ipv6 →
      lookup ((buildIndex hiddenPton sorts hiddenTsv).bind mapIndex) (some hiddenTsv) a =
        (rowFor hiddenPton hiddenTsv a).map Row.result) ↔
      OthersHarmless hiddenPton hiddenTsv (v4Entries hiddenPton hiddenTsv) ∧
        OthersHarmless hiddenPton hiddenTsv (v6Entries hiddenPton hiddenTsv) :=
  lookup_correct_iff hiddenPton (by decide) (by decide)

/-- The second line starts in the network and hides the rest of it: 5.0.0.50 has no answer. -/
theorem lookup_hidden : RowsDisjoint hiddenPton hiddenTsv ∧
    ¬ ∀ (sorts : Sorts) (a : IPAddress), a.family = .ipv4 ∨ a.family = .ipv6 →
      lookup ((buildIndex hiddenPton sorts hiddenTsv).bind mapIndex) (some hiddenTsv) a =
        (rowFor hiddenPton hiddenTsv a).map Row.result := by
  refine ⟨by decide, fun h => ?_⟩
  have hlookup := h ⟨.stable _, .stable _⟩ (.ipv4 #v[5, 0, 0, 50]) (.inl rfl)
  revert hlookup
  decide

end Waechter.IP2AsnDB
