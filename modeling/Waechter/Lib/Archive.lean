import Waechter.Lib.Binary64
import Waechter.Lib.Records
import Waechter.Lib.UMap

/-!
# Archives

Values are saved one behind the other and loaded in the same order. An `Archive` says how the values
of a type are; not all of them come back, those that do `Fits`. Objects behind pointers are numbered
in the order in which they are met, so `save` is told how many there were before; that a pointer is
met a second time is left out.

* `load_saveAll`, `pairs`, `load_pointer`: lists, maps and pointers are loaded as they were saved.
* `load_cut`: of an archive that is cut off nothing is loaded.
-/

namespace Lib

/-- How values of a type are saved and loaded. What is loaded does not depend on what follows. -/
structure Archive (α : Type) where
  Fits : α → Prop
  /-- The bytes of a value, when so many pointers were saved before. -/
  save : α → Nat → List UInt8
  /-- The pointers in a value. -/
  pointers : α → Nat
  /-- The value at the front of the bytes, and the bytes behind it. -/
  load : List UInt8 → Option (α × List UInt8)
  load_save : ∀ {a : α}, Fits a → ∀ (n : Nat) (rest : List UInt8),
    load (save a n ++ rest) = some (a, rest)
  load_append : ∀ {bytes rest : List UInt8} {a : α}, load bytes = some (a, rest) →
    ∀ more : List UInt8, load (bytes ++ more) = some (a, rest ++ more)

namespace Archive

variable {α β : Type}

/-- **What is cut off is not loaded.** -/
theorem load_cut (c : Archive α) {a : α} (h : c.Fits a) {n : Nat} {part : List UInt8}
    (hpart : part <+: c.save a n) (hcut : part ≠ c.save a n) : c.load part = none := by
  obtain ⟨missing, hsave⟩ := hpart
  cases hload : c.load part with
  | none => rfl
  | some x =>
    -- what was loaded of the part would be loaded of the whole, with the rest behind it
    have hwhole := c.load_append hload missing
    have hsaved := c.load_save h n []
    rw [List.append_nil, ← hsave, hwhole, Option.some.injEq, Prod.mk.injEq,
      List.append_eq_nil_iff] at hsaved
    rw [hsaved.2.2, List.append_nil] at hsave
    exact absurd hsave hcut

/-! ## Numbers -/

/-- What has a fixed size. -/
def ofFormat (f : Format α) : Archive α where
  Fits _ := True
  save a _ := f.write a
  pointers _ := 0
  load bytes :=
    if f.size ≤ bytes.length then some (f.read (bytes.take f.size), bytes.drop f.size) else none
  load_save {a} _ n rest := by
    have hlength := f.length_write a
    rw [if_pos (by rw [List.length_append]; omega), List.take_left' hlength,
      List.drop_left' hlength, f.read_write]
  load_append {bytes rest a} h more := by
    split at h
    · rename_i hsize
      cases h
      rw [if_pos (by rw [List.length_append]; omega), List.take_append_of_le_length hsize,
        List.drop_append_of_le_length hsize]
    · cases h

theorem length_ofFormat (f : Format α) (a : α) (n : Nat) : ((ofFormat f).save a n).length = f.size :=
  f.length_write a

/-- Values that are saved as others. -/
def through (c : Archive β) (out : α → β) (back : β → Option α) (Fits : α → Prop)
    (h : ∀ a, Fits a → c.Fits (out a) ∧ back (out a) = some a) : Archive α where
  Fits := Fits
  save a n := c.save (out a) n
  pointers a := c.pointers (out a)
  load bytes := (c.load bytes).bind fun x => (back x.1).map fun a => (a, x.2)
  load_save {a} ha n rest := by
    obtain ⟨hfits, hback⟩ := h a ha
    rw [c.load_save hfits, Option.bind_some, hback, Option.map_some]
  load_append {bytes rest a} hload more := by
    obtain ⟨⟨b, rest'⟩, hb, ha⟩ := Option.bind_eq_some_iff.mp hload
    obtain ⟨a', ha', heq⟩ := Option.map_eq_some_iff.mp ha
    cases heq
    rw [c.load_append hb, Option.bind_some, ha', Option.map_some]

/-- A structure, from its fields. -/
def ofFields (c : Archive β) (fields : α → β) (make : β → α) (h : ∀ a, make (fields a) = a) :
    Archive α :=
  c.through fields (fun b => some (make b)) (fun a => c.Fits (fields a))
    fun a ha => ⟨ha, congrArg some (h a)⟩

@[simp] theorem length_ofFields (c : Archive β) (fields : α → β) (make : β → α)
    (h : ∀ a, make (fields a) = a) (a : α) (n : Nat) :
    ((c.ofFields fields make h).save a n).length = (c.save (fields a) n).length :=
  rfl

/-- An enumeration, by its numbers. -/
def enumeration (c : Archive β) (number : α → β) (ofNumber : β → Option α)
    (h : ∀ a, ofNumber (number a) = some a) : Archive α :=
  c.through number ofNumber (fun a => c.Fits (number a)) fun a ha => ⟨ha, h a⟩

def uint8 : Archive UInt8 :=
  (ofFormat (Format.array 1)).ofFields (fun b => #v[b]) (fun v => v[0]) fun _ => rfl

def uint16 : Archive UInt16 := ofFormat .uint16

def uint32 : Archive UInt32 := ofFormat .uint32

/-- A natural number of 64 bits. -/
def nat64 : Archive Nat :=
  (ofFormat .uint64).through .ofNat (fun w => some w.toNat) (· < 2 ^ 64)
    fun _ h => ⟨trivial, congrArg some (UInt64.toNat_ofNat_of_lt' h)⟩

/-- An integer of 64 bits. -/
def int64 : Archive Int :=
  (ofFormat .uint64).through (fun i => (Int64.ofInt i).toUInt64) (fun w => some w.toInt64.toInt)
    (fun i => -2 ^ 63 ≤ i ∧ i < 2 ^ 63)
    fun i h => ⟨trivial, congrArg some (by
      rw [Int64.toInt64_toUInt64, Int64.toInt_ofInt_of_le h.1 h.2])⟩

/-- An integer of 32 bits. -/
def int32 : Archive Int :=
  (ofFormat .uint32).through (fun i => (Int32.ofInt i).toUInt32) (fun w => some w.toInt32.toInt)
    (fun i => -2 ^ 31 ≤ i ∧ i < 2 ^ 31)
    fun i h => ⟨trivial, congrArg some (by
      rw [Int32.toInt32_toUInt32, Int32.toInt_ofInt_of_le h.1 h.2])⟩

/-- A double. -/
def double : Archive Rat :=
  (ofFormat .uint64).through Binary64.ofRat Binary64.toRat Binary64.Fits
    fun _ h => ⟨trivial, Binary64.toRat_ofRat h⟩

def bool : Archive Bool :=
  uint8.ofFields (fun b => if b then 1 else 0) (· ≠ 0) fun b => by cases b <;> rfl

@[simp] theorem length_uint8 (b : UInt8) (n : Nat) : (uint8.save b n).length = 1 := rfl

@[simp] theorem length_uint16 (w : UInt16) (n : Nat) : (uint16.save w n).length = 2 :=
  length_ofFormat Format.uint16 w n

@[simp] theorem length_uint32 (w : UInt32) (n : Nat) : (uint32.save w n).length = 4 :=
  length_ofFormat Format.uint32 w n

@[simp] theorem length_nat64 (i n : Nat) : (nat64.save i n).length = 8 :=
  length_ofFormat Format.uint64 _ n

@[simp] theorem length_double (q : Rat) (n : Nat) : (double.save q n).length = 8 :=
  length_ofFormat Format.uint64 _ n

@[simp] theorem length_bool (b : Bool) (n : Nat) : (bool.save b n).length = 1 := rfl

/-! ## One behind the other -/

/-- Nothing. -/
def unit : Archive Unit where
  Fits _ := True
  save _ _ := []
  pointers _ := 0
  load bytes := some ((), bytes)
  load_save _ _ _ := rfl
  load_append h _ := by
    cases h
    rfl

def prod (c : Archive α) (d : Archive β) : Archive (α × β) where
  Fits x := c.Fits x.1 ∧ d.Fits x.2
  save x n := c.save x.1 n ++ d.save x.2 (n + c.pointers x.1)
  pointers x := c.pointers x.1 + d.pointers x.2
  load bytes := (c.load bytes).bind fun x => (d.load x.2).map fun y => ((x.1, y.1), y.2)
  load_save {x} h n rest := by
    rw [List.append_assoc, c.load_save h.1, Option.bind_some, d.load_save h.2, Option.map_some]
  load_append {bytes rest x} h more := by
    obtain ⟨⟨a, rest₁⟩, ha, hmap⟩ := Option.bind_eq_some_iff.mp h
    obtain ⟨⟨b, rest₂⟩, hb, heq⟩ := Option.map_eq_some_iff.mp hmap
    cases heq
    rw [c.load_append ha, Option.bind_some, d.load_append hb, Option.map_some]

@[simp] theorem length_prod (c : Archive α) (d : Archive β) (x : α × β) (n : Nat) :
    ((prod c d).save x n).length =
      (c.save x.1 n).length + (d.save x.2 (n + c.pointers x.1)).length :=
  List.length_append

def saveAll (c : Archive α) : List α → Nat → List UInt8
  | [], _ => []
  | a :: l, n => c.save a n ++ c.saveAll l (n + c.pointers a)

def loadAll (c : Archive α) : Nat → List UInt8 → Option (List α × List UInt8)
  | 0, bytes => some ([], bytes)
  | size + 1, bytes =>
    (c.load bytes).bind fun x => (c.loadAll size x.2).map fun y => (x.1 :: y.1, y.2)

theorem load_saveAll (c : Archive α) : ∀ {l : List α}, (∀ a ∈ l, c.Fits a) →
    ∀ (n : Nat) (rest : List UInt8), c.loadAll l.length (c.saveAll l n ++ rest) = some (l, rest)
  | [], _, _, _ => rfl
  | a :: l, h, n, rest => by
    rw [List.forall_mem_cons] at h
    rw [saveAll, List.append_assoc, List.length_cons, loadAll, c.load_save h.1, Option.bind_some,
      c.load_saveAll h.2, Option.map_some]

theorem loadAll_append (c : Archive α) : ∀ {size : Nat} {bytes rest : List UInt8} {l : List α},
    c.loadAll size bytes = some (l, rest) →
      ∀ more, c.loadAll size (bytes ++ more) = some (l, rest ++ more)
  | 0, _, _, _, h, _ => by
    cases h
    rfl
  | size + 1, bytes, rest, l, h, more => by
    obtain ⟨⟨a, rest₁⟩, ha, hmap⟩ := Option.bind_eq_some_iff.mp h
    obtain ⟨⟨l', rest₂⟩, hl, heq⟩ := Option.map_eq_some_iff.mp hmap
    cases heq
    rw [loadAll, c.load_append ha, Option.bind_some, c.loadAll_append hl, Option.map_some]

theorem length_saveAll (c : Archive α) {size : Nat}
    (h : ∀ (a : α) (n : Nat), (c.save a n).length = size) :
    ∀ (l : List α) (n : Nat), (c.saveAll l n).length = size * l.length
  | [], _ => rfl
  | a :: l, n => by
    rw [saveAll, List.length_append, h, c.length_saveAll h l, List.length_cons, Nat.mul_succ,
      Nat.add_comm]

/-- A vector: its size, then its elements. -/
def list (c : Archive α) : Archive (List α) where
  Fits l := l.length < 2 ^ 64 ∧ ∀ a ∈ l, c.Fits a
  save l n := nat64.save l.length n ++ c.saveAll l n
  pointers l := (l.map c.pointers).sum
  load bytes := (nat64.load bytes).bind fun x => c.loadAll x.1 x.2
  load_save {l} h n rest := by
    rw [List.append_assoc, nat64.load_save (a := l.length) h.1, Option.bind_some, c.load_saveAll h.2]
  load_append {bytes rest l} h more := by
    obtain ⟨⟨size, rest'⟩, hsize, hl⟩ := Option.bind_eq_some_iff.mp h
    rw [nat64.load_append hsize, Option.bind_some, c.loadAll_append hl]

/-- A string: a `Char` stands for a `char`. -/
def text : Archive (List Char) :=
  (list uint8).through (fun s => s.map fun c => .ofNat c.toNat)
    (fun bytes => some (bytes.map fun b => Char.ofNat b.toNat))
    (fun s => s.length < 2 ^ 64 ∧ ∀ c ∈ s, c.toNat < 256) fun s h => by
      refine ⟨⟨by rw [List.length_map]; exact h.1, fun _ _ => trivial⟩, congrArg some ?_⟩
      rw [List.map_map]
      refine (List.map_congr_left fun c hc => ?_).trans (List.map_id s)
      change Char.ofNat (UInt8.ofNat c.toNat).toNat = c
      rw [UInt8.toNat_ofNat_of_lt' (h.2 c hc), Char.ofNat_toNat]

def string : Archive String :=
  text.ofFields String.toList String.ofList fun _ => String.ofList_toList

@[simp] theorem length_string (s : String) (n : Nat) :
    (string.save s n).length = 8 + s.length := by
  change (nat64.save _ n ++ uint8.saveAll _ n).length = _
  rw [List.length_append, length_nat64, uint8.length_saveAll length_uint8, List.length_map,
    String.length_toList, Nat.one_mul]

/-! ## Maps -/

section Map

variable {K V : Type} [DecidableEq K]

/-- `emplace`: an entry whose key is new. -/
def emplace (m : UMap K V) (e : K × V) : UMap K V :=
  if h : e.1 ∈ m then m
  else ⟨m.entries ++ [⟨e.1, e.2⟩], by
    rw [List.NodupKeys, List.keys, List.map_append, List.nodup_append]
    refine ⟨m.nodupKeys, List.nodup_singleton _, fun k hk k' hk' => ?_⟩
    rintro rfl
    cases List.mem_singleton.mp hk'
    exact h hk⟩

/-- The entries of a map, in the order in which it is iterated over. -/
def pairs (m : UMap K V) : List (K × V) := m.entries.map fun e => (e.1, e.2)

theorem foldl_emplace : ∀ (l : List (Sigma fun _ : K => V)) (m m' : UMap K V),
    m.entries ++ l = m'.entries → (l.map fun e => (e.1, e.2)).foldl emplace m = m'
  | [], m, m', h => AList.ext (by rw [← h, List.append_nil]; rfl)
  | e :: l, m, m', h => by
    have hnew : e.1 ∉ m := by
      intro hmem
      have hnodup := m'.nodupKeys
      rw [← h, List.NodupKeys, List.keys, List.map_append, List.nodup_append] at hnodup
      exact hnodup.2.2 _ hmem _ (List.mem_cons_self ..) rfl
    rw [List.map_cons, List.foldl_cons]
    refine foldl_emplace l _ m' ?_
    rw [emplace, dif_neg hnew, ← h, List.append_assoc]
    rfl

/-- A map: its size, then its entries. -/
def umap (k : Archive K) (v : Archive V) : Archive (UMap K V) :=
  (list (prod k v)).ofFields pairs (fun l => l.foldl emplace ∅)
    fun m => foldl_emplace m.entries ∅ m (List.nil_append _)

end Map

/-! ## Pointers -/

/-- `msb_32bit`: an object that is met for the first time follows. -/
def firstTime : UInt32 := 0x80000000

/-- `msb2_32bit`: the object has just the type of the pointer. -/
def sameType : UInt32 := 0x40000000

theorem firstTime_or (id : UInt32) : (id ||| firstTime) &&& firstTime ≠ 0 := by
  intro h
  have hbit := congrArg (fun w : UInt32 => w.toBitVec.getLsbD 31) h
  simp [firstTime] at hbit

/-- A pointer, or a null one. The objects are numbered from 1 on. -/
def pointer (c : Archive α) : Archive (Option α) where
  Fits p := ∀ a ∈ p, c.Fits a
  save p n := p.elim (uint32.save 0 n) fun a =>
    uint32.save (.ofNat (n + 1) ||| firstTime) n ++ c.save a (n + 1)
  pointers p := p.elim 0 fun a => 1 + c.pointers a
  load bytes := (uint32.load bytes).bind fun x =>
    if x.1 &&& firstTime ≠ 0 then (c.load x.2).map fun y => (some y.1, y.2)
    else if x.1 = 0 then some (none, x.2)
    else none
  load_save {p} h n rest := by
    cases p with
    | none =>
      rw [Option.elim_none, uint32.load_save trivial, Option.bind_some,
        if_neg (show ¬(0 : UInt32) &&& firstTime ≠ 0 by decide), if_pos rfl]
    | some a =>
      rw [Option.elim_some, List.append_assoc, uint32.load_save trivial, Option.bind_some,
        if_pos (firstTime_or _), c.load_save (h a rfl), Option.map_some]
  load_append {bytes rest p} h more := by
    obtain ⟨⟨id, rest'⟩, hid, hp⟩ := Option.bind_eq_some_iff.mp h
    rw [uint32.load_append hid, Option.bind_some]
    dsimp only at hp ⊢
    split at hp
    · rename_i hfirst
      obtain ⟨⟨a, rest₁⟩, ha, heq⟩ := Option.map_eq_some_iff.mp hp
      cases heq
      rw [if_pos hfirst, c.load_append ha, Option.map_some]
    · rename_i hfirst
      split at hp
      · rename_i hnull
        cases hp
        rw [if_neg hfirst, if_pos hnull]
      · cases hp

@[simp] theorem length_pointer (c : Archive α) (p : Option α) (n : Nat) :
    (c.pointer.save p n).length = 4 + p.elim 0 fun a => (c.save a (n + 1)).length := by
  cases p with
  | none => exact length_uint32 0 n
  | some a => exact List.length_append.trans (congrArg (· + _) (length_uint32 _ n))

/-- A pointer to an object of a class with virtual functions. It says first whether the object has
just that class; no other classes are registered. -/
def polymorphic (c : Archive α) : Archive (Option α) where
  Fits p := ∀ a ∈ p, c.Fits a
  save p n := p.elim (uint32.save 0 n) fun a =>
    uint32.save sameType n ++ c.pointer.save (some a) n
  pointers p := c.pointer.pointers p
  load bytes := (uint32.load bytes).bind fun x =>
    if x.1 &&& sameType ≠ 0 then c.pointer.load x.2
    else if x.1 = 0 then some (none, x.2)
    else none
  load_save {p} h n rest := by
    cases p with
    | none =>
      rw [Option.elim_none, uint32.load_save trivial, Option.bind_some,
        if_neg (show ¬(0 : UInt32) &&& sameType ≠ 0 by decide), if_pos rfl]
    | some a =>
      rw [Option.elim_some, List.append_assoc, uint32.load_save trivial, Option.bind_some,
        if_pos (show sameType &&& sameType ≠ 0 by decide), c.pointer.load_save h]
  load_append {bytes rest p} h more := by
    obtain ⟨⟨id, rest'⟩, hid, hp⟩ := Option.bind_eq_some_iff.mp h
    rw [uint32.load_append hid, Option.bind_some]
    dsimp only at hp ⊢
    split at hp
    · rename_i hsame
      rw [if_pos hsame, c.pointer.load_append hp]
    · rename_i hsame
      split at hp
      · rename_i hnull
        cases hp
        rw [if_neg hsame, if_pos hnull]
      · cases hp

/-- An object that is there: pointers that are null are left out. -/
def object (c : Archive α) : Archive α :=
  c.polymorphic.through some id c.Fits fun a h => ⟨fun b hb => by cases hb; exact h, rfl⟩

end Archive

end Lib
