import Mathlib.Algebra.Group.Nat.Defs
import Mathlib.Data.List.Forall2
import Mathlib.Data.Nat.Notation

/-!
# Records in a file

A `Format` writes a value in a fixed number of bytes and reads it back. Numbers have their lowest
byte first, structures have their fields one behind the other, without gaps, and a table is a list
of records. A file is read through a mapping, which shows zeros behind the end of the file.

* `readAt_append`, `table_append`: what was written is read back from its place.
* `Below`: how a file that was cut off reads, against the whole one.
-/

namespace Lib

/-! ## Numbers -/

/-- The lowest bytes of a number, the lowest first. -/
def leBytes : Nat → Nat → List UInt8
  | 0, _ => []
  | w + 1, n => UInt8.ofNat n :: leBytes w (n / 256)

def leValue : List UInt8 → Nat
  | [] => 0
  | b :: bs => b.toNat + 256 * leValue bs

@[simp] theorem length_leBytes : ∀ w n : Nat, (leBytes w n).length = w
  | 0, _ => rfl
  | w + 1, n => congrArg (· + 1) (length_leBytes w (n / 256))

theorem leValue_lt : ∀ bs : List UInt8, leValue bs < 256 ^ bs.length
  | [] => Nat.one_pos
  | b :: bs => by
    have hb := b.toNat_lt
    have hrest := leValue_lt bs
    rw [leValue, List.length_cons, Nat.pow_succ]
    omega

theorem leValue_leBytes : ∀ {w n : Nat}, n < 256 ^ w → leValue (leBytes w n) = n
  | 0, n, h => (Nat.lt_one_iff.mp h).symm
  | w + 1, n, h => by
    have hrest := leValue_leBytes (w := w) (n := n / 256)
      (Nat.div_lt_of_lt_mul (by rwa [Nat.pow_succ, Nat.mul_comm] at h))
    have hlow : (UInt8.ofNat n).toNat = n % 256 := UInt8.toNat_ofNat'
    rw [leBytes, leValue, hrest, hlow]
    omega

/-! ## Formats -/

/-- How a value stands in a file. -/
structure Format (α : Type) where
  size : Nat
  write : α → List UInt8
  read : List UInt8 → α
  length_write : ∀ a, (write a).length = size
  read_write : ∀ a, read (write a) = a

namespace Format

variable {α β : Type}

def uint16 : Format UInt16 where
  size := 2
  write n := leBytes 2 n.toNat
  read bs := UInt16.ofNat (leValue bs)
  length_write _ := length_leBytes _ _
  read_write n := by rw [leValue_leBytes n.toNat_lt, UInt16.ofNat_toNat]

def uint32 : Format UInt32 where
  size := 4
  write n := leBytes 4 n.toNat
  read bs := UInt32.ofNat (leValue bs)
  length_write _ := length_leBytes _ _
  read_write n := by rw [leValue_leBytes n.toNat_lt, UInt32.ofNat_toNat]

def uint64 : Format UInt64 where
  size := 8
  write n := leBytes 8 n.toNat
  read bs := UInt64.ofNat (leValue bs)
  length_write _ := length_leBytes _ _
  read_write n := by rw [leValue_leBytes n.toNat_lt, UInt64.ofNat_toNat]

/-- An array of bytes. -/
def array (n : Nat) : Format (Vector UInt8 n) where
  size := n
  write v := v.toList
  read bs := Vector.ofFn fun i : Fin n => bs[i.val]?.getD 0
  length_write v := v.length_toList
  read_write v := by
    refine Vector.ext fun i hi => ?_
    simp

/-- One value behind another. -/
def prod (f : Format α) (g : Format β) : Format (α × β) where
  size := f.size + g.size
  write x := f.write x.1 ++ g.write x.2
  read bs := (f.read (bs.take f.size), g.read (bs.drop f.size))
  length_write x := by rw [List.length_append, f.length_write, g.length_write]
  read_write x := by
    rw [List.take_left' (f.length_write x.1), List.drop_left' (f.length_write x.1), f.read_write,
      g.read_write]

/-- The format of a structure, from that of its fields. -/
def ofFields (f : Format β) (fields : α → β) (make : β → α) (h : ∀ a, make (fields a) = a) :
    Format α where
  size := f.size
  write a := f.write (fields a)
  read bs := make (f.read bs)
  length_write a := f.length_write _
  read_write a := by rw [f.read_write, h]

/-! ## Files -/

/-- The bytes of a mapping. -/
def bytesAt (file : List UInt8) (offset n : Nat) : List UInt8 :=
  (List.range n).map fun i => file[offset + i]?.getD 0

/-- The value at an offset of a mapping. -/
def readAt (f : Format α) (file : List UInt8) (offset : Nat) : α :=
  f.read (bytesAt file offset f.size)

/-- The values of a table at an offset of a mapping. -/
def table (f : Format α) (file : List UInt8) (offset n : Nat) : List α :=
  (List.range n).map fun i => f.readAt file (offset + i * f.size)

/-- A table in a file. -/
def writeTable (f : Format α) (l : List α) : List UInt8 := l.flatMap f.write

theorem length_writeTable (f : Format α) (l : List α) :
    (f.writeTable l).length = l.length * f.size := by
  induction l with
  | nil => exact (Nat.zero_mul _).symm
  | cons a l ih =>
    rw [writeTable, List.flatMap_cons, List.length_append, f.length_write, ← writeTable, ih,
      List.length_cons, Nat.succ_mul, Nat.add_comm]

theorem bytesAt_append (before block after : List UInt8) :
    bytesAt (before ++ (block ++ after)) before.length block.length = block := by
  unfold bytesAt
  refine List.ext_getElem (by simp) fun i hi hi' => ?_
  rw [List.getElem_map, List.getElem_range, List.getElem?_append_right (Nat.le_add_right _ _),
    Nat.add_sub_cancel_left, List.getElem?_append_left hi', List.getElem?_eq_getElem hi',
    Option.getD_some]

theorem readAt_append (f : Format α) (before after : List UInt8) (a : α) :
    f.readAt (before ++ (f.write a ++ after)) before.length = a := by
  rw [readAt, ← f.length_write a, bytesAt_append, f.read_write]

theorem table_append (f : Format α) (l : List α) : ∀ before after : List UInt8,
    f.table (before ++ (f.writeTable l ++ after)) before.length l.length = l := by
  induction l with
  | nil => exact fun _ _ => rfl
  | cons a l ih =>
    intro before after
    have hrest := ih (before ++ f.write a) after
    rw [List.append_assoc, List.length_append, f.length_write,
      ← List.append_assoc (f.write a)] at hrest
    rw [table, List.length_cons, List.range_succ_eq_map, List.map_cons, List.map_map, Nat.zero_mul,
      Nat.add_zero, writeTable, List.flatMap_cons]
    refine congrArg₂ List.cons ?_ ?_
    · rw [List.append_assoc (f.write a), readAt_append]
    · conv_rhs => rw [← hrest]
      refine List.map_congr_left fun i _ => ?_
      simp only [Function.comp_apply, Nat.succ_mul, writeTable]
      rw [Nat.add_comm (i * f.size), Nat.add_assoc]

/-! ## Files that are cut off -/

/-- Every byte is the one it is to be, or zero. -/
def Below : List UInt8 → List UInt8 → Prop := List.Forall₂ fun b b' => b = b' ∨ b = 0

theorem below_bytesAt_take (file : List UInt8) (k offset n : Nat) :
    Below (bytesAt (file.take k) offset n) (bytesAt file offset n) := by
  rw [Below, bytesAt, bytesAt, List.forall₂_map_left_iff, List.forall₂_map_right_iff,
    List.forall₂_same]
  intro i _
  rw [List.getElem?_take]
  split
  · exact .inl rfl
  · exact .inr rfl

/-- What is all there reads as before. -/
theorem bytesAt_take {file : List UInt8} {k offset n : Nat} (h : offset + n ≤ k) :
    bytesAt (file.take k) offset n = bytesAt file offset n := by
  refine List.map_congr_left fun i hi => ?_
  rw [List.mem_range] at hi
  rw [List.getElem?_take_of_lt (by omega)]

theorem Below.take {bs bs' : List UInt8} (h : Below bs bs') (n : Nat) :
    Below (bs.take n) (bs'.take n) := List.forall₂_take n h

theorem Below.drop {bs bs' : List UInt8} (h : Below bs bs') (n : Nat) :
    Below (bs.drop n) (bs'.drop n) := List.forall₂_drop n h

theorem Below.leValue {bs bs' : List UInt8} (h : Below bs bs') : leValue bs ≤ leValue bs' := by
  induction h with
  | nil => exact Nat.le_refl _
  | cons hb _ ih =>
    rw [Lib.leValue, Lib.leValue]
    rcases hb with rfl | rfl
    · omega
    · rw [UInt8.toNat_zero]
      omega

protected theorem Below.length_eq {bs bs' : List UInt8} (h : Below bs bs') :
    bs.length = bs'.length :=
  List.Forall₂.length_eq h

theorem leValue_lt_of_length {bs : List UInt8} {w : Nat} (h : bs.length ≤ w) :
    Lib.leValue bs < 256 ^ w :=
  Nat.lt_of_lt_of_le (leValue_lt bs) (Nat.pow_le_pow_right (by decide) h)

theorem Below.uint16 {bs bs' : List UInt8} (h : Below bs bs') (hlength : bs'.length ≤ 2) :
    (Format.uint16.read bs).toNat ≤ (Format.uint16.read bs').toNat := by
  have hbs := leValue_lt_of_length (h.length_eq ▸ hlength)
  have hbs' := leValue_lt_of_length hlength
  change (UInt16.ofNat _).toNat ≤ (UInt16.ofNat _).toNat
  rw [UInt16.toNat_ofNat_of_lt' hbs, UInt16.toNat_ofNat_of_lt' hbs']
  exact h.leValue

theorem Below.uint64 {bs bs' : List UInt8} (h : Below bs bs') (hlength : bs'.length ≤ 8) :
    (Format.uint64.read bs).toNat ≤ (Format.uint64.read bs').toNat := by
  have hbs := leValue_lt_of_length (h.length_eq ▸ hlength)
  have hbs' := leValue_lt_of_length hlength
  change (UInt64.ofNat _).toNat ≤ (UInt64.ofNat _).toNat
  rw [UInt64.toNat_ofNat_of_lt' hbs, UInt64.toNat_ofNat_of_lt' hbs']
  exact h.leValue

end Format

end Lib
