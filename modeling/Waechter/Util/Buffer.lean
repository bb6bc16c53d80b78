import Mathlib.Algebra.Group.Nat.Defs
import Waechter.Lib.Fifo
import Waechter.Lib.Text
import Waechter.Util.ClientSocket

/-!
# The byte buffer

`WBuffer` (`Util/Buffer.hpp`) is a vector of bytes with a position to read from and one to write
to. The vector grows geometrically. `Consume` goes back to the start when nothing is left, `Read`
does not, and `Compact` moves what is left to the start.

An operation that asks for more memory than there is, or for more than a vector may have, throws
before it changes anything: `memory` is whether the allocator grants what the call asks for.

* `Buffer.Ordered.step`: the positions stay in order and inside the vector.
* `Buffer.queueStep_fifo`: every operation is one of a queue on what is readable.
* `Buffer.buffer_fifo`: over a run, what is taken, followed by what is readable, is what was written.
-/

namespace Waechter

open Lib.Text (sizeSub sizeSub_of_le)

/-- `PTRDIFF_MAX`, the size that no object and no vector of bytes exceeds. -/
def maxSize : Nat := 2 ^ 63 - 1

/-- Bytes in memory: what a `std::span` is over. -/
structure Bytes where
  bytes : List Byte
  length_le : bytes.length ≤ maxSize

/-- `WBuffer`. -/
structure Buffer where
  data : List Byte
  readPos : Nat := 0
  writePos : Nat := 0
  deriving DecidableEq

/-- `Data.resize(NewSize)`: the bytes that are new are zero. -/
def resizeData (data : List Byte) (newSize : Nat) (memory : Bool) : Option (List Byte) :=
  if newSize ≤ maxSize ∧ memory then
    some (data.take newSize ++ List.replicate (newSize - data.length) 0)
  else none

/-- The loop of `EnsureCapacity`. -/
def growCapacity (needed newCap : Nat) (hpos : 0 < newCap) : Nat :=
  if newCap < needed then
    if newCap > (2 ^ 64 - 1) / 2 then needed
    else growCapacity needed (newCap * 2) (Nat.mul_pos hpos Nat.two_pos)
  else newCap
termination_by needed - newCap

/-- The loop ends at what is needed or above. -/
theorem le_growCapacity {needed : Nat} (newCap : Nat) (hpos : 0 < newCap) :
    needed ≤ growCapacity needed newCap hpos := by
  fun_induction growCapacity needed newCap hpos with
  | case1 => exact Nat.le_refl _
  | case2 _ _ _ _ ih => exact ih
  | case3 _ _ h => exact Nat.le_of_not_lt h

/-- Growing does not take away what the vector has. -/
theorem le_growCapacity_start {needed : Nat} (newCap : Nat) (hpos : 0 < newCap) :
    newCap ≤ growCapacity needed newCap hpos := by
  fun_induction growCapacity needed newCap hpos with
  | case1 _ _ h => exact Nat.le_of_lt h
  | case2 => omega
  | case3 => exact Nat.le_refl _

namespace Buffer

/-- The capacity that the loop starts from. -/
def startCapacity (b : Buffer) : Nat := if b.data ≠ [] then b.data.length else 1024

theorem startCapacity_pos (b : Buffer) : 0 < b.startCapacity := by
  unfold startCapacity
  split
  · exact List.length_pos_iff.mpr ‹_›
  · decide

theorem length_le_startCapacity (b : Buffer) : b.data.length ≤ b.startCapacity := by
  unfold startCapacity
  split
  · exact Nat.le_refl _
  · simp_all

/-- `EnsureCapacity`. -/
def ensureCapacity (b : Buffer) (needed : Nat) (memory : Bool) : Option Buffer :=
  if needed ≤ b.data.length then some b
  else
    (resizeData b.data (growCapacity needed b.startCapacity b.startCapacity_pos) memory).map
      fun data => { b with data }

/-- `GetReadableSize`. -/
def getReadableSize (b : Buffer) : Nat := sizeSub b.writePos b.readPos

/-- `GetReadableData`. -/
def getReadableData (b : Buffer) : List Byte := (b.data.drop b.readPos).take b.getReadableSize

/-- `Reset`. -/
def reset (b : Buffer) : Buffer := { b with readPos := 0, writePos := 0 }

/-- `Consume`. -/
def consume (b : Buffer) (n : Nat) : Buffer :=
  let adv := min n b.getReadableSize
  let b := { b with readPos := b.readPos + adv }
  if b.readPos = b.writePos then b.reset else b

/-- `Compact`. -/
def compact (b : Buffer) : Buffer :=
  if b.readPos = 0 ∨ b.readPos ≥ b.writePos then b
  else
    let remaining := b.writePos - b.readPos
    { data := (b.data.drop b.readPos).take remaining ++ b.data.drop remaining
      readPos := 0
      writePos := remaining }

/-- `SetWritingPos`. -/
def setWritingPos (b : Buffer) (pos : Nat) (memory : Bool) : Option Buffer :=
  let grown := if pos > b.data.length then b.ensureCapacity pos memory else some b
  grown.map fun b =>
    let b := { b with writePos := pos }
    if b.readPos > b.writePos then { b with readPos := b.writePos } else b

/-- `Read` into a span of `size` bytes: the bytes it copies there, and the buffer. -/
def read (b : Buffer) (size : Nat) : List Byte × Buffer :=
  if size = 0 then ([], b)
  else
    let b := if b.readPos > b.writePos then { b with readPos := b.writePos } else b
    let available := b.writePos - b.readPos
    let n := min size available
    if n > 0 then ((b.data.drop b.readPos).take n, { b with readPos := b.readPos + n }) else ([], b)

/-- `Write`. In a release build the overflow guard returns. -/
def write (b : Buffer) (buf : Bytes) (memory : Bool) : Option Buffer :=
  if buf.bytes = [] then some b
  else if buf.bytes.length > sizeSub (2 ^ 64 - 1) b.writePos then some b
  else
    (b.ensureCapacity (b.writePos + buf.bytes.length) memory).map fun b =>
      { b with
        data := b.data.take b.writePos ++ buf.bytes ++ b.data.drop (b.writePos + buf.bytes.length)
        writePos := b.writePos + buf.bytes.length }

/-- `Resize`. -/
def resize (b : Buffer) (newSize : Nat) (memory : Bool) : Option Buffer :=
  (resizeData b.data newSize memory).map fun data =>
    let b := { b with data }
    let b := if b.writePos > newSize then { b with writePos := newSize } else b
    if b.readPos > b.writePos then { b with readPos := b.writePos } else b

/-- The operations of a queue. -/
inductive QueueOp
  | write (buf : Bytes) (memory : Bool)
  | read (size : Nat)
  | consume (n : Nat)
  | compact

/-- The operations on a buffer. -/
inductive Op
  | queue (o : QueueOp)
  | reset
  | setWritingPos (pos : Nat) (memory : Bool)
  | resize (newSize : Nat) (memory : Bool)

/-- An operation of a queue. One that throws leaves the buffer as it was. -/
def queueStep (b : Buffer) : QueueOp → Buffer
  | .write buf memory => (b.write buf memory).getD b
  | .read size => (b.read size).2
  | .consume n => b.consume n
  | .compact => b.compact

def step (b : Buffer) : Op → Buffer
  | .queue o => b.queueStep o
  | .reset => b.reset
  | .setWritingPos pos memory => (b.setWritingPos pos memory).getD b
  | .resize newSize memory => (b.resize newSize memory).getD b

/-- The bytes that an operation returns or drops. -/
def taken (b : Buffer) : QueueOp → List Byte
  | .read size => (b.read size).1
  | .consume n => b.getReadableData.take n
  | .write .. | .compact => []

/-- The bytes that a `Write` that returns has written. -/
def written (b : Buffer) : QueueOp → List Byte
  | .write buf memory => if (b.write buf memory).isSome then buf.bytes else []
  | .read _ | .consume _ | .compact => []

/-! ## The positions -/

/-- The positions are in order, and in a vector that is not too large. -/
structure Ordered (b : Buffer) : Prop where
  readPos_le : b.readPos ≤ b.writePos
  writePos_le : b.writePos ≤ b.data.length
  length_le : b.data.length ≤ maxSize

variable {b b' : Buffer}

theorem resizeData_some {data data' : List Byte} {newSize : Nat} {memory : Bool}
    (h : resizeData data newSize memory = some data') :
    data' = data.take newSize ++ List.replicate (newSize - data.length) 0 ∧
      data'.length = newSize ∧ newSize ≤ maxSize := by
  unfold resizeData at h
  split at h
  · rename_i hsize
    obtain rfl := (Option.some.inj h).symm
    refine ⟨rfl, ?_, hsize.1⟩
    rw [List.length_append, List.length_take, List.length_replicate]
    omega
  · cases h

/-- What `EnsureCapacity` does when it returns: bytes are put behind the ones that are there. -/
theorem ensureCapacity_some {needed : Nat} {memory : Bool} (hb : b.Ordered)
    (h : b.ensureCapacity needed memory = some b') :
    ∃ more : List Byte, b' = { b with data := b.data ++ more } ∧ needed ≤ b'.data.length ∧
      b'.data.length ≤ maxSize := by
  unfold ensureCapacity at h
  split at h
  · rename_i hle
    obtain rfl := Option.some.inj h
    exact ⟨[], by simp, hle, hb.length_le⟩
  · obtain ⟨data, hdata, rfl⟩ := Option.map_eq_some_iff.mp h
    obtain ⟨rfl, hlength, hmax⟩ := resizeData_some hdata
    have hgrow : b.data.length ≤ growCapacity needed b.startCapacity b.startCapacity_pos :=
      Nat.le_trans b.length_le_startCapacity (le_growCapacity_start _ _)
    refine ⟨List.replicate _ 0, by rw [List.take_of_length_le hgrow], ?_, ?_⟩
    · exact Nat.le_trans (le_growCapacity _ _) (Nat.le_of_eq hlength.symm)
    · exact Nat.le_trans (Nat.le_of_eq hlength) hmax

theorem Ordered.reset (hb : b.Ordered) : b.reset.Ordered :=
  ⟨Nat.le_refl _, Nat.zero_le _, hb.length_le⟩

theorem getReadableSize_eq (hb : b.Ordered) : b.getReadableSize = b.writePos - b.readPos :=
  sizeSub_of_le hb.readPos_le

theorem Ordered.consume (hb : b.Ordered) (n : Nat) : (b.consume n).Ordered := by
  obtain ⟨hread, hwrite, hmax⟩ := hb
  have hsize := sizeSub_of_le hread
  unfold Buffer.consume
  dsimp only
  split
  · exact ⟨Nat.le_refl _, Nat.zero_le _, hmax⟩
  · refine ⟨?_, hwrite, hmax⟩
    show b.readPos + min n b.getReadableSize ≤ b.writePos
    unfold getReadableSize
    omega

theorem Ordered.compact (hb : b.Ordered) : b.compact.Ordered := by
  obtain ⟨hread, hwrite, hmax⟩ := hb
  unfold Buffer.compact
  split
  · exact ⟨hread, hwrite, hmax⟩
  · refine ⟨Nat.zero_le _, ?_, ?_⟩ <;> simp <;> omega

theorem Ordered.read (hb : b.Ordered) (size : Nat) : (b.read size).2.Ordered := by
  obtain ⟨hread, hwrite, hmax⟩ := hb
  unfold Buffer.read
  rw [if_neg (Nat.not_lt_of_le hread)]
  dsimp only
  split
  · exact ⟨hread, hwrite, hmax⟩
  · split
    · exact ⟨by dsimp only; omega, hwrite, hmax⟩
    · exact ⟨hread, hwrite, hmax⟩

/-- Clamping the read position to a write position inside the vector. -/
theorem ordered_clamp (hwrite : b.writePos ≤ b.data.length) (hmax : b.data.length ≤ maxSize) :
    (if b.readPos > b.writePos then { b with readPos := b.writePos } else b).Ordered := by
  split
  · exact ⟨Nat.le_refl _, hwrite, hmax⟩
  · exact ⟨Nat.le_of_not_lt ‹_›, hwrite, hmax⟩

theorem Ordered.setWritingPos (hb : b.Ordered) {pos : Nat} {memory : Bool}
    (h : b.setWritingPos pos memory = some b') : b'.Ordered := by
  obtain ⟨grown, hgrown, rfl⟩ := Option.map_eq_some_iff.mp h
  have hpos : pos ≤ grown.data.length ∧ grown.data.length ≤ maxSize := by
    split at hgrown
    · obtain ⟨_, _, hneeded, hmax⟩ := ensureCapacity_some hb hgrown
      exact ⟨hneeded, hmax⟩
    · obtain rfl := Option.some.inj hgrown
      exact ⟨Nat.le_of_not_lt ‹_›, hb.length_le⟩
  exact ordered_clamp (b := { grown with writePos := pos }) hpos.1 hpos.2

theorem ordered_resize {newSize : Nat} {memory : Bool}
    (h : b.resize newSize memory = some b') : b'.Ordered := by
  obtain ⟨data, hdata, rfl⟩ := Option.map_eq_some_iff.mp h
  obtain ⟨-, hlength, hmax⟩ := resizeData_some hdata
  have hdata_le : data.length ≤ maxSize := Nat.le_trans (Nat.le_of_eq hlength) hmax
  dsimp only
  by_cases hwrite : b.writePos > newSize
  · rw [if_pos hwrite]
    exact ordered_clamp (b := { b with data, writePos := newSize }) (Nat.le_of_eq hlength.symm)
      hdata_le
  · rw [if_neg hwrite]
    exact ordered_clamp (b := { b with data }) (by dsimp only; omega) hdata_le

/-- The sum of a position and the size of a span does not overflow. -/
theorem Ordered.not_overflow (hb : b.Ordered) (buf : Bytes) :
    ¬ buf.bytes.length > sizeSub (2 ^ 64 - 1) b.writePos := by
  have hwrite := Nat.le_trans hb.writePos_le hb.length_le
  have hlength := buf.length_le
  unfold maxSize at hwrite hlength
  rw [sizeSub_of_le (by omega)]
  omega

/-- What `Write` does when it returns: the bytes are behind those before the write position, and
behind them is what was there or what the vector has grown by. -/
theorem write_some {buf : Bytes} {memory : Bool} (hb : b.Ordered)
    (h : b.write buf memory = some b') :
    ∃ rest : List Byte,
      b' = { b with
        data := b.data.take b.writePos ++ buf.bytes ++ rest
        writePos := b.writePos + buf.bytes.length } ∧ b'.Ordered := by
  unfold write at h
  rw [if_neg (hb.not_overflow buf)] at h
  split at h
  · rename_i hempty
    obtain rfl := Option.some.inj h
    refine ⟨b.data.drop b.writePos, ?_, hb⟩
    simp [hempty]
  · obtain ⟨grown, hgrown, rfl⟩ := Option.map_eq_some_iff.mp h
    obtain ⟨more, rfl, hneeded, hmax⟩ := ensureCapacity_some hb hgrown
    have htake : (b.data ++ more).take b.writePos = b.data.take b.writePos :=
      List.take_append_of_le_length hb.writePos_le
    refine ⟨(b.data ++ more).drop (b.writePos + buf.bytes.length), by rw [htake], ?_⟩
    refine ⟨Nat.le_trans hb.readPos_le (Nat.le_add_right _ _), ?_, ?_⟩
    · simp only [List.length_append, List.length_take, List.length_drop] at hneeded ⊢
      omega
    · simp only [List.length_append, List.length_take, List.length_drop] at hneeded hmax ⊢
      omega

theorem Ordered.queueStep (hb : b.Ordered) (o : QueueOp) : (b.queueStep o).Ordered := by
  cases o with
  | write buf memory =>
    show ((b.write buf memory).getD b).Ordered
    cases h : b.write buf memory with
    | none => exact hb
    | some b' =>
      obtain ⟨_, _, hb'⟩ := write_some hb h
      exact hb'
  | read size => exact hb.read size
  | consume n => exact hb.consume n
  | compact => exact hb.compact

theorem Ordered.step (hb : b.Ordered) (o : Op) : (b.step o).Ordered := by
  cases o with
  | queue o => exact hb.queueStep o
  | reset => exact hb.reset
  | setWritingPos pos memory =>
    show ((b.setWritingPos pos memory).getD b).Ordered
    cases h : b.setWritingPos pos memory with
    | none => exact hb
    | some b' => exact hb.setWritingPos h
  | resize newSize memory =>
    show ((b.resize newSize memory).getD b).Ordered
    cases h : b.resize newSize memory with
    | none => exact hb
    | some b' => exact ordered_resize h

/-! ## The queue -/

/-- `Write` puts its bytes behind what is readable. -/
theorem getReadableData_write {buf : Bytes} {memory : Bool} (hb : b.Ordered)
    (h : b.write buf memory = some b') : b'.getReadableData = b.getReadableData ++ buf.bytes := by
  obtain ⟨rest, heq, hb'⟩ := write_some hb h
  unfold getReadableData
  rw [getReadableSize_eq hb, getReadableSize_eq hb']
  subst heq
  dsimp only
  obtain ⟨hread, hwrite, -⟩ := hb
  have hlength : (b.data.take b.writePos).length = b.writePos := List.length_take_of_le hwrite
  rw [List.append_assoc, List.drop_append_of_le_length (by omega), List.drop_take,
    ← List.append_assoc]
  refine List.take_left' ?_
  rw [List.length_append, List.length_take, List.length_drop]
  omega

/-- `Read` takes bytes off the front. -/
theorem getReadableData_read (hb : b.Ordered) (size : Nat) :
    b.getReadableData = (b.read size).1 ++ (b.read size).2.getReadableData := by
  have hb' := hb.read size
  unfold getReadableData
  rw [getReadableSize_eq hb, getReadableSize_eq hb']
  unfold read
  rw [if_neg (Nat.not_lt_of_le hb.readPos_le)]
  dsimp only
  split
  · rfl
  · split
    · have hsub : b.writePos - (b.readPos + min size (b.writePos - b.readPos)) =
          b.writePos - b.readPos - min size (b.writePos - b.readPos) := by omega
      rw [hsub, ← List.drop_drop, ← List.take_add]
      congr 1
      omega
    · rfl

/-- `Consume` drops bytes off the front. -/
theorem getReadableData_consume (hb : b.Ordered) (n : Nat) :
    (b.consume n).getReadableData = b.getReadableData.drop n := by
  have hb' := hb.consume n
  unfold getReadableData
  rw [getReadableSize_eq hb, getReadableSize_eq hb']
  unfold consume
  rw [getReadableSize_eq hb, List.drop_take, List.drop_drop]
  dsimp only
  have hread := hb.readPos_le
  split
  · rename_i hall
    have hzero : b.writePos - b.readPos - n = 0 := by omega
    simp [reset, hzero]
  · rename_i hsome
    have hmin : min n (b.writePos - b.readPos) = n := by omega
    rw [hmin, Nat.sub_sub]

/-- `Compact` moves what is readable to the front. -/
theorem getReadableData_compact (hb : b.Ordered) :
    b.compact.getReadableData = b.getReadableData := by
  have hb' := hb.compact
  unfold getReadableData
  rw [getReadableSize_eq hb, getReadableSize_eq hb']
  unfold compact
  obtain ⟨hread, hwrite, -⟩ := hb
  split
  · rfl
  · refine List.take_left' ?_
    dsimp only
    rw [List.length_take, List.length_drop]
    omega

/-- Every operation is one of a queue on what is readable. -/
theorem queueStep_fifo (hb : b.Ordered) (o : QueueOp) :
    b.getReadableData ++ b.written o = b.taken o ++ (b.queueStep o).getReadableData := by
  cases o with
  | write buf memory =>
    unfold written taken queueStep
    dsimp only
    cases h : b.write buf memory with
    | none => simp
    | some b' => simp [getReadableData_write hb h]
  | read size => rw [written, List.append_nil, taken, queueStep, ← getReadableData_read hb]
  | consume n =>
    rw [written, List.append_nil, taken, queueStep, getReadableData_consume hb,
      List.take_append_drop]
  | compact =>
    rw [written, List.append_nil, taken, queueStep, getReadableData_compact hb, List.nil_append]

/-- `WBuffer(Size)`. -/
def ofSize (size : Fin (maxSize + 1)) : Buffer := { data := List.replicate size 0 }

theorem ordered_ofSize (size : Fin (maxSize + 1)) : (ofSize size).Ordered :=
  ⟨Nat.le_refl _, Nat.zero_le _, by
    rw [ofSize, List.length_replicate]
    exact Nat.le_of_lt_succ size.isLt⟩

theorem getReadableData_ofSize (size : Fin (maxSize + 1)) : (ofSize size).getReadableData = [] := by
  rw [getReadableData, getReadableSize_eq (ordered_ofSize size)]
  rfl

/-- **A buffer is a queue of bytes.** Over all its operations the positions stay in order and inside
the vector. Over writes, reads, consumes and compactions what is taken, followed by what is
readable, is what was written. -/
theorem buffer_fifo (size : Fin (maxSize + 1)) :
    (∀ ops : List Op,
      Lib.Always step (fun b => b.readPos ≤ b.writePos ∧ b.writePos ≤ b.data.length)
        (ofSize size) ops) ∧
    ∀ ops : List QueueOp,
      Lib.collect queueStep taken (ofSize size) ops ++
        (Lib.run queueStep (ofSize size) ops).getReadableData =
      Lib.collect queueStep written (ofSize size) ops := by
  constructor
  · intro ops
    refine Lib.always_of_step (I := Ordered) ?_ (fun b o hb => hb.step o) ops (ordered_ofSize size)
    exact fun b hb => ⟨hb.readPos_le, hb.writePos_le⟩
  · intro ops
    have hkeep (b : Buffer) (o : QueueOp) (hb : b.Ordered) := hb.queueStep o
    have hstep (b : Buffer) (o : QueueOp) (hb : b.Ordered) := queueStep_fifo hb o
    have hrun := Lib.collect_fifo hkeep hstep ops (ordered_ofSize size)
    rw [getReadableData_ofSize, List.nil_append] at hrun
    exact hrun.symm

end Buffer

end Waechter
