import Waechter.Lib.UMap

/-!
# Remembered answers

A map that remembers what a source answered, for a source that can be replaced while the map stays.
With every entry goes the source it was filled from, which only the proofs read.

* `Filled.get`: every entry is the answer of the source it was filled from, and stays so.
-/

namespace Lib

variable {K V S : Type} [DecidableEq K]

/-- A map of answers, and the sources they came from. -/
structure Memo (K V S : Type) [DecidableEq K] where
  entries : UMap K V := ∅
  filledFrom : UMap K S := ∅

namespace Memo

/-- Remember the answer of a source. -/
def fill (m : Memo K V S) (source : S) (k : K) (v : V) : Memo K V S where
  entries := m.entries.insert k v
  filledFrom := m.filledFrom.insert k source

variable (answer : S → K → V)

/-- What is remembered, or else the answer of the source, which is remembered then. -/
def get (m : Memo K V S) (source : S) (k : K) : Memo K V S × V :=
  match m.entries.lookup k with
  | some v => (m, v)
  | none => (m.fill source k (answer source k), answer source k)

/-- Every entry is the answer of the source it was filled from. -/
def Filled (m : Memo K V S) : Prop :=
  ∀ k, m.entries.lookup k = (m.filledFrom.lookup k).map (answer · k)

variable {answer} {m : Memo K V S}

theorem filled_empty : Filled answer ({} : Memo K V S) := fun _ => rfl

theorem Filled.fill (h : Filled answer m) (source : S) (k : K) :
    Filled answer (m.fill source k (answer source k)) := by
  intro q
  unfold Memo.fill
  dsimp only
  rw [UMap.lookup_insert_ite, UMap.lookup_insert_ite, h q]
  by_cases hq : q = k
  · rw [if_pos hq, if_pos hq, hq, Option.map_some]
  · rw [if_neg hq, if_neg hq]

theorem Filled.get (h : Filled answer m) (source : S) (k : K) :
    Filled answer (m.get answer source k).1 := by
  unfold Memo.get
  split
  · exact h
  · exact h.fill source k

end Memo

end Lib
