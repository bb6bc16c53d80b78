import Mathlib.Logic.Function.Basic
import Mathlib.Data.List.Basic

/-!
# Requests that wait in a table

A requester asks for the value of a key, and in the meantime keeps what waits for the answer in a
table under the key. The answers come in the order of the requests. `Waits table requests` says that
everything that was asked for is in the table.

* `waits_request_iff`: a request keeps it so exactly when nothing else waits for its key.
* `waits_answer_iff`: an answer keeps it so exactly when it is the only one for its key.
-/

namespace Lib

variable {K V : Type} [DecidableEq K]

/-- Put what waits under its key, one after the other. -/
def request (table : K → Option V) (requests : List (K × V)) : K → Option V :=
  requests.foldl (fun t l => Function.update t l.1 (some l.2)) table

/-- Everything that waits is in the table. -/
def Waits (table : K → Option V) (requests : List (K × V)) : Prop :=
  ∀ l ∈ requests, table l.1 = some l.2

variable {table : K → Option V} {requests new : List (K × V)}

@[simp] theorem request_nil (table : K → Option V) : request table [] = table := rfl

theorem request_append (table : K → Option V) (new new' : List (K × V)) :
    request table (new ++ new') = request (request table new) new' := List.foldl_append

/-- A key nothing new waits for keeps what is under it. -/
theorem request_of_not_mem {k : K} (hk : ∀ l ∈ new, l.1 ≠ k) : request table new k = table k := by
  induction new generalizing table with
  | nil => rfl
  | cons l new ih =>
    rw [List.forall_mem_cons] at hk
    exact (ih hk.2).trans (Function.update_of_ne hk.1.symm _ _)

/-- Another key gets something new. -/
theorem request_of_mem (table : K → Option V) {k : K} (hk : ∃ l ∈ new, l.1 = k) :
    ∃ l ∈ new, l.1 = k ∧ request table new k = some l.2 := by
  induction new generalizing table with
  | nil => exact absurd hk (by simp)
  | cons l new ih =>
    by_cases hlater : ∃ l' ∈ new, l'.1 = k
    · obtain ⟨l', hmem, hkey, hvalue⟩ := ih (Function.update table l.1 (some l.2)) hlater
      exact ⟨l', List.mem_cons_of_mem l hmem, hkey, hvalue⟩
    · have hfirst : l.1 = k := by
        obtain ⟨l', hmem, hkey⟩ := hk
        rcases List.mem_cons.mp hmem with rfl | hmem
        · exact hkey
        · exact absurd ⟨l', hmem, hkey⟩ hlater
      refine ⟨l, List.mem_cons_self, hfirst, ?_⟩
      have hkept : request (Function.update table l.1 (some l.2)) new k =
          Function.update table l.1 (some l.2) k :=
        request_of_not_mem fun l' hmem hkey => hlater ⟨l', hmem, hkey⟩
      refine hkept.trans ?_
      rw [hfirst]
      exact Function.update_self _ _ _

/-- **Requests keep everything waiting** exactly when two of them never wait for one key with
different values. -/
theorem waits_request_iff (hw : Waits table requests) :
    Waits (request table new) (requests ++ new) ↔
      ∀ l ∈ requests ++ new, ∀ l' ∈ new, l.1 = l'.1 → l.2 = l'.2 := by
  constructor
  · intro hall l hl l' hl' hkey
    have hl'' := hall l' (List.mem_append_right requests hl')
    rw [← hkey, hall l hl] at hl''
    exact Option.some.inj hl''
  · intro hone l hl
    by_cases hnew : ∃ l' ∈ new, l'.1 = l.1
    · obtain ⟨l', hmem, hkey, hvalue⟩ := request_of_mem table hnew
      rw [hvalue, hone l hl l' hmem hkey.symm]
    · rcases List.mem_append.mp hl with hold | hmem
      · rw [request_of_not_mem fun l' hmem hkey => hnew ⟨l', hmem, hkey⟩]
        exact hw l hold
      · exact absurd ⟨l, hmem, rfl⟩ hnew

/-- **The first answer keeps the rest waiting** exactly when nothing else waits for its key. -/
theorem waits_answer_iff {l : K × V} (hw : Waits table (l :: requests)) :
    Waits (Function.update table l.1 none) requests ↔ ∀ l' ∈ requests, l'.1 ≠ l.1 := by
  constructor
  · intro hrest l' hmem hkey
    have hl' := hrest l' hmem
    rw [hkey, Function.update_self] at hl'
    cases hl'
  · intro hother l' hmem
    rw [Function.update_of_ne (hother l' hmem)]
    exact hw l' (List.mem_cons_of_mem l hmem)

end Lib
