import Mathlib.Tactic.Ring

/-!
# Accounts that are settled now and then

Amounts are deposited into an account. At a tick the pending amount is read off, and the tick
either settles it (the pending amount moves to the settled total and the account is empty again)
or leaves it pending.

* `settled_add_pending`: nothing is lost, what was deposited is settled or pending.
* `settled_eq_deposited_iff`: everything is settled exactly when nothing was deposited since the
  last settling tick.
* `readOff_eq_due_iff`: the amounts read off add up to what was deposited up to the last tick
  exactly when every tick but the last settles or finds nothing pending.
-/

namespace Lib.Account

/-- What happens to an account. -/
inductive Entry where
  | deposit (amount : Nat)
  | tick (settles : Bool)
  deriving DecidableEq

/-- The sum of the deposits. -/
def deposited : List Entry → Nat
  | [] => 0
  | .deposit n :: es => n + deposited es
  | .tick _ :: es => deposited es

/-- The pending amount after the entries, from `p` pending. -/
def pending (p : Nat) : List Entry → Nat
  | [] => p
  | .deposit n :: es => pending (p + n) es
  | .tick settles :: es => pending (if settles then 0 else p) es

/-- The amount the entries settle, from `p` pending. -/
def settled (p : Nat) : List Entry → Nat
  | [] => 0
  | .deposit n :: es => settled (p + n) es
  | .tick settles :: es => (if settles then p else 0) + settled (if settles then 0 else p) es

/-- The deposits after the last settling tick; the amount `p` pending before the entries counts
when no tick settles. -/
def unsettled : List Entry → Nat
  | [] => 0
  | .deposit n :: es => (if es.any (· = .tick true) then 0 else n) + unsettled es
  | .tick _ :: es => unsettled es

theorem deposited_append : ∀ es fs : List Entry,
    deposited (es ++ fs) = deposited es + deposited fs
  | [], fs => by simp [deposited]
  | .deposit n :: es, fs => by simp [deposited, deposited_append es fs, Nat.add_assoc]
  | .tick b :: es, fs => by simp [deposited, deposited_append es fs]

theorem pending_append : ∀ (es fs : List Entry) (p : Nat),
    pending p (es ++ fs) = pending (pending p es) fs
  | [], _, _ => rfl
  | .deposit _ :: es, fs, _ => pending_append es fs _
  | .tick _ :: es, fs, _ => pending_append es fs _

theorem settled_append : ∀ (es fs : List Entry) (p : Nat),
    settled p (es ++ fs) = settled p es + settled (pending p es) fs
  | [], _, _ => by simp [settled, pending]
  | .deposit _ :: es, fs, _ => settled_append es fs _
  | .tick _ :: es, fs, _ => by
    simp only [List.cons_append, settled, pending, settled_append es fs, Nat.add_assoc]

/-- Nothing is lost. -/
theorem settled_add_pending : ∀ (es : List Entry) (p : Nat),
    settled p es + pending p es = p + deposited es
  | [], p => by simp [settled, pending, deposited]
  | .deposit n :: es, p => by
    simp only [settled, pending, deposited]
    rw [settled_add_pending es]
    omega
  | .tick true :: es, p => by
    simp only [settled, pending, deposited, if_true]
    have := settled_add_pending es 0
    omega
  | .tick false :: es, p => by
    have := settled_add_pending es p
    simpa [settled, pending, deposited] using this

/-- What is pending was deposited after the last settling tick. -/
theorem pending_eq : ∀ (es : List Entry) (p : Nat),
    pending p es = (if es.any (· = .tick true) then 0 else p) + unsettled es
  | [], p => by simp [pending, unsettled]
  | .deposit n :: es, p => by
    simp only [pending, unsettled]
    rw [pending_eq es]
    cases h : es.any (· = .tick true) <;> simp [h]
    omega
  | .tick true :: es, p => by
    simp only [pending, unsettled, if_true]
    rw [pending_eq es]
    simp
  | .tick false :: es, p => by
    have := pending_eq es p
    simpa [pending, unsettled] using this

/-- **Everything is settled exactly when nothing was deposited since the last settling tick.** -/
theorem settled_eq_deposited_iff (es : List Entry) :
    settled 0 es = deposited es ↔ unsettled es = 0 := by
  have h1 := settled_add_pending es 0
  have h2 := pending_eq es 0
  simp only [ite_self, Nat.zero_add] at h1 h2
  omega

/-! ## Reading off -/

/-- Some tick follows. -/
def hasTick (es : List Entry) : Bool :=
  es.any fun e => match e with
    | .tick _ => true
    | .deposit _ => false

/-- The sum of the amounts the ticks read off, from `p` pending. -/
def readOff (p : Nat) : List Entry → Nat
  | [] => 0
  | .deposit n :: es => readOff (p + n) es
  | .tick settles :: es => p + readOff (if settles then 0 else p) es

/-- The deposits up to the last tick. -/
def due : List Entry → Nat
  | [] => 0
  | .deposit n :: es => (if hasTick es then n else 0) + due es
  | .tick _ :: es => due es

/-- Every tick but the last settles or finds nothing pending. -/
def SettledInTime (p : Nat) : List Entry → Prop
  | [] => True
  | .deposit n :: es => SettledInTime (p + n) es
  | .tick settles :: es =>
    (hasTick es = true → settles = true ∨ p = 0) ∧ SettledInTime (if settles then 0 else p) es

theorem hasTick_cons_tick (b : Bool) (es : List Entry) : hasTick (.tick b :: es) = true := rfl

theorem hasTick_cons_deposit (n : Nat) (es : List Entry) :
    hasTick (.deposit n :: es) = hasTick es := rfl

theorem readOff_append : ∀ (es fs : List Entry) (p : Nat),
    readOff p (es ++ fs) = readOff p es + readOff (pending p es) fs
  | [], _, _ => by simp [readOff, pending]
  | .deposit _ :: es, fs, _ => readOff_append es fs _
  | .tick _ :: es, fs, _ => by
    simp only [List.cons_append, readOff, pending, readOff_append es fs, Nat.add_assoc]

/-- Without a tick nothing is due. -/
theorem due_of_not_hasTick : ∀ (es : List Entry), hasTick es = false → due es = 0
  | [], _ => rfl
  | .deposit n :: es, h => by
    rw [hasTick_cons_deposit] at h
    simp [due, h, due_of_not_hasTick es h]
  | .tick b :: es, h => by
    rw [hasTick_cons_tick] at h
    exact absurd h (by simp)

/-- Without a tick nothing is read off. -/
theorem readOff_of_not_hasTick : ∀ (es : List Entry) (p : Nat), hasTick es = false →
    readOff p es = 0
  | [], _, _ => rfl
  | .deposit n :: es, p, h => by
    rw [hasTick_cons_deposit] at h
    exact readOff_of_not_hasTick es (p + n) h
  | .tick b :: es, p, h => by
    rw [hasTick_cons_tick] at h
    exact absurd h (by simp)

/-- At least what is due is read off. -/
theorem due_le_readOff : ∀ (es : List Entry) (p : Nat), hasTick es = true →
    p + due es ≤ readOff p es
  | [], _, h => absurd h (by simp [hasTick])
  | .deposit n :: es, p, h => by
    rw [hasTick_cons_deposit] at h
    have := due_le_readOff es (p + n) h
    simp only [readOff, due, h, if_true]
    omega
  | .tick b :: es, p, _ => by
    simp only [readOff, due]
    cases ht : hasTick es with
    | false => simp [due_of_not_hasTick es ht]
    | true =>
      have := due_le_readOff es (if b then 0 else p) ht
      omega

/-- `readOff_eq_due_iff` from a pending amount. -/
theorem readOff_eq_iff : ∀ (es : List Entry) (p : Nat),
    readOff p es = (if hasTick es then p else 0) + due es ↔ SettledInTime p es
  | [], p => by simp [readOff, due, hasTick, SettledInTime]
  | .deposit n :: es, p => by
    simp only [readOff, due, SettledInTime, hasTick_cons_deposit]
    rw [← readOff_eq_iff es (p + n)]
    by_cases ht : hasTick es = true
    · simp only [ht, if_true, Nat.add_assoc]
    · simp only [ht, if_false, Nat.zero_add, Bool.false_eq_true]
  | .tick b :: es, p => by
    simp only [readOff, due, SettledInTime, hasTick_cons_tick, if_true]
    rw [← readOff_eq_iff es (if b then 0 else p)]
    cases ht : hasTick es with
    | false => simp [readOff_of_not_hasTick es _ ht, due_of_not_hasTick es ht]
    | true =>
      have := due_le_readOff es (if b then 0 else p) ht
      cases b with
      | true => simp
      | false =>
        simp only [Bool.false_eq_true, if_false, if_true, true_implies, false_or] at this ⊢
        omega

/-- **The amounts read off add up to what was due exactly when the ticks settle in time.** -/
theorem readOff_eq_due_iff (es : List Entry) : readOff 0 es = due es ↔ SettledInTime 0 es := by
  have h := readOff_eq_iff es 0
  simpa using h

end Lib.Account
