import Waechter.Daemon.TwoTrees
import Waechter.Lib.Sweep

/-!
# The loops of the cleanup

The loops of `WSystemMap::Cleanup` over `Processes` and `Sockets`, turn by turn with their iterator
and a clock that moves while they run. The turn of a process ends on the next entry. That of a
socket which is stale marks it and stays, and then the mark makes it due or leaves it in the branch
that moves on.

The clock is any sequence of readings; it need not even go forward.

* `cleanup_loops_end`: both loops end, and come to every entry that the map has when they start.
* `socketLoop_eq_foldl`, `processLoop_eq_foldl`: when the clock stands still, what they do is what
  the folds of `cleanup` do.
-/

namespace Waechter

open Lib

namespace TrafficCounter

variable {T : Type} [IsTrafficItem T]

@[simp] theorem isMarkedForRemoval_markForRemoval (now : Msec) (c : TrafficCounter T) :
    (c.markForRemoval now).isMarkedForRemoval = true := by
  unfold markForRemoval
  split
  · exact decide_eq_true ‹_›
  · rfl

/-- A counter that has just been marked is not due. -/
theorem not_due_markForRemoval {now : Msec} {c : TrafficCounter T}
    (h : c.isMarkedForRemoval = false) : (c.markForRemoval now).dueForRemoval now = false := by
  have hstate : c.state ≠ .pendingRemoval := of_decide_eq_false h
  rw [markForRemoval, if_neg hstate]
  refine decide_eq_false fun hdue => ?_
  have hlate : now + removalTimeWindow ≤ now := hdue.2
  exact absurd hlate (Int.not_le.mpr (Int.lt_add_of_pos_right now (by decide)))

end TrafficCounter

namespace SystemMap

variable {σ : Type} (h : Handler σ) (env : TickEnv) (clock : Nat → CounterId → Msec)

/-! ## The turns -/

/-- One turn of the loop over `Processes`. It reads the clock to mark the process, and then to see
whether it is due. The iterator moves on in either case. -/
def processTurn (k : Nat) (entry : ProcessId × Ref) (s : SystemMap σ) : Bool × SystemMap σ :=
  let p := entry.2
  let s := if !env.isProcessRunning entry.1 ∧ !(s.process p).isMarkedForRemoval then
      markItemForRemoval (s.process p).trafficItem.itemId
        (call h (.process p) (.markForRemoval (clock (2 * k) (.process p))) s)
    else s
  if (s.process p).dueForRemoval (clock (2 * k + 1) (.process p)) then
    (true, removeProcess h env entry.1 p s)
  else (true, s)

/-- One turn of the loop over `Sockets`. A stale socket is marked, and the iterator stays. -/
def socketTurn (k : Nat) (entry : SocketCookie × Ref) (s : SystemMap σ) : Bool × SystemMap σ :=
  let r := entry.2
  if (s.socket r).dueForRemoval (clock (2 * k) (.socket r)) then
    (true, removeSocket h env entry.1 r s)
  else if isStaleSocket env r s.toCounterTree then
    (false, call h (.socket r) (.markForRemoval (clock (2 * k + 1) (.socket r))) s)
  else
    (true, (env.order.entries (s.socket r).udpPerConnectionCounters).foldl
      (cleanupTuple h { env with cleanupTime := clock (2 * k + 1) } r) s)

/-- The loop over `Processes`, after so many turns. -/
def processLoop (n : Nat) (s : SystemMap σ) : Sweep (ProcessId × Ref) (SystemMap σ) :=
  Sweep.after (processTurn h env clock) n { rest := env.order.entries s.processes, state := s }

/-- The loop over `Sockets`, after so many turns. -/
def socketLoop (n : Nat) (s : SystemMap σ) : Sweep (SocketCookie × Ref) (SystemMap σ) :=
  Sweep.after (socketTurn h env clock) n { rest := env.order.entries s.sockets, state := s }

variable {h} {env} {clock}

theorem processTurn_fst (k : Nat) (entry : ProcessId × Ref) (s : SystemMap σ) :
    (processTurn h env clock k entry s).1 = true := by
  unfold processTurn
  dsimp only
  split <;> split <;> rfl

/-- The counter of a socket after its mark. -/
theorem socket_mark (r : Ref) (now : Msec) (s : SystemMap σ) :
    (call h (.socket r) (.markForRemoval now) s).socket r =
      { s.socket r with
        toTrafficCounter := (s.socket r).toTrafficCounter.markForRemoval now } := by
  show Function.update s.socket r _ r = _
  rw [Function.update_self]
  rfl

/-- A marked socket is not stale. -/
theorem isStaleSocket_of_marked {r : Ref} {t : CounterTree}
    (hmarked : (t.socket r).isMarkedForRemoval = true) : isStaleSocket env r t = false := by
  unfold isStaleSocket
  simp only [hmarked, true_or, if_true]

theorem isStaleSocket_mark (r : Ref) (now : Msec) (s : SystemMap σ) :
    isStaleSocket env r (call h (.socket r) (.markForRemoval now) s).toCounterTree = false := by
  refine isStaleSocket_of_marked ?_
  rw [socket_mark]
  exact TrafficCounter.isMarkedForRemoval_markForRemoval _ _

theorem dueForRemoval_mark {r : Ref} {s : SystemMap σ} (now : Msec)
    (hnot : (s.socket r).isMarkedForRemoval = false) :
    ((call h (.socket r) (.markForRemoval now) s).socket r).dueForRemoval now = false := by
  rw [socket_mark]
  exact TrafficCounter.not_due_markForRemoval hnot

/-- A turn that stays is that of a stale socket, and marks it. -/
theorem socketTurn_stays {k : Nat} {entry : SocketCookie × Ref} {s : SystemMap σ}
    (hstay : (socketTurn h env clock k entry s).1 = false) :
    (s.socket entry.2).dueForRemoval (clock (2 * k) (.socket entry.2)) = false ∧
      isStaleSocket env entry.2 s.toCounterTree = true ∧
      (socketTurn h env clock k entry s).2 =
        call h (.socket entry.2) (.markForRemoval (clock (2 * k + 1) (.socket entry.2))) s := by
  unfold socketTurn at hstay ⊢
  dsimp only at hstay ⊢
  split
  · rename_i hdue
    rw [if_pos hdue] at hstay
    cases hstay
  · rename_i hdue
    rw [if_neg hdue] at hstay
    split
    · exact ⟨eq_false_of_ne_true hdue, ‹_›, rfl⟩
    · rename_i hstale
      rw [if_neg hstale] at hstay
      cases hstay

theorem marked_socketTurn {k : Nat} {entry : SocketCookie × Ref} {s : SystemMap σ}
    (hstay : (socketTurn h env clock k entry s).1 = false) :
    ((socketTurn h env clock k entry s).2.socket entry.2).isMarkedForRemoval = true := by
  rw [(socketTurn_stays hstay).2.2, socket_mark]
  exact TrafficCounter.isMarkedForRemoval_markForRemoval _ _

/-- The turn of a marked socket moves on. -/
theorem socketTurn_of_marked {k : Nat} {entry : SocketCookie × Ref} {s : SystemMap σ}
    (hmarked : (s.socket entry.2).isMarkedForRemoval = true) :
    (socketTurn h env clock k entry s).1 = true := by
  unfold socketTurn
  dsimp only
  rw [isStaleSocket_of_marked hmarked]
  split <;> rfl

/-! ## The entries that are left -/

theorem socks_cleanupTuple (env : TickEnv) (r : Ref) (s : SystemMap σ) (entry : Endpoint × Ref) :
    (cleanupTuple h env r s entry).shape.socks = s.shape.socks := by
  rw [show entry = (entry.1, entry.2) from rfl, shape_cleanupTuple]
  split <;> rfl

theorem socks_removeSocket {c d : SocketCookie} (hd : d ≠ c) (env : TickEnv) (r : Ref)
    (s : SystemMap σ) : (removeSocket h env c r s).shape.socks d = s.shape.socks d := by
  rw [shape_removeSocket]
  exact Function.update_of_ne hd _ _

/-- A turn leaves the other sockets in the map, and its own unless it moves on. -/
theorem socks_socketTurn (k : Nat) (entry : SocketCookie × Ref) (s : SystemMap σ)
    {d : SocketCookie} (hd : d = entry.1 → (socketTurn h env clock k entry s).1 = false) :
    (socketTurn h env clock k entry s).2.shape.socks d = s.shape.socks d := by
  have hloop (env : TickEnv) (l : List (Endpoint × Ref)) (s : SystemMap σ) :
      (l.foldl (cleanupTuple h env entry.2) s).shape.socks = s.shape.socks := by
    induction l generalizing s with
    | nil => rfl
    | cons e l ih => rw [List.foldl_cons, ih, socks_cleanupTuple]
  unfold socketTurn at hd ⊢
  dsimp only at hd ⊢
  split
  · rename_i hdue
    rw [if_pos hdue] at hd
    exact socks_removeSocket (fun heq => Bool.noConfusion (hd heq)) env entry.2 s
  · split
    · rw [shape_call]
    · rw [hloop]

theorem procs_dropProcessSocket (env : TickEnv) (acc : List Endpoint × SystemMap σ)
    (entry : SocketCookie × Ref) :
    (dropProcessSocket h env acc entry).2.shape.procs = acc.2.shape.procs := by
  obtain ⟨c, r⟩ := entry
  cases hq : acc.2.shape.socks c with
  | none => rw [shape_dropProcessSocket_none env acc r hq]; rfl
  | some q =>
    rcases shape_dropProcessSocket (h := h) env acc (r := r) hq with heq | ⟨e, heq⟩
    · rw [heq]
      rfl
    · rw [heq]
      rfl

theorem procs_removeProcess {pid q : ProcessId} (hq : q ≠ pid) (env : TickEnv) (p : Ref)
    (s : SystemMap σ) : (removeProcess h env pid p s).shape.procs q = s.shape.procs q := by
  have hloop (l : List (SocketCookie × Ref)) (acc : List Endpoint × SystemMap σ) :
      (l.foldl (dropProcessSocket h env) acc).2.shape.procs = acc.2.shape.procs := by
    induction l generalizing acc with
    | nil => rfl
    | cons e l ih => rw [List.foldl_cons, ih, procs_dropProcessSocket]
  rw [shape_removeProcess]
  refine (Function.update_of_ne hq _ _).trans ?_
  show (droppedSockets h env p s).2.shape.procs q = _
  unfold droppedSockets
  rw [hloop]
  simp

theorem procs_processTurn (k : Nat) (entry : ProcessId × Ref) (s : SystemMap σ) {q : ProcessId}
    (hq : q ≠ entry.1) :
    (processTurn h env clock k entry s).2.shape.procs q = s.shape.procs q := by
  have hmark (s : SystemMap σ) (i : TrafficItemId) (now : Msec) :
      (markItemForRemoval i (call h (.process entry.2) (.markForRemoval now) s)).shape.procs q =
        s.shape.procs q := by simp
  unfold processTurn
  dsimp only
  split <;> split
  · exact (procs_removeProcess hq env _ _).trans (hmark _ _ _)
  · exact hmark _ _ _
  · exact procs_removeProcess hq env _ _
  · rfl

/-! ## The loops -/

/-- The processes that the loop has not left are in the map, under different PIDs. -/
def ProcessesLeft (rest : List (ProcessId × Ref)) (s : SystemMap σ) : Prop :=
  (rest.map (·.1)).Nodup ∧ ∀ e ∈ rest, s.processes.lookup e.1 = some e.2

/-- The sockets that the loop has not left are in the map, under different cookies. -/
def SocketsLeft (rest : List (SocketCookie × Ref)) (s : SystemMap σ) : Prop :=
  (rest.map (·.1)).Nodup ∧ ∀ e ∈ rest, s.sockets.lookup e.1 = some e.2

theorem ProcessesLeft.turn {k : Nat} {e : ProcessId × Ref} {rest : List (ProcessId × Ref)}
    {s : SystemMap σ} (hl : ProcessesLeft (e :: rest) s) :
    ProcessesLeft (if (processTurn h env clock k e s).1 then rest else e :: rest)
      (processTurn h env clock k e s).2 := by
  rw [processTurn_fst, if_pos rfl]
  obtain ⟨hnodup, hmem⟩ := hl
  rw [List.map_cons, List.nodup_cons] at hnodup
  refine ⟨hnodup.2, fun e' he' => ?_⟩
  have hne : e'.1 ≠ e.1 := fun heq => hnodup.1 (heq ▸ List.mem_map_of_mem he')
  exact (procs_processTurn k e s hne).trans (hmem e' (List.mem_cons_of_mem _ he'))

theorem SocketsLeft.turn {k : Nat} {e : SocketCookie × Ref} {rest : List (SocketCookie × Ref)}
    {s : SystemMap σ} (hl : SocketsLeft (e :: rest) s) :
    SocketsLeft (if (socketTurn h env clock k e s).1 then rest else e :: rest)
      (socketTurn h env clock k e s).2 := by
  obtain ⟨hnodup, hmem⟩ := hl
  cases hout : (socketTurn h env clock k e s).1 with
  | true =>
    rw [if_pos rfl]
    rw [List.map_cons, List.nodup_cons] at hnodup
    refine ⟨hnodup.2, fun e' he' => ?_⟩
    have hne : e'.1 ≠ e.1 := fun heq => hnodup.1 (heq ▸ List.mem_map_of_mem he')
    exact (socks_socketTurn k e s fun heq => absurd heq hne).trans
      (hmem e' (List.mem_cons_of_mem _ he'))
  | false =>
    rw [if_neg Bool.false_ne_true]
    exact ⟨hnodup, fun e' he' => (socks_socketTurn k e s fun _ => hout).trans (hmem e' he')⟩

theorem processesLeft_processLoop (n : Nat) (s : SystemMap σ) :
    ProcessesLeft (processLoop h env clock n s).rest (processLoop h env clock n s).state :=
  Sweep.after_of_turn (fun _ _ _ _ => ProcessesLeft.turn) n
    ⟨env.order.nodup_entries s.processes, fun e he => (env.order.mem_entries _ e.1 e.2).mp he⟩

theorem socketsLeft_socketLoop (n : Nat) (s : SystemMap σ) :
    SocketsLeft (socketLoop h env clock n s).rest (socketLoop h env clock n s).state :=
  Sweep.after_of_turn (fun _ _ _ _ => SocketsLeft.turn) n
    ⟨env.order.nodup_entries s.sockets, fun e he => (env.order.mem_entries _ e.1 e.2).mp he⟩

/-- **The loops of the cleanup end**, after at most two turns for each entry, and come to every entry
that the map has when they start, while it still has it. -/
theorem cleanup_loops_end (h : Handler σ) (env : TickEnv) (clock : Nat → CounterId → Msec)
    (s : SystemMap σ) :
    (∃ n ≤ 2 * s.processes.entries.length, (processLoop h env clock n s).rest = []) ∧
    (∀ pid p, s.processes.lookup pid = some p → ∃ n,
      (processLoop h env clock n s).rest.head? = some (pid, p) ∧
        (processLoop h env clock n s).state.processes.lookup pid = some p) ∧
    (∃ n ≤ 2 * s.sockets.entries.length, (socketLoop h env clock n s).rest = []) ∧
    ∀ cookie r, s.sockets.lookup cookie = some r → ∃ n,
      (socketLoop h env clock n s).rest.head? = some (cookie, r) ∧
        (socketLoop h env clock n s).state.sockets.lookup cookie = some r := by
  have hprocess (k : Nat) (e : ProcessId × Ref) (s : SystemMap σ)
      (hout : (processTurn h env clock k e s).1 = false) : False := by
    rw [processTurn_fst] at hout
    cases hout
  have hforward (k : Nat) (e : ProcessId × Ref) (s : SystemMap σ) (_ : False) :
      (processTurn h env clock k e s).1 = true := processTurn_fst k e s
  have hstay (k : Nat) (e : SocketCookie × Ref) (s : SystemMap σ)
      (hout : (socketTurn h env clock k e s).1 = false) := marked_socketTurn hout
  have hmove (k : Nat) (e : SocketCookie × Ref) (s : SystemMap σ)
      (hmarked : (s.socket e.2).isMarkedForRemoval = true) :
      (socketTurn h env clock k e s).1 = true := socketTurn_of_marked hmarked
  rw [← env.order.length_entries s.processes, ← env.order.length_entries s.sockets]
  refine ⟨?_, fun pid p hp => ?_, Sweep.exists_ends hstay hmove rfl, fun cookie r hr => ?_⟩
  · exact Sweep.exists_ends hprocess hforward rfl
  · obtain ⟨n, hn⟩ := Sweep.exists_visits (w := ⟨env.order.entries s.processes, 0, s⟩)
      hprocess hforward rfl (pid, p) ((env.order.mem_entries s.processes pid p).mpr hp)
    exact ⟨n, hn, (processesLeft_processLoop n s).2 _ (List.mem_of_mem_head? hn)⟩
  · obtain ⟨n, hn⟩ := Sweep.exists_visits (w := ⟨env.order.entries s.sockets, 0, s⟩)
      hstay hmove rfl (cookie, r) ((env.order.mem_entries s.sockets cookie r).mpr hr)
    exact ⟨n, hn, (socketsLeft_socketLoop n s).2 _ (List.mem_of_mem_head? hn)⟩

/-! ## A clock that stands still -/

/-- The loop over the processes is a fold. -/
theorem processLoop_eq_foldl (s : SystemMap σ) :
    ∃ n, (processLoop h env (fun _ => env.cleanupTime) n s).rest = [] ∧
      (processLoop h env (fun _ => env.cleanupTime) n s).state =
        (env.order.entries s.processes).foldl (cleanupProcess h env) s := by
  refine Sweep.exists_ends_eq_foldl (fun k e s _ => ?_) (fun k e s hout => ?_) rfl
  · unfold processTurn cleanupProcess
    dsimp only
    split <;> split <;> rfl
  · rw [processTurn_fst] at hout
    cases hout

/-- The loop over the sockets is a fold: a socket that was marked is not due at that moment. -/
theorem socketLoop_eq_foldl (s : SystemMap σ) :
    ∃ n, (socketLoop h env (fun _ => env.cleanupTime) n s).rest = [] ∧
      (socketLoop h env (fun _ => env.cleanupTime) n s).state =
        (env.order.entries s.sockets).foldl (cleanupSocket h env) s := by
  refine Sweep.exists_ends_eq_foldl (fun k e s hout => ?_) (fun k e s hout k' => ?_) rfl
  · unfold socketTurn at hout ⊢
    unfold cleanupSocket
    dsimp only at hout ⊢
    split
    · rfl
    · rename_i hdue
      rw [if_neg hdue] at hout
      split
      · rename_i hstale
        rw [if_pos hstale] at hout
        cases hout
      · rfl
  · obtain ⟨hdue, hstale, hstate⟩ := socketTurn_stays hout
    rw [hstate]
    have hnot : (s.socket e.2).isMarkedForRemoval = false := by
      by_contra hcontra
      rw [isStaleSocket_of_marked (eq_true_of_ne_false hcontra)] at hstale
      cases hstale
    have hfold : cleanupSocket h env s e =
        (env.order.entries ((call h (.socket e.2) (.markForRemoval (env.cleanupTime (.socket e.2)))
          s).socket e.2).udpPerConnectionCounters).foldl (cleanupTuple h env e.2)
            (call h (.socket e.2) (.markForRemoval (env.cleanupTime (.socket e.2))) s) := by
      unfold cleanupSocket
      dsimp only
      rw [if_neg (by rw [hdue]; exact Bool.false_ne_true), if_pos hstale]
    rw [hfold]
    unfold socketTurn
    dsimp only
    rw [if_neg (by rw [dueForRemoval_mark _ hnot]; exact Bool.false_ne_true),
      if_neg (by rw [isStaleSocket_mark]; exact Bool.false_ne_true)]

end SystemMap

end Waechter
