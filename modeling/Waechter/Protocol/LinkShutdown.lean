import Waechter.Lib.Run
import Waechter.Util.IPLinkMsg

/-!
# The end of the helper process

The three threads of `waechter-iplink` (`Net/IPLinkProc/IPLinkProc.cpp`): the listener pushes the
messages into `WMsgQueue`, the worker pops and executes them, and the main loop waits for the end.
Stopping is told by two flags: `Handler.bStop` is read between two messages and by the main loop,
`Queue.bStop` wakes the worker.

A step is one of the actions the threads may interleave at. Whether a waiting thread is woken is
left open, it just does not step.

* `complete_iff`: a run that gets to `Cleanup` executed every limit that came before the end exactly
  when no limit was queued at the end, but for the one the worker was about to pop.
-/

namespace Waechter

open Lib

namespace IPLinkProc

/-- Where the worker is. -/
inductive Worker where
  /-- At the condition of its loop. -/
  | check
  /-- In `Pop`. -/
  | pop
  | process (msg : IPLinkMsg)
  /-- The answer to `msg` could not be sent: `Handler.bStop` is set, `Queue.Stop` comes next. -/
  | closed (msg : IPLinkMsg)
  | done
  deriving DecidableEq

/-- Where the main loop is. -/
inductive Main where
  | wait
  /-- `Queue.Stop` was called, the worker is joined. -/
  | join
  /-- After `Cleanup`. -/
  | done
  deriving DecidableEq

/-- The state of the process. -/
structure State where
  /-- `Handler.bStop`. -/
  handlerStop : Bool := false
  /-- `Queue.bStop`. -/
  queueStop : Bool := false
  queue : List IPLinkMsg := []
  /-- The listener set `Handler.bStop`, and calls `Queue.Stop` next. -/
  stopping : Bool := false
  worker : Worker := .check
  main : Main := .wait
  /-- What came before the end, and what was executed. -/
  received : List IPLinkMsg := []
  executed : List IPLinkMsg := []

/-- An action of a thread. -/
inductive Op where
  /-- `OnDataReceived`. -/
  | receive (msg : IPLinkMsg)
  /-- `OnClosed`. -/
  | closed
  /-- `Queue.Stop` of the listener. -/
  | stopQueue
  | worker
  /-- The worker closes the socket, its answer to a lookup cannot be sent. -/
  | sendFails
  | main

namespace State

/-- The listener raises `Handler.bStop`. -/
def raise (s : State) : State := { s with handlerStop := true, stopping := true }

/-- `OnDataReceived`. -/
def receive (s : State) : IPLinkMsg → State
  | .exit => s.raise
  | msg => { s with
      queue := s.queue ++ [msg]
      received := if s.handlerStop then s.received else s.received ++ [msg] }

/-- `WorkerThreadMain` with `Pop` and `ProcessMessage`. -/
def stepWorker (s : State) : State :=
  match s.worker with
  | .check => { s with worker := if s.handlerStop then .done else .pop }
  | .pop =>
    match s.queue with
    | msg :: queue => { s with queue := queue, worker := .process msg }
    | [] => if s.queueStop then { s with worker := .done } else s
  | .process msg => { s with executed := s.executed ++ [msg], worker := .check }
  | .closed msg =>
    { s with executed := s.executed ++ [msg], queueStop := true, worker := .check }
  | .done => s

/-- `SendMessage` of the worker fails, `OnClosed` is emitted on its thread. -/
def sendFails (s : State) : State :=
  match s.worker with
  | .process (.lookupEndpoints endpoints) =>
    { s with handlerStop := true, worker := .closed (.lookupEndpoints endpoints) }
  | _ => s

/-- The end of `main`. -/
def stepMain (s : State) : State :=
  match s.main with
  | .wait => if s.handlerStop then { s with queueStop := true, main := .join } else s
  | .join => if s.worker = .done then { s with main := .done } else s
  | .done => s

/-- The listener handles one thing after the other. -/
def step (s : State) : Op → State
  | .receive msg => if s.stopping then s else s.receive msg
  | .closed => if s.stopping then s else s.raise
  | .stopQueue => if s.stopping then { s with queueStop := true, stopping := false } else s
  | .worker => s.stepWorker
  | .sendFails => s.sendFails
  | .main => s.stepMain

/-- The messages that change the traffic control. -/
def htb (msgs : List IPLinkMsg) : List IPLinkMsg := msgs.filter (·.isHtb)

/-- Everything that came before the end was executed, in order. -/
def Complete (s : State) : Prop := htb s.received <+: htb s.executed

/-- What the worker does not get to when `Handler.bStop` is raised. -/
def leftBehind (s : State) : List IPLinkMsg :=
  if s.worker = .pop then s.queue.tail else s.queue

/-- The step raises `Handler.bStop`. -/
def Raises (s : State) (o : Op) : Prop :=
  s.handlerStop = false ∧ (s.step o).handlerStop = true

/-- When `Handler.bStop` is raised no limit is queued, except for the message the worker is about to
pop. -/
def Respects (s : State) (o : Op) : Prop :=
  s.Raises o → htb s.leftBehind = []

instance (s : State) (o : Op) : Decidable (s.Raises o) := inferInstanceAs (Decidable (_ ∧ _))

instance (s : State) (o : Op) : Decidable (s.Respects o) := inferInstanceAs (Decidable (_ → _))

instance (s : State) : Decidable s.Complete :=
  inferInstanceAs (Decidable (htb s.received <+: htb s.executed))

/-! ### Before the end -/

/-- The message the worker executes. -/
def current (s : State) : List IPLinkMsg :=
  match s.worker with
  | .process msg | .closed msg => [msg]
  | .check | .pop | .done => []

/-- Before `Handler.bStop` is raised nothing is lost. -/
structure Running (s : State) : Prop where
  going : s.handlerStop = false
  awake : s.queueStop = false
  listening : s.stopping = false
  waiting : s.main = .wait
  working : s.worker ≠ .done
  sending : ∀ msg, s.worker ≠ .closed msg
  kept : s.received = s.executed ++ s.current ++ s.queue

theorem Running.init : Running {} :=
  ⟨rfl, rfl, rfl, rfl, Worker.noConfusion, fun _ => Worker.noConfusion, rfl⟩

/-- A message that is not `Exit` is queued. -/
theorem receive_running {s : State} (h : s.Running) {msg : IPLinkMsg} (hmsg : msg ≠ .exit) :
    (s.receive msg).Running := by
  have hout : s.receive msg =
      { s with queue := s.queue ++ [msg], received := s.received ++ [msg] } := by
    cases msg with
    | exit => exact absurd rfl hmsg
    | _ => simp only [receive, h.going, Bool.false_eq_true, if_false]
  rw [hout]
  refine ⟨h.going, h.awake, h.listening, h.waiting, h.working, h.sending, ?_⟩
  simp only [h.kept, current, List.append_assoc]

theorem stepWorker_running {s : State} (h : s.Running) : s.stepWorker.Running := by
  have hkept := h.kept
  unfold stepWorker
  cases hworker : s.worker with
  | check =>
    simp only [h.going, Bool.false_eq_true, if_false]
    refine ⟨rfl, h.awake, h.listening, h.waiting, Worker.noConfusion,
      fun _ => Worker.noConfusion, ?_⟩
    simpa only [current, hworker] using hkept
  | pop =>
    cases hqueue : s.queue with
    | nil =>
      simp only [h.awake, Bool.false_eq_true, if_false]
      exact h
    | cons msg queue =>
      refine ⟨h.going, h.awake, h.listening, h.waiting, Worker.noConfusion,
        fun _ => Worker.noConfusion, ?_⟩
      simpa only [current, hworker, hqueue, List.append_assoc, List.nil_append,
        List.singleton_append] using hkept
  | process msg =>
    refine ⟨h.going, h.awake, h.listening, h.waiting, Worker.noConfusion,
        fun _ => Worker.noConfusion, ?_⟩
    simpa only [current, hworker, List.append_nil] using hkept
  | closed msg => exact absurd hworker (h.sending msg)
  | done => exact absurd hworker h.working

/-- A step that does not raise the end loses nothing. -/
theorem running_step {s : State} {o : Op} (h : s.Running) (hno : ¬ s.Raises o) :
    (s.step o).Running := by
  have hstop : (s.step o).handlerStop = false := by
    simpa only [Raises, h.going, true_and, Bool.not_eq_true] using hno
  cases o with
  | receive msg =>
    simp only [step, h.listening, Bool.false_eq_true, if_false] at hstop ⊢
    refine receive_running h fun hmsg => ?_
    subst hmsg
    exact Bool.noConfusion hstop
  | closed =>
    simp only [step, h.listening, Bool.false_eq_true, if_false] at hstop
    exact Bool.noConfusion hstop
  | stopQueue =>
    simp only [step, h.listening, Bool.false_eq_true, if_false]
    exact h
  | worker => exact stepWorker_running h
  | sendFails =>
    simp only [step, sendFails] at hstop ⊢
    split at hstop
    · exact Bool.noConfusion hstop
    · exact h
  | main =>
    simp only [step, stepMain, h.waiting, h.going, Bool.false_eq_true, if_false]
    exact h

/-! ### After the end -/

/-- What the worker has got to, or gets to after `Handler.bStop` is raised. -/
def reached (s : State) : List IPLinkMsg :=
  s.executed ++ s.current ++ if s.worker = .pop then s.queue.take 1 else []

/-- The end was raised, `main` waits for the worker. -/
structure Ending (s : State) : Prop where
  raised : s.handlerStop = true
  joined : s.main = .done → s.worker = .done

/-- Everything is reached. -/
structure Finishing (s : State) : Prop extends Ending s where
  reaches : htb s.received <+: htb s.reached

/-- Something is lost. -/
structure Losing (s : State) : Prop extends Ending s where
  loses : (htb s.reached).length < (htb s.received).length
  popping : s.worker = .pop → s.queue ≠ []

@[simp] theorem htb_append (msgs msgs' : List IPLinkMsg) :
    htb (msgs ++ msgs') = htb msgs ++ htb msgs' := List.filter_append ..

theorem reached_append_leftBehind (s : State) :
    s.reached ++ s.leftBehind = s.executed ++ s.current ++ s.queue := by
  simp only [reached, leftBehind]
  split
  · simp only [List.append_assoc, List.take_one, List.append_cancel_left_eq]
    cases s.queue <;> rfl
  · simp only [List.append_nil]

/-- The step that raises the end neither receives, queues nor executes a message. -/
theorem raise_eq {s : State} {o : Op} (h : s.Running) (hraise : s.Raises o) :
    (s.step o).received = s.received ∧ (s.step o).reached = s.reached ∧
      ((s.step o).worker = .pop ↔ s.worker = .pop) ∧ (s.step o).queue = s.queue ∧
      (s.step o).main = .wait := by
  have hstop := hraise.2
  cases o with
  | receive msg =>
    simp only [step, h.listening, Bool.false_eq_true, if_false] at hstop ⊢
    by_cases hmsg : msg = .exit
    · subst hmsg
      exact ⟨rfl, rfl, Iff.rfl, rfl, h.waiting⟩
    · exact absurd hstop (by rw [(receive_running h hmsg).going]; exact Bool.false_ne_true)
  | closed =>
    simp only [step, h.listening, Bool.false_eq_true, if_false]
    exact ⟨rfl, rfl, Iff.rfl, rfl, h.waiting⟩
  | stopQueue =>
    simp only [step, h.listening, Bool.false_eq_true, if_false, h.going] at hstop
  | worker =>
    exact absurd hstop (by rw [step, (stepWorker_running h).going]; exact Bool.false_ne_true)
  | sendFails =>
    simp only [step, sendFails] at hstop ⊢
    split at hstop
    · rename_i hworker
      simp only [hworker, reached, current, reduceCtorEq, h.waiting, and_self]
    · exact absurd hstop (by rw [h.going]; exact Bool.false_ne_true)
  | main =>
    simp only [step, stepMain, h.waiting, h.going, Bool.false_eq_true, if_false] at hstop

/-- After the end nothing more counts as received. -/
theorem Ending.received_step {s : State} (h : s.Ending) (o : Op) :
    (s.step o).received = s.received := by
  cases o with
  | receive msg =>
    simp only [State.step]
    split
    · rfl
    · cases msg <;> simp only [receive, raise, h.raised, if_true]
  | closed | stopQueue =>
    simp only [State.step]
    split <;> rfl
  | worker =>
    simp only [State.step, stepWorker]
    split <;> (try split) <;> (try split) <;> rfl
  | sendFails =>
    simp only [State.step, sendFails]
    split <;> rfl
  | main =>
    simp only [State.step, stepMain]
    split <;> (try split) <;> rfl

theorem Ending.step {s : State} (h : s.Ending) (o : Op) : (s.step o).Ending := by
  cases o with
  | receive msg =>
    simp only [State.step]
    split
    · exact h
    · cases msg with
      | exit => exact ⟨rfl, h.joined⟩
      | _ => exact ⟨h.raised, h.joined⟩
  | closed =>
    simp only [State.step]
    split
    · exact h
    · exact ⟨rfl, h.joined⟩
  | stopQueue =>
    simp only [State.step]
    split
    · exact ⟨h.raised, h.joined⟩
    · exact h
  | worker =>
    have hdone : s.main = .done → s.stepWorker = s := fun hmain => by
      simp only [stepWorker, h.joined hmain]
    have hsame : s.stepWorker.handlerStop = s.handlerStop ∧ s.stepWorker.main = s.main := by
      unfold stepWorker
      split <;> (try split) <;> (try split) <;> exact ⟨rfl, rfl⟩
    refine ⟨hsame.1.trans h.raised, fun hmain => ?_⟩
    have hmain' : s.main = .done := hsame.2.symm.trans hmain
    simp only [State.step, hdone hmain', h.joined hmain']
  | sendFails =>
    simp only [State.step, sendFails]
    split
    · rename_i hworker
      refine ⟨rfl, fun hmain => ?_⟩
      exact absurd (hworker.symm.trans (h.joined hmain)) Worker.noConfusion
    · exact h
  | main =>
    simp only [State.step, stepMain]
    cases hmain : s.main with
    | wait => simpa only [h.raised, if_true] using ⟨rfl, Main.noConfusion⟩
    | join =>
      by_cases hworker : s.worker = .done
      · simpa only [hworker, if_true] using ⟨h.raised, fun _ => rfl⟩
      · simpa only [hworker, if_false] using h
    | done => exact h

/-- After the end a step of the worker is on the way to what it gets to anyway. -/
theorem Ending.reached_stepWorker {s : State} (h : s.Ending) :
    s.stepWorker.reached = s.reached ∧
      (s.stepWorker.worker = .pop → s.worker = .pop ∧ s.stepWorker.queue = s.queue) := by
  unfold stepWorker
  split
  · rename_i hworker
    simp only [h.raised, if_true, reached, current, hworker, reduceCtorEq, if_false, false_implies,
      and_self]
  · rename_i hworker
    split
    · rename_i hqueue
      simp only [reached, current, hworker, hqueue, reduceCtorEq, if_true, if_false, List.append_nil,
        List.take_succ_cons, List.take_zero, false_implies, and_self]
    · rename_i hqueue
      split
      · simp only [reached, current, hworker, hqueue, reduceCtorEq, if_true, if_false,
          List.take_nil, false_implies, and_self]
      · exact ⟨rfl, fun hpop => ⟨hpop, rfl⟩⟩
  all_goals
    rename_i hworker
    simp only [reached, current, hworker, reduceCtorEq, if_false, List.append_nil, false_implies,
      and_self]

/-- After the end the worker only gets to a message that comes into an empty queue while it waits in
`Pop`. -/
theorem Ending.reached_step {s : State} (h : s.Ending) (o : Op) :
    ∃ more, (s.step o).reached = s.reached ++ more ∧
      ((s.worker = .pop → s.queue ≠ []) →
        more = [] ∧ ((s.step o).worker = .pop → (s.step o).queue ≠ [])) := by
  have hsame (s' : State) (hreached : s'.reached = s.reached)
      (hpop : s'.worker = .pop → s.worker = .pop ∧ s'.queue = s.queue) :
      ∃ more, s'.reached = s.reached ++ more ∧
        ((s.worker = .pop → s.queue ≠ []) → more = [] ∧ (s'.worker = .pop → s'.queue ≠ [])) :=
    ⟨[], by rw [hreached, List.append_nil], fun hpopping =>
      ⟨rfl, fun hworker => (hpop hworker).2 ▸ hpopping (hpop hworker).1⟩⟩
  have hpush (msg : IPLinkMsg) (s' : State) (hworker : s'.worker = s.worker)
      (hexecuted : s'.executed = s.executed) (hqueue : s'.queue = s.queue ++ [msg]) :
      ∃ more, s'.reached = s.reached ++ more ∧
        ((s.worker = .pop → s.queue ≠ []) → more = [] ∧ (s'.worker = .pop → s'.queue ≠ [])) := by
    have hnext : s'.worker = .pop → s'.queue ≠ [] := fun _ => by
      rw [hqueue]
      exact List.append_ne_nil_of_right_ne_nil _ (List.cons_ne_nil _ _)
    have hcurrent : s'.current = s.current := by simp only [current, hworker]
    simp only [reached, hexecuted, hcurrent, hworker, hqueue]
    by_cases hpop : s.worker = .pop
    · cases hempty : s.queue with
      | nil =>
        exact ⟨[msg], by simp only [hpop, if_true, List.nil_append, List.take_nil,
          List.append_nil]; rfl, fun hpopping => absurd rfl (hpopping hpop)⟩
      | cons first rest =>
        refine ⟨[], ?_, fun _ => ⟨rfl, fun _ => List.cons_ne_nil _ _⟩⟩
        simp only [hpop, if_true, List.cons_append, List.take_succ_cons, List.take_zero,
          List.append_nil]
    · refine ⟨[], ?_, fun _ => ⟨rfl, fun hworker' => absurd hworker' hpop⟩⟩
      simp only [hpop, if_false, List.append_nil]
  cases o with
  | receive msg =>
    simp only [State.step]
    split
    · exact hsame s rfl fun hpop => ⟨hpop, rfl⟩
    · cases msg with
      | exit => exact hsame s.raise rfl fun hpop => ⟨hpop, rfl⟩
      | setupHtbClass | removeHtbClass | lookupEndpoints => exact hpush _ _ rfl rfl rfl
  | closed | stopQueue =>
    simp only [State.step]
    split <;> exact hsame _ rfl fun hpop => ⟨hpop, rfl⟩
  | worker => exact hsame _ h.reached_stepWorker.1 h.reached_stepWorker.2
  | sendFails =>
    simp only [State.step, sendFails]
    split
    · rename_i hworker
      refine hsame _ ?_ fun hpop => Worker.noConfusion hpop
      simp only [reached, current, hworker, reduceCtorEq, if_false]
    · exact hsame s rfl fun hpop => ⟨hpop, rfl⟩
  | main =>
    simp only [State.step, stepMain]
    split <;> (try split) <;> exact hsame _ rfl fun hpop => ⟨hpop, rfl⟩

theorem Finishing.step {s : State} (h : s.Finishing) (o : Op) : (s.step o).Finishing := by
  obtain ⟨more, hreached, -⟩ := h.reached_step o
  refine ⟨h.toEnding.step o, ?_⟩
  rw [h.received_step, hreached, htb_append]
  exact h.reaches.trans (List.prefix_append ..)

theorem Losing.step {s : State} (h : s.Losing) (o : Op) : (s.step o).Losing := by
  obtain ⟨more, hreached, hmore⟩ := h.reached_step o
  obtain ⟨rfl, hpopping⟩ := hmore h.popping
  refine ⟨h.toEnding.step o, ?_, hpopping⟩
  rw [h.received_step, hreached, List.append_nil]
  exact h.loses

/-- The end is raised once. -/
theorem Ending.respects {s : State} (h : s.Ending) (o : Op) : s.Respects o :=
  fun hraise => absurd (hraise.1.symm.trans h.raised) Bool.noConfusion

/-- The worker of a joined thread has executed all it gets to. -/
theorem Ending.reached_of_done {s : State} (h : s.Ending) (hdone : s.main = .done) :
    s.reached = s.executed := by
  simp only [reached, current, h.joined hdone, reduceCtorEq, if_false, List.append_nil]

theorem Finishing.complete {s : State} (h : s.Finishing) (hdone : s.main = .done) :
    s.Complete := by
  have hreaches := h.reaches
  rwa [h.reached_of_done hdone] at hreaches

theorem Losing.not_complete {s : State} (h : s.Losing) (hdone : s.main = .done) :
    ¬ s.Complete := fun hcomplete => by
  have hloses := h.loses
  rw [h.reached_of_done hdone] at hloses
  exact absurd hcomplete.length_le (Nat.not_le.mpr hloses)

/-- A run out of a state before the end. -/
theorem Running.completes_iff : ∀ (ops : List Op) {s : State}, s.Running →
    (run step s ops).main = .done →
    ((run step s ops).Complete ↔ AllSteps step Respects s ops)
  | [], s, h, hdone => absurd (h.waiting.symm.trans hdone) Main.noConfusion
  | o :: ops, s, h, hdone => by
    by_cases hraise : s.Raises o
    · obtain ⟨hreceived, hreached, hworker, hqueue, hwait⟩ := raise_eq h hraise
      have hending : (s.step o).Ending :=
        ⟨hraise.2, fun hmain => absurd (hwait.symm.trans hmain) Main.noConfusion⟩
      have hkept : (s.step o).received = (s.step o).reached ++ s.leftBehind := by
        rw [hreceived, hreached, reached_append_leftBehind, h.kept]
      have hrest : AllSteps step Respects (s.step o) ops :=
        allSteps_of_step (fun s o h => ⟨h.respects o, h.step o⟩) ops hending
      by_cases hleft : htb s.leftBehind = []
      · have hsame : htb (s.step o).received = htb (s.step o).reached := by
          rw [hkept, htb_append, hleft, List.append_nil]
        have hfinishing : (s.step o).Finishing := ⟨hending, hsame ▸ List.prefix_rfl⟩
        exact iff_of_true ((run_of_step (fun s o h => h.step o) ops hfinishing).complete hdone)
          ⟨fun _ => hleft, hrest⟩
      · have hlosing : (s.step o).Losing := by
          refine ⟨hending, ?_, ?_⟩
          · rw [hkept, htb_append, List.length_append]
            exact Nat.lt_add_of_pos_right (List.length_pos_iff.mpr hleft)
          · rw [hworker, hqueue]
            intro hpop hempty
            exact hleft (by rw [leftBehind, if_pos hpop, hempty]; rfl)
        exact iff_of_false
          ((run_of_step (fun s o h => h.step o) ops hlosing).not_complete hdone)
          fun hall => hleft (hall.1 hraise)
    · rw [run_cons] at hdone ⊢
      rw [completes_iff ops (running_step h hraise) hdone]
      exact ⟨fun hall => ⟨fun hraises => absurd hraises hraise, hall⟩, And.right⟩

/-- **What is executed before `Cleanup`.** Every limit that came before the end was executed, in
order, exactly when no limit but the next one of a worker in `Pop` was queued when `Handler.bStop`
was raised. -/
theorem complete_iff (ops : List Op) (hdone : (run step {} ops).main = .done) :
    (run step {} ops).Complete ↔ AllSteps step Respects {} ops :=
  Running.init.completes_iff ops hdone

/-- A limit of one connection. -/
def limitRun : List Op :=
  [.receive (.setupHtbClass ⟨"eth0", 1, 11, false, 1000⟩), .worker, .worker, .worker, .worker,
    .receive (.removeHtbClass ⟨"eth0", 1, 11, false⟩), .closed, .worker, .stopQueue, .worker,
    .worker, .main, .main]

theorem limitRun_complete_iff :
    (run step {} limitRun).Complete ↔ AllSteps step Respects {} limitRun :=
  complete_iff limitRun (by decide)

/-- The removal comes while the worker is between two messages. -/
def droppedRun : List Op :=
  [.receive (.setupHtbClass ⟨"eth0", 1, 11, false, 1000⟩), .worker, .worker, .worker,
    .receive (.removeHtbClass ⟨"eth0", 1, 11, false⟩), .closed, .stopQueue, .worker, .main, .main]

/-- The removal the daemon sends right before it closes is not executed: the worker sees
`Handler.bStop` first. -/
theorem removal_dropped :
    ¬ ∀ ops, (run step {} ops).main = .done → (run step {} ops).Complete := fun hall =>
  absurd (hall droppedRun (by decide +kernel)) (by decide +kernel)

end State

end IPLinkProc

end Waechter
