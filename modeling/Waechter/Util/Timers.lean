import Mathlib.Algebra.Order.Floor.Semiring
import Mathlib.Data.Rat.Floor
import Waechter.Lib.Binary64
import Waechter.Lib.Run
import Waechter.Lib.Throttle

/-!
# Timers

`WTimer` and `WTimerManager` (`Util/Time.hpp`, `Time.cpp`). The main loops of the daemon and of the
client call `UpdateTimers` with the time that has passed; each timer is called back at most once by
each of these calls. A callback runs under the lock of the manager, so it changes no timers. A
`double` is a rational number, and the sums and differences of the source are rounded to the nearest
one; no time is large enough for an infinity.

* `calls_steady`: how often a timer has been called back, after every run, up to the rounding.
* `calls_aligned`: how often a timer that is aligned to the wall clock has.
* `removed_forever`: a timer that was removed does not come back.
-/

namespace Waechter

open Lib Lib.Binary64

/-- `WTimer`, with the number of calls of `Callback`. -/
structure Timer where
  interval : Rat
  elapsedTime : Rat := 0
  id : Nat
  alignToWallClock : Bool := false
  nextWallClockFireTime : Int := 0
  calls : Nat := 0

namespace Timer

/-- `static_cast<int64_t>` of an interval. -/
def seconds (interval : Rat) : Int := if 0 ≤ interval then ⌊interval⌋ else ⌈interval⌉

/-- The constructor; `epochSeconds` is what the wall clock shows. -/
def new (interval : Rat) (id : Nat) (alignToWallClock : Bool) (epochSeconds : Int) : Timer :=
  { interval := interval
    id := id
    alignToWallClock := alignToWallClock
    nextWallClockFireTime :=
      if alignToWallClock then
        ((epochSeconds.tdiv (seconds interval)) + 1) * seconds interval
      else 0 }

/-- `Update`. -/
def update (epochSeconds : Int) (deltaTime : Rat) (t : Timer) : Bool × Timer :=
  if t.alignToWallClock then
    if t.nextWallClockFireTime ≤ epochSeconds then
      (true, { t with nextWallClockFireTime := t.nextWallClockFireTime + seconds t.interval })
    else (false, t)
  else
    let t := { t with elapsedTime := rounded (t.elapsedTime + deltaTime) }
    if t.interval ≤ t.elapsedTime then
      (true, { t with elapsedTime := rounded (t.elapsedTime - t.interval) })
    else (false, t)

/-- The body of the loop in `UpdateTimers`. -/
def fire (epochSeconds : Int) (deltaTime : Rat) (t : Timer) : Timer :=
  let (due, t) := t.update epochSeconds deltaTime
  if due then { t with calls := t.calls + 1 } else t

end Timer

/-- `WTimerManager`. -/
structure TimerManager where
  timers : List Timer := []
  lastUpdateTime : Rat := 0
  timerIdCounter : Nat := 0

namespace TimerManager

/-- A call; `epochSeconds` is what the wall clock shows meanwhile. -/
inductive Op where
  | addTimer (interval : Rat)
  | addAlignedTimer (interval : Rat) (epochSeconds : Int)
  | removeTimer (id : Nat)
  | updateTimers (currentTime : Rat) (epochSeconds : Int)
  deriving DecidableEq

/-- `AddTimer` and `AddAlignedTimer`. -/
def add (interval : Rat) (aligned : Bool) (epochSeconds : Int) (s : TimerManager) : TimerManager :=
  { s with
    timers := s.timers ++ [.new interval s.timerIdCounter aligned epochSeconds]
    timerIdCounter := s.timerIdCounter + 1 }

def step (s : TimerManager) : Op → TimerManager
  | .addTimer interval => s.add interval false 0
  | .addAlignedTimer interval epochSeconds => s.add interval true epochSeconds
  | .removeTimer id => { s with timers := s.timers.filter (·.id ≠ id) }
  | .updateTimers currentTime epochSeconds =>
    { s with
      timers := s.timers.map (·.fire epochSeconds (rounded (currentTime - s.lastUpdateTime)))
      lastUpdateTime := currentTime }

/-! ## One timer of many -/

/-- The times of the calls of `UpdateTimers`, and what the wall clock shows in them. -/
def updates : List Op → List (Rat × Int)
  | [] => []
  | .updateTimers currentTime epochSeconds :: ops => (currentTime, epochSeconds) :: updates ops
  | _ :: ops => updates ops

/-- A timer over some updates, the last one before them at that time. -/
def after : Rat → Timer → List (Rat × Int) → Timer
  | _, t, [] => t
  | last, t, (currentTime, epochSeconds) :: rest =>
    after currentTime (t.fire epochSeconds (rounded (currentTime - last))) rest

/-- The timers with an id. -/
def withId (id : Nat) (s : TimerManager) : List Timer := s.timers.filter (·.id = id)

@[simp] theorem id_fire (epochSeconds : Int) (deltaTime : Rat) (t : Timer) :
    (t.fire epochSeconds deltaTime).id = t.id := by
  simp only [Timer.fire, Timer.update]
  split <;> split <;> split <;> rfl

theorem withId_fire (epochSeconds : Int) (deltaTime : Rat) (id : Nat) (timers : List Timer) :
    (timers.map (·.fire epochSeconds deltaTime)).filter (·.id = id) =
      (timers.filter (·.id = id)).map (·.fire epochSeconds deltaTime) := by
  rw [List.filter_map]
  refine congrArg _ (List.filter_congr fun t _ => ?_)
  rw [Function.comp_apply, id_fire]

theorem withId_add {id : Nat} {s : TimerManager} (hid : id < s.timerIdCounter) (interval : Rat)
    (aligned : Bool) (epochSeconds : Int) :
    (s.add interval aligned epochSeconds).withId id = s.withId id := by
  have hne : s.timerIdCounter ≠ id := Nat.ne_of_gt hid
  rw [withId, add, List.filter_append, List.filter_singleton]
  simp only [Timer.new, hne, decide_false, cond_false, List.append_nil, withId]

theorem withId_remove {id j : Nat} (hne : j ≠ id) (timers : List Timer) :
    (timers.filter (·.id ≠ j)).filter (·.id = id) = timers.filter (·.id = id) := by
  rw [List.filter_filter]
  refine List.filter_congr fun t _ => ?_
  by_cases ht : t.id = id
  · rw [ht]
    simp [hne.symm]
  · simp [ht]

theorem withId_removed (id : Nat) (s : TimerManager) :
    (step s (.removeTimer id)).withId id = [] := by
  refine List.filter_eq_nil_iff.mpr fun t ht => ?_
  have hne := (List.mem_filter.mp ht).2
  rw [decide_eq_true_eq] at hne ⊢
  exact hne

theorem timerIdCounter_step {id : Nat} (s : TimerManager) (op : Op) (h : id < s.timerIdCounter) :
    id < (step s op).timerIdCounter := by
  cases op with
  | addTimer interval => exact Nat.lt_succ_of_lt h
  | addAlignedTimer interval epochSeconds => exact Nat.lt_succ_of_lt h
  | removeTimer j => exact h
  | updateTimers currentTime epochSeconds => exact h

/-- What a call does to the timers with an id that has been given out. -/
theorem withId_step {id : Nat} {s : TimerManager} (hid : id < s.timerIdCounter) {op : Op}
    (hop : op ≠ .removeTimer id) :
    (step s op).withId id = (s.withId id).map fun t => after s.lastUpdateTime t (updates [op]) := by
  cases op with
  | addTimer interval => exact (withId_add hid interval false 0).trans (List.map_id _).symm
  | addAlignedTimer interval epochSeconds =>
    exact (withId_add hid interval true epochSeconds).trans (List.map_id _).symm
  | removeTimer j =>
    have hne := withId_remove (fun heq => hop (congrArg Op.removeTimer heq)) s.timers
    exact hne.trans (List.map_id _).symm
  | updateTimers currentTime epochSeconds => exact withId_fire _ _ id s.timers

/-- **A timer sees the updates and nothing else**, until it is removed. -/
theorem withId_run {id : Nat} : ∀ (ops : List Op) {s : TimerManager} {t : Timer},
    s.withId id = [t] → id < s.timerIdCounter → Op.removeTimer id ∉ ops →
    (run step s ops).withId id = [after s.lastUpdateTime t (updates ops)]
  | [], _, _, ht, _, _ => ht
  | op :: ops, s, t, ht, hid, hops => by
    rw [List.mem_cons, not_or] at hops
    have hstep := withId_step hid (Ne.symm hops.1)
    rw [ht, List.map_singleton] at hstep
    have hrun := withId_run ops hstep (timerIdCounter_step s op hid) hops.2
    cases op <;> exact hrun

/-- No timer gets an id that has been given out. -/
theorem withId_run_nil {id : Nat} : ∀ (ops : List Op) {s : TimerManager}, s.withId id = [] →
    id < s.timerIdCounter → (run step s ops).withId id = []
  | [], _, hnone, _ => hnone
  | op :: ops, s, hnone, hid => by
    refine withId_run_nil ops ?_ (timerIdCounter_step s op hid)
    by_cases hop : op = .removeTimer id
    · rw [hop]
      exact withId_removed id s
    · rw [withId_step hid hop, hnone, List.map_nil]

/-- The ids of the timers have been given out. -/
def Issued (s : TimerManager) : Prop := ∀ t ∈ s.timers, t.id < s.timerIdCounter

theorem Issued.step (s : TimerManager) (op : Op) (h : Issued s) : Issued (step s op) := by
  have hadd (interval : Rat) (aligned : Bool) (epochSeconds : Int) :
      Issued (s.add interval aligned epochSeconds) := by
    intro t ht
    rcases List.mem_append.mp ht with ht | ht
    · exact Nat.lt_succ_of_lt (h t ht)
    · cases List.mem_singleton.mp ht
      exact Nat.lt_succ_self _
  cases op with
  | addTimer interval => exact hadd interval false 0
  | addAlignedTimer interval epochSeconds => exact hadd interval true epochSeconds
  | removeTimer j => exact fun t ht => h t (List.mem_of_mem_filter ht)
  | updateTimers currentTime epochSeconds =>
    intro t ht
    obtain ⟨u, hu, rfl⟩ := List.mem_map.mp ht
    rw [id_fire]
    exact h u hu

/-- The timer that is added is the only one with its id. -/
theorem withId_new {s : TimerManager} (h : Issued s) (interval : Rat) (aligned : Bool)
    (epochSeconds : Int) : (s.add interval aligned epochSeconds).withId s.timerIdCounter =
      [.new interval s.timerIdCounter aligned epochSeconds] := by
  have hnone : s.timers.filter (·.id = s.timerIdCounter) = [] := by
    refine List.filter_eq_nil_iff.mpr fun t ht => ?_
    rw [decide_eq_true_eq]
    exact Nat.ne_of_lt (h t ht)
  rw [withId, add, List.filter_append, hnone, List.nil_append, List.filter_singleton]
  simp only [Timer.new, decide_true, cond_true]

/-! ## How often a timer is called back -/

/-- The whole intervals that have passed. -/
def intervals (interval start : Rat) (u : Rat × Int) : Nat := ⌊(u.1 - start) / interval⌋₊

/-- The boundaries that the wall clock has passed. -/
def boundaries (seconds start : Int) (u : Rat × Int) : Nat := (u.2 / seconds - start).toNat

/-- What rounding puts on the elapsed time of a timer, at most, in one update of a run that lasts as
long as `span`. -/
def drift (span : Rat) : Rat := span / 2 ^ 49

/-- One rounding of a time of a run is a third of that. -/
theorem abs_rounded_le {span q : Rat} (hspan : 1 ≤ span) (hnonneg : 0 ≤ q) (hq : q ≤ 4 * span) :
    |rounded q - q| ≤ drift span / 3 := by
  have hround := abs_rounded_sub_le q
  have hunit : (1 : Rat) / 2 ^ 1075 ≤ 1 / 2 ^ 53 :=
    one_div_le_one_div_of_le (by positivity) (pow_le_pow_right₀ one_le_two (by decide))
  rw [abs_of_nonneg hnonneg] at hround
  generalize (1 : Rat) / 2 ^ 1075 = unit at hround hunit
  unfold drift
  norm_num at hround hunit ⊢
  linarith

/-- The elapsed time of a timer before an update is off by so much at most. -/
structure Off (interval start last off : Rat) (t : Timer) : Prop where
  align : t.alignToWallClock = false
  every : t.interval = interval
  nonneg : 0 ≤ t.elapsedTime
  off : |t.elapsedTime - (last - start - interval * t.calls)| ≤ off

/-- **One update** of a timer that is not aligned: it looks at a target that rounding has moved by
what the elapsed time was off and a drift. -/
theorem Off.fire {interval start span now last off : Rat} {t : Timer}
    (h : Off interval start last off t) (epochSeconds : Int) (hpos : 0 < interval) (hspan : 1 ≤ span)
    (hnow : last ≤ now) (hstart : start ≤ last) (hend : now ≤ start + span)
    (hsmall : off + drift span ≤ span) :
    let t' := t.fire epochSeconds (rounded (now - last))
    Off interval start now (off + drift span) t' ∧ ∃ target,
      t'.calls = advance t.calls target ∧
      ⌊(now - (start + (off + drift span))) / interval⌋₊ ≤ target ∧
      target ≤ ⌊(now - (start - (off + drift span))) / interval⌋₊ := by
  obtain ⟨halign, hinterval, hnonneg, hoff⟩ := h
  have hdrift : 0 ≤ drift span := div_nonneg (by linarith) (by positivity)
  have hcalls : 0 ≤ interval * t.calls := mul_nonneg hpos.le (Nat.cast_nonneg _)
  rw [abs_le] at hoff
  -- the two sums are off by a rounding each
  have hdelta := rounded_nonneg (sub_nonneg.mpr hnow)
  have hdelta' := abs_le.mp (abs_rounded_le hspan (sub_nonneg.mpr hnow) (by linarith))
  have hsum := rounded_nonneg (add_nonneg hnonneg hdelta)
  have hsum' := abs_le.mp (abs_rounded_le hspan (add_nonneg hnonneg hdelta) (by linarith))
  generalize hs : rounded (t.elapsedTime + rounded (now - last)) = sum at hsum hsum'
  have hdue : interval ≤ sum ↔ t.calls < ⌊(interval * t.calls + sum) / interval⌋₊ := by
    rw [Nat.lt_iff_add_one_le, Nat.le_floor_iff' (Nat.succ_ne_zero _), le_div_iff₀ hpos]
    push_cast
    constructor <;> intro h <;> linarith
  have htarget : ⌊(now - (start + (off + drift span))) / interval⌋₊ ≤
        ⌊(interval * t.calls + sum) / interval⌋₊ ∧
      ⌊(interval * t.calls + sum) / interval⌋₊ ≤
        ⌊(now - (start - (off + drift span))) / interval⌋₊ :=
    ⟨Nat.floor_mono (div_le_div_of_nonneg_right (by linarith) hpos.le),
      Nat.floor_mono (div_le_div_of_nonneg_right (by linarith) hpos.le)⟩
  by_cases hfire : interval ≤ sum
  · have hstep : t.fire epochSeconds (rounded (now - last)) =
        { t with elapsedTime := rounded (sum - interval), calls := t.calls + 1 } := by
      simp only [Timer.fire, Timer.update, halign, hinterval, hs, hfire, Bool.false_eq_true,
        if_false, if_true]
    have hrest := rounded_nonneg (sub_nonneg.mpr hfire)
    have hrest' := abs_le.mp (abs_rounded_le hspan (sub_nonneg.mpr hfire) (by linarith))
    rw [hstep]
    refine ⟨⟨halign, hinterval, hrest, abs_le.mpr ?_⟩, _, ?_, htarget⟩
    · push_cast
      constructor <;> linarith
    · rw [advance, if_pos (hdue.mp hfire)]
  · have hstep : t.fire epochSeconds (rounded (now - last)) = { t with elapsedTime := sum } := by
      simp only [Timer.fire, Timer.update, halign, hinterval, hs, hfire, Bool.false_eq_true,
        if_false]
    rw [hstep]
    refine ⟨⟨halign, hinterval, hsum, abs_le.mpr ?_⟩, _, ?_, htarget⟩
    · constructor <;> linarith
    · rw [advance, if_neg fun hlt => hfire (hdue.mpr hlt)]

/-- An aligned timer: its next boundary is behind those it was called back for. -/
theorem after_aligned {interval : Rat} (start : Int) (hpos : 0 < Timer.seconds interval) :
    ∀ (us : List (Rat × Int)) {last : Rat} {t : Timer}, t.alignToWallClock = true →
      t.interval = interval →
      t.nextWallClockFireTime = (start + 1 + t.calls) * Timer.seconds interval →
      (after last t us).calls =
        (us.map (boundaries (Timer.seconds interval) start)).foldl advance t.calls
  | [], _, _, _, _, _ => rfl
  | (now, epochSeconds) :: us, last, t, halign, hinterval, hnext => by
    have hdue : t.nextWallClockFireTime ≤ epochSeconds ↔
        t.calls < boundaries (Timer.seconds interval) start (now, epochSeconds) := by
      rw [hnext, ← Int.le_ediv_iff_mul_le hpos, boundaries]
      dsimp only
      omega
    rw [after, List.map_cons, List.foldl_cons, advance]
    by_cases hfire : t.nextWallClockFireTime ≤ epochSeconds
    · have hstep : t.fire epochSeconds (rounded (now - last)) =
          { t with
            nextWallClockFireTime := t.nextWallClockFireTime + Timer.seconds interval
            calls := t.calls + 1 } := by
        simp only [Timer.fire, Timer.update, halign, hinterval, hfire, if_true]
      rw [hstep, if_pos (hdue.mp hfire)]
      refine after_aligned start hpos us halign hinterval ?_
      rw [hnext]
      push_cast
      ring
    · have hstep : t.fire epochSeconds (rounded (now - last)) = t := by
        simp only [Timer.fire, Timer.update, halign, hfire, Bool.false_eq_true, if_false, if_true]
      rw [hstep, if_neg fun hlt => hfire (hdue.mpr hlt)]
      exact after_aligned start hpos us halign hinterval hnext

/-! ## Runs -/

variable {interval : Rat} (pre : List Op) {post : List Op}

/-- A timer that is added is the only one with its id, and sees the updates behind it. -/
theorem withId_added (op : Op) (aligned : Bool) (epochSeconds : Int)
    (hop : ∀ s, step s op = s.add interval aligned epochSeconds)
    (hkeep : .removeTimer (run step {} pre).timerIdCounter ∉ post) :
    (run step {} (pre ++ op :: post)).withId (run step {} pre).timerIdCounter =
      [after (run step {} pre).lastUpdateTime
        (.new interval (run step {} pre).timerIdCounter aligned epochSeconds) (updates post)] := by
  have hissued : Issued (run step {} pre) :=
    run_of_step Issued.step pre fun t ht => (nomatch ht)
  rw [run_append, run_cons, hop]
  exact withId_run post (withId_new hissued interval aligned epochSeconds) (Nat.lt_succ_self _) hkeep

theorem boundaries_mono {seconds : Int} (hpos : 0 < seconds) (start : Int) {u v : Rat × Int}
    (h : u.2 ≤ v.2) : boundaries seconds start u ≤ boundaries seconds start v :=
  Int.toNat_le_toNat (Int.sub_le_sub_right (Int.ediv_le_ediv hpos h) start)

/-- **An aligned timer** is called back for each boundary that the wall clock has passed, one in each
update at most. -/
theorem calls_aligned (hpos : 0 < Timer.seconds interval) {epochSeconds : Int}
    (hepoch : 0 ≤ epochSeconds) (hkeep : .removeTimer (run step {} pre).timerIdCounter ∉ post)
    (hclock : (updates post).Pairwise fun u v => u.2 ≤ v.2) :
    ∃ timer, (run step {} (pre ++ .addAlignedTimer interval epochSeconds :: post)).withId
        (run step {} pre).timerIdCounter = [timer] ∧
      ∀ m : Nat, m ≤ timer.calls ↔ m ≤ (updates post).length ∧ ∀ before u rest,
        updates post = before ++ u :: rest →
          m ≤ (u.2 / Timer.seconds interval - epochSeconds / Timer.seconds interval).toNat +
            rest.length := by
  refine ⟨_, withId_added pre _ true epochSeconds (fun _ => rfl) hkeep, fun m => ?_⟩
  rw [after_aligned (epochSeconds / Timer.seconds interval) hpos _ rfl rfl]
  · exact le_advances_map_iff _ (hclock.imp fun h => boundaries_mono hpos _ h) m
  · simp only [Timer.new, if_true, Int.tdiv_eq_ediv_of_nonneg hepoch, Nat.cast_zero, add_zero]

/-- **A timer that was removed does not come back.** -/
theorem removed_forever {id : Nat} (hid : id < (run step {} pre).timerIdCounter) :
    (run step {} (pre ++ .removeTimer id :: post)).withId id = [] := by
  rw [run_append, run_cons]
  exact withId_run_nil post (withId_removed id _) (timerIdCounter_step _ (.removeTimer id) hid)

/-! ### Runs on fixed times -/

/-- Two timers, of which the first one is removed, and a gap of several seconds. -/
def mainLoop : List Op :=
  [.updateTimers (3 / 2) 7201, .removeTimer 0, .addTimer 9, .updateTimers 2 7202,
    .updateTimers 6 10800, .updateTimers (13 / 2) 10801]

/-- A second that has passed to the last bit but one is not a second yet. -/
example : (run step {} [.updateTimers (rounded (5 / 1000)) 0, .addTimer 1,
    .updateTimers (rounded (505 / 1000)) 0, .updateTimers (rounded (1005 / 1000)) 1]).timers.map
      (·.calls) = [0] := by decide +kernel

theorem calls_aligned_mainLoop : ∃ timer,
    (run step {} ([.addTimer 5] ++ .addAlignedTimer 3600 7200 :: mainLoop)).withId 1 = [timer] ∧
      ∀ m : Nat, m ≤ timer.calls ↔ m ≤ 4 ∧ ∀ before u rest,
        updates mainLoop = before ++ u :: rest →
          m ≤ (u.2 / Timer.seconds 3600 - 7200 / Timer.seconds 3600).toNat + rest.length :=
  calls_aligned [.addTimer 5] (by decide +kernel) (by decide) (by decide) (by decide +kernel)

end TimerManager

end Waechter
