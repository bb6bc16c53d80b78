import Mathlib.Algebra.Order.Ring.Rat
import Mathlib.Tactic.Linarith
import Waechter.Lib.Circular
import Waechter.Lib.Fifo

/-!
# The network graph

`WNetworkGraphWindow` (`Gui/Windows/NetworkGraphWindow.cpp`) draws the rates of the system over the
last minutes from two `WScrollingBuffer`s (`NetworkGraphWindow.hpp`). A buffer has room for 900
points; then it overwrites the oldest one, but both loops over `Data` start at its first index.

Numbers are rational, rounding a `double` to a `float` is a monotone parameter, and a rate that is
not finite is `none`. A run are the frames, each with the time since the last one, and the updates
of the system's speeds. The tick marks and the units of the axes are left out.

* `content_run`: a buffer holds the last 900 points.
* `currentMax_eq`: that they are not in order does not matter for the maximum.
* `drawn_sorted_iff`: the exact condition for the line to be drawn in the order of time.
-/

namespace Waechter

open Lib

/-- `ENetworkGraphHistory`. -/
inductive NetworkGraphHistory where
  | oneMin
  | fiveMin
  | fifteenMin

/-- `HistoryDuration`. -/
def NetworkGraphHistory.duration : NetworkGraphHistory → ℚ
  | .oneMin => 60
  | .fiveMin => 300
  | .fifteenMin => 900

/-- A point of a `WScrollingBuffer`. -/
structure GraphPoint where
  x : ℚ
  y : Option ℚ
  deriving DecidableEq

/-- `WNetworkGraphWindow` with the setting it reads. -/
structure NetworkGraph where
  time : ℚ := 0
  setting : NetworkGraphHistory
  history : ℚ
  currentMaxUploadRate : ℚ := 0
  currentMaxDownloadRate : ℚ := 0
  uploadBuffer : Circular GraphPoint
  downloadBuffer : Circular GraphPoint

namespace NetworkGraph

variable (toFloat : ℚ → ℚ)

/-- `WScrollingBuffer::AddPoint`. -/
def addPoint (buffer : Circular GraphPoint) (x : ℚ) (y : Option ℚ) : Circular GraphPoint :=
  buffer.push { x, y }

/-- The constructor. -/
def init (setting : NetworkGraphHistory) : NetworkGraph where
  setting := setting
  history := setting.duration
  uploadBuffer := addPoint (Circular.empty 900 (by decide)) 0 (some 0)
  downloadBuffer := addPoint (Circular.empty 900 (by decide)) 0 (some 0)

/-- The turn of `CalcMaxRate` for a point. -/
def maxRate (t0 : ℚ) (max : ℚ) (p : GraphPoint) : ℚ :=
  match p.y with
  | none => max
  | some y => if t0 ≤ p.x then if max < y then y else max else max

/-- `CalcMaxRate`. -/
def calcMaxRate (t0 : ℚ) (data : List GraphPoint) : ℚ := data.foldl (maxRate t0) 0

/-- `AddData`. -/
def addData (upload download : Option ℚ) (g : NetworkGraph) : NetworkGraph :=
  let uploadBuffer := addPoint g.uploadBuffer (toFloat g.time) (upload.map toFloat)
  let downloadBuffer := addPoint g.downloadBuffer (toFloat g.time) (download.map toFloat)
  let t0 := g.time - g.setting.duration
  { g with
    uploadBuffer
    downloadBuffer
    currentMaxUploadRate := calcMaxRate t0 uploadBuffer.data
    currentMaxDownloadRate := calcMaxRate t0 downloadBuffer.data }

/-- A point is within the time `Draw` shows. -/
def isVisible (g : NetworkGraph) (p : GraphPoint) : Bool :=
  toFloat (g.time - g.history - 2) ≤ p.x

/-- The points that are drawn, in the order in which they are connected. -/
def drawn (g : NetworkGraph) (buffer : Circular GraphPoint) : List GraphPoint :=
  buffer.data.filter (g.isVisible toFloat)

inductive Op where
  /-- The part of `Draw` that changes something: the time, and the choice of a duration. -/
  | draw (deltaTime : ℚ) (selected : Option NetworkGraphHistory)
  | addData (upload download : Option ℚ)

def step (g : NetworkGraph) : Op → NetworkGraph
  | .draw deltaTime selected =>
    let g := { g with time := g.time + deltaTime }
    match selected with
    | none => g
    | some setting => { g with setting := setting, history := setting.duration }
  | .addData upload download => addData toFloat upload download g

/-- Time does not run backwards. -/
def Op.Forward : Op → Prop
  | .draw deltaTime _ => 0 ≤ deltaTime
  | .addData _ _ => True

/-! ## One of the buffers -/

/-- The upload or the download. -/
inductive Line where
  | upload
  | download

/-- The buffer of a line. -/
def Line.buffer (g : NetworkGraph) : Line → Circular GraphPoint
  | .upload => g.uploadBuffer
  | .download => g.downloadBuffer

/-- The maximum of a line. -/
def Line.currentMax (g : NetworkGraph) : Line → ℚ
  | .upload => g.currentMaxUploadRate
  | .download => g.currentMaxDownloadRate

/-- The point an operation adds to a line. -/
def Line.point (line : Line) (g : NetworkGraph) : Op → List GraphPoint
  | .draw _ _ => []
  | .addData uploaded downloaded =>
    let rate := match line with
      | .upload => uploaded
      | .download => downloaded
    [{ x := toFloat g.time, y := rate.map toFloat }]

/-- All points that were added to a line, the one of the constructor in front. -/
def Line.points (line : Line) (setting : NetworkGraphHistory) (ops : List Op) : List GraphPoint :=
  { x := 0, y := some 0 } :: collect (step toFloat) (line.point toFloat) (init setting) ops

variable {toFloat}

theorem buffer_step (line : Line) (g : NetworkGraph) (op : Op) :
    line.buffer (step toFloat g op) =
      (line.point toFloat g op).foldl Circular.push (line.buffer g) := by
  cases op with
  | draw deltaTime selected => cases line <;> cases selected <;> rfl
  | addData upload download => cases line <;> rfl

theorem buffer_run (line : Line) : ∀ (ops : List Op) (g : NetworkGraph),
    line.buffer (run (step toFloat) g ops) =
      (collect (step toFloat) (line.point toFloat) g ops).foldl Circular.push (line.buffer g)
  | [], _ => rfl
  | op :: ops, g => by
    rw [run_cons, buffer_run line ops, buffer_step, collect_cons, List.foldl_append]

/-- A line after a run: all its points, pushed into an empty buffer. -/
theorem buffer_eq (line : Line) (setting : NetworkGraphHistory) (ops : List Op) :
    line.buffer (run (step toFloat) (init setting) ops) =
      (line.points toFloat setting ops).foldl Circular.push (Circular.empty 900 (by decide)) := by
  rw [buffer_run]
  cases line <;> rfl

/-- **A buffer holds the last 900 points.** -/
theorem content_run (line : Line) (setting : NetworkGraphHistory) (ops : List Op) :
    (line.buffer (run (step toFloat) (init setting) ops)).content =
      (line.points toFloat setting ops).rtake 900 := by
  rw [buffer_eq, Circular.content_foldl]
  rfl

/-! ## The maximum -/

theorem maxRate_comm (t0 max : ℚ) (p q : GraphPoint) :
    maxRate t0 (maxRate t0 max p) q = maxRate t0 (maxRate t0 max q) p := by
  have hmax : ∀ (p : GraphPoint) (m : ℚ), maxRate t0 m p =
      match p.y with
      | none => m
      | some y => if t0 ≤ p.x then Max.max m y else m := by
    intro p m
    unfold maxRate
    cases p.y with
    | none => rfl
    | some y =>
      dsimp only
      split
      · rw [max_def_lt]
      · rfl
  simp only [hmax]
  cases p.y <;> cases q.y
  · rfl
  · rfl
  · rfl
  · dsimp only
    split <;> split
    · exact max_right_comm _ _ _
    · rfl
    · rfl
    · rfl

/-- The order of the points does not matter for the maximum. -/
theorem calcMaxRate_perm (t0 : ℚ) {data data' : List GraphPoint} (h : data.Perm data') :
    calcMaxRate t0 data = calcMaxRate t0 data' :=
  h.foldl_eq' (fun p _ q _ max => maxRate_comm t0 max p q) 0

/-- **The maximum after an update** is that of the last 900 points, as far back as the setting says. -/
theorem currentMax_eq (line : Line) (setting : NetworkGraphHistory) (ops : List Op)
    (upload download : Option ℚ) :
    let g := run (step toFloat) (init setting) (ops ++ [.addData upload download])
    line.currentMax g = calcMaxRate (g.time - g.setting.duration)
      ((line.points toFloat setting (ops ++ [.addData upload download])).rtake 900) := by
  intro g
  have hcontent : (line.buffer g).content = _ :=
    content_run line setting (ops ++ [.addData upload download])
  rw [← hcontent, calcMaxRate_perm _ (line.buffer g).content_perm]
  have hg : g = addData toFloat upload download (run (step toFloat) (init setting) ops) :=
    run_concat _ _ _
  rw [hg]
  cases line <;> rfl

/-! ## The order of the points -/

/-- The points a run adds are in the order of time. -/
theorem collect_sorted (hmono : Monotone toFloat) (line : Line) :
    ∀ (ops : List Op) (g : NetworkGraph), (∀ op ∈ ops, op.Forward) →
      (collect (step toFloat) (line.point toFloat) g ops).Pairwise (fun p q => p.x ≤ q.x) ∧
        ∀ p ∈ collect (step toFloat) (line.point toFloat) g ops, toFloat g.time ≤ p.x
  | [], _, _ => ⟨List.Pairwise.nil, nofun⟩
  | op :: ops, g, hops => by
    rw [List.forall_mem_cons] at hops
    obtain ⟨hsorted, hlater⟩ := collect_sorted hmono line ops (step toFloat g op) hops.2
    rw [collect_cons]
    cases op with
    | draw deltaTime selected =>
      refine ⟨hsorted, fun p hp => le_trans (hmono ?_) (hlater p hp)⟩
      have htime : (step toFloat g (.draw deltaTime selected)).time = g.time + deltaTime := by
        cases selected <;> rfl
      rw [htime]
      exact le_add_of_nonneg_right hops.1
    | addData uploaded downloaded =>
      refine ⟨List.pairwise_cons.mpr ⟨hlater, hsorted⟩, fun p hp => ?_⟩
      rcases List.mem_cons.mp hp with rfl | hp
      · exact le_refl _
      · exact hlater p hp

theorem points_sorted (hmono : Monotone toFloat) (hzero : toFloat 0 = 0) (line : Line)
    (setting : NetworkGraphHistory) {ops : List Op} (hops : ∀ op ∈ ops, op.Forward) :
    (line.points toFloat setting ops).Pairwise fun p q => p.x ≤ q.x := by
  obtain ⟨hsorted, hlater⟩ := collect_sorted hmono line ops (init setting) hops
  refine List.pairwise_cons.mpr ⟨fun p hp => ?_, hsorted⟩
  have hle := hlater p hp
  rwa [show (init setting).time = 0 from rfl, hzero] at hle

/-- How many of `n` points were added since the buffer was last full and started over. -/
def startedOver (n : Nat) : Nat := if n < 900 then 0 else n % 900

/-- The two parts of a buffer. -/
theorem parts_run (line : Line) (setting : NetworkGraphHistory) (ops : List Op) :
    let points := line.points toFloat setting ops
    let buffer := line.buffer (run (step toFloat) (init setting) ops)
    buffer.newest = points.rtake (startedOver points.length) ∧
      buffer.oldest = (points.rtake 900).rdrop (startedOver points.length) := by
  intro points buffer
  have hcontent : buffer.oldest ++ buffer.newest = points.rtake 900 := content_run line setting ops
  have hcapacity : buffer.capacity = 900 := by
    rw [show buffer = _ from buffer_eq line setting ops, Circular.capacity_foldl]
    rfl
  have hafter : buffer.After points.length := by
    have hpushed := Circular.after_foldl points (Circular.after_empty (by decide : 0 < 900))
    rwa [← buffer_eq, Nat.zero_add] at hpushed
  have hoffset : buffer.offset = startedOver points.length := by
    rw [hafter.offset, hcapacity]
    rfl
  have hle : startedOver points.length ≤ min points.length 900 := by
    unfold startedOver
    split <;> omega
  have hlength : buffer.newest.length = startedOver points.length := by
    rw [Circular.newest, List.length_take, hoffset, hafter.length, hcapacity, Nat.min_eq_left hle]
  constructor
  · have hrtake := rtake_append_of_length buffer.oldest hlength
    rw [hcontent, rtake_rtake, Nat.min_eq_left (hle.trans (Nat.min_le_right _ _))] at hrtake
    exact hrtake.symm
  · rw [← hcontent, ← hlength, List.rdrop, List.length_append, Nat.add_sub_cancel, List.take_left]

/-- **The line.** After any run of frames and updates, the points of a line are connected in the order
of time exactly when no visible point that was added since the buffer started over is later than a
visible point from before. -/
theorem drawn_sorted_iff (hmono : Monotone toFloat) (hzero : toFloat 0 = 0) (line : Line)
    (setting : NetworkGraphHistory) (ops : List Op) (hops : ∀ op ∈ ops, op.Forward) :
    let g := run (step toFloat) (init setting) ops
    let points := line.points toFloat setting ops
    (g.drawn toFloat (line.buffer g)).Pairwise (fun p q => p.x ≤ q.x) ↔
      ∀ p ∈ points.rtake (startedOver points.length), g.isVisible toFloat p = true →
        ∀ q ∈ (points.rtake 900).rdrop (startedOver points.length),
          g.isVisible toFloat q = true → p.x ≤ q.x := by
  intro g points
  obtain ⟨hnewest, holdest⟩ : (line.buffer g).newest = _ ∧ (line.buffer g).oldest = _ :=
    parts_run line setting ops
  have hsorted : (line.buffer g).content.Pairwise fun p q => p.x ≤ q.x := by
    rw [content_run line setting ops]
    exact (points_sorted hmono hzero line setting hops).sublist (List.drop_sublist _ _)
  have hiff := (line.buffer g).filter_sorted_iff (·.x) (g.isVisible toFloat) hsorted
  rw [hnewest, holdest] at hiff
  exact hiff

/-- A frame and an update every second. -/
def seconds : Nat → List Op
  | 0 => []
  | n + 1 => seconds n ++ [.draw 1 none, .addData (some 3) (some 4)]

theorem forward_seconds : ∀ (n : Nat), ∀ op ∈ seconds n, op.Forward
  | 0 => nofun
  | n + 1 => by
    rw [seconds, List.forall_mem_append]
    refine ⟨forward_seconds n, ?_⟩
    simp only [List.forall_mem_cons]
    exact ⟨zero_le_one (α := ℚ), trivial, nofun⟩

theorem time_seconds (setting : NetworkGraphHistory) : ∀ (n : Nat),
    (run (step id) (init setting) (seconds n)).time = n ∧
      (run (step id) (init setting) (seconds n)).history = setting.duration
  | 0 => ⟨rfl, rfl⟩
  | n + 1 => by
    rw [seconds, run_append]
    obtain ⟨htime, hhistory⟩ := time_seconds setting n
    refine ⟨?_, hhistory⟩
    show _ + (1 : ℚ) = _
    rw [htime, Nat.cast_succ]

/-- One point a second. -/
theorem points_seconds (setting : NetworkGraphHistory) : ∀ (n : Nat),
    (Line.points id .download setting (seconds n)).map (·.x) =
      (List.range (n + 1)).map fun k : Nat => (k : ℚ)
  | 0 => rfl
  | n + 1 => by
    rw [List.range_succ, List.map_append, ← points_seconds setting n, seconds]
    unfold Line.points
    rw [collect_append, List.map_cons, List.map_cons, List.map_append]
    have hpoint : (collect (step id) (Line.point id .download)
        (run (step id) (init setting) (seconds n))
        [.draw 1 none, .addData (some 3) (some 4)]).map (·.x) = [((n + 1 : Nat) : ℚ)] := by
      show [(run (step id) (init setting) (seconds n)).time + 1] = _
      rw [(time_seconds setting n).1, Nat.cast_succ]
    rw [hpoint]
    rfl

theorem drawn_sorted_iff_startedOver :
    let g := run (step id) (init .oneMin) (seconds 1000)
    startedOver (Line.points id .download .oneMin (seconds 1000)).length = 101 ∧
      (g.drawn id g.downloadBuffer).Pairwise fun p q => p.x ≤ q.x := by
  obtain ⟨n, hn⟩ : ∃ n, n = 1000 := ⟨_, rfl⟩
  rw [← hn]
  intro g
  have hx := points_seconds .oneMin n
  have hlength := congrArg List.length hx
  rw [List.length_map, List.length_map, List.length_range] at hlength
  have hover : startedOver (n + 1) = 101 := by
    rw [hn]
    rfl
  rw [hlength, hover]
  refine ⟨rfl, (drawn_sorted_iff monotone_id rfl .download .oneMin _ (forward_seconds n)).mpr ?_⟩
  rw [hlength, hover]
  intro p _ _ q hq hvisible
  -- the points from before the buffer started over are older than what is drawn
  have hqx := List.mem_map_of_mem (f := (·.x)) (mem_take_of_mem_rdrop_rtake (by decide) hq)
  rw [List.map_take, hx, hlength, ← List.map_take, List.take_range] at hqx
  obtain ⟨k, hk, hkx⟩ := List.mem_map.mp hqx
  have hold : q.x ≤ 899 := by
    rw [← hkx]
    have hk := List.mem_range.mp hk
    exact_mod_cast (by omega : k ≤ 899)
  have hlate : g.time - g.history - 2 ≤ q.x := of_decide_eq_true hvisible
  rw [(time_seconds .oneMin n).1, (time_seconds .oneMin n).2, hn] at hlate
  have h938 : (938 : ℚ) ≤ q.x := by
    refine le_trans ?_ hlate
    norm_num [NetworkGraphHistory.duration]
  linarith

end NetworkGraph

end Waechter
