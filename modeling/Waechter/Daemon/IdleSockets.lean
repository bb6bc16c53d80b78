import Waechter.Daemon.Cleanup
import Waechter.Lib.Run
import Waechter.Util.SpeedTiming

/-!
# Sockets without traffic

`InactiveCounter` (`Util/TrafficCounter.hpp`) counts the time windows without traffic since the last
push, and is meant to stop at 255. `IsStaleSocket` in `WSystemMap::Cleanup` looks at the sockets
that have been without traffic for 30 of them. `IdleCount` counts the windows beside the counter,
without a bound.

* `idle_step`: after any calls the counter is that count modulo 256.
* `idle_saturates_iff`: it is the count clamped at 255, and grows for as long as there is no
  traffic, in exactly the runs in which no counter at 255 goes through one more idle window.
* `not_stale_of_wrapped`: a socket is not stale when its windows are a little over a multiple of 256.
-/

namespace Waechter

open Lib

namespace TrafficCounter

variable {T : Type}

/-- A call that closes a time window without bytes. -/
def Idles (c : TrafficCounter T) : CounterCall → Prop
  | .refresh now => c.closesWindow now = true ∧ ¬c.HasRecent
  | _ => False

instance (c : TrafficCounter T) (cc : CounterCall) : Decidable (c.Idles cc) := by
  cases cc <;> unfold Idles <;> infer_instance

/-- The first check of `IsStaleSocket` lets the counter through. -/
def EligibleForStaleCheck (c : TrafficCounter T) : Prop :=
  ¬(c.isMarkedForRemoval = true ∨ c.inactiveCounter < 30)

end TrafficCounter

/-- A counter beside the idle windows since the last push. -/
structure IdleCount (T : Type) where
  counter : TrafficCounter T
  idle : Nat := 0

namespace IdleCount

variable {T : Type} [IsTrafficItem T]

open IsTrafficItem (base)
open SystemMap (TickEnv isStaleSocket)
open TrafficCounter (WellTimed)

/-- Perform a call on the counter, and count the window if it was idle. -/
def step (s : IdleCount T) (cc : CounterCall) : IdleCount T where
  counter := s.counter.call cc
  idle := match cc with
    | .pushOutgoingTraffic _ => 0
    | .pushIncomingTraffic _ => 0
    | .refresh _ => if s.counter.Idles cc then s.idle + 1 else s.idle
    | .markForRemoval _ => s.idle

/-- A counter that was just made. -/
def new (now : Msec) (item : T) : IdleCount T := { counter := .new now item }

/-! ## What the code promises -/

/-- The counter is the number of idle windows, clamped at 255. -/
def Saturated (s : IdleCount T) : Prop := s.counter.inactiveCounter.toNat = min s.idle 255

/-- A call that pushes nothing does not decrease the counter. -/
def Grows (s : IdleCount T) (cc : CounterCall) : Prop :=
  (∀ bytes, ¬cc.IsPush bytes) →
    s.counter.inactiveCounter ≤ (s.step cc).counter.inactiveCounter

/-- After 30 idle windows the counter is eligible for the stale check. -/
def StaysEligible (s : IdleCount T) : Prop :=
  30 ≤ s.idle → s.counter.isMarkedForRemoval = false → s.counter.EligibleForStaleCheck

/-- A counter at 255 does not go through one more idle window. -/
def HasRoom (s : IdleCount T) (cc : CounterCall) : Prop := s.idle = 255 → ¬s.counter.Idles cc

instance (s : IdleCount T) (cc : CounterCall) : Decidable (s.HasRoom cc) :=
  inferInstanceAs (Decidable (_ → _))

/-! ## The counter modulo 256 -/

/-- The counter is well timed, and what the idle windows leave of it after the cut to eight bits. -/
structure Counted (s : IdleCount T) : Prop where
  wellTimed : s.counter.WellTimed
  mod : s.counter.inactiveCounter.toNat = s.idle % 256

theorem Counted.new (now : Msec) {item : T} (hdown : (base item).downloadSpeed = 0)
    (hup : (base item).uploadSpeed = 0) : (IdleCount.new now item).Counted :=
  ⟨WellTimed.new now hdown hup, rfl⟩

/-- A refresh moves the counter on exactly when the window was idle. -/
theorem inactiveCounter_refresh {c : TrafficCounter T} (hc : c.WellTimed) (now : Msec) :
    (c.refresh now).inactiveCounter =
      if c.Idles (.refresh now) then c.inactiveCounter + 1 else c.inactiveCounter := by
  by_cases hp : c.state = .pendingRemoval
  · have hopen : ¬c.Idles (.refresh now) := fun h => (of_decide_eq_true h.1).1 hp
    rw [if_neg hopen, TrafficCounter.refresh, if_pos hp]
    rfl
  · cases hw : c.closesWindow now with
    | false =>
      have hopen : ¬c.Idles (.refresh now) := fun h => Bool.false_ne_true (hw.symm.trans h.1)
      rw [if_neg hopen, TrafficCounter.refresh_of_open hp hw]
    | true =>
      rw [TrafficCounter.refresh_of_closes hw, hc.inactiveCounter_closeWindow]
      by_cases hrecent : c.HasRecent
      · rw [if_pos hrecent, if_neg fun h => h.2 hrecent]
      · rw [if_neg hrecent, if_pos ⟨hw, hrecent⟩]

/-- The idle windows are those that publish no speed. -/
theorem idles_refresh_iff {c : TrafficCounter T} (hc : c.WellTimed) (now : Msec) :
    c.Idles (.refresh now) ↔ c.closesWindow now = true ∧ ¬(c.refresh now).HasSpeed := by
  refine and_congr_right fun hw => ?_
  rw [TrafficCounter.refresh_of_closes hw, hc.hasSpeed_closeWindow]

/-- **After any call the counter is the number of idle windows modulo 256.** -/
theorem idle_step (s : IdleCount T) (cc : CounterCall) (hs : s.Counted) : (s.step cc).Counted := by
  refine ⟨hs.wellTimed.call cc, ?_⟩
  cases cc with
  | pushOutgoingTraffic bytes => rfl
  | pushIncomingTraffic bytes => rfl
  | refresh now =>
    show (s.counter.refresh now).inactiveCounter.toNat =
      (if s.counter.Idles (.refresh now) then s.idle + 1 else s.idle) % 256
    rw [inactiveCounter_refresh hs.wellTimed]
    split
    · rw [UInt8.toNat_add, hs.mod]
      exact Nat.mod_add_mod _ _ _
    · exact hs.mod
  | markForRemoval now =>
    show (s.counter.markForRemoval now).inactiveCounter.toNat = s.idle % 256
    rw [← hs.mod]
    unfold TrafficCounter.markForRemoval
    split <;> rfl

/-- A call adds at most one idle window, and none without room. -/
theorem idle_step_le {s : IdleCount T} {cc : CounterCall} (hroom : s.HasRoom cc)
    (hle : s.idle ≤ 255) : (s.step cc).idle ≤ 255 := by
  cases cc with
  | pushOutgoingTraffic bytes => exact Nat.zero_le _
  | pushIncomingTraffic bytes => exact Nat.zero_le _
  | refresh now =>
    show (if s.counter.Idles (.refresh now) then s.idle + 1 else s.idle) ≤ 255
    split
    · rename_i hidles
      have hne : s.idle ≠ 255 := fun h => hroom h hidles
      omega
    · exact hle
  | markForRemoval now => exact hle

/-- Without a push the idle windows are kept. -/
theorem le_idle_step (s : IdleCount T) {cc : CounterCall} (hcc : ∀ bytes, ¬cc.IsPush bytes) :
    s.idle ≤ (s.step cc).idle := by
  cases cc with
  | pushOutgoingTraffic bytes => exact absurd .outgoing (hcc bytes)
  | pushIncomingTraffic bytes => exact absurd .incoming (hcc bytes)
  | refresh now =>
    show s.idle ≤ if s.counter.Idles (.refresh now) then s.idle + 1 else s.idle
    split
    · exact Nat.le_succ _
    · exact Nat.le_refl _
  | markForRemoval now => exact Nat.le_refl _

/-! ## Runs with room -/

/-- The counter has not wrapped around. -/
def InRange (s : IdleCount T) : Prop := s.Counted ∧ s.idle ≤ 255

theorem InRange.toNat {s : IdleCount T} (hs : s.InRange) :
    s.counter.inactiveCounter.toNat = s.idle := by
  rw [hs.1.mod, Nat.mod_eq_of_lt (Nat.lt_succ_of_le hs.2)]

theorem InRange.saturated (s : IdleCount T) (hs : s.InRange) : s.Saturated :=
  hs.toNat.trans (Nat.min_eq_left hs.2).symm

theorem InRange.step (s : IdleCount T) (cc : CounterCall) (hs : s.InRange) (hroom : s.HasRoom cc) :
    (s.step cc).InRange :=
  ⟨idle_step s cc hs.1, idle_step_le hroom hs.2⟩

theorem InRange.grows (s : IdleCount T) (cc : CounterCall) (hs : s.InRange)
    (hroom : s.HasRoom cc) : s.Grows cc := by
  intro hcc
  have hnext := hs.step s cc hroom
  rw [UInt8.le_iff_toNat_le, hs.toNat, hnext.toNat]
  exact le_idle_step s hcc

theorem InRange.staysEligible (s : IdleCount T) (hs : s.InRange) : s.StaysEligible := by
  rintro hidle hmarked (hcontra | hfew)
  · exact Bool.false_ne_true (hmarked.symm.trans hcontra)
  · rw [UInt8.lt_iff_toNat_lt, hs.toNat] at hfew
    exact absurd hidle (Nat.not_le.mpr hfew)

/-- The window after the last one that fits brings the counter back to 0. -/
theorem InRange.hasRoom (s : IdleCount T) (cc : CounterCall) (hs : s.InRange)
    (hnext : (s.step cc).Saturated) : s.HasRoom cc := by
  intro hidle hidles
  cases cc with
  | refresh now =>
    have hstep : (s.step (.refresh now)).idle = 256 := by
      show (if s.counter.Idles (.refresh now) then s.idle + 1 else s.idle) = 256
      rw [if_pos hidles, hidle]
    have hmod := (idle_step s (.refresh now) hs.1).mod
    rw [Saturated, hmod, hstep] at hnext
    exact absurd hnext (by decide)
  | pushOutgoingTraffic bytes => exact hidles
  | pushIncomingTraffic bytes => exact hidles
  | markForRemoval now => exact hidles

/-! ## A counter that is left alone -/

/-- A refresh every second. -/
def seconds (n : Nat) : List CounterCall :=
  (List.range n).map fun k => .refresh (1000 * (k + 1 : Nat))

theorem seconds_succ (n : Nat) :
    seconds (n + 1) = seconds n ++ [.refresh (1000 * (n + 1 : Nat))] := by
  rw [seconds, List.range_succ, List.map_append, List.map_singleton]
  rfl

/-- Every refresh of a counter that is left alone closes an idle window. -/
theorem run_seconds (item : T) (n : Nat) :
    (run step (new 0 item) (seconds n)).idle = n ∧
      (run step (new 0 item) (seconds n)).counter.timeWindowStart = 1000 * n ∧
      (run step (new 0 item) (seconds n)).counter.state ≠ .pendingRemoval ∧
      ¬(run step (new 0 item) (seconds n)).counter.HasRecent := by
  induction n with
  | zero => exact ⟨rfl, rfl, nofun, TrafficCounter.not_hasRecent_new 0 item⟩
  | succ n ih =>
    obtain ⟨hidle, hstart, hstate, hrecent⟩ := ih
    have hrun : run step (new 0 item) (seconds (n + 1)) =
        (run step (new 0 item) (seconds n)).step (.refresh (1000 * (n + 1 : Nat))) := by
      rw [seconds_succ, run_concat]
    generalize run step (new 0 item) (seconds n) = s at hidle hstart hstate hrecent hrun
    have hcloses : s.counter.closesWindow (1000 * (n + 1 : Nat)) = true := by
      refine decide_eq_true ⟨hstate, ?_⟩
      rw [hstart, TrafficCounter.recentTrafficTimeWindow]
      push_cast
      linarith
    rw [hrun]
    refine ⟨?_, ?_, ?_, ?_⟩
    · show (if s.counter.Idles _ then s.idle + 1 else s.idle) = n + 1
      rw [if_pos ⟨hcloses, hrecent⟩, hidle]
    · show (s.counter.refresh _).timeWindowStart = _
      rw [TrafficCounter.refresh_of_closes hcloses]
      rfl
    · exact TrafficCounter.state_refresh_ne hstate _
    · show ¬(s.counter.refresh _).HasRecent
      rw [TrafficCounter.refresh_of_closes hcloses]
      exact TrafficCounter.not_hasRecent_closeWindow _

/-- There is room for the first 255 of them. -/
theorem hasRoom_seconds (item : T) : ∀ {n : Nat}, n ≤ 255 →
    AllSteps step HasRoom (new 0 item) (seconds n)
  | 0, _ => trivial
  | n + 1, hn => by
    rw [seconds_succ, allSteps_concat]
    refine ⟨hasRoom_seconds item (Nat.le_of_succ_le hn), fun hfull => ?_⟩
    rw [(run_seconds item n).1] at hfull
    omega

/-! ## The exact condition -/

/-- **The counter saturates, grows and keeps the socket eligible in exactly the runs in which no
counter at 255 goes through one more idle window.** -/
theorem idle_saturates_iff (now : Msec) {item : T} (hdown : (base item).downloadSpeed = 0)
    (hup : (base item).uploadSpeed = 0) (cs : List CounterCall) :
    (Always step Saturated (new now item) cs ∧ AllSteps step Grows (new now item) cs ∧
      Always step StaysEligible (new now item) cs) ↔ AllSteps step HasRoom (new now item) cs := by
  have hstart : (new now item).InRange := ⟨Counted.new now hdown hup, Nat.zero_le _⟩
  have hiff := always_iff_allSteps InRange.saturated InRange.step InRange.hasRoom cs hstart
  constructor
  · rintro ⟨hsaturated, -, -⟩
    exact hiff.mp hsaturated
  · intro hroom
    exact ⟨hiff.mpr hroom, hroom.imp InRange.step InRange.grows hstart,
      always_of_allSteps InRange.staysEligible InRange.step cs hstart hroom⟩

theorem idle_saturates_seconds :
    Always step Saturated (new 0 (default : SocketItem)) (seconds 255) ∧
      (run step (new 0 (default : SocketItem)) (seconds 255)).counter.inactiveCounter = 255 := by
  obtain ⟨hsaturated, -, -⟩ := (idle_saturates_iff 0 rfl rfl _).mpr
    (hasRoom_seconds (default : SocketItem) (Nat.le_refl 255))
  refine ⟨hsaturated, UInt8.toNat_inj.mp ?_⟩
  have hlast := hsaturated.last
  rw [Saturated, (run_seconds _ 255).1] at hlast
  exact hlast

/-- After 256 idle windows the counter is at 0 again. -/
theorem idle_wraps :
    ¬(Always step Saturated (new 0 (default : SocketItem)) (seconds 256) ∧
      AllSteps step Grows (new 0 (default : SocketItem)) (seconds 256) ∧
      Always step StaysEligible (new 0 (default : SocketItem)) (seconds 256)) ∧
    (run step (new 0 (default : SocketItem)) (seconds 256)).idle = 256 ∧
    (run step (new 0 (default : SocketItem)) (seconds 256)).counter.inactiveCounter = 0 := by
  have hidle := (run_seconds (default : SocketItem) 256).1
  have hstart : (new 0 (default : SocketItem)).Counted := Counted.new 0 rfl rfl
  have hmod := (run_of_step idle_step (seconds 256) hstart).mod
  rw [hidle] at hmod
  refine ⟨fun ⟨hsaturated, _⟩ => ?_, hidle, UInt8.toNat_inj.mp hmod⟩
  have hlast := hsaturated.last
  rw [Saturated, hidle, hmod] at hlast
  exact absurd hlast (by decide)

/-! ## The stale check -/

/-- `IsStaleSocket` calls no socket stale that is not eligible. -/
theorem eligible_of_isStaleSocket {env : TickEnv} {r : Ref} {t : CounterTree}
    (hstale : isStaleSocket env r t = true) :
    (t.socket r).toTrafficCounter.EligibleForStaleCheck := by
  intro hcontra
  unfold isStaleSocket at hstale
  dsimp only at hstale
  rw [if_pos hcontra] at hstale
  cases hstale

/-- **A socket is not stale when its idle windows are less than 30 over a multiple of 256.** -/
theorem not_stale_of_wrapped {now : Msec} {item : SocketItem} (hdown : item.downloadSpeed = 0)
    (hup : item.uploadSpeed = 0) (cs : List CounterCall) {env : TickEnv} {r : Ref} {t : CounterTree}
    (hcounter : (t.socket r).toTrafficCounter = (run step (new now item) cs).counter)
    (hwrapped : (run step (new now item) cs).idle % 256 < 30) :
    isStaleSocket env r t = false := by
  by_contra hcontra
  refine eligible_of_isStaleSocket (eq_true_of_ne_false hcontra) (.inr ?_)
  rw [hcounter, UInt8.lt_iff_toNat_lt, (run_of_step idle_step cs (Counted.new now hdown hup)).mod]
  exact hwrapped

end IdleCount

end Waechter
