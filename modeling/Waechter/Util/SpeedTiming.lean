import Mathlib.Algebra.Order.Field.Rat
import Mathlib.Algebra.Order.Ring.Cast
import Mathlib.Tactic.Linarith
import Mathlib.Tactic.NormNum
import Waechter.Util.TrafficCounter

/-!
# When published speeds change

A counter publishes its speeds when a time window closes, and clients hear about them while the
counter is active. Whether anything is sent at all is up to another counter, its gate: the one of
the system, and for a UDP tuple the one of its socket too. The gate gets at least the pushes of the
counter, but its windows and its ticks without traffic are its own.

* `WellTimed.call`: an inactive counter has no speed and no recent bytes, whatever the calls.
* `GatedBy.refreshed`: of two counters that are refreshed together the gate lasts longer. A counter
  with recent bytes changes its speeds with the next two windows, and the gate is active for three
  windows after its recent bytes; the windows of the two are at most one apart.
* `WellTimed.active_of_speedsChange`, `GatedBy.active_of_speedsChange`: when the refresh changes a
  speed both are active.
-/

namespace Waechter

/-- The call pushes `bytes`, in one direction or the other. -/
inductive CounterCall.IsPush (bytes : WBytes) : CounterCall → Prop where
  | incoming : IsPush bytes (.pushIncomingTraffic bytes)
  | outgoing : IsPush bytes (.pushOutgoingTraffic bytes)

namespace TrafficCounter

variable {T U : Type}

/-- There are bytes that the next window publishes. -/
def HasRecent (c : TrafficCounter T) : Prop := c.recentDownload ≠ 0 ∨ c.recentUpload ≠ 0

instance (c : TrafficCounter T) : Decidable c.HasRecent := inferInstanceAs (Decidable (_ ∨ _))

/-- The windows for which the counter stays active, if there is no push. -/
def lasts (c : TrafficCounter T) : Nat := if c.HasRecent then 3 else 2 - c.inactiveCounter.toNat

/-- Whether the window of the counter started after that of its gate. -/
def lag (c : TrafficCounter T) (g : TrafficCounter U) : Nat :=
  if g.timeWindowStart < c.timeWindowStart then 1 else 0

variable [IsTrafficItem T]

open IsTrafficItem (base setBase)

/-- A speed is published. -/
def HasSpeed (c : TrafficCounter T) : Prop :=
  (base c.trafficItem).downloadSpeed ≠ 0 ∨ (base c.trafficItem).uploadSpeed ≠ 0

instance (c : TrafficCounter T) : Decidable c.HasSpeed := inferInstanceAs (Decidable (_ ∨ _))

/-- The windows that still change a speed, if there is no push. -/
def due (c : TrafficCounter T) : Nat := if c.HasRecent then 2 else if c.HasSpeed then 1 else 0

/-- The published speeds are those of a window, and the ticks without traffic are counted from the
last window with traffic. -/
structure WellTimed (c : TrafficCounter T) : Prop where
  downloadSpeed : ∃ n : Nat, (base c.trafficItem).downloadSpeed = n
  uploadSpeed : ∃ n : Nat, (base c.trafficItem).uploadSpeed = n
  recent : c.HasRecent → c.inactiveCounter = 0
  speed : c.HasSpeed → c.inactiveCounter = 0
  inactive : c.state = .inactive → ¬c.HasRecent ∧ ¬c.HasSpeed
  pending : c.state = .pendingRemoval → ¬c.HasSpeed

/-- The gate is active for as long as the speeds of the counter may change. Neither is refreshed to
any effect while it is pending removal, and a push ends that; then `late` tells that it is made up
for. -/
structure GatedBy (c : TrafficCounter T) (g : TrafficCounter U) : Prop where
  late : c.HasRecent → c.timeWindowStart ≤ g.timeWindowStart ∨ g.HasRecent
  outlasts : c.state ≠ .pendingRemoval → g.state ≠ .pendingRemoval → 0 < c.due →
    g.state = .active ∧ c.due + c.lag g ≤ g.lasts

/-! ## Published speeds -/

theorem windowSpeed_eq (recent : WBytes) : windowSpeed recent = recent := by
  unfold windowSpeed recentTrafficTimeWindow
  norm_num

/-- Speeds are whole numbers, so every difference counts. -/
theorem speedChanged_natCast (new old : Nat) :
    speedChanged (new : Rat) (old : Rat) = decide (new ≠ old) := by
  unfold speedChanged
  rw [decide_eq_decide]
  constructor
  · rintro h rfl
    rw [sub_self, abs_zero] at h
    norm_num at h
  · intro h
    have hone : (1 : Rat) ≤ |(new : Rat) - old| := by
      exact_mod_cast Int.one_le_abs (show (new : Int) - old ≠ 0 by omega)
    linarith

theorem publishedSpeed_natCast (new old : Nat) :
    publishedSpeed (new : Rat) (old : Rat) = new := by
  unfold publishedSpeed
  rw [speedChanged_natCast]
  have hsame : (if decide (new ≠ old) = true then (new : Rat) else old) = new := by
    by_cases h : new = old <;> simp [h]
  simp only [hsame]
  by_cases h : new = 0
  · simp [h]
  · have hone : (1 : Rat) ≤ new := by exact_mod_cast Nat.one_le_iff_ne_zero.mpr h
    rw [if_neg (not_lt.mpr hone)]

/-! ## One window -/

section Window

variable {c : TrafficCounter T} {g : TrafficCounter U} {now : Msec}

/-- What a window that closes leaves: the bytes are published, and count no longer. -/
theorem WellTimed.closeWindow_speeds (hc : c.WellTimed) (now : Msec) :
    (base (c.closeWindow now).trafficItem).downloadSpeed = c.recentDownload ∧
      (base (c.closeWindow now).trafficItem).uploadSpeed = c.recentUpload := by
  obtain ⟨n, hn⟩ := hc.downloadSpeed
  obtain ⟨m, hm⟩ := hc.uploadSpeed
  simp only [closeWindow, IsTrafficItem.base_setBase, windowSpeed_eq, hn, hm,
    publishedSpeed_natCast, and_self]

theorem not_hasRecent_closeWindow (now : Msec) : ¬(c.closeWindow now).HasRecent := by
  rintro (h | h) <;> exact h rfl

theorem WellTimed.hasSpeed_closeWindow (hc : c.WellTimed) (now : Msec) :
    (c.closeWindow now).HasSpeed ↔ c.HasRecent := by
  obtain ⟨hdown, hup⟩ := hc.closeWindow_speeds now
  unfold HasSpeed HasRecent
  rw [hdown, hup]
  simp

/-- The clamp comes too late: the sum has eight bits. -/
theorem min_255 (n : UInt8) : min n 255 = n :=
  if_pos (UInt8.le_iff_toNat_le.mpr (Nat.le_of_lt_succ n.toNat_lt))

theorem WellTimed.inactiveCounter_closeWindow (hc : c.WellTimed) (now : Msec) :
    (c.closeWindow now).inactiveCounter =
      if c.HasRecent then c.inactiveCounter else c.inactiveCounter + 1 := by
  obtain ⟨n, hn⟩ := hc.downloadSpeed
  obtain ⟨m, hm⟩ := hc.uploadSpeed
  simp only [closeWindow, windowSpeed_eq, hn, hm, publishedSpeed_natCast, HasRecent, min_255]
  by_cases hd : c.recentDownload = 0 <;> by_cases hu : c.recentUpload = 0 <;> simp [hd, hu]

/-- A window changes a speed. -/
def Changes (c : TrafficCounter T) : Prop :=
  (base c.trafficItem).downloadSpeed ≠ c.recentDownload ∨
    (base c.trafficItem).uploadSpeed ≠ c.recentUpload

instance (c : TrafficCounter T) : Decidable c.Changes := inferInstanceAs (Decidable (_ ∨ _))

theorem WellTimed.state_closeWindow (hc : c.WellTimed) (now : Msec) :
    (c.closeWindow now).state =
      if 3 ≤ (c.closeWindow now).inactiveCounter then .inactive
      else if c.Changes then .active else c.state := by
  obtain ⟨n, hn⟩ := hc.downloadSpeed
  obtain ⟨m, hm⟩ := hc.uploadSpeed
  have hchanged : (speedChanged (windowSpeed c.recentDownload)
      (base c.trafficItem).downloadSpeed || speedChanged (windowSpeed c.recentUpload)
      (base c.trafficItem).uploadSpeed) = decide c.Changes := by
    have hiff : c.Changes ↔ c.recentDownload ≠ n ∨ c.recentUpload ≠ m := by
      unfold Changes
      rw [hn, hm, Ne.eq_def, Ne.eq_def, Nat.cast_inj, Nat.cast_inj, eq_comm, eq_comm (a := m)]
    rw [windowSpeed_eq, windowSpeed_eq, hn, hm, speedChanged_natCast, speedChanged_natCast,
      ← Bool.decide_or, decide_eq_decide.mpr hiff]
  simp only [closeWindow, hchanged, decide_eq_true_eq]

/-- Only a counter with bytes or a speed changes a speed. -/
theorem Changes.hasRecent_or (h : c.Changes) : c.HasRecent ∨ c.HasSpeed := by
  by_cases hrecent : c.HasRecent
  · exact .inl hrecent
  · unfold HasRecent at hrecent
    push Not at hrecent
    unfold Changes at h
    rw [hrecent.1, hrecent.2] at h
    exact .inr (by exact_mod_cast h)

theorem WellTimed.counter_le_of_changes (hc : c.WellTimed) (hchange : c.Changes) (now : Msec) :
    (c.closeWindow now).inactiveCounter ≤ 1 := by
  have hzero : c.inactiveCounter = 0 := hchange.hasRecent_or.elim hc.recent hc.speed
  rw [hc.inactiveCounter_closeWindow, hzero]
  split <;> decide

/-- **A counter that changes a speed is active.** -/
theorem WellTimed.active_of_changes (hc : c.WellTimed) (hchange : c.Changes) (now : Msec) :
    (c.closeWindow now).state = .active := by
  rw [hc.state_closeWindow, if_neg, if_pos hchange]
  intro h3
  exact absurd (UInt8.le_trans h3 (hc.counter_le_of_changes hchange now)) (by decide)

theorem state_closeWindow_ne (hp : c.state ≠ .pendingRemoval) (now : Msec) :
    (c.closeWindow now).state ≠ .pendingRemoval := by
  have hstate (p q : Prop) [Decidable p] [Decidable q] :
      (if p then CounterState.inactive else if q then .active else c.state) ≠ .pendingRemoval := by
    split
    · nofun
    · split
      · nofun
      · exact hp
  exact hstate _ _

theorem WellTimed.closeWindow (hc : c.WellTimed) (hp : c.state ≠ .pendingRemoval) (now : Msec) :
    (c.closeWindow now).WellTimed := by
  obtain ⟨hdown, hup⟩ := hc.closeWindow_speeds now
  have hspeed : (c.closeWindow now).HasSpeed → (c.closeWindow now).inactiveCounter = 0 := by
    rw [hc.hasSpeed_closeWindow, hc.inactiveCounter_closeWindow]
    intro hrecent
    rw [if_pos hrecent]
    exact hc.recent hrecent
  refine ⟨⟨_, hdown⟩, ⟨_, hup⟩, fun h => absurd h (not_hasRecent_closeWindow now), hspeed,
    fun hstate => ⟨not_hasRecent_closeWindow now, fun h => ?_⟩,
    fun hstate => absurd hstate (state_closeWindow_ne hp now)⟩
  have hrecent := (hc.hasSpeed_closeWindow now).mp h
  rw [hc.state_closeWindow, hspeed h, if_neg (by decide)] at hstate
  split at hstate
  · cases hstate
  · exact (hc.inactive hstate).1 hrecent

theorem toNat_succ_le (n : UInt8) : (n + 1).toNat ≤ n.toNat + 1 := by
  rw [UInt8.toNat_add]
  exact Nat.mod_le _ _

theorem WellTimed.lasts_le (hc : c.WellTimed) (now : Msec) :
    c.lasts ≤ (c.closeWindow now).lasts + 1 := by
  unfold lasts
  rw [if_neg (not_hasRecent_closeWindow now), hc.inactiveCounter_closeWindow]
  split
  · rename_i hrecent
    rw [hc.recent hrecent]
    decide
  · have hsum := toNat_succ_le c.inactiveCounter
    omega

/-- A window uses up a change. -/
theorem WellTimed.due_closeWindow (hc : c.WellTimed) (now : Msec) :
    (c.closeWindow now).due = c.due - 1 := by
  have hspeed := hc.hasSpeed_closeWindow now
  unfold due
  rw [if_neg (not_hasRecent_closeWindow now)]
  by_cases hrecent : c.HasRecent
  · rw [if_pos (hspeed.mpr hrecent), if_pos hrecent]
  · rw [if_neg (mt hspeed.mp hrecent), if_neg hrecent]
    split <;> rfl

theorem due_pos_of_changes (hchange : c.Changes) : 0 < c.due := by
  unfold due
  split
  · decide
  · rename_i hrecent
    rw [if_pos (hchange.hasRecent_or.resolve_left hrecent)]
    decide

/-- A counter that lasts is active after the window. -/
theorem WellTimed.active_of_lasts (hc : c.WellTimed) (hactive : c.state = .active)
    (hlasts : 0 < c.lasts) (now : Msec) : (c.closeWindow now).state = .active := by
  have hcounter : ¬3 ≤ (c.closeWindow now).inactiveCounter := by
    rw [hc.inactiveCounter_closeWindow]
    split
    · rename_i hrecent
      rw [hc.recent hrecent]
      decide
    · rename_i hrecent
      unfold lasts at hlasts
      rw [if_neg hrecent] at hlasts
      have hone : c.inactiveCounter.toNat ≤ 1 := by omega
      intro h3
      have hsum := toNat_succ_le c.inactiveCounter
      have hthree : 3 ≤ (c.inactiveCounter + 1).toNat := UInt8.le_iff_toNat_le.mp h3
      omega
  rw [hc.state_closeWindow, if_neg hcounter]
  split
  · rfl
  · exact hactive

end Window

/-! ## Calls -/

section Calls

variable {c : TrafficCounter T}

omit [IsTrafficItem T] in
theorem not_hasRecent_new (now : Msec) (item : T) : ¬(new now item).HasRecent := by
  rintro (h | h) <;> exact h rfl

theorem refresh_of_closes {now : Msec} (h : c.closesWindow now = true) :
    c.refresh now = c.closeWindow now := by
  unfold closesWindow at h
  obtain ⟨hp, hw⟩ := of_decide_eq_true h
  unfold refresh
  rw [if_neg hp, if_pos hw]

theorem refresh_of_open {now : Msec} (hp : c.state ≠ .pendingRemoval)
    (h : c.closesWindow now = false) : c.refresh now = c := by
  unfold closesWindow at h
  unfold refresh
  rw [if_neg hp, if_neg]
  exact fun hw => of_decide_eq_false h ⟨hp, hw⟩

/-- The speeds are 0. -/
theorem not_hasSpeed_modifyItem :
    ¬(c.modifyItem fun item => { item with downloadSpeed := 0, uploadSpeed := 0 }).HasSpeed := by
  simp [HasSpeed, modifyItem]

/-- No speed is published while a counter is pending removal. -/
theorem WellTimed.silence (hc : c.WellTimed) (state : CounterState) (removalTimeStamp : Msec)
    (hstate : state ≠ .inactive) :
    ({ c.modifyItem fun item => { item with downloadSpeed := 0, uploadSpeed := 0 } with
        state := state
        removalTimeStamp := removalTimeStamp } : TrafficCounter T).WellTimed := by
  refine ⟨⟨0, ?_⟩, ⟨0, ?_⟩, hc.recent, fun h => ?_, fun h => absurd h hstate, fun _ => ?_⟩
  · simp [modifyItem]
  · simp [modifyItem]
  · exact absurd h not_hasSpeed_modifyItem
  · exact not_hasSpeed_modifyItem

/-- **Every call keeps a counter well timed.** -/
theorem WellTimed.call (hc : c.WellTimed) (cc : CounterCall) : (c.call cc).WellTimed := by
  cases cc with
  | pushOutgoingTraffic bytes =>
    exact ⟨hc.downloadSpeed, hc.uploadSpeed, fun _ => rfl, fun _ => rfl, nofun, nofun⟩
  | pushIncomingTraffic bytes =>
    exact ⟨hc.downloadSpeed, hc.uploadSpeed, fun _ => rfl, fun _ => rfl, nofun, nofun⟩
  | refresh now =>
    by_cases hp : c.state = .pendingRemoval
    · have hsilent := hc.silence c.state c.removalTimeStamp (by rw [hp]; nofun)
      have hrefresh : c.refresh now =
          c.modifyItem fun item => { item with downloadSpeed := 0, uploadSpeed := 0 } := by
        unfold refresh
        rw [if_pos hp]
      change (c.refresh now).WellTimed
      rw [hrefresh]
      exact hsilent
    · cases hw : c.closesWindow now with
      | true =>
        rw [TrafficCounter.call, refresh_of_closes hw]
        exact hc.closeWindow hp now
      | false =>
        rw [TrafficCounter.call, refresh_of_open hp hw]
        exact hc
  | markForRemoval now =>
    change (c.markForRemoval now).WellTimed
    unfold markForRemoval
    split
    · exact hc
    · exact hc.silence .pendingRemoval _ nofun

theorem state_refresh_ne (hp : c.state ≠ .pendingRemoval) (now : Msec) :
    (c.refresh now).state ≠ .pendingRemoval := by
  cases hw : c.closesWindow now with
  | true =>
    rw [refresh_of_closes hw]
    exact state_closeWindow_ne hp now
  | false =>
    rw [refresh_of_open hp hw]
    exact hp

/-- A counter with a speed is not quiet after a refresh. -/
theorem WellTimed.counter_refresh_le (hc : c.WellTimed) (hspeed : c.HasSpeed) (now : Msec) :
    (c.refresh now).inactiveCounter ≤ 1 := by
  have hzero := hc.speed hspeed
  have hopen : c.state ≠ .pendingRemoval := fun hp => hc.pending hp hspeed
  cases hw : c.closesWindow now with
  | true =>
    rw [refresh_of_closes hw, hc.inactiveCounter_closeWindow, hzero]
    split <;> decide
  | false =>
    rw [refresh_of_open hopen hw, hzero]
    decide

theorem start_refresh_le {now : Msec} (hnow : c.timeWindowStart ≤ now) :
    (c.refresh now).timeWindowStart ≤ now := by
  unfold refresh
  split
  · exact hnow
  · split
    · exact Int.le_refl now
    · exact hnow

/-- The refresh changes a published speed. -/
def SpeedsChange (c : TrafficCounter T) (now : Msec) : Prop :=
  (base (c.refresh now).trafficItem).downloadSpeed ≠ (base c.trafficItem).downloadSpeed ∨
    (base (c.refresh now).trafficItem).uploadSpeed ≠ (base c.trafficItem).uploadSpeed

/-- Only a refresh that closes a window changes a speed. -/
theorem WellTimed.changes_of_speedsChange (hc : c.WellTimed) {now : Msec}
    (hchange : c.SpeedsChange now) :
    c.state ≠ .pendingRemoval ∧ c.closesWindow now = true ∧ c.Changes := by
  have hopen : c.state ≠ .pendingRemoval := by
    intro hp
    obtain ⟨hdown, hup⟩ := not_or.mp (hc.pending hp)
    unfold SpeedsChange refresh at hchange
    rw [if_pos hp, not_not.mp hdown, not_not.mp hup] at hchange
    simp [modifyItem] at hchange
  refine ⟨hopen, ?_⟩
  cases hw : c.closesWindow now with
  | false =>
    unfold SpeedsChange at hchange
    rw [refresh_of_open hopen hw] at hchange
    simp at hchange
  | true =>
    obtain ⟨hdown, hup⟩ := hc.closeWindow_speeds now
    unfold SpeedsChange at hchange
    rw [refresh_of_closes hw, hdown, hup] at hchange
    exact ⟨rfl, hchange.imp Ne.symm Ne.symm⟩

/-- **When a refresh changes a speed, the counter is active.** -/
theorem WellTimed.active_of_speedsChange (hc : c.WellTimed) {now : Msec}
    (hchange : c.SpeedsChange now) : (c.refresh now).state = .active := by
  obtain ⟨-, hw, hchanges⟩ := hc.changes_of_speedsChange hchange
  rw [refresh_of_closes hw]
  exact hc.active_of_changes hchanges now

theorem WellTimed.new (now : Msec) {item : T} (hdown : (base item).downloadSpeed = 0)
    (hup : (base item).uploadSpeed = 0) : (new now item).WellTimed := by
  have hspeed : ¬(TrafficCounter.new now item).HasSpeed := by
    rintro (h | h)
    · exact h hdown
    · exact h hup
  exact ⟨⟨0, by exact_mod_cast hdown⟩, ⟨0, by exact_mod_cast hup⟩,
    fun h => absurd h (not_hasRecent_new now item), fun h => absurd h hspeed,
    fun _ => ⟨not_hasRecent_new now item, hspeed⟩, nofun⟩

end Calls

/-! ## The gate -/

/-- The counter got a push since the last refresh, and bytes if there are any. -/
structure JustPushed (g : TrafficCounter U) (bytes : WBytes) : Prop where
  active : g.state = .active
  counted : g.inactiveCounter = 0
  recent : bytes ≠ 0 → g.HasRecent

section Gate

variable {c : TrafficCounter T} {g : TrafficCounter U}

omit [IsTrafficItem T] in
theorem lag_le (c : TrafficCounter T) (g : TrafficCounter U) : c.lag g ≤ 1 := by
  unfold lag
  split <;> decide

omit [IsTrafficItem T] in
theorem lag_of_le (h : c.timeWindowStart ≤ g.timeWindowStart) : c.lag g = 0 :=
  if_neg (not_lt.mpr h)

/-- A counter without bytes and speeds asks nothing of its gate. -/
theorem GatedBy.of_quiet (hrecent : ¬c.HasRecent) (hspeed : ¬c.HasSpeed) : GatedBy c g := by
  refine ⟨fun h => absurd h hrecent, fun _ _ hdue => ?_⟩
  unfold due at hdue
  rw [if_neg hrecent, if_neg hspeed] at hdue
  cases hdue

/-- The gate lasts after a push. -/
theorem GatedBy.of_justPushed {bytes : WBytes} (hg : g.JustPushed bytes)
    (hlate : c.HasRecent → c.timeWindowStart ≤ g.timeWindowStart ∨ g.HasRecent) : GatedBy c g := by
  refine ⟨hlate, fun _ _ hdue => ⟨hg.active, ?_⟩⟩
  have hlag := lag_le c g
  have htwo : 2 ≤ g.lasts := by
    unfold lasts
    rw [hg.counted]
    split <;> decide
  by_cases hrecent : c.HasRecent
  · have hdue2 : c.due = 2 := if_pos hrecent
    rcases hlate hrecent with hle | hrecent
    · rw [lag_of_le hle]
      omega
    · have hthree : g.lasts = 3 := if_pos hrecent
      omega
  · have hdue1 : c.due ≤ 1 := by
      unfold due
      rw [if_neg hrecent]
      split <;> decide
    omega

theorem justPushed_call [IsTrafficItem U] {bytes : WBytes} {cc : CounterCall}
    (hcc : cc.IsPush bytes) :
    (g.call cc).JustPushed bytes := by
  cases hcc with
  | incoming =>
    exact ⟨rfl, rfl, fun hbytes => .inl fun h => hbytes (Nat.eq_zero_of_add_eq_zero_left h)⟩
  | outgoing =>
    exact ⟨rfl, rfl, fun hbytes => .inr fun h => hbytes (Nat.eq_zero_of_add_eq_zero_left h)⟩

theorem hasRecent_push {bytes : WBytes} {cc : CounterCall} (hcc : cc.IsPush bytes) :
    ((c.call cc).HasRecent ↔ c.HasRecent ∨ bytes ≠ 0) ∧
      (c.call cc).timeWindowStart = c.timeWindowStart := by
  cases hcc with
  | incoming =>
    refine ⟨?_, rfl⟩
    change c.recentDownload + bytes ≠ 0 ∨ c.recentUpload ≠ 0 ↔ _
    simp only [HasRecent, ne_eq, Nat.add_eq_zero_iff]
    tauto
  | outgoing =>
    refine ⟨?_, rfl⟩
    change c.recentDownload ≠ 0 ∨ c.recentUpload + bytes ≠ 0 ↔ _
    simp only [HasRecent, ne_eq, Nat.add_eq_zero_iff]
    tauto

/-- A push on the gate alone. -/
theorem GatedBy.push_gate [IsTrafficItem U] (h : GatedBy c g) {bytes : WBytes} {cc : CounterCall}
    (hcc : cc.IsPush bytes) : GatedBy c (g.call cc) := by
  obtain ⟨hrecent, hstart⟩ := hasRecent_push (c := g) hcc
  refine .of_justPushed (justPushed_call hcc) fun hc => ?_
  rw [hstart]
  exact (h.late hc).imp_right fun hg => hrecent.mpr (.inl hg)

/-- A push on the counter, after one on the gate. -/
theorem GatedBy.push (h : GatedBy c g) {bytes pushed : WBytes} (hg : g.JustPushed pushed)
    {cc : CounterCall} (hcc : cc.IsPush bytes) (hbytes : bytes ≠ 0 → pushed ≠ 0) :
    GatedBy (c.call cc) g := by
  obtain ⟨hrecent, hstart⟩ := hasRecent_push (c := c) hcc
  refine .of_justPushed hg fun hc => ?_
  rw [hstart]
  rcases hrecent.mp hc with hc | hnew
  · exact h.late hc
  · exact .inr (hg.recent (hbytes hnew))

theorem recent_mark (now : Msec) :
    ((c.markForRemoval now).HasRecent ↔ c.HasRecent) ∧
      (c.markForRemoval now).timeWindowStart = c.timeWindowStart ∧
      (c.markForRemoval now).state = .pendingRemoval := by
  unfold markForRemoval
  split
  · rename_i hp
    exact ⟨Iff.rfl, rfl, hp⟩
  · exact ⟨Iff.rfl, rfl, rfl⟩

theorem GatedBy.mark (h : GatedBy c g) (now : Msec) : GatedBy (c.markForRemoval now) g := by
  obtain ⟨hrecent, hstart, hstate⟩ := recent_mark (c := c) now
  refine ⟨fun hc => ?_, fun hp => absurd hstate hp⟩
  rw [hstart]
  exact h.late (hrecent.mp hc)

theorem GatedBy.mark_gate [IsTrafficItem U] (h : GatedBy c g) (now : Msec) :
    GatedBy c (g.markForRemoval now) := by
  obtain ⟨hrecent, hstart, hstate⟩ := recent_mark (c := g) now
  refine ⟨fun hc => ?_, fun _ hp => absurd hstate hp⟩
  rw [hstart, hrecent]
  exact h.late hc

/-! ### A refresh of both -/

/-- What a refresh does while a counter is pending removal. -/
theorem recent_refresh_pending (hp : c.state = .pendingRemoval) (now : Msec) :
    ((c.refresh now).HasRecent ↔ c.HasRecent) ∧
      (c.refresh now).timeWindowStart = c.timeWindowStart ∧
      (c.refresh now).state = .pendingRemoval := by
  unfold refresh
  rw [if_pos hp]
  exact ⟨Iff.rfl, rfl, hp⟩

variable [IsTrafficItem U]

/-- A refresh of the gate makes up for what it was late. -/
theorem GatedBy.late_refreshed (h : GatedBy c g) {now : Msec} (hnow : c.timeWindowStart ≤ now)
    (hc : c.HasRecent) :
    c.timeWindowStart ≤ (g.refresh now).timeWindowStart ∨ (g.refresh now).HasRecent := by
  by_cases hp : g.state = .pendingRemoval
  · obtain ⟨hrecent, hstart, -⟩ := recent_refresh_pending hp now
    rw [hstart, hrecent]
    exact h.late hc
  · cases hw : g.closesWindow now with
    | true =>
      rw [refresh_of_closes hw]
      exact .inl hnow
    | false =>
      rw [refresh_of_open hp hw]
      exact h.late hc

omit [IsTrafficItem T] [IsTrafficItem U] in
/-- A counter whose window started first closes it when the gate does. -/
theorem closes_of_le {now : Msec} (hle : c.timeWindowStart ≤ g.timeWindowStart)
    (hp : c.state ≠ .pendingRemoval) (hg : g.closesWindow now = true) :
    c.closesWindow now = true := by
  have hw := (of_decide_eq_true hg).2
  exact decide_eq_true ⟨hp, Int.le_trans hw (Int.sub_le_sub_left hle now)⟩

/-- **A counter and its gate stay in step** when they are refreshed together. -/
theorem GatedBy.refreshed (h : GatedBy c g) (hc : c.WellTimed) (hg : g.WellTimed) {now : Msec}
    (hnow : c.timeWindowStart ≤ now) : GatedBy (c.refresh now) (g.refresh now) := by
  by_cases hcp : c.state = .pendingRemoval
  · obtain ⟨hrecent, hstart, hstate⟩ := recent_refresh_pending hcp now
    refine ⟨fun hr => ?_, fun hp => absurd hstate hp⟩
    rw [hstart]
    exact h.late_refreshed hnow (hrecent.mp hr)
  have hlate : (c.refresh now).HasRecent →
      (c.refresh now).timeWindowStart ≤ (g.refresh now).timeWindowStart ∨
        (g.refresh now).HasRecent := by
    intro hr
    cases hcw : c.closesWindow now with
    | true =>
      rw [refresh_of_closes hcw] at hr
      exact absurd hr (not_hasRecent_closeWindow now)
    | false =>
      rw [refresh_of_open hcp hcw] at hr ⊢
      exact h.late_refreshed hnow hr
  refine ⟨hlate, fun _ hgp hdue => ?_⟩
  have hgp' : g.state ≠ .pendingRemoval := fun hp => hgp (recent_refresh_pending hp now).2.2
  cases hcw : c.closesWindow now with
  | true =>
    rw [refresh_of_closes hcw] at hdue ⊢
    rw [hc.due_closeWindow] at hdue ⊢
    obtain ⟨hactive, houtlasts⟩ := h.outlasts hcp hgp' (by omega)
    cases hgw : g.closesWindow now with
    | true =>
      -- both windows start again at the same time
      rw [refresh_of_closes hgw]
      have hlasts := hg.lasts_le now
      have hlag : (c.closeWindow now).lag (g.closeWindow now) = 0 := lag_of_le (Int.le_refl now)
      exact ⟨hg.active_of_lasts hactive (by omega) now, by omega⟩
    | false =>
      -- the counter uses up a change and falls behind the gate
      rw [refresh_of_open hgp' hgw]
      have hlag := lag_le (c.closeWindow now) g
      exact ⟨hactive, by omega⟩
  | false =>
    rw [refresh_of_open hcp hcw] at hdue ⊢
    obtain ⟨hactive, houtlasts⟩ := h.outlasts hcp hgp' hdue
    cases hgw : g.closesWindow now with
    | true =>
      -- only a counter that started after the gate can still be open
      rw [refresh_of_closes hgw]
      have hlater : g.timeWindowStart < c.timeWindowStart := by
        by_contra hle
        have hcloses := closes_of_le (c := c) (not_lt.mp hle) hcp hgw
        rw [hcw] at hcloses
        cases hcloses
      have hlag : c.lag g = 1 := if_pos hlater
      have hlag' : c.lag (g.closeWindow now) = 0 := lag_of_le hnow
      have hlasts := hg.lasts_le now
      exact ⟨hg.active_of_lasts hactive (by omega) now, by omega⟩
    | false =>
      rw [refresh_of_open hgp' hgw]
      exact ⟨hactive, houtlasts⟩

/-- **When a refresh changes a speed, the gate is active.** -/
theorem GatedBy.active_of_speedsChange (h : GatedBy c g) (hc : c.WellTimed) (hg : g.WellTimed)
    {now : Msec} (hgp : g.state ≠ .pendingRemoval) (hchange : c.SpeedsChange now) :
    (g.refresh now).state = .active := by
  obtain ⟨hcp, -, hchanges⟩ := hc.changes_of_speedsChange hchange
  have hdue := due_pos_of_changes hchanges
  obtain ⟨hactive, houtlasts⟩ := h.outlasts hcp hgp hdue
  cases hgw : g.closesWindow now with
  | true =>
    rw [refresh_of_closes hgw]
    exact hg.active_of_lasts hactive (by omega) now
  | false =>
    rw [refresh_of_open hgp hgw]
    exact hactive

end Gate

/-! ## The counter without the rest of its item -/

instance : IsTrafficItem TrafficItem := ⟨id, fun _ b => b, fun _ _ => rfl, fun _ => rfl⟩

/-- The counter of the `ITrafficItem` part. -/
def plain (c : TrafficCounter T) : TrafficCounter TrafficItem :=
  { c with trafficItem := base c.trafficItem }

theorem plain_modifyItem (f : TrafficItem → TrafficItem) (c : TrafficCounter T) :
    (c.modifyItem f).plain = c.plain.modifyItem f := by
  simp only [plain, modifyItem, IsTrafficItem.base_setBase]
  rfl

theorem plain_closeWindow (now : Msec) (c : TrafficCounter T) :
    (c.closeWindow now).plain = c.plain.closeWindow now := by
  simp only [plain, closeWindow, IsTrafficItem.base_setBase]
  rfl

theorem plain_refresh (now : Msec) (c : TrafficCounter T) :
    (c.refresh now).plain = c.plain.refresh now := by
  unfold refresh
  change plain (if c.state = _ then _ else if _ ≤ now - c.timeWindowStart then _ else c) =
    if c.state = _ then _ else if _ ≤ now - c.timeWindowStart then _ else _
  split
  · exact plain_modifyItem _ c
  · split
    · exact plain_closeWindow now c
    · rfl

theorem plain_markForRemoval (now : Msec) (c : TrafficCounter T) :
    (c.markForRemoval now).plain = c.plain.markForRemoval now := by
  unfold markForRemoval
  change plain (if c.state = _ then c else _) = if c.state = _ then _ else _
  split
  · rfl
  · simp only [plain, modifyItem, IsTrafficItem.base_setBase]
    rfl

theorem plain_call (c : TrafficCounter T) (cc : CounterCall) :
    (c.call cc).plain = c.plain.call cc := by
  cases cc with
  | pushOutgoingTraffic bytes => rfl
  | pushIncomingTraffic bytes => rfl
  | refresh now => exact plain_refresh now c
  | markForRemoval now => exact plain_markForRemoval now c

/-- Two refreshes at one time are as good as one. -/
theorem refresh_refresh (c : TrafficCounter TrafficItem) (now : Msec) :
    (c.refresh now).refresh now = c.refresh now := by
  by_cases hp : c.state = .pendingRemoval
  · unfold refresh
    rw [if_pos hp, if_pos]
    · rfl
    · exact hp
  · cases hw : c.closesWindow now with
    | true =>
      have hopen : ¬(1000 : Int) ≤ now - now := by omega
      rw [refresh_of_closes hw]
      exact refresh_of_open (state_closeWindow_ne hp now) (decide_eq_false fun h => hopen h.2)
    | false => rw [refresh_of_open hp hw, refresh_of_open hp hw]

/-- A mark sets the speeds to 0 already. -/
theorem refresh_markForRemoval {c : TrafficCounter TrafficItem} (hp : c.state ≠ .pendingRemoval)
    (time now : Msec) : (c.markForRemoval time).refresh now = c.markForRemoval time := by
  unfold markForRemoval
  rw [if_neg hp]
  rfl

end TrafficCounter

end Waechter
