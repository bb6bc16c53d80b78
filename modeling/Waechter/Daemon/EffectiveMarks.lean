import Waechter.Daemon.EffectiveRules

/-!
# Effective limits and effective marks

`GetEffectiveRules` (`Daemon/Rules/RuleManager.cpp`) takes a limit from the least specific level
that sets one and a mark from the most specific one. The mark selects the class a packet is put
into, so the class enforces the effective limit only where both levels are the same.

* `limit_limitSource`: the level whose limit the fold selects.
* `enforces_iff`: the selected mark is the mark of that level exactly when the least and the most
  specific level that set a limit have one mark.
* `oneMark_iff_of_distinct`: for limits with marks of their own that means that one level sets a
  limit at most.
-/

namespace Waechter

/-- The mark for the packets of a direction. -/
def TrafficItemRulesBase.mark (r : TrafficItemRulesBase) : PacketDirection → UInt32
  | .outgoing => r.uploadMark
  | .incoming => r.downloadMark

/-- The limit for the packets of a direction. -/
def TrafficItemRules.limit (r : TrafficItemRules) : PacketDirection → BytesPerSecond
  | .outgoing => r.uploadLimit
  | .incoming => r.downloadLimit

variable (d : PacketDirection)

/-! ## The level of the effective limit -/

/-- The level `GetEffectiveLimit` takes the limit from, with the levels in place of the limits. -/
def limitLevel (parent item : TrafficItemRules) : TrafficItemRules :=
  if item.ruleType = .implicit then parent
  else if parent.limit d ≠ 0 then parent
  else item

/-- The level whose limit the fold selects. -/
def limitSource (system : TrafficItemRules) (chain : List TrafficItemRules) : TrafficItemRules :=
  chain.foldl (limitLevel d) system

/-- The mark the fold selects is the mark of the level whose limit it selects. -/
def Enforces (system : TrafficItemRules) (chain : List TrafficItemRules) : Prop :=
  (chain.foldl getEffectiveRules system).mark d = (limitSource d system chain).mark d

instance (system : TrafficItemRules) (chain : List TrafficItemRules) :
    Decidable (Enforces d system chain) := by unfold Enforces; infer_instance

theorem limit_getEffectiveRules (p r : TrafficItemRules) :
    (getEffectiveRules p r).limit d = getEffectiveLimit (p.limit d) (r.limit d) r.ruleType := by
  cases d <;> rfl

theorem mark_getEffectiveRules (p r : TrafficItemRules) :
    (getEffectiveRules p r).mark d = getEffectiveMark (p.mark d) (r.mark d) r.ruleType := by
  cases d <;> rfl

theorem limit_limitLevel (p r : TrafficItemRules) :
    (limitLevel d p r).limit d = getEffectiveLimit (p.limit d) (r.limit d) r.ruleType := by
  unfold limitLevel getEffectiveLimit
  split
  · rfl
  · split <;> rfl

/-- **The limit of that level is the effective one.** -/
theorem limit_limitSource (system : TrafficItemRules) (chain : List TrafficItemRules) :
    (limitSource d system chain).limit d = (chain.foldl getEffectiveRules system).limit d := by
  suffices h : ∀ s p : TrafficItemRules, s.limit d = p.limit d →
      (chain.foldl (limitLevel d) s).limit d = (chain.foldl getEffectiveRules p).limit d from
    h system system rfl
  induction chain with
  | nil => exact fun s p h => h
  | cons r chain ih =>
    intro s p h
    refine ih _ _ ?_
    rw [limit_limitLevel, limit_getEffectiveRules, h]

/-! ## The levels that set a limit -/

/-- The levels that can set a limit: the system rule, whatever its type, and the explicit ones
below. -/
def ruleLevels (system : TrafficItemRules) (chain : List TrafficItemRules) :
    List TrafficItemRules :=
  system :: chain.filter fun r => r.ruleType = .explicit

/-- The levels that set a limit, the least specific first. -/
def limitLevels (system : TrafficItemRules) (chain : List TrafficItemRules) :
    List TrafficItemRules :=
  (ruleLevels system chain).filter fun r => r.limit d ≠ 0

/-- The least and the most specific level that set a limit have the same mark. -/
def OneMark (system : TrafficItemRules) (chain : List TrafficItemRules) : Prop :=
  (limitLevels d system chain).head?.map (·.mark d) =
    (limitLevels d system chain).getLast?.map (·.mark d)

/-- A rule has a mark exactly when it has a limit. -/
def MarkedAsLimited (r : TrafficItemRules) : Prop := r.mark d ≠ 0 ↔ r.limit d ≠ 0

instance (r : TrafficItemRules) : Decidable (MarkedAsLimited d r) := by
  unfold MarkedAsLimited; infer_instance

variable {d}

theorem limitLevels_cons (system : TrafficItemRules) (chain : List TrafficItemRules) :
    limitLevels d system chain =
      if system.limit d ≠ 0 then
        system :: (chain.filter fun r => r.ruleType = .explicit).filter fun r => r.limit d ≠ 0
      else (chain.filter fun r => r.ruleType = .explicit).filter fun r => r.limit d ≠ 0 := by
  unfold limitLevels ruleLevels
  rw [List.filter_cons]
  simp only [decide_eq_true_eq]

/-- One level more below the system rule. -/
theorem head?_limitLevels_limitLevel (s r : TrafficItemRules) (chain : List TrafficItemRules) :
    (limitLevels d (limitLevel d s r) chain).head? = (limitLevels d s (r :: chain)).head? := by
  cases hr : r.ruleType with
  | implicit => simp [limitLevel, limitLevels_cons, hr]
  | explicit =>
    by_cases hs : s.limit d = 0
    · by_cases hl : r.limit d = 0 <;> simp [limitLevel, limitLevels_cons, hr, hs, hl]
    · simp [limitLevel, limitLevels_cons, hr, hs]

/-- **The limit comes from the least specific level that sets one.** -/
theorem mark_limitSource : ∀ (chain : List TrafficItemRules) (system : TrafficItemRules),
    (∀ r ∈ system :: chain, MarkedAsLimited d r) → (limitSource d system chain).mark d =
      ((limitLevels d system chain).head?.map (·.mark d)).getD 0
  | [], system, hmarks => by
    have hsystem := hmarks system List.mem_cons_self
    rw [limitLevels_cons]
    split
    · rfl
    · rename_i hl
      exact not_not.mp (hsystem.not.mpr hl)
  | r :: chain, system, hmarks => by
    have hrest : ∀ q ∈ limitLevel d system r :: chain, MarkedAsLimited d q := by
      intro q hq
      rcases List.mem_cons.mp hq with rfl | hq
      · unfold limitLevel
        split
        · exact hmarks system List.mem_cons_self
        · split
          · exact hmarks system List.mem_cons_self
          · exact hmarks r (List.mem_cons_of_mem _ List.mem_cons_self)
      · exact hmarks q (List.mem_cons_of_mem _ (List.mem_cons_of_mem _ hq))
    rw [← head?_limitLevels_limitLevel]
    exact mark_limitSource chain (limitLevel d system r) hrest

/-- **The mark comes from the most specific level that sets one.** -/
theorem foldl_mark : ∀ (chain : List TrafficItemRules) (p : TrafficItemRules),
    (chain.foldl getEffectiveRules p).mark d =
      (((chain.filter fun r => r.ruleType = .explicit).filter fun r => r.mark d ≠ 0).getLast?.map
        (·.mark d)).getD (p.mark d)
  | [], p => rfl
  | r :: chain, p => by
    rw [List.foldl_cons, foldl_mark chain, mark_getEffectiveRules]
    cases hr : r.ruleType with
    | implicit => simp [getEffectiveMark, hr]
    | explicit =>
      by_cases hm : r.mark d = 0
      · simp [getEffectiveMark, hr, hm]
      · simp only [getEffectiveMark, hr, hm, List.filter_cons_of_pos, decide_true, ne_eq,
          not_false_eq_true, reduceCtorEq, if_false, List.getLast?_cons, Option.map_some,
          Option.getD_some]
        cases ((chain.filter fun q => q.ruleType = .explicit).filter
          fun q => ¬ q.mark d = 0).getLast? <;> rfl

/-- Where marks and limits belong together, it is the most specific level that sets a limit. -/
theorem foldl_mark_eq {system : TrafficItemRules} {chain : List TrafficItemRules}
    (hmarks : ∀ r ∈ system :: chain, MarkedAsLimited d r) :
    (chain.foldl getEffectiveRules system).mark d =
      ((limitLevels d system chain).getLast?.map (·.mark d)).getD 0 := by
  have hsame : ((chain.filter fun r => r.ruleType = .explicit).filter fun r => r.mark d ≠ 0) =
      (chain.filter fun r => r.ruleType = .explicit).filter fun r => r.limit d ≠ 0 := by
    refine List.filter_congr fun r hr => ?_
    have hr := hmarks r (List.mem_cons_of_mem _ (List.mem_of_mem_filter hr))
    simp only [hr.eq]
  rw [foldl_mark, hsame, limitLevels_cons]
  have hsystem := hmarks system List.mem_cons_self
  split
  · rw [List.getLast?_cons]
    cases ((chain.filter fun r => r.ruleType = .explicit).filter
      fun r => r.limit d ≠ 0).getLast? <;> rfl
  · rename_i hl
    rw [not_not.mp (hsystem.not.mpr hl)]

/-! ## When the class enforces the limit -/

/-- **The effective mark is that of the effective limit** exactly when the least and the most
specific level that set a limit have the same mark. -/
theorem enforces_iff (d : PacketDirection) (system : TrafficItemRules)
    (chain : List TrafficItemRules) (hmarks : ∀ r ∈ system :: chain, MarkedAsLimited d r) :
    Enforces d system chain ↔ OneMark d system chain := by
  unfold Enforces OneMark
  rw [foldl_mark_eq hmarks, mark_limitSource chain system hmarks]
  cases limitLevels d system chain with
  | nil => simp
  | cons r rest =>
    rw [List.getLast?_cons]
    simp only [List.head?_cons, Option.map_some, Option.getD_some, Option.some.injEq]
    exact eq_comm

/-- A process limited to 50 B/s, of an application limited to 100 B/s: the limit of the application
is the effective one, but the mark of the process selects the class. -/
def twoLimits : List TrafficItemRules :=
  [{ downloadLimit := 100, downloadMark := 1, ruleType := .explicit },
   { downloadLimit := 50, downloadMark := 2, ruleType := .explicit }, {}]

theorem enforces_not_always : ¬ ∀ (d : PacketDirection) (system : TrafficItemRules)
    (chain : List TrafficItemRules), (∀ r ∈ system :: chain, MarkedAsLimited d r) →
      Enforces d system chain :=
  fun h => absurd (h .incoming {} twoLimits (by decide)) (by decide)

theorem enforces_iff_oneLimit : Enforces .incoming {} (twoLimits.take 1) :=
  (enforces_iff .incoming {} (twoLimits.take 1) (by decide)).mpr rfl

/-- Limits with marks of their own: one level sets a limit at most. -/
theorem oneMark_iff_of_distinct {system : TrafficItemRules} {chain : List TrafficItemRules}
    (hdistinct : (limitLevels d system chain).Pairwise fun r q => r.mark d ≠ q.mark d) :
    OneMark d system chain ↔ (limitLevels d system chain).length ≤ 1 := by
  unfold OneMark
  cases hl : limitLevels d system chain with
  | nil => simp
  | cons r rest =>
    rw [hl, List.pairwise_cons] at hdistinct
    cases hlast : rest.getLast? with
    | none =>
      rw [List.getLast?_eq_none_iff.mp hlast]
      simp
    | some q =>
      have hq := List.mem_of_getLast? hlast
      have hne := hdistinct.1 q hq
      have hlen := List.length_pos_of_mem hq
      rw [List.getLast?_cons, hlast]
      simp only [List.head?_cons, Option.map_some, Option.getD_some, Option.some.injEq,
        List.length_cons, hne, false_iff]
      omega

end Waechter
