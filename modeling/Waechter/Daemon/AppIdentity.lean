import Waechter.Daemon.Cleanup

/-!
# Which application a process belongs to

`WSystemMap::FindOrMapApplication` (`Daemon/Data/SystemMap.cpp`) looks for an application of the
same file name, alias or display name in a loop over an unordered map, and stops at the first one.

* `sameInEveryOrder_iff`: the application and the keys are the same in every order of the map
  exactly when the loop does not run or all the entries it can stop at are matched alike.
* `sameInEveryOrder_fails_browser`: a browser that another application starts belongs to either one.
-/

namespace Waechter

open Lib

namespace SystemMap

variable {σ : Type} (h : Handler σ)

/-- Every order of `Applications` gives the same application and the same keys. -/
def SameInEveryOrder (now : Msec) (exePath commandLine appName : String) (s : SystemMap σ) : Prop :=
  ∀ o o' : IterOrder,
    let result := findOrMapApplication h o now exePath commandLine appName s
    let result' := findOrMapApplication h o' now exePath commandLine appName s
    result.1 = result'.1 ∧ ∀ k, k ∈ result.2.applications ↔ k ∈ result'.2.applications

/-- The entries that one turn of the loop stops at: all of them are reused as one application, or
there is only one, and it is upgraded. -/
def MatchedAlike (key appName : String) (t : CounterTree) : Prop :=
  ∀ e e' : String × Ref, t.applications.lookup e.1 = some e.2 →
    t.applications.lookup e'.1 = some e'.2 →
    ∀ m m', matchApp t key appName e = some m → matchApp t key appName e' = some m' → m = m'

/-- The key is known, or it is no path, or all the entries that match it are matched alike. -/
def HasOneMatch (exePath commandLine appName : String) (t : CounterTree) : Prop :=
  let key := applicationKey exePath commandLine appName
  key ∈ t.applications ∨ isPath key = false ∨ MatchedAlike key appName t

/-! ## One turn of the loop -/

/-- An upgraded entry is the one of the turn, and the key is another one. -/
theorem entry_of_upgrade {t : CounterTree} {key appName existingKey : String} {e : String × Ref}
    {a : Ref} (hm : matchApp t key appName e = some (.upgrade existingKey a)) :
    e = (existingKey, a) ∧ existingKey ≠ key := by
  unfold matchApp at hm
  simp only at hm
  split at hm
  · cases hm
  · rename_i hkey
    split at hm
    · split at hm <;> cases hm
    · split at hm
      · obtain ⟨rfl, rfl⟩ := AppMatch.upgrade.inj (Option.some.inj hm)
        exact ⟨rfl, hkey⟩
      · cases hm

/-- The loop stops at the first entry when that one matches. -/
theorem findApplication_of_first {o : IterOrder} {key appName : String} {t : CounterTree}
    (hpath : isPath key = true) {e : String × Ref} {l : List (String × Ref)}
    (hl : o.entries t.applications = e :: l) {m : AppMatch}
    (hm : matchApp t key appName e = some m) : findApplication o key appName t = some m := by
  rw [findApplication, if_pos hpath, hl, List.findSome?_cons, hm]

/-! ## What the function leaves in `Applications` -/

/-- The keys after an application got the new key. -/
theorem mem_upgradeApp (existingKey key commandLine appName : String) (a : Ref) (t : CounterTree)
    (k : String) : k ∈ (t.upgradeApp existingKey key commandLine appName a).applications ↔
      k = key ∨ k ≠ existingKey ∧ k ∈ t.applications := by
  change k ∈ (t.applications.erase existingKey).insert key a ↔ _
  rw [AList.mem_insert, AList.mem_erase]

variable {h}

/-- The function when the loop decides. -/
theorem findOrMapApplication_of_match {o : IterOrder} (now : Msec)
    {exePath commandLine appName : String} {s : SystemMap σ} {m : AppMatch}
    (hkey : applicationKey exePath commandLine appName ∉ s.applications)
    (hfind : findApplication o (applicationKey exePath commandLine appName) appName
      s.toCounterTree = some m) :
    let result := findOrMapApplication h o now exePath commandLine appName s
    match m with
    | .reuse a => result.1 = a ∧ result.2.applications = s.applications
    | .upgrade existingKey a => result.1 = a ∧ result.2.applications =
        (s.upgradeApp existingKey (applicationKey exePath commandLine appName) commandLine appName
          a).applications := by
  have hnone : s.applications.lookup (applicationKey exePath commandLine appName) = none :=
    AList.lookup_eq_none.mpr hkey
  unfold findOrMapApplication
  simp only [hnone, hfind]
  cases m with
  | reuse a => exact ⟨rfl, rfl⟩
  | upgrade existingKey a => exact ⟨rfl, rfl⟩

variable (h)

/-- **Hash order decides which application a process belongs to**, unless the loop has no choice. -/
theorem sameInEveryOrder_iff (now : Msec) (exePath commandLine appName : String) (s : SystemMap σ) :
    SameInEveryOrder h now exePath commandLine appName s ↔
      HasOneMatch exePath commandLine appName s.toCounterTree := by
  constructor
  · intro hsame
    unfold HasOneMatch
    by_contra hnot
    simp only [not_or, Bool.not_eq_false] at hnot
    obtain ⟨hkey, hpath, halike⟩ := hnot
    refine halike fun e e' he he' m m' hm hm' => ?_
    -- the two orders that come to either entry first
    obtain ⟨o, l, hl⟩ := IterOrder.exists_first s.applications he
    obtain ⟨o', l', hl'⟩ := IterOrder.exists_first s.applications he'
    have hfind := findApplication_of_first hpath hl hm
    have hfind' := findApplication_of_first hpath hl' hm'
    have hres := findOrMapApplication_of_match (h := h) now hkey hfind
    have hres' := findOrMapApplication_of_match (h := h) now hkey hfind'
    obtain ⟨happ, hkeys⟩ := hsame o o'
    cases m with
    | reuse a =>
      cases m' with
      | reuse a' => rw [← hres.1, happ, hres'.1]
      | upgrade k' a' =>
        -- only the upgrade puts the key into the map
        have hmem := hkeys (applicationKey exePath commandLine appName)
        rw [hres.2, hres'.2, mem_upgradeApp] at hmem
        exact absurd (hmem.mpr (.inl rfl)) hkey
    | upgrade k a =>
      obtain ⟨rfl, hk⟩ := entry_of_upgrade hm
      cases m' with
      | reuse a' =>
        have hmem := hkeys (applicationKey exePath commandLine appName)
        rw [hres.2, hres'.2, mem_upgradeApp] at hmem
        exact absurd (hmem.mp (.inl rfl)) hkey
      | upgrade k' a' =>
        obtain ⟨rfl, hk'⟩ := entry_of_upgrade hm'
        have hin : k ∈ s.applications := AList.lookup_isSome.mp (by rw [he]; rfl)
        -- the key that is upgraded is gone afterwards
        have hmem := hkeys k
        rw [hres.2, hres'.2, mem_upgradeApp, mem_upgradeApp] at hmem
        by_cases hkk : k = k'
        · subst hkk
          exact congrArg (AppMatch.upgrade k) (Option.some.inj (he.symm.trans he'))
        · exact absurd (hmem.mpr (.inr ⟨hkk, hin⟩)) (by simp [hk])
  · rintro hone o o'
    have hfind : applicationKey exePath commandLine appName ∉ s.applications →
        findApplication o (applicationKey exePath commandLine appName) appName s.toCounterTree =
          findApplication o' (applicationKey exePath commandLine appName) appName
            s.toCounterTree := by
      intro hkey
      unfold findApplication
      rcases hone.resolve_left hkey with hpath | halike
      · rw [hpath]
        rfl
      · rw [(IterOrder.findSome?_eq_iff s.applications _).mpr halike o o']
    have heq : findOrMapApplication h o now exePath commandLine appName s =
        findOrMapApplication h o' now exePath commandLine appName s := by
      unfold findOrMapApplication
      simp only
      cases hlookup : s.applications.lookup (applicationKey exePath commandLine appName) with
      | some a => rfl
      | none => rw [hfind (AList.lookup_eq_none.mp hlookup)]
    simp only [heq, true_and, implies_true]

/-! ## A browser -/

/-- Process 7 is a chat program that brings its own browser, process 8 is the browser. -/
def browserEnv : MapEnv :=
  { order := .stored
    now := 0
    procInfo := fun pid =>
      if pid = 7 then { exePath := "/usr/lib/chat", comm := "chat" }
      else { exePath := "/usr/lib/browser", comm := "browser" } }

/-- The browser that the chat program starts has a file name of the one and the name of the other:
the order in which the map is stored decides. -/
theorem sameInEveryOrder_fails_browser : ¬ ∀ (ops : List SystemMapOp) (now : Msec)
    (exePath commandLine appName : String),
      SameInEveryOrder (fun _ _ (u : Unit) => u) now exePath commandLine appName
        (run (step fun _ _ (u : Unit) => u) (init 0 "host" ()) ops) := by
  intro hall
  have happ := (hall [.mapSocket browserEnv 9 false 7 false, .mapSocket browserEnv 10 false 8 false]
    0 "/opt/chat/browser" "/opt/chat/browser" "chat" .stored
    ⟨List.reverse, List.reverse_perm⟩).1
  exact absurd happ (by decide +kernel)

end SystemMap

end Waechter
