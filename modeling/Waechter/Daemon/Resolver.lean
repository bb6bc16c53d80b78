import Waechter.Lib.CostedMap
import Waechter.Lib.Run
import Waechter.Util.IPAddress

/-!
# The resolver's cache

`WResolver` (`Daemon/Net/Resolver.cpp`). One thread takes the requests off a queue; what it
resolves with `getnameinfo` stays in `ResolvedAddresses`, and `CurrentCacheRamUsage` is to say how
much memory the entries take. `ResolveAddress` charges an entry for the name `getnameinfo` gave
before it decides what to store, and stores nothing when the name is the address itself; an
eviction refunds what is stored.

`inet_ntop` is a parameter, and so is the order of the hash map, whose first entry is evicted. A
`Char` stands for a `char`.

* `accounted_iff`: the counter is what the entries take, through a whole run, exactly when no
  address resolves to itself.
-/

namespace Waechter

open Lib

/-- `inet_ntop`. -/
structure InetNtop where
  inet : Vector UInt8 4 → String
  inet6 : Vector UInt8 16 → String

/-- `WIPAddress::ToString`. -/
def InetNtop.toString (ntop : InetNtop) (a : IPAddress) : String :=
  match a.family with
  | .ipv4 => ntop.inet (Vector.ofFn fun k : Fin 4 => a.bytes[k.val])
  | _ => ntop.inet6 a.bytes

/-- The array `Host` after `getnameinfo`: a name, or nothing when that failed. It has `NI_MAXHOST`
bytes. -/
structure HostName where
  text : String
  fits : text.length < 1025

/-- `WResolver`, without the queue and its thread. -/
structure Resolver where
  resolvedAddresses : UMap IPAddress String := ∅
  currentCacheRamUsage : UInt64 := 0

namespace Resolver

/-- `MaxCacheRamUsage`. -/
def maxCacheRamUsage : UInt64 := 1024 * 1024

def sizeofIPAddress : Nat := 17

def sizeofString : Nat := 32

/-- What an entry with that name takes. -/
def cost (name : String) : Nat := sizeofIPAddress + name.length + 1 + sizeofString

variable (ntop : InetNtop) (order : IterOrder)

/-- `WResolver::ResolveAddress`, when `getnameinfo` has filled `Host`, and the value the promise is
finished with. -/
def resolveAddress (s : Resolver) (address : IPAddress) (host : HostName) : Resolver × String :=
  let usage := s.currentCacheRamUsage + UInt64.ofNat (cost host.text)
  let (usage, resolved) :=
    if maxCacheRamUsage < usage then
      UMap.evict cost order (maxCacheRamUsage / 2) usage s.resolvedAddresses
    else (usage, s.resolvedAddresses)
  if host.text = ntop.toString address then
    ({ resolvedAddresses := resolved.insert address "", currentCacheRamUsage := usage }, "")
  else
    ({ resolvedAddresses := resolved.insert address host.text, currentCacheRamUsage := usage },
      host.text)

/-- A request the thread takes off the queue, and what `getnameinfo` says to it. -/
structure Request where
  address : IPAddress
  host : HostName

/-- The turn of `WResolver::ResolverThreadFunc` for a request. -/
def handle (s : Resolver) (r : Request) : Resolver × String :=
  if r.address.isZero then (s, "")
  else
    match s.resolvedAddresses.lookup r.address with
    | some name => (s, name)
    | none => resolveAddress ntop order s r.address r.host

def step (s : Resolver) (r : Request) : Resolver := (handle ntop order s r).1

/-- The request is one for `getnameinfo`. -/
def Resolves (s : Resolver) (r : Request) : Prop :=
  r.address.isZero = false ∧ s.resolvedAddresses.lookup r.address = none

instance (s : Resolver) (r : Request) : Decidable (Resolves s r) :=
  inferInstanceAs (Decidable (_ ∧ _))

/-- What the entries take. -/
def total (s : Resolver) : Nat := UMap.totalCost cost s.resolvedAddresses

/-- The counter says what the entries take. -/
def Accounted (s : Resolver) : Prop := s.currentCacheRamUsage.toNat = s.total

instance (s : Resolver) : Decidable (Accounted s) := inferInstanceAs (Decidable (_ = _))

/-- The eviction of a step takes nothing off the counter that it does not hold, and entries are
dropped only when they and the new one take more than the maximum. -/
def EvictsRightly (s : Resolver) (r : Request) : Prop :=
  UMap.Covered cost order (maxCacheRamUsage / 2)
    (s.currentCacheRamUsage + UInt64.ofNat (cost r.host.text)) s.resolvedAddresses ∧
  (∀ k ∈ s.resolvedAddresses, k ∉ (step ntop order s r).resolvedAddresses →
    maxCacheRamUsage.toNat < s.total + cost r.host.text)

/-- A name that `getnameinfo` gives is not the address itself. -/
def NamesDiffer (s : Resolver) (r : Request) : Prop :=
  Resolves s r → r.host.text ≠ "" → r.host.text ≠ ntop.toString r.address

instance (s : Resolver) (r : Request) : Decidable (NamesDiffer ntop s r) :=
  inferInstanceAs (Decidable (_ → _ → _))

/-! ## One step -/

/-- What holds between the requests of a run in which the names differ. -/
structure Balanced (s : Resolver) : Prop where
  accounted : Accounted s
  bounded : s.currentCacheRamUsage ≤ maxCacheRamUsage

theorem step_of_not_resolves {s : Resolver} {r : Request} (h : ¬ Resolves s r) :
    step ntop order s r = s := by
  unfold step handle
  split
  · rfl
  · rename_i hzero
    split
    · rfl
    · rename_i hnone
      exact absurd ⟨Bool.eq_false_iff.mpr hzero, hnone⟩ h

theorem cost_lt (host : HostName) : cost host.text < 2048 := by
  have := host.fits
  unfold cost sizeofIPAddress sizeofString
  omega

/-- The charge of a balanced resolver does not wrap. -/
theorem Balanced.charge {s : Resolver} (h : Balanced s) (host : HostName) :
    (s.currentCacheRamUsage + UInt64.ofNat (cost host.text)).toNat = s.total + cost host.text := by
  have hcost := cost_lt host
  have hbound : s.currentCacheRamUsage.toNat ≤ 1024 * 1024 := UInt64.le_iff_toNat_le.mp h.bounded
  have hof : (UInt64.ofNat (cost host.text)).toNat = cost host.text :=
    UInt64.toNat_ofNat_of_lt' (by rw [UInt64.size]; omega)
  rw [UInt64.toNat_add, hof, Nat.mod_eq_of_lt (by omega), h.accounted]

/-- The state a resolution leaves: what is left after an eviction, with the new entry. -/
theorem resolveAddress_spec {s : Resolver} (h : Balanced s) {r : Request} (hr : Resolves s r) :
    ∃ (usage : UInt64) (resolved : UMap IPAddress String) (name : String),
      step ntop order s r =
        { resolvedAddresses := resolved.insert r.address name, currentCacheRamUsage := usage } ∧
      name = (if r.host.text = ntop.toString r.address then "" else r.host.text) ∧
      (∀ k ∈ resolved, k ∈ s.resolvedAddresses) ∧
      usage.toNat = UMap.totalCost cost resolved + cost r.host.text ∧
      usage ≤ maxCacheRamUsage ∧
      EvictsRightly ntop order s r := by
  obtain ⟨hzero, hnone⟩ := hr
  have hcharge := h.charge r.host
  have hcost := cost_lt r.host
  have hstep : step ntop order s r = (resolveAddress ntop order s r.address r.host).1 := by
    unfold step handle
    rw [if_neg (by rw [hzero]; exact Bool.noConfusion), hnone]
  obtain ⟨hevicted, hcovered⟩ := UMap.evict_spec cost order (maxCacheRamUsage / 2)
    (s.currentCacheRamUsage + UInt64.ofNat (cost r.host.text)) s.resolvedAddresses
    (by rw [hcharge]; exact Nat.le_add_right _ _)
  set usage := s.currentCacheRamUsage + UInt64.ofNat (cost r.host.text) with husage
  by_cases hover : maxCacheRamUsage < usage
  · obtain ⟨hbalance, hstopped, herased⟩ := hevicted
    set after := UMap.evict cost order (maxCacheRamUsage / 2) usage s.resolvedAddresses with hafter
    refine ⟨after.1, after.2, _, ?_, rfl, herased, ?_, ?_, hcovered, fun _ _ _ => ?_⟩
    · rw [hstep, resolveAddress]
      simp only [← husage, if_pos hover, ← hafter]
      split <;> rfl
    · rw [hcharge, total] at hbalance
      omega
    · rcases hstopped with hle | hempty
      · exact UInt64.le_trans hle (by decide)
      · rw [hempty, UMap.totalCost_empty, hcharge, total] at hbalance
        rw [UInt64.le_iff_toNat_le]
        change _ ≤ 1024 * 1024
        omega
    · rw [← hcharge]
      exact UInt64.lt_iff_toNat_lt.mp hover
  · have hresult : step ntop order s r =
        { resolvedAddresses := s.resolvedAddresses.insert r.address
            (if r.host.text = ntop.toString r.address then "" else r.host.text)
          currentCacheRamUsage := usage } := by
      rw [hstep, resolveAddress]
      simp only [← husage, if_neg hover]
      split <;> rfl
    refine ⟨usage, s.resolvedAddresses, _, hresult, rfl, fun _ hk => hk, hcharge,
      UInt64.not_lt.mp hover, hcovered, fun k hk hgone => ?_⟩
    rw [hresult] at hgone
    exact absurd ((AList.mem_insert _).mpr (.inr hk)) hgone

/-- What a resolution of a balanced resolver leaves of the balance: the counter is ahead by what the
stored name is shorter. -/
theorem Balanced.step_total {s : Resolver} (h : Balanced s) {r : Request} (hr : Resolves s r) :
    (step ntop order s r).currentCacheRamUsage.toNat +
        (if r.host.text = ntop.toString r.address then cost "" else cost r.host.text) =
      (step ntop order s r).total + cost r.host.text := by
  obtain ⟨usage, resolved, name, hstep, rfl, hsub, husage, -, -⟩ :=
    resolveAddress_spec ntop order h hr
  have hnone : resolved.lookup r.address = none := by
    rw [AList.lookup_eq_none]
    intro hmem
    have := hsub _ hmem
    rw [← AList.lookup_isSome, hr.2] at this
    cases this
  rw [hstep, total, UMap.totalCost_insert cost resolved hnone]
  dsimp only
  rw [husage]
  split <;> omega

theorem Balanced.step {s : Resolver} (h : Balanced s) (r : Request)
    (hdiffer : NamesDiffer ntop s r) :
    Balanced (step ntop order s r) := by
  by_cases hr : Resolves s r
  · have htotal := h.step_total ntop order hr
    obtain ⟨usage, resolved, name, hstep, -, -, -, hbound, -⟩ := resolveAddress_spec ntop order h hr
    refine ⟨?_, by rw [hstep]; exact hbound⟩
    unfold Accounted
    split at htotal
    · rename_i hself
      have hempty : r.host.text = "" := by
        by_contra hne
        exact hdiffer hr hne hself
      rw [hempty] at htotal
      omega
    · omega
  · rw [step_of_not_resolves ntop order hr]
    exact h

theorem length_ne_zero {text : String} (h : text ≠ "") : text.length ≠ 0 := by
  rwa [ne_eq, String.length_eq_zero_iff]

/-- **A resolution whose name is the address makes the counter wrong at once.** -/
theorem Balanced.differ {s : Resolver} (h : Balanced s) (r : Request)
    (hnext : Accounted (Resolver.step ntop order s r)) : NamesDiffer ntop s r := by
  intro hr hne hself
  have htotal := h.step_total ntop order hr
  have hpos := length_ne_zero hne
  rw [if_pos hself, hnext] at htotal
  have hlength : r.host.text.length = 0 := by
    have h0 : "".length = 0 := rfl
    unfold cost at htotal
    omega
  exact hpos hlength

theorem Balanced.evictsRightly {s : Resolver} (h : Balanced s) (r : Request) :
    EvictsRightly ntop order s r := by
  by_cases hr : Resolves s r
  · obtain ⟨-, -, -, -, -, -, -, -, hevicts⟩ := resolveAddress_spec ntop order h hr
    exact hevicts
  · refine ⟨(UMap.evict_spec cost order _ _ _ (by rw [h.charge]; exact Nat.le_add_right _ _)).2, ?_⟩
    intro k hk hgone
    rw [step_of_not_resolves ntop order hr] at hgone
    exact absurd hk hgone

theorem balanced_start : Balanced {} := ⟨rfl, by decide⟩

/-! ## Runs -/

/-- **The counter is what the entries take**, in every state of a run, no eviction underflows and
none comes too early, exactly when no address resolves to itself. -/
theorem accounted_iff (requests : List Request) :
    (Always (step ntop order) Accounted {} requests ∧
      AllSteps (step ntop order) (EvictsRightly ntop order) {} requests) ↔
    AllSteps (step ntop order) (NamesDiffer ntop) {} requests := by
  have hkeep (s : Resolver) (r : Request) (h : Balanced s) (hdiffer : NamesDiffer ntop s r) :
      Balanced (step ntop order s r) := h.step ntop order r hdiffer
  have hbreak (s : Resolver) (r : Request) (h : Balanced s)
      (hnext : Accounted (step ntop order s r)) : NamesDiffer ntop s r :=
    h.differ ntop order r hnext
  have hiff := always_iff_allSteps (fun _ h => Balanced.accounted h) hkeep hbreak requests
    balanced_start
  constructor
  · rintro ⟨halways, -⟩
    exact hiff.mp halways
  · intro hdiffer
    exact ⟨hiff.mpr hdiffer, hdiffer.imp hkeep
      (fun _ r h _ => h.evictsRightly ntop order r) balanced_start⟩

/-- An address without a name: `getnameinfo` gives its digits, which are charged and not stored. -/
theorem accounted_fails_numeric :
    let ntop : InetNtop := { inet := fun _ => "1.0.0.1", inet6 := fun _ => "::" }
    ¬ Always (step ntop .stored) Accounted {}
      [{ address := .ipv4 #v[1, 0, 0, 1], host := ⟨"1.0.0.1", by decide⟩ }] := by
  rintro ntop ⟨-, h⟩
  have hend : Accounted (step ntop .stored {}
    { address := .ipv4 #v[1, 0, 0, 1], host := ⟨"1.0.0.1", by decide⟩ }) := h
  revert hend
  decide

end Resolver

end Waechter
