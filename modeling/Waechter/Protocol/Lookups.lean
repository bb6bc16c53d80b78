import Waechter.Daemon.IP2Asn
import Waechter.Daemon.Resolver
import Waechter.Lib.AskOnce

/-!
# Host names and AS data on demand

What the client shows of an address it asks the daemon for, when the address is drawn for the first
time: `WTrafficTree::ResolveAddress` asks for the host name and `WDetailsWindow::Draw` for the AS
data. Each puts a placeholder in its map so that it asks once. The daemon's `HandleResolveRequest`
and `HandleIPLookupRequest` put the address in the queue of `WResolver` and of `WIP2Asn`, and send
the answer with the callback of the promise, when the socket is still connected. A run is one of the
client between two calls of `WTrafficTree::Clear`; the queue has the requests of other clients too.
The thread of a queue waits in `TPromise::Finish` until the callback is there, so that taking a
request and answering it is one step.

* `HostNames.named_iff`: an address has its name exactly when it was drawn on a connection that held
  until the answer came. A reconnected client does not ask again.
* `AsnLookups.known_iff`: AS data need that as well, and that the lookup found something: a failed
  one is not answered, and not asked for again.
-/

namespace Waechter

open Lib

/-! ## Host names -/

/-- The client's `ResolvedAddresses`, the connection, and the daemon's `WResolver` with
`PendingAddresses`. -/
abbrev HostNames := Exchange IPAddress String Resolver

/-- What happens; a turn of the resolver's thread comes with what `getnameinfo` says. -/
abbrev HostNameEvent := Exchange.Event IPAddress HostName Empty

/-- `WTrafficTree::ResolveAddress`: the name that is drawn, the map afterwards, and the
`WResolveRequest`. -/
def TrafficTree.resolveAddress (resolvedAddresses : UMap IPAddress String) (address : IPAddress) :
    String × UMap IPAddress String × Option IPAddress :=
  Exchange.look "" resolvedAddresses address

namespace HostNames

variable (ntop : InetNtop) (order : IterOrder)

/-- The turn of `WResolver::ResolverThreadFunc` with the callback of `HandleResolveRequest`. -/
def server : Exchange.Server IPAddress String Resolver HostName Empty where
  answer host resolver address :=
    let handled := Resolver.handle ntop order resolver { address, host }
    (handled.1, some handled.2)
  other := fun _ o => o.elim

def step : HostNames → HostNameEvent → HostNames := Exchange.step (server ntop order) ""

/-- The name that is drawn for an address. -/
def shown (s : HostNames) (address : IPAddress) : String :=
  (TrafficTree.resolveAddress s.cache address).1

/-- The address is not drawn for the first time without a connection, and the connection is not lost
while it is under way. -/
def Undisturbed {V S E O : Type} (address : IPAddress) (s : Exchange IPAddress V S) :
    Exchange.Event IPAddress E O → Prop
  | .look a => a = address → address ∉ s.cache → s.connected = true
  | .disconnect => address ∉ s.pending
  | _ => True

instance Undisturbed.decide {V S E O : Type} (address : IPAddress) (s : Exchange IPAddress V S) :
    (e : Exchange.Event IPAddress E O) → Decidable (Undisturbed address s e)
  | .look _ => inferInstanceAs (Decidable (_ → _ → _))
  | .disconnect => inferInstanceAs (Decidable (_ ∉ _))
  | .deliver | .serve _ | .receive | .connect | .othersAsk _ | .other _ =>
    inferInstanceAs (Decidable True)

/-- Looking at an address loses it exactly when it is disturbed. -/
theorem mem_losses_look {V S E O : Type} (server : Exchange.Server IPAddress V S E O)
    (s : Exchange IPAddress V S) (a address : IPAddress) :
    address ∉ Exchange.losses server s (.look a) ↔
      Undisturbed address s (.look a : Exchange.Event _ E O) := by
  unfold Exchange.losses Undisturbed
  dsimp only
  split
  · rename_i h
    rw [List.mem_singleton]
    constructor
    · intro hne heq
      exact absurd heq.symm hne
    · rintro hdrawn rfl
      exact Bool.false_ne_true (h.1.symm.trans (hdrawn rfl h.2))
  · rename_i h
    refine iff_of_true List.not_mem_nil ?_
    rintro rfl hnot
    by_contra hconnected
    exact h ⟨Bool.eq_false_iff.mpr hconnected, hnot⟩

/-- The resolver answers every request. -/
theorem refused_eq_nil (s : HostNames) (host : HostName) :
    Exchange.refused (server ntop order) s host = [] := by
  unfold Exchange.refused
  split
  · rfl
  · exact if_neg fun h => Option.some_ne_none _ h.2

theorem not_mem_losses_iff (s : HostNames) (e : HostNameEvent) (address : IPAddress) :
    address ∉ Exchange.losses (server ntop order) s e ↔ Undisturbed address s e := by
  cases e with
  | look a => exact mem_losses_look _ s a address
  | serve host =>
    have hnone : Exchange.losses (server ntop order) s (.serve host) = [] :=
      refused_eq_nil ntop order s host
    rw [hnone]
    exact iff_of_true List.not_mem_nil trivial
  | disconnect => exact Iff.rfl
  | deliver => exact iff_of_true List.not_mem_nil trivial
  | receive => exact iff_of_true List.not_mem_nil trivial
  | connect => exact iff_of_true List.not_mem_nil trivial
  | othersAsk a => exact iff_of_true List.not_mem_nil trivial
  | other o => exact o.elim

/-- **Host names.** Over any run the client asks for no address twice. An address that was drawn and
is no longer under way has its name, which is the one the resolver gave, exactly when it was first
drawn with a connection and that was not lost before the answer came. Otherwise it has no name,
however often it is drawn. -/
theorem named_iff (s : HostNames) (hfresh : s.Fresh) (events : List HostNameEvent)
    (address : IPAddress) :
    let s' := run (step ntop order) s events
    address ∈ s'.cache → address ∉ s'.pending →
      s'.sent.Nodup ∧
        ((∃ name, (address, name) ∈ s'.received) ↔
          AllSteps (step ntop order) (Undisturbed address) s events) ∧
        (∀ name, (address, name) ∈ s'.received →
          (address, name) ∈ s'.served ∧ shown s' address = name) ∧
        ((¬∃ name, (address, name) ∈ s'.received) → shown s' address = "") := by
  intro s' hcached hpending
  obtain ⟨hsent, hreceived, hsettled⟩ :=
    Exchange.run_settled (server ntop order) "" events hfresh
  obtain ⟨hiff, hblank⟩ := hsettled address hcached hpending
  have hshown : ∀ name, s'.cache.lookup address = some name → shown s' address = name := by
    intro name hname
    unfold shown TrafficTree.resolveAddress Exchange.look
    rw [hname]
  refine ⟨hsent, hiff.trans ?_, fun name hname => ?_, fun hnone => hshown "" (hblank hnone)⟩
  · constructor
    · exact AllSteps.mono fun s e => (not_mem_losses_iff ntop order s e address).mp
    · exact AllSteps.mono fun s e => (not_mem_losses_iff ntop order s e address).mpr
  · exact ⟨(hreceived _ hname).1, hshown name (hreceived _ hname).2⟩

/-- 93.184.216.34. -/
def exampleAddress : IPAddress := .ipv4 #v[93, 184, 216, 34]

/-- The client connects, draws the address, and gets its name. -/
def nameRun : List HostNameEvent :=
  [.connect, .look exampleAddress, .deliver, .serve ⟨"example.org", by decide⟩, .receive,
    .look exampleAddress]

theorem named_iff_nameRun :
    let ntop : InetNtop := { inet := fun _ => "93.184.216.34", inet6 := fun _ => "::" }
    let s' := run (step ntop .stored) { server := {} } nameRun
    s'.sent.Nodup ∧
      ((∃ name, (exampleAddress, name) ∈ s'.received) ↔
        AllSteps (step ntop .stored) (Undisturbed exampleAddress) { server := {} } nameRun) ∧
      (∀ name, (exampleAddress, name) ∈ s'.received →
        (exampleAddress, name) ∈ s'.served ∧ shown s' exampleAddress = name) ∧
      ((¬∃ name, (exampleAddress, name) ∈ s'.received) → shown s' exampleAddress = "") :=
  named_iff _ .stored { server := {} } ⟨rfl, rfl, rfl, nofun, rfl, rfl⟩ nameRun exampleAddress
    (by decide) (by decide)

end HostNames

/-! ## AS data -/

/-- The client's `LookupCache`, the connection, and the daemon's `WIP2Asn` with
`PendingAddresses`. -/
abbrev AsnLookups := Exchange IPAddress IP2AsnDB.LookupResult IP2Asn

/-- What happens, with what else happens to the daemon's `WIP2Asn`. -/
abbrev AsnEvent := Exchange.Event IPAddress Unit IP2Asn.Op

namespace AsnLookups

open HostNames (Undisturbed)

variable (pton : InetPton) (sorts : IP2AsnDB.Sorts)

/-- `WIP2AsnLookupResult{}`: nothing is drawn for AS number 0. -/
def placeholder : IP2AsnDB.LookupResult := { asn := 0, country := [], organization := [] }

/-- The part of `WDetailsWindow::Draw` for the socket that is selected: the AS data, the map
afterwards, and the `WIPLookupRequest`. -/
def draw (lookupCache : UMap IPAddress IP2AsnDB.LookupResult) (address : IPAddress) :
    IP2AsnDB.LookupResult × UMap IPAddress IP2AsnDB.LookupResult × Option IPAddress :=
  Exchange.look placeholder lookupCache address

/-- The turn of `WIP2Asn::LookupThreadFunc` with the callback of `HandleIPLookupRequest`, which
sends nothing when there is no result. -/
def server : Exchange.Server IPAddress IP2AsnDB.LookupResult IP2Asn Unit IP2Asn.Op where
  answer _ s address := IP2Asn.lookupThread s address
  other := IP2Asn.step pton sorts

/-- The client's turn for an answer is `WDetailsWindow::HandleLookupResult`, which takes the address
from the result: it is the one that was asked for. -/
def step : AsnLookups → AsnEvent → AsnLookups :=
  Exchange.step (server pton sorts) placeholder

/-- The lookup of the address finds something. -/
def Found (address : IPAddress) (s : AsnLookups) : AsnEvent → Prop
  | .serve _ => ∀ request ∈ s.queue.head?, s.isCurrent request = true → request.2 = address →
      (IP2Asn.lookupThread (Exchange.server s) address).2 ≠ none
  | _ => True

theorem not_mem_losses_iff (s : AsnLookups) (e : AsnEvent) (address : IPAddress) :
    address ∉ Exchange.losses (server pton sorts) s e ↔
      Undisturbed address s e ∧ Found address s e := by
  cases e with
  | look a => exact (HostNames.mem_losses_look _ s a address).trans (and_iff_left trivial).symm
  | serve _ =>
    refine Iff.trans ?_ (and_iff_right trivial).symm
    change address ∉ Exchange.refused (server pton sorts) s () ↔ _
    unfold Exchange.refused Found
    cases s.queue with
    | nil => exact iff_of_true List.not_mem_nil nofun
    | cons request queue =>
      simp only [List.head?_cons, Option.mem_some_iff, forall_eq']
      change address ∉ (if s.isCurrent request = true ∧
        (IP2Asn.lookupThread (Exchange.server s) request.2).2 = none then [request.2] else []) ↔ _
      split
      · rename_i h
        rw [List.mem_singleton]
        constructor
        · exact fun hne _ heq => absurd heq.symm hne
        · rintro hfound rfl
          exact hfound h.1 rfl h.2
      · rename_i h
        refine iff_of_true List.not_mem_nil fun hcurrent heq hnone => h ⟨hcurrent, ?_⟩
        rw [heq]
        exact hnone
  | disconnect => exact (and_iff_left trivial).symm
  | deliver => exact iff_of_true List.not_mem_nil ⟨trivial, trivial⟩
  | receive => exact iff_of_true List.not_mem_nil ⟨trivial, trivial⟩
  | connect => exact iff_of_true List.not_mem_nil ⟨trivial, trivial⟩
  | othersAsk a => exact iff_of_true List.not_mem_nil ⟨trivial, trivial⟩
  | other o => exact iff_of_true List.not_mem_nil ⟨trivial, trivial⟩

/-! ### The address of an answer -/

theorem address_answer {source : AsnSource} {address : IPAddress} {data : IP2AsnDB.LookupResult}
    (h : source.answer address = some data) : data.address = address := by
  unfold AsnSource.answer at h
  obtain ⟨result, -, rfl⟩ := Option.map_eq_some_iff.mp h
  rfl

/-- What the daemon remembers of an address has that address. -/
theorem address_cached {s : IP2Asn} (h : s.Sound) {address : IPAddress}
    {data : IP2AsnDB.LookupResult} (hdata : s.cache.entries.lookup address = some (some data)) :
    data.address = address := by
  rw [h.filled address] at hdata
  obtain ⟨source, -, hsource⟩ := Option.map_eq_some_iff.mp hdata
  exact address_answer hsource

theorem address_lookupThread {s : IP2Asn} (h : s.Sound) {address : IPAddress}
    {data : IP2AsnDB.LookupResult} (hdata : (IP2Asn.lookupThread s address).2 = some data) :
    data.address = address := by
  unfold IP2Asn.lookupThread at hdata
  split at hdata
  · cases hdata
  · split at hdata
    · rename_i result hcached
      rw [show result = some data from hdata] at hcached
      exact address_cached h hcached
    · rename_i hnone
      unfold IP2Asn.lookupAddress at hdata
      split at hdata
      · cases hdata
      · split at hdata
        · cases hdata
        · split at hdata
          · cases hdata
          · unfold IP2Asn.lookupCached Memo.get at hdata
            rw [hnone] at hdata
            exact address_answer hdata

/-- The daemon's cache is sound, and the answers are for the addresses that were asked for. -/
structure RightAddress (s : AsnLookups) : Prop where
  sound : (Exchange.server s).Sound
  address : ∀ p ∈ s.served, p.2.address = p.1

theorem RightAddress.step {s : AsnLookups} (h : RightAddress s) (e : AsnEvent) :
    RightAddress (step pton sorts s e) := by
  cases e with
  | serve _ =>
    change RightAddress (Exchange.serve (server pton sorts) s ())
    unfold Exchange.serve
    split
    · exact h
    · rename_i request queue hqueue
      have hsound := h.sound.lookupThread request.2
      dsimp only
      split
      · refine ⟨hsound, fun p hp => ?_⟩
        rcases List.mem_append.mp hp with hp | hp
        · exact h.address p hp
        · rw [Option.mem_toList] at hp
          obtain ⟨data, hdata, rfl⟩ := Option.map_eq_some_iff.mp hp
          exact address_lookupThread h.sound hdata
      · exact ⟨hsound, h.address⟩
  | other o => exact ⟨h.sound.step pton sorts o, h.address⟩
  | look _ => exact ⟨h.sound, h.address⟩
  | othersAsk _ => exact ⟨h.sound, h.address⟩
  | disconnect => exact ⟨h.sound, h.address⟩
  | deliver =>
    unfold AsnLookups.step Exchange.step
    dsimp only
    split <;> exact ⟨h.sound, h.address⟩
  | receive =>
    unfold AsnLookups.step Exchange.step
    dsimp only
    split <;> exact ⟨h.sound, h.address⟩
  | connect =>
    unfold AsnLookups.step Exchange.step
    dsimp only
    split <;> exact ⟨h.sound, h.address⟩

/-- **AS data.** Over any run the client asks for no address twice. An address that was drawn and is
no longer under way has its AS data, which are those the daemon found for it, exactly when it was
first drawn with a connection, that was not lost before the answer came, and the lookup found
something. Otherwise it has none, however often it is drawn. -/
theorem known_iff (s : AsnLookups) (hfresh : s.Fresh) (hright : RightAddress s)
    (events : List AsnEvent) (address : IPAddress) :
    let s' := run (step pton sorts) s events
    address ∈ s'.cache → address ∉ s'.pending →
      s'.sent.Nodup ∧
        ((∃ data, (address, data) ∈ s'.received) ↔ AllSteps (step pton sorts)
          (fun s e => Undisturbed address s e ∧ Found address s e) s events) ∧
        (∀ data, (address, data) ∈ s'.received → (address, data) ∈ s'.served ∧
          data.address = address ∧ (draw s'.cache address).1 = data) ∧
        ((¬∃ data, (address, data) ∈ s'.received) →
          (draw s'.cache address).1 = placeholder) := by
  intro s' hcached hpending
  obtain ⟨hsent, hreceived, hsettled⟩ :=
    Exchange.run_settled (server pton sorts) placeholder events hfresh
  obtain ⟨hiff, hblank⟩ := hsettled address hcached hpending
  have hright' : RightAddress s' := run_of_step (fun _ e h => h.step pton sorts e) events hright
  have hdrawn : ∀ data, s'.cache.lookup address = some data → (draw s'.cache address).1 = data := by
    intro data hdata
    unfold draw Exchange.look
    rw [hdata]
  refine ⟨hsent, hiff.trans ?_, fun data hdata => ?_, fun hnone => hdrawn _ (hblank hnone)⟩
  · constructor
    · exact AllSteps.mono fun s e => (not_mem_losses_iff pton sorts s e address).mp
    · exact AllSteps.mono fun s e => (not_mem_losses_iff pton sorts s e address).mpr
  · obtain ⟨hserved, hlookup⟩ := hreceived _ hdata
    exact ⟨hserved, hright'.address _ hserved, hdrawn data hlookup⟩

/-- The daemon opens its database, the client draws an address that is in it, and gets an answer. -/
def asnRun : List AsnEvent :=
  [.other (.init .written), .connect, .look (.ipv4 #v[5, 0, 0, 77]), .deliver, .serve (), .receive]

theorem known_iff_asnRun :
    let start : AsnLookups := { server := { disk := { tsv := some IP2AsnDB.tsvA } } }
    let address : IPAddress := .ipv4 #v[5, 0, 0, 77]
    let s' := run (step IP2AsnDB.ptonAB ⟨.stable _, .stable _⟩) start asnRun
    s'.sent.Nodup ∧
      ((∃ data, (address, data) ∈ s'.received) ↔
        AllSteps (step IP2AsnDB.ptonAB ⟨.stable _, .stable _⟩)
          (fun s e => Undisturbed address s e ∧ Found address s e) start asnRun) ∧
      (∀ data, (address, data) ∈ s'.received → (address, data) ∈ s'.served ∧
        data.address = address ∧ (draw s'.cache address).1 = data) ∧
      ((¬∃ data, (address, data) ∈ s'.received) → (draw s'.cache address).1 = placeholder) :=
  known_iff _ _ { server := { disk := { tsv := some IP2AsnDB.tsvA } } }
    ⟨rfl, rfl, rfl, nofun, rfl, rfl⟩ ⟨IP2Asn.sound_start _, nofun⟩ asnRun _ (by decide) (by decide)

end AsnLookups

end Waechter
