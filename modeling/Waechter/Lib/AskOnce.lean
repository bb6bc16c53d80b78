import Mathlib.Data.List.Nodup
import Waechter.Lib.Run
import Waechter.Lib.UMap

/-!
# Asking once

One side asks another for the values of keys and remembers the answers. When it first looks at a key
it remembers a blank for it, so that it does not ask again. The requests travel on a connection,
wait in a queue that others put requests in as well, and the answers come back on the connection.
Connections are lost and made again; an answer goes to the connection the request came from.

The `Ledger` is the abstract model: what is remembered, which keys are under way, in the order in
which they were asked for, and what came back. `Moves` are its transitions, each with the keys it
loses.

* `Exchange.step_moves`: a step of the exchange is a move of its ledger.
* `Ledger.Moves.lost_iff`: a key is lost in a move, or it was before.
* `Exchange.run_settled`: over any run no key is asked for twice, and a key that is no longer under
  way has its answer exactly when no step lost it.
-/

namespace Lib

theorem nodup_append_singleton {α : Type} {l : List α} {a : α} (ha : a ∉ l) (h : l.Nodup) :
    (l ++ [a]).Nodup :=
  List.concat_eq_append ▸ List.Nodup.concat ha h

variable {K V : Type} [DecidableEq K]

/-! ## The ledger -/

/-- What is remembered, what was asked for, what is under way, and what came back. -/
structure Ledger (K V : Type) [DecidableEq K] where
  cache : UMap K V := ∅
  sent : List K := []
  pending : List K := []
  received : List (K × V) := []

namespace Ledger

/-- What can happen, with the keys that are lost. -/
inductive Moves (blank : V) : Ledger K V → List K → Ledger K V → Prop
  | stay (l : Ledger K V) : Moves blank l [] l
  | ask (l : Ledger K V) (k : K) (hk : k ∉ l.cache) :
      Moves blank l [] { l with
        cache := l.cache.insert k blank
        sent := l.sent ++ [k]
        pending := l.pending ++ [k] }
  | askNobody (l : Ledger K V) (k : K) (hk : k ∉ l.cache) :
      Moves blank l [k] { l with cache := l.cache.insert k blank }
  | refuse (l : Ledger K V) (before : List K) (k : K) (behind : List K)
      (hk : l.pending = before ++ k :: behind) :
      Moves blank l [k] { l with pending := before ++ behind }
  | receive (l : Ledger K V) (k : K) (v : V) (rest : List K) (hk : l.pending = k :: rest) :
      Moves blank l [] { l with
        cache := l.cache.insert k v
        pending := rest
        received := l.received ++ [(k, v)] }
  | cut (l : Ledger K V) : Moves blank l l.pending { l with pending := [] }

/-- The keys that came back. -/
def answered (l : Ledger K V) : List K := l.received.map (·.1)

/-- The invariant. -/
structure Consistent (blank : V) (l : Ledger K V) : Prop where
  sent_nodup : l.sent.Nodup
  sent_cached : ∀ k ∈ l.sent, k ∈ l.cache
  pending_nodup : l.pending.Nodup
  pending_cached : ∀ k ∈ l.pending, k ∈ l.cache
  pending_open : ∀ k ∈ l.pending, k ∉ l.answered
  answered_nodup : l.answered.Nodup
  cache_received : ∀ p ∈ l.received, l.cache.lookup p.1 = some p.2
  cache_blank : ∀ k ∈ l.cache, k ∉ l.answered → l.cache.lookup k = some blank

/-- The key was looked at, and is neither under way nor answered. -/
def Lost (l : Ledger K V) (k : K) : Prop := k ∈ l.cache ∧ k ∉ l.pending ∧ k ∉ l.answered

variable {blank : V} {l l' : Ledger K V} {losses : List K}

theorem Consistent.answered_cached (h : Consistent blank l) {k : K} (hk : k ∈ l.answered) :
    k ∈ l.cache := by
  obtain ⟨p, hp, rfl⟩ := List.mem_map.mp hk
  exact UMap.mem_iff_lookup.mpr (by rw [h.cache_received p hp]; exact Option.some_ne_none _)

theorem consistent_empty : Consistent blank ({} : Ledger K V) where
  sent_nodup := List.nodup_nil
  sent_cached := nofun
  pending_nodup := List.nodup_nil
  pending_cached := nofun
  pending_open := nofun
  answered_nodup := List.nodup_nil
  cache_received := nofun
  cache_blank := fun k hk => absurd hk (AList.notMem_empty k)

/-- A new key gets its blank. -/
theorem Consistent.look (h : Consistent blank l) {k : K} (hk : k ∉ l.cache) :
    Consistent blank { l with cache := l.cache.insert k blank } where
  sent_nodup := h.sent_nodup
  sent_cached := fun q hq => (AList.mem_insert _).mpr (.inr (h.sent_cached q hq))
  pending_nodup := h.pending_nodup
  pending_cached := fun q hq => (AList.mem_insert _).mpr (.inr (h.pending_cached q hq))
  pending_open := h.pending_open
  answered_nodup := h.answered_nodup
  cache_received := fun p hp => by
    have hne : p.1 ≠ k := fun heq =>
      hk (heq ▸ h.answered_cached (List.mem_map_of_mem (f := Prod.fst) hp))
    rw [UMap.lookup_insert_ite, if_neg hne]
    exact h.cache_received p hp
  cache_blank := fun q hq hopen => by
    rw [UMap.lookup_insert_ite]
    split
    · rfl
    · rename_i hne
      exact h.cache_blank q (((AList.mem_insert _).mp hq).resolve_left hne) hopen

/-- **Every move keeps the invariant.** -/
theorem Moves.consistent (hmove : Moves blank l losses l') (h : Consistent blank l) :
    Consistent blank l' := by
  cases hmove with
  | stay => exact h
  | ask k hk =>
    have hlook := h.look hk
    exact {
      sent_nodup := nodup_append_singleton (fun hs => hk (h.sent_cached k hs)) h.sent_nodup
      sent_cached := fun q hq => by
        rcases List.mem_append.mp hq with hq | hq
        · exact hlook.sent_cached q hq
        · exact (AList.mem_insert _).mpr (.inl (List.mem_singleton.mp hq))
      pending_nodup := nodup_append_singleton (fun hp => hk (h.pending_cached k hp)) h.pending_nodup
      pending_cached := fun q hq => by
        rcases List.mem_append.mp hq with hq | hq
        · exact hlook.pending_cached q hq
        · exact (AList.mem_insert _).mpr (.inl (List.mem_singleton.mp hq))
      pending_open := fun q hq => by
        rcases List.mem_append.mp hq with hq | hq
        · exact h.pending_open q hq
        · rw [List.mem_singleton.mp hq]
          exact fun ha => hk (h.answered_cached ha)
      answered_nodup := h.answered_nodup
      cache_received := hlook.cache_received
      cache_blank := hlook.cache_blank }
  | askNobody k hk => exact h.look hk
  | refuse before k behind hk =>
    have hsub : (before ++ behind).Sublist l.pending :=
      hk ▸ (List.Sublist.refl before).append (List.sublist_cons_self k behind)
    exact { h with
      pending_nodup := h.pending_nodup.sublist hsub
      pending_cached := fun q hq => h.pending_cached q (hsub.subset hq)
      pending_open := fun q hq => h.pending_open q (hsub.subset hq) }
  | receive k v rest hk =>
    have hnodup := h.pending_nodup
    rw [hk, List.nodup_cons] at hnodup
    have hopen := h.pending_open k (hk ▸ List.mem_cons_self)
    have hrest : ∀ q ∈ rest, q ∈ l.pending := fun q hq => hk ▸ List.mem_cons_of_mem k hq
    have hanswered : ({ l with
        cache := l.cache.insert k v
        pending := rest
        received := l.received ++ [(k, v)] } : Ledger K V).answered = l.answered ++ [k] :=
      List.map_append
    refine ⟨h.sent_nodup, fun q hq => (AList.mem_insert _).mpr (.inr (h.sent_cached q hq)),
      hnodup.2, fun q hq => (AList.mem_insert _).mpr (.inr (h.pending_cached q (hrest q hq))),
      fun q hq => ?_, ?_, fun p hp => ?_, fun q hq hnot => ?_⟩
    · rw [hanswered, List.mem_append, List.mem_singleton]
      rintro (ha | rfl)
      · exact h.pending_open q (hrest q hq) ha
      · exact hnodup.1 hq
    · rw [hanswered]
      exact nodup_append_singleton hopen h.answered_nodup
    · rw [UMap.lookup_insert_ite]
      rcases List.mem_append.mp hp with hp | hp
      · have hne : p.1 ≠ k := fun heq =>
          hopen (heq ▸ List.mem_map_of_mem (f := Prod.fst) hp)
        rw [if_neg hne]
        exact h.cache_received p hp
      · rw [List.mem_singleton.mp hp]
        exact if_pos rfl
    · rw [hanswered, List.mem_append, List.mem_singleton, not_or] at hnot
      rw [UMap.lookup_insert_ite, if_neg hnot.2]
      exact h.cache_blank q (((AList.mem_insert _).mp hq).resolve_left hnot.2) hnot.1
  | cut =>
    exact { h with
      pending_nodup := List.nodup_nil
      pending_cached := nofun
      pending_open := nofun }

/-- **What a move loses.** -/
theorem Moves.lost_iff (hmove : Moves blank l losses l') (h : Consistent blank l) (k : K) :
    l'.Lost k ↔ l.Lost k ∨ k ∈ losses := by
  cases hmove with
  | stay => exact (or_iff_left List.not_mem_nil).symm
  | ask q hq =>
    rw [or_iff_left List.not_mem_nil]
    unfold Lost answered
    simp only [AList.mem_insert, List.mem_append, List.mem_singleton, not_or]
    constructor
    · rintro ⟨hcached, ⟨hpending, hne⟩, hopen⟩
      exact ⟨hcached.resolve_left hne, hpending, hopen⟩
    · rintro ⟨hcached, hpending, hopen⟩
      exact ⟨.inr hcached, ⟨hpending, fun heq => hq (heq ▸ hcached)⟩, hopen⟩
  | askNobody q hq =>
    unfold Lost
    rw [List.mem_singleton]
    constructor
    · rintro ⟨hcached, hpending, hopen⟩
      rcases (AList.mem_insert _).mp hcached with rfl | hcached
      · exact .inr rfl
      · exact .inl ⟨hcached, hpending, hopen⟩
    · rintro (⟨hcached, hpending, hopen⟩ | rfl)
      · exact ⟨(AList.mem_insert _).mpr (.inr hcached), hpending, hopen⟩
      · exact ⟨(AList.mem_insert _).mpr (.inl rfl), fun hp => hq (h.pending_cached _ hp),
          fun ha => hq (h.answered_cached ha)⟩
  | refuse before q behind hq =>
    have hmem : q ∈ l.pending := hq ▸ List.mem_append_right before List.mem_cons_self
    have hnodup := h.pending_nodup
    rw [hq] at hnodup
    have hgone : q ∉ before ++ behind := (List.nodup_cons.mp (List.nodup_middle.mp hnodup)).1
    have hsplit : k ∈ l.pending ↔ k ∈ before ++ behind ∨ k = q := by
      rw [hq, List.mem_append, List.mem_cons, List.mem_append, or_left_comm, or_comm]
    unfold Lost
    rw [List.mem_singleton]
    constructor
    · rintro ⟨hcached, hpending, hopen⟩
      by_cases heq : k = q
      · exact .inr heq
      · exact .inl ⟨hcached, fun hp => (hsplit.mp hp).elim hpending heq, hopen⟩
    · rintro (⟨hcached, hpending, hopen⟩ | rfl)
      · exact ⟨hcached, fun hp => hpending (hsplit.mpr (.inl hp)), hopen⟩
      · exact ⟨h.pending_cached k hmem, hgone, h.pending_open k hmem⟩
  | receive q v rest hq =>
    have hmem : q ∈ l.pending := hq ▸ List.mem_cons_self
    rw [or_iff_left List.not_mem_nil]
    unfold Lost answered
    simp only [AList.mem_insert, hq, List.mem_cons, List.map_append, List.map_cons, List.map_nil,
      List.mem_append, List.not_mem_nil, or_false, not_or]
    constructor
    · rintro ⟨hcached, hpending, hopen, hne⟩
      exact ⟨hcached.resolve_left hne, ⟨hne, hpending⟩, hopen⟩
    · rintro ⟨hcached, ⟨hne, hpending⟩, hopen⟩
      exact ⟨.inr hcached, hpending, hopen, hne⟩
  | cut =>
    unfold Lost
    constructor
    · rintro ⟨hcached, -, hopen⟩
      by_cases hp : k ∈ l.pending
      · exact .inr hp
      · exact .inl ⟨hcached, hp, hopen⟩
    · rintro (⟨hcached, -, hopen⟩ | hp)
      · exact ⟨hcached, List.not_mem_nil, hopen⟩
      · exact ⟨h.pending_cached k hp, List.not_mem_nil, h.pending_open k hp⟩

end Ledger

/-! ## The exchange -/

/-- Both sides and what is between them. Connections are numbered; with a request in the queue goes
the connection it came on, if it is one of this side. `served` and `received` are the answers that
were given to this side and that reached it. -/
structure Exchange (K V S : Type) [DecidableEq K] where
  cache : UMap K V := ∅
  connected : Bool := false
  connections : Nat := 0
  requests : List K := []
  queue : List (Option Nat × K) := []
  responses : List (K × V) := []
  server : S
  sent : List K := []
  served : List (K × V) := []
  received : List (K × V) := []

namespace Exchange

variable {S E O : Type}

/-- What happens. `serve` comes with what the answering side finds out about the key. -/
inductive Event (K E O : Type) where
  | look (k : K)
  | deliver
  | serve (e : E)
  | receive
  | disconnect
  | connect
  | othersAsk (k : K)
  | other (o : O)

/-- The answering side: what it makes of a request, and what else happens to it. -/
structure Server (K V S E O : Type) where
  answer : E → S → K → S × Option V
  other : S → O → S

/-- Looking at a key: what is there, what is remembered afterwards, and the request. -/
def look (blank : V) (cache : UMap K V) (k : K) : V × UMap K V × Option K :=
  match cache.lookup k with
  | some v => (v, cache, none)
  | none => (blank, cache.insert k blank, some k)

/-- The request came on the present connection. -/
def isCurrent (s : Exchange K V S) (request : Option Nat × K) : Bool :=
  s.connected && request.1 = some s.connections

/-- The keys of the queue that wait for this side. -/
def waiting (s : Exchange K V S) : List K := (s.queue.filter s.isCurrent).map (·.2)

/-- The keys that are under way, the one that was asked for first in front. -/
def pending (s : Exchange K V S) : List K := s.responses.map (·.1) ++ s.waiting ++ s.requests

/-- The turn of the answering side for the first request of its queue. -/
def serve (server : Server K V S E O) (s : Exchange K V S) (e : E) : Exchange K V S :=
  match s.queue with
  | [] => s
  | request :: queue =>
    let served := server.answer e s.server request.2
    let answers := (served.2.map fun v => (request.2, v)).toList
    if s.isCurrent request then
      { s with
        queue := queue
        server := served.1
        responses := s.responses ++ answers
        served := s.served ++ answers }
    else { s with queue := queue, server := served.1 }

def step (server : Server K V S E O) (blank : V) (s : Exchange K V S) :
    Event K E O → Exchange K V S
  | .look k =>
    let looked := look blank s.cache k
    let requests := if s.connected then looked.2.2.toList else []
    { s with
      cache := looked.2.1
      requests := s.requests ++ requests
      sent := s.sent ++ requests }
  | .deliver =>
    match s.requests with
    | [] => s
    | k :: requests =>
      { s with requests := requests, queue := s.queue ++ [(some s.connections, k)] }
  | .serve e => serve server s e
  | .receive =>
    match s.responses with
    | [] => s
    | (k, v) :: responses =>
      { s with
        cache := s.cache.insert k v
        responses := responses
        received := s.received ++ [(k, v)] }
  | .disconnect => { s with connected := false, requests := [], responses := [] }
  | .connect =>
    if s.connected then s else { s with connected := true, connections := s.connections + 1 }
  | .othersAsk k => { s with queue := s.queue ++ [(none, k)] }
  | .other o => { s with server := server.other s.server o }

/-- The key of the first request of the queue, when the answering side gives this side no answer. -/
def refused (server : Server K V S E O) (s : Exchange K V S) (e : E) : List K :=
  match s.queue with
  | [] => []
  | request :: _ =>
    if s.isCurrent request ∧ (server.answer e s.server request.2).2 = none then [request.2] else []

/-- The keys whose answer a step loses: what is looked at without a connection, what is under way
when the connection is lost, and what the answering side does not answer. -/
def losses (server : Server K V S E O) (s : Exchange K V S) : Event K E O → List K
  | .look k => if s.connected = false ∧ k ∉ s.cache then [k] else []
  | .serve e => refused server s e
  | .disconnect => s.pending
  | _ => []

/-- The abstract state. -/
def ledger (s : Exchange K V S) : Ledger K V where
  cache := s.cache
  sent := s.sent
  pending := s.pending
  received := s.received

/-- Nothing travels without a connection, no connection has a number that is yet to come, and what
comes back was given. -/
structure Wired (s : Exchange K V S) : Prop where
  connected : s.connected = false → s.requests = [] ∧ s.responses = []
  numbers : ∀ request ∈ s.queue, ∀ n ∈ request.1, n ≤ s.connections
  given : ∀ p ∈ s.responses ++ s.received, p ∈ s.served

variable {server : Server K V S E O} {blank : V} {s : Exchange K V S}

theorem ledger_eq {s s' : Exchange K V S} (hcache : s'.cache = s.cache) (hsent : s'.sent = s.sent)
    (hpending : s'.pending = s.pending) (hreceived : s'.received = s.received) :
    s'.ledger = s.ledger := by
  unfold ledger
  rw [hcache, hsent, hpending, hreceived]

theorem waiting_of_disconnected (h : s.connected = false) : s.waiting = [] := by
  unfold waiting isCurrent
  rw [h]
  simp

/-- Delivering a request puts its key where the waiting ones end. -/
theorem waiting_deliver (h : s.connected = true) (k : K) (requests : List K) :
    ({ s with requests := requests, queue := s.queue ++ [(some s.connections, k)] } :
      Exchange K V S).waiting = s.waiting ++ [k] := by
  have hcurrent : s.isCurrent (some s.connections, k) = true := by simp [isCurrent, h]
  change ((s.queue ++ [(some s.connections, k)]).filter s.isCurrent).map (·.2) = _
  rw [List.filter_append, List.map_append, List.filter_cons_of_pos hcurrent, List.filter_nil]
  rfl

/-- On a new connection nothing waits. -/
theorem waiting_connect (h : Wired s) :
    ({ s with connected := true, connections := s.connections + 1 } :
      Exchange K V S).waiting = [] := by
  have hnone : ∀ request ∈ s.queue,
      ({ s with connected := true, connections := s.connections + 1 } :
        Exchange K V S).isCurrent request ≠ true := by
    intro request hmem hcurrent
    have hnumber : request.1 = some (s.connections + 1) := by simpa [isCurrent] using hcurrent
    have hle := h.numbers request hmem (s.connections + 1) hnumber
    omega
  unfold waiting
  rw [List.filter_eq_nil_iff.mpr hnone, List.map_nil]

theorem Wired.step (h : Wired s) (e : Event K E O) : Wired (step server blank s e) := by
  cases e with
  | look k =>
    refine ⟨fun hconnected => ?_, h.numbers, h.given⟩
    have hnot : s.connected = false := hconnected
    obtain ⟨hrequests, hresponses⟩ := h.connected hnot
    refine ⟨?_, hresponses⟩
    change s.requests ++ (if s.connected = true then _ else []) = []
    rw [hnot, hrequests]
    rfl
  | deliver =>
    unfold Exchange.step
    dsimp only
    split
    · exact h
    · rename_i k requests hrequests
      refine ⟨fun hconnected => ?_, fun request hmem n hn => ?_, h.given⟩
      · rw [(h.connected hconnected).1] at hrequests
        cases hrequests
      · rcases List.mem_append.mp hmem with hmem | hmem
        · exact h.numbers request hmem n hn
        · rw [List.mem_singleton.mp hmem] at hn
          exact Nat.le_of_eq (Option.some.inj hn).symm
  | serve e =>
    change Wired (serve server s e)
    unfold serve
    split
    · exact h
    · rename_i request queue hqueue
      have hnumbers : ∀ request ∈ queue, ∀ n ∈ request.1, n ≤ s.connections :=
        fun request hmem => h.numbers request (hqueue ▸ List.mem_cons_of_mem _ hmem)
      dsimp only
      split
      · rename_i hcurrent
        refine ⟨fun hconnected => ?_, hnumbers, fun p hp => ?_⟩
        · have hnot : s.connected = false := hconnected
          rw [isCurrent, hnot] at hcurrent
          cases hcurrent
        · rcases List.mem_append.mp hp with hp | hp
          · rcases List.mem_append.mp hp with hp | hp
            · exact List.mem_append_left _ (h.given p (List.mem_append_left _ hp))
            · exact List.mem_append_right _ hp
          · exact List.mem_append_left _ (h.given p (List.mem_append_right _ hp))
      · exact ⟨h.connected, hnumbers, h.given⟩
  | receive =>
    unfold Exchange.step
    dsimp only
    split
    · exact h
    · rename_i k v responses hresponses
      refine ⟨fun hconnected => ?_, h.numbers, fun p hp => h.given p ?_⟩
      · rw [(h.connected hconnected).2] at hresponses
        cases hresponses
      · rw [hresponses]
        simp only [List.mem_append, List.mem_cons, List.not_mem_nil, or_false] at hp ⊢
        tauto
  | disconnect =>
    exact ⟨fun _ => ⟨rfl, rfl⟩, h.numbers, fun p hp => h.given p (List.mem_append_right _ hp)⟩
  | connect =>
    unfold Exchange.step
    dsimp only
    split
    · exact h
    · refine ⟨nofun, fun request hmem n hn => ?_, h.given⟩
      exact Nat.le_succ_of_le (h.numbers request hmem n hn)
  | othersAsk k =>
    refine ⟨h.connected, fun request hmem n hn => ?_, h.given⟩
    rcases List.mem_append.mp hmem with hmem | hmem
    · exact h.numbers request hmem n hn
    · rw [List.mem_singleton.mp hmem] at hn
      cases hn
  | other o => exact ⟨h.connected, h.numbers, h.given⟩

theorem moves_of_eq {s' : Exchange K V S} (heq : s'.ledger = s.ledger) :
    Ledger.Moves blank s.ledger [] s'.ledger := heq ▸ .stay _

/-- A look at a key asks for it when it is new, and loses it when there is no connection. -/
theorem look_moves (k : K) : Ledger.Moves blank s.ledger (losses server s (.look k : Event K E O))
    (step server blank s (.look k : Event K E O)).ledger := by
  unfold Exchange.step losses look
  dsimp only
  cases hlookup : s.cache.lookup k with
  | some v =>
    have hmem : k ∈ s.cache := by
      rw [UMap.mem_iff_lookup, hlookup]
      exact Option.some_ne_none v
    rw [if_neg fun hnot => hnot.2 hmem]
    have hnone : (if s.connected = true then (none : Option K).toList else []) = [] := ite_self _
    rw [hnone, List.append_nil, List.append_nil]
    exact .stay _
  | none =>
    have hnot : k ∉ s.cache := fun hmem => UMap.mem_iff_lookup.mp hmem hlookup
    by_cases hconnected : s.connected = true
    · have hmove : Ledger.Moves blank _ _ _ := .ask s.ledger k hnot
      rw [if_neg fun hlost => Bool.false_ne_true (hlost.1.symm.trans hconnected), if_pos hconnected]
      convert hmove using 1
      change Ledger.mk _ _ (s.responses.map (·.1) ++ s.waiting ++ (s.requests ++ [k])) _ = _
      rw [← List.append_assoc]
      rfl
    · have hmove : Ledger.Moves blank _ _ _ := .askNobody s.ledger k hnot
      rw [if_pos ⟨Bool.eq_false_iff.mpr hconnected, hnot⟩, if_neg hconnected, List.append_nil,
        List.append_nil]
      exact hmove

/-- A turn of the other side answers a request, or refuses it. -/
theorem serve_moves (e : E) :
    Ledger.Moves blank s.ledger (refused server s e) (serve server s e).ledger := by
  unfold serve refused
  cases hqueue : s.queue with
  | nil => exact .stay _
  | cons request queue =>
    dsimp only
    by_cases hcurrent : s.isCurrent request = true
    · have hpending : s.pending = s.responses.map (·.1) ++
          request.2 :: ((queue.filter s.isCurrent).map (·.2) ++ s.requests) := by
        unfold pending waiting
        rw [hqueue, List.filter_cons_of_pos hcurrent, List.map_cons, List.append_assoc,
          List.cons_append]
      rw [if_pos hcurrent]
      cases (server.answer e s.server request.2).2 with
      | none =>
        have hmove : Ledger.Moves blank _ _ _ := .refuse s.ledger _ _ _ hpending
        rw [if_pos ⟨hcurrent, rfl⟩]
        convert hmove using 1
        change Ledger.mk _ _ ((s.responses ++ []).map Prod.fst ++
          (queue.filter s.isCurrent).map Prod.snd ++ s.requests) _ = _
        rw [List.append_nil, List.append_assoc]
        rfl
      | some v =>
        rw [if_neg fun hnot => Option.some_ne_none v hnot.2]
        refine moves_of_eq (ledger_eq rfl rfl ?_ rfl)
        change (s.responses ++ [(request.2, v)]).map (·.1) ++
          (queue.filter s.isCurrent).map (·.2) ++ s.requests = _
        rw [hpending, List.map_append, List.append_assoc, List.append_assoc]
        rfl
    · rw [if_neg hcurrent, if_neg fun hnot => hcurrent hnot.1]
      refine moves_of_eq (ledger_eq rfl rfl ?_ rfl)
      change s.responses.map (·.1) ++ (queue.filter s.isCurrent).map (·.2) ++ s.requests = _
      unfold pending waiting
      rw [hqueue, List.filter_cons_of_neg hcurrent]

/-- **A step of the exchange is a move of its ledger.** -/
theorem step_moves (h : Wired s) (e : Event K E O) :
    Ledger.Moves blank s.ledger (losses server s e) (step server blank s e).ledger := by
  cases e with
  | look k => exact look_moves k
  | deliver =>
    apply moves_of_eq
    unfold Exchange.step
    dsimp only
    split
    · rfl
    · rename_i k requests hrequests
      have hconnected : s.connected = true := by
        by_contra hnot
        rw [(h.connected (Bool.eq_false_iff.mpr hnot)).1] at hrequests
        cases hrequests
      unfold ledger pending
      rw [waiting_deliver hconnected, hrequests]
      simp
  | serve e => exact serve_moves e
  | receive =>
    unfold Exchange.step losses
    dsimp only
    split
    · exact .stay _
    · rename_i k v responses hresponses
      have hpending : s.ledger.pending = k :: (responses.map (·.1) ++ s.waiting ++ s.requests) := by
        simp [ledger, pending, hresponses]
      exact .receive s.ledger k v _ hpending
  | disconnect =>
    have hpending : (step server blank s .disconnect).ledger = { s.ledger with pending := [] } := by
      simp [step, ledger, pending, waiting_of_disconnected]
    rw [hpending]
    exact .cut s.ledger
  | connect =>
    apply moves_of_eq
    unfold Exchange.step
    dsimp only
    split
    · rfl
    · rename_i hnot
      have hwaiting := waiting_of_disconnected (Bool.eq_false_iff.mpr hnot)
      unfold ledger pending
      rw [waiting_connect h, hwaiting]
  | othersAsk k =>
    apply moves_of_eq
    have hother : ¬s.isCurrent (none, k) = true := by simp [isCurrent]
    have hwaiting : (step server blank s (.othersAsk k)).waiting = s.waiting := by
      change ((s.queue ++ [(none, k)]).filter s.isCurrent).map Prod.snd = _
      rw [List.filter_append, List.filter_cons_of_neg hother, List.filter_nil, List.append_nil]
      rfl
    refine ledger_eq rfl rfl ?_ rfl
    unfold pending
    rw [hwaiting]
    rfl
  | other o => exact moves_of_eq rfl

/-- The state of the asking side before it asks anything; others may have asked already. -/
structure Fresh (s : Exchange K V S) : Prop where
  cache : s.cache = ∅
  requests : s.requests = []
  responses : s.responses = []
  numbers : ∀ request ∈ s.queue, ∀ n ∈ request.1, n < s.connections
  sent : s.sent = []
  received : s.received = []

/-- What holds throughout a run. -/
structure Inv (blank : V) (s : Exchange K V S) : Prop where
  wired : Wired s
  consistent : Ledger.Consistent blank s.ledger

theorem Fresh.pending (h : Fresh s) : s.pending = [] := by
  have hnone : ∀ request ∈ s.queue, s.isCurrent request ≠ true := by
    intro request hmem hcurrent
    have hnumber : request.1 = some s.connections := by
      unfold isCurrent at hcurrent
      simp only [Bool.and_eq_true, decide_eq_true_eq] at hcurrent
      exact hcurrent.2
    exact absurd (h.numbers request hmem _ hnumber) (Nat.lt_irrefl _)
  unfold Exchange.pending waiting
  rw [h.requests, h.responses, List.filter_eq_nil_iff.mpr hnone]
  rfl

theorem Fresh.inv (h : Fresh s) : Inv blank s where
  wired := ⟨fun _ => ⟨h.requests, h.responses⟩,
    fun request hmem n hn => Nat.le_of_lt (h.numbers request hmem n hn), by
      rw [h.responses, h.received]
      nofun⟩
  consistent := by
    have hledger : s.ledger = {} := by
      unfold ledger
      rw [h.cache, h.sent, h.pending, h.received]
    rw [hledger]
    exact Ledger.consistent_empty

theorem Inv.step (h : Inv blank s) (e : Event K E O) : Inv blank (step server blank s e) :=
  ⟨h.wired.step e, (step_moves h.wired e).consistent h.consistent⟩

/-- **Lost in a run**: it was lost before, or a step loses it. -/
theorem lost_run_iff (k : K) : ∀ (events : List (Event K E O)) {s : Exchange K V S}, Inv blank s →
    ((run (step server blank) s events).ledger.Lost k ↔
      s.ledger.Lost k ∨ ¬AllSteps (step server blank) (fun s e => k ∉ losses server s e) s events)
  | [], s, _ => by
    rw [run_nil]
    exact (or_iff_left (not_not.mpr trivial)).symm
  | e :: events, s, h => by
    rw [run_cons, lost_run_iff k events (h.step e), (step_moves h.wired e).lost_iff h.consistent]
    rw [or_assoc, ← not_not (a := k ∈ losses server s e), ← not_and_or]
    rfl

variable (server blank) in
/-- **A run.** No key is asked for twice, what came back is what the answering side gave and what is
remembered, and a key that is no longer under way has its answer exactly when no step lost it. -/
theorem run_settled (events : List (Event K E O)) (h : Fresh s) :
    let s' := run (step server blank) s events
    s'.sent.Nodup ∧
      (∀ p ∈ s'.received, p ∈ s'.served ∧ s'.cache.lookup p.1 = some p.2) ∧
      ∀ k ∈ s'.cache, k ∉ s'.pending →
        ((∃ v, (k, v) ∈ s'.received) ↔
          AllSteps (step server blank) (fun s e => k ∉ losses server s e) s events) ∧
        ((¬∃ v, (k, v) ∈ s'.received) → s'.cache.lookup k = some blank) := by
  intro s'
  have hinv : Inv blank s' := run_of_step (fun _ e hs => hs.step e) events h.inv
  have hanswered : ∀ k, k ∈ s'.ledger.answered ↔ ∃ v, (k, v) ∈ s'.received := fun k => by
    simp [Ledger.answered, ledger]
  refine ⟨hinv.consistent.sent_nodup, fun p hp => ⟨hinv.wired.given p (List.mem_append_right _ hp),
    hinv.consistent.cache_received p hp⟩, fun k hcached hpending => ⟨?_, fun hnone => ?_⟩⟩
  · have hfresh : ¬s.ledger.Lost k := fun hlost => by
      have hmem : k ∈ s.cache := hlost.1
      rw [h.cache] at hmem
      exact AList.notMem_empty k hmem
    have hlost : s'.ledger.Lost k ↔ _ := lost_run_iff k events h.inv
    rw [or_iff_right hfresh] at hlost
    rw [← hanswered, ← not_iff_not, ← hlost]
    exact ⟨fun hnot => ⟨hcached, hpending, hnot⟩, fun hl => hl.2.2⟩
  · exact hinv.consistent.cache_blank k hcached fun ha => hnone ((hanswered k).mp ha)

end Exchange

end Lib
