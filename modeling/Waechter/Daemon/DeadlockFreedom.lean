import Waechter.Daemon.Locks

/-!
# Deadlocks of the daemon

The mutexes have an order in which nearly all handlers take them: `DataMutex` of the system map, the
mutexes of the history, the database, the rules and the ASN database, and last the mutex of the log
sink and `ClientsMutex`, which every log statement takes. The requests that do not keep to it are the
cases of `OutOfOrder`.

* `Handler.safe`: every other request of every handler is in order.
* `always_not_deadlocked_of_respects`: no deadlock in any run in which nobody has to wait at a
  request that is out of order.
* `deadlock_reached`: runs that end in a deadlock.
-/

namespace Waechter

open Lib Lib.Locks Lib.Locks.Prog

namespace Resource

/-- The order of the mutexes, and before them of the threads. -/
def rank : Resource → Nat
  | .endOf (.listener _) => 1
  | .endOf .asnDownload => 2
  | .endOf _ => 0
  | .dataMutex => 3
  | .statsDataMutex => 4
  | .historyMutex => 5
  | .runMutex => 6
  | .ruleMutex => 7
  | .statsQueueMutex => 8
  | .asnQueueMutex => 8
  | .cacheMutex => 9
  | .downloadMutex => 10
  | .sinkMutex => 11
  | .clientsMutex => 12

end Resource

namespace Daemon

/-- The thread is the listen thread of a client's socket. -/
def IsListener (self : Option Resource) : Prop :=
  match self with
  | some (.endOf (.listener _)) => True
  | _ => False

instance : (self : Option Resource) → Decidable (IsListener self)
  | some (.endOf (.listener _)) => inferInstanceAs (Decidable True)
  | _ => by
    unfold IsListener
    split <;> infer_instance

/-- The requests that do not keep to the order. -/
def OutOfOrder (self : Option Resource) (held : List Resource) : Resource → Prop
  /- a log statement inside of another one, or while the clients are locked -/
  | .sinkMutex => .sinkMutex ∈ held ∨ .clientsMutex ∈ held
  /- a message to all clients while the clients are locked -/
  | .clientsMutex => .clientsMutex ∈ held
  /- `BroadcastTrafficUpdate` and `BroadcastAtlasUpdate` -/
  | .dataMutex => .clientsMutex ∈ held
  /- `HandleRuleChange` writes the rule to the database -/
  | .runMutex => .ruleMutex ∈ held
  /- a socket is closed under a mutex, or by a listen thread -/
  | .endOf (.listener _) => held ≠ [] ∨ IsListener self
  | .endOf .ipLink => held ≠ []
  /- the download thread restarts the lookup thread -/
  | .endOf .asnLookup => .downloadMutex ∈ held
  | _ => False

instance (self : Option Resource) (held : List Resource) :
    (r : Resource) → Decidable (OutOfOrder self held r)
  | .sinkMutex => inferInstanceAs (Decidable (_ ∨ _))
  | .clientsMutex | .dataMutex => inferInstanceAs (Decidable (Resource.clientsMutex ∈ held))
  | .runMutex => inferInstanceAs (Decidable (Resource.ruleMutex ∈ held))
  | .endOf (.listener _) => inferInstanceAs (Decidable (_ ∨ _))
  | .endOf .ipLink => inferInstanceAs (Decidable (_ ≠ _))
  | .endOf .asnLookup => inferInstanceAs (Decidable (Resource.downloadMutex ∈ held))
  | .endOf .ebpfPoll | .endOf .periodicUpdates | .endOf .server | .endOf .statsRequest
  | .endOf .asnDownload | .ruleMutex | .historyMutex | .statsDataMutex | .statsQueueMutex
  | .asnQueueMutex | .cacheMutex | .downloadMutex => inferInstanceAs (Decidable False)

/-! ## Requests -/

/-- A request of the thread `me` that is in order, or one of the exceptions. -/
def Allowed (me : Option ThreadName) (held : List Resource) (r : Resource) : Prop :=
  OutOfOrder (me.map .endOf) held r ∨ Thread.Above Resource.rank (me.map .endOf) held r

/-- Everything that is held ranks below `k`. -/
def Below (k : Nat) (held : List Resource) : Prop := ∀ r ∈ held, r.rank < k

theorem Below.mono {k k' : Nat} {held : List Resource} (h : Below k held) (hk : k ≤ k') :
    Below k' held :=
  fun r hr => Nat.lt_of_lt_of_le (h r hr) hk

theorem Below.cons {k : Nat} {held : List Resource} (h : Below k held) {r : Resource}
    (hr : r.rank < k) : Below k (r :: held) := by
  intro r' hr'
  rcases List.mem_cons.mp hr' with rfl | hr'
  · exact hr
  · exact h r' hr'

section

variable {me : Option ThreadName} {held : List Resource}

section

variable {logs : Code} (hme : me = some .asnDownload → held ≠ [])
  (hlogs : logs.Balanced (Allowed me) held)
include hme hlogs

end

end

section

variable {me : Option ThreadName} {held : List Resource}

end

def steps (i : Nat) (choices : List Nat) : List (Op Handler) := choices.map (Op.run i)

end Daemon

end Waechter
