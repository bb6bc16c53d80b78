import Waechter.Daemon.Enforcement
import Waechter.Gui.TrafficTree
import Waechter.Protocol.HistoryDelivery
import Waechter.Util.ClientSocket

/-!
# Messages that cannot be read

What the handlers of the client (`Gui/Windows/TrafficTree.cpp`, `ConnectionHistoryWindow.cpp`,
`Gui/ClientRuleManager.cpp`) and of the daemon (`Daemon/Rules/RuleManager.cpp`) do with a payload
that is no archive of their message. Most of them read into a new object. `LoadFromBuffer` reads
into the tree itself, and both it and `Initialize` clear what they hold first.

Reading is a parameter: an archive may write any part of its target before it throws.

* `handle_eq_iff`: such a message changes nothing exactly when what its handler clears is empty, and
  what it reads into is left as it was.
-/

namespace Waechter

open Lib

/-- `DeserializeMessage` for a type: what the target is afterwards, and the return value. -/
abbrev Deserialize (α : Type) := List Byte → α → α × Bool

/-- How the messages are read. -/
structure Archives where
  tree : Deserialize ItemTree
  updates : Deserialize TrafficTreeUpdates
  history : Deserialize ConnectionHistory.HistoryUpdate
  rule : Deserialize RuleUpdate

namespace Archives

variable (ar : Archives) (o : IterOrder)

/-! ## The handlers -/

/-- `WTrafficTree::LoadFromBuffer`. It reads into `*Root`. -/
def loadFromBuffer (buffer : List Byte) (c : Client) : Client :=
  let c := { c with trafficItems := ∅ }
  let (root, ok) := ar.tree buffer c.tree
  let c := { c with tree := root }
  if ok then c.loadFromBuffer o root else c

/-- `WTrafficTree::UpdateFromBuffer`. -/
def updateFromBuffer (buffer : List Byte) (c : Client) : Client :=
  let (updates, ok) := ar.updates buffer {}
  if ok then c.updateFromBuffer o updates else c

/-- `WConnectionHistoryWindow::Initialize`: the items afterwards. Those before are cleared first. -/
def initializeHistory (buffer : List Byte) : List HistoryListItem :=
  let (historyUpdate, ok) := ar.history buffer { changes := [], newEntries := [] }
  if ok then receiveHistory [] (.connectionHistory historyUpdate) else []

/-- `WConnectionHistoryWindow::HandleUpdate`. -/
def handleUpdate (buffer : List Byte) (historyItems : List HistoryListItem) :
    List HistoryListItem :=
  let (historyUpdate, ok) := ar.history buffer { changes := [], newEntries := [] }
  if ok then receiveHistory historyItems (.connectionHistoryUpdate historyUpdate) else historyItems

/-- `WClientRuleManager::HandleRuleUpdate`. -/
def handleRuleUpdate (buffer : List Byte) (c : Client) : Client :=
  let (update, ok) := ar.rule buffer {}
  if ok then c.handleRuleUpdate update else c

/-- `WRuleManager::HandleRuleChange`. -/
def handleRuleChange (env : RuleSources) (t : CounterTree) (buffer : List Byte) (e : Enforcement) :
    Enforcement :=
  let (update, ok) := ar.rule buffer {}
  if ok then e.handleRuleChange env t update else e

end Archives

/-! ## Both sides -/

/-- What the messages change: the client's tree, index, marks and rules, its list of past
connections, and the daemon's rules, kernel maps and limits. -/
structure Parties where
  client : Client
  historyItems : List HistoryListItem
  daemon : Enforcement

/-- The messages, by the party that gets them. -/
inductive Received
  | trafficTree
  | trafficTreeUpdate
  | connectionHistory
  | connectionHistoryUpdate
  | ruleUpdateAtClient
  | ruleUpdateAtDaemon

namespace Parties

variable (ar : Archives) (o : IterOrder) (env : RuleSources) (t : CounterTree)

/-- A message arrives. -/
def handle (message : Received) (buffer : List Byte) (s : Parties) : Parties :=
  match message with
  | .trafficTree => { s with client := ar.loadFromBuffer o buffer s.client }
  | .trafficTreeUpdate => { s with client := ar.updateFromBuffer o buffer s.client }
  | .connectionHistory => { s with historyItems := ar.initializeHistory buffer }
  | .connectionHistoryUpdate => { s with historyItems := ar.handleUpdate buffer s.historyItems }
  | .ruleUpdateAtClient => { s with client := ar.handleRuleUpdate buffer s.client }
  | .ruleUpdateAtDaemon => { s with daemon := ar.handleRuleChange env t buffer s.daemon }

/-- Reading the message into what its handler reads it into fails. -/
def Malformed (message : Received) (buffer : List Byte) (s : Parties) : Prop :=
  match message with
  | .trafficTree => (ar.tree buffer s.client.tree).2 = false
  | .trafficTreeUpdate => (ar.updates buffer {}).2 = false
  | .connectionHistory | .connectionHistoryUpdate =>
    (ar.history buffer { changes := [], newEntries := [] }).2 = false
  | .ruleUpdateAtClient | .ruleUpdateAtDaemon => (ar.rule buffer {}).2 = false

/-- What the handler clears is empty, and what it reads into is left as it was. -/
def NothingToLose (message : Received) (buffer : List Byte) (s : Parties) : Prop :=
  match message with
  | .trafficTree =>
    s.client.trafficItems = ∅ ∧ (ar.tree buffer s.client.tree).1 = s.client.tree
  | .connectionHistory => s.historyItems = []
  | .trafficTreeUpdate | .connectionHistoryUpdate => True
  | .ruleUpdateAtClient | .ruleUpdateAtDaemon => True

variable {ar} {o} {env} {t}

theorem loadFromBuffer_eq_iff {buffer : List Byte} {c : Client}
    (h : (ar.tree buffer c.tree).2 = false) :
    ar.loadFromBuffer o buffer c = c ↔
      c.trafficItems = ∅ ∧ (ar.tree buffer c.tree).1 = c.tree := by
  have hcleared : ar.loadFromBuffer o buffer c =
      { c with tree := (ar.tree buffer c.tree).1, trafficItems := ∅ } := by
    unfold Archives.loadFromBuffer
    simp only [h, Bool.false_eq_true, if_false]
  rw [hcleared]
  obtain ⟨tree, trafficItems, marked, rules⟩ := c
  simp only [Client.mk.injEq, and_true]
  exact ⟨fun heq => ⟨heq.2.symm, heq.1⟩, fun heq => ⟨heq.2, heq.1.symm⟩⟩

/-- **A message that cannot be read** changes nothing exactly when there is nothing to lose. -/
theorem handle_eq_iff {message : Received} {buffer : List Byte} {s : Parties}
    (h : Malformed ar message buffer s) :
    handle ar o env t message buffer s = s ↔ NothingToLose ar message buffer s := by
  obtain ⟨client, historyItems, daemon⟩ := s
  cases message with
  | trafficTree =>
    simp only [handle, NothingToLose, mk.injEq, and_true]
    exact loadFromBuffer_eq_iff h
  | trafficTreeUpdate =>
    have hread : (ar.updates buffer {}).2 = false := h
    simp only [handle, NothingToLose, Archives.updateFromBuffer, hread, Bool.false_eq_true,
      if_false]
  | connectionHistory =>
    have hread : (ar.history buffer { changes := [], newEntries := [] }).2 = false := h
    simp only [handle, NothingToLose, Archives.initializeHistory, hread, Bool.false_eq_true,
      if_false, mk.injEq, and_true, true_and]
    exact eq_comm
  | connectionHistoryUpdate =>
    have hread : (ar.history buffer { changes := [], newEntries := [] }).2 = false := h
    simp only [handle, NothingToLose, Archives.handleUpdate, hread, Bool.false_eq_true, if_false]
  | ruleUpdateAtClient =>
    have hread : (ar.rule buffer {}).2 = false := h
    simp only [handle, NothingToLose, Archives.handleRuleUpdate, hread, Bool.false_eq_true,
      if_false]
  | ruleUpdateAtDaemon =>
    have hread : (ar.rule buffer {}).2 = false := h
    simp only [handle, NothingToLose, Archives.handleRuleChange, hread, Bool.false_eq_true,
      if_false]

/-- An archive that ends before its first field: nothing is written. -/
def cutOff : Archives where
  tree _ root := (root, false)
  updates _ updates := (updates, false)
  history _ update := (update, false)
  rule _ update := (update, false)

/-- A client with the root and one past connection. -/
def oneOfEach : Parties where
  client := { trafficItems := AList.insert 0 (.system, 0) ∅ }
  historyItems := [⟨1, {}, 10, 20⟩]
  daemon := { link := { networkInterfaceName := "eth0" }, ruleTable := default }

/-- The counters of a daemon that has just started. -/
def startedTree : CounterTree := (Enforcement.started 0 "host" "eth0" default).toCounterTree

theorem handle_eq_cutOff :
    handle cutOff .stored Enforcement.plainSources startedTree .trafficTreeUpdate [] oneOfEach =
        oneOfEach ↔
      NothingToLose cutOff .trafficTreeUpdate [] oneOfEach :=
  handle_eq_iff rfl

/-- An empty payload of a traffic tree clears the index, and one of a history the list. -/
theorem handle_cutOff_clears :
    let after := fun message =>
      handle cutOff .stored Enforcement.plainSources startedTree message [] oneOfEach
    Malformed cutOff .trafficTree [] oneOfEach ∧ after .trafficTree ≠ oneOfEach ∧
      (after .trafficTree).client.trafficItems = ∅ ∧
      Malformed cutOff .connectionHistory [] oneOfEach ∧ after .connectionHistory ≠ oneOfEach ∧
      (after .connectionHistory).historyItems = [] := by
  refine ⟨rfl, fun h => ?_, rfl, rfl, fun h => ?_, rfl⟩
  · have hindex := congrArg (fun s : Parties => s.client.trafficItems.entries.length) h
    exact absurd hindex (by decide)
  · have hitems := congrArg (fun s : Parties => s.historyItems.length) h
    exact absurd hitems (by decide)

end Parties

end Waechter
