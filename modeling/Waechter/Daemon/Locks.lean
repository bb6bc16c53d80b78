import Waechter.Lib.Locks

/-!
# The locks of the daemon

What the handlers of the daemon do with the mutexes of `WSystemMap`, `WRuleManager`, `WDbManager`,
`WDaemonSocket`, `WConnectionHistory`, `WStatsManager` and `WIP2Asn`, and which threads they wait
for, in program order. A branch that depends on data may go either way, a loop may turn any number
of times. A log statement is one of level info or above (the daemon sets the level to debug for
`--debug` only): `base_sink::log` takes the mutex of the sink, and under it
`WDaemonLogSink::sink_it_` broadcasts the message. A log statement inside of that is dropped by
`bInCallback`, but only after `log` has asked for the mutex again, which is not recursive.

Sending to a client or to the helper process may fail, and then `WClientSocket::Send` closes the
socket, which waits for its listen thread unless it runs on it. The mutexes inside the helper
classes (`WMapUpdate`, `WIPLink`, `WSocketStateParser`, `TPromise`) are left out.
-/

namespace Waechter

open Lib Lib.Locks Lib.Locks.Prog

/-- The threads that somebody waits for. -/
inductive ThreadName where
  | ebpfPoll
  | periodicUpdates
  | server
  /-- The listen thread of the socket to the helper process. -/
  | ipLink
  | statsRequest
  | asnLookup
  | asnDownload
  /-- The listen thread of a client's socket. -/
  | listener (client : Nat)
  deriving DecidableEq

/-- What a thread can wait for: a mutex, or the end of a thread. -/
inductive Resource where
  | dataMutex
  | ruleMutex
  | runMutex
  | clientsMutex
  | historyMutex
  | statsDataMutex
  | statsQueueMutex
  | asnQueueMutex
  | cacheMutex
  | downloadMutex
  /-- The mutex of `WDaemonLogSink`. -/
  | sinkMutex
  | endOf (t : ThreadName)
  deriving DecidableEq

namespace Daemon

/-- The program runs on the thread `me`. -/
abbrev Code := Prog Resource

section

variable (me : Option ThreadName)

/-! ## Sockets and log statements -/

/-- `ListenerThread.join()` of the socket of some client. -/
def joinListener : Code :=
  .await fun client =>
    if me = some (.listener client) then none else some (.endOf (.listener client))

section

/-! What is sent to a client may fail, which is logged. `logs` is the log statement. -/

variable (logs : Code)

/-- `WClientSocket::Close`, with `OnClosed`. That of a WebSocket waits for nothing. -/
def closeWith : Code := optional (block [joinListener me, optional logs])

/-- `WDaemonClient::SendFramedData`. -/
def sendFramedDataWith : Code := optional (closeWith me logs)

/-- The loop over the clients of a broadcast. -/
def sendToClientsWith (send : Code) : Code :=
  .loop (block [send, optional (block [logs, closeWith me logs])])

/-- `WDaemonSocket::BroadcastMessage`. -/
def broadcastMessageWith : Code :=
  block [locked .clientsMutex .skip, sendToClientsWith me logs (sendFramedDataWith me logs)]

end

/-- A log statement while the thread is in `sink_it_`: `bInCallback` is seen under the mutex. -/
def nestedLog : Code := locked .sinkMutex .skip

/-- A log statement. -/
def log : Code := locked .sinkMutex (broadcastMessageWith me nestedLog)

/-- `WClientSocket::Close` outside of `sink_it_`, and so on. -/
def close : Code := closeWith me (log me)

def sendFramedData : Code := sendFramedDataWith me (log me)

/-- `WDaemonClient::SendMessage`. -/
def sendMessage : Code := block [sendFramedData me, optional (log me)]

def sendToClients (send : Code) : Code := sendToClientsWith me (log me) send

def broadcastMessage : Code := broadcastMessageWith me (log me)

/-- A message to the helper process. -/
def sendToHelper : Code :=
  optional (.await fun _ => if me = some .ipLink then none else some (.endOf .ipLink))

/-! ## Rules -/

/-- `SyncRules`. -/
def syncRules : Code := .loop (block [optional (log me), optional (log me)])

/-- `WRuleManager::OnSocketConnected`. -/
def ruleSocketConnected : Code :=
  locked .ruleMutex (optional (block [syncRules me, optional (log me)]))

/-- `WRuleManager::OnSocketRemoved` and `OnProcessRemoved`. -/
def ruleItemRemoved : Code := locked .ruleMutex .skip

/-- `WRuleManager::OnAppFirstTimeConnected`, with the limits of `WIPLink`. -/
def onAppFirstTimeConnected : Code :=
  locked .runMutex (optional (block [sendToHelper me, sendToHelper me,
    optional (locked .ruleMutex (syncRules me))]))

/-- `WriteSystemRuleToDb` and `WriteAppRuleToDb`. -/
def writeRuleToDb : Code := locked .runMutex .skip

/-- The part of `HandleRuleChange` for an item that is known. -/
def changeRule : Code :=
  block [optional (log me),
    -- the download limit is removed or set, then the upload limit
    .either (block [optional (log me), sendToHelper me]) (block [sendToHelper me, log me]),
    .either (sendToHelper me) (block [sendToHelper me, log me]),
    .loop (log me),
    optional writeRuleToDb,
    syncRules me,
    -- `PrintStats`
    log me,
    broadcastMessage me]

/-- `HandleRuleChange`. -/
def handleRuleChange : Code :=
  .either (log me) (block [log me, locked .ruleMutex (.either (log me) (changeRule me))])

/-- `SendCurrentRulesToClient`. -/
def sendCurrentRulesToClient : Code := locked .ruleMutex (.loop (sendMessage me))

/-! ## The connection history -/

/-- `WIP2Asn::LookupSync`. -/
def lookupSync : Code :=
  optional (locked .cacheMutex (optional (locked .downloadMutex (optional (log me)))))

/-- `WriteToDatabase`. -/
def writeToDatabase : Code :=
  locked .runMutex (.either (log me) (block [lookupSync me, optional (log me)]))

/-- `HandleEmptySet`. -/
def handleEmptySet : Code := .either (log me) (writeToDatabase me)

/-- `WConnectionHistory::OnSocketConnected`. -/
def historySocketConnected : Code := optional (locked .historyMutex .skip)

/-- `WConnectionHistory::OnSocketRemoved`. -/
def historySocketRemoved : Code :=
  locked .historyMutex (.either (log me) (.loop (handleEmptySet me)))

/-- `OnUDPTupleCreated`. -/
def onUDPTupleCreated : Code := .either (log me) (locked .historyMutex .skip)

/-- `OnUDPTupleRemoved`. -/
def onUDPTupleRemoved : Code :=
  optional (locked .historyMutex (optional (handleEmptySet me)))

/-- `WConnectionHistory::Update` and `Serialize`. -/
def readHistory : Code := locked .historyMutex .skip

/-! ## Signals -/

/-- `WIPLink::OnSocketRemoved`. -/
def linkSocketRemoved : Code :=
  .either (log me) (block [optional (log me), sendToHelper me, sendToHelper me])

/-- The signal `OnSocketConnected`. -/
def onSocketConnected : Code := block [ruleSocketConnected me, historySocketConnected]

/-- The signal `OnSocketRemoved`. -/
def onSocketRemoved : Code :=
  block [linkSocketRemoved me, ruleItemRemoved, historySocketRemoved me]

/-! ## The system map -/

/-- `FindOrMapApplication`. -/
def findOrMapApplication : Code := .either (optional (log me)) (onAppFirstTimeConnected me)

/-- `MapSocket`. -/
def mapSocket : Code :=
  locked .dataMutex (.either (optional (log me)) (findOrMapApplication me))

/-- `MapSocketFromTrafficEvent`. -/
def mapSocketFromTrafficEvent : Code := .either (optional (log me)) (mapSocket me)

/-- `DoPacketParsing`. -/
def doPacketParsing : Code := .either (log me) (optional (onUDPTupleCreated me))

/-- `PushIncomingTraffic`. -/
def pushIncomingTraffic : Code := locked .dataMutex (optional (doPacketParsing me))

/-- `PushOutgoingTraffic`: an unknown socket is mapped outside of the lock. -/
def pushOutgoingTraffic : Code :=
  locked .dataMutex (block [
    optional (block [.release .dataMutex, mapSocketFromTrafficEvent me, .acquire .dataMutex]),
    optional (doPacketParsing me)])

/-- `MergeSyntheticSocket`. -/
def mergeSyntheticSocket : Code :=
  optional (locked .dataMutex (optional (onSocketRemoved me)))

/-- `ReparentAcceptedSocket`. -/
def reparentAcceptedSocket : Code := locked .dataMutex (sendToHelper me)

/-- `ReparentOrphanedSocket`. -/
def reparentOrphanedSocket : Code :=
  locked .dataMutex (optional (block [optional (onAppFirstTimeConnected me), optional (log me)]))

/-- The removal of a process in `Cleanup`. -/
def cleanupProcess : Code :=
  optional (block [
    .loop (block [optional (log me), .loop (onUDPTupleRemoved me), onSocketRemoved me]),
    sendToHelper me, ruleItemRemoved])

/-- A socket in `Cleanup`. -/
def cleanupSocket : Code := block [optional (onSocketRemoved me), .loop (onUDPTupleRemoved me)]

/-- `RefreshAllTrafficCounters`. -/
def refreshAllTrafficCounters : Code :=
  locked .dataMutex (block [locked .statsDataMutex .skip, locked .statsDataMutex .skip,
    .loop (cleanupProcess me), .loop (cleanupSocket me)])

/-- `GetActiveApplicationPaths`. -/
def getActiveApplicationPaths : Code := locked .dataMutex .skip

/-- `ProcessSocketEvent`. -/
def processSocketEvent : Code := block [optional (log me), optional (onSocketConnected me)]

/-- One event in `UpdateData`. -/
def updateEvent : Code :=
  block [mapSocket me,
    .either
      (block [processSocketEvent me, mergeSyntheticSocket me, optional (reparentAcceptedSocket me)])
      (.either (pushIncomingTraffic me) (optional (pushOutgoingTraffic me)))]

/-- `WWaechterEbpf::UpdateData`. -/
def updateData : Code := block [optional (log me), optional (log me), .loop (updateEvent me)]

/-- `WIPLink::OnDataReceived`. -/
def onDataReceived : Code := .either (log me) (.loop (reparentOrphanedSocket me))

/-! ## Broadcasts and new clients -/

/-- `WMemoryUsage::GetMemoryStats`. -/
def getMemoryStats : Code :=
  block [locked .ruleMutex .skip, locked .dataMutex .skip, locked .dataMutex .skip,
    locked .historyMutex .skip, locked .statsDataMutex .skip]

/-- `BroadcastMemoryUsageUpdate`. -/
def broadcastMemoryUsageUpdate : Code :=
  block [getMemoryStats, locked .clientsMutex (sendToClients me (sendFramedData me))]

/-- `BroadcastTrafficUpdate`. -/
def broadcastTrafficUpdate : Code :=
  locked .clientsMutex (block [locked .dataMutex .skip, sendToClients me (sendFramedData me)])

/-- `BroadcastConnectionHistoryUpdate`. -/
def broadcastConnectionHistoryUpdate : Code :=
  locked .clientsMutex (sendToClients me (sendMessage me))

/-- `BroadcastAtlasUpdate`. -/
def broadcastAtlasUpdate : Code :=
  locked .clientsMutex (block [getActiveApplicationPaths, .loop (log me),
    optional (sendToClients me (sendFramedData me))])

/-- `BroadcastUpdates`. -/
def broadcastUpdates : Code :=
  optional (block [optional (broadcastTrafficUpdate me), optional (broadcastAtlasUpdate me),
    locked .dataMutex readHistory, optional (broadcastConnectionHistoryUpdate me)])

/-- `SendInitialDataToClient`. -/
def sendInitialDataToClient : Code :=
  block [sendMessage me,
    locked .dataMutex (block [sendMessage me, readHistory, sendMessage me, sendMessage me]),
    getMemoryStats, sendMessage me, sendCurrentRulesToClient me, getActiveApplicationPaths,
    .loop (log me), optional (block [log me, sendMessage me])]

/-- `RemoveInactiveClients`: a client that is destroyed closes its socket. -/
def removeInactiveClients : Code := locked .clientsMutex (.loop (close me))

/-- `OnNewConnection`. -/
def onNewConnection : Code :=
  block [log me, sendInitialDataToClient me, locked .clientsMutex .skip, removeInactiveClients me]

/-! ## Statistics -/

/-- `MakeSnapshot`. -/
def makeSnapshot : Code :=
  block [locked .statsDataMutex .skip, locked .runMutex (.loop (lookupSync me))]

/-- `RequestStats`. -/
def requestStats : Code := locked .statsQueueMutex .skip

/-- The callback of a promise, which answers the client. -/
def finish : Code := .either (log me) (sendFramedData me)

/-- `ProcessHistoryRequest`. -/
def processHistoryRequest : Code :=
  block [log me, locked .runMutex (block [.loop (log me), optional (finish me), finish me])]

/-- `ProcessStatsRequest`. -/
def processStatsRequest : Code := block [locked .runMutex (optional (log me)), finish me]

/-- A turn of the loop of `RequestThreadFunction`. -/
def requestThreadFunction : Code :=
  block [locked .statsQueueMutex .skip,
    .either (log me) (.either (processHistoryRequest me) (processStatsRequest me))]

/-! ## The ASN database -/

/-- `WIP2Asn::Lookup`. -/
def lookup : Code := locked .asnQueueMutex .skip

/-- `LookupAddress`. -/
def lookupAddress : Code :=
  .either (finish me) (locked .downloadMutex (block [finish me, optional (log me)]))

/-- A turn of the loop of `LookupThreadFunc`. The queue is unlocked before an address is looked up,
while the cache stays locked. -/
def lookupThreadFunc : Code :=
  block [.acquire .asnQueueMutex,
    .either (.release .asnQueueMutex)
      (block [.acquire .cacheMutex,
        .either (block [finish me, .release .cacheMutex, .release .asnQueueMutex])
          (block [.release .asnQueueMutex, lookupAddress me, .release .cacheMutex])])]

/-- `LookupThread.join()`. -/
def joinLookupThread : Code := .await fun _ => some (.endOf .asnLookup)

/-- `WIP2Asn::Init` while the lookup thread runs. -/
def initDatabase : Code := block [joinLookupThread, .loop (log me)]

/-- The download thread. -/
def downloadDatabase : Code :=
  locked .downloadMutex (block [.loop (log me), optional (block [log me, initDatabase me])])

/-- `UpdateDatabase`, up to the start of the download thread. -/
def updateDatabase : Code := optional (.await fun _ => some (.endOf .asnDownload))

end

/-- The end of `RunLoop` and of `main`. -/
def shutdown : Code :=
  block [.await fun _ => some (.endOf .ebpfPoll), .await fun _ => some (.endOf .periodicUpdates),
    .await fun _ => some (.endOf .server), log none, joinLookupThread,
    locked .statsDataMutex .skip, .await fun _ => some (.endOf .statsRequest)]

/-! ## Handlers -/

/-- What a thread is started with. A loop thread is started anew for each of its turns. -/
inductive Handler where
  | updateData
  /-- The timer of one second. -/
  | refresh
  /-- The timer of five seconds. -/
  | broadcastMemoryUsage
  | makeSnapshot
  | newConnection
  | onDataReceived
  | handleRuleChange (client : Nat)
  | requestStats (client : Nat)
  | lookup (client : Nat)
  | updateDatabase (client : Nat)
  /-- A log statement of a listen thread, among them that the client disconnected. -/
  | clientLog (client : Nat)
  /-- A log statement of a thread nobody waits for. -/
  | log
  | requestThread
  | lookupThread
  | downloadThread
  | shutdown

namespace Handler

/-- The thread of a handler, if somebody waits for its end. -/
def name : Handler → Option ThreadName
  | .updateData => some .ebpfPoll
  | .refresh | .broadcastMemoryUsage | .makeSnapshot => some .periodicUpdates
  | .newConnection => some .server
  | .onDataReceived => some .ipLink
  | .handleRuleChange client | .requestStats client | .lookup client | .updateDatabase client
  | .clientLog client => some (.listener client)
  | .requestThread => some .statsRequest
  | .lookupThread => some .asnLookup
  | .downloadThread => some .asnDownload
  | .log | .shutdown => none

def code (h : Handler) : Code :=
  match h with
  | .updateData => Daemon.updateData h.name
  | .refresh => block [refreshAllTrafficCounters h.name, broadcastUpdates h.name]
  | .broadcastMemoryUsage => optional (broadcastMemoryUsageUpdate h.name)
  | .makeSnapshot => Daemon.makeSnapshot h.name
  | .newConnection => onNewConnection h.name
  | .onDataReceived => Daemon.onDataReceived h.name
  | .handleRuleChange _ => Daemon.handleRuleChange h.name
  | .requestStats _ => Daemon.requestStats
  | .lookup _ => .either (Daemon.log h.name) Daemon.lookup
  | .updateDatabase _ => Daemon.updateDatabase
  | .clientLog _ => Daemon.log h.name
  | .log => Daemon.log h.name
  | .requestThread => requestThreadFunction h.name
  | .lookupThread => lookupThreadFunc h.name
  | .downloadThread => downloadDatabase h.name
  | .shutdown => Daemon.shutdown

/-- A thread at the start of a handler. -/
def thread (h : Handler) : Thread Resource :=
  { self := h.name.map Resource.endOf, todo := [h.code] }

end Handler

end Daemon

end Waechter
