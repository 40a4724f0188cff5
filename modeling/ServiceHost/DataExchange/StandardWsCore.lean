import ServiceHost.DataExchange.Queue

/-!
The pull export of `StandardWsLogic`. Clients look at the first messages of the
module's export queues and acknowledge what they have got. Each access to the queues
is a step of its own, so that the steps of different calls interleave. The message log
is left out; writing to it may throw.
-/

namespace ServiceHost.DataExchange.StandardWs

open Library

/-- A message lies in its queue, is received in the open transaction of a call, or has
been removed by the commit of one. -/
inductive EntryPlace
  | queued
  | received (call : Nat)
  | removed (call : Nat)
deriving DecidableEq

/-- A message that was enqueued. Its internal id is its number among all of them. -/
structure QueueEntry where
  priority : DataExchangeQueuePriority
  item : QueueItem
  place : EntryPlace
deriving DecidableEq

def QueueEntry.externalReference (entry : QueueEntry) : Option String :=
  match entry.item with
  | .message message => message.externalReference
  | .corrupt => none

/-- How far `SendExportAck` has come, with its local variables. -/
inductive AckPhase
  | peek (priorities : List DataExchangeQueuePriority)
  | begin_ (internalId : Nat) (message : DataExchangeMessage)
  | remove (internalId : Nat) (message : DataExchangeMessage) (priorities : List DataExchangeQueuePriority)
  | commit (message : DataExchangeMessage)
  | deleteMessageData (message : DataExchangeMessage) (status : TransactionStatus)
  | setStatus (status : TransactionStatus)
  | dispose (status : TransactionStatus) (requestOk : Bool)
  | answered (requestOk : Bool)
deriving DecidableEq

/-- How far `GetExport` has come. A message that is discarded starts the loop again. -/
inductive GetPhase
  | wait
  | peek (priorities : List DataExchangeQueuePriority)
  | getMessageData (internalId : Nat) (message : DataExchangeMessage)
  | getExportObject (message : DataExchangeMessage)
  | begin_ (internalId : Nat)
  | remove (internalId : Nat) (priorities : List DataExchangeQueuePriority)
  | commit
  | dispose (status : TransactionStatus) (raised : Bool)
  | answered (requestOk : Bool) (exportMessage : Option DataExchangeMessage)
deriving DecidableEq

inductive ClientCall
  | idle
  | sendExportAck (externalReference : Option String) (phase : AckPhase)
  | getExport (phase : GetPhase)
deriving DecidableEq

/-- The entries in the order in which they were enqueued, and the calls of all clients. -/
structure PullWorld where
  entries : List QueueEntry
  payloads : ClaimTicket → Option String
  calls : Nat → ClientCall

namespace PullWorld

variable (world : PullWorld)

def setCall (call : Nat) (state : ClientCall) : PullWorld :=
  { world with calls := Function.update world.calls call state }

/-- The first message that lies in the queue of a priority, with its internal id. -/
def peekForPriority (priority : DataExchangeQueuePriority) : Option (Nat × QueueItem) := do
  let internalId ← world.entries.findIdx? fun entry => entry.priority = priority ∧ entry.place = .queued
  let entry ← world.entries[internalId]?
  pure (internalId, entry.item)

/-- `ReceiveById`, where `InvalidOperationException` says that the message is not there. -/
def receiveById (call internalId : Nat) (priority : DataExchangeQueuePriority) (failure : Option SystemException) :
    Except SystemException PullWorld :=
  match failure, world.entries[internalId]? with
  | some exception, _ => .error exception
  | none, some entry =>
      if entry.priority = priority ∧ entry.place = .queued then
        .ok { world with entries := world.entries.set internalId { entry with place := .received call } }
      else .error .invalidOperation
  | none, none => .error .invalidOperation

def settle (call : Nat) (place : EntryPlace) : PullWorld :=
  { world with
    entries := world.entries.map fun entry =>
      if entry.place = .received call then { entry with place } else entry }

/-- `Commit`. A scope is only complete, and commits when it is disposed. -/
def commit (kind : TransactionKind) (call : Nat) (failure : Option SystemException) :
    Except SystemException (TransactionStatus × PullWorld) :=
  match failure, kind with
  | some exception, _ => .error exception
  | none, .msmq => .ok (.committed, world.settle call (.removed call))
  | none, .msdtc => .ok (.complete, world)

/-- `Dispose`, with the exception that it raises. -/
def dispose (call : Nat) (status : TransactionStatus) (failure : Option SystemException) :
    Option SystemException × PullWorld :=
  match status, failure with
  | .pending, _ => (none, world.settle call .queued)
  | .complete, none => (none, world.settle call (.removed call))
  | .complete, some exception => (some exception, world.settle call .queued)
  | _, _ => (none, world)

end PullWorld

/-- One step of `SendExportAck`, with the exception that its collaborator raises. -/
def ackStep (kind : TransactionKind) (call : Nat) (failure : Option SystemException)
    (externalReference : Option String) (world : PullWorld) : AckPhase → AckPhase × PullWorld
  | .peek [] => (.answered false, world)
  | .peek (priority :: priorities) =>
      match failure, world.peekForPriority priority with
      | some _, _ => (.answered false, world)
      | none, none => (.peek priorities, world)
      | none, some (_, .corrupt) => (.answered false, world)
      | none, some (internalId, .message message) =>
          if message.externalReference = externalReference then (.begin_ internalId message, world)
          else (.peek priorities, world)
  | .begin_ internalId message =>
      match failure with
      | some _ => (.answered false, world)
      | none => (.remove internalId message orderedPriorities, world)
  | .remove _ message [] => (.commit message, world)
  | .remove internalId message (priority :: priorities) =>
      match world.receiveById call internalId priority failure with
      | .ok world => (.commit message, world)
      -- `Remove` takes this for a message of another priority and does not say that it found none
      | .error .invalidOperation => (.remove internalId message priorities, world)
      | .error _ => (.dispose .pending false, world)
  | .commit message =>
      match world.commit kind call failure with
      | .ok (status, world) => (.deleteMessageData message status, world)
      | .error _ => (.dispose .pending false, world)
  | .deleteMessageData message status =>
      match message.deleteException failure with
      | none => (.setStatus status, { world with payloads := message.clearedPayloads world.payloads })
      | some _ => (.dispose status false, world)
  -- the answer is set before the status is written
  | .setStatus status => (.dispose status true, world)
  | .dispose status requestOk => (.answered requestOk, (world.dispose call status failure).2)
  | .answered requestOk => (.answered requestOk, world)

/-- One step of `GetExport`. An exception in its handlers ends the call. -/
def getStep (kind : TransactionKind) (call : Nat) (failure : Option SystemException) (world : PullWorld) :
    GetPhase → GetPhase × PullWorld
  | .wait =>
      match failure with
      | some _ => (.answered false none, world)
      | none => (.peek orderedPriorities, world)
  | .peek [] => (.answered true none, world)
  | .peek (priority :: priorities) =>
      match failure, world.peekForPriority priority with
      | some _, _ => (.answered false none, world)
      | none, none => (.peek priorities, world)
      | none, some (internalId, .corrupt) => (.begin_ internalId, world)
      | none, some (internalId, .message message) => (.getMessageData internalId message, world)
  | .getMessageData internalId message =>
      match message.getMessageData world.payloads failure with
      | .ok _ => (.getExportObject message, world)
      | .error .claimHandler => (.begin_ internalId, world)
      | .error _ => (.answered false none, world)
  | .getExportObject message =>
      match message.getMessageData world.payloads failure with
      | .ok _ => (.answered true (some message), world)
      | .error _ => (.answered false none, world)
  | .begin_ internalId =>
      match failure with
      | some _ => (.answered false none, world)
      | none => (.remove internalId orderedPriorities, world)
  | .remove _ [] => (.commit, world)
  | .remove internalId (priority :: priorities) =>
      match world.receiveById call internalId priority failure with
      | .ok world => (.commit, world)
      | .error .invalidOperation => (.remove internalId priorities, world)
      | .error _ => (.dispose .pending true, world)
  | .commit =>
      match world.commit kind call failure with
      | .ok (status, world) => (.dispose status false, world)
      | .error _ => (.dispose .pending true, world)
  | .dispose status raised =>
      match world.dispose call status failure with
      | (none, world) => (if raised then .answered false none else .wait, world)
      | (some _, world) => (.answered false none, world)
  | .answered requestOk exportMessage => (.answered requestOk exportMessage, world)

/-- A message is enqueued with its payload, a client calls, a call takes one step, or
the wait for a message runs out. -/
inductive PullEvent
  | enqueue (priority : DataExchangeQueuePriority) (item : QueueItem) (payload : Option String)
  | sendExportAck (call : Nat) (externalReference : Option String)
  | getExport (call : Nat) (maxWaitTimeInSeconds : Int)
  | advance (call : Nat) (failure : Option SystemException)
  | timeout (call : Nat)

def storePayload (payloads : ClaimTicket → Option String) (payload : Option String) :
    QueueItem → ClaimTicket → Option String
  | .corrupt => payloads
  | .message message =>
      match message.claimTicket with
      | none => payloads
      | some ticket => Function.update payloads ticket payload

def pullStep (kind : TransactionKind) (world : PullWorld) : PullEvent → PullWorld
  | .enqueue priority item payload =>
      { world with
        entries := world.entries ++ [⟨priority, item, .queued⟩]
        payloads := storePayload world.payloads payload item }
  | .sendExportAck call externalReference =>
      world.setCall call (.sendExportAck externalReference
        (if externalReference = none then .answered false else .peek orderedPriorities))
  | .getExport call maxWaitTimeInSeconds =>
      world.setCall call (.getExport (if maxWaitTimeInSeconds < 0 then .answered false none else .wait))
  | .advance call failure =>
      match world.calls call with
      | .idle => world
      | .sendExportAck externalReference phase =>
          let (phase, world) := ackStep kind call failure externalReference world phase
          world.setCall call (.sendExportAck externalReference phase)
      | .getExport phase =>
          let (phase, world) := getStep kind call failure world phase
          world.setCall call (.getExport phase)
  | .timeout call =>
      match world.calls call with
      | .getExport .wait => world.setCall call (.getExport (.answered true none))
      | _ => world

end ServiceHost.DataExchange.StandardWs
