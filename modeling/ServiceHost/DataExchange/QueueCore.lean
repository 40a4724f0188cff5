import Mathlib.Logic.Function.Basic
import ServiceHost.Library.Program

/-!
The queues of the data exchange, their transactions, the payload store and the
message log. A transaction takes messages out of view and keeps back what is sent
in it until it ends. Texts of exceptions and the debug log are left out, and writes
to the event log are taken to return.
-/

namespace ServiceHost.DataExchange

open Library

/-- The exception classes that the data exchange tells apart. The id of an invalid
message is what `long.TryParse` makes of it. -/
inductive SystemException
  | invalidMessage (messageId : Option Int)
  | invalidMetadata (messageId : Int)
  | claimHandler
  | missingField
  | importRunnerFailed
  | timeout
  | win32
  | fault
  | queueOperationFailed
  | invalidOperation
  | argumentNull
  | nullReference
  | other (name : String)
deriving DecidableEq, Repr

structure ClaimTicket where
  handlerName : String
  storageId : String
deriving DecidableEq, Repr

/-- A message of either direction. No text and the empty text are one, except for
the references and the payload. -/
structure DataExchangeMessage where
  version : Int
  externalReference : Option String
  messageData : Option String
  claimTicket : Option ClaimTicket
  senderId : String
  receiverId : String
  senderName : String
  receiverName : String
  format : String
  country : String
  protocolId : Int
  protocol : String
  priority : String
  routingAddress : String
  messageLogId : Int
  messageReference : String
  senderKey : Int
  receiverKey : Int
deriving DecidableEq, Repr

inductive DataExchangeQueuePriority
  | high
  | normal
  | low
deriving DecidableEq, Repr

def orderedPriorities : List DataExchangeQueuePriority := [.high, .normal, .low]

inductive QueueName
  | internalExport (moduleName : String) (priority : DataExchangeQueuePriority)
  | internalImport (priority : DataExchangeQueuePriority)
  | internalImportError
  | customImport (name : String) (priority : DataExchangeQueuePriority)
deriving DecidableEq, Repr

/-- What lies in a queue: a body that can be read, or one that cannot. -/
inductive QueueItem
  | message (message : DataExchangeMessage)
  | corrupt
deriving DecidableEq, Repr

inductive TransLogMessageStatus
  | exportFailedDuringCreation
  | exportEnqueued
  | exportTransferredProcessingStarted
deriving DecidableEq, Repr

inductive TransactionKind
  | msmq
  | msdtc
deriving DecidableEq, Repr

/-- A scope of the coordinator is pending from its creation and complete once it is
asked to commit, which happens when it is disposed. -/
inductive TransactionStatus
  | initialized
  | pending
  | complete
  | committed
  | aborted
deriving DecidableEq, Repr

inductive TransactionCall
  | commit
  | rollback
deriving DecidableEq, Repr

/-- A transaction object, the latest receive first, with the calls made on it. -/
structure Transaction where
  kind : TransactionKind
  status : TransactionStatus
  received : List (QueueName × QueueItem)
  sent : List (QueueName × QueueItem)
  calls : List TransactionCall
deriving DecidableEq, Repr

/-- `GetTransaction`, given which kind the settings ask for. -/
def Transaction.create (kind : TransactionKind) : Transaction where
  kind := kind
  status := match kind with
    | .msmq => .initialized
    | .msdtc => .pending
  received := []
  sent := []
  calls := []

/-- The two variables that hold transactions: the one that reads a queue and one
that only writes. -/
inductive TransactionVariable
  | dequeue
  | enqueue
deriving DecidableEq, Repr

abbrev Queues := QueueName → List QueueItem

/-- The state that the collaborators share, and the part of one module. The event log
keeps the keys of its messages, and the imports are the runs of import applications
with the exception that ended each. -/
structure World (X : Type) where
  queues : Queues
  payloads : ClaimTicket → Option String
  messageLog : List (Int × TransLogMessageStatus)
  eventLog : List Nat
  imports : List (DataExchangeMessage × Option SystemException)
  transactions : TransactionVariable → Transaction
  external : X

namespace Queues

/-- A message that was received and given back is the first one again. -/
def giveBack (queues : Queues) (name : QueueName) (item : QueueItem) : Queues :=
  Function.update queues name (item :: queues name)

def append (queues : Queues) (name : QueueName) (item : QueueItem) : Queues :=
  Function.update queues name (queues name ++ [item])

def giveBackAll (queues : Queues) (received : List (QueueName × QueueItem)) : Queues :=
  received.foldl (fun queues item => queues.giveBack item.1 item.2) queues

def appendAll (queues : Queues) (sent : List (QueueName × QueueItem)) : Queues :=
  sent.foldl (fun queues item => queues.append item.1 item.2) queues

def dropFirst (queues : Queues) (name : QueueName) : Queues :=
  Function.update queues name (queues name).tail

def firstItem (queues : Queues) : List QueueName → Option (QueueName × QueueItem)
  | [] => none
  | name :: rest =>
      match queues name with
      | [] => firstItem queues rest
      | item :: _ => some (name, item)

end Queues

section Transactions

variable {X : Type}

namespace World

def setTransaction (world : World X) (which : TransactionVariable) (transaction : Transaction) : World X :=
  { world with transactions := Function.update world.transactions which transaction }

def applyTransaction (world : World X) (which : TransactionVariable) : World X :=
  let transaction := world.transactions which
  { world with queues := world.queues.appendAll transaction.sent }.setTransaction which
    { transaction with status := .committed, received := [], sent := [] }

def discardTransaction (world : World X) (which : TransactionVariable) : World X :=
  let transaction := world.transactions which
  { world with queues := world.queues.giveBackAll transaction.received }.setTransaction which
    { transaction with status := .aborted, received := [], sent := [] }

end World

abbrev Exchange (X A : Type) := Program (World X) SystemException A

def logMessage (key : Nat) : Exchange X Unit :=
  Program.change fun world => { world with eventLog := world.eventLog ++ [key] }

namespace Transaction

def begin_ (which : TransactionVariable) (failure : Option SystemException) : Exchange X Unit := do
  let transaction ← Program.read fun world => world.transactions which
  match transaction.kind with
  | .msdtc => pure ()
  | .msmq => do
      Program.call failure
      if transaction.status = .initialized then
        Program.change fun world => world.setTransaction which { transaction with status := .pending }
      else Program.raise .invalidOperation

/-- A scope is only marked; what it marks takes effect when it is disposed. -/
def commit (which : TransactionVariable) (failure : Option SystemException) : Exchange X Unit := do
  Program.change fun world =>
    let transaction := world.transactions which
    world.setTransaction which { transaction with calls := transaction.calls ++ [.commit] }
  let transaction ← Program.read fun world => world.transactions which
  if transaction.status = .pending then do
    Program.call failure
    match transaction.kind with
    | .msmq => Program.change fun world => world.applyTransaction which
    | .msdtc => Program.change fun world => world.setTransaction which { transaction with status := .complete }
  else Program.raise .invalidOperation

def rollback (which : TransactionVariable) : Exchange X Unit := do
  Program.change fun world =>
    let transaction := world.transactions which
    world.setTransaction which { transaction with calls := transaction.calls ++ [.rollback] }
  let transaction ← Program.read fun world => world.transactions which
  match transaction.kind with
  | .msdtc => pure ()
  | .msmq =>
      if transaction.status = .pending then Program.change fun world => world.discardTransaction which
      else Program.raise .invalidOperation

/-- A pending transaction is aborted, and a complete scope commits now or fails to. -/
def dispose (which : TransactionVariable) (failure : Option SystemException) : Exchange X Unit := do
  let transaction ← Program.read fun world => world.transactions which
  match transaction.status with
  | .pending => Program.change fun world => world.discardTransaction which
  | .complete =>
      match failure with
      | none => Program.change fun world => world.applyTransaction which
      | some exception => do
          Program.change fun world => world.discardTransaction which
          Program.raise exception
  | _ => pure ()

/-- `using` around a new transaction. -/
def using_ {A : Type} (which : TransactionVariable) (kind : TransactionKind) (disposeFailure : Option SystemException)
    (body : Exchange X A) : Exchange X A := do
  Program.change fun world => world.setTransaction which (.create kind)
  Program.ensure body (dispose which disposeFailure)

end Transaction

/-- `Receive` without waiting: nothing when the queue is empty. -/
def receive (which : TransactionVariable) (name : QueueName) : Exchange X (Option QueueItem) := do
  let world ← Program.read id
  let transaction := world.transactions which
  if transaction.status = .pending then
    match world.queues name with
    | [] => pure none
    | item :: rest => do
        Program.change fun world =>
          { world with queues := Function.update world.queues name rest }.setTransaction which
            { transaction with received := (name, item) :: transaction.received }
        pure (some item)
  else Program.raise .queueOperationFailed

/-- `Enqueue`: the message is kept back in the transaction. -/
def enqueue (which : TransactionVariable) (name : QueueName) (message : DataExchangeMessage)
    (failure : Option SystemException) : Exchange X Unit := do
  let transaction ← Program.read fun world => world.transactions which
  if transaction.status = .pending then do
    Program.call failure
    Program.change fun world => world.setTransaction which
      { transaction with sent := transaction.sent ++ [(name, .message message)] }
    logMessage 8203
  else Program.raise .queueOperationFailed

end Transactions

section Dequeue

variable {X : Type}

def messageBody : QueueItem → Except SystemException DataExchangeMessage
  | .message message => .ok message
  | .corrupt => .error (.invalidMessage none)

/-- The loop of `Dequeue` over the priorities. -/
def dequeueFrom (which : TransactionVariable) : List QueueName → Exchange X (Option DataExchangeMessage)
  | [] => pure none
  | name :: rest => do
      match ← receive which name with
      | none => dequeueFrom which rest
      | some item => do
          let message ← Program.ofExcept (messageBody item)
          logMessage 8204
          pure (some message)

/-- `Dequeue`: the wait may fail, and finds nothing when the queues stay empty. -/
def dequeue (which : TransactionVariable) (names : List QueueName) (wait : Option SystemException) :
    Exchange X (Option DataExchangeMessage) := do
  Program.call wait
  dequeueFrom which names

def exportQueueNames (moduleName : String) : List QueueName :=
  orderedPriorities.map (QueueName.internalExport moduleName)

def importQueueNames : List QueueName := orderedPriorities.map QueueName.internalImport

end Dequeue

section MessageData

variable {X : Type}

namespace DataExchangeMessage

/-- `GetMessageData`, where a read of the store may also fail for its own reasons. -/
def getMessageData (payloads : ClaimTicket → Option String) (readFailure : Option SystemException)
    (message : DataExchangeMessage) : Except SystemException (Option String) :=
  if message.version = 0 then .ok message.messageData
  else match message.claimTicket with
    | none => .error .nullReference
    | some ticket =>
        match readFailure with
        | some exception => .error exception
        | none =>
            match payloads ticket with
            | some payload => .ok (some payload)
            | none => .error .claimHandler

/-- `DeleteMessageData`. What it does to the object of a message of version 0 has no
effect on a queue. -/
def deleteMessageData (message : DataExchangeMessage) (failure : Option SystemException) : Exchange X Unit :=
  if message.version = 0 then pure ()
  else match message.claimTicket with
    | none => pure ()
    | some ticket => do
        Program.call failure
        Program.change fun world => { world with payloads := Function.update world.payloads ticket none }

end DataExchangeMessage

end MessageData

section Enqueue

variable {X : Type}

/-- What the settings, the database and the runtime answer to `EnqueueExportMessage`,
and which of its steps fail. -/
structure EnqueueExportOutcomes where
  defaultRoutingAddress : Option String
  newGuid : String
  setExternalReference : Option SystemException
  getProtocolName : Except SystemException String
  getSenderInfo : Except SystemException (Option (String × String))
  getReceiverInfo : Except SystemException (Option (String × String × String))
  enqueue : Option SystemException
  storeFile : Option SystemException
  setEnqueued : Option SystemException

def getModuleFromRoutingAddress (routingAddress : String) : String :=
  let moduleName := routingAddress.toList.takeWhile fun c => c ≠ ':'
  if moduleName.isEmpty ∨ moduleName.length = routingAddress.toList.length then routingAddress
  else String.ofList moduleName

def fillRoutingAddress (outcomes : EnqueueExportOutcomes) (message : DataExchangeMessage) :
    Except SystemException DataExchangeMessage :=
  if message.routingAddress = "" then
    match outcomes.defaultRoutingAddress with
    | some routingAddress => .ok { message with routingAddress }
    | none => .error (.invalidMetadata 0)
  else .ok message

def fillExternalReference (outcomes : EnqueueExportOutcomes) (message : DataExchangeMessage) :
    Except SystemException DataExchangeMessage :=
  if message.externalReference.getD "" = "" then
    match outcomes.setExternalReference with
    | some exception =>
        if message.messageLogId > 0 then .error exception
        else .ok { message with externalReference := some outcomes.newGuid }
    | none => .ok { message with externalReference := some outcomes.newGuid }
  else .ok message

def fillProtocol (outcomes : EnqueueExportOutcomes) (message : DataExchangeMessage) :
    Except SystemException DataExchangeMessage :=
  if message.protocol = "" ∧ message.protocolId > 0 then
    outcomes.getProtocolName.map fun protocol => { message with protocol }
  else .ok message

def fillSender (outcomes : EnqueueExportOutcomes) (message : DataExchangeMessage) :
    Except SystemException DataExchangeMessage :=
  if message.senderId = "" ∧ message.senderKey > 0 then
    outcomes.getSenderInfo.map fun
      | some (senderId, senderName) => { message with senderId, senderName }
      | none => message
  else .ok message

def fillReceiver (outcomes : EnqueueExportOutcomes) (message : DataExchangeMessage) :
    Except SystemException DataExchangeMessage :=
  if message.receiverId = "" ∧ message.receiverKey > 0 then
    outcomes.getReceiverInfo.map fun
      | some (receiverId, receiverName, country) => { message with receiverId, receiverName, country }
      | none => message
  else .ok message

/-- `SetStatus` and its like: one row of the message log. -/
def setStatus (messageLogId : Int) (status : TransLogMessageStatus) (failure : Option SystemException) :
    Exchange X Unit := do
  Program.call failure
  Program.change fun world => { world with messageLog := world.messageLog ++ [(messageLogId, status)] }

/-- The message that is enqueued when its priority is set to low. -/
def lowPriorityMessage (outcomes : EnqueueExportOutcomes) (message : DataExchangeMessage) :
    Except SystemException DataExchangeMessage := do
  let message ← fillRoutingAddress outcomes { message with priority := "LOW" }
  let message ← fillExternalReference outcomes message
  let message ← fillProtocol outcomes message
  let message ← fillSender outcomes message
  fillReceiver outcomes message

def lowPriorityQueue (message : DataExchangeMessage) : QueueName :=
  .internalExport (getModuleFromRoutingAddress message.routingAddress) .low

/-- `EnqueueExportMessage` of a message whose priority the exporter has set to low. -/
def enqueueLowPriority (which : TransactionVariable) (outcomes : EnqueueExportOutcomes)
    (message : DataExchangeMessage) : Exchange X Unit := do
  let message ← Program.ofExcept (lowPriorityMessage outcomes message)
  enqueue which (lowPriorityQueue message) message outcomes.enqueue
  Program.call outcomes.storeFile
  if message.messageLogId > 0 then setStatus message.messageLogId .exportEnqueued outcomes.setEnqueued

end Enqueue

end ServiceHost.DataExchange
