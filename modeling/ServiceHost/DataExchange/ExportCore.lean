import ServiceHost.DataExchange.QueueCore

/-!
The two message exporters. Both hand the first message of a module's export queues
to a delegate and treat its return as success. They differ in how they handle the
exceptions of this and of what follows it. The critical log is left out.
-/

namespace ServiceHost.DataExchange

open Library

/-- The fields of an exporter, and the state of the module that it exports for. -/
structure ExporterState (X : Type) where
  messageLogIdOfFailingMessage : Int
  lastEventReportTime : Int
  module : X

/-- The delegate sees the payload store, and may change the message that it is given. -/
abbrev SendExportMessage (X : Type) :=
  (ClaimTicket → Option String) → DataExchangeMessage → X → Except SystemException String × DataExchangeMessage × X

/-- The commit after a success and the commit of a handler have an outcome each. -/
structure ExportOutcomes where
  begin_ : Option SystemException
  wait : Option SystemException
  setTransferred : Option SystemException
  commit : Option SystemException
  deleteMessageData : Option SystemException
  commitHandled : Option SystemException
  setFailed : Option SystemException
  enqueue : EnqueueExportOutcomes
  beginEnqueue : Option SystemException
  commitEnqueue : Option SystemException
  disposeEnqueue : Option SystemException
  dispose : Option SystemException
  now : Int
  howOftenWeShouldLogFailureForTheSameMessage : Int

section Common

variable {X : Type}

def sendMessage (send : SendExportMessage X) (message : DataExchangeMessage) :
    Exchange (ExporterState X) (Except SystemException String × DataExchangeMessage) := do
  let world ← Program.read id
  let (answer, message, module) := send world.payloads message world.external.module
  Program.change fun world => { world with external := { world.external with module } }
  pure (answer, message)

def onSuccess (outcomes : ExportOutcomes) (message : DataExchangeMessage) : Exchange (ExporterState X) Unit := do
  Program.change fun world => { world with external := { world.external with messageLogIdOfFailingMessage := 0 } }
  logMessage 8101
  if message.messageLogId > 0 then
    setStatus message.messageLogId .exportTransferredProcessingStarted outcomes.setTransferred

/-- The body of the `try` block once the delegate has answered. -/
def finishExport (outcomes : ExportOutcomes) (answer : Except SystemException String)
    (message : DataExchangeMessage) : Exchange (ExporterState X) Unit := do
  let _externalReference ← Program.ofExcept answer
  onSuccess outcomes message
  Transaction.commit .dequeue outcomes.commit
  message.deleteMessageData outcomes.deleteMessageData

def onUnknownError (outcomes : ExportOutcomes) (message : DataExchangeMessage) :
    Exchange (ExporterState X) Unit := do
  let exporter ← Program.read World.external
  if message.messageLogId = exporter.messageLogIdOfFailingMessage then
    if outcomes.now - exporter.lastEventReportTime ≥ outcomes.howOftenWeShouldLogFailureForTheSameMessage then do
      logMessage 8104
      Program.change fun world => { world with external := { world.external with lastEventReportTime := outcomes.now } }
    else pure ()
  else do
    logMessage 8104
    Program.change fun world =>
      { world with
        external := { world.external with
          lastEventReportTime := outcomes.now
          messageLogIdOfFailingMessage := message.messageLogId } }

end Common

-- the exporter of `DataExchangeManagerService`
namespace ManagerService

variable {X : Type}

def onInvalidMessageException (outcomes : ExportOutcomes) (messageId : Option Int) :
    Exchange (ExporterState X) Unit := do
  logMessage 8209
  logMessage 8000
  match messageId with
  | some messageId => setStatus messageId .exportFailedDuringCreation outcomes.setFailed
  | none => logMessage 1010

/-- The message is put in the low priority queue in the transaction that took it. -/
def moveToLowPriority (outcomes : ExportOutcomes) (message : DataExchangeMessage) :
    Exchange (ExporterState X) Unit :=
  Program.handle
    (do
      enqueueLowPriority .dequeue outcomes.enqueue message
      Transaction.commit .dequeue outcomes.commitHandled)
    fun _ => do
      Transaction.rollback .dequeue
      onUnknownError outcomes message

/-- The handler of `MissingFieldException` and the one of `Exception` do the same. -/
def handleException (outcomes : ExportOutcomes) (message : DataExchangeMessage) :
    SystemException → Exchange (ExporterState X) Unit
  | .invalidMessage messageId => do
      Transaction.commit .dequeue outcomes.commitHandled
      onInvalidMessageException outcomes messageId
  | .claimHandler => do
      Transaction.commit .dequeue outcomes.commitHandled
      onInvalidMessageException outcomes (some message.messageLogId)
  | _ => do
      onUnknownError outcomes message
      moveToLowPriority outcomes message

def exportInTransaction (outcomes : ExportOutcomes) (moduleName : String) (send : SendExportMessage X) :
    Exchange (ExporterState X) Bool := do
  Transaction.begin_ .dequeue outcomes.begin_
  match ← dequeue .dequeue (exportQueueNames moduleName) outcomes.wait with
  | none => pure false
  | some message => do
      let (answer, message) ← sendMessage send message
      Program.handle (finishExport outcomes answer message) (handleException outcomes message)
      pure true

def exportMessage (kind : TransactionKind) (outcomes : ExportOutcomes) (moduleName : String)
    (send : SendExportMessage X) : Exchange (ExporterState X) Bool :=
  Transaction.using_ .dequeue kind outcomes.dispose (exportInTransaction outcomes moduleName send)

end ManagerService

-- the exporter of `DataExchangeCommon`
namespace Common

variable {X : Type}

def updateMessageLogStatusForDiscardedMessage (outcomes : ExportOutcomes) (messageLogId : Int) :
    Exchange (ExporterState X) Unit :=
  if messageLogId = 0 then pure ()
  else setStatus messageLogId .exportFailedDuringCreation outcomes.setFailed

def onInvalidMessageException (outcomes : ExportOutcomes) (messageId : Option Int) :
    Exchange (ExporterState X) Unit := do
  logMessage 8209
  match messageId with
  | some messageId => updateMessageLogStatusForDiscardedMessage outcomes messageId
  | none => logMessage 1012

def enqueueInOwnTransaction (outcomes : ExportOutcomes) (message : DataExchangeMessage) :
    Exchange (ExporterState X) Unit :=
  Transaction.using_ .enqueue .msmq outcomes.disposeEnqueue do
    Transaction.begin_ .enqueue outcomes.beginEnqueue
    enqueueLowPriority .enqueue outcomes.enqueue message
    Transaction.commit .enqueue outcomes.commitEnqueue

def handleException (outcomes : ExportOutcomes) (message : DataExchangeMessage) :
    SystemException → Exchange (ExporterState X) Unit
  | .invalidMessage messageId => do
      Transaction.commit .dequeue outcomes.commitHandled
      onInvalidMessageException outcomes messageId
  | .invalidMetadata messageId => do
      Transaction.commit .dequeue outcomes.commitHandled
      onInvalidMessageException outcomes (some messageId)
  | .claimHandler => do
      Transaction.commit .dequeue outcomes.commitHandled
      onInvalidMessageException outcomes (some message.messageLogId)
  | .missingField => do
      onUnknownError outcomes message
      Program.handle
        (do
          enqueueInOwnTransaction outcomes message
          Transaction.commit .dequeue outcomes.commitHandled)
        fun _ => do
          Transaction.rollback .dequeue
          onUnknownError outcomes message
  | _ => do
      Transaction.rollback .dequeue
      onUnknownError outcomes message

def exportInTransaction (outcomes : ExportOutcomes) (moduleName : String) (send : SendExportMessage X) :
    Exchange (ExporterState X) Bool := do
  Transaction.begin_ .dequeue outcomes.begin_
  match ← dequeue .dequeue (exportQueueNames moduleName) outcomes.wait with
  | none => pure false
  | some message => do
      let (answer, message) ← sendMessage send message
      Program.handle
        (do
          finishExport outcomes answer message
          pure true)
        fun exception => do
          handleException outcomes message exception
          pure false

def exportMessage (kind : TransactionKind) (outcomes : ExportOutcomes) (moduleName : String)
    (send : SendExportMessage X) : Exchange (ExporterState X) Bool :=
  Transaction.using_ .dequeue kind outcomes.dispose (exportInTransaction outcomes moduleName send)

end Common

end ServiceHost.DataExchange
