import ServiceHost.DataExchange.QueueCore

/-!
The import application manager: one message is taken from the import queue, handed
to an import application and removed, or moved to the import error queue. Each
place where a collaborator may fail has its own outcome.
-/

namespace ServiceHost.DataExchange

open Library

section ImportApplication

variable {X : Type}

/-- The white space that `Trim` removes. -/
def isWhiteSpace (c : Char) : Bool :=
  c = ' ' ∨ ('\t' ≤ c ∧ c ≤ '\r') ∨ c = '\u0085' ∨ c = '\u00a0' ∨ c = '\u1680' ∨
    ('\u2000' ≤ c ∧ c ≤ '\u200a') ∨ c = '\u2028' ∨ c = '\u2029' ∨ c = '\u202f' ∨ c = '\u205f' ∨ c = '\u3000'

def DataExchangeMessage.isEmpty (payloads : ClaimTicket → Option String) (readFailure : Option SystemException)
    (message : DataExchangeMessage) : Except SystemException Bool := do
  return ((← message.getMessageData payloads readFailure).getD "").toList.all isWhiteSpace

structure HandleMessageOutcomes where
  readMessageData : Option SystemException
  getImportApplicationRunner : Option SystemException
  run : Option SystemException

def handleMessage (outcomes : HandleMessageOutcomes) : Option DataExchangeMessage → Exchange X Bool
  | none => pure false
  | some message => do
      let payloads ← Program.read World.payloads
      let isEmpty ← Program.ofExcept (message.isEmpty payloads outcomes.readMessageData)
      if isEmpty then do
        logMessage 8206
        pure true
      else do
        Program.call outcomes.getImportApplicationRunner
        Program.change fun world => { world with imports := world.imports ++ [(message, outcomes.run)] }
        Program.call outcomes.run
        pure true

/-- The delegates of `HandleMessageWithExceptionHandling`; one that is not given does nothing. -/
structure HandlingDelegates (X : Type) where
  onInvalidMessage : Exchange X Unit := pure ()
  onInvalidMetadata : Exchange X Unit := pure ()
  onImportRunnerFailed : Exchange X Unit := pure ()
  onTimeout : Exchange X Unit := pure ()
  onErrorCaught : Exchange X Unit := pure ()

def handleMessageWithExceptionHandling (delegates : HandlingDelegates X) (handlingCall : Exchange X Bool) :
    Exchange X Bool :=
  Program.handle handlingCall fun exception =>
    match exception with
    | .invalidMessage _ | .claimHandler => do
        logMessage 8000
        logMessage 8209
        delegates.onInvalidMessage
        delegates.onErrorCaught
        pure true
    | .invalidMetadata _ => do
        logMessage 8000
        delegates.onInvalidMetadata
        delegates.onErrorCaught
        pure true
    | .importRunnerFailed => do
        logMessage 8000
        logMessage 8210
        delegates.onImportRunnerFailed
        pure true
    | .timeout => do
        logMessage 8000
        delegates.onTimeout
        pure true
    | .win32 => do
        logMessage 8000
        delegates.onErrorCaught
        pure true
    | exception => Program.raise exception

/-- What becomes of a message whose handling raises an exception. -/
inductive FailureHandling
  | errorQueue
  | messageLog
  | passed
deriving DecidableEq

/-- The branches of `HandleMessageWithExceptionHandling`: failures of the import itself are
left to the message log, and other known ones to the delegate for the error queue. -/
def failureHandling : SystemException → FailureHandling
  | .invalidMessage _ | .claimHandler | .invalidMetadata _ | .win32 => .errorQueue
  | .importRunnerFailed | .timeout => .messageLog
  | _ => .passed

/-- `onFinished` is told what is returned, unless an exception passes by. -/
def startImportJobImmediately (outcomes : HandleMessageOutcomes) (delegates : HandlingDelegates X)
    (onFinished : Bool → Exchange X Unit) (message : DataExchangeMessage) : Exchange X Bool := do
  let returned ← handleMessageWithExceptionHandling delegates (handleMessage outcomes (some message))
  onFinished returned
  pure returned

end ImportApplication

section Service

structure ImportVariables where
  message : Option DataExchangeMessage
  possiblyMoreWork : Bool
deriving DecidableEq, Repr

structure ImportOutcomes where
  begin_ : Option SystemException
  wait : Option SystemException
  handleMessage : HandleMessageOutcomes
  deleteMessageData : Option SystemException
  deleteAfterFailure : Option SystemException
  enqueueErroneous : Option SystemException
  commit : Option SystemException
  dispose : Option SystemException

def enqueueErroneousImportMessage (which : TransactionVariable) (failure : Option SystemException) :
    Option DataExchangeMessage → Exchange ImportVariables Unit
  | none => Program.raise .argumentNull
  | some message => enqueue which .internalImportError message failure

/-- `message?.DeleteMessageData()`. -/
def deleteCurrentMessageData (failure : Option SystemException) : Exchange ImportVariables Unit := do
  let shared ← Program.read World.external
  match shared.message with
  | none => pure ()
  | some message => message.deleteMessageData failure

def handlingCall (outcomes : ImportOutcomes) : Exchange ImportVariables Bool := do
  let message ← dequeue .dequeue importQueueNames outcomes.wait
  Program.change fun world => { world with external := ⟨message, message.isSome⟩ }
  let handled ← handleMessage outcomes.handleMessage message
  deleteCurrentMessageData outcomes.deleteMessageData
  pure handled

def importDelegates (outcomes : ImportOutcomes) : HandlingDelegates ImportVariables where
  onImportRunnerFailed := deleteCurrentMessageData outcomes.deleteAfterFailure
  onTimeout := deleteCurrentMessageData outcomes.deleteAfterFailure
  onErrorCaught := do
    let shared ← Program.read World.external
    Program.handle (enqueueErroneousImportMessage .dequeue outcomes.enqueueErroneous shared.message) fun exception =>
      match exception with
      | .argumentNull => logMessage 8000
      | exception => Program.raise exception

/-- The body of the `using` block. -/
def processInTransaction (outcomes : ImportOutcomes) : Exchange ImportVariables Bool := do
  Program.change fun world => { world with external := ⟨none, false⟩ }
  Transaction.begin_ .dequeue outcomes.begin_
  let messageIsHandled ← handleMessageWithExceptionHandling (importDelegates outcomes) (handlingCall outcomes)
  if messageIsHandled then Transaction.commit .dequeue outcomes.commit
  else Transaction.rollback .dequeue
  let shared ← Program.read World.external
  pure shared.possiblyMoreWork

def processNextImportMessage (kind : TransactionKind) (outcomes : ImportOutcomes) : Exchange ImportVariables Bool :=
  Transaction.using_ .dequeue kind outcomes.dispose (processInTransaction outcomes)

end Service

end ServiceHost.DataExchange
