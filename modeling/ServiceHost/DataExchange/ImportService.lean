import ServiceHost.DataExchange.ImportServiceCore
import ServiceHost.DataExchange.Queue

/-!
One call of the import application manager as a decision: how the message was
handled, where the exception of the handling goes, and what the transaction is then
asked to do with the message.
-/

namespace ServiceHost.DataExchange

open Library

inductive ExceptionRoute
  | errorQueue
  | messageLog
  | propagates
deriving DecidableEq, Repr

namespace SystemException

def route : SystemException → ExceptionRoute
  | .invalidMessage _ | .claimHandler | .invalidMetadata _ | .win32 => .errorQueue
  | .importRunnerFailed | .timeout => .messageLog
  | _ => .propagates

def logged : SystemException → List Nat
  | .invalidMessage _ | .claimHandler => [8000, 8209]
  | .invalidMetadata _ | .timeout | .win32 => [8000]
  | .importRunnerFailed => [8000, 8210]
  | _ => []

end SystemException

inductive Handling
  | empty
  | ran
  | failed (exception : SystemException)
  | runFailed (exception : SystemException)
deriving DecidableEq, Repr

namespace Handling

def exception : Handling → Option SystemException
  | .empty | .ran => none
  | .failed exception | .runFailed exception => some exception

def imports (message : DataExchangeMessage) : Handling → List (DataExchangeMessage × Option SystemException)
  | .ran => [(message, none)]
  | .runFailed exception => [(message, some exception)]
  | _ => []

def logged : Handling → List Nat
  | .empty => [8206]
  | _ => []

end Handling

def HandleMessageOutcomes.handling (outcomes : HandleMessageOutcomes) (payloads : ClaimTicket → Option String)
    (message : DataExchangeMessage) : Handling :=
  match message.isEmpty payloads outcomes.readMessageData with
  | .error exception => .failed exception
  | .ok true => .empty
  | .ok false =>
      match outcomes.getImportApplicationRunner, outcomes.run with
      | some exception, _ => .failed exception
      | none, some exception => .runFailed exception
      | none, none => .ran

inductive Disposition
  | removed
  | movedToErrorQueue
  | givenBack
deriving DecidableEq, Repr

namespace ImportOutcomes

variable (outcomes : ImportOutcomes)

def callException (message : DataExchangeMessage) (handling : Handling) : Option SystemException :=
  match handling.exception with
  | some exception => some exception
  | none => message.deleteException outcomes.deleteMessageData

def erroneousException (message : Option DataExchangeMessage) : Option SystemException :=
  match message, outcomes.enqueueErroneous with
  | none, _ | _, none | _, some .argumentNull => none
  | some _, some exception => some exception

def failureException (message : Option DataExchangeMessage) (exception : SystemException) :
    Option SystemException :=
  match exception.route with
  | .errorQueue => outcomes.erroneousException message
  | .messageLog => message.bind fun message => message.deleteException outcomes.deleteAfterFailure
  | .propagates => some exception

def afterFailure (message : Option DataExchangeMessage) (exception : SystemException) : Disposition :=
  match outcomes.failureException message exception with
  | some _ => .givenBack
  | none =>
      if exception.route = .errorQueue ∧ message.isSome ∧ outcomes.enqueueErroneous = none then .movedToErrorQueue
      else .removed

def disposition (payloads : ClaimTicket → Option String) : QueueItem → Disposition
  | .corrupt => outcomes.afterFailure none (.invalidMessage none)
  | .message message =>
      match outcomes.callException message (outcomes.handleMessage.handling payloads message) with
      | none => .removed
      | some exception => outcomes.afterFailure (some message) exception

end ImportOutcomes

section Runs

structure ImportTrace where
  message : Option DataExchangeMessage
  logged : List Nat
  imports : List (DataExchangeMessage × Option SystemException)
  payloads : ClaimTicket → Option String
  sent : List (QueueName × QueueItem)

def World.traced (world : World ImportVariables) (kind : TransactionKind) (name : QueueName) (item : QueueItem)
    (trace : ImportTrace) : World ImportVariables where
  queues := world.queues.dropFirst name
  payloads := trace.payloads
  messageLog := world.messageLog
  eventLog := world.eventLog ++ trace.logged
  imports := world.imports ++ trace.imports
  transactions := Function.update world.transactions .dequeue ⟨kind, .pending, [(name, item)], trace.sent, []⟩
  external := ⟨trace.message, trace.message.isSome⟩

theorem handleMessage_run {X : Type} (outcomes : HandleMessageOutcomes) (message : DataExchangeMessage)
    (world : World X) :
    handleMessage outcomes (some message) world =
      (resultOf (outcomes.handling world.payloads message).exception true,
        { world with
          eventLog := world.eventLog ++ (outcomes.handling world.payloads message).logged
          imports := world.imports ++ (outcomes.handling world.payloads message).imports message }) := by
  unfold handleMessage HandleMessageOutcomes.handling
  cases empty : message.isEmpty world.payloads outcomes.readMessageData with
  | error exception =>
      simp [bind, Program.read, Program.ofExcept, empty, Handling.exception, Handling.logged, Handling.imports, resultOf]
  | ok isEmpty =>
      cases isEmpty with
      | true =>
          simp [bind, Program.read, Program.ofExcept, empty, Handling.exception, Handling.logged, Handling.imports,
            resultOf, logMessage, Program.change]
      | false =>
          cases runner : outcomes.getImportApplicationRunner with
          | some exception =>
              simp [bind, Program.read, Program.ofExcept, empty, Handling.exception, Handling.logged,
                Handling.imports, resultOf]
          | none =>
              cases run : outcomes.run with
              | some exception =>
                  simp [bind, Program.read, Program.ofExcept, empty, Handling.exception, Handling.logged,
                    Handling.imports, resultOf, Program.change]
              | none =>
                  simp [bind, Program.read, Program.ofExcept, empty, Handling.exception, Handling.logged,
                    Handling.imports, resultOf, Program.change]

variable {world : World ImportVariables} {kind : TransactionKind} {name : QueueName}

def World.handlingStart (world : World ImportVariables) (kind : TransactionKind) : World ImportVariables :=
  ({ world with external := ⟨none, false⟩ } : World ImportVariables).setTransaction .dequeue ⟨kind, .pending, [], [], []⟩

theorem handlingStart_transaction :
    (world.handlingStart kind).transactions .dequeue = ⟨kind, .pending, [], [], []⟩ :=
  World.setTransaction_same ..

theorem dequeue_handlingStart {item : QueueItem}
    (found : world.queues.firstItem importQueueNames = some (name, item)) :
    dequeue .dequeue importQueueNames none (world.handlingStart kind) =
      dequeued item (world.traced kind name item ⟨none, [], [], world.payloads, []⟩) := by
  rw [dequeue_found handlingStart_transaction found]
  simp [World.handlingStart, World.received, World.traced, World.setTransaction]

theorem handlingCall_corrupt (outcomes : ImportOutcomes) (waited : outcomes.wait = none)
    (found : world.queues.firstItem importQueueNames = some (name, .corrupt)) :
    handlingCall outcomes (world.handlingStart kind) =
      (.error (.invalidMessage none), world.traced kind name .corrupt ⟨none, [], [], world.payloads, []⟩) := by
  have run := @dequeue_handlingStart _ kind _ _ found
  simp only [dequeued, Program.raise_run] at run
  rw [handlingCall, waited, Program.bind_of_error run]

theorem handlingCall_message (outcomes : ImportOutcomes) (waited : outcomes.wait = none)
    {message : DataExchangeMessage}
    (found : world.queues.firstItem importQueueNames = some (name, .message message)) :
    handlingCall outcomes (world.handlingStart kind) =
      (resultOf (outcomes.callException message (outcomes.handleMessage.handling world.payloads message)) true,
        world.traced kind name (.message message)
          { message := some message
            logged := 8204 :: (outcomes.handleMessage.handling world.payloads message).logged
            imports := (outcomes.handleMessage.handling world.payloads message).imports message
            payloads :=
              if outcomes.callException message (outcomes.handleMessage.handling world.payloads message) = none
              then message.clearedPayloads world.payloads else world.payloads
            sent := [] }) := by
  have run := @dequeue_handlingStart _ kind _ _ found
  simp only [dequeued, logMessage, bind, Program.change_run, Program.pure_run] at run
  have handled (state : World ImportVariables) := handleMessage_run outcomes.handleMessage message state
  rw [handlingCall, waited, Program.bind_of_ok run]
  generalize handling : outcomes.handleMessage.handling world.payloads message = result
  cases failed : result.exception with
  | some exception =>
      simp [bind, World.traced, Program.change, handled, handling, failed, resultOf, ImportOutcomes.callException]
  | none =>
      cases deleted : message.deleteException outcomes.deleteMessageData with
      | some exception =>
          simp [bind, World.traced, Program.change, Program.read, handled, handling, failed, resultOf,
            ImportOutcomes.callException, deleteCurrentMessageData, deleted,
            DataExchangeMessage.deleteMessageData_raises deleted]
      | none =>
          simp [bind, World.traced, Program.change, Program.read, handled, handling, failed, resultOf,
            ImportOutcomes.callException, deleteCurrentMessageData, deleted,
            DataExchangeMessage.deleteMessageData_returns deleted]

variable {item : QueueItem}

theorem logMessage_traced (key : Nat) (trace : ImportTrace) :
    logMessage key (world.traced kind name item trace) =
      (.ok (), world.traced kind name item { trace with logged := trace.logged ++ [key] }) := by
  simp [logMessage, Program.change, World.traced]

def ImportOutcomes.erroneousTrace (outcomes : ImportOutcomes) (trace : ImportTrace) : ImportTrace :=
  match trace.message, outcomes.enqueueErroneous with
  | none, _ | _, some .argumentNull => { trace with logged := trace.logged ++ [8000] }
  | some message, none =>
      { trace with
        logged := trace.logged ++ [8203]
        sent := trace.sent ++ [(.internalImportError, .message message)] }
  | _, _ => trace

theorem onErrorCaught_traced (outcomes : ImportOutcomes) (trace : ImportTrace) :
    (importDelegates outcomes).onErrorCaught (world.traced kind name item trace) =
      (resultOf (outcomes.erroneousException trace.message) (),
        world.traced kind name item (outcomes.erroneousTrace trace)) := by
  cases held : trace.message with
  | none =>
      simp [importDelegates, bind, Program.read, World.traced, held, enqueueErroneousImportMessage, Program.handle,
        logMessage, Program.change, ImportOutcomes.erroneousTrace, ImportOutcomes.erroneousException, resultOf]
  | some message =>
      cases failure : outcomes.enqueueErroneous with
      | none =>
          simp [importDelegates, bind, Program.read, World.traced, held, enqueueErroneousImportMessage, Program.handle,
            logMessage, Program.change, failure, enqueue, World.setTransaction,
            ImportOutcomes.erroneousTrace, ImportOutcomes.erroneousException, resultOf]
      | some exception =>
          have raised : enqueue .dequeue .internalImportError message (some exception)
              (world.traced kind name item trace) = (.error exception, world.traced kind name item trace) := by
            simp [enqueue, bind, Program.read, World.traced]
          cases exception <;>
            simp [importDelegates, bind, Program.read, World.traced, held, enqueueErroneousImportMessage,
              Program.handle, logMessage, Program.change, failure, enqueue,
              ImportOutcomes.erroneousTrace, ImportOutcomes.erroneousException, resultOf]

def ImportTrace.delete (failure : Option SystemException) (trace : ImportTrace) : ImportTrace :=
  match trace.message with
  | none => trace
  | some message =>
      if message.deleteException failure = none then
        { trace with payloads := message.clearedPayloads trace.payloads }
      else trace

theorem deleteCurrentMessageData_traced (failure : Option SystemException) (trace : ImportTrace) :
    deleteCurrentMessageData failure (world.traced kind name item trace) =
      (resultOf (trace.message.bind fun message => message.deleteException failure) (),
        world.traced kind name item (trace.delete failure)) := by
  cases held : trace.message with
  | none => simp [deleteCurrentMessageData, bind, Program.read, World.traced, held, resultOf, ImportTrace.delete]
  | some message =>
      cases deleted : message.deleteException failure with
      | none =>
          simp [deleteCurrentMessageData, bind, Program.read, World.traced, held, resultOf, ImportTrace.delete, deleted,
            DataExchangeMessage.deleteMessageData_returns deleted]
      | some exception =>
          simp [deleteCurrentMessageData, bind, Program.read, World.traced, held, resultOf, ImportTrace.delete, deleted,
            DataExchangeMessage.deleteMessageData_raises deleted]

def ImportOutcomes.failureTrace (outcomes : ImportOutcomes) (exception : SystemException) (trace : ImportTrace) :
    ImportTrace :=
  let trace := { trace with logged := trace.logged ++ exception.logged }
  match exception.route with
  | .errorQueue => outcomes.erroneousTrace trace
  | .messageLog => trace.delete outcomes.deleteAfterFailure
  | .propagates => trace

theorem logMessage_then {A : Type} (key : Nat) (next : Unit → Exchange ImportVariables A) (trace : ImportTrace) :
    (logMessage key >>= next) (world.traced kind name item trace) =
      next () (world.traced kind name item { trace with logged := trace.logged ++ [key] }) :=
  Program.bind_of_ok (logMessage_traced key trace)

theorem handling_traced (outcomes : ImportOutcomes) {state : World ImportVariables} {trace : ImportTrace}
    {exception : SystemException}
    (run : handlingCall outcomes state = (.error exception, world.traced kind name item trace)) :
    handleMessageWithExceptionHandling (importDelegates outcomes) (handlingCall outcomes) state =
      (resultOf (outcomes.failureException trace.message exception) true,
        world.traced kind name item (outcomes.failureTrace exception trace)) := by
  rw [handleMessageWithExceptionHandling, Program.handle_of_error run]
  have moved (trace : ImportTrace) :=
    resultOf_pure (@onErrorCaught_traced world kind name item outcomes trace) true
  have deleted (trace : ImportTrace) :=
    resultOf_pure (@deleteCurrentMessageData_traced world kind name item outcomes.deleteAfterFailure trace) true
  cases exception with
  | invalidMessage messageId =>
      refine (logMessage_then ..).trans ((logMessage_then ..).trans ?_)
      simp only [List.append_assoc, List.cons_append, List.nil_append]
      exact moved _
  | claimHandler =>
      refine (logMessage_then ..).trans ((logMessage_then ..).trans ?_)
      simp only [List.append_assoc, List.cons_append, List.nil_append]
      exact moved _
  | invalidMetadata messageId => exact (logMessage_then ..).trans (moved _)
  | importRunnerFailed =>
      refine (logMessage_then ..).trans ((logMessage_then ..).trans ?_)
      simp only [List.append_assoc, List.cons_append, List.nil_append]
      exact deleted _
  | timeout => exact (logMessage_then ..).trans (deleted _)
  | win32 => exact (logMessage_then ..).trans (moved _)
  | _ =>
      simp [ImportOutcomes.failureException, ImportOutcomes.failureTrace, SystemException.route,
        SystemException.logged, resultOf]

namespace ImportOutcomes

variable (outcomes : ImportOutcomes)

def callTrace (payloads : ClaimTicket → Option String) (message : DataExchangeMessage) : ImportTrace :=
  let handling := outcomes.handleMessage.handling payloads message
  { message := some message
    logged := 8204 :: handling.logged
    imports := handling.imports message
    payloads :=
      if outcomes.callException message handling = none then message.clearedPayloads payloads else payloads
    sent := [] }

def trace (payloads : ClaimTicket → Option String) : QueueItem → ImportTrace
  | .corrupt => outcomes.failureTrace (.invalidMessage none) ⟨none, [], [], payloads, []⟩
  | .message message =>
      match outcomes.callException message (outcomes.handleMessage.handling payloads message) with
      | none => outcomes.callTrace payloads message
      | some exception => outcomes.failureTrace exception (outcomes.callTrace payloads message)

def handlingException (payloads : ClaimTicket → Option String) : QueueItem → Option SystemException
  | .corrupt => outcomes.failureException none (.invalidMessage none)
  | .message message =>
      match outcomes.callException message (outcomes.handleMessage.handling payloads message) with
      | none => none
      | some exception => outcomes.failureException (some message) exception

end ImportOutcomes

theorem handling_run (outcomes : ImportOutcomes) (waited : outcomes.wait = none)
    (found : world.queues.firstItem importQueueNames = some (name, item)) :
    handleMessageWithExceptionHandling (importDelegates outcomes) (handlingCall outcomes) (world.handlingStart kind) =
      (resultOf (outcomes.handlingException world.payloads item) true,
        world.traced kind name item (outcomes.trace world.payloads item)) := by
  cases item with
  | corrupt => exact handling_traced outcomes (handlingCall_corrupt outcomes waited found)
  | message message =>
      have run := @handlingCall_message world kind name outcomes waited message found
      cases raised : outcomes.callException message (outcomes.handleMessage.handling world.payloads message) with
      | none =>
          rw [raised] at run
          rw [handleMessageWithExceptionHandling, Program.handle_of_ok run]
          simp [ImportOutcomes.handlingException, ImportOutcomes.trace, ImportOutcomes.callTrace, raised, resultOf]
      | some exception =>
          rw [raised] at run
          rw [handling_traced outcomes run]
          simp [ImportOutcomes.handlingException, ImportOutcomes.trace, ImportOutcomes.callTrace, raised]

theorem processInTransaction_run (outcomes : ImportOutcomes) (begins : kind = .msmq → outcomes.begin_ = none)
    (waited : outcomes.wait = none) (found : world.queues.firstItem importQueueNames = some (name, item)) :
    (processInTransaction outcomes (world.setTransaction .dequeue (.create kind))).2 =
      let left := world.traced kind name item (outcomes.trace world.payloads item)
      match outcomes.handlingException world.payloads item with
      | some _ => left
      | none => (Transaction.commit .dequeue outcomes.commit left).2 := by
  let cleared : World ImportVariables := { world with external := ⟨none, false⟩ }
  have begun : Transaction.begin_ .dequeue outcomes.begin_
      { world.setTransaction .dequeue (.create kind) with external := ⟨none, false⟩ } =
        (.ok (), world.handlingStart kind) :=
    @Transaction.begin_create _ cleared .dequeue kind outcomes.begin_ begins
  have run := @handling_run world kind name item outcomes waited found
  rw [processInTransaction, Program.bind_of_ok (Program.change_run ..), Program.bind_of_ok begun]
  cases raised : outcomes.handlingException world.payloads item with
  | some exception =>
      rw [raised] at run
      rw [Program.bind_of_error run]
  | none =>
      rw [raised] at run
      rw [Program.bind_of_ok run]
      cases committed : Transaction.commit .dequeue outcomes.commit
          (world.traced kind name item (outcomes.trace world.payloads item)) with
      | mk result later =>
          cases result with
          | ok _ => simp [bind, committed, Program.read]
          | error exception => simp [bind, committed]

theorem processNextImportMessage_queues (outcomes : ImportOutcomes)
    (begins : kind = .msmq → outcomes.begin_ = none) (waited : outcomes.wait = none)
    (found : world.queues.firstItem importQueueNames = some (name, item)) :
    (processNextImportMessage kind outcomes world).2.queues =
      if outcomes.handlingException world.payloads item = none ∧ Commits kind outcomes.commit outcomes.dispose
      then (world.queues.dropFirst name).appendAll (outcomes.trace world.payloads item).sent
      else world.queues := by
  have pending : (world.traced kind name item (outcomes.trace world.payloads item)).transactions .dequeue =
      ⟨kind, .pending, [(name, item)], (outcomes.trace world.payloads item).sent, []⟩ := by
    simp [World.traced]
  have givenBack : (world.queues.dropFirst name).giveBackAll [(name, item)] = world.queues :=
    Queues.giveBack_dropFirst (Queues.firstItem_head found).2
  rw [processNextImportMessage, Transaction.using_queues, processInTransaction_run outcomes begins waited found]
  cases raised : outcomes.handlingException world.payloads item with
  | some exception => simpa [World.disposedQueues, World.traced] using givenBack
  | none =>
      simp only [Transaction.commit_disposedQueues pending, true_and]
      split
      · rfl
      · exact givenBack

theorem processNextImportMessage_records (outcomes : ImportOutcomes)
    (begins : kind = .msmq → outcomes.begin_ = none) (waited : outcomes.wait = none)
    (found : world.queues.firstItem importQueueNames = some (name, item)) :
    (world.traced kind name item (outcomes.trace world.payloads item)).SameRecords
      (processNextImportMessage kind outcomes world).2 := by
  have disposed := @Transaction.using_sameRecords _ world .dequeue kind _ outcomes.dispose
    (processInTransaction outcomes)
  rw [processInTransaction_run outcomes begins waited found] at disposed
  refine World.SameRecords.trans ?_ disposed
  cases raised : outcomes.handlingException world.payloads item with
  | some exception => exact World.SameRecords.refl _
  | none => exact Transaction.commit_sameRecords outcomes.commit

end Runs

section Samples

def valuesWorld : World ImportVariables where
  queues := Function.update (fun _ => []) (.internalImport .normal) [.message valuesMessage]
  payloads := Function.update (fun _ => none) valuesTicket (some "1.5")
  messageLog := []
  eventLog := []
  imports := []
  transactions := fun _ => .create .msmq
  external := ⟨none, false⟩

def onlyCommitFails (failure : Option SystemException) : ImportOutcomes where
  begin_ := none
  wait := none
  handleMessage := ⟨none, none, none⟩
  deleteMessageData := none
  deleteAfterFailure := none
  enqueueErroneous := none
  commit := failure
  dispose := none

theorem valuesWorld_first :
    valuesWorld.queues.firstItem importQueueNames = some (.internalImport .normal, .message valuesMessage) := by
  decide

end Samples

end ServiceHost.DataExchange
