import ServiceHost.DataExchange.ExportCore
import ServiceHost.DataExchange.Queue

/-!
What the steps of an export do to the queues, the stores and the transaction that
took the message.
-/

namespace ServiceHost.DataExchange

open Library

variable {X : Type}

structure World.SameExchange (state later : World (ExporterState X)) : Prop where
  queues : later.queues = state.queues
  payloads : later.payloads = state.payloads
  messageLog : later.messageLog = state.messageLog
  imports : later.imports = state.imports
  transactions : later.transactions = state.transactions
  module : later.external.module = state.external.module

theorem onUnknownError_run (outcomes : ExportOutcomes) (message : DataExchangeMessage)
    (state : World (ExporterState X)) :
    ∃ later, onUnknownError outcomes message state = (.ok (), later) ∧ state.SameExchange later := by
  by_cases again : message.messageLogId = state.external.messageLogIdOfFailingMessage
  · by_cases due : outcomes.now - state.external.lastEventReportTime ≥
        outcomes.howOftenWeShouldLogFailureForTheSameMessage
    · simp only [onUnknownError, bind, Program.read_run, again, due, ↓reduceIte, logMessage, Program.change_run]
      exact ⟨_, rfl, rfl, rfl, rfl, rfl, rfl, rfl⟩
    · simp only [onUnknownError, bind, Program.read_run, again, due, ↓reduceIte]
      exact ⟨_, rfl, rfl, rfl, rfl, rfl, rfl, rfl⟩
  · simp only [onUnknownError, bind, Program.read_run, again, ↓reduceIte, logMessage, Program.change_run]
    exact ⟨_, rfl, rfl, rfl, rfl, rfl, rfl, rfl⟩

namespace ExportOutcomes

variable (outcomes : ExportOutcomes)

def transferException (message : DataExchangeMessage) : Option SystemException :=
  if message.messageLogId > 0 then outcomes.setTransferred else none

def exportException (answer : Except SystemException String) (message : DataExchangeMessage) :
    Option SystemException :=
  match answer with
  | .error exception => some exception
  | .ok _ =>
      match outcomes.transferException message, outcomes.commit with
      | some exception, _ => some exception
      | none, some exception => some exception
      | none, none => message.deleteException outcomes.deleteMessageData

def CommitsSent (answer : Except SystemException String) (message : DataExchangeMessage) : Prop :=
  answer.toOption.isSome ∧ outcomes.transferException message = none ∧ outcomes.commit = none

instance (answer : Except SystemException String) (message : DataExchangeMessage) :
    Decidable (outcomes.CommitsSent answer message) := by
  unfold CommitsSent
  infer_instance

end ExportOutcomes

def DataExchangeMessage.transferred (message : DataExchangeMessage) : List (Int × TransLogMessageStatus) :=
  if message.messageLogId > 0 then [(message.messageLogId, .exportTransferredProcessingStarted)] else []

theorem onSuccess_run (outcomes : ExportOutcomes) (message : DataExchangeMessage)
    (state : World (ExporterState X)) :
    ∃ later, onSuccess outcomes message state = (resultOf (outcomes.transferException message) (), later) ∧
      later.queues = state.queues ∧ later.payloads = state.payloads ∧
      later.messageLog =
        state.messageLog ++ (if outcomes.transferException message = none then message.transferred else []) ∧
      later.transactions = state.transactions ∧ later.external.module = state.external.module := by
  unfold ExportOutcomes.transferException DataExchangeMessage.transferred
  by_cases logged : message.messageLogId > 0
  · cases failure : outcomes.setTransferred with
    | none =>
        simp only [onSuccess, bind, Program.change_run, logMessage, logged, ↓reduceIte, setStatus, failure,
          Program.call_none, resultOf]
        exact ⟨_, rfl, rfl, rfl, rfl, rfl, rfl⟩
    | some exception =>
        simp only [onSuccess, bind, Program.change_run, logMessage, logged, ↓reduceIte, setStatus, failure,
          Program.call_some, resultOf]
        exact ⟨_, rfl, rfl, rfl, by simp, rfl, rfl⟩
  · simp only [onSuccess, bind, Program.change_run, logMessage, logged, ↓reduceIte, resultOf]
    exact ⟨_, rfl, rfl, rfl, by simp, rfl, rfl⟩

section Finish

variable {kind : TransactionKind} {received : List (QueueName × QueueItem)} {calls : List TransactionCall}

structure World.Finished (state : World (ExporterState X)) (outcomes : ExportOutcomes) (kind : TransactionKind)
    (received : List (QueueName × QueueItem)) (calls : List TransactionCall)
    (answer : Except SystemException String) (message : DataExchangeMessage) (later : World (ExporterState X)) :
    Prop where
  queues : later.queues = state.queues
  payloads : later.payloads =
    if outcomes.exportException answer message = none then message.clearedPayloads state.payloads
    else state.payloads
  messageLog : later.messageLog = state.messageLog ++
    (if answer.toOption.isSome ∧ outcomes.transferException message = none then message.transferred else [])
  module : later.external.module = state.external.module
  committed : outcomes.CommitsSent answer message →
    later.transactions .dequeue = Transaction.committed kind received [] (calls ++ [.commit])
  pending : ¬ outcomes.CommitsSent answer message →
    ∃ attempts, later.transactions .dequeue = ⟨kind, .pending, received, [], calls ++ attempts⟩

theorem finishExport_run (outcomes : ExportOutcomes) (answer : Except SystemException String)
    (message : DataExchangeMessage) {state : World (ExporterState X)}
    (taken : state.transactions .dequeue = ⟨kind, .pending, received, [], calls⟩) :
    ∃ later, finishExport outcomes answer message state =
        (resultOf (outcomes.exportException answer message) (), later) ∧
      state.Finished outcomes kind received calls answer message later := by
  cases answer with
  | error exception =>
      refine ⟨state, ?_, ?_⟩
      · simp [finishExport, bind, ExportOutcomes.exportException, resultOf]
      · refine ⟨rfl, by simp [ExportOutcomes.exportException], by simp [Except.toOption], rfl, ?_, ?_⟩
        · rintro ⟨answered, _⟩
          simp [Except.toOption] at answered
        · intro _
          exact ⟨[], by simpa using taken⟩
  | ok reference =>
      obtain ⟨logged, run, queues, payloads, messageLog, transactions, module⟩ := onSuccess_run outcomes message state
      cases transferred : outcomes.transferException message with
      | some exception =>
          rw [transferred] at run
          refine ⟨logged, ?_, ?_⟩
          · rw [finishExport, Program.bind_of_ok (Program.ofExcept_run ..), Program.bind_of_error run]
            simp [ExportOutcomes.exportException, transferred, resultOf]
          · refine ⟨queues, ?_, ?_, module, ?_, ?_⟩
            · simp [ExportOutcomes.exportException, transferred, payloads]
            · simpa [transferred, Except.toOption] using messageLog
            · rintro ⟨_, none_, _⟩
              simp [transferred] at none_
            · intro _
              exact ⟨[], by simpa [transactions] using taken⟩
      | none =>
          rw [transferred] at run
          have held : logged.transactions .dequeue = ⟨kind, .pending, received, [], calls⟩ := by
            rw [transactions, taken]
          cases refused : outcomes.commit with
          | some exception =>
              refine ⟨logged.setTransaction .dequeue ⟨kind, .pending, received, [], calls ++ [.commit]⟩, ?_, ?_⟩
              · rw [finishExport, Program.bind_of_ok (Program.ofExcept_run ..), Program.bind_of_ok run, refused,
                  Program.bind_of_error (Transaction.commit_refused held exception)]
                simp [ExportOutcomes.exportException, transferred, refused, resultOf]
              · refine ⟨queues, ?_, ?_, module, ?_, ?_⟩
                · simp [ExportOutcomes.exportException, transferred, refused, payloads]
                · simpa [transferred, Except.toOption] using messageLog
                · rintro ⟨_, _, none_⟩
                  simp [refused] at none_
                · intro _
                  exact ⟨[.commit], World.setTransaction_same ..⟩
          | none =>
              obtain ⟨done, commits, doneQueues, doneTransactions, same⟩ := Transaction.commit_returns held
              have committed : done.transactions .dequeue =
                  Transaction.committed kind received [] (calls ++ [.commit]) := by
                simp [doneTransactions]
              have sameQueues : done.queues = state.queues := by
                rw [doneQueues, queues]
                cases kind <;> rfl
              have reached : outcomes.CommitsSent (.ok reference) message := ⟨rfl, transferred, refused⟩
              have written : done.messageLog = state.messageLog ++
                  (if (Except.ok reference : Except SystemException String).toOption.isSome ∧
                    outcomes.transferException message = none then message.transferred else []) := by
                simpa [same.messageLog, transferred, Except.toOption] using messageLog
              have module : done.external.module = state.external.module := by rw [same.external, module]
              have raised : outcomes.exportException (.ok reference) message =
                  message.deleteException outcomes.deleteMessageData := by
                simp [ExportOutcomes.exportException, transferred, refused]
              cases deleted : message.deleteException outcomes.deleteMessageData with
              | some exception =>
                  refine ⟨done, ?_, ⟨sameQueues, ?_, written, module, fun _ => committed, fun not_ => absurd reached not_⟩⟩
                  · rw [finishExport, Program.bind_of_ok (Program.ofExcept_run ..), Program.bind_of_ok run, refused,
                      Program.bind_of_ok commits, DataExchangeMessage.deleteMessageData_raises deleted, raised, deleted]
                    rfl
                  · rw [raised, deleted, same.payloads, payloads]
                    rfl
              | none =>
                  refine ⟨{ done with payloads := message.clearedPayloads done.payloads }, ?_, ?_⟩
                  · rw [finishExport, Program.bind_of_ok (Program.ofExcept_run ..), Program.bind_of_ok run, refused,
                      Program.bind_of_ok commits, DataExchangeMessage.deleteMessageData_returns deleted, raised, deleted]
                    rfl
                  · refine ⟨sameQueues, ?_, written, module, fun _ => committed, fun not_ => absurd reached not_⟩
                    simp [raised, deleted, same.payloads, payloads]

theorem enqueueLowPriority_ended (outcomes : EnqueueExportOutcomes) (message : DataExchangeMessage)
    {state : World (ExporterState X)} {which : TransactionVariable}
    (ended : (state.transactions which).status ≠ .pending) :
    ∃ exception, enqueueLowPriority which outcomes message state = (.error exception, state) := by
  unfold enqueueLowPriority
  cases lowPriorityMessage outcomes message with
  | error exception => exact ⟨exception, by simp [bind, Program.ofExcept]⟩
  | ok message => exact ⟨.queueOperationFailed, by simp [bind, Program.ofExcept, enqueue, ended]⟩

def EnqueueExportOutcomes.exception (outcomes : EnqueueExportOutcomes) (message : DataExchangeMessage) :
    Option SystemException :=
  match lowPriorityMessage outcomes message with
  | .error exception => some exception
  | .ok copy =>
      match outcomes.enqueue, outcomes.storeFile with
      | some exception, _ => some exception
      | none, some exception => some exception
      | none, none => if copy.messageLogId > 0 then outcomes.setEnqueued else none

structure World.Enqueued (state : World X) (which : TransactionVariable) (kind : TransactionKind)
    (received sent : List (QueueName × QueueItem)) (calls : List TransactionCall)
    (outcomes : EnqueueExportOutcomes) (message : DataExchangeMessage) (later : World X) : Prop where
  queues : later.queues = state.queues
  payloads : later.payloads = state.payloads
  imports : later.imports = state.imports
  external : later.external = state.external
  others : ∀ other, other ≠ which → later.transactions other = state.transactions other
  transaction : ∃ kept, later.transactions which = ⟨kind, .pending, received, kept, calls⟩ ∧
    (outcomes.exception message = none → ∃ copy, lowPriorityMessage outcomes message = .ok copy ∧
      kept = sent ++ [(lowPriorityQueue copy, .message copy)])

theorem enqueueLowPriority_run (outcomes : EnqueueExportOutcomes) (message : DataExchangeMessage)
    {state : World X} {which : TransactionVariable} {sent : List (QueueName × QueueItem)}
    (taken : state.transactions which = ⟨kind, .pending, received, sent, calls⟩) :
    ∃ later, enqueueLowPriority which outcomes message state = (resultOf (outcomes.exception message) (), later) ∧
      state.Enqueued which kind received sent calls outcomes message later := by
  cases filled : lowPriorityMessage outcomes message with
  | error exception =>
      have raised : outcomes.exception message = some exception := by simp [EnqueueExportOutcomes.exception, filled]
      refine ⟨state, ?_, rfl, rfl, rfl, rfl, fun _ _ => rfl, sent, taken, by simp [raised]⟩
      simp [enqueueLowPriority, bind, filled, raised, resultOf]
  | ok copy =>
      cases refused : outcomes.enqueue with
      | some exception =>
          have raised : outcomes.exception message = some exception := by
            simp [EnqueueExportOutcomes.exception, filled, refused]
          refine ⟨state, ?_, rfl, rfl, rfl, rfl, fun _ _ => rfl, sent, taken, by simp [raised]⟩
          simp [enqueueLowPriority, bind, filled, enqueue, Program.read, taken, refused, raised, resultOf]
      | none =>
          let done : World X := state.setTransaction which
            ⟨kind, .pending, received, sent ++ [(lowPriorityQueue copy, .message copy)], calls⟩
          let logged : World X := { done with eventLog := state.eventLog ++ [8203] }
          have run : enqueue which (lowPriorityQueue copy) copy outcomes.enqueue state = (.ok (), logged) := by
            simp [enqueue, bind, Program.read, Program.change, taken, refused, logMessage, logged, done]
          have kept : logged.transactions which =
              ⟨kind, .pending, received, sent ++ [(lowPriorityQueue copy, .message copy)], calls⟩ :=
            World.setTransaction_same ..
          have others (other : TransactionVariable) (different : other ≠ which) :
              logged.transactions other = state.transactions other := World.setTransaction_other _ _ _ different
          cases stored : outcomes.storeFile with
          | some exception =>
              have raised : outcomes.exception message = some exception := by
                simp [EnqueueExportOutcomes.exception, filled, refused, stored]
              refine ⟨logged, ?_, rfl, rfl, rfl, rfl, others, _, kept, by simp [raised]⟩
              rw [enqueueLowPriority, filled, Program.bind_of_ok (Program.ofExcept_run ..), Program.bind_of_ok run]
              simp [bind, stored, raised, resultOf]
          | none =>
              have raised : outcomes.exception message = if copy.messageLogId > 0 then outcomes.setEnqueued else none := by
                simp [EnqueueExportOutcomes.exception, filled, refused, stored]
              by_cases status : copy.messageLogId > 0
              · cases failed : outcomes.setEnqueued with
                | some exception =>
                    refine ⟨logged, ?_, rfl, rfl, rfl, rfl, others, _, kept, by simp [raised, status, failed]⟩
                    rw [enqueueLowPriority, filled, Program.bind_of_ok (Program.ofExcept_run ..),
                      Program.bind_of_ok run]
                    simp [bind, stored, raised, status, setStatus, failed, resultOf]
                | none =>
                    refine ⟨{ logged with
                      messageLog := logged.messageLog ++ [(copy.messageLogId, .exportEnqueued)] }, ?_, rfl, rfl, rfl, rfl,
                      others, _, kept, fun _ => ⟨copy, filled, rfl⟩⟩
                    rw [enqueueLowPriority, filled, Program.bind_of_ok (Program.ofExcept_run ..),
                      Program.bind_of_ok run]
                    simp [bind, stored, raised, status, setStatus, failed, resultOf, Program.change]
              · refine ⟨logged, ?_, rfl, rfl, rfl, rfl, others, _, kept, fun _ => ⟨copy, filled, rfl⟩⟩
                rw [enqueueLowPriority, filled, Program.bind_of_ok (Program.ofExcept_run ..), Program.bind_of_ok run]
                simp [bind, stored, raised, status, resultOf]

end Finish

section Taken

variable {world : World (ExporterState X)} {kind : TransactionKind} {name : QueueName}

def World.answered (world : World (ExporterState X)) (kind : TransactionKind) (name : QueueName)
    (message : DataExchangeMessage) (module : X) : World (ExporterState X) :=
  { world.received .dequeue kind [] name (.message message) with
    eventLog := world.eventLog ++ [8204]
    external := { world.external with module } }

theorem answered_transaction (message : DataExchangeMessage) (module : X) :
    (world.answered kind name message module).transactions .dequeue =
      ⟨kind, .pending, [(name, .message message)], [], []⟩ := by
  simp [World.answered, World.received]

theorem take_then (outcomes : ExportOutcomes) (moduleName : String) {send : SendExportMessage X}
    {message sent : DataExchangeMessage} {answer : Except SystemException String} {module : X}
    (next : Except SystemException String → DataExchangeMessage → Exchange (ExporterState X) Bool)
    (begins : kind = .msmq → outcomes.begin_ = none) (waited : outcomes.wait = none)
    (found : world.queues.firstItem (exportQueueNames moduleName) = some (name, .message message))
    (answers : send world.payloads message world.external.module = (answer, sent, module)) :
    (do
      Transaction.begin_ .dequeue outcomes.begin_
      match ← dequeue .dequeue (exportQueueNames moduleName) outcomes.wait with
      | none => pure false
      | some message => do
          let (answer, message) ← sendMessage send message
          next answer message : Exchange (ExporterState X) Bool) (world.setTransaction .dequeue (.create kind)) =
      next answer sent (world.answered kind name message module) := by
  have begun := @Transaction.begin_create _ world .dequeue kind outcomes.begin_ begins
  have taken := dequeue_found (World.setTransaction_same world .dequeue ⟨kind, .pending, [], [], []⟩) found
  simp only [dequeued, logMessage, bind, Program.change_run, Program.pure_run] at taken
  rw [waited, Program.bind_of_ok begun, Program.bind_of_ok taken]
  simp [sendMessage, bind, Program.read, Program.change, World.answered, World.received, World.setTransaction,
    answers]

theorem take_corrupt (outcomes : ExportOutcomes) (moduleName : String)
    (next : Option DataExchangeMessage → Exchange (ExporterState X) Bool)
    (begins : kind = .msmq → outcomes.begin_ = none) (waited : outcomes.wait = none)
    (found : world.queues.firstItem (exportQueueNames moduleName) = some (name, .corrupt)) :
    (do
      Transaction.begin_ .dequeue outcomes.begin_
      next (← dequeue .dequeue (exportQueueNames moduleName) outcomes.wait) : Exchange (ExporterState X) Bool)
        (world.setTransaction .dequeue (.create kind)) =
      (.error (.invalidMessage none), world.received .dequeue kind [] name .corrupt) := by
  have begun := @Transaction.begin_create _ world .dequeue kind outcomes.begin_ begins
  have taken := dequeue_found (World.setTransaction_same world .dequeue ⟨kind, .pending, [], [], []⟩) found
  simp only [dequeued, Program.raise_run] at taken
  rw [waited, Program.bind_of_ok begun, Program.bind_of_error taken]
  simp [World.received, World.setTransaction]

theorem using_corrupt (outcomes : ExportOutcomes) (moduleName : String)
    (next : Option DataExchangeMessage → Exchange (ExporterState X) Bool)
    (begins : kind = .msmq → outcomes.begin_ = none) (waited : outcomes.wait = none)
    (found : world.queues.firstItem (exportQueueNames moduleName) = some (name, .corrupt)) :
    let exported := Transaction.using_ .dequeue kind outcomes.dispose
      (do
        Transaction.begin_ .dequeue outcomes.begin_
        next (← dequeue .dequeue (exportQueueNames moduleName) outcomes.wait) : Exchange (ExporterState X) Bool) world
    exported.1 = .error (.invalidMessage none) ∧ exported.2.queues = world.queues := by
  have run := take_corrupt outcomes moduleName next begins waited found
  obtain ⟨_, head⟩ := Queues.firstItem_head found
  constructor
  · rw [Transaction.using_result outcomes.dispose run, Transaction.dispose_result]
    simp [World.received]
  · rw [Transaction.using_queues, run]
    simpa [World.disposedQueues, World.received, Queues.giveBackAll] using Queues.giveBack_dropFirst head

end Taken

section Copies

variable {outcomes : EnqueueExportOutcomes} {message copy : DataExchangeMessage}

structure DataExchangeMessage.IsCopyOf (copy message : DataExchangeMessage) : Prop where
  version : copy.version = message.version
  messageData : copy.messageData = message.messageData
  claimTicket : copy.claimTicket = message.claimTicket
  messageLogId : copy.messageLogId = message.messageLogId
  messageReference : copy.messageReference = message.messageReference
  format : copy.format = message.format

structure DataExchangeMessage.SharesPayload (message other : DataExchangeMessage) : Prop where
  version : message.version = other.version
  messageData : message.messageData = other.messageData
  claimTicket : message.claimTicket = other.claimTicket

theorem DataExchangeMessage.IsCopyOf.trans {first second third : DataExchangeMessage}
    (later : third.IsCopyOf second) (earlier : second.IsCopyOf first) : third.IsCopyOf first where
  version := later.version.trans earlier.version
  messageData := later.messageData.trans earlier.messageData
  claimTicket := later.claimTicket.trans earlier.claimTicket
  messageLogId := later.messageLogId.trans earlier.messageLogId
  messageReference := later.messageReference.trans earlier.messageReference
  format := later.format.trans earlier.format

theorem DataExchangeMessage.IsCopyOf.refl (message : DataExchangeMessage) : message.IsCopyOf message :=
  ⟨rfl, rfl, rfl, rfl, rfl, rfl⟩

theorem fillRoutingAddress_isCopyOf (filled : fillRoutingAddress outcomes message = .ok copy) :
    copy.IsCopyOf message := by
  unfold fillRoutingAddress at filled
  split at filled
  · split at filled
    · cases filled
      exact ⟨rfl, rfl, rfl, rfl, rfl, rfl⟩
    · contradiction
  · cases filled
    exact .refl _

theorem fillExternalReference_isCopyOf (filled : fillExternalReference outcomes message = .ok copy) :
    copy.IsCopyOf message := by
  unfold fillExternalReference at filled
  split at filled
  · split at filled
    · split at filled
      · contradiction
      · cases filled
        exact ⟨rfl, rfl, rfl, rfl, rfl, rfl⟩
    · cases filled
      exact ⟨rfl, rfl, rfl, rfl, rfl, rfl⟩
  · cases filled
    exact .refl _

theorem fillProtocol_isCopyOf (filled : fillProtocol outcomes message = .ok copy) : copy.IsCopyOf message := by
  unfold fillProtocol at filled
  split at filled
  · obtain ⟨protocol, _, rfl⟩ := map_eq_ok_iff.mp filled
    exact ⟨rfl, rfl, rfl, rfl, rfl, rfl⟩
  · cases filled
    exact .refl _

theorem fillSender_isCopyOf (filled : fillSender outcomes message = .ok copy) : copy.IsCopyOf message := by
  unfold fillSender at filled
  split at filled
  · obtain ⟨info, _, rfl⟩ := map_eq_ok_iff.mp filled
    cases info <;> exact ⟨rfl, rfl, rfl, rfl, rfl, rfl⟩
  · cases filled
    exact .refl _

theorem fillReceiver_isCopyOf (filled : fillReceiver outcomes message = .ok copy) : copy.IsCopyOf message := by
  unfold fillReceiver at filled
  split at filled
  · obtain ⟨info, _, rfl⟩ := map_eq_ok_iff.mp filled
    cases info <;> exact ⟨rfl, rfl, rfl, rfl, rfl, rfl⟩
  · cases filled
    exact .refl _

theorem lowPriorityMessage_isCopyOf (filled : lowPriorityMessage outcomes message = .ok copy) :
    copy.IsCopyOf message := by
  obtain ⟨routed, first, filled⟩ := bind_eq_ok_iff.mp filled
  obtain ⟨referenced, second, filled⟩ := bind_eq_ok_iff.mp filled
  obtain ⟨named, third, filled⟩ := bind_eq_ok_iff.mp filled
  obtain ⟨sent, fourth, filled⟩ := bind_eq_ok_iff.mp filled
  have low : DataExchangeMessage.IsCopyOf { message with priority := "LOW" } message := ⟨rfl, rfl, rfl, rfl, rfl, rfl⟩
  exact (fillReceiver_isCopyOf filled).trans ((fillSender_isCopyOf fourth).trans ((fillProtocol_isCopyOf third).trans
    ((fillExternalReference_isCopyOf second).trans ((fillRoutingAddress_isCopyOf first).trans low))))

end Copies

section Samples

def exportWorld (moduleName : String) (module : X) : World (ExporterState X) where
  queues := Function.update (fun _ => []) (.internalExport moduleName .normal) [.message valuesMessage]
  payloads := Function.update (fun _ => none) valuesTicket (some "1.5")
  messageLog := []
  eventLog := []
  imports := []
  transactions := fun _ => .create .msmq
  external := ⟨0, 0, module⟩

theorem exportWorld_first (moduleName : String) (module : X) :
    (exportWorld moduleName module).queues.firstItem (exportQueueNames moduleName) =
      some (.internalExport moduleName .normal, .message valuesMessage) := by
  simp [exportWorld, exportQueueNames, orderedPriorities, Queues.firstItem]

def nothingFails : ExportOutcomes where
  begin_ := none
  wait := none
  setTransferred := none
  commit := none
  deleteMessageData := none
  commitHandled := none
  setFailed := none
  enqueue := ⟨some "STANDARDWS", "guid", none, .ok "XML", .ok none, .ok none, none, none, none⟩
  beginEnqueue := none
  commitEnqueue := none
  disposeEnqueue := none
  dispose := none
  now := 0
  howOftenWeShouldLogFailureForTheSameMessage := 600

end Samples

end ServiceHost.DataExchange
