import ServiceHost.DataExchange.NpAuctionLogic
import ServiceHost.DataExchange.StandardMsmqImportCore

/-!
What has become of a message of the POWEL queue once its transaction has committed: it is
in the import queue, or in the error queue when it was refused as an invalid message, and
any other exception takes it away.
-/

namespace ServiceHost.DataExchange.StandardMsmq

open Library

variable {X : Type} {toUpperInvariant : Char → Char} {outcomes : TaskOutcomes} {message : DataExchangeMessage}

section Pending

variable {world : World X} {kind : TransactionKind} {received : List (QueueName × QueueItem)} {name : QueueName}

theorem enqueue_pending (pending : world.transactions .enqueue = ⟨kind, .pending, received, [], []⟩)
    (name : QueueName) (message : DataExchangeMessage) (failure : Option SystemException) :
    ∃ later, enqueue .enqueue name message failure world = (resultOf failure (), later) ∧
      later.queues = world.queues ∧ later.transactions .enqueue =
        ⟨kind, .pending, received, if failure = none then [(name, .message message)] else [], []⟩ := by
  cases failure with
  | none =>
      simp only [enqueue, bind, Program.read_run, pending, ↓reduceIte, Program.call_none, Program.change_run]
      exact ⟨_, rfl, rfl, by simp [World.setTransaction]⟩
  | some exception =>
      refine ⟨world, ?_, rfl, pending⟩
      simp [enqueue, bind, pending, resultOf]

theorem enqueueImportMessage_pending (pending : world.transactions .enqueue = ⟨kind, .pending, received, [], []⟩)
    (target : QueueName) (enqueued : DataExchangeMessage)
    (accepted : importMessageToEnqueue toUpperInvariant outcomes.enqueueImport.defaultRoutingAddress message =
      .ok (target, enqueued)) :
    ∃ later, DataExchangeApi.enqueueImportMessage toUpperInvariant outcomes.enqueueImport message world =
        (resultOf outcomes.enqueueImport.enqueue (), later) ∧
      later.queues = world.queues ∧ later.transactions .enqueue = ⟨kind, .pending, received,
        if outcomes.enqueueImport.enqueue = none then [(target, .message enqueued)] else [], []⟩ := by
  obtain ⟨later, run, rest⟩ := enqueue_pending pending target enqueued outcomes.enqueueImport.enqueue
  refine ⟨later, ?_, rest⟩
  simpa [DataExchangeApi.enqueueImportMessage, bind, accepted] using run

theorem enqueueImportMessage_raises (pending : world.transactions .enqueue = ⟨kind, .pending, received, [], []⟩)
    {exception : SystemException}
    (raised : Compello.importEnqueueFailure toUpperInvariant outcomes.enqueueImport message = some exception) :
    ∃ later, DataExchangeApi.enqueueImportMessage toUpperInvariant outcomes.enqueueImport message world =
        (.error exception, later) ∧
      later.queues = world.queues ∧ later.transactions .enqueue = ⟨kind, .pending, received, [], []⟩ := by
  unfold Compello.importEnqueueFailure at raised
  cases placed : importMessageToEnqueue toUpperInvariant outcomes.enqueueImport.defaultRoutingAddress message with
  | error other =>
      rw [placed] at raised
      cases raised
      refine ⟨world, ?_, rfl, pending⟩
      simp [DataExchangeApi.enqueueImportMessage, bind, placed]
  | ok target =>
      rw [placed] at raised
      have failed : outcomes.enqueueImport.enqueue = some exception := raised
      obtain ⟨later, run, queues, transaction⟩ := enqueueImportMessage_pending pending target.1 target.2 placed
      rw [failed] at run transaction
      exact ⟨later, run, queues, by simpa using transaction⟩

end Pending

section Import

variable {world : World X} {received : List (QueueName × QueueItem)}

theorem commit_disposes {kind : TransactionKind} {sent : List (QueueName × QueueItem)}
    {commit dispose : Option SystemException}
    (pending : world.transactions .enqueue = ⟨kind, .pending, received, sent, []⟩)
    (commits : Commits kind commit dispose) :
    ∃ last, Transaction.commit .enqueue commit world = (.ok (), last) ∧
      last.disposedQueues .enqueue dispose = world.queues.appendAll sent := by
  have result := Transaction.commit_result pending commit
  have left := Transaction.commit_disposedQueues pending commit dispose
  rw [if_pos commits] at left
  cases committed : Transaction.commit .enqueue commit world with
  | mk outcome last =>
      rw [committed] at result left
      have returned : outcome = .ok () := by
        rw [commits.1] at result
        exact result
      exact ⟨last, by rw [returned], left⟩

theorem importMessage_accepted
    (pending : world.transactions .enqueue = ⟨outcomes.kind, .pending, received, [], []⟩)
    (commits : Commits outcomes.kind outcomes.commit outcomes.dispose) {target : QueueName}
    {enqueued : DataExchangeMessage}
    (accepted : importMessageToEnqueue toUpperInvariant outcomes.enqueueImport.defaultRoutingAddress message =
      .ok (target, enqueued)) (sent : outcomes.enqueueImport.enqueue = none) :
    (importMessage toUpperInvariant outcomes message world).2.disposedQueues .enqueue outcomes.dispose =
      world.queues.append target (.message enqueued) := by
  obtain ⟨later, run, queues, transaction⟩ := enqueueImportMessage_pending pending target enqueued accepted
  rw [sent] at run transaction
  obtain ⟨last, committed, left⟩ := commit_disposes transaction commits
  have body : (do
      DataExchangeApi.enqueueImportMessage toUpperInvariant outcomes.enqueueImport message
      Transaction.commit .enqueue outcomes.commit : Exchange X Unit) world = (.ok (), last) :=
    (Program.bind_of_ok run).trans committed
  rw [importMessage, Program.handle_of_ok body, left, queues]
  rfl

theorem importMessage_invalid
    (pending : world.transactions .enqueue = ⟨outcomes.kind, .pending, received, [], []⟩)
    (commits : Commits outcomes.kind outcomes.commitHandled outcomes.dispose) {messageId : Option Int}
    (refused : Compello.importEnqueueFailure toUpperInvariant outcomes.enqueueImport message =
      some (.invalidMessage messageId)) :
    (importMessage toUpperInvariant outcomes message world).2.disposedQueues .enqueue outcomes.dispose =
      if outcomes.enqueueErroneous = none then
        world.queues.append .internalImportError
          (.message (NpAuction.filledMessage outcomes.enqueueImport.defaultRoutingAddress message))
      else world.queues.giveBackAll received := by
  obtain ⟨raised, run, queues, transaction⟩ := enqueueImportMessage_raises pending refused
  obtain ⟨later, enqueued, laterQueues, laterTransaction⟩ := enqueue_pending transaction .internalImportError
    (NpAuction.filledMessage outcomes.enqueueImport.defaultRoutingAddress message) outcomes.enqueueErroneous
  rw [importMessage, Program.handle_of_error (Program.bind_of_error run)]
  dsimp only
  cases failure : outcomes.enqueueErroneous with
  | some exception =>
      rw [failure] at enqueued laterTransaction
      rw [DataExchangeApi.enqueueErroneousImportMessage, Program.bind_of_error enqueued]
      simp [World.disposedQueues, laterTransaction, laterQueues, queues]
  | none =>
      rw [failure] at enqueued laterTransaction
      obtain ⟨last, committed, left⟩ := commit_disposes laterTransaction commits
      rw [DataExchangeApi.enqueueErroneousImportMessage, Program.bind_of_ok enqueued, Program.bind_of_ok committed]
      refine (rfl : _ = last.disposedQueues .enqueue outcomes.dispose).trans ?_
      rw [left, laterQueues, queues]
      rfl

theorem importMessage_removed
    (pending : world.transactions .enqueue = ⟨outcomes.kind, .pending, received, [], []⟩)
    (commits : Commits outcomes.kind outcomes.commitHandled outcomes.dispose) {exception : SystemException}
    (raised : Compello.importEnqueueFailure toUpperInvariant outcomes.enqueueImport message = some exception)
    (other : ∀ messageId, exception ≠ .invalidMessage messageId) :
    (importMessage toUpperInvariant outcomes message world).2.disposedQueues .enqueue outcomes.dispose =
      world.queues := by
  obtain ⟨later, run, queues, transaction⟩ := enqueueImportMessage_raises pending raised
  obtain ⟨last, committed, left⟩ := commit_disposes transaction commits
  rw [importMessage, Program.handle_of_error (Program.bind_of_error run)]
  split
  · rename_i messageId
    exact absurd rfl (other messageId)
  · rw [committed, left, queues]
    rfl

end Import

section Task

variable {world : World X} {name : QueueName}

theorem tryExecuteSingleTask_queues (toUpperInvariant : Char → Char)
    (found : world.queues.firstItem (customImportQueueNames "POWEL") = some (name, .message message))
    (begins : outcomes.kind = .msmq → outcomes.begin_ = none) (waits : outcomes.wait = none) :
    ∃ opened : World X, opened.queues = world.queues.dropFirst name ∧
      opened.transactions .enqueue = ⟨outcomes.kind, .pending, [(name, .message message)], [], []⟩ ∧
      (tryExecuteSingleTask toUpperInvariant outcomes world).2.queues =
        (importMessage toUpperInvariant outcomes message opened).2.disposedQueues .enqueue outcomes.dispose := by
  have begun := @Transaction.begin_create X world .enqueue outcomes.kind outcomes.begin_ begins
  have fresh : (world.setTransaction .enqueue ⟨outcomes.kind, .pending, [], [], []⟩).transactions .enqueue =
      ⟨outcomes.kind, .pending, [], [], []⟩ := World.setTransaction_same ..
  have taken := dequeue_found fresh found
  let received := (world.setTransaction .enqueue ⟨outcomes.kind, .pending, [], [], []⟩).received .enqueue outcomes.kind []
    name (.message message)
  let opened : World X := { received with eventLog := received.eventLog ++ [8204] }
  have dequeued : dequeue .enqueue (customImportQueueNames "POWEL") outcomes.wait
      (world.setTransaction .enqueue ⟨outcomes.kind, .pending, [], [], []⟩) = (.ok (some message), opened) := by
    rw [waits, taken]
    rfl
  have holding : received.transactions .enqueue =
      ⟨outcomes.kind, .pending, [(name, .message message)], [], []⟩ := World.setTransaction_same ..
  refine ⟨opened, rfl, holding, ?_⟩
  rw [tryExecuteSingleTask, Transaction.using_queues, Program.bind_of_ok begun, Program.bind_of_ok dequeued]
  cases run : importMessage toUpperInvariant outcomes message opened with
  | mk outcome later =>
      cases outcome with
      | ok value =>
          dsimp only
          rw [Program.bind_of_ok run]
          rfl
      | error exception =>
          dsimp only
          rw [Program.bind_of_error run]

/-- An accepted message is in the import queue, a message refused as invalid is in the error
queue, or back in its own when it cannot be put there, and a message whose call raises
anything but these two is removed. -/
theorem tryExecuteSingleTask_commits
    (found : world.queues.firstItem (customImportQueueNames "POWEL") = some (name, .message message))
    (begins : outcomes.kind = .msmq → outcomes.begin_ = none) (waits : outcomes.wait = none) :
    (Commits outcomes.kind outcomes.commit outcomes.dispose →
      Compello.importEnqueueFailure toUpperInvariant outcomes.enqueueImport message = none →
      ∃ queue routingAddress priority, (tryExecuteSingleTask toUpperInvariant outcomes world).2.queues =
        (world.queues.dropFirst name).append (.internalImport queue)
          (.message { message with routingAddress := routingAddress, priority := priority })) ∧
    (Commits outcomes.kind outcomes.commitHandled outcomes.dispose → ∀ exception,
      Compello.importEnqueueFailure toUpperInvariant outcomes.enqueueImport message = some exception →
      ((∃ messageId, exception = .invalidMessage messageId) →
        if outcomes.enqueueErroneous = none then
          ∃ routingAddress priority, (tryExecuteSingleTask toUpperInvariant outcomes world).2.queues =
            (world.queues.dropFirst name).append .internalImportError
              (.message { message with routingAddress := routingAddress, priority := priority })
        else (tryExecuteSingleTask toUpperInvariant outcomes world).2.queues = world.queues) ∧
      ((∀ messageId, exception ≠ .invalidMessage messageId) → (∀ messageId, exception ≠ .invalidMetadata messageId) →
        (tryExecuteSingleTask toUpperInvariant outcomes world).2.queues = world.queues.dropFirst name)) := by
  obtain ⟨opened, queues, transaction, left⟩ :=
    tryExecuteSingleTask_queues toUpperInvariant found begins waits
  rw [left]
  refine ⟨fun commits accepted => ?_, fun commits exception raised => ⟨?_, ?_⟩⟩
  · unfold Compello.importEnqueueFailure at accepted
    cases placed : importMessageToEnqueue toUpperInvariant outcomes.enqueueImport.defaultRoutingAddress message with
    | error exception =>
        rw [placed] at accepted
        cases accepted
    | ok target =>
        rw [placed] at accepted
        obtain ⟨queue, enqueued⟩ := target
        obtain ⟨⟨asked, rfl⟩, routingAddress, priority, rfl⟩ := Compello.importMessageToEnqueue_same placed
        rw [importMessage_accepted transaction commits placed accepted, queues]
        exact ⟨asked, routingAddress, priority, rfl⟩
  · rintro ⟨messageId, rfl⟩
    rw [importMessage_invalid transaction commits raised, queues]
    obtain ⟨routingAddress, priority, filled⟩ :=
      NpAuction.filledMessage_same outcomes.enqueueImport.defaultRoutingAddress message
    split
    · exact ⟨routingAddress, priority, by rw [filled]⟩
    · exact Queues.giveBack_dropFirst (Queues.firstItem_head found).2
  · intro other _
    rw [importMessage_removed transaction commits raised other, queues]

end Task

section Schedule

def scheduleMessage : DataExchangeMessage where
  version := 0
  externalReference := none
  messageData := some "<schedule/>"
  claimTicket := none
  senderId := "producer"
  receiverId := "grid"
  senderName := "Producer"
  receiverName := "Grid"
  format := "GS2"
  country := "NO"
  protocolId := 12
  protocol := "GS2"
  priority := "High"
  routingAddress := "Import"
  messageLogId := 0
  messageReference := "12"
  senderKey := 1
  receiverKey := 2

def scheduleWorld : World Unit where
  queues := Queues.append (fun _ => []) (.customImport "POWEL" .normal) (.message scheduleMessage)
  payloads := fun _ => none
  messageLog := []
  eventLog := []
  imports := []
  transactions := fun _ => .create .msmq
  external := ()

def scheduleOutcomes (enqueue : Option SystemException) : TaskOutcomes where
  kind := .msmq
  begin_ := none
  wait := none
  enqueueImport := ⟨some "Import", enqueue⟩
  enqueueErroneous := none
  commit := none
  commitHandled := none
  dispose := none

theorem scheduleWorld_found : scheduleWorld.queues.firstItem (customImportQueueNames "POWEL") =
    some (.customImport "POWEL" .normal, .message scheduleMessage) := by
  decide

theorem tryExecuteSingleTask_commits_schedule :
    ∃ queue routingAddress priority,
      (tryExecuteSingleTask Char.toUpper (scheduleOutcomes none) scheduleWorld).2.queues =
        (scheduleWorld.queues.dropFirst (.customImport "POWEL" .normal)).append (.internalImport queue)
          (.message { scheduleMessage with routingAddress := routingAddress, priority := priority }) :=
  (tryExecuteSingleTask_commits scheduleWorld_found (fun _ => rfl) rfl).1 ⟨rfl, fun _ => rfl⟩ (by decide)

/-- The queue of the import refuses a valid message: the dequeue is committed all the same,
and the message is in no queue. -/
theorem tryExecuteSingleTask_removes :
    scheduleWorld.queues.firstItem (customImportQueueNames "POWEL") =
        some (.customImport "POWEL" .normal, .message scheduleMessage) ∧
      (importMessageToEnqueue Char.toUpper (some "Import") scheduleMessage).isOk ∧
      Commits (scheduleOutcomes (some .queueOperationFailed)).kind none none ∧
      (tryExecuteSingleTask Char.toUpper (scheduleOutcomes (some .queueOperationFailed)) scheduleWorld).1 = .ok false ∧
      (tryExecuteSingleTask Char.toUpper (scheduleOutcomes (some .queueOperationFailed)) scheduleWorld).2.queues =
        fun _ => [] := by
  refine ⟨scheduleWorld_found, by decide, by decide, rfl, ?_⟩
  have begins : (scheduleOutcomes (some .queueOperationFailed)).kind = .msmq →
      (scheduleOutcomes (some .queueOperationFailed)).begin_ = none := fun _ => rfl
  obtain ⟨opened, queues, transaction, left⟩ :=
    tryExecuteSingleTask_queues Char.toUpper scheduleWorld_found begins rfl
  have raised : Compello.importEnqueueFailure Char.toUpper
      (scheduleOutcomes (some .queueOperationFailed)).enqueueImport scheduleMessage = some .queueOperationFailed := by
    decide
  rw [left, importMessage_removed transaction ⟨rfl, fun _ => rfl⟩ raised (fun _ => by simp), queues]
  funext name
  by_cases same : name = .customImport "POWEL" .normal
  · subst same
    simp [scheduleWorld, Queues.dropFirst, Queues.append]
  · simp [scheduleWorld, Queues.dropFirst, Queues.append, same]

end Schedule

end ServiceHost.DataExchange.StandardMsmq
