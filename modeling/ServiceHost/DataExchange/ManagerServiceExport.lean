import ServiceHost.DataExchange.ExportTransaction

/-!
The exporter of `DataExchangeManagerService` when the delegate throws: the message is
discarded, or it is moved to the low priority queue in the transaction that took it.
-/

namespace ServiceHost.DataExchange.ManagerService

open Library

variable {X : Type} {world : World (ExporterState X)} {kind : TransactionKind} {name : QueueName}

theorem exportInTransaction_run (outcomes : ExportOutcomes) (moduleName : String) {send : SendExportMessage X}
    {message sent : DataExchangeMessage} {answer : Except SystemException String} {module : X}
    (begins : kind = .msmq → outcomes.begin_ = none) (waited : outcomes.wait = none)
    (found : world.queues.firstItem (exportQueueNames moduleName) = some (name, .message message))
    (answers : send world.payloads message world.external.module = (answer, sent, module)) :
    exportInTransaction outcomes moduleName send (world.setTransaction .dequeue (.create kind)) =
      (do
        Program.handle (finishExport outcomes answer sent) (handleException outcomes sent)
        pure true : Exchange (ExporterState X) Bool) (world.answered kind name message module) :=
  take_then outcomes moduleName
    (fun answer message => do
      Program.handle (finishExport outcomes answer message) (handleException outcomes message)
      pure true)
    begins waited found answers

structure ExportIsFinal (world : World (ExporterState X)) (name : QueueName) (message : DataExchangeMessage)
    (result : Except SystemException Bool) (final : World (ExporterState X)) : Prop where
  returns : result = .ok true
  queues : final.queues = world.queues.dropFirst name
  calls : (final.transactions .dequeue).calls = [.commit]
  messageLog : final.messageLog = world.messageLog ++ message.transferred

theorem exportMessage_isFinal {outcomes : ExportOutcomes} {moduleName : String} {send : SendExportMessage X}
    {message sent : DataExchangeMessage} {reference : String} {module : X}
    (begins : kind = .msmq → outcomes.begin_ = none) (waited : outcomes.wait = none)
    (found : world.queues.firstItem (exportQueueNames moduleName) = some (name, .message message))
    (answers : send world.payloads message world.external.module = (.ok reference, sent, module))
    (raised : outcomes.exportException (.ok reference) sent = none)
    (commits : Commits kind outcomes.commit outcomes.dispose) :
    ExportIsFinal world name sent (exportMessage kind outcomes moduleName send world).1
      (exportMessage kind outcomes moduleName send world).2 := by
  have body := exportInTransaction_run outcomes moduleName begins waited found answers
  have transferred : outcomes.transferException sent = none := by
    cases failure : outcomes.transferException sent with
    | none => rfl
    | some exception => simp [ExportOutcomes.exportException, failure] at raised
  obtain ⟨later, run, finished⟩ := finishExport_run outcomes (.ok reference) sent
    (@answered_transaction _ world kind name message module)
  have done := finished.committed ⟨rfl, transferred, commits.1⟩
  rw [raised] at run
  rw [Program.bind_of_ok (Program.handle_of_ok run), Program.pure_run] at body
  have dropped : later.queues = world.queues.dropFirst name := finished.queues
  constructor
  · have result := Transaction.using_result outcomes.dispose body
    rw [Transaction.dispose_result, done] at result
    rw [exportMessage, result]
    cases kind with
    | msmq => simp [Transaction.committed]
    | msdtc => simp [Transaction.committed, commits.2 rfl, resultOf]
  · rw [exportMessage, Transaction.using_queues, body, Transaction.disposedQueues_committed done]
    cases kind with
    | msmq => exact dropped
    | msdtc => simpa [commits.2 rfl, Queues.appendAll] using dropped
  · rw [exportMessage, Transaction.using_calls, body]
    cases kind <;> simp [done, Transaction.committed]
  · have same := @Transaction.using_sameRecords _ world .dequeue kind _ outcomes.dispose
      (exportInTransaction outcomes moduleName send)
    rw [body] at same
    rw [exportMessage, same.messageLog, finished.messageLog]
    simp [transferred, Except.toOption, World.answered, World.received]

def Discards : SystemException → Bool
  | .invalidMessage _ | .claimHandler => true
  | _ => false

section Handlers

variable {state : World (ExporterState X)} {queues : Queues} {item : QueueItem} {calls : List TransactionCall}

theorem onInvalidMessageException_quiet (outcomes : ExportOutcomes) (messageId : Option Int) :
    Quiet (onInvalidMessageException outcomes messageId : Exchange (ExporterState X) Unit) := by
  refine Quiet.bind (Quiet.logMessage 8209) fun _ => Quiet.bind (Quiet.logMessage 8000) fun _ => ?_
  cases messageId with
  | none => exact Quiet.logMessage 1010
  | some messageId => exact Quiet.setStatus _ _ _

theorem stored_of_sameRecords {later : World (ExporterState X)} (same : state.SameRecords later) :
    later.stored = state.stored :=
  Prod.ext same.payloads (congrArg ExporterState.module same.external)

theorem onInvalidMessageException_stored (outcomes : ExportOutcomes) (messageId : Option Int) :
    Program.Keeps World.stored (onInvalidMessageException outcomes messageId : Exchange (ExporterState X) Unit) := by
  refine .bind (.change fun _ => rfl) fun _ => .bind (.change fun _ => rfl) fun _ => ?_
  cases messageId with
  | none => exact .change fun _ => rfl
  | some messageId => exact .bind (.call _) fun _ => .change fun _ => rfl

theorem enqueueLowPriority_stored (which : TransactionVariable) (outcomes : EnqueueExportOutcomes)
    (message : DataExchangeMessage) :
    Program.Keeps World.stored (enqueueLowPriority which outcomes message : Exchange (ExporterState X) Unit) := by
  refine .bind (.ofExcept _) fun copy => .bind ?_ fun _ => .bind (.call _) fun _ => ?_
  · refine .bind (.read _) fun transaction => ?_
    split
    · exact .bind (.call _) fun _ => .bind (.change fun _ => rfl) fun _ => .change fun _ => rfl
    · exact .raise _
  · split
    · exact .bind (.call _) fun _ => .change fun _ => rfl
    · exact .pure ()

theorem handleException_stored (outcomes : ExportOutcomes) (message : DataExchangeMessage)
    (exception : SystemException) :
    Program.Keeps World.stored
      (handleException outcomes message exception : Exchange (ExporterState X) Unit) := by
  have commit : Program.Keeps World.stored
      (Transaction.commit .dequeue outcomes.commitHandled : Exchange (ExporterState X) Unit) :=
    fun state => stored_of_sameRecords (Transaction.commit_sameRecords outcomes.commitHandled)
  have rollback : Program.Keeps World.stored (Transaction.rollback .dequeue : Exchange (ExporterState X) Unit) :=
    fun state => stored_of_sameRecords Transaction.rollback_sameRecords
  have unknown : Program.Keeps World.stored (onUnknownError outcomes message : Exchange (ExporterState X) Unit) := by
    intro state
    obtain ⟨later, run, same⟩ := onUnknownError_run outcomes message state
    rw [run]
    exact Prod.ext same.payloads same.module
  have moved : Program.Keeps World.stored (do
      onUnknownError outcomes message
      moveToLowPriority outcomes message : Exchange (ExporterState X) Unit) :=
    .bind unknown fun _ => .handle (.bind (enqueueLowPriority_stored _ _ _) fun _ => commit) fun _ =>
      .bind rollback fun _ => unknown
  cases exception with
  | invalidMessage messageId => exact .bind commit fun _ => onInvalidMessageException_stored outcomes _
  | claimHandler => exact .bind commit fun _ => onInvalidMessageException_stored outcomes _
  | _ => exact moved

def Moves (kind : TransactionKind) (outcomes : ExportOutcomes) (message : DataExchangeMessage) : Prop :=
  outcomes.enqueue.exception message = none ∧ Commits kind outcomes.commitHandled outcomes.dispose

instance (kind : TransactionKind) (outcomes : ExportOutcomes) (message : DataExchangeMessage) :
    Decidable (Moves kind outcomes message) := by
  unfold Moves
  infer_instance

theorem moveToLowPriority_run (outcomes : ExportOutcomes) (message : DataExchangeMessage)
    (open_ : state.transactions .dequeue = ⟨kind, .pending, [(name, item)], [], calls⟩) :
    ∃ later, moveToLowPriority outcomes message state = (.ok (), later) ∧
      if Moves kind outcomes message then
        ∃ copy, lowPriorityMessage outcomes.enqueue message = .ok copy ∧
          later.disposedQueues .dequeue outcomes.dispose =
            state.queues.append (lowPriorityQueue copy) (.message copy)
      else later.disposedQueues .dequeue outcomes.dispose = state.queues.giveBack name item := by
  obtain ⟨enqueued, tried, left⟩ := enqueueLowPriority_run outcomes.enqueue message open_
  obtain ⟨kept, held, copied⟩ := left.transaction
  -- whatever fails, the transaction is still open and is rolled back
  have givesBack {failed : World (ExporterState X)} {sent : List (QueueName × QueueItem)}
      {attempts : List TransactionCall}
      (still : failed.transactions .dequeue = ⟨kind, .pending, [(name, item)], sent, attempts⟩)
      (same : failed.queues = state.queues) :
      ∃ later, (do
          Transaction.rollback .dequeue
          onUnknownError outcomes message : Exchange (ExporterState X) Unit) failed = (.ok (), later) ∧
        later.disposedQueues .dequeue outcomes.dispose = state.queues.giveBack name item := by
    have returned := Transaction.rollback_result still
    have queues := Transaction.rollback_disposedQueues still outcomes.dispose
    cases rolledBack : Transaction.rollback .dequeue failed with
    | mk result last =>
        rw [rolledBack] at returned queues
        subst returned
        obtain ⟨later, reported, sameLast⟩ := onUnknownError_run outcomes message last
        refine ⟨later, (Program.bind_of_ok rolledBack).trans reported, ?_⟩
        have quiet := disposedQueues_quiet (Quiet.onUnknownError outcomes message) last outcomes.dispose
        rw [reported] at quiet
        rw [quiet, queues, same]
        rfl
  cases raised : outcomes.enqueue.exception message with
  | some exception =>
      rw [raised] at tried
      have stays : ¬ Moves kind outcomes message := by simp [Moves, raised]
      obtain ⟨later, run, queues⟩ := givesBack held left.queues
      refine ⟨later, (Program.handle_of_error (Program.bind_of_error tried)).trans run, ?_⟩
      rw [if_neg stays]
      exact queues
  | none =>
      rw [raised] at tried
      obtain ⟨copy, filled, sent⟩ := copied raised
      subst sent
      cases refused : outcomes.commitHandled with
      | some exception =>
          have stays : ¬ Moves kind outcomes message := by simp [Moves, Commits, refused]
          have failed := Transaction.commit_refused held exception
          rw [← refused] at failed
          obtain ⟨later, run, queues⟩ := givesBack (World.setTransaction_same enqueued .dequeue
            ⟨kind, .pending, [(name, item)], [] ++ [(lowPriorityQueue copy, .message copy)], calls ++ [.commit]⟩)
            left.queues
          refine ⟨later, (Program.handle_of_error ((Program.bind_of_ok tried).trans failed)).trans run, ?_⟩
          rw [if_neg stays]
          exact queues
      | none =>
          have returned := Transaction.commit_result held outcomes.commitHandled
          have queues := Transaction.commit_disposedQueues held outcomes.commitHandled outcomes.dispose
          cases committed : Transaction.commit .dequeue outcomes.commitHandled enqueued with
          | mk result later =>
              rw [committed] at returned queues
              rw [refused] at returned
              replace returned : result = .ok () := returned
              subst returned
              refine ⟨later, Program.handle_of_ok ((Program.bind_of_ok tried).trans committed), ?_⟩
              replace queues : later.disposedQueues .dequeue outcomes.dispose = _ := queues
              rw [queues, left.queues]
              by_cases commits : Commits kind outcomes.commitHandled outcomes.dispose
              · rw [if_pos commits, if_pos ⟨raised, commits⟩]
                exact ⟨copy, filled, rfl⟩
              · rw [if_neg commits, if_neg fun moves => commits moves.2]
                rfl

end Handlers

section Failed

variable {outcomes : ExportOutcomes} {moduleName : String} {send : SendExportMessage X}
  {message sent : DataExchangeMessage} {exception : SystemException} {module : X}

theorem exportInTransaction_failed
    (begins : kind = .msmq → outcomes.begin_ = none) (waited : outcomes.wait = none)
    (found : world.queues.firstItem (exportQueueNames moduleName) = some (name, .message message))
    (answers : send world.payloads message world.external.module = (.error exception, sent, module)) :
    exportInTransaction outcomes moduleName send (world.setTransaction .dequeue (.create kind)) =
      (do
        handleException outcomes sent exception
        pure true : Exchange (ExporterState X) Bool) (world.answered kind name message module) := by
  rw [exportInTransaction_run outcomes moduleName begins waited found answers]
  have failed : finishExport outcomes (.error exception) sent (world.answered kind name message module) =
      (.error exception, world.answered kind name message module) := by
    simp [finishExport, bind]
  have handled : Program.handle (finishExport outcomes (.error exception) sent) (handleException outcomes sent)
      (world.answered kind name message module) =
        handleException outcomes sent exception (world.answered kind name message module) :=
    Program.handle_of_error failed
  cases run : handleException outcomes sent exception (world.answered kind name message module) with
  | mk result later =>
      rw [run] at handled
      cases result with
      | ok _ => rw [Program.bind_of_ok handled, Program.bind_of_ok run]
      | error failure => rw [Program.bind_of_error handled, Program.bind_of_error run]

theorem exportMessage_failed_stored
    (begins : kind = .msmq → outcomes.begin_ = none) (waited : outcomes.wait = none)
    (found : world.queues.firstItem (exportQueueNames moduleName) = some (name, .message message))
    (answers : send world.payloads message world.external.module = (.error exception, sent, module)) :
    (exportMessage kind outcomes moduleName send world).2.stored = (world.payloads, module) := by
  have same := @Transaction.using_sameRecords _ world .dequeue kind _ outcomes.dispose
    (exportInTransaction outcomes moduleName send)
  rw [exportMessage, stored_of_sameRecords same, exportInTransaction_failed begins waited found answers,
    then_pure_state, handleException_stored outcomes sent exception]
  rfl

theorem exportMessage_module {answer : Except SystemException String}
    (begins : kind = .msmq → outcomes.begin_ = none) (waited : outcomes.wait = none)
    (found : world.queues.firstItem (exportQueueNames moduleName) = some (name, .message message))
    (answers : send world.payloads message world.external.module = (answer, sent, module)) :
    (exportMessage kind outcomes moduleName send world).2.external.module = module := by
  have same := @Transaction.using_sameRecords _ world .dequeue kind _ outcomes.dispose
    (exportInTransaction outcomes moduleName send)
  obtain ⟨later, run, finished⟩ := finishExport_run outcomes answer sent
    (@answered_transaction _ world kind name message module)
  rw [exportMessage, same.external, exportInTransaction_run outcomes moduleName begins waited found answers,
    then_pure_state]
  cases raised : outcomes.exportException answer sent with
  | none =>
      rw [raised] at run
      rw [Program.handle_of_ok run]
      exact finished.module
  | some exception =>
      rw [raised] at run
      rw [Program.handle_of_error run]
      exact (congrArg Prod.snd (handleException_stored outcomes sent exception later)).trans finished.module

theorem exportMessage_discards_queues (discards : Discards exception = true)
    (begins : kind = .msmq → outcomes.begin_ = none) (waited : outcomes.wait = none)
    (found : world.queues.firstItem (exportQueueNames moduleName) = some (name, .message message))
    (answers : send world.payloads message world.external.module = (.error exception, sent, module)) :
    (exportMessage kind outcomes moduleName send world).2.queues =
      if Commits kind outcomes.commitHandled outcomes.dispose then world.queues.dropFirst name else world.queues := by
  obtain ⟨_, head⟩ := Queues.firstItem_head found
  have holding : (world.answered kind name message module).Holding kind name (.message message)
      (world.queues.dropFirst name) False :=
    ⟨rfl, False.elim, fun _ => ⟨[], answered_transaction message module⟩⟩
  have committed (messageId : Option Int) := commit_then_leaves holding outcomes.commitHandled outcomes.dispose
    fun _ => @onInvalidMessageException_quiet X outcomes messageId
  have left : (world.queues.dropFirst name).leaves name (.message message) kind outcomes.dispose
      (False ∨ outcomes.commitHandled = none) =
        if Commits kind outcomes.commitHandled outcomes.dispose then world.queues.dropFirst name else world.queues := by
    simp [Queues.leaves, Commits, Queues.giveBack_dropFirst head]
  rw [exportMessage, Transaction.using_queues, exportInTransaction_failed begins waited found answers,
    then_pure_state, ← left]
  cases exception with
  | invalidMessage messageId => exact committed messageId
  | claimHandler => exact committed (some sent.messageLogId)
  | _ => contradiction

theorem handleException_other (outcomes : ExportOutcomes) (message : DataExchangeMessage)
    (other : Discards exception = false) :
    (handleException outcomes message exception : Exchange (ExporterState X) Unit) =
      (do
        onUnknownError outcomes message
        moveToLowPriority outcomes message) := by
  cases exception with
  | invalidMessage messageId => contradiction
  | claimHandler => contradiction
  | _ => rfl

theorem exportMessage_moves_queues (other : Discards exception = false)
    (begins : kind = .msmq → outcomes.begin_ = none) (waited : outcomes.wait = none)
    (found : world.queues.firstItem (exportQueueNames moduleName) = some (name, .message message))
    (answers : send world.payloads message world.external.module = (.error exception, sent, module)) :
    if Moves kind outcomes sent then
      ∃ copy, lowPriorityMessage outcomes.enqueue sent = .ok copy ∧
        (exportMessage kind outcomes moduleName send world).2.queues =
          (world.queues.dropFirst name).append (lowPriorityQueue copy) (.message copy)
    else (exportMessage kind outcomes moduleName send world).2.queues = world.queues := by
  obtain ⟨_, head⟩ := Queues.firstItem_head found
  obtain ⟨reported, ran, same⟩ := onUnknownError_run outcomes sent (world.answered kind name message module)
  have open_ : reported.transactions .dequeue = ⟨kind, .pending, [(name, .message message)], [], []⟩ := by
    rw [same.transactions, answered_transaction]
  have queues : reported.queues = world.queues.dropFirst name := same.queues
  obtain ⟨later, moved, left⟩ := moveToLowPriority_run outcomes sent open_
  rw [exportMessage, Transaction.using_queues, exportInTransaction_failed begins waited found answers,
    then_pure_state, handleException_other outcomes sent other, Program.bind_of_ok ran, moved]
  rw [queues, Queues.giveBack_dropFirst head] at left
  exact left

end Failed

end ServiceHost.DataExchange.ManagerService
