import ServiceHost.DataExchange.ExportTransaction

/-!
Where the exporter of `DataExchangeCommon` leaves a message. The copy for the low
priority queue is committed in a transaction of its own, before the transaction that
took the message; when that one then does not commit, the message is in two queues.
-/

namespace ServiceHost.DataExchange

open Library

variable {X : Type} {kind : TransactionKind} {name : QueueName} {item : QueueItem}

namespace Common

def Discards : SystemException → Bool
  | .invalidMessage _ | .invalidMetadata _ | .claimHandler => true
  | _ => false

def EnqueuesCopy (outcomes : ExportOutcomes) (message : DataExchangeMessage) : Prop :=
  outcomes.beginEnqueue = none ∧ outcomes.enqueue.exception message = none ∧ outcomes.commitEnqueue = none

instance (outcomes : ExportOutcomes) (message : DataExchangeMessage) : Decidable (EnqueuesCopy outcomes message) := by
  unfold EnqueuesCopy
  infer_instance

theorem copyBody_run (outcomes : ExportOutcomes) (message : DataExchangeMessage) (state : World (ExporterState X)) :
    ∃ result later,
      (do
        Transaction.begin_ .enqueue outcomes.beginEnqueue
        enqueueLowPriority .enqueue outcomes.enqueue message
        Transaction.commit .enqueue outcomes.commitEnqueue : Exchange (ExporterState X) Unit)
        (state.setTransaction .enqueue (.create .msmq)) = (result, later) ∧
      later.transactions .dequeue = state.transactions .dequeue ∧
      (later.transactions .enqueue).status ≠ .complete ∧
      if EnqueuesCopy outcomes message then
        result = .ok () ∧ ∃ copy, lowPriorityMessage outcomes.enqueue message = .ok copy ∧
          later.disposedQueues .enqueue outcomes.disposeEnqueue =
            state.queues.append (lowPriorityQueue copy) (.message copy)
      else result ≠ .ok () ∧ later.disposedQueues .enqueue outcomes.disposeEnqueue = state.queues := by
  cases begun : outcomes.beginEnqueue with
  | some exception =>
      refine ⟨.error exception, state.setTransaction .enqueue (.create .msmq), ?_, ?_, ?_, ?_⟩
      · simp [bind, Transaction.begin_, Transaction.create, Program.read]
      · exact World.setTransaction_other _ _ _ (by decide)
      · simp [Transaction.create]
      · simp [EnqueuesCopy, begun, World.disposedQueues, Transaction.create]
  | none =>
      have run := @Transaction.begin_create _ state .enqueue .msmq none fun _ => rfl
      have fresh := World.setTransaction_same state .enqueue ⟨.msmq, .pending, [], [], []⟩
      obtain ⟨enqueued, tried, left⟩ := enqueueLowPriority_run outcomes.enqueue message fresh
      obtain ⟨kept, held, copied⟩ := left.transaction
      have others : enqueued.transactions .dequeue = state.transactions .dequeue := by
        rw [left.others .dequeue (by decide)]
        exact World.setTransaction_other _ _ _ (by decide)
      have sameQueues : enqueued.queues = state.queues := left.queues
      rw [Program.bind_of_ok run]
      cases raised : outcomes.enqueue.exception message with
      | some exception =>
          rw [raised] at tried
          refine ⟨_, enqueued, Program.bind_of_error tried, others, ?_, ?_⟩
          · simp [held]
          · simp [EnqueuesCopy, raised, World.disposedQueues, held, sameQueues, Queues.giveBackAll]
      | none =>
          rw [raised] at tried
          rw [Program.bind_of_ok tried]
          obtain ⟨copy, filled, kept_⟩ := copied raised
          cases refused : outcomes.commitEnqueue with
          | some exception =>
              rw [Transaction.commit_refused held exception]
              refine ⟨_, _, rfl, ?_, ?_, ?_⟩
              · rw [World.setTransaction_other _ _ _ (by decide), others]
              · simp
              · simp [EnqueuesCopy, refused, World.disposedQueues, sameQueues, Queues.giveBackAll]
          | none =>
              obtain ⟨done, commits, queues, transactions, _⟩ := Transaction.commit_returns held
              refine ⟨_, done, commits, ?_, ?_, ?_⟩
              · rw [transactions, Function.update_of_ne (by decide), others]
              · simp [transactions, Transaction.committed]
              · have copies : EnqueuesCopy outcomes message := ⟨begun, raised, refused⟩
                rw [if_pos copies]
                refine ⟨rfl, copy, filled, ?_⟩
                simp [World.disposedQueues, transactions, Transaction.committed, queues, Transaction.committedQueues,
                  kept_, Queues.appendAll, sameQueues]

theorem enqueueInOwnTransaction_run (outcomes : ExportOutcomes) (message : DataExchangeMessage)
    (state : World (ExporterState X)) :
    ∃ result later, enqueueInOwnTransaction outcomes message state = (result, later) ∧
      later.transactions .dequeue = state.transactions .dequeue ∧
      if EnqueuesCopy outcomes message then
        result = .ok () ∧ ∃ copy, lowPriorityMessage outcomes.enqueue message = .ok copy ∧
          later.queues = state.queues.append (lowPriorityQueue copy) (.message copy)
      else result ≠ .ok () ∧ later.queues = state.queues := by
  obtain ⟨result, later, run, others, unfinished, left⟩ := copyBody_run outcomes message state
  have sameResult := Transaction.using_result outcomes.disposeEnqueue run
  have sameState := Transaction.using_state outcomes.disposeEnqueue run
  rw [Transaction.dispose_result, if_neg unfinished] at sameResult
  refine ⟨result, (Transaction.dispose .enqueue outcomes.disposeEnqueue later).2, ?_, ?_, ?_⟩
  · exact Prod.ext sameResult sameState
  · rw [Transaction.dispose_others _ (by decide), others]
  · rw [Transaction.dispose_queues]
    exact left

section Handlers

variable {state : World (ExporterState X)} {queues : Queues} {done : Prop} [Decidable done]

theorem onInvalidMessageException_quiet (outcomes : ExportOutcomes) (messageId : Option Int) :
    Quiet (onInvalidMessageException outcomes messageId : Exchange (ExporterState X) Unit) := by
  refine Quiet.bind (Quiet.logMessage 8209) fun _ => ?_
  cases messageId with
  | none => exact Quiet.logMessage 1012
  | some messageId =>
      by_cases zero : messageId = 0
      · simpa [updateMessageLogStatusForDiscardedMessage, zero] using Quiet.pure ()
      · simpa [updateMessageLogStatusForDiscardedMessage, zero] using Quiet.setStatus _ _ _

theorem handleException_leaves (outcomes : ExportOutcomes) (message : DataExchangeMessage)
    {exception : SystemException} (other : exception ≠ .missingField)
    (holding : state.Holding kind name item queues done) :
    (handleException outcomes message exception state).2.disposedQueues .dequeue outcomes.dispose =
      queues.leaves name item kind outcomes.dispose
        (done ∨ (Discards exception = true ∧ outcomes.commitHandled = none)) := by
  have committed (messageId : Option Int) := commit_then_leaves holding outcomes.commitHandled outcomes.dispose
    fun _ => @onInvalidMessageException_quiet X outcomes messageId
  have rolledBack := rollback_then_leaves holding outcomes.dispose
    fun _ => @Quiet.onUnknownError X outcomes message
  cases exception with
  | invalidMessage messageId => exact (committed messageId).trans (Queues.leaves_congr (by simp [Discards]))
  | invalidMetadata messageId =>
      exact (committed (some messageId)).trans (Queues.leaves_congr (by simp [Discards]))
  | claimHandler =>
      exact (committed (some message.messageLogId)).trans (Queues.leaves_congr (by simp [Discards]))
  | missingField => exact absurd rfl other
  | _ => exact rolledBack.trans (Queues.leaves_congr (by simp [Discards]))

theorem handleException_missingField (outcomes : ExportOutcomes) (message : DataExchangeMessage)
    (holding : state.Holding kind name item queues done) :
    if EnqueuesCopy outcomes message then
      ∃ copy, lowPriorityMessage outcomes.enqueue message = .ok copy ∧
        (handleException outcomes message .missingField state).2.disposedQueues .dequeue outcomes.dispose =
          (queues.append (lowPriorityQueue copy) (.message copy)).leaves name item kind outcomes.dispose
            (done ∨ outcomes.commitHandled = none)
    else
      (handleException outcomes message .missingField state).2.disposedQueues .dequeue outcomes.dispose =
        queues.leaves name item kind outcomes.dispose done := by
  obtain ⟨reported, run, same⟩ := onUnknownError_run outcomes message state
  obtain ⟨result, copied, tried, others, left⟩ := enqueueInOwnTransaction_run outcomes message reported
  have silent (value : Unit) := @Quiet.onUnknownError X outcomes message
  have start : handleException outcomes message .missingField state =
      Program.handle
        (do
          enqueueInOwnTransaction outcomes message
          Transaction.commit .dequeue outcomes.commitHandled)
        (fun _ => do
          Transaction.rollback .dequeue
          onUnknownError outcomes message) reported := Program.bind_of_ok run
  have held : copied.Holding kind name item copied.queues done :=
    ⟨rfl, fun finished => by rw [others, same.transactions]; exact holding.committed finished,
      fun open_ => by rw [others, same.transactions]; exact holding.pending open_⟩
  split
  · rename_i copies
    rw [if_pos copies] at left
    obtain ⟨rfl, copy, filled, queued⟩ := left
    refine ⟨copy, filled, ?_⟩
    have queues_ : copied.queues = queues.append (lowPriorityQueue copy) (.message copy) := by
      rw [queued, same.queues, holding.queues]
    obtain ⟨committed, later, commits, still, ok⟩ := held.commit outcomes.commitHandled
    rw [start, ← queues_]
    cases committed with
    | ok value => rw [Program.handle_of_ok ((Program.bind_of_ok tried).trans commits), still.disposed]
    | error exception =>
        rw [Program.handle_of_error ((Program.bind_of_ok tried).trans commits),
          rollback_then_leaves still outcomes.dispose silent]
  · rename_i fails
    rw [if_neg fails] at left
    cases result with
    | ok value => exact absurd rfl left.1
    | error exception =>
        have queues_ : copied.queues = queues := by rw [left.2, same.queues, holding.queues]
        rw [start, Program.handle_of_error (Program.bind_of_error tried),
          rollback_then_leaves held outcomes.dispose silent, queues_]

end Handlers

section Export

variable {world : World (ExporterState X)}

def InOnePlace (world : World (ExporterState X)) (name : QueueName) (outcomes : ExportOutcomes)
    (answer : Except SystemException String) (sent : DataExchangeMessage) (queues : Queues) : Prop :=
  (queues = world.queues.dropFirst name ∧
    (answer.toOption.isSome ∨ ∃ exception, outcomes.exportException answer sent = some exception ∧ Discards exception)) ∨
  queues = world.queues ∨
  ∃ copy, copy.IsCopyOf sent ∧
    queues = (world.queues.dropFirst name).append (lowPriorityQueue copy) (.message copy)

def CommitsAfterCopy (kind : TransactionKind) (outcomes : ExportOutcomes) (answer : Except SystemException String)
    (sent : DataExchangeMessage) : Prop :=
  outcomes.exportException answer sent = some .missingField → EnqueuesCopy outcomes sent →
    (outcomes.CommitsSent answer sent ∨ outcomes.commitHandled = none) ∧ (kind = .msdtc → outcomes.dispose = none)

theorem exportInTransaction_run (outcomes : ExportOutcomes) (moduleName : String) {send : SendExportMessage X}
    {message sent : DataExchangeMessage} {answer : Except SystemException String} {module : X}
    (begins : kind = .msmq → outcomes.begin_ = none) (waited : outcomes.wait = none)
    (found : world.queues.firstItem (exportQueueNames moduleName) = some (name, .message message))
    (answers : send world.payloads message world.external.module = (answer, sent, module)) :
    exportInTransaction outcomes moduleName send (world.setTransaction .dequeue (.create kind)) =
      Program.handle
        (do
          finishExport outcomes answer sent
          pure true)
        (fun exception => do
          handleException outcomes sent exception
          pure false) (world.answered kind name message module) :=
  take_then outcomes moduleName
    (fun answer message => Program.handle
      (do
        finishExport outcomes answer message
        pure true)
      (fun exception => do
        handleException outcomes message exception
        pure false))
    begins waited found answers

/-- The message is in one place unless its copy is committed and the message is given back. -/
theorem exportMessage_inOnePlace_iff (outcomes : ExportOutcomes) (moduleName : String) (send : SendExportMessage X)
    {message sent : DataExchangeMessage} {answer : Except SystemException String} {module : X}
    (begins : kind = .msmq → outcomes.begin_ = none) (waited : outcomes.wait = none)
    (found : world.queues.firstItem (exportQueueNames moduleName) = some (name, .message message))
    (answers : send world.payloads message world.external.module = (answer, sent, module)) :
    InOnePlace world name outcomes answer sent (exportMessage kind outcomes moduleName send world).2.queues ↔
      CommitsAfterCopy kind outcomes answer sent := by
  have body := exportInTransaction_run outcomes moduleName begins waited found answers
  obtain ⟨_, head⟩ := Queues.firstItem_head found
  have back := Queues.giveBack_dropFirst head
  obtain ⟨later, run, finished⟩ := finishExport_run outcomes answer sent
    (@answered_transaction _ world kind name message module)
  have holding : later.Holding kind name (.message message) (world.queues.dropFirst name)
      (outcomes.CommitsSent answer sent) :=
    ⟨finished.queues, fun done => ⟨_, finished.committed done⟩, fun open_ => by
      obtain ⟨attempts, transaction⟩ := finished.pending open_
      exact ⟨_, transaction⟩⟩
  have answered (done : outcomes.CommitsSent answer sent) : answer.toOption.isSome = true := done.1
  rw [exportMessage, Transaction.using_queues, body]
  cases raised : outcomes.exportException answer sent with
  | none =>
      rw [raised] at run
      have returned : (do
          finishExport outcomes answer sent
          pure true : Exchange (ExporterState X) Bool) (world.answered kind name message module) =
            (.ok true, later) := Program.bind_of_ok run
      rw [Program.handle_of_ok returned, holding.disposed]
      have kept : CommitsAfterCopy kind outcomes answer sent := by
        intro missing
        rw [raised] at missing
        contradiction
      refine iff_of_true ?_ kept
      rcases leaves_cases back outcomes.dispose (outcomes.CommitsSent answer sent) with ⟨gone, done⟩ | kept
      · rw [gone]
        exact Or.inl ⟨rfl, Or.inl (answered done)⟩
      · rw [kept]
        exact Or.inr (Or.inl rfl)
  | some exception =>
      rw [raised] at run
      have failed : (do
          finishExport outcomes answer sent
          pure true : Exchange (ExporterState X) Bool) (world.answered kind name message module) =
            (.error exception, later) := Program.bind_of_error run
      rw [Program.handle_of_error failed, then_pure_state]
      by_cases missing : exception = .missingField
      · subst missing
        have left := handleException_missingField outcomes sent holding
        by_cases copies : EnqueuesCopy outcomes sent
        · rw [if_pos copies] at left
          obtain ⟨copy, filled, left⟩ := left
          have isCopy := lowPriorityMessage_isCopyOf filled
          rw [left]
          by_cases commits : (outcomes.CommitsSent answer sent ∨ outcomes.commitHandled = none) ∧
              (kind = .msdtc → outcomes.dispose = none)
          · refine iff_of_true ?_ fun _ _ => commits
            rw [Queues.leaves, if_pos commits]
            exact Or.inr (Or.inr ⟨copy, isCopy, rfl⟩)
          · refine iff_of_false ?_ fun kept => commits (kept raised copies)
            rw [Queues.leaves, if_neg commits, giveBack_append back]
            have different (other : QueueName) (copied : QueueItem) :=
              append_ne_of_head head (lowPriorityQueue copy) other (.message copy) copied
            rintro (⟨gone, _⟩ | same | ⟨other, _, moved⟩)
            · exact (different name .corrupt).1 gone
            · exact (different name .corrupt).2.1 same
            · exact (different (lowPriorityQueue other) (.message other)).2.2 moved
        · rw [if_neg copies] at left
          rw [left]
          refine iff_of_true ?_ fun _ copied => absurd copied copies
          rcases leaves_cases back outcomes.dispose (outcomes.CommitsSent answer sent) with ⟨gone, done⟩ | kept
          · rw [gone]
            exact Or.inl ⟨rfl, Or.inl (answered done)⟩
          · rw [kept]
            exact Or.inr (Or.inl rfl)
      · rw [handleException_leaves outcomes sent missing holding]
        have kept : CommitsAfterCopy kind outcomes answer sent := by
          intro same
          rw [raised] at same
          exact absurd (Option.some.inj same) missing
        refine iff_of_true ?_ kept
        rcases leaves_cases back outcomes.dispose (outcomes.CommitsSent answer sent ∨
          (Discards exception = true ∧ outcomes.commitHandled = none)) with ⟨gone, done⟩ | kept
        · rw [gone]
          refine Or.inl ⟨rfl, ?_⟩
          rcases done with committed | discarded
          · exact Or.inl (answered committed)
          · exact Or.inr ⟨exception, raised, discarded.1⟩
        · rw [kept]
          exact Or.inr (Or.inl rfl)

theorem exportMessage_inOnePlace_values :
    InOnePlace (exportWorld "STANDARDWS" ()) (.internalExport "STANDARDWS" .normal) nothingFails (.ok "1") valuesMessage
        (exportMessage .msmq nothingFails "STANDARDWS" (fun _ message _ => (.ok "1", message, ()))
          (exportWorld "STANDARDWS" ())).2.queues ↔
      CommitsAfterCopy .msmq nothingFails (.ok "1") valuesMessage :=
  exportMessage_inOnePlace_iff nothingFails "STANDARDWS" (fun _ message _ => (.ok "1", message, ()))
    (fun _ => rfl) rfl (exportWorld_first "STANDARDWS" ()) rfl

/-- A message whose copy is committed stays in its queue when the commit that follows fails. -/
theorem exportMessage_in_two_places :
    ¬ InOnePlace (exportWorld "STANDARDWS" ()) (.internalExport "STANDARDWS" .normal)
      { nothingFails with commitHandled := some (.other "MessageQueueException") } (.error .missingField) valuesMessage
      (exportMessage .msmq { nothingFails with commitHandled := some (.other "MessageQueueException") } "STANDARDWS"
        (fun _ message _ => (.error .missingField, message, ())) (exportWorld "STANDARDWS" ())).2.queues := by
  generalize final : (exportMessage .msmq _ "STANDARDWS" _ (exportWorld "STANDARDWS" ())).2.queues = queues
  have low : (queues (.internalExport "STANDARDWS" .low)).length = 1 := by
    rw [← final]
    decide
  have normal : (queues (.internalExport "STANDARDWS" .normal)).length = 1 := by
    rw [← final]
    decide
  rintro (⟨gone, _⟩ | same | ⟨copy, _, moved⟩)
  · rw [gone] at normal
    exact absurd normal (by decide)
  · rw [same] at low
    exact absurd low (by decide)
  · rw [moved, Queues.append_length, if_neg (by simp [lowPriorityQueue])] at normal
    exact absurd normal (by decide)

end Export

end Common

end ServiceHost.DataExchange
