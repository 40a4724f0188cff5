import ServiceHost.DataExchange.ManagerServiceExport

/-!
A successful export in the exporter of `DataExchangeManagerService`. The deletion of
the payload follows the commit inside the same `try` block, so an exception of it is
handled by code that was written for a transaction that is still open.
-/

namespace ServiceHost.DataExchange.ManagerService

open Library

variable {X : Type} {world : World (ExporterState X)} {kind : TransactionKind} {name : QueueName}

theorem handleException_ended (outcomes : ExportOutcomes) (message : DataExchangeMessage)
    (exception : SystemException) {state : World (ExporterState X)} {received : List (QueueName × QueueItem)}
    {calls : List TransactionCall}
    (ended : state.transactions .dequeue = Transaction.committed kind received [] calls) :
    ∃ result call later, handleException outcomes message exception state = (result, later) ∧
      later.transactions .dequeue = Transaction.committed kind received [] (calls ++ [call]) := by
  have refused := Transaction.commit_again ended outcomes.commitHandled
  have unknown : ∃ result call later,
      (do onUnknownError outcomes message
          moveToLowPriority outcomes message : Exchange (ExporterState X) Unit) state = (result, later) ∧
        later.transactions .dequeue = Transaction.committed kind received [] (calls ++ [call]) := by
    obtain ⟨logged, reported, same⟩ := onUnknownError_run outcomes message state
    have still : logged.transactions .dequeue = Transaction.committed kind received [] calls := by
      rw [same.transactions, ended]
    have notOpen : (logged.transactions .dequeue).status ≠ .pending := by
      rw [still]
      cases kind <;> simp [Transaction.committed]
    obtain ⟨failure, refused⟩ := enqueueLowPriority_ended outcomes.enqueue message notOpen
    have moved : moveToLowPriority outcomes message logged =
        (do Transaction.rollback .dequeue
            onUnknownError outcomes message : Exchange (ExporterState X) Unit) logged :=
      Program.handle_of_error (Program.bind_of_error refused)
    have rolledBack := Transaction.rollback_again still
    rw [Program.bind_of_ok reported, moved]
    cases kind with
    | msmq =>
        rw [Program.bind_of_error rolledBack]
        exact ⟨_, .rollback, _, rfl, World.setTransaction_same ..⟩
    | msdtc =>
        rw [Program.bind_of_ok rolledBack]
        obtain ⟨last, reported, same⟩ := onUnknownError_run outcomes message
          (logged.setTransaction .dequeue (Transaction.committed .msdtc received [] (calls ++ [.rollback])))
        exact ⟨_, .rollback, last, reported, by rw [same.transactions]; exact World.setTransaction_same ..⟩
  cases exception with
  | invalidMessage messageId =>
      exact ⟨_, .commit, _, Program.bind_of_error refused, World.setTransaction_same ..⟩
  | claimHandler => exact ⟨_, .commit, _, Program.bind_of_error refused, World.setTransaction_same ..⟩
  | _ => exact unknown

/-- Once the delegate has returned and the commit has taken effect, the export is final
exactly if the deletion of the payload does not throw. -/
theorem exportMessage_isFinal_iff (outcomes : ExportOutcomes) (moduleName : String) (send : SendExportMessage X)
    {message sent : DataExchangeMessage} {reference : String} {module : X}
    (begins : kind = .msmq → outcomes.begin_ = none) (waited : outcomes.wait = none)
    (found : world.queues.firstItem (exportQueueNames moduleName) = some (name, .message message))
    (answers : send world.payloads message world.external.module = (.ok reference, sent, module))
    (transferred : outcomes.transferException sent = none)
    (commits : Commits kind outcomes.commit outcomes.dispose) :
    ExportIsFinal world name sent (exportMessage kind outcomes moduleName send world).1
        (exportMessage kind outcomes moduleName send world).2 ↔
      sent.deleteException outcomes.deleteMessageData = none := by
  have body := exportInTransaction_run outcomes moduleName begins waited found answers
  obtain ⟨later, run, finished⟩ := finishExport_run outcomes (.ok reference) sent
    (@answered_transaction _ world kind name message module)
  have done := finished.committed ⟨rfl, transferred, commits.1⟩
  have raised : outcomes.exportException (.ok reference) sent = sent.deleteException outcomes.deleteMessageData := by
    simp [ExportOutcomes.exportException, transferred, commits.1]
  rw [raised] at run
  cases deleted : sent.deleteException outcomes.deleteMessageData with
  | none => exact iff_of_true (exportMessage_isFinal begins waited found answers (raised.trans deleted) commits) rfl
  | some exception =>
      rw [deleted] at run
      obtain ⟨result, call, last, handled, twice⟩ := handleException_ended outcomes sent exception done
      simp only [reduceCtorEq, iff_false]
      intro final
      have calls := final.calls
      rw [exportMessage, Transaction.using_calls, body] at calls
      have ran := (Program.handle_of_error run).trans handled
      cases result with
      | ok _ =>
          rw [Program.bind_of_ok ran] at calls
          cases kind <;> simp [twice, Transaction.committed] at calls
      | error failure =>
          rw [Program.bind_of_error ran] at calls
          cases kind <;> simp [twice, Transaction.committed] at calls

theorem exportMessage_isFinal_values :
    ExportIsFinal (exportWorld "STANDARDWS" ()) (.internalExport "STANDARDWS" .normal) valuesMessage
        (exportMessage .msmq nothingFails "STANDARDWS" (fun _ message _ => (.ok "1", message, ()))
          (exportWorld "STANDARDWS" ())).1
        (exportMessage .msmq nothingFails "STANDARDWS" (fun _ message _ => (.ok "1", message, ()))
          (exportWorld "STANDARDWS" ())).2 ↔
      valuesMessage.deleteException none = none :=
  exportMessage_isFinal_iff nothingFails "STANDARDWS" (fun _ message _ => (.ok "1", message, ()))
    (fun _ => rfl) rfl (exportWorld_first "STANDARDWS" ()) rfl rfl (by decide)

/-- A deletion that throws sends the exporter to the handlers, which roll back again. -/
theorem exportMessage_deletion_fails :
    ¬ ExportIsFinal (exportWorld "STANDARDWS" ()) (.internalExport "STANDARDWS" .normal) valuesMessage
      (exportMessage .msmq { nothingFails with deleteMessageData := some (.other "IOException") } "STANDARDWS"
        (fun _ message _ => (.ok "1", message, ())) (exportWorld "STANDARDWS" ())).1
      (exportMessage .msmq { nothingFails with deleteMessageData := some (.other "IOException") } "STANDARDWS"
        (fun _ message _ => (.ok "1", message, ())) (exportWorld "STANDARDWS" ())).2 := by
  intro final
  exact absurd final.calls (by decide)

end ServiceHost.DataExchange.ManagerService
