import ServiceHost.DataExchange.NpAuctionLogicCore

/-!
`StandardMsmqImportModule`: one message of the external POWEL queue is moved to the queue
of the import, in one transaction.
-/

namespace ServiceHost.DataExchange.StandardMsmq

open Library

/-- The queues of `GetCustomImportQueue`, one for each priority. -/
def customImportQueueNames (queueIdentifier : String) : List QueueName :=
  orderedPriorities.map (QueueName.customImport queueIdentifier)

/-- The kind that the machine of the queue asks for, and which steps fail. The commit that
a handler makes may be another one than that of the body. -/
structure TaskOutcomes where
  kind : TransactionKind
  begin_ : Option SystemException
  wait : Option SystemException
  enqueueImport : EnqueueImportOutcomes
  enqueueErroneous : Option SystemException
  commit : Option SystemException
  commitHandled : Option SystemException
  dispose : Option SystemException

variable {X : Type}

/-- The work on a message that has been received. `EnqueueImportMessage` has filled in the
message that the handlers see. -/
def importMessage (toUpperInvariant : Char → Char) (outcomes : TaskOutcomes) (message : DataExchangeMessage) :
    Exchange X Unit :=
  Program.handle
    (do
      DataExchangeApi.enqueueImportMessage toUpperInvariant outcomes.enqueueImport message
      Transaction.commit .enqueue outcomes.commit)
    fun exception =>
      match exception with
      | .invalidMessage _ => do
          DataExchangeApi.enqueueErroneousImportMessage outcomes.enqueueErroneous
            (NpAuction.filledMessage outcomes.enqueueImport.defaultRoutingAddress message)
          Transaction.commit .enqueue outcomes.commitHandled
          logMessage 8209
      | _ => Transaction.commit .enqueue outcomes.commitHandled

def tryExecuteSingleTask (toUpperInvariant : Char → Char) (outcomes : TaskOutcomes) : Exchange X Bool :=
  Transaction.using_ .enqueue outcomes.kind outcomes.dispose do
    Transaction.begin_ .enqueue outcomes.begin_
    match ← dequeue .enqueue (customImportQueueNames "POWEL") outcomes.wait with
    | none => do
        Transaction.rollback .enqueue
        pure false
    | some message => do
        importMessage toUpperInvariant outcomes message
        pure false

end ServiceHost.DataExchange.StandardMsmq
