import ServiceHost.DataExchange.NpAuctionLogicCore

/-!
`WsLogicBase.SubmitImport` with its callback, which runs in the block whose handlers are for
a message that cannot be enqueued. The state keeps the arguments that the callback got.
-/

namespace ServiceHost.DataExchange.WsLogicBase

open Library

abbrev OnCompletion := Option (Option SystemException)

def invoke (onCompletion : OnCompletion) (messageIsHandled : Bool) : Exchange (List Bool) Unit :=
  match onCompletion with
  | none => pure ()
  | some failure => do
      Program.change fun world => { world with external := world.external ++ [messageIsHandled] }
      Program.call failure

structure SubmitImportOutcomes where
  kind : TransactionKind
  transaction : Compello.TransactionOutcomes
  enqueueImport : EnqueueImportOutcomes
  enqueueErroneous : Option SystemException

section SubmitImport

variable (toUpperInvariant : Char → Char) (outcomes : SubmitImportOutcomes) (message : DataExchangeMessage)
  (onCompletion : OnCompletion)

/-- The `try` block. -/
def tryEnqueue : Exchange (List Bool) Unit := do
  DataExchangeApi.enqueueImportMessage toUpperInvariant outcomes.enqueueImport message
  invoke onCompletion true

def enqueueErroneous (exception : SystemException) : Exchange (List Bool) Unit :=
  match exception with
  | .invalidMessage _ | .invalidMetadata _ => do
      DataExchangeApi.enqueueErroneousImportMessage outcomes.enqueueErroneous
        (NpAuction.filledMessage outcomes.enqueueImport.defaultRoutingAddress message)
      logMessage 8100
      logMessage 8209
  | _ => Program.raise exception

/-- `SubmitImport`. Where no exception leaves the block, the message is handled. -/
def submitImport : Exchange (List Bool) Unit :=
  Compello.addMessage outcomes.kind outcomes.transaction <|
    Program.handle (tryEnqueue toUpperInvariant outcomes message onCompletion) (enqueueErroneous outcomes message)

end SubmitImport

end ServiceHost.DataExchange.WsLogicBase
