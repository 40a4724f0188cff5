import ServiceHost.DataExchange.StandardWsCore

/-!
One `GetExport` that nobody disturbs. Only the messages decide what fails, and the order
of the queues says what it has to answer.
-/

namespace ServiceHost.DataExchange.StandardWs

def contentFailure (storeFailure : ClaimTicket → Option SystemException) : GetPhase → Option SystemException
  | .getMessageData _ message | .getExportObject message => message.claimTicket.bind storeFailure
  | _ => none

def exportStep (kind : TransactionKind) (call : Nat) (storeFailure : ClaimTicket → Option SystemException)
    (state : GetPhase × PullWorld) : GetPhase × PullWorld :=
  getStep kind call (contentFailure storeFailure state.1) state.2 state.1

namespace PullWorld

variable (world : PullWorld)

def liesIn (priority : DataExchangeQueuePriority) (internalId : Nat) : Bool :=
  world.entries[internalId]?.any fun entry => entry.priority = priority ∧ entry.place = .queued

def queueOrder (priority : DataExchangeQueuePriority) : List Nat :=
  (List.range world.entries.length).filter (world.liesIn priority)

def exportOrder : List Nat := orderedPriorities.flatMap world.queueOrder

def usable (storeFailure : ClaimTicket → Option SystemException) (internalId : Nat) : Option DataExchangeMessage := do
  match (← world.entries[internalId]?).item with
  | .corrupt => none
  | .message message =>
      match message.getMessageData world.payloads (message.claimTicket.bind storeFailure) with
      | .ok _ => some message
      | .error _ => none

/-- The payload of a message cannot be read, and its claim handler does not say so. -/
def Stuck (storeFailure : ClaimTicket → Option SystemException) (internalId : Nat) : Prop :=
  ∃ entry ∈ world.entries[internalId]?, ∃ message exception, entry.item = .message message ∧
    message.getMessageData world.payloads (message.claimTicket.bind storeFailure) = .error exception ∧
    exception ≠ .claimHandler

def firstUsable (storeFailure : ClaimTicket → Option SystemException) : Option DataExchangeMessage :=
  world.exportOrder.findSome? (world.usable storeFailure)

def unusableBefore (storeFailure : ClaimTicket → Option SystemException) : List Nat :=
  world.exportOrder.takeWhile fun internalId => (world.usable storeFailure internalId).isNone

def remove (call : Nat) (internalIds : List Nat) : PullWorld :=
  { world with
    entries := world.entries.mapIdx fun internalId entry =>
      if internalId ∈ internalIds then { entry with place := .removed call } else entry }

end PullWorld

end ServiceHost.DataExchange.StandardWs
