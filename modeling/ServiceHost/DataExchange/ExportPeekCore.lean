import ServiceHost.DataExchange.QueueCore

/-!
`PeekExportMessageByExternalReference`: the first messages of a module's export queues,
looked at one priority after the other.
-/

namespace ServiceHost.DataExchange.ExportPeek

abbrev PriorityQueues := DataExchangeQueuePriority → List (String × QueueItem)

abbrev Peeked := Option DataExchangeMessage × Option String

def peekForPriority (queues : PriorityQueues) (priority : DataExchangeQueuePriority) :
    Except SystemException Peeked :=
  match queues priority with
  | [] => .ok (none, none)
  | (internalMessageId, .message message) :: _ => .ok (some message, some internalMessageId)
  | (_, .corrupt) :: _ => .error (.invalidMessage none)

def peekEach (queues : PriorityQueues) (externalReference : Option String) :
    List DataExchangeQueuePriority → Peeked → Except SystemException Peeked
  | [], peeked => .ok peeked
  | priority :: priorities, _ => do
      let peeked ← peekForPriority queues priority
      if peeked.1.any fun message => externalReference = message.externalReference then .ok peeked
      else peekEach queues externalReference priorities peeked

def peekExportMessageByExternalReference (queues : PriorityQueues) (priorities : List DataExchangeQueuePriority)
    (externalReference moduleName : Option String) : Except SystemException Peeked :=
  match moduleName with
  | none => .error .argumentNull
  | some _ => peekEach queues externalReference priorities (none, none)

end ServiceHost.DataExchange.ExportPeek
