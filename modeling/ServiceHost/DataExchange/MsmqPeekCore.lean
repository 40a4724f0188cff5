import Mathlib.Data.List.Nodup
import ServiceHost.Library.Program

/-!
`MsmqDataExchangeQueue`: `Dequeue` and `Peek` of up to a number of messages. Message Queuing itself is
given by what lies in the queues and by how its calls end; logging is left out.
-/

namespace ServiceHost.DataExchange.MsmqPeek

open Library

inductive MessageQueueErrorCode
  | ioTimeout
  | messageNotFound
  | other (number : Int)
deriving DecidableEq, Repr

/-- The calls that the texts about failed operations speak of; no text speaks of the listing. -/
inductive FailedCall
  | dequeue
  | peekById
  | listing
deriving DecidableEq, Repr

/-- `MessageQueueException` and `InvalidOperationException` come from Message Queuing; the first is wrapped
by `DataExchangeQueueOperationFailedException`. -/
inductive QueueException
  | messageQueue (code : MessageQueueErrorCode)
  | invalidOperation
  | invalidMessageBody (messageId : String)
  | operationFailed (call : FailedCall) (path : String) (code : MessageQueueErrorCode)
  | invalidMessage (messageId : String)
  | argument
deriving DecidableEq, Repr

/-- A message with the id that Message Queuing gives it, and its body if that can be read. -/
structure QueuedMessage (T : Type) where
  id : String
  body : Option T
deriving DecidableEq, Repr

structure MessageQueue (T : Type) where
  path : String
  messages : List (QueuedMessage T)
deriving DecidableEq, Repr

/-- How the reading of a listed message by its id ends. Other consumers may have removed the message. -/
inductive Reading
  | found
  | missing
  | failed (code : MessageQueueErrorCode)
deriving DecidableEq, Repr

/-- How the calls end that list a queue, that receive from it, and that read a message. -/
structure Surroundings where
  listing : String → Option MessageQueueErrorCode
  receiving : String → Option MessageQueueErrorCode
  reading : String → Reading

def Surroundings.quiet : Surroundings where
  listing _ := none
  receiving _ := none
  reading _ := .found

variable {T : Type}

abbrev Queueing (T A : Type) := Program (List (MessageQueue T)) QueueException A

def getMessageBody (message : QueuedMessage T) : Except QueueException T :=
  match message.body with
  | some body => .ok body
  | none => .error (.invalidMessageBody message.id)

section Dequeue

/-- What the loop over a queue does with an error of `Receive`; it ends at a time-out. -/
def afterReceive (path : String) (code : MessageQueueErrorCode) (taken : List T) : Except QueueException (List T) :=
  if code = .ioTimeout then .ok taken else .error (.operationFailed .dequeue path code)

def dequeueFrom (receiving : Option MessageQueueErrorCode) (path : String) (maxNumberOfItems : Nat) :
    List (QueuedMessage T) → List T → Except QueueException (List T) × List (QueuedMessage T)
  | [], taken =>
      if taken.length ≥ maxNumberOfItems then (.ok taken, [])
      else (afterReceive path (receiving.getD .ioTimeout) taken, [])
  | message :: messages, taken =>
      if taken.length ≥ maxNumberOfItems then (.ok taken, message :: messages)
      else
        match receiving with
        | some code => (afterReceive path code taken, message :: messages)
        | none =>
            match getMessageBody message with
            | .error _ => (.error (.invalidMessage message.id), messages)
            | .ok body => dequeueFrom none path maxNumberOfItems messages (taken ++ [body])

def dequeueQueues (surroundings : Surroundings) (maxNumberOfItems : Nat) :
    List (MessageQueue T) → List T → Except QueueException (List T) × List (MessageQueue T)
  | [], taken => (.ok taken, [])
  | queue :: queues, taken =>
      if taken.length ≥ maxNumberOfItems then (.ok taken, queue :: queues)
      else
        match dequeueFrom (surroundings.receiving queue.path) queue.path maxNumberOfItems queue.messages taken with
        | (.error exception, messages) => (.error exception, { queue with messages } :: queues)
        | (.ok taken, messages) =>
            let (result, queues) := dequeueQueues surroundings maxNumberOfItems queues taken
            (result, { queue with messages } :: queues)

/-- `Dequeue(maxNumberOfItems)` in a transaction of either kind. -/
def dequeue (surroundings : Surroundings) (maxNumberOfItems : Nat) : Queueing T (List T) := fun queues =>
  dequeueQueues surroundings maxNumberOfItems queues []

end Dequeue

section Peek

def getMessageIds (surroundings : Surroundings) (queue : MessageQueue T) : Except QueueException (List String) :=
  match surroundings.listing queue.path with
  | some code => .error (.messageQueue code)
  | none => .ok (queue.messages.map QueuedMessage.id)

def peekById (surroundings : Surroundings) (queue : MessageQueue T) (messageId : String) : Except QueueException T :=
  match surroundings.reading messageId with
  | .failed code => .error (.messageQueue code)
  | .missing => .error .invalidOperation
  | .found =>
      match queue.messages.find? fun message => message.id = messageId with
      | some message => getMessageBody message
      | none => .error .invalidOperation

/-- `Dictionary.Add`, in the order of the additions. -/
def addMessage (messages : List (String × T)) (messageId : String) (message : T) :
    Except QueueException (List (String × T)) :=
  if messageId ∈ messages.map Prod.fst then .error .argument else .ok (messages ++ [(messageId, message)])

def peekIds (surroundings : Surroundings) (maxNumberOfItems : Nat) (queue : MessageQueue T) :
    List String → List (String × T) → Except QueueException (List (String × T))
  | [], messages => .ok messages
  | messageId :: messageIds, messages =>
      if messages.length ≥ maxNumberOfItems then .ok messages
      else
        match peekById surroundings queue messageId >>= addMessage messages messageId with
        | .ok messages => peekIds surroundings maxNumberOfItems queue messageIds messages
        | .error (.messageQueue code) =>
            if code = .messageNotFound then .error (.operationFailed .peekById queue.path code)
            else peekIds surroundings maxNumberOfItems queue messageIds messages
        | .error (.invalidMessageBody messageId) => .error (.invalidMessage messageId)
        | .error exception => .error exception

def peekQueues (surroundings : Surroundings) (maxNumberOfItems : Nat) :
    List (MessageQueue T) → List (String × T) → Except QueueException (List (String × T))
  | [], messages => .ok messages
  | queue :: queues, messages =>
      if messages.length ≥ maxNumberOfItems then .ok messages
      else do
        let messageIds ← getMessageIds surroundings queue
        let messages ← peekIds surroundings maxNumberOfItems queue messageIds messages
        peekQueues surroundings maxNumberOfItems queues messages

/-- `Peek(maxNumberOfItems)` -/
def peek (surroundings : Surroundings) (maxNumberOfItems : Nat) : Queueing T (List (String × T)) := do
  let queues ← Program.read id
  Program.ofExcept (peekQueues surroundings maxNumberOfItems queues [])

end Peek

structure ReadableQueue (T : Type) where
  path : String
  messages : List (String × T)

def ReadableQueue.queue (readable : ReadableQueue T) : MessageQueue T where
  path := readable.path
  messages := readable.messages.map fun message => ⟨message.1, some message.2⟩

/-- Readable queues in the order of their priorities, with ids that Message Queuing never gives twice. -/
structure Content (T : Type) where
  queues : List (ReadableQueue T)
  distinct : ((queues.flatMap ReadableQueue.messages).map Prod.fst).Nodup

def Content.messages (content : Content T) : List (String × T) := content.queues.flatMap ReadableQueue.messages

def Content.messageQueues (content : Content T) : List (MessageQueue T) := content.queues.map ReadableQueue.queue

end ServiceHost.DataExchange.MsmqPeek
