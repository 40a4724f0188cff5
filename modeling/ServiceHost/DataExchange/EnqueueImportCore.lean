import Mathlib.Algebra.Group.Int.Defs
import Mathlib.Algebra.Group.Nat.Defs
import ServiceHost.DataExchange.ImportServiceCore

/-!
`DataExchangeAPI.EnqueueImportMessage` and its like for messages that cannot be imported,
with the priority that a message asks for. Texts are compared by the upper case letters
that the runtime gives them.
-/

namespace ServiceHost.DataExchange

open Library

/-- What `OrdinalIgnoreCase` compares. -/
def foldCase (toUpperInvariant : Char → Char) (text : String) : List Char := text.toList.map toUpperInvariant

namespace DataExchangeQueuePriority

/-- The members of the enumeration with their numbers; the last one is `Undefined`. -/
def members : List (String × Nat) := [("High", 0), ("Normal", 1), ("Low", 2), ("Undefined", 3)]

def undefined : Int := 3

def ofNumber : Int → Option DataExchangeQueuePriority
  | 0 => some .high
  | 1 => some .normal
  | 2 => some .low
  | _ => none

def trim (text : List Char) : List Char :=
  ((text.dropWhile isWhiteSpace).reverse.dropWhile isWhiteSpace).reverse

def parseDigits (digits : List Char) : Option Nat :=
  if digits ≠ [] ∧ digits.all Char.isDigit then
    some (digits.foldl (fun number digit => 10 * number + (digit.toNat - '0'.toNat)) 0)
  else none

def parseNumber : List Char → Option Int
  | '-' :: digits => (parseDigits digits).map fun number => -(number : Int)
  | '+' :: digits => (parseDigits digits).map Int.ofNat
  | digits => (parseDigits digits).map Int.ofNat

def parseName (toUpperInvariant : Char → Char) (name : List Char) : Option Nat :=
  (members.find? fun candidate =>
    foldCase toUpperInvariant candidate.1 = (trim name).map toUpperInvariant).map Prod.snd

/-- `Enum.TryParse` without regard to case: a number that fits in 32 bits, or names between
commas whose numbers are combined bit by bit. -/
def tryParse (toUpperInvariant : Char → Char) (value : String) : Option Int :=
  let text := trim value.toList
  if text = [] then none
  else
    match parseNumber text with
    | some number => if -2 ^ 31 ≤ number ∧ number < 2 ^ 31 then some number else none
    | none =>
        ((text.splitOn ',').mapM (parseName toUpperInvariant)).map fun numbers =>
          (numbers.foldl (fun combined number => combined ||| number) 0 : Nat)

def fromString (toUpperInvariant : Char → Char) (value : String) : Int :=
  (tryParse toUpperInvariant value).getD undefined

end DataExchangeQueuePriority

def getPriorityFromMessage (toUpperInvariant : Char → Char) (message : DataExchangeMessage)
    (useDefaultIfUndefined : Bool) : Except SystemException Int :=
  if message.priority = "" ∧ useDefaultIfUndefined then .ok 1
  else
    let priority := DataExchangeQueuePriority.fromString toUpperInvariant message.priority
    if priority = DataExchangeQueuePriority.undefined then .error (.invalidMetadata 0) else .ok priority

def routingAddressOrDefault (defaultRoutingAddress : Option String) (message : DataExchangeMessage) :
    Except SystemException String :=
  if message.routingAddress = "" then
    match defaultRoutingAddress with
    | some routingAddress => .ok routingAddress
    | none => .error (.invalidMetadata 0)
  else .ok message.routingAddress

def fillImportMessage (defaultRoutingAddress : Option String) (message : DataExchangeMessage) :
    Except SystemException DataExchangeMessage := do
  let routingAddress ← routingAddressOrDefault defaultRoutingAddress message
  if message.protocol = "" then .error (.invalidMetadata 0)
  else
    let priority := if message.priority = "" then "Normal" else message.priority
    .ok { message with routingAddress, priority }

/-- The message that is enqueued, and its queue: the import queue has no path for a
priority that has a number but no name. -/
def importMessageToEnqueue (toUpperInvariant : Char → Char) (defaultRoutingAddress : Option String)
    (message : DataExchangeMessage) : Except SystemException (QueueName × DataExchangeMessage) := do
  let message ← fillImportMessage defaultRoutingAddress message
  let priority ← getPriorityFromMessage toUpperInvariant message true
  match DataExchangeQueuePriority.ofNumber priority with
  | some priority => .ok (.internalImport priority, message)
  | none => .error (.other "ArgumentException")

/-- What the settings and the queue answer to a message that is enqueued. -/
structure EnqueueImportOutcomes where
  defaultRoutingAddress : Option String
  enqueue : Option SystemException

namespace DataExchangeApi

variable {X : Type}

def enqueueImportMessage (toUpperInvariant : Char → Char) (outcomes : EnqueueImportOutcomes)
    (message : DataExchangeMessage) : Exchange X Unit := do
  let target ← Program.ofExcept (importMessageToEnqueue toUpperInvariant outcomes.defaultRoutingAddress message)
  enqueue .enqueue target.1 target.2 outcomes.enqueue

def enqueueErroneousImportMessage (failure : Option SystemException) (message : DataExchangeMessage) :
    Exchange X Unit :=
  enqueue .enqueue .internalImportError message failure

end DataExchangeApi

end ServiceHost.DataExchange
