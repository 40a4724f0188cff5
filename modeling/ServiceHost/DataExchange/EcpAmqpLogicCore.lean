import Mathlib.Algebra.Group.Int.Defs
import Mathlib.Data.List.DropRight
import ServiceHost.DataExchange.EnqueueImportCore
import ServiceHost.Time.UtcTime

/-!
The rule lists of `EcpAmqpLogic`: entries between semicolons, the fields of an entry between
commas. Whether a text is a regular expression is told by the runtime, with the message of
the exception when it is none.
-/

namespace ServiceHost.DataExchange

open Library

/-- `text.Split(separator)`. -/
def split (separator : Char) (text : String) : List String :=
  (text.toList.splitOn separator).map String.ofList

namespace EcpAmqpLogic

abbrev RuleException := ServiceHost.SystemException

structure QueryPriority where
  query : String
  priority : Int
deriving DecidableEq, Repr

structure QueryProtocol where
  query : String
  protocol : String
deriving DecidableEq, Repr

inductive LogEntry
  | error (exception : RuleException) (text : String)
  | message (identifier : Nat) (argument : String)
deriving DecidableEq, Repr

/-- `Constants.MessageIdentifiers.AnErrorOccurred`. -/
def anErrorOccurred : Nat := 8100

structure StateTable where
  entries : List (String × Int)
  distinct : (entries.map Prod.fst).Nodup
deriving DecidableEq

namespace StateTable

def empty : StateTable := ⟨[], List.nodup_nil⟩

def keys (table : StateTable) : List String := table.entries.map Prod.fst

theorem distinct_add (table : StateTable) {key : String} (value : Int) (fresh : key ∉ table.keys) :
    ((table.entries ++ [(key, value)]).map Prod.fst).Nodup := by
  rw [List.map_append, List.nodup_append]
  refine ⟨table.distinct, by simp, ?_⟩
  intro other known added isKey same
  rw [List.mem_singleton.mp isKey] at same
  rw [same] at known
  exact fresh known

def add (table : StateTable) (key : String) (value : Int) : Except RuleException StateTable :=
  if fresh : key ∉ table.keys then .ok ⟨table.entries ++ [(key, value)], table.distinct_add value fresh⟩
  else .error (.argument "An item with the same key has already been added.")

end StateTable

end EcpAmqpLogic

structure EcpAmqpLogic where
  prioritizedQueries : List EcpAmqpLogic.QueryPriority
  protocolQueries : List EcpAmqpLogic.QueryProtocol
  states : EcpAmqpLogic.StateTable
  log : List EcpAmqpLogic.LogEntry
deriving DecidableEq

namespace EcpAmqpLogic

abbrev Rules := Program EcpAmqpLogic RuleException

structure Runtime where
  invalidPattern : String → Option String
  toUpperInvariant : Char → Char

/-- `fields[index]`. -/
def item (fields : List String) (index : Nat) : Rules String :=
  Program.ofExcept (match fields[index]? with
    | some field => .ok field
    | none => .error .indexOutOfRange)

def logEntries (entries : List LogEntry) : Rules Unit :=
  Program.change fun logic => { logic with log := logic.log ++ entries }

/-- `catch (ArgumentException E)`. -/
def catchArgument (body : Rules Unit) (handler : RuleException → String → Rules Unit) : Rules Unit :=
  Program.handle body fun exception =>
    match exception with
    | .argument message => handler exception message
    | exception => Program.raise exception

section Rules

variable (runtime : Runtime)

/-- `new Regex(pattern)`. -/
def newRegex (pattern : String) : Rules String :=
  Program.ofExcept (match runtime.invalidPattern pattern with
    | none => .ok pattern
    | some message => .error (.argument message))

def addQueryPriority (queryPrio : String) : Rules Unit := do
  let qpS := split ',' queryPrio
  catchArgument (do
      let query ← newRegex runtime (← item qpS 0)
      let priority := DataExchangeQueuePriority.fromString runtime.toUpperInvariant (← item qpS 1)
      if priority ≠ DataExchangeQueuePriority.undefined then
        Program.change fun logic =>
          { logic with prioritizedQueries := logic.prioritizedQueries ++ [⟨query, priority⟩] }
      else pure ())
    fun exception _ => do
      let query ← item qpS 0
      logEntries [.error exception query]

def initializePriorityList (priorityDescription : Option String) : Rules Unit := do
  Program.change fun logic => { logic with prioritizedQueries := [] }
  match priorityDescription with
  | none => pure ()
  | some priorityDescription =>
      if priorityDescription = "" then pure ()
      else Program.forEach (addQueryPriority runtime) (split ';' priorityDescription)

def addQueryProtocol (queryProt : String) : Rules Unit := do
  let qpS := split ',' queryProt
  catchArgument (do
      let query ← newRegex runtime (← item qpS 0)
      let protocol ← item qpS 1
      Program.change fun logic =>
        { logic with protocolQueries := logic.protocolQueries ++ [⟨query, protocol⟩] })
    fun exception message => do
      let query ← item qpS 0
      logEntries [.error exception query, .message anErrorOccurred message]

def initializeProtocolRules (protocolRulesDefinition : Option String) : Rules Unit := do
  Program.change fun logic => { logic with protocolQueries := [] }
  match protocolRulesDefinition with
  | none => pure ()
  | some protocolRulesDefinition =>
      if protocolRulesDefinition = "" then pure ()
      else Program.forEach (addQueryProtocol runtime) (split ';' protocolRulesDefinition)

end Rules

def isBlank (c : Char) : Bool := c ∈ [' ', '\t', '\n', '\x0b', '\x0c', '\r']

/-- `Convert.ToInt32`: a sign and digits, which white space may surround and null
characters may follow. -/
def toInt32 (value : String) : Except RuleException Int :=
  let text := ((value.toList.dropWhile isBlank).rdropWhile (· = '\x00')).rdropWhile isBlank
  match DataExchangeQueuePriority.parseNumber text with
  | none => .error .format
  | some number => if -2 ^ 31 ≤ number ∧ number < 2 ^ 31 then .ok number else .error .overflow

def addState (state : String) : Rules Unit := do
  let conv := split ',' state
  let key ← item conv 0
  let value ← Program.ofExcept (toInt32 (← item conv 1))
  let states ← Program.read EcpAmqpLogic.states
  let states ← Program.ofExcept (states.add key value)
  Program.change fun logic => { logic with states }

def initializeStateRules (stateRulesDefinition : Option String) : Rules Unit := do
  Program.change fun logic => { logic with states := .empty }
  match stateRulesDefinition with
  | none => pure ()
  | some stateRulesDefinition =>
      if stateRulesDefinition = "" then pure ()
      else Program.forEach addState (split ';' stateRulesDefinition)

end EcpAmqpLogic

end ServiceHost.DataExchange
