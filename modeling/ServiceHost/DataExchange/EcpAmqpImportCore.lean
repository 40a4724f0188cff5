import ServiceHost.DataExchange.ImportServiceCore

/-!
`EcpAmqpImportModule`: a message is received by polling or pumping, and is imported by a
task that nobody waits for. Each step of the receiving thread and of the task is an event
with its outcome, and so is the end of the process.
-/

namespace ServiceHost.DataExchange.EcpAmqpImport

open Library

inductive ReceivingMode
  | polling
  | pumping
deriving DecidableEq

inductive ReceiverPhase
  | accepting
  | building
  | starting
  | returned
deriving DecidableEq

inductive TargetQueue
  | importQueue
  | errorQueue
deriving DecidableEq

/-- What the task does next. A transaction that is disposed may have been marked complete,
and an exception may be passing by. -/
inductive WorkTask
  | notStarted
  | scheduled
  | beginning (target : TargetQueue)
  | enqueuing (target : TargetQueue)
  | committing (target : TargetQueue)
  | disposing (target : TargetQueue) (complete : Bool) (raised : Option SystemException)
  | handling
  | deletingHandled
  | deletingFailed
  | ranToCompletion
  | faulted (exception : SystemException)
deriving DecidableEq

structure AmqpWorld where
  mode : ReceivingMode
  kind : TransactionKind
  receiver : ReceiverPhase
  workTask : WorkTask
  accepted : Bool
  inImportQueue : Bool
  inErrorQueue : Bool
  handled : Bool
  stopped : Bool
deriving DecidableEq

inductive AmqpEvent
  | accept (failure : Option SystemException)
  | buildMessage (failure : Option SystemException)
  | runTask
  | submitImport (useImportApplicationManagerService : Bool)
  | begin_ (failure : Option SystemException)
  | enqueue (failure : Option SystemException)
  | commit (failure : Option SystemException)
  | dispose (failure : Option SystemException)
  | handleMessage (failure : Option SystemException)
  | deleteMessageData (failure : Option SystemException)
  | stopProcess

def received (mode : ReceivingMode) (kind : TransactionKind) : AmqpWorld where
  mode := mode
  kind := kind
  receiver :=
    match mode with
    | .polling => .building
    | .pumping => .accepting
  workTask := .notStarted
  accepted := false
  inImportQueue := false
  inErrorQueue := false
  handled := false
  stopped := false

namespace AmqpWorld

variable (world : AmqpWorld)

def put : TargetQueue → AmqpWorld
  | .importQueue => { world with inImportQueue := true }
  | .errorQueue => { world with inErrorQueue := true }

def endTask : Option SystemException → AmqpWorld
  | none => { world with workTask := .ranToCompletion }
  | some exception => { world with workTask := .faulted exception }

/-- Both modes log the exceptions of the receiving thread, or let them pass. -/
def accept (failure : Option SystemException) : AmqpWorld :=
  { world with
    accepted := true
    receiver :=
      match world.mode, failure with
      | .pumping, none => .building
      | _, _ => .returned }

def runTask : AmqpWorld :=
  { world with
    workTask := .scheduled
    receiver :=
      match world.mode with
      | .polling => .accepting
      | .pumping => .returned }

/-- `WsLogicBase.SubmitImport` moves a message that is not valid to the error queue in the
transaction that it has. -/
def enqueue (target : TargetQueue) : Option SystemException → AmqpWorld
  | none => { world with workTask := .committing target }
  | some exception =>
      match target, exception with
      | .importQueue, .invalidMessage _ => { world with workTask := .enqueuing .errorQueue }
      | .importQueue, .invalidMetadata _ => { world with workTask := .enqueuing .errorQueue }
      | _, _ => { world with workTask := .disposing target false (some exception) }

def commit (target : TargetQueue) : Option SystemException → AmqpWorld
  | none =>
      match world.kind with
      | .msmq => { world.put target with workTask := .disposing target false none }
      | .msdtc => { world with workTask := .disposing target true none }
  | some exception => { world with workTask := .disposing target false (some exception) }

def dispose (target : TargetQueue) (complete : Bool) (raised failure : Option SystemException) : AmqpWorld :=
  if complete then
    match failure with
    | none => (world.put target).endTask raised
    | some exception => world.endTask (some exception)
  else world.endTask raised

def handleException (exception : SystemException) : AmqpWorld :=
  match failureHandling exception with
  | .errorQueue => { world with workTask := .beginning .errorQueue }
  | .messageLog => { world with workTask := .deletingFailed, handled := true }
  | .passed => world.endTask (some exception)

/-- The import application either handles the message or raises an exception. -/
def handleMessage : Option SystemException → AmqpWorld
  | none => { world with workTask := .deletingHandled, handled := true }
  | some exception => world.handleException exception

def taskStep : AmqpEvent → AmqpWorld
  | .submitImport useImportApplicationManagerService =>
      match world.workTask with
      | .scheduled =>
          { world with
            workTask := if useImportApplicationManagerService then .beginning .importQueue else .handling }
      | _ => world
  | .begin_ failure =>
      match world.workTask, failure with
      | .beginning target, none => { world with workTask := .enqueuing target }
      | .beginning target, some exception => { world with workTask := .disposing target false (some exception) }
      | _, _ => world
  | .enqueue failure =>
      match world.workTask with
      | .enqueuing target => world.enqueue target failure
      | _ => world
  | .commit failure =>
      match world.workTask with
      | .committing target => world.commit target failure
      | _ => world
  | .dispose failure =>
      match world.workTask with
      | .disposing target complete raised => world.dispose target complete raised failure
      | _ => world
  | .handleMessage failure =>
      match world.workTask with
      | .handling => world.handleMessage failure
      | _ => world
  | .deleteMessageData failure =>
      match world.workTask, failure with
      | .deletingHandled, none => world.endTask none
      | .deletingHandled, some exception => world.handleException exception
      | .deletingFailed, failure => world.endTask failure
      | _, _ => world
  | _ => world

end AmqpWorld

def amqpStep (world : AmqpWorld) (event : AmqpEvent) : AmqpWorld :=
  if world.stopped then world
  else
    match event with
    | .accept failure => if world.receiver = .accepting then world.accept failure else world
    | .buildMessage failure =>
        if world.receiver = .building then
          { world with receiver := if failure = none then .starting else .returned }
        else world
    | .runTask => if world.receiver = .starting then world.runTask else world
    | .stopProcess => { world with stopped := true }
    | event => world.taskStep event

end ServiceHost.DataExchange.EcpAmqpImport
