import ServiceHost.DataExchange.ImportServiceCore

/-!
`AzureImportModule.StartJobAndKeepLockAlive`: the import of a message runs as a task,
while the thread that received the message waits and keeps its lock alive. Both write to
one job object. Each step of one of the two, of the caller that asks for cancellation, and
of the broker is an event with its outcome.
-/

namespace ServiceHost.DataExchange.AzureImport

open Library

/-- Where the task is. The result is written to the job object before the payload is deleted. -/
inductive WorkTask
  | scheduled
  | importing
  | reporting (result : Bool)
  | deletingMessageData
  | ranToCompletion
  | faulted (exception : SystemException)
  | canceled
deriving DecidableEq

namespace WorkTask

def isCanceled : WorkTask → Bool
  | canceled => true
  | _ => false

def isCompleted : WorkTask → Bool
  | ranToCompletion | faulted _ | canceled => true
  | _ => false

def exception : WorkTask → Option SystemException
  | faulted exception => some exception
  | _ => none

end WorkTask

inductive WaitPhase
  | checking
  | keepingLock
  | readingException
  | readingFailed
  | readingCanceled
  | finishing
  | returned
deriving DecidableEq

structure ImportJob where
  result : Bool
  hasRun : Bool
  failed : Bool
  thrownException : Option SystemException
deriving DecidableEq

/-- Where the message is at the broker: one whose lock is lost is delivered again. -/
inductive BrokeredPlace
  | locked
  | redelivered
  | completed
  | deadLettered
deriving DecidableEq

/-- What `HandleMessage` has done, and whether `Complete` was called, is kept as history. -/
structure JobWorld where
  cancellationRequested : Bool
  workTask : WorkTask
  waiting : WaitPhase
  importJob : ImportJob
  message : BrokeredPlace
  handled : Option (Except SystemException Bool)
  completeCalled : Bool

inductive JobEvent
  | requestCancellation
  | loseLock
  | startTask
  | handleMessage (handled : Except SystemException Bool)
  | reportResult
  | deleteMessageData (failure : Option SystemException)
  | check
  | keepLock (renewLock : Option (Option SystemException))
  | readException
  | readFailed
  | readCanceled
  | importHasFinished (failure : Option SystemException)

/-- The job when `StartJobAndKeepLockAlive` has started its task. -/
def newJob (cancellationRequested : Bool) : JobWorld where
  cancellationRequested := cancellationRequested
  workTask := .scheduled
  waiting := .checking
  importJob := ⟨false, false, false, none⟩
  message := .locked
  handled := none
  completeCalled := false

/-- The exceptions of `HandleMessage` that the import application reports as handled. -/
def isReported (exception : SystemException) : Bool := failureHandling exception ≠ .passed

/-- What `AzureLogic.SubmitImport` makes of what `HandleMessage` does: it starts the import
without a delegate for failures. -/
def submitImport : Except SystemException Bool → Except SystemException Bool
  | .ok handled => .ok handled
  | .error exception => if isReported exception then .ok true else .error exception

/-- The call of `DeadLetter` or `Complete`; the exceptions of both are logged only. -/
def JobWorld.importHasFinished (world : JobWorld) (failure : Option SystemException) : JobWorld :=
  let settle (place : BrokeredPlace) : BrokeredPlace :=
    if failure = none ∧ world.message = .locked then place else world.message
  let world := { world with waiting := .returned, importJob := { world.importJob with hasRun := true } }
  if world.importJob.failed then { world with message := settle .deadLettered }
  else { world with message := settle .completed, completeCalled := true }

def jobStep (world : JobWorld) : JobEvent → JobWorld
  | .requestCancellation => { world with cancellationRequested := true }
  | .loseLock => if world.message = .locked then { world with message := .redelivered } else world
  | .startTask =>
      if world.workTask = .scheduled then
        { world with workTask := if world.cancellationRequested then .canceled else .importing }
      else world
  | .handleMessage handled =>
      if world.workTask = .importing then
        { world with
          handled := some handled
          workTask :=
            match submitImport handled with
            | .ok result => .reporting result
            | .error exception => .faulted exception }
      else world
  | .reportResult =>
      match world.workTask with
      | .reporting result =>
          { world with workTask := .deletingMessageData, importJob := { world.importJob with result } }
      | _ => world
  | .deleteMessageData failure =>
      if world.workTask = .deletingMessageData then
        { world with
          workTask :=
            match failure with
            | none => .ranToCompletion
            | some exception => .faulted exception }
      else world
  | .check =>
      if world.waiting = .checking then
        if !world.cancellationRequested && !world.workTask.isCompleted && !world.workTask.isCanceled then
          { world with waiting := .keepingLock }
        else { world with waiting := .readingException }
      else world
  | .keepLock renewLock =>
      if world.waiting = .keepingLock then
        match renewLock with
        | some (some exception) =>
            { world with
              waiting := .readingException
              importJob := { world.importJob with thrownException := some exception } }
        | _ => { world with waiting := .checking }
      else world
  | .readException =>
      if world.waiting = .readingException then
        { world with
          waiting := .readingFailed
          importJob :=
            { world.importJob with
              thrownException := world.workTask.exception.or world.importJob.thrownException } }
      else world
  | .readFailed =>
      if world.waiting = .readingFailed then
        { world with
          waiting := .readingCanceled
          importJob :=
            { world.importJob with
              failed := world.importJob.failed || world.workTask.exception.isSome || world.workTask.isCanceled } }
      else world
  | .readCanceled =>
      if world.waiting = .readingCanceled then
        { world with waiting := if world.workTask.isCanceled then .returned else .finishing }
      else world
  | .importHasFinished failure => if world.waiting = .finishing then world.importHasFinished failure else world

end ServiceHost.DataExchange.AzureImport
