import Mathlib.Algebra.Group.Nat.Defs
import Mathlib.Data.List.Basic

/-!
`ServiceHost` and `ServiceThread`: how the host starts and stops its services, with the thread of the host, the
thread that calls `OnStart` and `Stop`, and one thread for each service. What the threads share is read and written in
steps of their own.
-/

namespace ServiceHost.Hosting

/-- Where a thread is in `RunProcess`. -/
inductive ThreadPoint
  | notStarted
  | checking
  | running
  | finishing (possiblyMoreWork : Bool)
  | sleeping (milliseconds : Int)
  | recycling
  | logging
  | leaving
  | disposing
  | ended
deriving DecidableEq

structure ServiceIteration where
  stopRequested : Bool
  isRunning : Bool
  point : ThreadPoint
  iterations : Nat
  disposals : Nat
deriving DecidableEq

def ServiceIteration.create : ServiceIteration := ⟨false, true, .notStarted, 0, 0⟩

/-- A product of 32 bit numbers. -/
def sleepMilliseconds (iterationSeconds : Int) : Int := (iterationSeconds * 1000).bmod (2 ^ 32)

/-- How a call of `RunIteration` or `RecycleLog` ends. -/
inductive CallOutcome
  | returns (possiblyMoreWork : Bool)
  | throws

section ServiceThread

variable (iterationSeconds : Int) (outcome : CallOutcome) (iteration : ServiceIteration)

/-- Where the thread goes next in `RunProcess`. -/
def ServiceIteration.next : ThreadPoint :=
  match iteration.point with
  | .notStarted => .notStarted
  | .checking => if iteration.stopRequested then .leaving else .running
  | .running =>
      match outcome with
      | .returns possiblyMoreWork => .finishing possiblyMoreWork
      | .throws => .logging
  | .finishing possiblyMoreWork =>
      if iteration.stopRequested then .leaving
      else if possiblyMoreWork then .sleeping 1
      else .sleeping (sleepMilliseconds iterationSeconds)
  -- A negative number of milliseconds is an exception.
  | .sleeping milliseconds => if milliseconds < -1 then .logging else .recycling
  | .recycling =>
      match outcome with
      | .returns _ => .checking
      | .throws => .logging
  | .logging => .checking
  | .leaving => .disposing
  | .disposing => .ended
  | .ended => .ended

def ServiceIteration.step : ServiceIteration where
  stopRequested := iteration.stopRequested
  isRunning := iteration.isRunning && iteration.point ≠ .leaving
  point := iteration.next iterationSeconds outcome
  iterations := if iteration.point = .checking ∧ iteration.stopRequested = false then iteration.iterations + 1 else iteration.iterations
  disposals := if iteration.point = .disposing then iteration.disposals + 1 else iteration.disposals

def ServiceIteration.requestStop : ServiceIteration := { iteration with stopRequested := true }

def ServiceIteration.startProcess : ServiceIteration := { iteration with point := .checking }

end ServiceThread

/-- Where the thread of the host is in `ProcessingThread`. -/
inductive ProcessingPoint
  | starting
  | nothingLoaded
  | loaded
  | initializing (index : Nat)
  | processServices (index : Nat)
  | waiting
  | stopped
  | failed
deriving DecidableEq

/-- Where the caller is in `OnStart` or `Stop`. -/
inductive CallerPoint
  | waiting
  | looking
  | deciding
  | refused
  | started
  | stopping (index : Nat)
  | stopped
deriving DecidableEq

structure Host where
  stopRequested : Bool
  processingThreadStarted : Bool
  iterationClasses : Option (List ServiceIteration)
  processing : ProcessingPoint
  caller : CallerPoint

def Host.create : Host := ⟨false, false, none, .starting, .waiting⟩

section Steps

variable (host : Host)

/-- The services that the host has loaded. -/
def Host.services : List ServiceIteration := host.iterationClasses.getD []

def Host.changeService (index : Nat) (change : ServiceIteration → ServiceIteration) : Host :=
  { host with iterationClasses := host.iterationClasses.map (·.modify index change) }

/-- `CriticalLog`, which stops the host while it is starting, and leaving the thread. -/
def Host.criticalLog : Host :=
  { host with processing := .failed, stopRequested := host.stopRequested || !host.processingThreadStarted }

/-- A step of `ProcessingThread`, with an exception or the number of services that were loaded. `IsRunning` never
becomes true again, so `AreServicesRunning` is one step. -/
def Host.processingStep (outcome : Option Nat) : Option Host :=
  match host.processing, outcome with
  | .starting, none => some host.criticalLog
  | .starting, some 0 => some { host with stopRequested := true, processing := .nothingLoaded }
  | .starting, some count =>
      some { host with iterationClasses := some (List.replicate count .create), processing := .loaded }
  | .nothingLoaded, none => some host.criticalLog
  | .nothingLoaded, some _ => some { host with iterationClasses := some [], processing := .loaded }
  | .loaded, _ => some { host with processingThreadStarted := true, processing := .initializing 0 }
  | .initializing index, outcome =>
      if host.services.length ≤ index then some { host with processing := .processServices 0 }
      else if outcome = none then some host.criticalLog
      else some { host with processing := .initializing (index + 1) }
  | .processServices index, outcome =>
      if host.services.length ≤ index then some { host with processing := .waiting }
      else if outcome = none then some host.criticalLog
      else some { host.changeService index .startProcess with processing := .processServices (index + 1) }
  | .waiting, _ => if host.services.any ServiceIteration.isRunning then none else some { host with processing := .stopped }
  | .stopped, _ => none
  | .failed, _ => none

/-- A step of `OnStart` as a service, and of `Stop` once it has returned. -/
def Host.callerStep : Option Host :=
  match host.caller with
  | .waiting => some { host with caller := if host.processingThreadStarted then .deciding else .looking }
  | .looking => some { host with caller := if host.stopRequested then .deciding else .waiting }
  | .deciding => some { host with caller := if host.stopRequested then .refused else .started }
  | .refused => none
  | .started => some { host with stopRequested := true, caller := .stopping 0 }
  | .stopping index =>
      if host.services.length ≤ index then some { host with stopRequested := false, caller := .stopped }
      else some { host.changeService index .requestStop with caller := .stopping (index + 1) }
  | .stopped => some { host with stopRequested := true, caller := .stopping 0 }

/-- A step of the thread of a service, where it has been started and has not ended. -/
def Host.serviceStep (iterationSeconds : Int) (index : Nat) (outcome : CallOutcome) : Option Host :=
  match host.services[index]? with
  | none => none
  | some iteration =>
      if iteration.point = .notStarted ∨ iteration.point = .ended then none
      else some (host.changeService index (.step iterationSeconds outcome))

end Steps

/-- A step of the host or of a service. -/
inductive Works (iterationSeconds : Int) (host : Host) : Host → Prop
  | processing {next : Host} (outcome : Option Nat) (step : host.processingStep outcome = some next) : Works iterationSeconds host next
  | service {next : Host} (index : Nat) (outcome : CallOutcome)
      (step : host.serviceStep iterationSeconds index outcome = some next) : Works iterationSeconds host next

/-- A step of any thread. -/
inductive Step (iterationSeconds : Int) (host : Host) : Host → Prop
  | works {next : Host} (works : Works iterationSeconds host next) : Step iterationSeconds host next
  | caller {next : Host} (step : host.callerStep = some next) : Step iterationSeconds host next

end ServiceHost.Hosting
