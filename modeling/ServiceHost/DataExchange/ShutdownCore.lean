import Mathlib.Algebra.Order.Group.Unbundled.Int
import ServiceHost.Library.Program
import ServiceHost.Time.UtcTime

/-!
`DataExchangeManagerServiceBase`: the end of an iteration, when the modules are stopped one after
the other and those that still run are aborted. Times are ticks.
-/

namespace ServiceHost.DataExchange.Shutdown

open Library

def ticksPerMillisecond : Int := 10000

/-- What `Stop` of a module does with a time-out. -/
structure StopOutcome where
  elapsed : Nat
  failure : Option ServiceHost.SystemException

structure DataExchangeModule where
  stop : Int → StopOutcome
  isRunning : Bool

section ThreadBasedModule

/-- The thread of a module, with the time until it ends by itself and the time that `Abort` takes. -/
structure ModuleThread where
  isAlive : Bool
  endsAfter : Nat
  abortTakes : Nat

/-- `Thread.Join` takes whole milliseconds, -1 for no limit, and no other negative number. -/
def ModuleThread.join (thread : ModuleThread) (timeout : Int) : Except ServiceHost.SystemException (Bool × Nat) :=
  let milliseconds := timeout.tdiv ticksPerMillisecond
  if milliseconds < -1 ∨ milliseconds > 2147483647 then .error .argumentOutOfRange
  else if milliseconds = -1 then .ok (true, thread.endsAfter)
  else if thread.endsAfter ≤ milliseconds * ticksPerMillisecond then .ok (true, thread.endsAfter)
  else .ok (false, (milliseconds * ticksPerMillisecond).toNat)

/-- `ThreadBasedModule.Stop` -/
def ModuleThread.stop (thread : ModuleThread) (timeout : Int) : StopOutcome :=
  if thread.isAlive then
    match thread.join timeout with
    | .error exception => ⟨0, some exception⟩
    | .ok (true, elapsed) => ⟨elapsed, none⟩
    | .ok (false, elapsed) => ⟨elapsed + thread.abortTakes, none⟩
  else ⟨0, none⟩

end ThreadBasedModule

/-- How `TimeSpan.FromSeconds` rounds the share of a module to milliseconds. The quotient is a
floating point number, so a share that lies between two milliseconds may become either. -/
structure Rounding where
  milliseconds : (totalSeconds : Int) → (count : Nat) → Int
  nearest : ∀ totalSeconds count, 0 < count →
    2 * |milliseconds totalSeconds count * count - 1000 * totalSeconds| ≤ count

/-- A call of `Stop`, with the time it has taken. -/
structure StopCall where
  index : Nat
  timeout : Int
  elapsed : Nat
deriving DecidableEq

structure Iteration where
  stops : List StopCall
  aborted : List Nat
deriving DecidableEq

abbrev Stopping : Type → Type := Program Iteration ServiceHost.SystemException

def stop (module : DataExchangeModule) (index : Nat) (timeout : Int) : Stopping Nat := do
  let outcome := module.stop timeout
  Program.change fun iteration =>
    { iteration with stops := iteration.stops ++ [⟨index, timeout, outcome.elapsed⟩] }
  Program.call outcome.failure
  return outcome.elapsed

def stopModule (averageTimeout : Int) : List DataExchangeModule → Nat → Int → Stopping Unit
  | [], _, _ => pure ()
  | module :: rest, index, timeout => do
      let elapsed ← stop module index timeout
      stopModule averageTimeout rest (index + 1) (averageTimeout + (timeout - elapsed))

def averageTimeout (rounding : Rounding) (totalSeconds : Int) (count : Nat) : Int :=
  rounding.milliseconds totalSeconds count * ticksPerMillisecond

def stopModules (rounding : Rounding) (totalSeconds : Int) (modules : List DataExchangeModule) : Stopping Unit :=
  let average := averageTimeout rounding totalSeconds modules.length
  if modules.length = 0 then pure () else stopModule average modules 0 average

def abortIfRunning (module : DataExchangeModule × Nat) : Stopping Unit :=
  if module.1.isRunning then
    Program.change fun iteration => { iteration with aborted := iteration.aborted ++ [module.2] }
  else pure ()

def terminateRunningModules (modules : List DataExchangeModule) : Stopping Unit :=
  Program.forEach abortIfRunning modules.zipIdx

/-- `RunIteration` from the call of `StopModules` on. Starting the modules lets no exception through,
and requesting the stop only sets flags. -/
def runIteration (rounding : Rounding) (totalSeconds : Int) (modules : List DataExchangeModule) : Stopping Unit := do
  stopModules rounding totalSeconds modules
  if modules.any DataExchangeModule.isRunning then terminateRunningModules modules else pure ()

end ServiceHost.DataExchange.Shutdown
