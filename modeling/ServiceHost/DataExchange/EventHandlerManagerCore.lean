import ServiceHost.Library.Program
import ServiceHost.Library.Sublists

/-!
`EventHandlerManager`: handlers are added to one event and removed from it, and the manager
keeps its own handler at the source event while there are any.
-/

namespace ServiceHost.DataExchange.Events

open Library

variable {M O : Type}

@[ext] structure SingleHandler (M O : Type) where
  method : M
  target : Option O
deriving DecidableEq

/-- A delegate is an invocation list that is not empty; the empty list stands for null. -/
structure EventHandler (M O : Type) where
  invocationList : List (SingleHandler M O)
  some : invocationList ≠ []

namespace EventHandler

def single (handler : SingleHandler M O) : EventHandler M O := ⟨[handler], List.cons_ne_nil _ _⟩

/-- `Method` and `Target` of a combined delegate are those of its last entry. -/
def last (value : EventHandler M O) : SingleHandler M O := value.invocationList.getLast value.some

def method (value : EventHandler M O) : M := value.last.method

def target (value : EventHandler M O) : Option O := value.last.target

end EventHandler

inductive EventException
  | objectDisposed (objectName : String)

structure EventHandlerManager (M O : Type) where
  handler : List (SingleHandler M O)
  isEventSubscribed : Bool
  isDisposed : Bool
  subscriptions : Nat

def EventHandlerManager.new : EventHandlerManager M O := ⟨[], false, false, 0⟩

abbrev Listening (M O : Type) : Type → Type := Program (EventHandlerManager M O) EventException

section Handler

variable [DecidableEq M] [DecidableEq O]

def subscribeToSourceEvent : Listening M O Unit :=
  Program.change fun manager => { manager with subscriptions := manager.subscriptions + 1 }

def unsubscribeFromSourceEvent : Listening M O Unit :=
  Program.change fun manager => { manager with subscriptions := manager.subscriptions - 1 }

def throwIfDisposed : Listening M O Unit := do
  let isDisposed ← Program.read fun manager => manager.isDisposed
  if isDisposed then Program.raise (.objectDisposed "event handler manager") else pure ()

def ensureSourceEventIsSubscribed : Listening M O Unit := do
  let isEventSubscribed ← Program.read fun manager => manager.isEventSubscribed
  if isEventSubscribed then pure ()
  else do
    subscribeToSourceEvent
    Program.change fun manager => { manager with isEventSubscribed := true }

def unsubscribeFromSourceIfNeeded (value : EventHandler M O) : Listening M O Unit := do
  let handler ← Program.read fun manager => manager.handler
  if handler = [] then pure ()
  else if handler.length ≠ 1 then pure ()
  else if ¬handler.any fun other => other.method = value.method ∧ other.target = value.target then pure ()
  else do
    unsubscribeFromSourceEvent
    Program.change fun manager => { manager with isEventSubscribed := false }

/-- `Handler += value` -/
def add (value : EventHandler M O) : Listening M O Unit := do
  throwIfDisposed
  Program.change fun manager => { manager with handler := manager.handler ++ value.invocationList }
  ensureSourceEventIsSubscribed

/-- `Handler -= value` -/
def remove (value : EventHandler M O) : Listening M O Unit := do
  throwIfDisposed
  unsubscribeFromSourceIfNeeded value
  Program.change fun manager => { manager with handler := removeLast value.invocationList manager.handler }

def dispose : Listening M O Unit := do
  let isDisposed ← Program.read fun manager => manager.isDisposed
  if isDisposed then pure ()
  else
    Program.ensure
      (do
        let subscribed ← Program.read fun manager => manager.handler
        Program.forEach (fun handler => remove (.single handler)) subscribed)
      (Program.change fun manager => { manager with isDisposed := true })

end Handler

/-- The handlers that are raised, in their order, when the source event is: once for each time that it
has the handler of the manager. -/
def EventHandlerManager.raised (manager : EventHandlerManager M O) : List (SingleHandler M O) :=
  (List.replicate manager.subscriptions manager.handler).flatten

inductive Step (M O : Type)
  | add (value : EventHandler M O)
  | remove (value : EventHandler M O)
  | dispose

variable [DecidableEq M] [DecidableEq O]

/-- A call that ends with an exception leaves what it has changed. -/
def EventHandlerManager.step (manager : EventHandlerManager M O) : Step M O → EventHandlerManager M O
  | .add value => (add value manager).2
  | .remove value => (remove value manager).2
  | .dispose => (dispose manager).2

def EventHandlerManager.run (steps : List (Step M O)) : EventHandlerManager M O :=
  steps.foldl EventHandlerManager.step .new

end ServiceHost.DataExchange.Events
