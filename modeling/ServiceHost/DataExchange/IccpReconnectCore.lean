import Mathlib.Logic.Function.Iterate
import ServiceHost.DataExchange.QueueCore

/-!
`IccpImportModule.Reconnect`. What the servers answer, and when a stop is requested from
outside, is told for each turn of the loop. What `Initialize` does with a connection is its
outcome; the log, the host names and the other parameters of a client are left out.
-/

namespace ServiceHost.DataExchange.IccpReconnect

/-- What comes of a connection: its transfer sets are started, there are none, or an exception. -/
inductive Subscription
  | started
  | noTransferSets
  | raised (exception : SystemException)
deriving DecidableEq, Repr

/-- What `Client.Connect` comes to. A server that does not run is `ClientError.FAILED`. -/
inductive ConnectOutcome
  | established (subscription : Subscription)
  | failed
  | raised (exception : SystemException)
deriving DecidableEq, Repr

inductive Client
  | created
  | connected (index : Nat)
deriving DecidableEq, Repr

structure Clients where
  length : Nat
  nonEmpty : 0 < length

structure IccpImportModule where
  clientIndex : Nat
  client : Option Client
  reconnect : Bool
  isStopRequested : Bool
deriving DecidableEq, Repr

inductive ReconnectEvent
  | connect (clientIndex : Nat) (established : Bool)
  | sleep (clientIndex : Nat)
deriving DecidableEq, Repr

inductive Ending
  | running
  | returned (value : Bool)
  | raised (exception : SystemException)
deriving DecidableEq, Repr

structure Surroundings where
  connect : (turn clientIndex : Nat) → ConnectOutcome
  stops : (turn : Nat) → Bool

/-- A call of `Reconnect` under way. -/
structure Reconnecting where
  module : IccpImportModule
  turn : Nat
  trace : List ReconnectEvent
  ending : Ending
deriving DecidableEq, Repr

section Reconnect

variable (clients : Clients) (surroundings : Surroundings)

def nextIndex (clientIndex : Nat) : Nat :=
  if clientIndex + 1 > clients.length - 1 then 0 else clientIndex + 1

def start (module : IccpImportModule) : Reconnecting where
  module := { module with clientIndex := nextIndex clients module.clientIndex }
  turn := 0
  trace := []
  ending := .running

namespace Reconnecting

variable (state : Reconnecting)

/-- `IsStopRequested` as the module reads it in a turn. -/
def readStop (turn : Nat) : IccpImportModule :=
  { state.module with isStopRequested := state.module.isStopRequested || surroundings.stops turn }

/-- `Connect` and `Initialize`: the module behind it and what is returned. -/
def initializeModule (module : IccpImportModule) : IccpImportModule × Except SystemException Bool :=
  let established := { module with client := some (.connected module.clientIndex) }
  match surroundings.connect state.turn module.clientIndex with
  | .raised exception => ({ module with client := some .created }, .error exception)
  | .failed => ({ module with client := some .created, reconnect := true }, .ok false)
  | .established .started => (established, .ok true)
  | .established .noTransferSets => ({ established with isStopRequested := true }, .ok false)
  | .established (.raised exception) => (established, .error exception)

def isEstablished : ConnectOutcome → Bool
  | .established _ => true
  | .failed | .raised _ => false

def finish : Reconnecting :=
  let module := state.readStop surroundings (state.turn + 1)
  let reconnect := if !module.isStopRequested && module.client.isSome then false else module.reconnect
  { state with module := { module with reconnect }, ending := .returned module.client.isSome }

def step : Reconnecting :=
  match state.ending with
  | .running =>
      let module := state.readStop surroundings state.turn
      if module.isStopRequested then finish surroundings { state with module }
      else
        let clientIndex := module.clientIndex
        let outcome := surroundings.connect state.turn clientIndex
        let trace := state.trace ++ [.connect clientIndex (isEstablished outcome)]
        match initializeModule surroundings state module with
        | (module, .error exception) => { state with module, trace, ending := .raised exception }
        | (module, .ok true) => finish surroundings { state with module, trace }
        | (module, .ok false) =>
            if clientIndex = clients.length - 1 then
              { module, trace := trace ++ [.sleep clientIndex], turn := state.turn + 1, ending := .running }
            else finish surroundings { state with module, trace }
  | _ => state

end Reconnecting

def reconnect (module : IccpImportModule) (turns : Nat) : Reconnecting :=
  (Reconnecting.step clients surroundings)^[turns] (start clients module)

end Reconnect

end ServiceHost.DataExchange.IccpReconnect
