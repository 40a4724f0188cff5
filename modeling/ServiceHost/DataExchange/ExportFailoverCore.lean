import Mathlib.Data.List.Basic

/-!
The enqueue loop of the export connector, with the settings that tell it which machine of a list
is the current one. The index into the list is advanced here and wrapped where it is read.
-/

namespace ServiceHost.DataExchange.ExportFailover

/-- A `COMException`. Its `HResult` is that of a failure. -/
structure ComException where
  hresult : Int
  failure : hresult < 0

/-- An entry of the list, with what comes of connecting to the machine, asking for the state of the
service, and enqueueing the message there. -/
structure Machine where
  name : String
  connect : Option ComException
  isRunning : Bool
  enqueue : Option ComException

/-- The names that `MsmqMachineExport` gives, with what is behind each of them. -/
structure Machines where
  first : Machine
  rest : List Machine

namespace Machines

variable (machines : Machines)

def entries : List Machine := machines.first :: machines.rest

def count : Nat := machines.rest.length + 1

def entry (index : Nat) : Machine := machines.entries.getD index machines.first

end Machines

structure Configuration where
  checkMachineLogon : Bool
  checkServiceStatus : Bool

/-- `DataExchangeSettingsFactory`. -/
structure SettingsFactory where
  exportIndex : Nat
  currentSettings : Option String

namespace SettingsFactory

/-- `ExportIndex = value` -/
def setExportIndex (value : Nat) : SettingsFactory := ⟨value, none⟩

/-- `GetSettings`, with the name of the export machine. One name alone has no separator. -/
def getSettings (machines : Machines) (factory : SettingsFactory) : String × SettingsFactory :=
  match factory.currentSettings with
  | some settings => (settings, factory)
  | none =>
      if machines.count > 1 then
        let factory := if factory.exportIndex ≥ machines.count then setExportIndex 0 else factory
        let name := (machines.entry factory.exportIndex).name
        (name, { factory with currentSettings := some name })
      else (machines.first.name, { factory with currentSettings := some machines.first.name })

def incrementExportMachineIndex (factory : SettingsFactory) : SettingsFactory :=
  setExportIndex (factory.exportIndex + 1)

def position (machines : Machines) (factory : SettingsFactory) : Nat :=
  if machines.count > 1 then factory.exportIndex else 0

end SettingsFactory

/-- The variables of the loop, with the entries that were tried and those the message was put on. -/
structure Loop where
  factory : SettingsFactory
  enqueued : Bool
  retVal : Int
  tried : List Nat
  sent : List Nat

section Turn

variable (machines : Machines) (configuration : Configuration) (machineName : String)

/-- The index is advanced, and the loop is left when the machine is the one that it began with. -/
def Loop.next (exitCode : Int) (loop : Loop) : Loop :=
  let settings := loop.factory.incrementExportMachineIndex.getSettings machines
  if machineName = settings.1 then { loop with factory := settings.2, enqueued := true, retVal := exitCode }
  else { loop with factory := settings.2 }

def Loop.turn (loop : Loop) : Loop :=
  if loop.enqueued then loop
  else
    let factory := (loop.factory.getSettings machines).2
    let position := factory.position machines
    let machine := machines.entry position
    let loop := { loop with factory, tried := loop.tried ++ [position] }
    let checked :=
      if configuration.checkMachineLogon then
        match machine.connect with
        | some exception => some exception.hresult
        | none => if configuration.checkServiceStatus && !machine.isRunning then some 1 else none
      else none
    match checked with
    | some exitCode => loop.next machines machineName exitCode
    | none =>
        match machine.enqueue with
        | some exception => loop.next machines machineName exception.hresult
        | none => { loop with enqueued := true, retVal := 0, sent := loop.sent ++ [position] }

def Loop.run (loop : Loop) : Nat → Loop
  | 0 => loop
  | turns + 1 => (loop.run turns).turn machines configuration machineName

def start (index : Nat) : String × Loop :=
  let settings := (SettingsFactory.setExportIndex index).getSettings machines
  (settings.1, { factory := settings.2, enqueued := false, retVal := -1, tried := [], sent := [] })

def connector (index turns : Nat) : Loop :=
  (start machines index).2.run machines configuration (start machines index).1 turns

end Turn

end ServiceHost.DataExchange.ExportFailover
