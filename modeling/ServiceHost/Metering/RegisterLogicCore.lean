import ServiceHost.Library.Program
import ServiceHost.Metering.RegisterCore

/-!
`RegisterLogic.MergeRegisters`: the registers of a message are merged into those that a
component has. Registers are objects that the merge changes, and arrays hold references to
them; what goes to the database is kept as a list of commands.
-/

namespace ServiceHost.Metering

open Library

/-- What the database is told. An update takes the values that the object has at the time. -/
inductive Command
  | update (register : Nat) (values : Register)
  | finish (register : Nat)

/-- The objects, the commands so far, and the local `alOrigFound`. -/
structure Heap where
  objects : Nat → Register
  commands : List Command
  alOrigFound : List Nat

abbrev Objects : Type → Type := Program Heap SystemException

namespace RegisterData

def keyed (relatedComponent : Int) (register : Register) : Register :=
  if register.key = 0 then register.write Register.Field.key relatedComponent else register

def update (register : Nat) (relatedComponent : Int) : Objects Unit := do
  Program.change fun heap =>
    { heap with objects := Function.update heap.objects register (keyed relatedComponent (heap.objects register)) }
  Program.change fun heap =>
    { heap with commands := heap.commands ++ [.update register (heap.objects register)] }

def finish (register : Option Nat) : Objects Unit :=
  match register with
  | none => Program.raise .nullReference
  | some register => do
      let values ← Program.read fun heap => heap.objects register
      if values.key = 0 ∨ values.registerNumber = 0 then
        Program.raise (.argument "RegisterFinish: Register without Key or RegisterNumber")
      else Program.change fun heap => { heap with commands := heap.commands ++ [.finish register] }

end RegisterData

/-- `regOrig.Merge(regExt)`, on the objects. -/
def mergeInto (regOrig regExt : Nat) : Objects Bool := do
  let merged ← Program.read fun heap => Register.merge (heap.objects regOrig) (heap.objects regExt)
  Program.change fun heap => { heap with objects := Function.update heap.objects regOrig merged.1 }
  return merged.2

def mergeAndUpdate (regOrig regExt : Nat) (relatedComponent : Int) : Objects Unit := do
  let edited ← mergeInto regOrig regExt
  if edited then
    RegisterData.update regOrig relatedComponent

def updateExisting (regExt : Nat) (relatedComponent : Int) : List (Option Nat) → Objects Bool
  | [] => return false
  | none :: _ => Program.raise .nullReference
  | some regOrig :: rest => do
      let objects ← Program.read fun heap => heap.objects
      if (objects regExt).registerNumber = (objects regOrig).registerNumber then
        mergeAndUpdate regOrig regExt relatedComponent
        Program.change fun heap => { heap with alOrigFound := heap.alOrigFound ++ [regOrig] }
        return true
      else updateExisting regExt relatedComponent rest

def addRegister (regExt : Nat) (relatedComponent : Int) (timeOfUpdate : UtcTime) : Objects Unit := do
  Program.change fun heap =>
    { heap with
      objects := Function.update heap.objects regExt
        (((heap.objects regExt).set Register.Field.validFromDate timeOfUpdate).set
          Register.Field.validToDate UtcTime.maxValue) }
  RegisterData.update regExt relatedComponent

def mergeTurn (registersOrig : Option (List (Option Nat))) (relatedComponent : Int) (timeOfUpdate : UtcTime)
    (regExt : Option Nat) : Objects Unit :=
  match registersOrig, regExt with
  | none, _ => Program.raise .nullReference
  | some _, none => Program.raise .nullReference
  | some registersOrig, some regExt => do
      let bExtFound ← updateExisting regExt relatedComponent registersOrig
      if bExtFound then
        return
      else addRegister regExt relatedComponent timeOfUpdate

/-- `alOrigFound.Contains(regOrig)` asks each object of the list whether it equals the register. -/
def isFound (heap : Heap) : Option Nat → Bool
  | none => false
  | some regOrig => heap.alOrigFound.any fun item => (heap.objects item).equals (heap.objects regOrig)

def disconnectTurn (regOrig : Option Nat) : Objects Unit := do
  let found ← Program.read fun heap => isFound heap regOrig
  if found then
    return
  else RegisterData.finish regOrig

def forEachOf (array : Option (List (Option Nat))) (turn : Option Nat → Objects Unit) : Objects Unit :=
  match array with
  | none => pure ()
  | some elements => Program.forEach turn elements

def mergeRegisters (registersExt registersOrig : Option (List (Option Nat))) (relatedComponent : Int)
    (timeOfUpdate : UtcTime) : Objects Unit := do
  Program.change fun heap => { heap with alOrigFound := [] }
  forEachOf registersExt (mergeTurn registersOrig relatedComponent timeOfUpdate)
  forEachOf registersOrig disconnectTurn

end ServiceHost.Metering
