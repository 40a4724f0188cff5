import ServiceHost.Library.Outcome
import ServiceHost.Time.UtcTime

/-!
On-demand metering orders: `MeteringOrderLogic.SplitOnDemandMeteringOrders` fills in what
an order needs to be sent, and `MarkSentOnDemandMeteringOrders` marks the orders in the
database. What the database answers is given.
-/

namespace ServiceHost.Metering

open Library

inductive SendingStatus
  | ok
  | missingImpdef
  | importFrequencyIsNull
  | incorrectProtocol
  | missingMeasurepoint
  | missingRegister
  | splitted
  | split
  | splitMissingRegister
  | failed
deriving DecidableEq, Repr

inductive Status
  | registeredMdms
  | forwardedMss
  | forwardMssFailed
  | exportedGs2
  | exportGs2Failed
deriving DecidableEq, Repr

/-- An order as an object, and the numbers of its row. A part of an order that is split is
an object of its own without a row. -/
structure OrderKey where
  reference : Option Nat
  timsKey : Int
  opunKey : Int
  seqno : Int
deriving DecidableEq, Repr

structure ImportDefinition where
  tsCode : String
  validPeriod : TimePeriod
deriving DecidableEq

structure MeteringOrderOnDemand (P R : Type) where
  key : OrderKey
  measurePoint : Option P
  importDefinition : Option ImportDefinition
  register : Option R
  original : Option OrderKey
  sendStatus : SendingStatus

structure MeteringOrderOnDemandCollection (P R : Type) where
  dateOfTransfer : UtcTime
  dataFromTime : UtcTime
  dataToTime : UtcTime
  reason : Int
  meteringOrdersOnDemand : List (MeteringOrderOnDemand P R)

structure Lookups (P R : Type) where
  measurePointForTimeSeries : Int → UtcTime → Option P
  fetchImportDefinitions : Int → UtcTime → UtcTime → Option (List ImportDefinition)
  registerForTimeSeries : String → P → UtcTime → Option R

variable {P R : Type}

def newOrder (key : OrderKey) : MeteringOrderOnDemand P R where
  key := key
  measurePoint := none
  importDefinition := none
  register := none
  original := none
  sendStatus := .ok

def newPart (measurePoint : P) (importDefinition : ImportDefinition) (register : Option R) (original : OrderKey)
    (sendStatus : SendingStatus) : MeteringOrderOnDemand P R where
  key := ⟨none, 0, 0, 0⟩
  measurePoint := some measurePoint
  importDefinition := some importDefinition
  register := register
  original := some original
  sendStatus := sendStatus

section Split

variable (lookups : Lookups P R) (moodCol : MeteringOrderOnDemandCollection P R)

/-- The collections of the parts of one order. That of a part without register is not kept. -/
def splitParts (measurePoint : P) (original : OrderKey) :
    List ImportDefinition → Except SystemException (List (MeteringOrderOnDemandCollection P R))
  | [] => .ok []
  | impDef :: rest => do
      match ← impDef.validPeriod.intersection ⟨moodCol.dataFromTime, moodCol.dataToTime⟩ with
      | none => .error .nullReference
      | some period =>
          let cols ← splitParts measurePoint original rest
          match lookups.registerForTimeSeries impDef.tsCode measurePoint moodCol.dataFromTime with
          | none => .ok cols
          | some register =>
              .ok ({ dateOfTransfer := moodCol.dateOfTransfer
                     dataFromTime := period.fromTime
                     dataToTime := period.untilTime
                     reason := moodCol.reason
                     meteringOrdersOnDemand := [newPart measurePoint impDef (some register) original .split] } :: cols)

def splitOrder (mood : MeteringOrderOnDemand P R) :
    Except SystemException (MeteringOrderOnDemand P R × List (MeteringOrderOnDemandCollection P R)) :=
  match lookups.measurePointForTimeSeries mood.key.timsKey moodCol.dataFromTime with
  | none => .ok ({ mood with sendStatus := .missingMeasurepoint }, [])
  | some measurePoint =>
      match lookups.fetchImportDefinitions mood.key.timsKey moodCol.dataFromTime moodCol.dataToTime with
      | none => .ok ({ mood with sendStatus := .missingImpdef }, [])
      | some [] => .ok (mood, [])
      | some [impDef] =>
          match lookups.registerForTimeSeries impDef.tsCode measurePoint moodCol.dataFromTime with
          | none => .ok ({ mood with sendStatus := .missingRegister }, [])
          | some register =>
              .ok ({ mood with
                measurePoint := some measurePoint
                importDefinition := some impDef
                register := some register }, [])
      | some impDefs => do
          let cols ← splitParts lookups moodCol measurePoint mood.key impDefs
          .ok ({ mood with sendStatus := .splitted }, cols)

def splitOrders : List (MeteringOrderOnDemand P R) →
    Except SystemException (List (MeteringOrderOnDemand P R) × List (MeteringOrderOnDemandCollection P R))
  | [] => .ok ([], [])
  | mood :: rest => do
      let (mood, cols) ← splitOrder lookups moodCol mood
      let (rest, others) ← splitOrders rest
      .ok (mood :: rest, cols ++ others)

def splitCollections : List (MeteringOrderOnDemandCollection P R) →
    Except SystemException
      (List (MeteringOrderOnDemandCollection P R) × List (MeteringOrderOnDemandCollection P R))
  | [] => .ok ([], [])
  | moodCol :: rest => do
      let (orders, cols) ← splitOrders lookups moodCol moodCol.meteringOrdersOnDemand
      let (rest, others) ← splitCollections rest
      .ok ({ moodCol with meteringOrdersOnDemand := orders } :: rest, cols ++ others)

def splitOnDemandMeteringOrders (moodCollections : List (MeteringOrderOnDemandCollection P R)) :
    Except SystemException (List (MeteringOrderOnDemandCollection P R)) := do
  let (collections, added) ← splitCollections lookups moodCollections
  .ok (collections ++ added)

end Split

section Mark

/-- The orders of the two lists; `null` for the original of an order that has none. -/
structure MarkLists where
  ok : List (Option OrderKey)
  failed : List (Option OrderKey)

def addMark (lists : MarkLists) (mood : MeteringOrderOnDemand P R) : MarkLists :=
  match mood.sendStatus with
  | .ok => { lists with ok := lists.ok ++ [some mood.key] }
  | .split => if mood.original ∈ lists.ok then lists else { lists with ok := lists.ok ++ [mood.original] }
  | .splitMissingRegister =>
      if mood.original ∈ lists.failed then lists else { lists with failed := lists.failed ++ [mood.original] }
  | _ => { lists with failed := lists.failed ++ [some mood.key] }

def markNewOnDemandMeteringOrders (orders : List (Option OrderKey)) (status : Status) :
    Except SystemException (List (OrderKey × Status)) :=
  orders.mapM fun order =>
    match order with
    | none => .error .nullReference
    | some key => .ok (key, status)

def markSentOnDemandMeteringOrders (collections : List (MeteringOrderOnDemandCollection P R)) :
    Except SystemException (List (OrderKey × Status)) := do
  let orders := collections.flatMap MeteringOrderOnDemandCollection.meteringOrdersOnDemand
  let lists := orders.foldl addMark ⟨[], []⟩
  let forwarded ← markNewOnDemandMeteringOrders lists.ok .forwardedMss
  let failed ← markNewOnDemandMeteringOrders lists.failed .forwardMssFailed
  .ok (forwarded ++ failed)

def splitAndMark (lookups : Lookups P R) (moodCollections : List (MeteringOrderOnDemandCollection P R)) :
    Except SystemException (List (OrderKey × Status)) := do
  let collections ← splitOnDemandMeteringOrders lookups moodCollections
  markSentOnDemandMeteringOrders collections

end Mark

end ServiceHost.Metering
