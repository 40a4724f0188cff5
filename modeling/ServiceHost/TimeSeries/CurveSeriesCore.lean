import Mathlib.Algebra.Order.Field.Rat
import ServiceHost.TimeSeries.QualityCore
import ServiceHost.TimeSeries.TimeSeriesCore

/-!
Reading a series at a time, and cloning it. The values are rational numbers. Series are
objects that refer to the table of their points, so that two of them might share one; the
entries of a table are copied whenever they are read.
-/

namespace ServiceHost

open Library

structure CurveType where
  number : BitVec 16
deriving DecidableEq, Repr

namespace CurveType

def step : CurveType := ⟨-1⟩
def linear : CurveType := ⟨0⟩

end CurveType

/-- A series with the attributes that reading and cloning work on. -/
structure CurveSeries extends TimeSeries ℚ where
  description : Option String
  curveType : CurveType
  unit : Option String

def interpolate (time : UtcTime) (tvq1 tvq2 : Tvq ℚ) : Except SystemException ℚ :=
  let difference := long (tvq2.time.ticks - tvq1.time.ticks)
  if difference = 0 then throw .divideByZero
  else pure (tvq1.value + (tvq2.value - tvq1.value) * long (time.ticks - tvq1.time.ticks) / difference)

def countUpTo (time : LimitTime) : List (Tvq ℚ) → Nat
  | [] => 0
  | tvq :: rest => if tvq.limitTime ≤ time then countUpTo time rest + 1 else 0

namespace CurveSeries

variable (ts : CurveSeries)

def indexByTime (time : LimitTime) : Int := (countUpTo time ts.tvqs : Int) - 1

def itemByIndex (index : Int) : Except SystemException (Tvq ℚ) :=
  match ts.tvqs[index.toNat]? with
  | some tvq => if 0 ≤ index then pure tvq else throw .argumentOutOfRange
  | none => throw .argumentOutOfRange

def getTvq (limitTime : LimitTime) : Except SystemException (Option (Tvq ℚ)) :=
  match ts.points.find? limitTime with
  | some vq => pure (some ⟨limitTime, vq⟩)
  | none => do
      let index := ts.indexByTime limitTime
      if index = -1 then pure none
      else if ts.curveType = .step ∨ index = ts.points.count - 1 then do
        let tvq ← ts.itemByIndex index
        pure (some ⟨limitTime, tvq.vq⟩)
      else do
        let value ← interpolate limitTime.time (← ts.itemByIndex index) (← ts.itemByIndex (index + 1))
        pure (some ⟨limitTime, ⟨value, Quality.ofInt 0⟩⟩)

end CurveSeries

/-- A series object. Its points are in the table that it refers to. -/
structure SeriesObject where
  name : Option String
  resolution : TimeResolution
  description : Option String
  curveType : CurveType
  unit : Option String
  points : Nat

structure SeriesHeap where
  objects : List SeriesObject
  tables : List (SortedEntries LimitTime (VQ ℚ))
  allocated : ∀ object ∈ objects, object.points < tables.length
  separate : (objects.map SeriesObject.points).Nodup

namespace SeriesHeap

variable (heap : SeriesHeap)

def read (object : SeriesObject) : CurveSeries where
  name := object.name
  resolution := object.resolution
  points := heap.tables.getD object.points SortedEntries.empty
  description := object.description
  curveType := object.curveType
  unit := object.unit

/-- `SetValue` of an object writes its table. -/
def setValue (object : SeriesObject) (tvq : Tvq ℚ) (setModified : Bool) : SeriesHeap where
  objects := heap.objects
  tables := heap.tables.modify object.points fun table =>
    let tvq := if setModified then tvq.setModified else tvq
    table.set tvq.limitTime tvq.vq
  allocated := by
    intro other member
    rw [List.length_modify]
    exact heap.allocated other member
  separate := heap.separate

def newObject (name : Option String) (resolution : TimeResolution) : SeriesObject where
  name := name
  resolution := resolution
  description := none
  curveType := .linear
  unit := none
  points := heap.tables.length

/-- The object that `Clone` makes. -/
def clonedObject (object : SeriesObject) : SeriesObject :=
  { heap.newObject object.name object.resolution with description := object.description, unit := object.unit }

def setAll (tvqs : List (Tvq ℚ)) (table : SortedEntries LimitTime (VQ ℚ)) : SortedEntries LimitTime (VQ ℚ) :=
  tvqs.foldl (fun table tvq => table.set tvq.limitTime tvq.vq) table

/-- `Clone(true)`: the points are set in the new table. -/
def clone (object : SeriesObject) : SeriesHeap where
  objects := heap.objects ++ [heap.clonedObject object]
  tables := heap.tables ++ [setAll (heap.read object).tvqs SortedEntries.empty]
  allocated := by
    intro other member
    rw [List.length_append, List.length_singleton]
    rcases List.mem_append.mp member with old | new
    · exact Nat.lt_succ_of_lt (heap.allocated other old)
    · rw [List.mem_singleton.mp new]
      exact Nat.lt_succ_self heap.tables.length
  separate := by
    rw [List.map_append, List.map_singleton, List.nodup_append]
    refine ⟨heap.separate, List.nodup_singleton _, ?_⟩
    intro table known other new same
    obtain ⟨object, member, rfl⟩ := List.mem_map.mp known
    rw [same, List.mem_singleton.mp new] at known
    exact absurd (same.trans (List.mem_singleton.mp new)) (Nat.ne_of_lt (heap.allocated object member))

end SeriesHeap

end ServiceHost
