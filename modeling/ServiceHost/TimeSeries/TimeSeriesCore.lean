import Mathlib.Data.Prod.Lex
import ServiceHost.Library.Groups
import ServiceHost.Library.Outcome
import ServiceHost.Library.SortedEntries
import ServiceHost.Time.RegionalCalendarCore

/-!
`TimeSeries`: points with a value and a quality, sorted by `LimitTime`, and the
operations that build one series from another. The values are doubles; their
arithmetic is a parameter, since nothing below depends on rounding. Of the
attributes of a series, those that no operation reads are left out.
-/

namespace ServiceHost

open Library

inductive Limit
  | point
  | leftLimit
  | rightLimit
deriving DecidableEq, Repr

structure LimitTime where
  time : UtcTime
  limit : Limit
deriving DecidableEq

namespace LimitTime

def compareTo (time other : LimitTime) : Except SystemException Int :=
  if time.time ≠ other.time then pure (if time.time < other.time then -1 else 1)
  else if time.limit = other.limit then pure 0
  else if time.limit = .leftLimit then pure (-1)
  else if time.limit = .rightLimit then pure 1
  else if other.limit = .leftLimit then pure 1
  else if other.limit = .rightLimit then pure (-1)
  else throw (.application "This is supposed to be unreachable code.")

def rank : Limit → Nat
  | .leftLimit => 0
  | .point => 1
  | .rightLimit => 2

/-- The sorted points are ordered by time and then by limit. -/
instance : LinearOrder LimitTime :=
  LinearOrder.lift' (fun time => toLex (time.time, rank time.limit)) (by
    rintro ⟨time, limit⟩ ⟨other, otherLimit⟩ same
    simp only [EmbeddingLike.apply_eq_iff_eq, Prod.mk.injEq] at same
    obtain ⟨rfl, sameRank⟩ := same
    cases limit <;> cases otherLimit <;> simp_all [rank])

theorem lt_iff {time other : LimitTime} :
    time < other ↔ time.time < other.time ∨ time.time = other.time ∧ rank time.limit < rank other.limit :=
  Prod.Lex.toLex_lt_toLex

end LimitTime

/-- The arithmetic of doubles that the operators use. A conversion to `int` and a
rounding to decimals are what the runtime makes of them; only rounding throws. -/
class DoubleArithmetic (D : Type) where
  zero : D
  one : D
  add : D → D → D
  sub : D → D → D
  mul : D → D → D
  ge : D → D → Bool
  ne : D → D → Bool
  pow10 : Int → D
  toInt : D → Int
  ofInt : Int → D
  round : D → Int → Except SystemException D

def int (value : Int) : Int := value.bmod 0x100000000

/-- Doubles that hold whole numbers, which are exact while they are small. -/
instance : DoubleArithmetic Int where
  zero := 0
  one := 1
  add a b := a + b
  sub a b := a - b
  mul a b := a * b
  ge a b := a ≥ b
  ne a b := a ≠ b
  pow10 exponent := 10 ^ exponent.toNat
  toInt := int
  ofInt := id
  round value _ := pure value

/-- Division of two `int`s. -/
def intDiv (value divisor : Int) : Except SystemException Int :=
  if divisor = 0 then throw .divideByZero
  else if value = -0x80000000 ∧ divisor = -1 then throw .overflow
  else pure (value.tdiv divisor)

structure Quality where
  exposedQuality : BitVec 32
  internalQuality : BitVec 32
deriving DecidableEq

namespace Quality

def setModified (quality : Quality) : Quality :=
  { quality with internalQuality := quality.internalQuality ||| 1#32 }

def isModified (quality : Quality) : Bool := quality.internalQuality.getLsbD 0

end Quality

structure VQ (D : Type) where
  value : D
  quality : Quality
deriving DecidableEq

structure Tvq (D : Type) where
  limitTime : LimitTime
  vq : VQ D
deriving DecidableEq

namespace Tvq

variable {D : Type}

def time (tvq : Tvq D) : UtcTime := tvq.limitTime.time

def value (tvq : Tvq D) : D := tvq.vq.value

def withValue (tvq : Tvq D) (value : D) : Tvq D :=
  { tvq with vq := ⟨value, tvq.vq.quality.setModified⟩ }

def setModified (tvq : Tvq D) : Tvq D :=
  { tvq with vq := ⟨tvq.vq.value, tvq.vq.quality.setModified⟩ }

end Tvq

abbrev Entry (D : Type) := LimitTime × VQ D

structure TimeSeries (D : Type) where
  name : Option String
  resolution : TimeResolution
  points : SortedEntries LimitTime (VQ D)

namespace TimeSeries

variable {D : Type}

/-- What `foreach` over a series visits: a fresh point for each entry, in order. -/
def tvqs (ts : TimeSeries D) : List (Tvq D) := ts.points.entries.map fun entry => ⟨entry.1, entry.2⟩

def times (ts : TimeSeries D) : List LimitTime := ts.points.entries.map Prod.fst

def setValue (ts : TimeSeries D) (tvq : Tvq D) (setModified : Bool) : TimeSeries D :=
  let tvq := if setModified then tvq.setModified else tvq
  { ts with points := ts.points.set tvq.limitTime tvq.vq }

/-- `Clone` without data. -/
def cloneEmpty (ts : TimeSeries D) : TimeSeries D := { ts with points := SortedEntries.empty }

end TimeSeries

namespace SplitterOperation

variable {D S : Type}

/-- Sets the point in the series of that name, which is cloned from the source
when it is not yet in the list. -/
def setIn (source : TimeSeries D) (destinationName : Option String) (tvq : Tvq D) :
    List (TimeSeries D) → List (TimeSeries D)
  | [] => [{ source.cloneEmpty with name := destinationName }.setValue tvq false]
  | ts :: rest =>
      if ts.name = destinationName then ts.setValue tvq false :: rest
      else ts :: setIn source destinationName tvq rest

/-- The loop of `Run`. An operator finds the name for a point and may change its own state. -/
def runFrom (findDestinationName : S → Tvq D → Except SystemException (Option String × S))
    (source : TimeSeries D) :
    List (Tvq D) → S → List (TimeSeries D) → Except SystemException (List (TimeSeries D) × S)
  | [], state, destinations => pure (destinations, state)
  | tvq :: rest, state, destinations => do
      let (destinationName, state) ← findDestinationName state tvq
      runFrom findDestinationName source rest state (setIn source destinationName tvq destinations)

def run (findDestinationName : S → Tvq D → Except SystemException (Option String × S))
    (source : TimeSeries D) (state : S) : Except SystemException (List (TimeSeries D) × S) :=
  runFrom findDestinationName source source.tvqs state []

end SplitterOperation

section Operators

variable {D : Type}

/-- The loop that the binary and the unary operation share: every calculated
point is set, as modified or as it is. -/
def setCalculated (calculate : Tvq D → Except SystemException (Tvq D × Bool)) :
    List (Tvq D) → TimeSeries D → Except SystemException (TimeSeries D)
  | [], result => pure result
  | tvq :: rest, result => do
      let (calculated, modified) ← calculate tvq
      setCalculated calculate rest (result.setValue calculated modified)

def BinaryOperation.run (ts : TimeSeries D) (calculate : Tvq D → Except SystemException (Tvq D)) :
    Except SystemException (TimeSeries D) :=
  setCalculated (fun tvq => do
    let tvqRef ← calculate tvq
    return (tvqRef, tvqRef.vq.quality.isModified)) ts.tvqs ts.cloneEmpty

def UnaryOperation.run (ts : TimeSeries D) (calculate : Tvq D → Tvq D) :
    Except SystemException (TimeSeries D) :=
  setCalculated (fun tvq => return (calculate tvq, true)) ts.tvqs ts.cloneEmpty

variable [DoubleArithmetic D]

open DoubleArithmetic

def TruncateOperator.calculate (digits decimals : Int) (tvq : Tvq D) : Except SystemException (Tvq D) := do
  let tvq ←
    if digits > 0 then
      let limit : D := pow10 digits
      if ge tvq.value limit then do
        let removePart ← intDiv (toInt tvq.value) (toInt limit)
        let remove := int (removePart * toInt limit)
        pure (tvq.withValue (sub tvq.value (ofInt remove)))
      else pure tvq
    else pure tvq
  if decimals > 0 then do
    let newValue ← round tvq.value decimals
    pure (if ne newValue tvq.value then tvq.withValue newValue else tvq)
  else pure tvq

def ScaleOperator.calculate (factor : D) (tvq : Tvq D) : Tvq D := tvq.withValue (mul tvq.value factor)

def TranslateOperator.calculate (offset : D) (tvq : Tvq D) : Tvq D := tvq.withValue (add tvq.value offset)

end Operators

end ServiceHost
