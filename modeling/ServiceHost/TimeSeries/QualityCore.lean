import ServiceHost.Library.WordFields
import ServiceHost.TimeSeries.TimeSeriesCore

/-!
The sections of the two quality words with their setters and getters, and the status
string. An `int` is a word of 32 bits, also as the value of a method of correction or
validation, since a cast makes any `int` one.
-/

namespace ServiceHost

open Library

namespace BitVector32

structure Section where
  mask : BitVec 32
  offset : Nat
deriving DecidableEq, Repr

def createMaskFromHighValue (highValue : Nat) : BitVec 32 := BitVec.ofNat 32 (2 ^ (Nat.log2 highValue + 1) - 1)

def countBitsSet : Nat → BitVec 32 → Nat
  | 0, _ => 0
  | bits + 1, mask => if mask.getLsbD 0 then countBitsSet bits (mask >>> 1) + 1 else 0

def createFirst (maxValue : Nat) : Section := ⟨createMaskFromHighValue maxValue, 0⟩

def createSection (maxValue : Nat) (previous : Section) : Section :=
  ⟨createMaskFromHighValue maxValue, previous.offset + countBitsSet 16 previous.mask⟩

def get (data : BitVec 32) (bits : Section) : BitVec 32 := readField bits.mask bits.offset data

def set (data : BitVec 32) (bits : Section) (value : BitVec 32) : BitVec 32 :=
  writeField bits.mask bits.offset data value

end BitVector32

/-- A method of correction is an `int`. -/
abbrev CorrectionMethods := BitVec 32

namespace CorrectionMethods

def none : CorrectionMethods := 0
def constant : CorrectionMethods := 1
def copy : CorrectionMethods := 2
def interpolate : CorrectionMethods := 3
def extrapolate : CorrectionMethods := 4
def mean : CorrectionMethods := 5
def energy : CorrectionMethods := 8
def meanDeltaT : CorrectionMethods := 9
def meterSum : CorrectionMethods := 10

end CorrectionMethods

/-- A method of validation is an `int`. -/
abbrev ValidationMethods := BitVec 32

namespace ValidationMethods

def none : ValidationMethods := 0
def absoluteLimit : ValidationMethods := 1
def deltaLimit : ValidationMethods := 2
def deltaEpsilon : ValidationMethods := 3
def repeatValue : ValidationMethods := 4
def controlMeter : ValidationMethods := 5
def meterSum : ValidationMethods := 6
def controlHighTariffPeriod : ValidationMethods := 28
def controlTariff : ValidationMethods := 29
def controlAccessibleEnergy : ValidationMethods := 30
def controlImport : ValidationMethods := 31

end ValidationMethods

namespace Quality

open BitVector32

def correctionMethodSection : Section := createFirst 31
def validationMethodSection : Section := createSection 31 correctionMethodSection
def customerMethodSection : Section := createSection 31 validationMethodSection
def deletedSection : Section := createSection 7 customerMethodSection
def inspectedSection : Section := createSection 1 deletedSection
def defaultSection : Section := createSection 1 inspectedSection
def virtualPointSection : Section := createSection 1 defaultSection
def estimatedSection : Section := createSection 1 virtualPointSection
def moveFlagSection : Section := createSection 1 estimatedSection
def acceptedSection : Section := createSection 1 moveFlagSection
def lockedSection : Section := createSection 1 acceptedSection
def suspectSection : Section := createSection 1 lockedSection
def missingSection : Section := createSection 1 suspectSection
def manualSection : Section := createSection 1 missingSection
def correctedSection : Section := createSection 1 manualSection
def validatedSection : Section := createSection 1 correctedSection
def notOKSection : Section := createSection 1 validatedSection
def modifiedSection : Section := createFirst 1

variable (quality : Quality)

def ofInt (quality : BitVec 32) : Quality := ⟨quality, 0⟩

def setExposedSection (bits : Section) (value : BitVec 32) : Quality :=
  { quality with exposedQuality := set quality.exposedQuality bits value }

def setInternalSection (bits : Section) (value : BitVec 32) : Quality :=
  { quality with internalQuality := set quality.internalQuality bits value }

/-- `Convert.ToInt32` of a flag. -/
def flagToInt (value : Bool) : BitVec 32 := if value then 1 else 0

def setExposedFlag (bits : Section) (value : Bool) : Quality := quality.setExposedSection bits (flagToInt value)

def setInternalFlag (bits : Section) (value : Bool) : Quality := quality.setInternalSection bits (flagToInt value)

/-- `Convert.ToBoolean` of the section. -/
def getExposedFlag (bits : Section) : Bool := get quality.exposedQuality bits ≠ 0

def getInternalFlag (bits : Section) : Bool := get quality.internalQuality bits ≠ 0

def setCorrection (correctionMethod : CorrectionMethods) : Quality :=
  quality.setExposedSection correctionMethodSection correctionMethod

def setValidation (validationMethod : ValidationMethods) : Quality :=
  quality.setExposedSection validationMethodSection validationMethod

def setCustom (customStatus : BitVec 32) : Quality := quality.setExposedSection customerMethodSection customStatus

def setEstimated (isEstimated : Bool) : Quality := quality.setExposedFlag estimatedSection isEstimated
def setAccepted (isAccepted : Bool) : Quality := quality.setExposedFlag acceptedSection isAccepted
def setLocked (isLocked : Bool) : Quality := quality.setExposedFlag lockedSection isLocked
def setSuspect (isSuspect : Bool) : Quality := quality.setExposedFlag suspectSection isSuspect
def setMissing (isMissing : Bool) : Quality := quality.setExposedFlag missingSection isMissing
def setManual (isManual : Bool) : Quality := quality.setExposedFlag manualSection isManual
def setCorrected (isCorrected : Bool) : Quality := quality.setExposedFlag correctedSection isCorrected
def setValidated (isValidated : Bool) : Quality := quality.setExposedFlag validatedSection isValidated
def setNotOK (isNotOK : Bool) : Quality := quality.setExposedFlag notOKSection isNotOK

/-- `SetModified`; `setModified` is its case of a flag that is set. -/
def setModifiedTo (isModified : Bool) : Quality := quality.setInternalFlag modifiedSection isModified

def setDefault (isDefault : Bool) : Quality := quality.setInternalFlag defaultSection isDefault

/-- As for `setDefault`. -/
def setVirtualPoint (isVirtualPoint : Bool) : Quality := quality.setInternalFlag virtualPointSection isVirtualPoint

def correction : CorrectionMethods := get quality.exposedQuality correctionMethodSection
def validation : ValidationMethods := get quality.exposedQuality validationMethodSection
def custom : BitVec 32 := get quality.exposedQuality customerMethodSection

def isEstimated : Bool := quality.getExposedFlag estimatedSection
def isAccepted : Bool := quality.getExposedFlag acceptedSection
def isLocked : Bool := quality.getExposedFlag lockedSection
def isSuspect : Bool := quality.getExposedFlag suspectSection
def isMissing : Bool := quality.getExposedFlag missingSection
def isManual : Bool := quality.getExposedFlag manualSection
def isCorrected : Bool := quality.getExposedFlag correctedSection
def isValidated : Bool := quality.getExposedFlag validatedSection
def isNotOK : Bool := quality.getExposedFlag notOKSection
def isModifiedFlag : Bool := quality.getInternalFlag modifiedSection
def isDefault : Bool := quality.getExposedFlag defaultSection
def isVirtualPoint : Bool := quality.getExposedFlag virtualPointSection

def flagged (bits : Section) : Quality := (ofInt 0).setExposedFlag bits true

def accepted : Quality := flagged acceptedSection
def locked : Quality := flagged lockedSection
def suspect : Quality := flagged suspectSection
def missing : Quality := flagged missingSection
def manual : Quality := flagged manualSection
def corrected : Quality := flagged correctedSection
def validated : Quality := flagged validatedSection
def notOK : Quality := flagged notOKSection

/-- The operator `|`. -/
def union (quality other : Quality) : Quality :=
  ⟨quality.exposedQuality ||| other.exposedQuality, quality.internalQuality ||| other.internalQuality⟩

/-- `ToString("D2")` of a number. -/
def toStringD2 (value : BitVec 32) : List Char :=
  let digits := (Nat.toDigits 10 value.toInt.natAbs).leftpad 2 '0'
  if value.toInt < 0 then '-' :: digits else digits

/-- `Remove` of the text builder. -/
def removeAt (startIndex length : Nat) (text : List Char) : List Char :=
  text.take startIndex ++ text.drop (startIndex + length)

/-- `Insert` of the text builder. -/
def insertAt (index : Nat) (value text : List Char) : List Char := text.take index ++ value ++ text.drop index

/-- `Remove` and `Insert` at the same place, when the condition holds. -/
def replaceWhen (condition : Bool) (index length : Nat) (value text : List Char) : List Char :=
  if condition then insertAt index value (removeAt index length text) else text

def shows (bits : Section) : Bool := decide (0 < (get quality.exposedQuality bits).toInt)

/-- The custom method is inserted without removing what stands there. -/
def getStatusString : List Char :=
  let result := List.replicate 17 '.'
  let result := replaceWhen (quality.shows notOKSection) 0 1 ['!'] result
  let result := replaceWhen (quality.shows acceptedSection) 1 1 ['A'] result
  let result := replaceWhen (quality.shows suspectSection) 2 1 ['S'] result
  let result := replaceWhen (quality.shows missingSection) 3 1 ['X'] result
  let result := replaceWhen (quality.shows lockedSection) 4 1 ['L'] result
  let result :=
    if quality.shows manualSection then replaceWhen true 5 1 ['M'] result
    else replaceWhen (quality.shows estimatedSection) 5 1 ['m'] result
  let result :=
    if quality.shows validatedSection then
      let result := replaceWhen true 6 1 ['V'] result
      let method := get quality.exposedQuality validationMethodSection
      replaceWhen true 7 2 (toStringD2 method) result
    else result
  let result :=
    if quality.shows correctedSection then
      let result := replaceWhen true 9 1 ['C'] result
      let method := get quality.exposedQuality correctionMethodSection
      replaceWhen true 10 2 (toStringD2 method) result
    else result
  let result :=
    if quality.shows customerMethodSection then
      let result := replaceWhen true 12 1 ['E'] result
      let method := get quality.exposedQuality customerMethodSection
      insertAt 13 (toStringD2 method) result
    else result
  let result := replaceWhen (quality.shows defaultSection) 15 1 ['D'] result
  replaceWhen (quality.shows virtualPointSection) 16 1 ['~'] result

end Quality

end ServiceHost
