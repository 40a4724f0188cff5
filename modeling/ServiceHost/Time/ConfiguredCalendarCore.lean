import Mathlib.Data.List.DropRight
import ServiceHost.Library.Pattern
import ServiceHost.Time.DstRulesCore

/-!
`CreateFromConfig`: a calendar from one line of the configuration, with a daylight rule
for every year of the table. Beyond ASCII the classes of characters are those of the
runtime, and so are the floating point numbers that an offset is read with.
-/

namespace ServiceHost

open Library

structure CharacterClasses where
  isDigit : UInt16 → Bool
  isWhiteSpace : UInt16 → Bool
  digit : ∀ c, c.toNat < 128 → (isDigit c = true ↔ 48 ≤ c.toNat ∧ c.toNat < 58)
  whiteSpace : ∀ c, c.toNat < 128 → (isWhiteSpace c = true ↔ 9 ≤ c.toNat ∧ c.toNat < 14 ∨ c.toNat = 32)

/-- `double`, as far as an offset in hours is read with it. A span has 64 bits. -/
structure FloatingPoint (D : Type) where
  tryParse : CodeUnits → Option D
  toDouble : CodeUnits → Except SystemException D
  zero : D
  fromHours : D → Except SystemException Int
  lower : ∀ hours ticks, fromHours hours = .ok ticks → -2 ^ 63 ≤ ticks
  upper : ∀ hours ticks, fromHours hours = .ok ticks → ticks < 2 ^ 63

namespace Text

def lineFeed : UInt16 := 10
def space : UInt16 := 32
def quote : UInt16 := 39
def plus : UInt16 := 43
def comma : UInt16 := 44
def minus : UInt16 := 45
def point : UInt16 := 46
def commercialAt : UInt16 := 64
def openBracket : UInt16 := 91
def closeBracket : UInt16 := 93
def underscore : UInt16 := 95

def isAsciiDigit (c : UInt16) : Bool := 48 ≤ c.toNat ∧ c.toNat < 58

def isBlank (c : UInt16) : Bool := 9 ≤ c.toNat ∧ c.toNat < 14 ∨ c.toNat = 32

def replaceUnit (old new : UInt16) (text : CodeUnits) : CodeUnits := text.map fun c => if c = old then new else c

def trimBy (test : UInt16 → Bool) (text : CodeUnits) : CodeUnits := (text.dropWhile test).rdropWhile test

def numeral (digits : CodeUnits) : Nat := digits.foldl (fun value c => 10 * value + (c.toNat - 48)) 0

/-- `int.Parse` behind the sign. -/
def parseDigits (negative : Bool) (digits : CodeUnits) : Except SystemException Int :=
  if digits = [] ∨ ¬digits.all isAsciiDigit then throw .format
  else
    let value : Int := if negative then -(numeral digits : Int) else numeral digits
    if value < -2 ^ 31 ∨ 2 ^ 31 ≤ value then throw .overflow else pure value

/-- `int.Parse`. -/
def parseInt32 (text : CodeUnits) : Except SystemException Int :=
  match trimBy isBlank text with
  | [] => throw .format
  | c :: rest =>
      if c = minus then parseDigits true rest
      else if c = plus then parseDigits false rest
      else parseDigits false (c :: rest)

end Text

/-- The month and the day of a rule, as `addDSTRule` takes them. -/
structure MonthDay where
  month : Int
  day : Int
deriving DecidableEq, Repr

structure ConfiguredCalendar extends RegionalCalendar where
  name : CodeUnits
  alternateName : CodeUnits

inductive DefinitionGroup
  | name
  | utcoffset
  | altname
  | dstStartMonth
  | dstStartDay
  | dstEndMonth
  | dstEndDay
deriving DecidableEq, Repr

namespace RegionalCalendar

open Text

section Patterns

variable (classes : CharacterClasses)

abbrev DefinitionPattern := Pattern UInt16 DefinitionGroup

def anything (c : UInt16) : Bool := c ≠ lineFeed

def isSign (c : UInt16) : Bool := c = plus ∨ c = minus

def isMark (c : UInt16) : Bool := c = comma ∨ c = point

/-- A sign, digits, a decimal mark and digits, all of which may be missing. -/
def offsetPattern : DefinitionPattern :=
  .all [.optional isSign, .many classes.isDigit, .optional isMark, .many classes.isDigit]

def wholePattern : DefinitionPattern := .seq (.optional isSign) (.some classes.isDigit)

def namePattern (more : List DefinitionPattern) : DefinitionPattern :=
  .all ([.literal [quote], .group .name (.some anything), .literal [quote, commercialAt],
    .group .utcoffset (offsetPattern classes)] ++ more)

def altnamePattern (more : List DefinitionPattern) : DefinitionPattern :=
  namePattern classes ([.literal [quote], .group .altname (.some anything), .literal [quote]] ++ more)

def rulePattern : DefinitionPattern :=
  altnamePattern classes [.literal [openBracket], .group .dstStartMonth (.some classes.isDigit),
    .one classes.isWhiteSpace, .group .dstStartDay (wholePattern classes), .literal [underscore],
    .group .dstEndMonth (.some classes.isDigit), .one classes.isWhiteSpace,
    .group .dstEndDay (wholePattern classes), .literal [closeBracket]]

def atEnd (rest : CodeUnits) : Bool := rest = [] ∨ rest = [lineFeed]

def matchWhole (pattern : DefinitionPattern) (text : CodeUnits) : Option (Captures UInt16 DefinitionGroup) :=
  pattern.run (fun rest captures => if atEnd rest then some captures else none) text []

/-- The text of a group, which is empty where the group has no part in the match. -/
def groupValue (captures : Captures UInt16 DefinitionGroup) (group : DefinitionGroup) : CodeUnits :=
  (captures.lookup group).getD []

end Patterns

section Configured

variable {D : Type} (classes : CharacterClasses) (numbers : FloatingPoint D)

def readHours (text : CodeUnits) : Except SystemException D :=
  let text := replaceUnit comma point text
  match numbers.tryParse text with
  | some hours => pure hours
  | none =>
      let text :=
        if comma ∈ text then replaceUnit comma point text
        else if point ∈ text then replaceUnit point comma text
        else text
      match numbers.toDouble text with
      | .error .format => pure numbers.zero
      | outcome => outcome

def readUtcOffset (text : CodeUnits) : Except SystemException Int := do
  numbers.fromHours (← readHours numbers text)

def addConfiguredRules (begins ends : MonthDay) : Nat → Int → RegionalCalendar → Except SystemException RegionalCalendar
  | 0, _, calendar => pure calendar
  | years + 1, year, calendar => do
      let dstStart ← calendar.toUtcTime ⟨⟨year, begins.month, begins.day⟩, 0, 0, 0, 0⟩
      let dstEnd ← calendar.toUtcTime ⟨⟨year, ends.month, ends.day⟩, 0, 0, 0, 0⟩
      addConfiguredRules begins ends years (year + 1) (calendar.addDSTRule dstStart dstEnd Utc.hour).2

def configure (groups : Captures UInt16 DefinitionGroup) (rule : Option (MonthDay × MonthDay)) :
    Except SystemException ConfiguredCalendar := do
  let utcOffset ← readUtcOffset numbers (groupValue groups .utcoffset)
  let calendar := { utcCalendar with utcOffset }
  match rule with
  | none => return { calendar with name := groupValue groups .name, alternateName := codeUnits "utc" }
  | some (begins, ends) =>
      let calendar ← addConfiguredRules begins ends daylightSavingYears daylightSavingFirstYear calendar
      return { calendar with name := groupValue groups .name, alternateName := groupValue groups .altname }

/-- No calendar for a definition that none of the patterns matches. -/
def createFromConfig (definition : Option CodeUnits) : Except SystemException (Option ConfiguredCalendar) :=
  match definition with
  | none => pure none
  | some [] => pure none
  | some definition =>
      let definition := trimBy classes.isWhiteSpace definition
      match matchWhole (rulePattern classes) definition with
      | some groups => do
          let dstStartMonth ← parseInt32 (groupValue groups .dstStartMonth)
          let dstStartDay ← parseInt32 (groupValue groups .dstStartDay)
          let dstEndMonth ← parseInt32 (groupValue groups .dstEndMonth)
          let dstEndDay ← parseInt32 (groupValue groups .dstEndDay)
          some <$> configure numbers groups (some (⟨dstStartMonth, dstStartDay⟩, ⟨dstEndMonth, dstEndDay⟩))
      | none =>
          match matchWhole (altnamePattern classes []) definition with
          | some groups => some <$> configure numbers groups (some (⟨3, -5⟩, ⟨10, -5⟩))
          | none =>
              match matchWhole (namePattern classes []) definition with
              | some groups => some <$> configure numbers groups none
              | none => pure none

end Configured

end RegionalCalendar

end ServiceHost
