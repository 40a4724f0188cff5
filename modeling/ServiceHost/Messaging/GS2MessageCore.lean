import ServiceHost.Library.Marks
import ServiceHost.Library.Program
import ServiceHost.Library.Utf16
import ServiceHost.Time.UtcTime

/-!
`GS2Message`: a message is a list of text objects, printed one after the other and parsed
at the places where `##` stands. Texts are sequences of 16 bit units. What a culture finds
for `##`, and how it writes times and values, is given.
-/

namespace ServiceHost.Messaging

open Library

abbrev Text := List UInt16

def text (characters : String) : Text := Utf16.encode characters.toList

def hash : UInt16 := 35
def lineFeed : UInt16 := 10
def carriageReturn : UInt16 := 13

def isLetter (unit : UInt16) : Bool := 65 ≤ unit ∧ unit ≤ 90 ∨ 97 ≤ unit ∧ unit ≤ 122

/-- The white space that `Trim` removes. -/
def isWhiteSpace (unit : UInt16) : Bool :=
  unit = 32 ∨ (9 ≤ unit ∧ unit ≤ 13) ∨ unit = 0x85 ∨ unit = 0xA0 ∨ unit = 0x1680 ∨
    (0x2000 ≤ unit ∧ unit ≤ 0x200A) ∨ unit = 0x2028 ∨ unit = 0x2029 ∨ unit = 0x202F ∨ unit = 0x205F ∨
    unit = 0x3000

def trim (value : Text) : Text :=
  ((value.dropWhile isWhiteSpace).reverse.dropWhile isWhiteSpace).reverse

/-- How a culture finds `##`: units that it ignores may stand before and between the two, and
before a letter it does not miss them. -/
structure Culture where
  begins : Text → Bool
  ignorable : UInt16 → Bool
  found : ∀ {value}, begins value = true → ∃ before between after,
    value = before ++ hash :: between ++ hash :: after ∧
      (∀ unit ∈ before, ignorable unit = true) ∧ ∀ unit ∈ between, ignorable unit = true
  sure : ∀ {letter} rest, isLetter letter = true → begins (hash :: hash :: letter :: rest) = true
  letter : ∀ {unit}, isLetter unit = true → ignorable unit = false
  hash : ignorable hash = false
  lineFeed : ignorable lineFeed = false

/-- How times and values are written, and whether the source has its lines end with a carriage
return. A time may be out of the range of a date. -/
structure Formats (V : Type) where
  carriageReturns : Bool
  toDateTime : UtcTime → Except SystemException Text
  toString : V → Text
  dateFree : ∀ {time value}, toDateTime time = .ok value → Messaging.hash ∉ value
  valueFree : ∀ value, Messaging.hash ∉ toString value

def Formats.newLine {V : Type} (formats : Formats V) : Text :=
  if formats.carriageReturns then [carriageReturn, lineFeed] else [lineFeed]

structure GS2MessageObject where
  type : Text
  text : Text

structure GS2Message where
  messageType : Option Text
  «to» : Option Text
  «from» : Option Text
  gmtReference : Option Text
  id : Option Text
  time : UtcTime
  objects : List GS2MessageObject

section Parse

/-- `text.IndexOf("##", start)` -/
def indexOf (culture : Culture) (value : Text) (start : Nat) : Option Nat :=
  findMark culture.begins (value.drop start) start

/-- Where the pattern, which is a text and `(.*)`, matches first, the rest of the line. -/
def matchRest (pattern : Text) : Text → Text
  | [] => []
  | unit :: input =>
      if pattern.isPrefixOf (unit :: input) then
        ((unit :: input).drop pattern.length).takeWhile fun other => other ≠ lineFeed
      else matchRest pattern input

/-- `RegexMatch` for such a pattern. A group that has not matched is empty. -/
def regexMatch (input pattern : Text) : Text := trim (matchRest pattern input)

def startMessage : Text := text "Start-message"
def endMessage : Text := text "End-message"
def meterReading : Text := text "Meter-reading"

def addObject (message : GS2Message) (messageObject : Text) : GS2Message :=
  let objectType := regexMatch messageObject (text "##")
  let objects := message.objects ++ [⟨objectType, messageObject⟩]
  if objectType = startMessage then
    { message with
      id := some (regexMatch messageObject (text "#Id="))
      messageType := some (regexMatch messageObject (text "#Message-type="))
      «to» := some (regexMatch messageObject (text "#To="))
      «from» := some (regexMatch messageObject (text "#From="))
      gmtReference := some (regexMatch messageObject (text "#GMT-reference="))
      objects }
  else { message with objects }

def GS2Message.default : GS2Message := ⟨none, none, none, none, none, ⟨0, by decide, by decide⟩, []⟩

/-- The turns of the loop after `##` was found at `end`. -/
def parseFrom (culture : Culture) (gs2Text : Text) (message : GS2Message) («end» : Nat) : GS2Message :=
  match _search : indexOf culture gs2Text («end» + 1) with
  | none =>
      if gs2Text.length > «end» then
        addObject message ((gs2Text.drop «end»).take (gs2Text.length - «end»))
      else message
  | some pos =>
      let message := if pos > «end» then addObject message ((gs2Text.drop «end»).take (pos - «end»)) else message
      parseFrom culture gs2Text message pos
termination_by gs2Text.length - «end»
decreasing_by
  have found := cut_of_findMark_some _search
  rw [List.length_drop] at found
  omega

/-- `new GS2Message(gs2Text)`. The first turn looks for the first `##` only. -/
def parse (culture : Culture) (gs2Text : Text) : GS2Message :=
  match indexOf culture gs2Text 0 with
  | none => GS2Message.default
  | some pos => parseFrom culture gs2Text GS2Message.default pos

end Parse

section Build

variable {V : Type} (formats : Formats V)

abbrev Gs2 : Type → Type := Program GS2Message SystemException

def line (head : String) (value : Text) : Text := text head ++ value ++ formats.newLine

def blankLine : Text := [carriageReturn, lineFeed]

def startText (message : GS2Message) (date : Text) : Text :=
  line formats "##Start-message" [] ++ line formats "#Id=" (message.id.getD []) ++
    line formats "#Message-type=" (message.messageType.getD []) ++ line formats "#Version=1.2" [] ++
    line formats "#Time=" date ++ line formats "#To=" (message.«to».getD []) ++
    line formats "#From=" (message.«from».getD []) ++
    text "#GMT-reference=" ++ message.gmtReference.getD [] ++ blankLine ++ blankLine

def endText (id : Option Text) : Text :=
  line formats "##End-message" [] ++ text "#Id=" ++ id.getD [] ++ blankLine

def readingText (name date unit value : Text) : Text :=
  line formats "##Meter-reading" [] ++ line formats "#Reference=" name ++ line formats "#Time=" date ++
    line formats "#Unit=" unit ++ text "#Value=" ++ value ++ blankLine ++ blankLine

def addStartMessage : Gs2 Unit := do
  let message ← Program.read fun message => message
  let date ← Program.ofExcept (formats.toDateTime message.time)
  Program.change fun message =>
    { message with objects := message.objects ++ [⟨startMessage, startText formats message date⟩] }

def addEndMessage : Gs2 Unit :=
  Program.change fun message =>
    { message with objects := message.objects ++ [⟨endMessage, endText formats message.id⟩] }

/-- `objects.Insert(objects.Count - 1, messageObject)` -/
def insertBeforeLast (messageObject : GS2MessageObject) : Gs2 Unit := do
  let objects ← Program.read fun message => message.objects
  if objects = [] then
    Program.raise .argumentOutOfRange
  else
    Program.change fun message =>
      { message with
        objects := message.objects.dropLast ++ messageObject :: message.objects.getLast?.toList }

/-- A time series with its points in the order of its enumerator. -/
structure TimeSeries (V : Type) where
  name : Text
  unit : Text
  points : List (UtcTime × V)

def addPoint (ts : TimeSeries V) (tvq : UtcTime × V) : Gs2 Unit := do
  let date ← Program.ofExcept (formats.toDateTime tvq.1)
  insertBeforeLast ⟨meterReading, readingText formats ts.name date ts.unit (formats.toString tvq.2)⟩

def addTimeSeries (ts : TimeSeries V) : Gs2 Unit := Program.forEach (addPoint formats ts) ts.points

/-- The turn of `AppendGS2Message`, which tells whether it has changed the objects. -/
def appendTurn (message : GS2Message) (messageObject : GS2MessageObject) : Gs2 Bool := do
  let objects ← Program.read fun this => this.objects
  if objects = [] then
    Program.change fun this =>
      { this with
        messageType := message.messageType
        «to» := message.«to»
        «from» := message.«from»
        gmtReference := message.gmtReference }
    addStartMessage formats
    addEndMessage formats
    return true
  else if messageObject.type ≠ startMessage ∧ messageObject.type ≠ endMessage then
    insertBeforeLast messageObject
    return true
  else return false

/-- The loop over the objects of the message. The enumerator does not go on in a list that has
changed, which is so when the message is the one that the method is called for. -/
def appendLoop (isThis : Bool) (message : GS2Message) : List GS2MessageObject → Gs2 Unit
  | [] => pure ()
  | messageObject :: rest => do
      let changed ← appendTurn formats message messageObject
      if isThis && changed then
        Program.raise (.invalidOperation "Collection was modified; enumeration operation may not execute.")
      else appendLoop isThis message rest

def appendGS2Message (isThis : Bool) (message : GS2Message) : Gs2 Unit :=
  appendLoop formats isThis message message.objects

/-- `new GS2Message(messageType, to, from, gmtReference)`, with the new id and the time of the call. -/
def construct (messageType «to» «from» gmtReference id : Text) (now : UtcTime) :
    Except SystemException GS2Message :=
  let built := (do
    addStartMessage formats
    addEndMessage formats : Gs2 Unit) ⟨some messageType, some «to», some «from», some gmtReference, some id, now, []⟩
  built.1.map fun _ => built.2

end Build

def GS2Message.toString (message : GS2Message) : Text := message.objects.flatMap GS2MessageObject.text

end ServiceHost.Messaging
