import ServiceHost.Library.Marks

/-!
XML fragments of elements without attributes and of text without markup or entities: how they
are written, the nodes that a reader makes of a text, and that it reads back what was written.
The units of which names consist are given.
-/

namespace ServiceHost.Library

namespace Xml

abbrev Units := List UInt16

def opens : UInt16 := 60
def closes : UInt16 := 62
def slash : UInt16 := 47
def ampersand : UInt16 := 38

def isBlank (unit : UInt16) : Bool := unit = 32 ∨ unit = 9 ∨ unit = 13 ∨ unit = 10

def isMark (unit : UInt16) : Bool :=
  unit = opens ∨ unit = closes ∨ unit = slash ∨ unit = ampersand ∨ isBlank unit = true

structure NameClass where
  isName : UInt16 → Bool
  marks : ∀ unit, isMark unit = true → isName unit = false

section Nodes

inductive Node
  | text (units : Units)
  | element (name : Units) (children : List Node)

def textNode (units : Units) : List Node := if units = [] then [] else [.text units]

mutual

def Node.innerText : Node → Units
  | .text units => units
  | .element _ children => innerTexts children

def innerTexts : List Node → Units
  | [] => []
  | node :: nodes => node.innerText ++ innerTexts nodes

end

mutual

def Node.elementsByTagName (name : Units) : Node → List Node
  | .text _ => []
  | .element other children =>
      if other = name then .element other children :: elementsByTagName name children else elementsByTagName name children

def elementsByTagName (name : Units) : List Node → List Node
  | [] => []
  | node :: nodes => node.elementsByTagName name ++ elementsByTagName name nodes

end

def Node.isText : Node → Bool
  | .text _ => true
  | .element _ _ => false

end Nodes

section Read

inductive TagRead
  | start (name : Units)
  | stop (name : Units)
  | empty (name : Units)

variable (names : NameClass)

/-- What stands between `<` and `>`. -/
def readTag (raw : Units) : Option TagRead :=
  match raw with
  | [] => none
  | unit :: rest =>
      if unit = slash then
        if rest.takeWhile names.isName = [] then none
        else if (rest.dropWhile names.isName).all isBlank then some (.stop (rest.takeWhile names.isName))
        else none
      else if raw.takeWhile names.isName = [] then none
      else if (raw.dropWhile names.isName).dropWhile isBlank = [] then some (.start (raw.takeWhile names.isName))
      else if (raw.dropWhile names.isName).dropWhile isBlank = [slash] then some (.empty (raw.takeWhile names.isName))
      else none

def readPiece (piece : Units) : Option (TagRead × Units) :=
  match piece.tail.dropWhile fun unit => unit ≠ closes with
  | [] => none
  | _ :: behind => (readTag names (piece.tail.takeWhile fun unit => unit ≠ closes)).map fun tag => (tag, behind)

def readPieces : List Units → Option (List (TagRead × Units))
  | [] => some []
  | piece :: pieces => do
      let tag ← readPiece names piece
      let tags ← readPieces pieces
      return tag :: tags

/-- The nodes read so far, and below them those of the elements that are still open. -/
def build : List (TagRead × Units) → List (Units × List Node) → List Node → Option (List Node)
  | [], [], done => some done
  | [], _ :: _, _ => none
  | (.start name, behind) :: rest, opened, done => build rest ((name, done) :: opened) (textNode behind)
  | (.stop _, _) :: _, [], _ => none
  | (.stop name, behind) :: rest, (other, before) :: opened, done =>
      if name = other then build rest opened (before ++ [.element other done] ++ textNode behind) else none
  | (.empty name, behind) :: rest, opened, done => build rest opened (done ++ [.element name []] ++ textNode behind)

def beginsTag (text : Units) : Bool := text.head? = some opens

/-- The reader. Entities are not among the fragments that it reads. -/
def read (text : Units) : Option (List Node) :=
  if ampersand ∈ text then none
  else do
    let tags ← readPieces names (cut beginsTag text).2
    build tags [] (textNode (cut beginsTag text).1)

end Read

section Write

structure Name (names : NameClass) where
  units : Units
  some : units ≠ []
  each : ∀ unit ∈ units, names.isName unit = true

structure Blanks where
  units : Units
  each : ∀ unit ∈ units, isBlank unit = true

structure PlainText where
  units : Units
  unopened : opens ∉ units
  literal : ampersand ∉ units

inductive Fragment (names : NameClass)
  | text (units : PlainText)
  | element (before : PlainText) (name : Name names) (blanks : Blanks) (content : Fragment names) (endBlanks : Blanks)
      (rest : Fragment names)
  | empty (before : PlainText) (name : Name names) (blanks : Blanks) (rest : Fragment names)

inductive Tag (names : NameClass)
  | start (name : Name names) (blanks : Blanks)
  | stop (name : Name names) (blanks : Blanks)
  | empty (name : Name names) (blanks : Blanks)

variable {names : NameClass}

def Tag.raw : Tag names → Units
  | start name blanks => name.units ++ blanks.units
  | stop name blanks => slash :: (name.units ++ blanks.units)
  | empty name blanks => name.units ++ blanks.units ++ [slash]

def Tag.read : Tag names → TagRead
  | start name _ => .start name.units
  | stop name _ => .stop name.units
  | empty name _ => .empty name.units

abbrev Piece (names : NameClass) := Tag names × PlainText

def Piece.text (piece : Piece names) : Units := opens :: (piece.1.raw ++ closes :: piece.2.units)

namespace Fragment

def written : Fragment names → Units
  | text units => units.units
  | element before name blanks content endBlanks rest =>
      before.units ++ opens :: (name.units ++ blanks.units) ++ closes :: content.written ++
        opens :: slash :: (name.units ++ endBlanks.units) ++ closes :: rest.written
  | empty before name blanks rest =>
      before.units ++ opens :: (name.units ++ blanks.units) ++ slash :: closes :: rest.written

def nodes : Fragment names → List Node
  | text units => textNode units.units
  | element before name _ content _ rest => textNode before.units ++ .element name.units content.nodes :: rest.nodes
  | empty before name _ rest => textNode before.units ++ .element name.units [] :: rest.nodes

def first : Fragment names → PlainText
  | text units => units
  | element before _ _ _ _ _ => before
  | empty before _ _ _ => before

def pieces : Fragment names → List (Piece names)
  | text _ => []
  | element _ name blanks content endBlanks rest =>
      (.start name blanks, content.first) :: (content.pieces ++ (.stop name endBlanks, rest.first) :: rest.pieces)
  | empty _ name blanks rest => (.empty name blanks, rest.first) :: rest.pieces

end Fragment

end Write

section Facts

variable {names : NameClass}

def Piece.read (piece : Piece names) : TagRead × Units := (piece.1.read, piece.2.units)

end Facts

end Xml

end ServiceHost.Library
