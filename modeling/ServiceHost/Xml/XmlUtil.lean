import Mathlib.Data.List.Basic
import ServiceHost.Xml.XmlUtilCore

/-!
The lookup by text against the parser. The text between the first start tag and the first end
tag of a name, found independently, is compared with the text of the first element.
-/

namespace ServiceHost.XmlUtil

open Library Library.Xml

section Tags

variable {names : NameClass} (ignoreCase : IgnoreCase) (name : Name names)

def Same (first second : Units) : Prop := first.map ignoreCase.fold = second.map ignoreCase.fold

instance (first second : Units) : Decidable (Same ignoreCase first second) := inferInstanceAs (Decidable (_ = _))

def isStart : Tag names → Bool
  | .start other blanks => blanks.units = [] ∧ Same ignoreCase name.units other.units
  | _ => false

def isStop : Tag names → Bool
  | .stop other blanks => blanks.units = [] ∧ Same ignoreCase name.units other.units
  | _ => false

variable {ignoreCase name}

end Tags

section Positions

variable {names : NameClass} (ignoreCase : IgnoreCase)

def standsAt (value rest : Units) : Bool := (value.map ignoreCase.fold).isPrefixOf (rest.map ignoreCase.fold)

variable {ignoreCase}

def Quiet (ignoreCase : IgnoreCase) (body front : Units) : Prop :=
  ∀ before after rest, front = before ++ after → after ≠ [] →
    standsAt ignoreCase (opens :: body ++ [closes]) (after ++ rest) = false

variable {name : Name names}

def untilStop (ignoreCase : IgnoreCase) (name : Name names) : List (Piece names) → Option Units
  | [] => none
  | piece :: rest => if isStop ignoreCase name piece.1 then some [] else (untilStop ignoreCase name rest).map (piece.text ++ ·)

def content (ignoreCase : IgnoreCase) (name : Name names) : List (Piece names) → Option Units
  | [] => none
  | piece :: rest =>
      if isStart ignoreCase name piece.1 then (untilStop ignoreCase name rest).map (piece.2.units ++ ·)
      else if isStop ignoreCase name piece.1 then
        if rest.any fun later => isStart ignoreCase name later.1 then some [] else none
      else content ignoreCase name rest

end Positions

section First

variable {names : NameClass}

def Tag.name : Tag names → Name names
  | .start name _ => name
  | .stop name _ => name
  | .empty name _ => name

inductive FirstElement (names : NameClass)
  | element (blanks : Blanks) (inner : Fragment names) (endBlanks : Blanks)
  | empty (blanks : Blanks)

namespace FirstElement

def children : FirstElement names → List Node
  | element _ inner _ => inner.nodes
  | empty _ => []

end FirstElement

variable (name : Name names)

variable {name}

end First

section Content

variable {names : NameClass} {ignoreCase : IgnoreCase} {name : Name names}

end Content

section Agreement

variable {names : NameClass} (ignoreCase : IgnoreCase) (name : Name names) (fragment : Fragment names)

def parsed (first : FirstElement names) : Units :=
  if name.units = rootNode then innerTexts fragment.nodes else innerTexts first.children

variable {ignoreCase name fragment}

end Agreement

section Letters

def isLowerLetter (unit : UInt16) : Bool := 97 ≤ unit ∧ unit ≤ 122

def letters : NameClass where
  isName := isLowerLetter
  marks := by
    intro unit mark
    rcases of_decide_eq_true mark with rfl | rfl | rfl | rfl | blank
    · decide
    · decide
    · decide
    · decide
    · rcases of_decide_eq_true blank with rfl | rfl | rfl | rfl <;> decide

end Letters

end ServiceHost.XmlUtil
