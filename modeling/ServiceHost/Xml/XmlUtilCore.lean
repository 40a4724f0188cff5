import ServiceHost.Library.XmlFragment
import ServiceHost.Messaging.GS2MessageCore

/-!
`XmlUtil.DeserializeString` parses a fragment below a root node and takes the first element of a
name; `DeserializeStringInsensitive` looks for the texts of the two tags.
-/

namespace ServiceHost.XmlUtil

open Library Library.Xml

/-- Ordinal comparison without case goes unit by unit. No other unit is taken for a mark. -/
structure IgnoreCase where
  fold : UInt16 → UInt16
  alone : ∀ unit mark, isMark mark = true → fold unit = fold mark → unit = mark

def rootNode : Units := Messaging.text "rootNode"

/-- `IndexOf` of a text that is not empty. -/
def indexOf (ignoreCase : IgnoreCase) (value text : Units) : Option Nat :=
  findMark (fun rest => (value.map ignoreCase.fold).isPrefixOf (rest.map ignoreCase.fold)) text 0

end ServiceHost.XmlUtil
