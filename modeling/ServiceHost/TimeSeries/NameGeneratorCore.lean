import ServiceHost.Library.Program
import ServiceHost.Time.TimeTextCore

/-!
`NameGenerator` reads a naming file from front to back, keeps the parts of one name rule and the
entries of the index elements, and puts names together from them.
-/

namespace ServiceHost.CustomNaming

open Library Text
open RegionalCalendar (codeUnits)

structure UpperCase where
  toUpper : UInt16 → UInt16
  upper : ∀ c, c.toNat < 128 → c.toNat ≠ 105 → toUpper c = asciiUpper c

inductive XmlNodeType
  | element
  | endElement
  | text
  | other
deriving DecidableEq

structure XmlNode where
  nodeType : XmlNodeType
  name : CodeUnits
  attributes : List (CodeUnits × CodeUnits)
  value : CodeUnits

def attributeOf (attributes : List (CodeUnits × CodeUnits)) (name : String) : Option CodeUnits :=
  attributes.lookup (codeUnits name)

def XmlNode.getAttribute (node : XmlNode) (name : String) : Option CodeUnits := attributeOf node.attributes name

inductive ElementType
  | property
  | index
  | text
  | unknown
deriving DecidableEq

structure NamePart where
  index : Int
  name : Option CodeUnits
  elementType : ElementType
  delimiter : Option CodeUnits
  elementValue : CodeUnits

abbrev IndexEntry := (CodeUnits × CodeUnits) × CodeUnits

structure NameGenerator where
  namePartList : List NamePart
  indexElementList : List IndexEntry
  nameRuleDelimiter : Option CodeUnits
  nameRuleName : Option CodeUnits

def NameGenerator.fresh : NameGenerator :=
  { namePartList := [], indexElementList := [], nameRuleDelimiter := some [], nameRuleName := some [] }

inductive NamingException
  | validation
  | indexOutOfRange
  | emptyName (rootName : Option CodeUnits)
deriving DecidableEq

structure CustomName where
  rootName : Option CodeUnits
  getValue : Option CodeUnits → Option CodeUnits

section Parse

structure Parser where
  generator : NameGenerator
  name : Option CodeUnits
  delimiter : Option CodeUnits
  elType : ElementType
  value : CodeUnits
  inNameRule : Bool
  inNameElement : Bool
  inIndexElement : Bool
  inIndexElementType : Bool
  indexElementName : CodeUnits
  indexElementTypeName : CodeUnits
  indexSubElementName : CodeUnits

def Parser.start (generator : NameGenerator) : Parser where
  generator := generator
  name := some []
  delimiter := some []
  elType := .unknown
  value := []
  inNameRule := false
  inNameElement := false
  inIndexElement := false
  inIndexElementType := false
  indexElementName := []
  indexElementTypeName := []
  indexSubElementName := []

abbrev Step := Program Parser NamingException Unit

variable (culture : UpperCase) (rootName : Option CodeUnits) (node : XmlNode)

/-- `xReader.Name.ToUpper() == word` -/
def isNamed (word : String) : Bool := node.name.map culture.toUpper = codeUnits word

/-- `xReader.Name.Split(':')[1]` -/
def localName : Except NamingException CodeUnits :=
  match node.name.dropWhile fun c => c ≠ colon with
  | [] => throw .indexOutOfRange
  | _ :: rest => pure (rest.takeWhile fun c => c ≠ colon)

def Parser.readNameRule (parser : Parser) : Parser :=
  if isNamed culture node "NAMERULE" then
    match node.nodeType with
    | .element =>
        if node.getAttribute "name" = rootName then
          { parser with inNameRule := true, generator.nameRuleDelimiter := node.getAttribute "delimiter" }
        else parser
    | .endElement => { parser with inNameRule := false }
    | _ => parser
  else parser

def toElementType (elementType : Option CodeUnits) : ElementType :=
  if elementType = some (codeUnits "Index") then .index
  else if elementType = some (codeUnits "Property") then .property
  else if elementType = some (codeUnits "Text") then .text
  else .unknown

def Parser.addPart (parser : Parser) : Parser :=
  { parser with
    generator.namePartList := parser.generator.namePartList ++ [{
      index := parser.generator.namePartList.length - 1
      name := parser.name
      elementType := parser.elType
      delimiter := parser.delimiter
      elementValue := parser.value }] }

def Parser.startNameElement (parser : Parser) : Parser :=
  let parser := { parser with
    inNameElement := true
    name := node.getAttribute "name"
    elType := toElementType (node.getAttribute "elementType")
    delimiter := (node.getAttribute "delimiter").or parser.generator.nameRuleDelimiter }
  if parser.elType = .property then parser.addPart else parser

def Parser.endNameElement (parser : Parser) : Parser :=
  let parser := if parser.elType = .index ∨ parser.elType = .text then parser.addPart else parser
  { parser with inNameElement := false }

def Parser.readNameElement (parser : Parser) : Parser :=
  if parser.inNameRule then
    match node.nodeType with
    | .element => if isNamed culture node "NAMEELEMENT" then parser.startNameElement node else parser
    | .text => if parser.inNameElement then { parser with value := node.value } else parser
    | .endElement => if isNamed culture node "NAMEELEMENT" then parser.endNameElement else parser
    | .other => parser
  else parser

def addIndexItem (key : CodeUnits × CodeUnits) (value : CodeUnits) (list : List IndexEntry) : List IndexEntry :=
  if (list.lookup key).isSome then list else list ++ [(key, value)]

def Parser.addItem (parser : Parser) : Parser :=
  let key := (parser.indexElementName, parser.indexSubElementName)
  { parser with generator.indexElementList := addIndexItem key node.value parser.generator.indexElementList }

def readIndexItem : Step := fun parser =>
  if parser.inIndexElement then
    match node.nodeType with
    | .element =>
        match localName node with
        | .error exception => (.error exception, parser)
        | .ok name =>
            if parser.inIndexElementType then (.ok (), { parser with indexSubElementName := name })
            else (.ok (), { parser with inIndexElementType := true, indexElementTypeName := name })
    | .text => if parser.inIndexElementType then (.ok (), parser.addItem node) else (.ok (), parser)
    | .endElement =>
        if parser.inIndexElementType then
          match localName node with
          | .error exception => (.error exception, parser)
          | .ok name =>
              if name = parser.indexElementTypeName then (.ok (), { parser with inIndexElementType := false })
              else (.ok (), parser)
        else (.ok (), parser)
    | .other => (.ok (), parser)
  else (.ok (), parser)

def getItemByValue (val : Option CodeUnits) (namePartList : List NamePart) : Option NamePart :=
  namePartList.foldl (fun namePart np => if some np.elementValue = val then some np else namePart) none

def Parser.readIndexElement (parser : Parser) : Parser :=
  if isNamed culture node "INDEXELEMENT" then
    match node.nodeType with
    | .element =>
        match getItemByValue (node.getAttribute "name") parser.generator.namePartList with
        | some _ => { parser with inIndexElement := true, indexElementName := (node.getAttribute "name").getD [] }
        | none => parser
    | .endElement => { parser with inIndexElement := false }
    | _ => parser
  else parser

def readNode : Step := do
  Program.change fun parser => (parser.readNameRule culture rootName node).readNameElement culture node
  readIndexItem node
  Program.change fun parser => parser.readIndexElement culture node

def parseNameRule (nodes : List XmlNode) : Program NameGenerator NamingException Unit := fun generator =>
  let parser := Parser.start { generator with namePartList := [], nameRuleName := rootName }
  let run := Program.forEach (readNode culture rootName) nodes parser
  (run.1, run.2.generator)

end Parse

/-- `name += delimiter` and `name += value`, where no text adds nothing. -/
def append (name : CodeUnits) (delimiter value : Option CodeUnits) : CodeUnits :=
  (if name = [] then name else name ++ delimiter.getD []) ++ value.getD []

def appendPart (cn : CustomName) (indexElementList : List IndexEntry) (name : CodeUnits) (np : NamePart) : CodeUnits :=
  match np.elementType with
  | .property => append name np.delimiter (cn.getValue np.name)
  | .index =>
      match (cn.getValue np.name).bind fun value => indexElementList.lookup (np.elementValue, value) with
      | some item => append name np.delimiter (some item)
      | none => name
  | .text => append name np.delimiter (some np.elementValue)
  | .unknown => name

structure TemplateFile where
  validation : Option NamingException
  nodes : List XmlNode

def prepare (culture : UpperCase) (rootName : Option CodeUnits) (nodes : List XmlNode) :
    Program NameGenerator NamingException Unit := fun generator =>
  if rootName ≠ generator.nameRuleName then parseNameRule culture rootName nodes generator else (.ok (), generator)

def getName (culture : UpperCase) (file : TemplateFile) (cn : CustomName) : Program NameGenerator NamingException CodeUnits := do
  Program.call file.validation
  prepare culture cn.rootName file.nodes
  let generator ← Program.read id
  let name := generator.namePartList.foldl (appendPart cn generator.indexElementList) []
  if name = [] then Program.raise (.emptyName cn.rootName) else return name

def runCalls (culture : UpperCase) (file : TemplateFile) :
    List CustomName → NameGenerator → List (Except NamingException CodeUnits)
  | [], _ => []
  | cn :: calls, generator =>
      (getName culture file cn generator).1 :: runCalls culture file calls (getName culture file cn generator).2

end ServiceHost.CustomNaming
