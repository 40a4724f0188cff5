import Mathlib.Data.List.Forall2
import ServiceHost.TimeSeries.NameGeneratorCore

/-!
The names that a naming file stands for, by its rules and its index elements alone, and the
sequences of calls on one generator that give these names.
-/

namespace ServiceHost.CustomNaming

open Library Text
open RegionalCalendar (codeUnits)

section Document

structure QualifiedName where
  space : Option CodeUnits
  localName : CodeUnits
  spaceFree : ∀ units, space = some units → colon ∉ units
  localFree : colon ∉ localName

def QualifiedName.text (name : QualifiedName) : CodeUnits :=
  match name.space with
  | none => name.localName
  | some space => space ++ colon :: name.localName

inductive Content
  | selfClosing
  | blank
  | text (value : CodeUnits)

def Content.text? : Content → Option CodeUnits
  | text value => some value
  | _ => none

def Content.nodes (name : CodeUnits) : Content → List XmlNode
  | selfClosing => []
  | blank => [⟨.endElement, name, [], []⟩]
  | text value => [⟨.text, [], [], value⟩, ⟨.endElement, name, [], []⟩]

structure NameElement where
  attributes : List (CodeUnits × CodeUnits)
  content : Content
  known : toElementType (attributeOf attributes "elementType") ≠ .unknown

namespace NameElement

def kind (element : NameElement) : ElementType := toElementType (attributeOf element.attributes "elementType")

def name (element : NameElement) : Option CodeUnits := attributeOf element.attributes "name"

def delimiter (element : NameElement) : Option CodeUnits := attributeOf element.attributes "delimiter"

def nodes (element : NameElement) : List XmlNode :=
  ⟨.element, codeUnits "NameElement", element.attributes, []⟩ :: element.content.nodes (codeUnits "NameElement")

end NameElement

structure NameRule where
  attributes : List (CodeUnits × CodeUnits)
  elements : List NameElement

namespace NameRule

def name (rule : NameRule) : Option CodeUnits := attributeOf rule.attributes "name"

def delimiter (rule : NameRule) : Option CodeUnits := attributeOf rule.attributes "delimiter"

def inner (rule : NameRule) : List XmlNode :=
  ⟨.element, codeUnits "NameElements", [], []⟩ ::
    (rule.elements.flatMap NameElement.nodes ++ [⟨.endElement, codeUnits "NameElements", [], []⟩])

def nodes (rule : NameRule) : List XmlNode :=
  ⟨.element, codeUnits "NameRule", rule.attributes, []⟩ ::
    (rule.inner ++ [⟨.endElement, codeUnits "NameRule", [], []⟩])

end NameRule

structure IndexItem where
  tag : QualifiedName
  content : Content

def IndexItem.nodes (item : IndexItem) : List XmlNode :=
  ⟨.element, item.tag.text, [], []⟩ :: item.content.nodes item.tag.text

structure IndexElement where
  attributes : List (CodeUnits × CodeUnits)
  typeName : QualifiedName
  items : List IndexItem

namespace IndexElement

def name (element : IndexElement) : Option CodeUnits := attributeOf element.attributes "name"

def inner (element : IndexElement) : List XmlNode :=
  ⟨.element, element.typeName.text, [], []⟩ ::
    (element.items.flatMap IndexItem.nodes ++ [⟨.endElement, element.typeName.text, [], []⟩])

def nodes (element : IndexElement) : List XmlNode :=
  ⟨.element, codeUnits "IndexElement", element.attributes, []⟩ ::
    (element.inner ++ [⟨.endElement, codeUnits "IndexElement", [], []⟩])

def entries (element : IndexElement) : List IndexEntry :=
  match element.name with
  | none => []
  | some name => element.items.filterMap fun item => item.content.text?.map fun value => ((name, item.tag.localName), value)

end IndexElement

inductive Section
  | tsCustomNaming
  | nameRules
  | indexElements

def Section.name : Section → CodeUnits
  | tsCustomNaming => codeUnits "TSCustomNaming"
  | nameRules => codeUnits "NameRules"
  | indexElements => codeUnits "IndexElements"

inductive Item
  | rule (rule : NameRule)
  | index (element : IndexElement)
  | starts (part : Section)
  | ends (part : Section)

namespace Item

def nodes : Item → List XmlNode
  | .rule nameRule => nameRule.nodes
  | .index element => element.nodes
  | .starts part => [⟨.element, part.name, [], []⟩]
  | .ends part => [⟨.endElement, part.name, [], []⟩]

def rule? : Item → Option NameRule
  | .rule nameRule => some nameRule
  | _ => none

def index? : Item → Option IndexElement
  | .index element => some element
  | _ => none

end Item

abbrev Document := List Item

namespace Document

def rules (document : Document) : List NameRule := document.filterMap Item.rule?

def indexElements (document : Document) : List IndexElement := document.filterMap Item.index?

end Document

end Document

section Meaning

def entries (elements : List IndexElement) : List IndexEntry := elements.flatMap IndexElement.entries

def partsOf (rootName : Option CodeUnits) (rules : List NameRule) : List (Option CodeUnits × NameElement) :=
  (rules.filter fun rule => rule.name = rootName).flatMap fun rule => rule.elements.map fun element => (rule.delimiter, element)

def NameElement.piece (list : List IndexEntry) (cn : CustomName) (element : NameElement) : Option CodeUnits :=
  match element.kind with
  | .property => some ((cn.getValue element.name).getD [])
  | .index => (cn.getValue element.name).bind fun value => list.lookup (element.content.text?.getD [], value)
  | .text => some (element.content.text?.getD [])
  | .unknown => none

def join : List (CodeUnits × CodeUnits) → CodeUnits
  | [] => []
  | (_, piece) :: rest =>
      if piece = [] then join rest else piece ++ rest.flatMap fun (delimiter, piece) => delimiter ++ piece

end Meaning

section Condition

def IndexElement.Shaped (element : IndexElement) : Prop :=
  element.typeName.space ≠ none ∧
    ∀ item ∈ element.items, item.tag.space ≠ none ∧ item.tag.localName ≠ element.typeName.localName

def Unambiguous (list : List IndexEntry) : Prop :=
  ∀ first ∈ list, ∀ second ∈ list, first.1 = second.1 → first.2 = second.2

def Apart (rootName : Option CodeUnits) : Item → Item → Prop
  | .index element, .rule rule =>
      rule.name = rootName → ∀ part ∈ rule.elements, part.kind = .index → part.content.text? ≠ element.name
  | _, _ => True

structure Document.Readable (document : Document) : Prop where
  shaped : ∀ element ∈ document.indexElements, element.Shaped
  unambiguous : Unambiguous (entries document.indexElements)

end Condition

section Names

variable {culture : UpperCase}

theorem isNamed_ascii {word : String} {name : String} {nodeType : XmlNodeType} {attributes : List (CodeUnits × CodeUnits)}
    {value : CodeUnits} (ascii : ((codeUnits name).all fun c => c.toNat < 128 ∧ c.toNat ≠ 105) = true) :
    isNamed culture ⟨nodeType, codeUnits name, attributes, value⟩ word =
      decide ((codeUnits name).map asciiUpper = codeUnits word) := by
  have upper : (codeUnits name).map culture.toUpper = (codeUnits name).map asciiUpper := by
    apply List.map_congr_left
    intro c member
    have plain := of_decide_eq_true (List.all_eq_true.mp ascii c member)
    exact culture.upper c plain.1 plain.2
  rw [isNamed, upper]

theorem isNamed_of_length {word : String} {nodeType : XmlNodeType} {name value : CodeUnits}
    {attributes : List (CodeUnits × CodeUnits)} (differ : name.length ≠ (codeUnits word).length) :
    isNamed culture ⟨nodeType, name, attributes, value⟩ word = false := by
  apply decide_eq_false
  intro same
  apply differ
  rw [← same, List.length_map]

theorem isNamed_of_colon {word : String} {node : XmlNode} (member : colon ∈ node.name) (absent : colon ∉ codeUnits word) :
    isNamed culture node word = false := by
  apply decide_eq_false
  intro same
  apply absent
  rw [← same]
  have upper : culture.toUpper colon = colon := culture.upper colon (by decide) (by decide)
  exact upper ▸ List.mem_map_of_mem member

theorem QualifiedName.colon_mem {name : QualifiedName} (space : name.space ≠ none) : colon ∈ name.text := by
  rw [QualifiedName.text]
  cases found : name.space with
  | none => exact absurd found space
  | some units => exact List.mem_append_right _ List.mem_cons_self

def Neutral (culture : UpperCase) (node : XmlNode) : Prop :=
  isNamed culture node "NAMERULE" = false ∧ isNamed culture node "INDEXELEMENT" = false

theorem neutral_text {value : CodeUnits} : Neutral culture ⟨.text, [], [], value⟩ :=
  ⟨isNamed_of_length (by decide), isNamed_of_length (by decide)⟩

theorem neutral_nameElement {nodeType : XmlNodeType} {attributes : List (CodeUnits × CodeUnits)} :
    Neutral culture ⟨nodeType, codeUnits "NameElement", attributes, []⟩ :=
  ⟨isNamed_of_length (by decide), isNamed_of_length (by decide)⟩

theorem neutral_nameElements {nodeType : XmlNodeType} : Neutral culture ⟨nodeType, codeUnits "NameElements", [], []⟩ :=
  ⟨isNamed_of_length (by decide), (isNamed_ascii (by decide)).trans (by decide)⟩

theorem neutral_prefixed {nodeType : XmlNodeType} {name : QualifiedName} (space : name.space ≠ none) :
    Neutral culture ⟨nodeType, name.text, [], []⟩ :=
  ⟨isNamed_of_colon (name.colon_mem space) (by decide), isNamed_of_colon (name.colon_mem space) (by decide)⟩

theorem neutral_content {name : CodeUnits} (neutral : Neutral culture ⟨.endElement, name, [], []⟩) (content : Content) :
    ∀ node ∈ content.nodes name, Neutral culture node := by
  cases content with
  | selfClosing => exact fun node member => nomatch member
  | blank =>
      intro node member
      rw [List.mem_singleton.mp member]
      exact neutral
  | text value =>
      intro node member
      rcases List.mem_cons.mp member with rfl | member
      · exact neutral_text
      · rw [List.mem_singleton.mp member]
        exact neutral

theorem neutral_inner {first last : XmlNode} {middle : List XmlNode} (starts : Neutral culture first) (ends : Neutral culture last)
    (between : ∀ node ∈ middle, Neutral culture node) : ∀ node ∈ first :: (middle ++ [last]), Neutral culture node := by
  intro node member
  rw [List.mem_cons, List.mem_append, List.mem_singleton] at member
  rcases member with rfl | inside | rfl
  · exact starts
  · exact between node inside
  · exact ends

theorem NameRule.neutral_inner (rule : NameRule) : ∀ node ∈ rule.inner, Neutral culture node := by
  refine CustomNaming.neutral_inner neutral_nameElements neutral_nameElements ?_
  intro node member
  obtain ⟨element, _, inElement⟩ := List.mem_flatMap.mp member
  rcases List.mem_cons.mp inElement with rfl | inContent
  · exact neutral_nameElement
  · exact neutral_content neutral_nameElement _ node inContent

theorem IndexElement.neutral_inner {element : IndexElement} (shaped : element.Shaped) :
    ∀ node ∈ element.inner, Neutral culture node := by
  refine CustomNaming.neutral_inner (neutral_prefixed shaped.1) (neutral_prefixed shaped.1) ?_
  intro node member
  obtain ⟨item, inItems, inItem⟩ := List.mem_flatMap.mp member
  have space := (shaped.2 item inItems).1
  rcases List.mem_cons.mp inItem with rfl | inContent
  · exact neutral_prefixed space
  · exact neutral_content (neutral_prefixed space) _ node inContent

end Names

section Steps

variable {culture : UpperCase} {rootName : Option CodeUnits} {parser later : Parser} {node : XmlNode}

def Reads (culture : UpperCase) (rootName : Option CodeUnits) (nodes : List XmlNode) (parser later : Parser) : Prop :=
  Program.forEach (readNode culture rootName) nodes parser = (.ok (), later)

theorem Reads.nil : Reads culture rootName [] parser parser := rfl

theorem Reads.cons {nodes : List XmlNode} {last : Parser} (first : readNode culture rootName node parser = (.ok (), later))
    (rest : Reads culture rootName nodes later last) : Reads culture rootName (node :: nodes) parser last :=
  (Program.bind_of_ok first).trans rest

theorem Reads.single (first : readNode culture rootName node parser = (.ok (), later)) :
    Reads culture rootName [node] parser later := .cons first .nil

theorem Reads.append {front back : List XmlNode} {last : Parser} (first : Reads culture rootName front parser later)
    (second : Reads culture rootName back later last) : Reads culture rootName (front ++ back) parser last := by
  induction front generalizing parser with
  | nil =>
      obtain rfl : parser = later := (Prod.mk.inj first).2
      exact second
  | cons node front ih =>
      obtain ⟨_, middle, one, rest⟩ := Program.ok_of_bind first
      exact .cons one (ih rest)

end Steps

section Rules

variable {culture : UpperCase} {rootName : Option CodeUnits} {parser : Parser}

structure Describes (part : Option CodeUnits × NameElement) (np : NamePart) : Prop where
  name : np.name = part.2.name
  elementType : np.elementType = part.2.kind
  delimiter : np.delimiter = part.2.delimiter.or part.1
  elementValue : part.2.kind ≠ .property → part.2.content.text? = some np.elementValue

def Parser.withParts (parser : Parser) (parts : List NamePart) : NameGenerator :=
  { parser.generator with namePartList := parser.generator.namePartList ++ parts }

end Rules

section Indexes

variable {culture : UpperCase} {rootName : Option CodeUnits} {parser : Parser}

end Indexes

section Entries

end Entries

section Pass

variable {culture : UpperCase} {rootName : Option CodeUnits} {document : Document}

def RefersTo (rootName : Option CodeUnits) (rules : List NameRule) (element : IndexElement) : Prop :=
  ∃ part ∈ partsOf rootName rules, part.2.kind = .index ∧ part.2.content.text? = element.name

structure Passed (document front : Document) (rootName : Option CodeUnits) (generator : NameGenerator) : Prop where
  named : generator.nameRuleName = rootName
  parts : List.Forall₂ Describes (partsOf rootName front.rules) generator.namePartList
  sound : ∀ entry ∈ generator.indexElementList, entry ∈ entries document.indexElements
  complete : ∀ element ∈ front.indexElements, RefersTo rootName document.rules element →
    ∀ entry ∈ element.entries, ∃ value, (entry.1, value) ∈ generator.indexElementList

def Sound (document : Document) (generator : NameGenerator) : Prop :=
  ∀ entry ∈ generator.indexElementList, entry ∈ entries document.indexElements

end Pass

section Calls

variable {culture : UpperCase} {document : Document}

def Between (document : Document) (generator : NameGenerator) : Prop :=
  Sound document generator ∧
    (generator.nameRuleName = some [] ∨ Passed document document generator.nameRuleName generator)

theorem mem_entries_perm {elements others : List IndexElement} (moved : elements.Perm others) {entry : IndexEntry} :
    entry ∈ entries elements ↔ entry ∈ entries others := by
  simp only [entries, List.mem_flatMap, moved.mem_iff]

theorem Document.Readable.moved {other : Document} (readable : document.Readable)
    (moved : other.indexElements.Perm document.indexElements) : other.Readable where
  shaped element member := readable.shaped element (moved.mem_iff.mp member)
  unambiguous first inFirst second inSecond :=
    readable.unambiguous first ((mem_entries_perm moved).mp inFirst) second ((mem_entries_perm moved).mp inSecond)

end Calls

section Sample

theorem asciiUpper_upper (c : UInt16) (_ : c.toNat < 128) (_ : c.toNat ≠ 105) : asciiUpper c = asciiUpper c := rfl

def asciiCulture : UpperCase := ⟨asciiUpper, asciiUpper_upper⟩

def textElement (name : String) (content : Content) : NameElement where
  attributes := [(codeUnits "elementType", codeUnits "Text"), (codeUnits "name", codeUnits name)]
  content := content
  known := by
    show ElementType.text ≠ .unknown
    decide

def sampleRule (second : Content) : NameRule :=
  ⟨[(codeUnits "name", codeUnits "R"), (codeUnits "delimiter", codeUnits ".")],
    [textElement "System" (.text (codeUnits "A")), textElement "Market" second]⟩

def dataName (localName : CodeUnits) (localFree : colon ∉ localName) : QualifiedName where
  space := some (codeUnits "data")
  localName := localName
  spaceFree := by
    intro units same
    rw [← Option.some.inj same]
    decide
  localFree := localFree

def sampleIndex : IndexElement :=
  ⟨[(codeUnits "name", codeUnits "I")], dataName (codeUnits "Phases") (by decide),
    [⟨dataName (codeUnits "Planning") (by decide), .text (codeUnits "P")⟩]⟩

def sampleDocument (second : Content) : Document :=
  [.starts .tsCustomNaming, .starts .nameRules, .rule (sampleRule second), .ends .nameRules, .starts .indexElements,
    .index sampleIndex, .ends .indexElements, .ends .tsCustomNaming]

end Sample

end ServiceHost.CustomNaming
