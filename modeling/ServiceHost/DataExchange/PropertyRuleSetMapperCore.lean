import ServiceHost.Library.Expansion

/-!
`PropertyRuleSetMapper.MapValue`: the first reference of a text to a rule constant is replaced
wherever it stands, and the result is mapped again. The depth bounds the recursion.
-/

namespace ServiceHost.PropertyRules

open Library

abbrev Characters := List Char

/-- What `\w` matches. -/
structure WordCharacters where
  isWord : Char → Bool
  dollar : isWord '$' = false
  closing : isWord ')' = false

structure RuleConstant where
  name : Characters
  value : Characters

def opening : Characters := ['$', 'C', 'O', 'N', 'S', 'T', '(']

/-- `$CONST(name)`. -/
def referenceText (name : Characters) : Characters := opening ++ (name ++ [')'])

section Match

variable (words : WordCharacters)

/-- The name in the match of `\$CONST\((\w+)\)` that starts where the text starts. -/
def matchHere (text : Characters) : Option Characters :=
  let inside := text.drop opening.length
  let constName := inside.takeWhile words.isWord
  if opening <+: text ∧ constName ≠ [] ∧ (inside.dropWhile words.isWord).head? = some ')' then some constName else none

/-- `Match`: the name in the first match from the left. -/
def firstMatch : Characters → Option Characters
  | [] => none
  | c :: text => (matchHere words (c :: text)).or (firstMatch text)

/-- `Replace`: from left to right, and not again in what has been put in. -/
def replaceFrom (pattern value : Characters) : Nat → Characters → Characters
  | _, [] => []
  | skipped + 1, _ :: text => replaceFrom pattern value skipped text
  | 0, c :: text =>
      if pattern <+: c :: text then value ++ replaceFrom pattern value (pattern.length - 1) text
      else c :: replaceFrom pattern value 0 text

def replace (value pattern constValue : Characters) : Characters := replaceFrom pattern constValue 0 value

variable (ruleConstants : List RuleConstant)

def valueOf (constName : Characters) : Option Characters :=
  (ruleConstants.find? fun ruleConstant => ruleConstant.name = constName).map RuleConstant.value

def mapValue : Nat → Characters → Option Characters
  | 0, _ => none
  | depth + 1, value =>
      match firstMatch words value with
      | none => some value
      | some constName =>
          match valueOf ruleConstants constName with
          | none => some value
          | some constValue => mapValue depth (replace value (referenceText constName) constValue)

end Match

end ServiceHost.PropertyRules
