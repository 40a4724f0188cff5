import ServiceHost.DataExchange.PropertyRuleSetMapperCore

/-!
When `MapValue` ends, and when it returns the full recursive expansion. A reference that cannot be
resolved keeps back those behind it, and constants that mention each other may be replaced without an end.
-/

namespace ServiceHost.PropertyRules

open Library

section Pieces

variable (words : WordCharacters)

def readPieces : Nat → Characters → List (Piece Characters Char)
  | _, [] => []
  | skipped + 1, _ :: text => readPieces skipped text
  | 0, c :: text =>
      match matchHere words (c :: text) with
      | none => .character c :: readPieces 0 text
      | some name => .reference name :: readPieces ((referenceText name).length - 1) text

def pieces (text : Characters) : List (Piece Characters Char) := readPieces words 0 text

def pieceText : Piece Characters Char → Characters
  | .character c => [c]
  | .reference name => referenceText name

def textOf (pieces : List (Piece Characters Char)) : Characters := pieces.flatMap pieceText

variable {words} {text name : Characters}

end Pieces

section Rest

variable (words : WordCharacters) (ruleConstants : List RuleConstant)

def next (value : Characters) : Characters :=
  match firstMatch words value with
  | none => value
  | some constName =>
      match valueOf ruleConstants constName with
      | none => value
      | some constValue => replace value (referenceText constName) constValue

def Stops (value : Characters) : Prop := ∀ constName, firstMatch words value = some constName → valueOf ruleConstants constName = none

def ComesToRest (value : Characters) : Prop := ∃ steps, Stops words ruleConstants ((next words ruleConstants)^[steps] value)

variable {words ruleConstants} {value text : Characters} {depth : Nat}

end Rest

section Meaning

variable (words : WordCharacters) (ruleConstants : List RuleConstant)

def definitions (name : Characters) : Option (List (Piece Characters Char)) := (valueOf ruleConstants name).map (pieces words)

def firstReplaced (value name : Characters) : List (Piece Characters Char) :=
  if firstMatch words value = some name then (definitions words ruleConstants name).getD [.reference name] else [.reference name]

def Unglued (value : Characters) : Prop := ∀ steps, pieces words ((next words ruleConstants)^[steps + 1] value) =
  applyAll (firstReplaced words ruleConstants ((next words ruleConstants)^[steps] value))
    (pieces words ((next words ruleConstants)^[steps] value))

structure Expands (value : Characters) : Prop where
  ends : ∃ depth text, mapValue words ruleConstants depth value = some text
  expansion : WithoutCycles (definitions words ruleConstants) (pieces words value) →
    ∃ depth text expanded, mapValue words ruleConstants depth value = some text ∧
      (∀ name ∈ references (pieces words text), valueOf ruleConstants name = none) ∧
      Expansion (definitions words ruleConstants) (pieces words value) expanded ∧ text = textOf expanded

variable {words ruleConstants} {value name : Characters}

theorem definitions_eq_none : definitions words ruleConstants name = none ↔ valueOf ruleConstants name = none :=
  Option.map_eq_none_iff

theorem firstReplaced_cases (value name : Characters) :
    firstReplaced words ruleConstants value name = [.reference name] ∨
      definitions words ruleConstants name = some (firstReplaced words ruleConstants value name) := by
  rw [firstReplaced]
  split
  · cases definitions words ruleConstants name with
    | none => exact .inl rfl
    | some inner => exact .inr rfl
  · exact .inl rfl

theorem Unglued.tail (unglued : Unglued words ruleConstants value) :
    Unglued words ruleConstants (next words ruleConstants value) := fun steps => unglued (steps + 1)

theorem Unglued.first (unglued : Unglued words ruleConstants value) : pieces words (next words ruleConstants value) =
    applyAll (firstReplaced words ruleConstants value) (pieces words value) := unglued 0

theorem Unglued.expansion (unglued : Unglued words ruleConstants value) {expanded : List (Piece Characters Char)}
    (expansion : Expansion (definitions words ruleConstants) (pieces words value) expanded) (steps : Nat) :
    Expansion (definitions words ruleConstants) (pieces words ((next words ruleConstants)^[steps] value)) expanded := by
  induction steps with
  | zero => exact expansion
  | succ steps ih =>
      rw [unglued]
      exact ih.applyAll (firstReplaced_cases _)

theorem exists_fullExpansion (acyclic : WithoutCycles (definitions words ruleConstants) (pieces words value)) :
    ∃ expanded, Expansion (definitions words ruleConstants) (pieces words value) expanded := by
  refine exists_expansion (ruleConstants.map RuleConstant.name) (fun name known => ?_) acyclic
  rw [Ne, definitions_eq_none, valueOf, Option.map_eq_none_iff, List.find?_eq_none] at known
  push Not at known
  obtain ⟨ruleConstant, member, same⟩ := known
  exact List.mem_map.mpr ⟨ruleConstant, member, of_decide_eq_true same⟩

end Meaning

section Sample

def letters : WordCharacters := ⟨Char.isAlpha, rfl, rfl⟩

end Sample

end ServiceHost.PropertyRules
