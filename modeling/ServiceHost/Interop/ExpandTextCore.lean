import ServiceHost.Interop.EnvironmentCore
import ServiceHost.Library.Expansion

/-!
`expand` on the characters of a text. What a pass takes for references depends on where the
percent signs stand, and a result that does not fit leaves what the buffer then holds. The
depth bounds the recursion.
-/

namespace ServiceHost.EnvironmentText

open Library

abbrev Characters := List Char

abbrev Variables := List (Characters × Characters)

section Pass

variable (environ : Variables)

def valueOf (key : Characters) : Option Characters :=
  (environ.find? fun entry => VariableName.key entry.1 = key).map Prod.snd

def readPieces : Option Characters → Characters → List (Piece Characters Char)
  | none, [] => []
  | some name, [] => .character '%' :: name.map .character
  | none, c :: rest => if c = '%' then readPieces (some []) rest else .character c :: readPieces none rest
  | some name, c :: rest =>
      if c = '%' then
        if (valueOf environ (VariableName.key name)).isSome then
          .reference (VariableName.key name) :: readPieces none rest
        else .character '%' :: (name.map .character ++ readPieces (some []) rest)
      else readPieces (some (name ++ [c])) rest

def pieces (text : Characters) : List (Piece Characters Char) := readPieces environ none text

def pieceText : Piece Characters Char → Characters
  | .character c => [c]
  | .reference key => (valueOf environ key).getD []

/-- The result of `ExpandEnvironmentStrings`: the value of each variable that the text refers to, in one pass. -/
def expandEnvironmentStrings (text : Characters) : Characters := (pieces environ text).flatMap (pieceText environ)

end Pass

def bufferSize : Nat := 10000

structure Leftover where
  content : Characters → Characters
  short : ∀ text, (content text).length < bufferSize

inductive BufferOverrun
  | strcpy
deriving DecidableEq

section Expand

variable (environ : Variables) (leftover : Leftover)

/-- The buffer after the pass, which is not written beyond its size, and the size that the result needs. -/
def callExpand (s : Characters) : Characters × Nat :=
  let result := expandEnvironmentStrings environ s
  (if result.length + 1 ≤ bufferSize then result else leftover.content s, result.length + 1)

def copyToBuffer (text : Characters) : Except BufferOverrun Characters :=
  if text.length < bufferSize then .ok text else .error .strcpy

def expand : Nat → Characters → Option (Except BufferOverrun Characters)
  | 0, _ => none
  | depth + 1, s =>
      if '%' ∈ s then
        let (buffer, res) := callExpand environ leftover s
        let recurse : Bool := s ≠ buffer
        if recurse && decide ('%' ∈ buffer) then
          (expand depth buffer).map fun exp => do
            let buffer ← copyToBuffer (← exp)
            return if 0 < res ∧ res < bufferSize then buffer else s
        else some (.ok (if 0 < res ∧ res < bufferSize then buffer else s))
      else some (.ok s)

end Expand

end ServiceHost.EnvironmentText
