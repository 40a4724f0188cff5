import Mathlib.Data.List.Lex
import ServiceHost.Library.SortedEntries

/-!
`StringExpander`: the values of a map are expanded in place, with the map itself as the
dictionary. A string is a list of bytes, and letters are those of the "C" locale.
-/

namespace ServiceHost.Configuration

open Library

abbrev Text := List UInt8

/-- Bytes compare as numbers that have no sign. -/
scoped instance linearOrderUInt8 : LinearOrder UInt8 where
  le_refl := UInt8.le_refl
  le_trans _ _ _ := UInt8.le_trans
  lt_iff_le_not_ge _ _ :=
    ⟨fun less => ⟨UInt8.le_of_lt less, UInt8.not_le.mpr less⟩, fun both => UInt8.not_le.mp both.2⟩
  le_antisymm _ _ := UInt8.le_antisymm
  le_total := UInt8.le_total
  toDecidableLE := inferInstance

/-- `CfgMap`. -/
abbrev CfgMap := SortedEntries Text Text

def ascii (characters : String) : Text := characters.toList.map fun c => UInt8.ofNat c.toNat

def metaChar : UInt8 := 37

def isKeyChar (c : UInt8) : Bool :=
  (65 ≤ c && c ≤ 90) || (97 ≤ c && c ≤ 122) || (48 ≤ c && c ≤ 57) || c = 95 || c = 46 || c = 45

/-- `find(metaChar, …)`: the bytes before the character that is found, and those behind it. -/
def findMeta : Text → Option (Text × Text)
  | [] => none
  | c :: rest =>
      if c = metaChar then some ([], rest) else (findMeta rest).map fun parts => (c :: parts.1, parts.2)

inductive ScanResult
  | atEnd (missedMapping : Nat)
  | found (before value behind : Text) (missedMapping : Nat)
deriving DecidableEq

/-- The loop up to the next replacement: the string is what is before the position and the rest.
There is fuel for each byte of the rest. -/
def scan (find : Text → Option Text) : Nat → Text → Text → Nat → ScanResult
  | 0, _, _, missedMapping => .atEnd missedMapping
  | fuel + 1, before, rest, missedMapping =>
      match findMeta rest with
      | some (plain, first :: second :: behind) =>
          match findMeta (second :: behind) with
          | some (name, after) =>
              let key := first :: name
              if key.all isKeyChar then
                match find key with
                | some value => .found (before ++ plain) value after missedMapping
                | none =>
                    scan find fuel (before ++ plain ++ metaChar :: (key ++ [metaChar])) after (missedMapping + 1)
              else scan find fuel (before ++ plain ++ metaChar :: key) (metaChar :: after) missedMapping
          | none => .atEnd missedMapping
      | _ => .atEnd missedMapping

structure Expansion where
  x : Text
  changed : Bool
  missedMapping : Nat
deriving DecidableEq

/-- The loop from one replacement to the next, as many times as there are left. What is put in is
scanned again. -/
def expandFrom (find : Text → Option Text) : Nat → Text → Text → Bool → Nat → Expansion
  | 0, before, rest, changed, missedMapping => ⟨before ++ rest, changed, missedMapping⟩
  | replacements + 1, before, rest, changed, missedMapping =>
      match scan find rest.length before rest missedMapping with
      | .atEnd missedMapping => ⟨before ++ rest, changed, missedMapping⟩
      | .found before value behind missedMapping =>
          expandFrom find replacements before (value ++ behind) true missedMapping

def expandString (find : Text → Option Text) (x : Text) : Expansion := expandFrom find 10 [] x false 0

/-- `m.find(key)`. -/
def find {V : Type} (entries : List (Text × V)) (key : Text) : Option V :=
  (entries.find? fun entry => entry.1 = key).map Prod.snd

theorem find_of_nodup {V : Type} {entries : List (Text × V)} (distinct : (entries.map Prod.fst).Nodup)
    {entry : Text × V} (member : entry ∈ entries) : find entries entry.1 = some entry.2 := by
  induction entries with
  | nil => cases member
  | cons first entries ih =>
      obtain ⟨fresh, distinctRest⟩ := List.nodup_cons.mp distinct
      rcases List.mem_cons.mp member with same | later
      · simp only [find, same, List.find?_cons, decide_true, Option.map_some]
      · have other : first.1 ≠ entry.1 := by
          intro same
          exact fresh (same ▸ List.mem_map_of_mem later)
        have skipped : find (first :: entries) entry.1 = find entries entry.1 := by
          simp only [find, List.find?_cons, other, decide_false]
        exact skipped.trans (ih distinctRest later)

structure Pass where
  entries : List (Text × Text)
  changeCount : Nat
  notExpanded : Nat
deriving DecidableEq

/-- One pass over the map: the entries that have been passed, and those to come. -/
def expandEntries : List (Text × Text) → List (Text × Text) → Nat → Nat → Pass
  | passed, [], changeCount, notExpanded => ⟨passed, changeCount, notExpanded⟩
  | passed, entry :: entries, changeCount, notExpanded =>
      let expansion := expandString (find (passed ++ entry :: entries)) entry.2
      expandEntries (passed ++ [(entry.1, expansion.x)]) entries
        (if expansion.changed then changeCount + 1 else changeCount)
        (if expansion.missedMapping ≠ 0 then notExpanded + 1 else notExpanded)

def maxExpandCount : Nat := 10

def expandPasses : Nat → List (Text × Text) → List (Text × Text) × Nat
  | 0, entries => (entries, 0)
  | retries + 1, entries =>
      let pass := expandEntries [] entries 0 0
      if pass.changeCount ≠ 0 ∧ retries ≠ 0 then expandPasses retries pass.entries
      else (pass.entries, pass.notExpanded)

theorem expandEntries_keys (passed entries : List (Text × Text)) (changeCount notExpanded : Nat) :
    (expandEntries passed entries changeCount notExpanded).entries.map Prod.fst = (passed ++ entries).map Prod.fst := by
  induction entries generalizing passed changeCount notExpanded with
  | nil => rw [expandEntries, List.append_nil]
  | cons entry entries ih =>
      rw [expandEntries, ih, List.append_assoc, List.map_append, List.map_append, List.map_append]
      rfl

theorem expandPasses_keys (retries : Nat) (entries : List (Text × Text)) :
    (expandPasses retries entries).1.map Prod.fst = entries.map Prod.fst := by
  induction retries generalizing entries with
  | zero => rfl
  | succ retries ih =>
      have kept := expandEntries_keys [] entries 0 0
      rw [expandPasses]
      split
      · rw [ih, kept, List.nil_append]
      · exact kept

def expandMap (m : CfgMap) : CfgMap × Nat :=
  let result := expandPasses maxExpandCount m.entries
  (⟨result.1, by
    have sorted := List.pairwise_map.mpr m.sorted
    rw [← expandPasses_keys maxExpandCount m.entries] at sorted
    exact List.pairwise_map.mp sorted⟩, result.2)

end ServiceHost.Configuration
