import Mathlib.Algebra.GroupWithZero.Nat
import Mathlib.Algebra.Order.BigOperators.Group.List
import Mathlib.Algebra.Order.Group.Nat
import ServiceHost.Library.References

/-!
Replacing the first known reference of a text, again and again but not more often than a
limit allows. What is put in is searched again. A potential of the names bounds how many
replacements a text can need, and each of them lowers the weight that it gives the text.
-/

namespace ServiceHost.Library

variable {N C : Type}

abbrev PieceText (N C : Type) := List (Piece N C)

def Settled (known : N → Bool) (text : PieceText N C) : Prop := ∀ name ∈ references text, known name = false

section Search

variable (env : N → Option (PieceText N C))

/-- How the search for a known reference ends, with the number of the other references. -/
inductive Search (N C : Type)
  | atEnd (missed : Nat)
  | found (before text behind : PieceText N C) (missed : Nat)

def search : PieceText N C → PieceText N C → Nat → Search N C
  | _, [], missed => .atEnd missed
  | before, .character c :: rest, missed => search (before ++ [.character c]) rest missed
  | before, .reference name :: rest, missed =>
      match env name with
      | some text => .found before text rest missed
      | none => search (before ++ [.reference name]) rest (missed + 1)

structure Replacement (N C : Type) where
  text : PieceText N C
  changed : Bool
  missed : Nat

def replaceFrom : Nat → PieceText N C → PieceText N C → Bool → Nat → Replacement N C
  | 0, before, rest, changed, missed => ⟨before ++ rest, changed, missed⟩
  | limit + 1, before, rest, changed, missed =>
      match search env before rest missed with
      | .atEnd missed => ⟨before ++ rest, changed, missed⟩
      | .found before text behind missed => replaceFrom limit before (text ++ behind) true missed

def replaceString (limit : Nat) (text : PieceText N C) : Replacement N C := replaceFrom env limit [] text false 0

end Search

section References

theorem references_append (first second : PieceText N C) :
    references (first ++ second) = references first ++ references second := List.filterMap_append

theorem references_reference (name : N) (text : PieceText N C) :
    references (.reference name :: text) = name :: references text := rfl

variable {known : N → Bool}

theorem settled_nil : Settled known ([] : PieceText N C) := fun _ member => absurd member List.not_mem_nil

theorem Settled.append {first second : PieceText N C} (settled : Settled known first)
    (other : Settled known second) : Settled known (first ++ second) := by
  intro name member
  rw [references_append, List.mem_append] at member
  exact member.elim (settled name) (other name)

theorem Settled.character {text : PieceText N C} (settled : Settled known text) (c : C) :
    Settled known (text ++ [.character c]) := settled.append fun _ member => absurd member List.not_mem_nil

theorem Settled.reference {text : PieceText N C} (settled : Settled known text) {name : N} (unknown : known name = false) :
    Settled known (text ++ [.reference name]) := by
  apply settled.append
  intro other member
  rw [List.mem_singleton.mp member]
  exact unknown

end References

section Weight

variable (known : N → Bool) (potential : N → Nat)

def weight (text : PieceText N C) : Nat :=
  ((references text).map fun name => if known name then potential name + 1 else 0).sum

def Bounded (env : N → Option (PieceText N C)) : Prop :=
  ∀ name text, env name = some text → weight known potential text ≤ potential name

variable {known potential}

theorem weight_append (first second : PieceText N C) :
    weight known potential (first ++ second) = weight known potential first + weight known potential second := by
  rw [weight, references_append, List.map_append, List.sum_append]
  rfl

theorem weight_known {name : N} (isKnown : known name = true) (text : PieceText N C) :
    weight known potential (.reference name :: text) = potential name + 1 + weight known potential text := by
  rw [weight, references_reference, List.map_cons, List.sum_cons, isKnown]
  rfl

theorem weight_settled {text : PieceText N C} (settled : Settled known text) : weight known potential text = 0 := by
  rw [weight, List.sum_eq_zero_iff]
  intro value member
  obtain ⟨name, present, same⟩ := List.mem_map.mp member
  rw [← same, settled name present]
  rfl

theorem weight_mono {other : N → Nat} (lower : ∀ name, other name ≤ potential name) (text : PieceText N C) :
    weight known other text ≤ weight known potential text := by
  apply List.sum_le_sum
  intro name _
  cases known name with
  | false => exact Nat.le_refl _
  | true => exact Nat.succ_le_succ (lower name)

end Weight

section Steps

variable {env : N → Option (PieceText N C)} {known : N → Bool}
  (isKnown : ∀ name, known name = (env name).isSome)
include isKnown

theorem search_spec {before : PieceText N C} (rest : PieceText N C) (settled : Settled known before) :
    match search env before rest (references before).length with
    | .atEnd missed => Settled known (before ++ rest) ∧ missed = (references (before ++ rest)).length
    | .found front text behind missed =>
        Settled known front ∧ missed = (references front).length ∧
          ∃ name, env name = some text ∧ before ++ rest = front ++ .reference name :: behind := by
  induction rest generalizing before with
  | nil =>
      rw [search, List.append_nil]
      exact ⟨settled, rfl⟩
  | cons piece rest ih =>
      cases piece with
      | character c =>
          have further := ih (settled.character c)
          have count : (references (before ++ [Piece.character c])).length = (references before).length := by
            rw [references_append]
            exact congrArg List.length (List.append_nil _)
          rw [count, List.append_assoc, List.singleton_append] at further
          rw [search]
          exact further
      | reference name =>
          rw [search]
          cases value : env name with
          | some text => exact ⟨settled, rfl, name, value, rfl⟩
          | none =>
              have unknown : known name = false := by rw [isKnown, value]; rfl
              have further := ih (settled.reference unknown)
              have count : (references (before ++ [Piece.reference name])).length = (references before).length + 1 := by
                rw [references_append]
                exact List.length_append
              rw [count, List.append_assoc, List.singleton_append] at further
              exact further

/-- What has become of a text when the replacements end: nothing known is left, or the weight is
lower by the limit. -/
structure Replaced (known : N → Bool) (potential : N → Nat) (limit : Nat) (start : PieceText N C)
    (result : Replacement N C) : Prop where
  lighter : weight known potential result.text ≤ weight known potential start
  complete : (Settled known result.text ∧ result.missed = (references result.text).length) ∨
    weight known potential result.text + limit ≤ weight known potential start

theorem replaceFrom_replaced {potential : N → Nat} (bounded : Bounded known potential env) (limit : Nat)
    {before : PieceText N C} (rest : PieceText N C) (settled : Settled known before) (changed : Bool) :
    Replaced known potential limit (before ++ rest)
      (replaceFrom env limit before rest changed (references before).length) := by
  induction limit generalizing before rest changed with
  | zero => exact ⟨Nat.le_refl _, Or.inr (Nat.le_refl _)⟩
  | succ limit ih =>
      have spec := search_spec isKnown rest settled
      rw [replaceFrom]
      cases searched : search env before rest (references before).length with
      | atEnd missed =>
          rw [searched] at spec
          exact ⟨Nat.le_refl _, Or.inl spec⟩
      | found front text behind missed =>
          rw [searched] at spec
          obtain ⟨frontSettled, count, name, value, same⟩ := spec
          have named : known name = true := by rw [isKnown, value]; rfl
          have further := ih (text ++ behind) frontSettled true
          have lowered : weight known potential (front ++ (text ++ behind)) + 1 ≤
              weight known potential (before ++ rest) := by
            have enough := bounded name text value
            rw [same, weight_append, weight_append, weight_append, weight_known named]
            omega
          dsimp only
          rw [count]
          have lighter := further.lighter
          constructor
          · omega
          · rcases further.complete with complete | spent
            · exact Or.inl complete
            · exact Or.inr (by omega)

theorem replaceFrom_meaning {f : N → PieceText N C} (solves : ∀ name text, env name = some text → applyAll f text = f name)
    (limit : Nat) {before : PieceText N C} (rest : PieceText N C) (settled : Settled known before) (changed : Bool) :
    applyAll f (replaceFrom env limit before rest changed (references before).length).text =
      applyAll f (before ++ rest) := by
  induction limit generalizing before rest changed with
  | zero => rfl
  | succ limit ih =>
      have spec := search_spec isKnown rest settled
      rw [replaceFrom]
      cases searched : search env before rest (references before).length with
      | atEnd missed => rfl
      | found front text behind missed =>
          rw [searched] at spec
          obtain ⟨frontSettled, count, name, value, same⟩ := spec
          dsimp only
          rw [count, ih (text ++ behind) frontSettled true, same, applyAll_append, applyAll_append, applyAll_append,
            solves name text value]
          rfl

theorem replaceFrom_unchanged (limit : Nat) {before : PieceText N C} (rest : PieceText N C)
    (settled : Settled known before) (changed : Bool)
    (unchanged : (replaceFrom env (limit + 1) before rest changed (references before).length).changed = false) :
    (replaceFrom env (limit + 1) before rest changed (references before).length).text = before ++ rest ∧
      Settled known (before ++ rest) ∧
      (replaceFrom env (limit + 1) before rest changed (references before).length).missed =
        (references (before ++ rest)).length := by
  have stays : ∀ limit before rest missed, (replaceFrom env limit before rest true missed).changed = true := by
    intro limit
    induction limit with
    | zero => exact fun _ _ _ => rfl
    | succ limit ih =>
        intro before rest missed
        rw [replaceFrom]
        cases search env before rest missed with
        | atEnd missed => rfl
        | found front text behind missed => exact ih front (text ++ behind) missed
  have spec := search_spec isKnown rest settled
  rw [replaceFrom] at unchanged ⊢
  cases searched : search env before rest (references before).length with
  | atEnd missed =>
      rw [searched] at spec
      exact ⟨rfl, spec⟩
  | found front text behind missed =>
      rw [searched] at unchanged
      cases (stays limit front (text ++ behind) missed).symm.trans unchanged

end Steps

theorem lt_weight {known : N → Bool} {potential : N → Nat} {text : PieceText N C} {name : N}
    (member : name ∈ references text) (isKnown : known name = true) : potential name < weight known potential text := by
  have isTerm : potential name + 1 ∈
      (references text).map fun name => if known name then potential name + 1 else 0 :=
    List.mem_map.mpr ⟨name, member, by rw [isKnown]; rfl⟩
  exact List.le_sum_of_mem isTerm

theorem Bounded.ranked {env : N → Option (PieceText N C)} {known : N → Bool} {potential : N → Nat}
    (isKnown : ∀ name, known name = (env name).isSome) (bounded : Bounded known potential env) :
    Ranked potential env := by
  intro name text value other member present
  have otherKnown : known other = true := by rw [isKnown]; exact Option.isSome_iff_ne_none.mpr present
  exact Nat.lt_of_lt_of_le (lt_weight member otherKnown) (bounded name text value)

section Pieces

variable {env : N → Option (PieceText N C)} {Sound : Piece N C → Prop}
  (sound : ∀ name text, env name = some text → ∀ piece ∈ text, Sound piece)
include sound

theorem search_pieces {before front text behind : PieceText N C} (rest : PieceText N C) {missed count : Nat}
    (start : ∀ piece ∈ before ++ rest, Sound piece) (found : search env before rest missed = .found front text behind count) :
    ∀ piece ∈ front ++ (text ++ behind), Sound piece := by
  induction rest generalizing before missed with
  | nil => cases found
  | cons piece rest ih =>
      have further : ∀ other ∈ (before ++ [piece]) ++ rest, Sound other := by
        rw [List.append_assoc]
        exact start
      cases piece with
      | character c => exact ih further found
      | reference name =>
          rw [search] at found
          cases value : env name with
          | none =>
              rw [value] at found
              exact ih further found
          | some replacement =>
              rw [value] at found
              cases found
              intro other member
              rcases List.mem_append.mp member with inFront | later
              · exact start other (List.mem_append_left _ inFront)
              · rcases List.mem_append.mp later with inText | inBehind
                · exact sound name text value other inText
                · exact start other (List.mem_append_right _ (List.mem_cons_of_mem _ inBehind))

theorem replaceFrom_pieces (limit : Nat) {before : PieceText N C} (rest : PieceText N C)
    (start : ∀ piece ∈ before ++ rest, Sound piece) (changed : Bool) (missed : Nat) :
    ∀ piece ∈ (replaceFrom env limit before rest changed missed).text, Sound piece := by
  induction limit generalizing before rest changed missed with
  | zero => exact start
  | succ limit ih =>
      rw [replaceFrom]
      cases searched : search env before rest missed with
      | atEnd missed => exact start
      | found front text behind count => exact ih (text ++ behind) (search_pieces sound rest start searched) true count

end Pieces

end ServiceHost.Library
