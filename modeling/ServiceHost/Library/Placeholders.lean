import Mathlib.Data.List.Nodup

/-!
Texts with placeholders: a mark and a name behind it. A command that binds by position gives
the values, one after the other, to the placeholders from the left.
-/

namespace ServiceHost.Library

inductive Part (C V : Type)
  | text (characters : List C)
  | value (bound : V)

namespace Placeholders

section Scan

variable {C V : Type} [DecidableEq C] (mark : C) (isName : C → Bool)

def placeholders : List C → List (List C)
  | [] => []
  | c :: text =>
      if c = mark ∧ text.head?.any isName = true then (c :: text.takeWhile isName) :: placeholders text
      else placeholders text

/-- The text with the values in place of the placeholders, none when there are too few or too
many of them. The flag tells that the last character belongs to a placeholder. -/
def bindFrom : Bool → List C → List V → Option (List (C ⊕ V))
  | _, [], values => if values.isEmpty then some [] else none
  | inName, c :: text, values =>
      if inName && isName c then bindFrom true text values
      else if c = mark ∧ text.head?.any isName = true then
        match values with
        | [] => none
        | value :: values => (bindFrom true text values).map (Sum.inr value :: ·)
      else (bindFrom false text values).map (Sum.inl c :: ·)

def bindByPosition (text : List C) (values : List V) : Option (List (C ⊕ V)) := bindFrom mark isName false text values

end Scan

section Parts

variable {C V : Type}

def valuesOf : List (Part C V) → List V
  | [] => []
  | .text _ :: rest => valuesOf rest
  | .value bound :: rest => bound :: valuesOf rest

def spelled : List (Part C V) → List (C ⊕ V)
  | [] => []
  | .text characters :: rest => characters.map Sum.inl ++ spelled rest
  | .value bound :: rest => Sum.inr bound :: spelled rest

variable (placeholder : Nat → List C)

def written : Nat → List (Part C V) → List C
  | _, [] => []
  | number, .text characters :: rest => characters ++ written number rest
  | number, .value _ :: rest => placeholder number ++ written (number + 1) rest

def firstOf : List (Part C V) → Option C
  | [] => none
  | .text [] :: rest => firstOf rest
  | .text (c :: _) :: _ => some c
  | .value _ :: _ => none

@[simp] theorem valuesOf_append (front rest : List (Part C V)) : valuesOf (front ++ rest) = valuesOf front ++ valuesOf rest := by
  induction front with
  | nil => rfl
  | cons part front ih =>
      cases part with
      | text characters => exact ih
      | value bound => exact congrArg (bound :: ·) ih

theorem written_append (number : Nat) (front rest : List (Part C V)) :
    written placeholder number (front ++ rest) =
      written placeholder number front ++ written placeholder (number + (valuesOf front).length) rest := by
  induction front generalizing number with
  | nil => rfl
  | cons part front ih =>
      cases part with
      | text characters =>
          rw [List.cons_append, written, ih, written, List.append_assoc]
          rfl
      | value bound =>
          rw [List.cons_append, written, ih, written, List.append_assoc, valuesOf, List.length_cons,
            Nat.add_assoc, Nat.add_comm 1]

variable (mark : C) (isName : C → Bool)

structure Naming : Prop where
  notName : isName mark = false
  named : ∀ number, ∃ name, placeholder number = mark :: name ∧ name ≠ [] ∧ ∀ c ∈ name, isName c = true

/-- No text has a mark, and no text behind a value goes on with its name. -/
def Apart : List (Part C V) → Prop
  | [] => True
  | .text characters :: rest => mark ∉ characters ∧ Apart rest
  | .value _ :: rest => (∀ c, firstOf rest = some c → isName c = false) ∧ Apart rest

structure Clause (parts : List (Part C V)) : Prop where
  apart : Apart mark isName parts
  first : ∀ c, firstOf parts = some c → isName c = false

end Parts

section Facts

variable {C V : Type} {mark : C} {isName : C → Bool} {placeholder : Nat → List C} {front rest parts : List (Part C V)}

theorem firstOf_append {c : C} (first : firstOf (front ++ rest) = some c) :
    firstOf front = some c ∨ firstOf rest = some c := by
  induction front with
  | nil => exact .inr first
  | cons part front ih =>
      cases part with
      | text characters =>
          cases characters with
          | nil => exact ih first
          | cons other characters => exact .inl first
      | value bound => cases first

theorem Clause.append (frontClause : Clause mark isName front) (restClause : Clause mark isName rest) :
    Clause mark isName (front ++ rest) := by
  constructor
  · have apart := frontClause.apart
    clear frontClause
    induction front with
    | nil => exact restClause.apart
    | cons part front ih =>
        cases part with
        | text characters => exact ⟨apart.1, ih apart.2⟩
        | value bound =>
            refine ⟨fun c first => ?_, ih apart.2⟩
            rcases firstOf_append first with here | behind
            · exact apart.1 c here
            · exact restClause.first c behind
  · intro c first
    rcases firstOf_append first with here | behind
    · exact frontClause.first c here
    · exact restClause.first c behind

theorem Clause.nil : Clause mark isName ([] : List (Part C V)) := ⟨trivial, fun _ first => nomatch first⟩

theorem head_written (naming : Naming placeholder mark isName) (first : ∀ c, firstOf parts = some c → isName c = false)
    {number : Nat} {c : C} (head : (written placeholder number parts).head? = some c) : isName c = false := by
  induction parts with
  | nil => cases head
  | cons part parts ih =>
      cases part with
      | text characters =>
          cases characters with
          | nil => exact ih first head
          | cons other characters => exact first c head
      | value bound =>
          obtain ⟨name, told, -, -⟩ := naming.named number
          rw [written, told] at head
          have same : mark = c := Option.some.inj head
          rw [← same]
          exact naming.notName

variable [DecidableEq C] {text : List C} {values : List V}

theorem bindFrom_cons (inName : Bool) (c : C) : bindFrom mark isName inName (c :: text) values =
    if inName && isName c then bindFrom mark isName true text values
    else if c = mark ∧ text.head?.any isName = true then
      match values with
      | [] => none
      | value :: values => (bindFrom mark isName true text values).map (Sum.inr value :: ·)
    else (bindFrom mark isName false text values).map (Sum.inl c :: ·) := rfl

theorem bindFrom_text {characters : List C} (unmarked : mark ∉ characters) :
    bindFrom mark isName false (characters ++ text) values =
      (bindFrom mark isName false text values).map (characters.map Sum.inl ++ ·) := by
  induction characters with
  | nil => exact Option.map_id'.symm
  | cons c characters ih =>
      rw [List.mem_cons, not_or] at unmarked
      rw [List.cons_append, bindFrom_cons, Bool.false_and, if_neg Bool.false_ne_true,
        if_neg fun marked => unmarked.1 marked.1.symm, ih unmarked.2, Option.map_map]
      rfl

theorem bindFrom_name {name : List C} (isNames : ∀ c ∈ name, isName c = true) :
    bindFrom mark isName true (name ++ text) values = bindFrom mark isName true text values := by
  induction name with
  | nil => rfl
  | cons c name ih =>
      have here : (true && isName c) = true := isNames c List.mem_cons_self
      rw [List.cons_append, bindFrom_cons, if_pos here]
      exact ih fun other member => isNames other (List.mem_cons_of_mem c member)

theorem bindFrom_other (ends : ∀ c, text.head? = some c → isName c = false) :
    bindFrom mark isName true text values = bindFrom mark isName false text values := by
  cases text with
  | nil => rfl
  | cons c text => rw [bindFrom_cons, bindFrom_cons, ends c rfl, Bool.and_false, Bool.and_false]

theorem bindByPosition_written (naming : Naming placeholder mark isName) (apart : Apart mark isName parts) (number : Nat) :
    bindByPosition mark isName (written placeholder number parts) (valuesOf parts) = some (spelled parts) := by
  unfold bindByPosition
  induction parts generalizing number with
  | nil => rfl
  | cons part parts ih =>
      cases part with
      | text characters =>
          rw [written, valuesOf, bindFrom_text apart.1, ih apart.2]
          rfl
      | value bound =>
          obtain ⟨name, told, nonempty, isNames⟩ := naming.named number
          have named : mark = mark ∧ (name ++ written placeholder (number + 1) parts).head?.any isName = true := by
            cases name with
            | nil => exact absurd rfl nonempty
            | cons c name => exact ⟨rfl, isNames c List.mem_cons_self⟩
          rw [written, told, List.cons_append, bindFrom_cons, Bool.false_and, if_neg Bool.false_ne_true, if_pos named]
          rw [valuesOf]
          dsimp only
          rw [bindFrom_name isNames, bindFrom_other fun c head => head_written naming apart.1 head, ih apart.2]
          rfl

theorem placeholders_unmarked {characters : List C} (unmarked : mark ∉ characters) :
    placeholders mark isName (characters ++ text) = placeholders mark isName text := by
  induction characters with
  | nil => rfl
  | cons c characters ih =>
      rw [List.mem_cons, not_or] at unmarked
      rw [List.cons_append, placeholders, if_neg fun marked => unmarked.1 marked.1.symm, ih unmarked.2]

theorem placeholders_written (naming : Naming placeholder mark isName) (apart : Apart mark isName parts) (number : Nat) :
    placeholders mark isName (written placeholder number parts) =
      (List.range' number (valuesOf parts).length).map placeholder := by
  induction parts generalizing number with
  | nil => rfl
  | cons part parts ih =>
      cases part with
      | text characters => rw [written, placeholders_unmarked apart.1, ih apart.2, valuesOf]
      | value bound =>
          obtain ⟨name, told, nonempty, isNames⟩ := naming.named number
          have named : mark = mark ∧ (name ++ written placeholder (number + 1) parts).head?.any isName = true := by
            cases name with
            | nil => exact absurd rfl nonempty
            | cons c name => exact ⟨rfl, isNames c List.mem_cons_self⟩
          have unmarked : mark ∉ name := by
            intro member
            have notName := naming.notName
            rw [isNames mark member] at notName
            cases notName
          have behind : (written placeholder (number + 1) parts).takeWhile isName = [] := by
            cases text : written placeholder (number + 1) parts with
            | nil => rfl
            | cons c text =>
                have ends := head_written naming apart.1 (by rw [text]; exact rfl : _ = some c)
                rw [List.takeWhile_cons, ends]
                rfl
          rw [written, told, List.cons_append, placeholders, if_pos named, List.takeWhile_append_of_pos isNames, behind,
            List.append_nil, placeholders_unmarked unmarked, ih apart.2, valuesOf, List.length_cons, List.range'_succ,
            List.map_cons, told]

end Facts

end Placeholders

end ServiceHost.Library
