import Mathlib.Data.List.Basic

/-!
Cutting a text where marks begin. Whether one begins at a place is told by what follows, so
marks may overlap. Every piece but the part before the first mark begins with a mark.
-/

namespace ServiceHost.Library

variable {C : Type}

/-- The part before the first mark, and the pieces from one mark to the next. -/
def cut (begins : List C → Bool) : List C → List C × List (List C)
  | [] => ([], [])
  | c :: text =>
      if begins (c :: text) then ([], (c :: (cut begins text).1) :: (cut begins text).2)
      else (c :: (cut begins text).1, (cut begins text).2)

/-- The place of the first mark of a text whose first place has a number. -/
def findMark (begins : List C → Bool) : List C → Nat → Option Nat
  | [], _ => none
  | c :: text, place => if begins (c :: text) then some place else findMark begins text (place + 1)

section Marks

variable {begins : List C → Bool} {text : List C}

theorem cut_of_begins {c : C} (here : begins (c :: text) = true) :
    cut begins (c :: text) = ([], (c :: (cut begins text).1) :: (cut begins text).2) := if_pos here

theorem cut_of_not_begins {c : C} (other : begins (c :: text) = false) :
    cut begins (c :: text) = (c :: (cut begins text).1, (cut begins text).2) :=
  if_neg (Bool.eq_false_iff.mp other)

theorem cut_flatten (begins : List C → Bool) (text : List C) :
    (cut begins text).1 ++ (cut begins text).2.flatten = text := by
  induction text with
  | nil => rfl
  | cons c text ih =>
      cases here : begins (c :: text) with
      | true =>
          rw [cut_of_begins here, List.nil_append, List.flatten_cons, List.cons_append, ih]
      | false => rw [cut_of_not_begins here, List.cons_append, ih]

theorem findMark_eq (begins : List C → Bool) (text : List C) (place : Nat) :
    findMark begins text place =
      if (cut begins text).2 = [] then none else some (place + (cut begins text).1.length) := by
  induction text generalizing place with
  | nil => rfl
  | cons c text ih =>
      cases here : begins (c :: text) with
      | true => simp [findMark, here, cut_of_begins here]
      | false =>
          rw [findMark, if_neg (Bool.eq_false_iff.mp here), ih, cut_of_not_begins here, List.length_cons,
            Nat.add_assoc, Nat.add_comm 1]

theorem cut_of_findMark_none {place : Nat} (none : findMark begins text place = Option.none) :
    cut begins text = (text, []) := by
  rw [findMark_eq] at none
  have noPieces : (cut begins text).2 = [] := by
    by_contra some
    rw [if_neg some] at none
    cases none
  have whole := cut_flatten begins text
  rw [noPieces, List.flatten_nil, List.append_nil] at whole
  exact Prod.ext whole noPieces

theorem cut_of_findMark_some {place found : Nat} (some : findMark begins text place = Option.some found) :
    place ≤ found ∧ found - place < text.length ∧ (cut begins text).1 = text.take (found - place) ∧
      cut begins (text.drop (found - place)) = ([], (cut begins text).2) := by
  induction text generalizing place with
  | nil => cases some
  | cons c text ih =>
      rw [findMark] at some
      cases here : begins (c :: text) with
      | true =>
          rw [if_pos here, Option.some.injEq] at some
          subst some
          rw [Nat.sub_self, List.drop_zero, List.take_zero, cut_of_begins here]
          exact ⟨Nat.le_refl _, Nat.succ_pos _, rfl, rfl⟩
      | false =>
          rw [if_neg (Bool.eq_false_iff.mp here)] at some
          obtain ⟨later, inside, before, rest⟩ := ih some
          have next : found - place = (found - (place + 1)) + 1 := by omega
          rw [cut_of_not_begins here, next, List.take_succ_cons, List.drop_succ_cons, List.length_cons, before]
          exact ⟨by omega, Nat.succ_lt_succ inside, rfl, rest⟩

end Marks

end ServiceHost.Library
