import Mathlib.Order.Lattice
import Mathlib.Data.List.Perm.Basic
import Mathlib.Order.Defs.LinearOrder
import ServiceHost.Library.Outcome

/-!
Sorting with a comparison that may raise an exception, as far as the runtime
promises it: the order of items that compare as equal is not determined, and it is
left open which of the comparisons are made. A sort of a single item makes none.
-/

namespace ServiceHost.Library

variable {A E K : Type}

inductive SortOutcome (compare : A → A → Except E Int) (failure : E) (items : List A) : Except E (List A) → Prop
  | sorted {out : List A} (perm : out.Perm items)
      (ordered : out.Pairwise fun a b => ∃ order ≤ 0, compare a b = .ok order) :
      SortOutcome compare failure items (.ok out)
  | failed {a b : A} {exception : E} (several : 1 < items.length) (left : a ∈ items) (right : b ∈ items)
      (raised : compare a b = .error exception) : SortOutcome compare failure items (.error failure)

namespace SortOutcome

variable {compare : A → A → Except E Int} {failure : E} {items : List A}

theorem ordered_by [LinearOrder K] {key : A → K} (compares : ∀ a ∈ items, ∀ b ∈ items, ∃ order,
    compare a b = .ok order ∧ (order ≤ 0 ↔ key a ≤ key b)) {outcome : Except E (List A)}
    (sorts : SortOutcome compare failure items outcome) :
    ∃ out, outcome = .ok out ∧ out.Perm items ∧ out.Pairwise fun a b => key a ≤ key b := by
  cases sorts with
  | @sorted out perm ordered =>
      refine ⟨out, rfl, perm, ordered.imp_of_mem fun {a b} left right => ?_⟩
      rintro ⟨order, before, compared⟩
      obtain ⟨same, run, means⟩ := compares a (perm.mem_iff.mp left) b (perm.mem_iff.mp right)
      obtain rfl : order = same := Except.ok.inj (compared.symm.trans run)
      exact means.mp before
  | @failed a b exception several left right raised =>
      obtain ⟨order, run, _⟩ := compares a left b right
      rw [raised] at run
      cases run

theorem exists_sorted [LinearOrder K] {key : A → K} (compares : ∀ a ∈ items, ∀ b ∈ items, ∃ order,
    compare a b = .ok order ∧ (order ≤ 0 ↔ key a ≤ key b)) : ∃ outcome, SortOutcome compare failure items outcome := by
  have perm := List.mergeSort_perm items fun a b => decide (key a ≤ key b)
  have ordered : (items.mergeSort fun a b => decide (key a ≤ key b)).Pairwise fun a b => decide (key a ≤ key b) :=
    List.pairwise_mergeSort
    (fun a b c first second => by simpa using le_trans (by simpa using first) (by simpa using second))
    (fun a b => by simpa using le_total (key a) (key b)) items
  refine ⟨_, sorted perm (ordered.imp_of_mem fun {a b} left right before => ?_)⟩
  obtain ⟨order, run, means⟩ := compares a (perm.mem_iff.mp left) b (perm.mem_iff.mp right)
  exact ⟨order, means.mpr (by simpa using before), run⟩

theorem of_single (single : items.length ≤ 1) {outcome : Except E (List A)} :
    SortOutcome compare failure items outcome ↔ outcome = .ok items := by
  constructor
  · intro sorts
    cases sorts with
    | @sorted out perm _ =>
        congr 1
        rcases items with _ | ⟨item, _ | ⟨_, _⟩⟩
        · exact List.perm_nil.mp perm
        · exact List.perm_singleton.mp perm
        · simp at single
    | failed several => omega
  · rintro rfl
    refine sorted (List.Perm.refl items) ?_
    rcases items with _ | ⟨item, _ | ⟨_, _⟩⟩
    · exact List.Pairwise.nil
    · exact List.pairwise_singleton _ item
    · simp at single

end SortOutcome

end ServiceHost.Library
