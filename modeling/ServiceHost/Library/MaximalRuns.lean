import Mathlib.Data.List.Basic
import Mathlib.Data.List.Pairwise

/-!
The maximal runs of a property of the numbers below a bound, in order, as half-open intervals.
-/

namespace ServiceHost.Library

/-- The runs after the number has been found to have the property. -/
def extendRuns (number : Nat) (runs : List (Nat × Nat)) : List (Nat × Nat) :=
  match runs.getLast? with
  | none => [(number, number + 1)]
  | some (first, stop) =>
      if stop = number then runs.dropLast ++ [(first, number + 1)] else runs ++ [(number, number + 1)]

def maximalRuns (asked : Nat → Bool) : Nat → List (Nat × Nat)
  | 0 => []
  | number + 1 => if asked number then extendRuns number (maximalRuns asked number) else maximalRuns asked number

/-- Intervals that are nonempty, do not touch, and together are the numbers with the property. -/
structure AreRuns (asked : Nat → Bool) (bound : Nat) (runs : List (Nat × Nat)) : Prop where
  apart : runs.Pairwise fun earlier later => earlier.2 < later.1
  positive : ∀ run ∈ runs, run.1 < run.2
  inside : ∀ run ∈ runs, run.2 ≤ bound
  asks : ∀ number < bound, asked number = true ↔ ∃ run ∈ runs, run.1 ≤ number ∧ number < run.2

variable {asked : Nat → Bool} {bound : Nat} {runs : List (Nat × Nat)}

theorem extendRuns_concat (number : Nat) (runs : List (Nat × Nat)) (first stop : Nat) :
    extendRuns number (runs ++ [(first, stop)]) =
      if stop = number then runs ++ [(first, number + 1)] else runs ++ [(first, stop), (number, number + 1)] := by
  unfold extendRuns
  rw [List.getLast?_concat, List.dropLast_concat, List.append_assoc]
  rfl

namespace AreRuns

theorem empty (asked : Nat → Bool) : AreRuns asked 0 [] :=
  ⟨List.Pairwise.nil, fun _ member => (nomatch member), fun _ member => (nomatch member), fun _ less => (nomatch less)⟩

theorem skip (areRuns : AreRuns asked bound runs) (skipped : asked bound = false) : AreRuns asked (bound + 1) runs := by
  refine ⟨areRuns.apart, areRuns.positive, fun run member => Nat.le_succ_of_le (areRuns.inside run member), ?_⟩
  intro number less
  rcases Nat.lt_succ_iff_lt_or_eq.mp less with earlier | rfl
  · exact areRuns.asks number earlier
  · refine iff_of_false (by rw [skipped]; exact Bool.false_ne_true) ?_
    rintro ⟨run, member, -, below⟩
    exact absurd below (Nat.not_lt.mpr (areRuns.inside run member))

theorem begins (areRuns : AreRuns asked bound runs) (isAsked : asked bound = true)
    (away : ∀ run ∈ runs, run.2 < bound) : AreRuns asked (bound + 1) (runs ++ [(bound, bound + 1)]) := by
  refine ⟨?_, ?_, ?_, ?_⟩
  · refine List.pairwise_append.mpr ⟨areRuns.apart, List.pairwise_singleton _ _, fun run member later isLast => ?_⟩
    rw [List.mem_singleton.mp isLast]
    exact away run member
  · intro run member
    rcases List.mem_append.mp member with earlier | isLast
    · exact areRuns.positive run earlier
    · rw [List.mem_singleton.mp isLast]
      exact Nat.lt_succ_self _
  · intro run member
    rcases List.mem_append.mp member with earlier | isLast
    · exact Nat.le_succ_of_le (areRuns.inside run earlier)
    · exact Nat.le_of_eq (congrArg Prod.snd (List.mem_singleton.mp isLast))
  · intro number less
    simp only [List.mem_append, List.mem_singleton, or_and_right, exists_or, exists_eq_left]
    rcases Nat.lt_succ_iff_lt_or_eq.mp less with earlier | rfl
    · rw [areRuns.asks number earlier, or_iff_left]
      omega
    · exact iff_of_true isAsked (Or.inr ⟨Nat.le_refl _, Nat.lt_succ_self _⟩)

theorem goOn {first : Nat} (areRuns : AreRuns asked bound (runs ++ [(first, bound)])) (isAsked : asked bound = true) :
    AreRuns asked (bound + 1) (runs ++ [(first, bound + 1)]) := by
  obtain ⟨apart, -, before⟩ := List.pairwise_append.mp areRuns.apart
  have positive : first < bound := areRuns.positive _ (List.mem_append_right _ (List.mem_singleton_self _))
  refine ⟨?_, ?_, ?_, ?_⟩
  · refine List.pairwise_append.mpr ⟨apart, List.pairwise_singleton _ _, fun run member later isLast => ?_⟩
    rw [List.mem_singleton.mp isLast]
    exact before run member (first, bound) (List.mem_singleton_self _)
  · intro run member
    rcases List.mem_append.mp member with earlier | isLast
    · exact areRuns.positive run (List.mem_append_left _ earlier)
    · rw [List.mem_singleton.mp isLast]
      exact Nat.lt_succ_of_lt positive
  · intro run member
    rcases List.mem_append.mp member with earlier | isLast
    · exact Nat.le_succ_of_le (areRuns.inside run (List.mem_append_left _ earlier))
    · exact Nat.le_of_eq (congrArg Prod.snd (List.mem_singleton.mp isLast))
  · intro number less
    have asks := areRuns.asks number
    simp only [List.mem_append, List.mem_singleton, or_and_right, exists_or, exists_eq_left] at asks ⊢
    rcases Nat.lt_succ_iff_lt_or_eq.mp less with earlier | rfl
    · rw [asks earlier]
      refine or_congr_right ?_
      omega
    · exact iff_of_true isAsked (Or.inr ⟨Nat.le_of_lt positive, Nat.lt_succ_self _⟩)

theorem away {first stop : Nat} (areRuns : AreRuns asked bound (runs ++ [(first, stop)])) (other : stop ≠ bound) :
    ∀ run ∈ runs ++ [(first, stop)], run.2 < bound := by
  obtain ⟨-, -, before⟩ := List.pairwise_append.mp areRuns.apart
  have isLast : (first, stop) ∈ runs ++ [(first, stop)] := List.mem_append_right _ (List.mem_singleton_self _)
  have positive := areRuns.positive _ isLast
  have inside := areRuns.inside _ isLast
  dsimp only at positive inside
  intro run member
  rcases List.mem_append.mp member with earlier | same
  · have less := before run earlier _ (List.mem_singleton_self _)
    dsimp only at less
    omega
  · rw [List.mem_singleton.mp same]
    dsimp only
    omega

theorem apart_of_ne (areRuns : AreRuns asked bound runs) {run other : Nat × Nat} (member : run ∈ runs)
    (present : other ∈ runs) (different : run ≠ other) : run.2 < other.1 ∨ other.2 < run.1 := by
  have symmetric : Std.Symm fun one another : Nat × Nat => one.2 < another.1 ∨ another.2 < one.1 :=
    ⟨fun _ _ => Or.symm⟩
  exact (areRuns.apart.imp Or.inl : runs.Pairwise fun one another => one.2 < another.1 ∨ another.2 < one.1).forall
    member present different

theorem not_before (areRuns : AreRuns asked bound runs) {run : Nat × Nat} (member : run ∈ runs) {number : Nat}
    (before : number + 1 = run.1) : asked number = false := by
  rw [← Bool.not_eq_true]
  intro isAsked
  have positive := areRuns.positive run member
  have inside := areRuns.inside run member
  obtain ⟨other, present, lower, upper⟩ := (areRuns.asks number (by omega)).mp isAsked
  have different : run ≠ other := by
    rintro rfl
    omega
  have apart := areRuns.apart_of_ne member present different
  omega

theorem not_after (areRuns : AreRuns asked bound runs) {run : Nat × Nat} (member : run ∈ runs)
    (below : run.2 < bound) : asked run.2 = false := by
  rw [← Bool.not_eq_true]
  intro isAsked
  have positive := areRuns.positive run member
  obtain ⟨other, present, lower, upper⟩ := (areRuns.asks run.2 below).mp isAsked
  have different : run ≠ other := by
    rintro rfl
    omega
  have apart := areRuns.apart_of_ne member present different
  omega

end AreRuns

theorem maximalRuns_areRuns (asked : Nat → Bool) (bound : Nat) : AreRuns asked bound (maximalRuns asked bound) := by
  induction bound with
  | zero => exact AreRuns.empty asked
  | succ bound ih =>
      rw [maximalRuns]
      split
      · rename_i isAsked
        rcases List.eq_nil_or_concat (maximalRuns asked bound) with none | ⟨runs, ⟨first, stop⟩, some⟩
        · rw [none] at ih ⊢
          exact ih.begins isAsked fun _ member => (nomatch member)
        · rw [List.concat_eq_append] at some
          rw [some] at ih ⊢
          rw [extendRuns_concat]
          split
          · rename_i touches
            rw [touches] at ih
            exact ih.goOn isAsked
          · rename_i other
            have begun := ih.begins isAsked (ih.away other)
            rwa [List.append_assoc] at begun
      · rename_i skipped
        exact ih.skip (Bool.eq_false_iff.mpr skipped)

end ServiceHost.Library
