import Mathlib.Algebra.Group.Int.Defs
import Mathlib.Order.Lattice
import Mathlib.Order.Basic
import Mathlib.Data.Int.Init
import Mathlib.Tactic.ByContra

/-!
A clock that shows the time plus an offset, where the offset is a step function
of the time. Reading the clock back by guessing the offset from the reading and
correcting the guess once finds a time that shows the same reading, as long as
the offset does not change twice within reach of the guess.
-/

namespace ServiceHost.Library

/-- Between two times, two changes of the offset are at least `gap` apart. -/
def Spaced (offset : Int → Int) (gap lowest highest : Int) : Prop :=
  ∀ first second, lowest < first → second ≤ highest → offset (first - 1) ≠ offset first →
    offset (second - 1) ≠ offset second → first < second → gap ≤ second - first

/-- The guess that `clock - offset clock` makes, with its one correction. -/
def readBack (offset : Int → Int) (clock : Int) : Int :=
  clock - offset (clock - offset clock)

theorem eq_of_no_change {offset : Int → Int} {lower upper : Int} (order : lower ≤ upper)
    (none : ∀ time, lower < time → time ≤ upper → offset (time - 1) = offset time) :
    offset lower = offset upper := by
  induction upper, order using Int.leInduction with
  | base => rfl
  | succ upper order ih =>
      have last := none (upper + 1) (by omega) (Int.le_refl _)
      rw [Int.add_sub_cancel] at last
      exact (ih fun time after within => none time after (by omega)).trans last

theorem exists_change {offset : Int → Int} {gap lowest highest : Int} (lower upper : Int)
    (spaced : Spaced offset gap lowest highest) (above : lowest ≤ lower) (within : upper ≤ highest)
    (window : upper - lower < gap) :
    ∃ change before after, ∀ time, lower ≤ time → time ≤ upper →
      offset time = if time < change then before else after := by
  by_cases changes : ∃ change, lower < change ∧ change ≤ upper ∧ offset (change - 1) ≠ offset change
  · obtain ⟨change, changeAbove, changeWithin, jump⟩ := changes
    refine ⟨change, offset (change - 1), offset change, fun time lowerBound upperBound => ?_⟩
    have alone : ∀ other, lower < other → other ≤ upper → other ≠ change →
        offset (other - 1) = offset other := by
      intro other otherAbove otherWithin different
      by_contra otherJump
      rcases Int.lt_or_gt_of_ne different with first | first
      · have far := spaced other change (by omega) (by omega) otherJump jump first
        omega
      · have far := spaced change other (by omega) (by omega) jump otherJump first
        omega
    split
    · rename_i early
      exact eq_of_no_change (by omega) fun other above within => alone other (by omega) (by omega) (by omega)
    · rename_i late
      exact (eq_of_no_change (by omega) fun other above within =>
        alone other (by omega) (by omega) (by omega)).symm
  · refine ⟨lower, offset lower, offset lower, fun time lowerBound upperBound => ?_⟩
    have same := eq_of_no_change lowerBound fun other above within => by
      by_contra jump
      exact changes ⟨other, above, by omega, jump⟩
    split <;> exact same.symm

theorem readBack_clock {offset : Int → Int} {gap lowest highest : Int} (reach time : Int)
    (spaced : Spaced offset gap lowest highest)
    (bounds : ∀ time, -reach ≤ offset time ∧ offset time ≤ reach)
    (spread : ∀ time other, offset time - offset other ≤ reach) (window : 2 * reach < gap)
    (above : lowest + reach ≤ time) (within : time + reach ≤ highest) :
    readBack offset (time + offset time) + offset (readBack offset (time + offset time)) =
      time + offset time := by
  obtain ⟨change, before, after, steps⟩ := exists_change (time - reach) (time + reach)
    spaced (by omega) (by omega) (by omega)
  have own := bounds time
  have here := steps time (by omega) (by omega)
  have guess := steps (time + offset time) (by omega) (by omega)
  have guessSpread := spread time (time + offset time)
  have guessSpread' := spread (time + offset time) time
  have corrected := steps (time + offset time - offset (time + offset time)) (by omega) (by omega)
  have spreadBack := spread time (time + offset time - offset (time + offset time))
  have spreadBack' := spread (time + offset time - offset (time + offset time)) time
  have result := steps (time + offset time - offset (time + offset time - offset (time + offset time)))
    (by omega) (by omega)
  unfold readBack
  -- The reading and the time lie on the same side of the change, or the guess is
  -- corrected back to one of its two sides.
  by_cases timeEarly : time < change
  · by_cases clockEarly : time + offset time < change
    · simp only [timeEarly, clockEarly, if_true] at here guess
      have first : time + offset time - offset (time + offset time) = time := by omega
      rw [first, Int.add_sub_cancel]
    · simp only [timeEarly, if_true, clockEarly, if_false] at here guess
      split at corrected <;> split at result <;> omega
  · by_cases clockEarly : time + offset time < change
    · simp only [timeEarly, if_false, clockEarly, if_true] at here guess
      split at corrected <;> split at result <;> omega
    · simp only [timeEarly, clockEarly, if_false] at here guess
      have first : time + offset time - offset (time + offset time) = time := by omega
      rw [first, Int.add_sub_cancel]

end ServiceHost.Library
