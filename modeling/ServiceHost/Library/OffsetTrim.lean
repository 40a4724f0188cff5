import ServiceHost.Library.OffsetClock

/-!
Trimming on a clock that shows the time plus an offset: the reading is rounded down to
the start of its period, and the start is read back. Next to a change of the offset the
start may be read back on the other side of it, and then the result is no rounding.
-/

namespace ServiceHost.Library

/-- Rounding a reading down to the start of its period, from `lowest` on. -/
structure IsFloor (floor : Int → Int) (lowest : Int) : Prop where
  le : ∀ clock, lowest ≤ clock → floor clock ≤ clock
  fixed : ∀ clock, lowest ≤ clock → floor (floor clock) = floor clock
  mono : ∀ clock later, lowest ≤ clock → clock ≤ later → floor clock ≤ floor later

/-- Offsets within `reach`. -/
structure BoundedOffset (offset : Int → Int) (reach : Int) : Prop where
  lower : ∀ time, -reach ≤ offset time
  upper : ∀ time, offset time ≤ reach
  spread : ∀ time other, offset time - offset other ≤ reach

/-- Bounded offsets, with changes so far apart that no two of them meet in the reach. -/
structure StepOffset (offset : Int → Int) (reach gap lowest highest : Int) : Prop extends
    BoundedOffset offset reach where
  spaced : Spaced offset gap lowest highest
  window : 3 * reach ≤ gap
  positive : 0 < reach

/-- The time that the start of the period of `time` is read back as. -/
def trimBack (offset floor : Int → Int) (time : Int) : Int :=
  readBack offset (floor (time + offset time))

structure RoundsDown (trim : Int → Int) (time : Int) : Prop where
  le : trim time ≤ time
  fixed : trim (trim time) = trim time
  last : ∀ other, trim time < other → other ≤ time → trim other ≠ other

/-- Where the change of the offset leaves the start of the period alone: in the first pass
of repeated readings the start is not one that is read back in the second pass; in the
second pass no later start was met in the first; and a start among skipped readings is read
back after the change and not after the time, or else before the change as a start that
is the last one there. -/
structure KeepsStart (offset floor : Int → Int) (time : Int) : Prop where
  firstPass : ∀ change, offset change < offset (change - 1) → time < change →
    change + offset change ≤ floor (time + offset time) → floor (time + offset time) < change
  secondPass : ∀ change start, offset change < offset (change - 1) → change ≤ time → floor start = start →
    time + offset time < start → start < change + offset (change - 1) → change ≤ start
  skipped : ∀ change, offset (change - 1) < offset change → change ≤ time →
    change + offset (change - 1) ≤ floor (time + offset time) → floor (time + offset time) < change + offset change →
    change ≤ floor (time + offset time) ∧ floor (time + offset time) ≤ time + offset (change - 1) ∨
    floor (time + offset time) < change ∧
      floor (floor (time + offset time) + offset (change - 1) - offset change) =
        floor (time + offset time) + offset (change - 1) - offset change ∧
      ∀ start, floor start = start →
        floor (time + offset time) + offset (change - 1) - offset change < start → change + offset (change - 1) ≤ start

theorem IsFloor.start_le {floor : Int → Int} {lowest start clock : Int} (isFloor : IsFloor floor lowest)
    (above : lowest ≤ start) (starts : floor start = start) (le : start ≤ clock) : start ≤ floor clock := by
  have order := isFloor.mono start clock above le
  rwa [starts] at order

section Changes

variable {offset : Int → Int} {gap lowest highest change time : Int}

theorem Spaced.before (spaced : Spaced offset gap lowest highest) (jump : offset (change - 1) ≠ offset change)
    (within : change ≤ highest) (lower : lowest ≤ time) (near : change - gap ≤ time) (early : time < change) :
    offset time = offset (change - 1) := by
  refine eq_of_no_change (by omega) fun other above below => ?_
  by_contra otherJump
  have far := spaced other change (by omega) within otherJump jump (by omega)
  omega

theorem Spaced.after (spaced : Spaced offset gap lowest highest) (jump : offset (change - 1) ≠ offset change)
    (above : lowest < change) (upper : time ≤ highest) (near : time < change + gap) (late : change ≤ time) :
    offset time = offset change := by
  refine (eq_of_no_change late fun other after below => ?_).symm
  by_contra otherJump
  have far := spaced change other above (by omega) jump otherJump (by omega)
  omega

theorem exists_jump {first last : Int} (order : first ≤ last) (different : offset first ≠ offset last) :
    ∃ change, first < change ∧ change ≤ last ∧ offset (change - 1) ≠ offset change := by
  by_contra none
  apply different
  refine eq_of_no_change order fun other above below => ?_
  by_contra jump
  exact none ⟨other, above, below, jump⟩

end Changes

section ReadBack

variable {offset : Int → Int} {reach gap lowest highest : Int}

theorem StepOffset.readBack_near (steps : StepOffset offset reach gap lowest highest) {change clock : Int}
    (jump : offset (change - 1) ≠ offset change) (above : lowest < change) (within : change + 3 * reach ≤ highest)
    (lowestLe : lowest + 3 * reach ≤ change)
    (lower : change - 2 * reach ≤ clock) (upper : clock < change + 2 * reach) :
    readBack offset clock =
      if clock < change then
        if clock < change + offset (change - 1) then clock - offset (change - 1) else clock - offset change
      else if clock < change + offset change then clock - offset (change - 1) else clock - offset change := by
  have window := steps.window
  have positive := steps.positive
  have before : ∀ time, change - gap ≤ time → lowest ≤ time → time < change → offset time = offset (change - 1) :=
    fun time near low early => steps.spaced.before jump (by omega) low near early
  have after : ∀ time, time < change + gap → time ≤ highest → change ≤ time → offset time = offset change :=
    fun time near high late => steps.spaced.after jump above high near late
  have ownLower := steps.lower clock
  have ownUpper := steps.upper clock
  unfold readBack
  split
  · have guess := before clock (by omega) (by omega) (by omega)
    split
    · rw [guess, before (clock - offset (change - 1)) (by omega) (by omega) (by omega)]
    · rw [guess, after (clock - offset (change - 1)) (by omega) (by omega) (by omega)]
  · have guess := after clock (by omega) (by omega) (by omega)
    split
    · rw [guess, before (clock - offset change) (by omega) (by omega) (by omega)]
    · rw [guess, after (clock - offset change) (by omega) (by omega) (by omega)]

theorem StepOffset.readBack_cases (steps : StepOffset offset reach gap lowest highest) {clock : Int}
    (above : lowest + 4 * reach ≤ clock) (within : clock + 4 * reach ≤ highest) :
    readBack offset clock + offset (readBack offset clock) = clock ∨
      ∃ change, offset (change - 1) < offset change ∧ clock - reach ≤ change ∧ change ≤ clock + reach ∧
        change + offset (change - 1) ≤ clock ∧ clock < change + offset change := by
  have lower := steps.lower
  have upper := steps.upper
  have window := steps.window
  have positive := steps.positive
  have clockLower := lower clock
  have clockUpper := upper clock
  have guessLower := lower (clock - offset clock)
  have guessUpper := upper (clock - offset clock)
  by_cases turns : ∃ change, clock - reach < change ∧ change ≤ clock + reach ∧ offset (change - 1) ≠ offset change
  · obtain ⟨change, after, before, jump⟩ := turns
    by_cases skipped : change + offset (change - 1) ≤ clock ∧ clock < change + offset change
    · exact Or.inr ⟨change, by omega, by omega, before, skipped.1, skipped.2⟩
    · refine Or.inl ?_
      have early : ∀ time, change - gap ≤ time → lowest ≤ time → time < change → offset time = offset (change - 1) :=
        fun time near low side => steps.spaced.before jump (by omega) low near side
      have late : ∀ time, time < change + gap → time ≤ highest → change ≤ time → offset time = offset change :=
        fun time near high side => steps.spaced.after jump (by omega) high near side
      have beforeLower := lower (change - 1)
      have beforeUpper := upper (change - 1)
      have afterLower := lower change
      have afterUpper := upper change
      rw [steps.readBack_near jump (by omega) (by omega) (by omega) (by omega) (by omega)]
      split <;> split
      · rw [early (clock - offset (change - 1)) (by omega) (by omega) (by omega)]
        omega
      · rw [late (clock - offset change) (by omega) (by omega) (by omega)]
        omega
      · rw [early (clock - offset (change - 1)) (by omega) (by omega) (by omega)]
        omega
      · rw [late (clock - offset change) (by omega) (by omega) (by omega)]
        omega
  · refine Or.inl ?_
    have constant : ∀ time, clock - reach ≤ time → time ≤ clock + reach → offset (clock - reach) = offset time := by
      intro time low high
      by_contra different
      obtain ⟨change, after, before, jump⟩ := exists_jump low different
      exact turns ⟨change, after, by omega, jump⟩
    have guess := constant clock (by omega) (by omega)
    have corrected := constant (clock - offset clock) (by omega) (by omega)
    have result := constant (clock - offset (clock - offset clock)) (by omega) (by omega)
    unfold readBack
    omega

end ReadBack

section Trim

variable {offset floor : Int → Int} {reach gap lowest highest : Int}

theorem trimBack_start {start time : Int} (starts : floor start = start) (shown : time + offset time = start)
    (back : readBack offset start = time) : trimBack offset floor time = time := by
  rw [trimBack, shown, starts, back]

theorem BoundedOffset.readBack_bounds (bounded : BoundedOffset offset reach) (clock : Int) :
    clock - reach ≤ readBack offset clock ∧ readBack offset clock ≤ clock + reach := by
  have lower := bounded.lower (clock - offset clock)
  have upper := bounded.upper (clock - offset clock)
  unfold readBack
  omega

variable {time : Int}

theorem KeepsStart.le (steps : StepOffset offset reach gap lowest highest) (isFloor : IsFloor floor lowest)
    (known : lowest + 5 * reach ≤ time) (above : lowest + 5 * reach ≤ floor (time + offset time))
    (within : time + 5 * reach ≤ highest)
    (keeps : KeepsStart offset floor time) : trimBack offset floor time ≤ time := by
  obtain ⟨start, startEq⟩ : ∃ start, start = floor (time + offset time) := ⟨_, rfl⟩
  have firstPass := keeps.firstPass
  have skipped := keeps.skipped
  have window := steps.window
  have positive := steps.positive
  have lower := steps.lower
  have upper := steps.upper
  have ownLower := lower time
  have ownUpper := upper time
  have le := isFloor.le (time + offset time) (by omega)
  have back := steps.readBack_bounds start
  rw [trimBack]
  rw [← startEq] at above le firstPass skipped ⊢
  rcases steps.readBack_cases (show lowest + 4 * reach ≤ start by omega) (by omega) with shown | hidden
  · by_contra later
    have foundLower := lower (readBack offset start)
    obtain ⟨change, after, before, jump⟩ :=
      exists_jump (show time ≤ readBack offset start by omega)
        (show offset time ≠ offset (readBack offset start) by omega)
    have own := steps.spaced.before jump (by omega) (show lowest ≤ time by omega) (by omega) after
    have found := steps.spaced.after jump (by omega) (show readBack offset start ≤ highest by omega) (by omega) before
    have early := firstPass change (by omega) after (by omega)
    have near := steps.readBack_near jump (by omega) (by omega) (by omega) (show change - 2 * reach ≤ start by omega)
      (by omega)
    rw [if_pos early] at near
    split at near <;> omega
  · obtain ⟨change, jump, low, high, started, unstarted⟩ := hidden
    have beforeLower := lower (change - 1)
    have beforeUpper := upper (change - 1)
    have near := steps.readBack_near (show offset (change - 1) ≠ offset change by omega) (by omega) (by omega) (by omega)
      (show change - 2 * reach ≤ start by omega) (by omega)
    have late : change ≤ time := by
      by_contra early
      have own := steps.spaced.before (show offset (change - 1) ≠ offset change by omega) (by omega)
        (show lowest ≤ time by omega) (by omega) (show time < change by omega)
      omega
    rcases skipped change jump late started unstarted with ⟨after, bounded⟩ | ⟨before, _⟩
    · rw [if_neg (by omega), if_pos (by omega)] at near
      omega
    · rw [if_pos before, if_neg (by omega)] at near
      omega

theorem KeepsStart.fixed (steps : StepOffset offset reach gap lowest highest) (isFloor : IsFloor floor lowest)
    (known : lowest + 5 * reach ≤ time) (above : lowest + 5 * reach ≤ floor (time + offset time))
    (within : time + 5 * reach ≤ highest)
    (keeps : KeepsStart offset floor time) :
    trimBack offset floor (trimBack offset floor time) = trimBack offset floor time := by
  obtain ⟨start, startEq⟩ : ∃ start, start = floor (time + offset time) := ⟨_, rfl⟩
  have earlier := keeps.le steps isFloor known above within
  have skipped := keeps.skipped
  have window := steps.window
  have positive := steps.positive
  have lower := steps.lower
  have upper := steps.upper
  have ownLower := lower time
  have ownUpper := upper time
  have le := isFloor.le (time + offset time) (by omega)
  have starts := isFloor.fixed (time + offset time) (by omega)
  have found : trimBack offset floor time = readBack offset start := by rw [trimBack, startEq]
  rw [found] at earlier ⊢
  rw [← startEq] at above le starts skipped
  rcases steps.readBack_cases (show lowest + 4 * reach ≤ start by omega) (by omega) with shown | hidden
  · exact trimBack_start starts shown rfl
  · obtain ⟨change, jump, low, high, started, unstarted⟩ := hidden
    have beforeLower := lower (change - 1)
    have beforeUpper := upper (change - 1)
    have afterLower := lower change
    have afterUpper := upper change
    have spread := steps.spread change (change - 1)
    have turns : offset (change - 1) ≠ offset change := by omega
    have near := steps.readBack_near turns (by omega) (by omega) (by omega)
      (show change - 2 * reach ≤ start by omega) (by omega)
    have late : change ≤ time := by
      by_contra early
      have own := steps.spaced.before turns (by omega) (show lowest ≤ time by omega) (by omega)
        (show time < change by omega)
      omega
    rcases skipped change jump late started unstarted with ⟨after, bounded⟩ | ⟨before, earlierStart, _⟩
    · rw [if_neg (by omega), if_pos (by omega)] at near
      have shown := steps.spaced.after turns (by omega) (show readBack offset start ≤ highest by omega) (by omega)
        (by omega)
      -- The time read back shows a reading of the same period.
      have order : readBack offset start + offset (readBack offset start) ≤ time + offset time := by
        by_cases same : time < change + gap
        · have own := steps.spaced.after turns (by omega) (show time ≤ highest by omega) same late
          omega
        · omega
      have notAfter := isFloor.mono _ _ (by omega) order
      have notBefore := isFloor.start_le (by omega) starts (show start ≤ readBack offset start + offset (readBack offset start) by omega)
      rw [trimBack, show floor (readBack offset start + offset (readBack offset start)) = start by omega]
    · rw [if_pos before, if_neg (by omega)] at near
      have shown := steps.spaced.before turns (by omega) (show lowest ≤ readBack offset start by omega) (by omega)
        (by omega)
      have again := steps.readBack_near turns (by omega) (by omega) (by omega)
        (show change - 2 * reach ≤ start + offset (change - 1) - offset change by omega) (by omega)
      rw [if_pos (by omega), if_pos (by omega)] at again
      exact trimBack_start earlierStart (by omega) (by omega)

theorem KeepsStart.last (steps : StepOffset offset reach gap lowest highest) (isFloor : IsFloor floor lowest)
    (known : lowest + 5 * reach ≤ time) (above : lowest + 5 * reach ≤ floor (time + offset time))
    (within : time + 5 * reach ≤ highest)
    (keeps : KeepsStart offset floor time) {other : Int} (after : trimBack offset floor time < other)
    (notAfter : other ≤ time) : trimBack offset floor other ≠ other := by
  intro kept
  obtain ⟨start, startEq⟩ : ∃ start, start = floor (time + offset time) := ⟨_, rfl⟩
  obtain ⟨own, ownEq⟩ : ∃ own, own = floor (other + offset other) := ⟨_, rfl⟩
  have secondPass := keeps.secondPass
  have skipped := keeps.skipped
  have window := steps.window
  have positive := steps.positive
  have lower := steps.lower
  have upper := steps.upper
  have timeLower := lower time
  have timeUpper := upper time
  have otherLower := lower other
  have otherUpper := upper other
  have le := isFloor.le (time + offset time) (by omega)
  have starts := isFloor.fixed (time + offset time) (by omega)
  have back := steps.readBack_bounds start
  rw [trimBack, ← ownEq] at kept
  rw [trimBack, ← startEq] at after
  rw [← startEq] at above le starts skipped
  have ownLe := isFloor.le (other + offset other) (by omega)
  have ownStarts := isFloor.fixed (other + offset other) (by omega)
  rw [← ownEq] at ownLe ownStarts
  have ownBack := steps.readBack_bounds own
  -- No start after the one of the time is met by an earlier time.
  have ownBefore : own < start := by
    by_contra late
    have different : own ≠ start := by
      intro same
      rw [same] at kept
      omega
    have beyond : time + offset time < own := by
      by_contra reached
      have bound := isFloor.start_le (by omega) ownStarts (show own ≤ time + offset time by omega)
      omega
    obtain ⟨change, changeAfter, changeLe, turns⟩ :=
      exists_jump notAfter (show offset other ≠ offset time by omega)
    have otherOffset := steps.spaced.before turns (by omega) (show lowest ≤ other by omega) (by omega) changeAfter
    have timeOffset := steps.spaced.after turns (by omega) (show time ≤ highest by omega) (by omega) changeLe
    have bounded := secondPass change own (by omega) changeLe ownStarts beyond (by omega)
    have near := steps.readBack_near turns (by omega) (by omega) (by omega) (show change - 2 * reach ≤ own by omega)
      (by omega)
    rw [if_neg (by omega), if_neg (by omega)] at near
    omega
  have reading : other + offset other < start := by
    by_contra reached
    have bound := isFloor.start_le (by omega) starts (show start ≤ other + offset other by omega)
    omega
  rcases steps.readBack_cases (show lowest + 4 * reach ≤ start by omega) (by omega) with shown | hidden
  · obtain ⟨change, changeAfter, changeLe, turns⟩ := exists_jump (show readBack offset start ≤ other by omega)
      (show offset (readBack offset start) ≠ offset other by omega)
    have foundLower := lower (readBack offset start)
    have foundUpper := upper (readBack offset start)
    have foundOffset := steps.spaced.before turns (by omega) (show lowest ≤ readBack offset start by omega) (by omega)
      changeAfter
    have otherOffset := steps.spaced.after turns (by omega) (show other ≤ highest by omega) (by omega) changeLe
    have near := steps.readBack_near turns (by omega) (by omega) (by omega) (show change - 2 * reach ≤ start by omega)
      (by omega)
    have ownNear := steps.readBack_near turns (by omega) (by omega) (by omega) (show change - 2 * reach ≤ own by omega)
      (by omega)
    split at near <;> split at near <;> split at ownNear <;> split at ownNear <;> omega
  · obtain ⟨change, jump, low, high, started, unstarted⟩ := hidden
    have beforeLower := lower (change - 1)
    have beforeUpper := upper (change - 1)
    have afterLower := lower change
    have afterUpper := upper change
    have spread := steps.spread change (change - 1)
    have turns : offset (change - 1) ≠ offset change := by omega
    have near := steps.readBack_near turns (by omega) (by omega) (by omega)
      (show change - 2 * reach ≤ start by omega) (by omega)
    have late : change ≤ time := by
      by_contra early
      have timeOffset := steps.spaced.before turns (by omega) (show lowest ≤ time by omega) (by omega)
        (show time < change by omega)
      omega
    have otherEarly : other < change := by
      by_contra otherLate
      have otherOffset := steps.spaced.after turns (by omega) (show other ≤ highest by omega) (by omega)
        (show change ≤ other by omega)
      omega
    rcases skipped change jump late started unstarted with ⟨after, bounded⟩ | ⟨before, _, last⟩
    · rw [if_neg (by omega), if_pos (by omega)] at near
      omega
    · rw [if_pos before, if_neg (by omega)] at near
      have otherOffset := steps.spaced.before turns (by omega) (show lowest ≤ other by omega) (by omega) otherEarly
      have ownNear := steps.readBack_near turns (by omega) (by omega) (by omega)
        (show change - 2 * reach ≤ own by omega) (by omega)
      rw [if_pos (by omega), if_pos (by omega)] at ownNear
      have bound := last own ownStarts (by omega)
      omega

theorem RoundsDown.keepsStart (steps : StepOffset offset reach gap lowest highest) (isFloor : IsFloor floor lowest)
    (known : lowest + 5 * reach ≤ time) (above : lowest + 5 * reach ≤ floor (time + offset time))
    (within : time + 5 * reach ≤ highest)
    (rounds : RoundsDown (trimBack offset floor) time) : KeepsStart offset floor time := by
  obtain ⟨start, startEq⟩ : ∃ start, start = floor (time + offset time) := ⟨_, rfl⟩
  obtain ⟨le, fixed, last⟩ := rounds
  have found : trimBack offset floor time = readBack offset start := by rw [trimBack, startEq]
  have window := steps.window
  have positive := steps.positive
  have lower := steps.lower
  have upper := steps.upper
  have timeLower := lower time
  have timeUpper := upper time
  have startLe := isFloor.le (time + offset time) (by omega)
  have back := steps.readBack_bounds start
  rw [found] at le fixed last
  rw [← startEq] at above startLe
  constructor
  · intro change jump early started
    rw [← startEq] at started ⊢
    by_contra later
    have near := steps.readBack_near (show offset (change - 1) ≠ offset change by omega) (by omega) (by omega) (by omega)
      (show change - 2 * reach ≤ start by omega) (by omega)
    rw [if_neg later, if_neg (by omega)] at near
    omega
  · intro change nextStart jump late starts beyond repeated
    by_contra early
    have beforeLower := lower (change - 1)
    have beforeUpper := upper (change - 1)
    have spread := steps.spread (change - 1) change
    have turns : offset (change - 1) ≠ offset change := by omega
    have near := steps.readBack_near turns (by omega) (by omega) (by omega)
      (show change - 2 * reach ≤ nextStart by omega) (by omega)
    rw [if_pos (by omega), if_pos repeated] at near
    -- The later start is kept, in the first pass.
    have nextOffset := steps.spaced.before turns (by omega)
      (show lowest ≤ nextStart - offset (change - 1) by omega) (by omega) (by omega)
    have kept : trimBack offset floor (nextStart - offset (change - 1)) = nextStart - offset (change - 1) :=
      trimBack_start starts (by omega) near
    have notAfter : nextStart - offset (change - 1) ≤ readBack offset start := by
      by_contra after
      exact last _ (by omega) (by omega) kept
    have startBack : readBack offset start = start - offset (start - offset start) := rfl
    have startSpread := steps.spread (change - 1) (start - offset start)
    have startNear := steps.readBack_near turns (by omega) (by omega) (by omega)
      (show change - 2 * reach ≤ start by omega) (by omega)
    rw [if_pos (by omega), if_pos (by omega)] at startNear
    omega
  · intro change jump late started unstarted
    rw [← startEq] at started unstarted ⊢
    have beforeLower := lower (change - 1)
    have beforeUpper := upper (change - 1)
    have spread := steps.spread change (change - 1)
    have turns : offset (change - 1) ≠ offset change := by omega
    have near := steps.readBack_near turns (by omega) (by omega) (by omega)
      (show change - 2 * reach ≤ start by omega) (by omega)
    by_cases after : change ≤ start
    · rw [if_neg (by omega), if_pos unstarted] at near
      exact Or.inl ⟨after, by omega⟩
    · rw [if_pos (by omega), if_neg (by omega)] at near
      have early (other : Int) (near : change - 2 * reach ≤ other) (before : other < change) :
          offset other = offset (change - 1) :=
        steps.spaced.before turns (by omega) (by omega) (by omega) before
      have readEarly (clock : Int) (near : change - 2 * reach ≤ clock) (before : clock < change)
          (shown : clock < change + offset (change - 1)) : readBack offset clock = clock - offset (change - 1) := by
        have back := steps.readBack_near turns (by omega) (by omega) (by omega) near (by omega)
        rwa [if_pos before, if_pos shown] at back
      refine Or.inr ⟨by omega, ?_, ?_⟩
      · have foundOffset := early (readBack offset start) (by omega) (by omega)
        have same : readBack offset start + offset (readBack offset start) =
            start + offset (change - 1) - offset change := by omega
        rw [trimBack, same] at fixed
        have rounded := isFloor.le (start + offset (change - 1) - offset change) (by omega)
        have roundedBack := steps.readBack_bounds (floor (start + offset (change - 1) - offset change))
        have read := readEarly (floor (start + offset (change - 1) - offset change)) (by omega) (by omega) (by omega)
        omega
      · intro other starts beyond
        by_contra earlier
        have read := readEarly other (by omega) (by omega) (by omega)
        have otherOffset := early (other - offset (change - 1)) (by omega) (by omega)
        exact last (other - offset (change - 1)) (by omega) (by omega) (trimBack_start starts (by omega) read)

theorem roundsDown_iff (steps : StepOffset offset reach gap lowest highest) (isFloor : IsFloor floor lowest)
    (known : lowest + 5 * reach ≤ time) (above : lowest + 5 * reach ≤ floor (time + offset time))
    (within : time + 5 * reach ≤ highest) :
    RoundsDown (trimBack offset floor) time ↔ KeepsStart offset floor time := by
  constructor
  · exact RoundsDown.keepsStart steps isFloor known above within
  · intro keeps
    exact ⟨keeps.le steps isFloor known above within, keeps.fixed steps isFloor known above within,
      fun _ after notAfter => keeps.last steps isFloor known above within after notAfter⟩

end Trim

end ServiceHost.Library
