import Mathlib.Tactic.Ring
import ServiceHost.Library.Runs
import ServiceHost.Library.Outcome
import ServiceHost.Time.UtcTime

/-!
`TimePeriod.Split`: a loop that steps through the period by adding the resolution.
Adding does not advance from the beginning of time, wraps around at the top of the
axis, and no time may be compared with the null time; where the raster meets none of
these the loop ends with a partition.
-/

namespace ServiceHost

open Library

inductive SplitState
  | loop (nextFrom nextTo : UtcTime) (result : List TimePeriod)
  | ended (outcome : Except SystemException (List TimePeriod))

namespace SplitState

def ofOutcome : Except SystemException SplitState → SplitState
  | .ok state => state
  | .error exception => ended (.error exception)

end SplitState

namespace TimePeriod

def splitStep (untilTime : UtcTime) (resolution : Int) : SplitState → SplitState
  | .loop nextFrom nextTo result => .ofOutcome do
      if ← UtcTime.less nextTo untilTime then
        return .loop nextTo (← nextTo.add resolution) (result ++ [⟨nextFrom, nextTo⟩])
      else return .ended (.ok (result ++ [⟨nextFrom, untilTime⟩]))
  | .ended outcome => .ended outcome

def splitStart (period : TimePeriod) (resolution : Int) : SplitState := .ofOutcome do
  let nextTo ← period.fromTime.add resolution
  if ← UtcTime.greaterOrEqual nextTo period.untilTime then
    return .ended (.ok [⟨period.fromTime, period.untilTime⟩])
  else return .loop period.fromTime nextTo []

def SplitReturns (period : TimePeriod) (resolution : Int) (pieces : List TimePeriod) : Prop :=
  Comes (splitStep period.untilTime resolution) (period.splitStart resolution) (.ended (.ok pieces))

structure Partition (period : TimePeriod) (resolution : Int) (pieces : List TimePeriod) : Prop where
  first : pieces.head?.map fromTime = some period.fromTime
  last : pieces.getLast?.map untilTime = some period.untilTime
  contiguous : pieces.IsChain fun earlier later => earlier.untilTime = later.fromTime
  positive : ∀ piece ∈ pieces, piece.fromTime < piece.untilTime
  bounded : ∀ piece ∈ pieces, piece.untilTime.ticks - piece.fromTime.ticks ≤ resolution
  exact : ∀ piece ∈ pieces.dropLast, piece.untilTime.ticks - piece.fromTime.ticks = resolution

structure Splittable (period : TimePeriod) (resolution : Int) : Prop where
  fromNull : period.fromTime ≠ UtcTime.null
  untilNull : period.untilTime ≠ UtcTime.null
  notMin : ∀ turn : Nat, period.fromTime.ticks + turn * resolution < period.untilTime.ticks →
    period.fromTime.ticks + turn * resolution ≠ Utc.minValue
  notNull : ∀ turn : Nat, period.fromTime.ticks + turn * resolution < period.untilTime.ticks →
    period.fromTime.ticks + (turn + 1) * resolution ≠ Utc.null
  within : ∀ turn : Nat, period.fromTime.ticks + turn * resolution < period.untilTime.ticks →
    period.fromTime.ticks + (turn + 1) * resolution < 2 ^ 63

section Partitions

variable {fromTime middle untilTime : UtcTime} {resolution : Int} {pieces : List TimePeriod}

theorem partition_single (positive : fromTime < untilTime)
    (bounded : untilTime.ticks - fromTime.ticks ≤ resolution) :
    Partition ⟨fromTime, untilTime⟩ resolution [⟨fromTime, untilTime⟩] := by
  refine ⟨rfl, rfl, List.IsChain.singleton _, ?_, ?_, ?_⟩
  · intro piece member
    rw [List.mem_singleton.mp member]
    exact positive
  · intro piece member
    rw [List.mem_singleton.mp member]
    exact bounded
  · intro piece member
    cases member

theorem Partition.cons (rest : Partition ⟨middle, untilTime⟩ resolution pieces) (positive : fromTime < middle)
    (exact : middle.ticks - fromTime.ticks = resolution) :
    Partition ⟨fromTime, untilTime⟩ resolution (⟨fromTime, middle⟩ :: pieces) := by
  cases pieces with
  | nil => cases rest.first
  | cons next later =>
      have begins : next.fromTime = middle := Option.some.inj rest.first
      refine ⟨rfl, rest.last, ?_, ?_, ?_, ?_⟩
      · apply List.IsChain.cons_cons
        · exact begins.symm
        · exact rest.contiguous
      · intro piece member
        rcases List.mem_cons.mp member with rfl | later
        · exact positive
        · exact rest.positive piece later
      · intro piece member
        rcases List.mem_cons.mp member with rfl | later
        · exact le_of_eq exact
        · exact rest.bounded piece later
      · intro piece member
        rcases List.mem_cons.mp member with rfl | later
        · exact exact
        · exact rest.exact piece later

theorem Partition.tail (whole : Partition ⟨fromTime, untilTime⟩ resolution (⟨fromTime, middle⟩ :: pieces))
    (more : pieces ≠ []) : Partition ⟨middle, untilTime⟩ resolution pieces := by
  cases pieces with
  | nil => exact absurd rfl more
  | cons next later =>
      have chain := List.isChain_cons_cons.mp whole.contiguous
      refine ⟨?_, whole.last, chain.2, ?_, ?_, ?_⟩
      · exact congrArg some chain.1.symm
      · intro piece member
        exact whole.positive piece (List.mem_cons_of_mem _ member)
      · intro piece member
        exact whole.bounded piece (List.mem_cons_of_mem _ member)
      · intro piece member
        exact whole.exact piece (List.mem_cons_of_mem _ member)

theorem Partition.step (whole : Partition ⟨fromTime, untilTime⟩ resolution (⟨fromTime, middle⟩ :: pieces))
    (more : pieces ≠ []) : fromTime < middle ∧ middle.ticks - fromTime.ticks = resolution := by
  cases pieces with
  | nil => exact absurd rfl more
  | cons next later =>
      exact ⟨whole.positive _ List.mem_cons_self, whole.exact _ List.mem_cons_self⟩

end Partitions

section Loop

variable {fromTime nextTo untilTime : UtcTime} {resolution : Int}

theorem add_advances (positive : 0 < resolution) (span : resolution < 2 ^ 63)
    (added : fromTime.add resolution = .ok nextTo) (before : fromTime < untilTime)
    (advances : fromTime < nextTo) :
    fromTime.ticks ≠ Utc.null ∧ fromTime.ticks ≠ Utc.minValue ∧
      fromTime.ticks + resolution < 2 ^ 63 ∧ nextTo.ticks = fromTime.ticks + resolution := by
  have order := UtcTime.lt_iff.mp before
  have further := UtcTime.lt_iff.mp advances
  have lower := fromTime.lower
  have upper := fromTime.upper
  have untilUpper := untilTime.upper
  have greatest : Utc.maxValue = 9223372036854775807 := rfl
  by_cases ordinary : fromTime.Ordinary
  · have ticks := UtcTime.ordinary_iff.mp ordinary
    rw [ordinary.add_eq] at added
    have next : nextTo.ticks = long (fromTime.ticks + resolution) :=
      congrArg UtcTime.ticks (Except.ok.inj added).symm
    by_cases fits : fromTime.ticks + resolution < 2 ^ 63
    · exact ⟨ticks.1, ticks.2.1, fits, by rw [next, long_eq (by omega) fits]⟩
    · have wrapped : long (fromTime.ticks + resolution) = fromTime.ticks + resolution - 2 ^ 64 := by
        simp only [long, Int.bmod_def]
        split <;> omega
      omega
  · rw [UtcTime.add] at added
    split at added
    · cases added
    · rename_i notNull
      split at added
      · rename_i atMin
        have same : fromTime = nextTo := atMin.trans (Except.ok.inj added)
        exact absurd further (by rw [same]; omega)
      · rename_i notMin
        split at added
        · rename_i atMax
          have ticks : fromTime.ticks = Utc.maxValue := congrArg UtcTime.ticks atMax
          omega
        · rename_i notMax
          exact absurd ⟨UtcTime.ne_null_iff.mpr notNull, notMin, notMax⟩ ordinary

theorem Splittable.step (splittable : Splittable ⟨nextTo, untilTime⟩ resolution) (fromNull : fromTime ≠ UtcTime.null)
    (notMin : fromTime.ticks ≠ Utc.minValue) (fits : fromTime.ticks + resolution < 2 ^ 63)
    (next : nextTo.ticks = fromTime.ticks + resolution) : Splittable ⟨fromTime, untilTime⟩ resolution := by
  have shifted (turn : Nat) :
      fromTime.ticks + (turn + 1 : Nat) * resolution = nextTo.ticks + turn * resolution ∧
        fromTime.ticks + ((turn + 1 : Nat) + 1) * resolution = nextTo.ticks + (turn + 1) * resolution := by
    rw [next]
    push_cast
    constructor <;> ring
  have nextNull := UtcTime.ne_null_iff.mp splittable.fromNull
  have null : Utc.null = 0 := rfl
  dsimp only at nextNull
  refine ⟨fromNull, splittable.untilNull, ?_, ?_, ?_⟩
  · intro turn inside
    cases turn with
    | zero => simpa using notMin
    | succ turn =>
        rw [(shifted turn).1] at inside ⊢
        exact splittable.notMin turn inside
  · intro turn inside
    cases turn with
    | zero =>
        simp only [Nat.cast_zero, zero_add, one_mul]
        omega
    | succ turn =>
        rw [(shifted turn).1] at inside
        rw [(shifted turn).2]
        exact splittable.notNull turn inside
  · intro turn inside
    cases turn with
    | zero => simpa using fits
    | succ turn =>
        rw [(shifted turn).1] at inside
        rw [(shifted turn).2]
        exact splittable.within turn inside

theorem splittable_last (positive : 0 < resolution) (fromNull : fromTime ≠ UtcTime.null)
    (untilNull : untilTime ≠ UtcTime.null) (notMin : fromTime.ticks ≠ Utc.minValue)
    (fits : fromTime.ticks + resolution < 2 ^ 63) (nextNull : nextTo ≠ UtcTime.null)
    (next : nextTo.ticks = fromTime.ticks + resolution) (reached : untilTime ≤ nextTo) :
    Splittable ⟨fromTime, untilTime⟩ resolution := by
  have order := UtcTime.le_iff.mp reached
  have nextTicks := UtcTime.ne_null_iff.mp nextNull
  have null : Utc.null = 0 := rfl
  have onlyFirst {turn : Nat} (inside : fromTime.ticks + turn * resolution < untilTime.ticks) : turn = 0 := by
    by_contra later
    have least : 1 * resolution ≤ turn * resolution := by
      apply Int.mul_le_mul_of_nonneg_right
      · omega
      · exact le_of_lt positive
    omega
  refine ⟨fromNull, untilNull, ?_, ?_, ?_⟩
  · intro turn inside
    cases onlyFirst inside
    simpa using notMin
  · intro turn inside
    cases onlyFirst inside
    simp only [Nat.cast_zero, zero_add, one_mul]
    omega
  · intro turn inside
    cases onlyFirst inside
    simpa using fits

theorem Splittable.head (splittable : Splittable ⟨fromTime, untilTime⟩ resolution) (positive : 0 < resolution)
    (before : fromTime < untilTime) : ∃ nextTo, fromTime.add resolution = .ok nextTo ∧
      nextTo.ticks = fromTime.ticks + resolution ∧ nextTo ≠ UtcTime.null := by
  have order := UtcTime.lt_iff.mp before
  have lower := fromTime.lower
  have upper := untilTime.upper
  have greatest : Utc.maxValue = 9223372036854775807 := rfl
  have null : Utc.null = 0 := rfl
  have notMin := splittable.notMin 0 (by simpa using order)
  have notNull := splittable.notNull 0 (by simpa using order)
  have within := splittable.within 0 (by simpa using order)
  simp only [Nat.cast_zero, zero_add, zero_mul, one_mul, add_zero] at notMin notNull within
  have ordinary : fromTime.Ordinary :=
    UtcTime.ordinary_iff.mpr ⟨UtcTime.ne_null_iff.mp splittable.fromNull, notMin, by omega⟩
  have ticks : (UtcTime.ofTicks (fromTime.ticks + resolution)).ticks = fromTime.ticks + resolution :=
    UtcTime.ofTicks_ticks (by omega) within
  exact ⟨_, ordinary.add_eq resolution, ticks, UtcTime.ne_null_iff.mpr (by omega)⟩

theorem Splittable.tail (splittable : Splittable ⟨fromTime, untilTime⟩ resolution)
    (next : nextTo.ticks = fromTime.ticks + resolution) (nextNull : nextTo ≠ UtcTime.null) :
    Splittable ⟨nextTo, untilTime⟩ resolution := by
  have shifted (turn : Nat) :
      nextTo.ticks + turn * resolution = fromTime.ticks + (turn + 1 : Nat) * resolution ∧
        nextTo.ticks + (turn + 1) * resolution = fromTime.ticks + ((turn + 1 : Nat) + 1) * resolution := by
    rw [next]
    push_cast
    constructor <;> ring
  refine ⟨nextNull, splittable.untilNull, ?_, ?_, ?_⟩
  · intro turn inside
    rw [(shifted turn).1] at inside ⊢
    exact splittable.notMin _ inside
  · intro turn inside
    rw [(shifted turn).1] at inside
    rw [(shifted turn).2]
    exact splittable.notNull _ inside
  · intro turn inside
    rw [(shifted turn).1] at inside
    rw [(shifted turn).2]
    exact splittable.within _ inside

theorem loop_comes (positive : 0 < resolution) {bound : Nat} (result : List TimePeriod)
    (splittable : Splittable ⟨fromTime, untilTime⟩ resolution) (before : fromTime < untilTime)
    (added : fromTime.add resolution = .ok nextTo) (close : untilTime.ticks - fromTime.ticks ≤ bound) :
    ∃ pieces, Comes (splitStep untilTime resolution) (.loop fromTime nextTo result) (.ended (.ok (result ++ pieces))) ∧
      Partition ⟨fromTime, untilTime⟩ resolution pieces := by
  induction bound generalizing fromTime nextTo result with
  | zero =>
      have order := UtcTime.lt_iff.mp before
      omega
  | succ bound ih =>
      obtain ⟨next, nextEq, ticks, nextNull⟩ := splittable.head positive before
      have same : next = nextTo := Except.ok.inj (nextEq.symm.trans added)
      subst same
      have order := UtcTime.lt_iff.mp before
      by_cases inside : next < untilTime
      · have rest := splittable.tail ticks nextNull
        obtain ⟨later, laterEq, _, _⟩ := rest.head positive inside
        obtain ⟨pieces, comes, partition⟩ :=
          @ih next later (result ++ [⟨fromTime, next⟩]) rest inside laterEq (by omega)
        refine ⟨⟨fromTime, next⟩ :: pieces, ?_, ?_⟩
        · apply Comes.head
          have stepped : splitStep untilTime resolution (.loop fromTime next result) =
              .loop next later (result ++ [⟨fromTime, next⟩]) := by
            simp [splitStep, SplitState.ofOutcome, UtcTime.less_of_ne_null nextNull splittable.untilNull, inside,
              laterEq]
          rw [stepped]
          simpa using comes
        · exact partition.cons (UtcTime.lt_iff.mpr (by omega)) (by omega)
      · have reached : untilTime.ticks ≤ next.ticks := not_lt.mp (mt UtcTime.lt_iff.mpr inside)
        refine ⟨[⟨fromTime, untilTime⟩], ?_, partition_single before (by omega)⟩
        apply Comes.head
        have stepped : splitStep untilTime resolution (.loop fromTime next result) =
            .ended (.ok (result ++ [⟨fromTime, untilTime⟩])) := by
          simp [splitStep, SplitState.ofOutcome, UtcTime.less_of_ne_null nextNull splittable.untilNull, inside]
        rw [stepped]
        exact Comes.refl

theorem ended_stays (outcome : Except SystemException (List TimePeriod)) (turns : Nat) :
    (splitStep untilTime resolution)^[turns] (.ended outcome) = .ended outcome :=
  Function.iterate_fixed rfl turns

theorem loop_splittable (positive : 0 < resolution) (span : resolution < 2 ^ 63) {turns : Nat}
    {result outcome : List TimePeriod} (added : fromTime.add resolution = .ok nextTo)
    (run : (splitStep untilTime resolution)^[turns] (.loop fromTime nextTo result) = .ended (.ok outcome)) :
    ∃ pieces, outcome = result ++ pieces ∧ pieces ≠ [] ∧ (Partition ⟨fromTime, untilTime⟩ resolution pieces →
      Splittable ⟨fromTime, untilTime⟩ resolution) := by
  induction turns generalizing fromTime nextTo result with
  | zero => cases run
  | succ turns ih =>
      rw [Function.iterate_succ_apply] at run
      cases compared : UtcTime.less nextTo untilTime with
      | error exception =>
          have stepped : splitStep untilTime resolution (.loop fromTime nextTo result) = .ended (.error exception) := by
            simp [splitStep, SplitState.ofOutcome, compared]
          rw [stepped, ended_stays] at run
          cases run
      | ok answer =>
          have facts := UtcTime.compareOp_ok compared
          cases answer with
          | false =>
              have stepped : splitStep untilTime resolution (.loop fromTime nextTo result) =
                  .ended (.ok (result ++ [⟨fromTime, untilTime⟩])) := by
                simp [splitStep, SplitState.ofOutcome, compared]
              rw [stepped, ended_stays] at run
              cases run
              refine ⟨_, rfl, by simp, ?_⟩
              intro partition
              have before := partition.positive _ List.mem_cons_self
              have reached : untilTime ≤ nextTo := not_lt.mp (mt UtcTime.lt_iff.mp (of_decide_eq_false facts.2.2.symm))
              have advance := add_advances positive span added before (lt_of_lt_of_le before reached)
              exact splittable_last positive (UtcTime.ne_null_iff.mpr advance.1) facts.2.1 advance.2.1 advance.2.2.1
                facts.1 advance.2.2.2 reached
          | true =>
              cases addedNext : nextTo.add resolution with
              | error exception =>
                  have stepped : splitStep untilTime resolution (.loop fromTime nextTo result) =
                      .ended (.error exception) := by
                    simp [splitStep, SplitState.ofOutcome, compared, addedNext]
                  rw [stepped, ended_stays] at run
                  cases run
              | ok later =>
                  have stepped : splitStep untilTime resolution (.loop fromTime nextTo result) =
                      .loop nextTo later (result ++ [⟨fromTime, nextTo⟩]) := by
                    simp [splitStep, SplitState.ofOutcome, compared, addedNext]
                  rw [stepped] at run
                  obtain ⟨pieces, rfl, more, splittable⟩ := ih addedNext run
                  refine ⟨⟨fromTime, nextTo⟩ :: pieces, by simp, by simp, ?_⟩
                  intro partition
                  have rest := splittable (partition.tail more)
                  have forward := (partition.step more).1
                  have advance := add_advances positive span added forward forward
                  exact rest.step (UtcTime.ne_null_iff.mpr advance.1) advance.2.1 advance.2.2.1 advance.2.2.2

theorem splitReturns_of_splittable {period : TimePeriod} (before : period.fromTime < period.untilTime)
    (positive : 0 < resolution) (splittable : period.Splittable resolution) :
    ∃ pieces, period.SplitReturns resolution pieces ∧ period.Partition resolution pieces := by
  obtain ⟨next, added, ticks, nextNull⟩ := splittable.head positive before
  by_cases reached : period.untilTime ≤ next
  · have order := UtcTime.le_iff.mp reached
    refine ⟨[⟨period.fromTime, period.untilTime⟩], ?_, partition_single before (by omega)⟩
    have started : period.splitStart resolution = .ended (.ok [⟨period.fromTime, period.untilTime⟩]) := by
      simp [splitStart, SplitState.ofOutcome, added,
        UtcTime.greaterOrEqual_of_ne_null nextNull splittable.untilNull, reached]
    rw [SplitReturns, started]
    exact Comes.refl
  · obtain ⟨pieces, comes, partition⟩ := @loop_comes _ _ _ _ positive
      (period.untilTime.ticks - period.fromTime.ticks).toNat [] splittable before added (Int.self_le_toNat _)
    refine ⟨pieces, ?_, partition⟩
    have started : period.splitStart resolution = .loop period.fromTime next [] := by
      simp [splitStart, SplitState.ofOutcome, added,
        UtcTime.greaterOrEqual_of_ne_null nextNull splittable.untilNull, reached]
    rw [SplitReturns, started]
    exact comes

theorem splittable_of_splitReturns {period : TimePeriod} (positive : 0 < resolution) (span : resolution < 2 ^ 63)
    {pieces : List TimePeriod} (returns : period.SplitReturns resolution pieces)
    (partition : period.Partition resolution pieces) : period.Splittable resolution := by
  obtain ⟨turns, run⟩ := returns
  cases added : period.fromTime.add resolution with
  | error exception =>
      have started : period.splitStart resolution = .ended (.error exception) := by
        simp [splitStart, SplitState.ofOutcome, added]
      rw [started, ended_stays] at run
      cases run
  | ok next =>
      cases compared : UtcTime.greaterOrEqual next period.untilTime with
      | error exception =>
          have started : period.splitStart resolution = .ended (.error exception) := by
            simp [splitStart, SplitState.ofOutcome, added, compared]
          rw [started, ended_stays] at run
          cases run
      | ok answer =>
          cases answer with
          | false =>
              have started : period.splitStart resolution = .loop period.fromTime next [] := by
                simp [splitStart, SplitState.ofOutcome, added, compared]
              rw [started] at run
              obtain ⟨others, rfl, _, splittable⟩ := loop_splittable positive span added run
              exact splittable partition
          | true =>
              have started : period.splitStart resolution = .ended (.ok [⟨period.fromTime, period.untilTime⟩]) := by
                simp [splitStart, SplitState.ofOutcome, added, compared]
              rw [started, ended_stays] at run
              cases run
              have before := partition.positive _ List.mem_cons_self
              have facts := UtcTime.compareOp_ok compared
              have reached : period.untilTime ≤ next := UtcTime.le_iff.mpr (of_decide_eq_true facts.2.2.symm)
              have advance := add_advances positive span added before (lt_of_lt_of_le before reached)
              exact splittable_last positive (UtcTime.ne_null_iff.mpr advance.1) facts.2.1 advance.2.1 advance.2.2.1
                facts.1 advance.2.2.2 reached

/-- Splitting a period that goes forward returns a partition exactly where the raster can be
followed to the end. -/
theorem split_partition_iff {period : TimePeriod} (before : period.fromTime < period.untilTime)
    (positive : 0 < resolution) (span : resolution < 2 ^ 63) :
    (∃ pieces, period.SplitReturns resolution pieces ∧ period.Partition resolution pieces) ↔
      period.Splittable resolution := by
  constructor
  · rintro ⟨pieces, returns, partition⟩
    exact splittable_of_splitReturns positive span returns partition
  · exact splitReturns_of_splittable before positive

end Loop

theorem split_partition_iff_hours : ∃ pieces,
    SplitReturns ⟨.ofTicks (Utc.hour * 1), .ofTicks (Utc.minute * 210)⟩ Utc.hour pieces ∧
      Partition ⟨.ofTicks (Utc.hour * 1), .ofTicks (Utc.minute * 210)⟩ Utc.hour pieces := by
  have hour : Utc.hour = 36000000000 := rfl
  have null : Utc.null = 0 := rfl
  have least : Utc.minValue = -9223372036854775807 := rfl
  have start : (UtcTime.ofTicks (Utc.hour * 1)).ticks = 36000000000 := by decide
  have stop : (UtcTime.ofTicks (Utc.minute * 210)).ticks = 126000000000 := by decide
  apply (split_partition_iff (by decide) (by decide) (by decide)).mpr
  refine ⟨by decide, by decide, ?_, ?_, ?_⟩
  all_goals
    dsimp only
    intro turn inside
    rw [start, hour] at *
    omega

/-- A period with an open beginning: the loop never gets on. -/
theorem split_openStart : ¬∃ pieces,
    SplitReturns ⟨.minValue, .ofTicks Utc.hour⟩ Utc.hour pieces ∧
      Partition ⟨.minValue, .ofTicks Utc.hour⟩ Utc.hour pieces := by
  rintro ⟨pieces, returns, partition⟩
  have splittable := splittable_of_splitReturns (by decide) (by decide) returns partition
  exact absurd rfl (splittable.notMin 0 (by decide))

end TimePeriod

end ServiceHost
