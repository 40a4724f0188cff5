import Mathlib.Algebra.Order.Field.Basic
import Mathlib.Tactic.Ring
import ServiceHost.TimeSeries.CurveSeriesCore

/-!
What a series reads at a time: the point of the time, nothing before the first point, the
last point after it, and something between two neighbours otherwise. The neighbours may be
the two limits of one instant; then there is nothing to interpolate over.
-/

namespace ServiceHost

open Library

section Means

theorem mean_between_iff {a b r : ℚ} :
    min a b ≤ a + (b - a) * r ∧ a + (b - a) * r ≤ max a b ↔ a = b ∨ 0 ≤ r ∧ r ≤ 1 := by
  rcases lt_trichotomy a b with less | same | greater
  · rw [min_eq_left (le_of_lt less), max_eq_right (le_of_lt less)]
    have width : 0 < b - a := sub_pos.mpr less
    have lower : a ≤ a + (b - a) * r ↔ 0 ≤ r := by
      rw [le_add_iff_nonneg_right, mul_nonneg_iff_of_pos_left width]
    have upper : a + (b - a) * r ≤ b ↔ r ≤ 1 := by
      rw [← le_sub_iff_add_le', mul_le_iff_le_one_right width]
    rw [lower, upper]
    exact ⟨Or.inr, fun either => either.resolve_left (ne_of_lt less)⟩
  · subst same
    simp
  · rw [min_eq_right (le_of_lt greater), max_eq_left (le_of_lt greater)]
    have width : 0 < a - b := sub_pos.mpr greater
    have turned : a + (b - a) * r = a - (a - b) * r := by ring
    have upper : a - (a - b) * r ≤ a ↔ 0 ≤ r := by
      rw [sub_le_self_iff, mul_nonneg_iff_of_pos_left width]
    have lower : b ≤ a - (a - b) * r ↔ r ≤ 1 := by
      rw [le_sub_comm, mul_le_iff_le_one_right width]
    rw [turned]
    rw [lower, upper]
    exact ⟨fun both => Or.inr ⟨both.2, both.1⟩, fun either => (either.resolve_left (ne_of_gt greater)).symm⟩

theorem quotient_proper_iff {x y : ℤ} (divisor : y ≠ 0) : (0 ≤ (x : ℚ) / y ∧ (x : ℚ) / y ≤ 1) ↔ 0 ≤ x ∧ x ≤ y ∨ y ≤ x ∧ x ≤ 0 := by
  rw [div_nonneg_iff, div_le_one_iff]
  norm_cast
  omega
end Means

section Positions

variable {time : LimitTime} {before after tvqs : List (Tvq ℚ)}

theorem countUpTo_append (below : ∀ tvq ∈ before, tvq.limitTime < time)
    (above : ∀ tvq ∈ after, time < tvq.limitTime) : countUpTo time (before ++ after) = before.length := by
  induction before with
  | nil =>
      cases after with
      | nil => rfl
      | cons tvq rest => exact if_neg (not_le.mpr (above tvq List.mem_cons_self))
  | cons tvq rest ih =>
      have first := below tvq List.mem_cons_self
      rw [List.cons_append, countUpTo, if_pos (le_of_lt first), List.length_cons,
        ih fun other member => below other (List.mem_cons_of_mem _ member)]

theorem exists_cut (sorted : tvqs.Pairwise fun first second => first.limitTime < second.limitTime)
    (missing : ∀ tvq ∈ tvqs, tvq.limitTime ≠ time) : ∃ before after, tvqs = before ++ after ∧
      (∀ tvq ∈ before, tvq.limitTime < time) ∧ ∀ tvq ∈ after, time < tvq.limitTime := by
  induction tvqs with
  | nil => exact ⟨[], [], rfl, fun _ member => absurd member List.not_mem_nil, fun _ member => absurd member List.not_mem_nil⟩
  | cons tvq rest ih =>
      obtain ⟨later, restSorted⟩ := List.pairwise_cons.mp sorted
      rcases lt_or_gt_of_ne (missing tvq List.mem_cons_self) with below | above
      · obtain ⟨before, after, cut, belowRest, aboveRest⟩ :=
          ih restSorted fun other member => missing other (List.mem_cons_of_mem _ member)
        refine ⟨tvq :: before, after, by rw [cut, List.cons_append], ?_, aboveRest⟩
        intro other member
        rcases List.mem_cons.mp member with same | inRest
        · exact same ▸ below
        · exact belowRest other inRest
      · refine ⟨[], tvq :: rest, rfl, fun _ member => absurd member List.not_mem_nil, ?_⟩
        intro other member
        rcases List.mem_cons.mp member with same | inRest
        · exact same ▸ above
        · exact lt_trans above (later other inRest)

end Positions

namespace CurveSeries

variable (ts : CurveSeries) {time : LimitTime} {first second : Tvq ℚ}

theorem tvqs_sorted : ts.tvqs.Pairwise fun first second => first.limitTime < second.limitTime :=
  List.pairwise_map.mpr ts.points.sorted

theorem tvqs_length : ts.tvqs.length = ts.points.count := List.length_map _

theorem find?_eq_none_iff : ts.points.find? time = none ↔ ∀ tvq ∈ ts.tvqs, tvq.limitTime ≠ time := by
  simp only [SortedEntries.find?, Option.map_eq_none_iff, List.find?_eq_none, decide_eq_true_eq, TimeSeries.tvqs,
    List.mem_map, forall_exists_index, and_imp, forall_apply_eq_imp_iff₂]

def Between (time : LimitTime) (first second : Tvq ℚ) : Prop :=
  (∃ before after, ts.tvqs = before ++ first :: second :: after) ∧ first.limitTime < time ∧ time < second.limitTime

theorem Between.cut {ts : CurveSeries} (between : ts.Between time first second) : ∃ before after,
    ts.tvqs = (before ++ [first]) ++ second :: after ∧ (∀ tvq ∈ before ++ [first], tvq.limitTime ≤ first.limitTime) ∧
      ∀ tvq ∈ second :: after, second.limitTime ≤ tvq.limitTime := by
  obtain ⟨⟨before, after, items⟩, firstBelow, secondAbove⟩ := between
  have sorted := ts.tvqs_sorted
  rw [items] at sorted
  obtain ⟨_, tailSorted, order⟩ := List.pairwise_append.mp sorted
  refine ⟨before, after, by rw [items, List.append_assoc]; rfl, ?_, ?_⟩
  · intro tvq member
    rcases List.mem_append.mp member with inBefore | isFirst
    · exact le_of_lt (order tvq inBefore first List.mem_cons_self)
    · exact le_of_eq (congrArg Tvq.limitTime (List.mem_singleton.mp isFirst))
  · intro tvq member
    rcases List.mem_cons.mp member with isSecond | inAfter
    · exact le_of_eq (congrArg Tvq.limitTime isSecond.symm)
    · exact le_of_lt ((List.pairwise_cons.mp (List.pairwise_cons.mp tailSorted).2).1 tvq inAfter)

theorem Between.side {ts : CurveSeries} (between : ts.Between time first second) {tvq : Tvq ℚ}
    (member : tvq ∈ ts.tvqs) : tvq.limitTime ≤ first.limitTime ∨ second.limitTime ≤ tvq.limitTime := by
  obtain ⟨before, after, cut, below, above⟩ := between.cut
  rw [cut] at member
  rcases List.mem_append.mp member with early | late
  · exact Or.inl (below tvq early)
  · exact Or.inr (above tvq late)

theorem Between.missing {ts : CurveSeries} (between : ts.Between time first second) :
    ts.points.find? time = none := by
  rw [find?_eq_none_iff]
  intro tvq member
  rcases between.side member with early | late
  · exact ne_of_lt (lt_of_le_of_lt early between.2.1)
  · exact ne_of_gt (lt_of_lt_of_le between.2.2 late)

theorem position (missing : ts.points.find? time = none) : (∀ tvq ∈ ts.tvqs, time < tvq.limitTime) ∨
    (∃ before last, ts.tvqs = before ++ [last] ∧ ∀ tvq ∈ ts.tvqs, tvq.limitTime < time) ∨
    ∃ first second, ts.Between time first second := by
  obtain ⟨before, after, cut, below, above⟩ := exists_cut ts.tvqs_sorted (ts.find?_eq_none_iff.mp missing)
  cases List.eq_nil_or_concat before with
  | inl none =>
      rw [none, List.nil_append] at cut
      rw [cut]
      exact Or.inl above
  | inr some =>
      obtain ⟨earlier, first, same⟩ := some
      rw [List.concat_eq_append] at same
      subst same
      have firstBelow := below first (by simp)
      cases after with
      | nil =>
          rw [List.append_nil] at cut
          refine Or.inr (Or.inl ⟨earlier, first, cut, ?_⟩)
          rw [cut]
          exact below
      | cons second later =>
          refine Or.inr (Or.inr ⟨first, second, ⟨earlier, later, ?_⟩, firstBelow, above second List.mem_cons_self⟩)
          rw [cut, List.append_assoc]
          rfl

theorem getTvq_found {vq : VQ ℚ} (found : ts.points.find? time = some vq) : ts.getTvq time = .ok (some ⟨time, vq⟩) := by
  rw [getTvq, found]
  rfl

theorem getTvq_early (missing : ts.points.find? time = none) (early : ∀ tvq ∈ ts.tvqs, time < tvq.limitTime) :
    ts.getTvq time = .ok none := by
  have count : countUpTo time ts.tvqs = 0 :=
    @countUpTo_append time [] ts.tvqs (fun _ member => absurd member List.not_mem_nil) early
  rw [getTvq, missing]
  simp only [indexByTime, count]
  rfl

theorem itemByIndex_eq {before after : List (Tvq ℚ)} {tvq : Tvq ℚ} (items : ts.tvqs = before ++ tvq :: after) :
    ts.itemByIndex before.length = .ok tvq := by
  have there : ts.tvqs[(before.length : Int).toNat]? = some tvq := by
    rw [Int.toNat_natCast, items, List.getElem?_append_right (Nat.le_refl _), Nat.sub_self, List.getElem?_cons_zero]
  rw [itemByIndex, there]
  exact if_pos (Int.natCast_nonneg _)

theorem getTvq_late {before : List (Tvq ℚ)} {last : Tvq ℚ} (missing : ts.points.find? time = none)
    (items : ts.tvqs = before ++ [last]) (late : ∀ tvq ∈ ts.tvqs, tvq.limitTime < time) :
    ts.getTvq time = .ok (some ⟨time, last.vq⟩) := by
  have count : countUpTo time ts.tvqs = before.length + 1 := by
    have all := @countUpTo_append time ts.tvqs [] late fun _ member => absurd member List.not_mem_nil
    rw [List.append_nil] at all
    rw [all, items, List.length_append, List.length_singleton]
  have size : ts.points.count = before.length + 1 := by
    rw [← tvqs_length, items, List.length_append, List.length_singleton]
  have index : ts.indexByTime time = before.length := by
    rw [indexByTime, count]
    omega
  rw [getTvq, missing]
  simp only [index, size]
  rw [if_neg (by omega), if_pos (Or.inr (by omega)), itemByIndex_eq ts items]
  rfl

theorem getTvq_between (between : ts.Between time first second) : ts.getTvq time =
    if ts.curveType = .step then .ok (some ⟨time, first.vq⟩)
    else (interpolate time.time first second).map fun value => some ⟨time, ⟨value, Quality.ofInt 0⟩⟩ := by
  obtain ⟨before, after, cut, early, late⟩ := between.cut
  have below : ∀ tvq ∈ before ++ [first], tvq.limitTime < time := fun tvq member =>
    lt_of_le_of_lt (early tvq member) between.2.1
  have above : ∀ tvq ∈ second :: after, time < tvq.limitTime := fun tvq member =>
    lt_of_lt_of_le between.2.2 (late tvq member)
  have items : ts.tvqs = before ++ first :: second :: after := by
    rw [cut, List.append_assoc]
    rfl
  have index : ts.indexByTime time = before.length := by
    rw [indexByTime, cut, countUpTo_append below above, List.length_append, List.length_singleton]
    omega
  have size : ts.points.count = before.length + 1 + (after.length + 1) := by
    rw [← tvqs_length, cut, List.length_append, List.length_append, List.length_singleton, List.length_cons]
  have item := itemByIndex_eq ts items
  have next : ts.itemByIndex (before.length + 1) = .ok second := by
    have there := itemByIndex_eq ts cut
    rwa [List.length_append, List.length_singleton] at there
  rw [getTvq, between.missing]
  simp only [index, size, item, next]
  rw [if_neg (by omega)]
  by_cases step : ts.curveType = .step
  · rw [if_pos (Or.inl step), if_pos step]
    rfl
  · have notLast : ¬((before.length : Int) = ((before.length + 1 + (after.length + 1) : Nat) : Int) - 1) := by omega
    rw [if_neg (not_or.mpr ⟨step, notLast⟩), if_neg step]
    simp only [bind, Except.bind]
    cases interpolate time.time first second <;> rfl

def ReadsBetween (time : LimitTime) : Prop :=
  ∃ read, ts.getTvq time = .ok read ∧ (ts.curveType ≠ .step → ∀ first second, ts.Between time first second →
    ∃ tvq, read = some tvq ∧ min first.value second.value ≤ tvq.value ∧ tvq.value ≤ max first.value second.value)

def StraddledBy (time : LimitTime) : Prop :=
  time.limit = .point ∧ ts.points.contains ⟨time.time, .leftLimit⟩ = true ∧
    ts.points.contains ⟨time.time, .rightLimit⟩ = true ∧ ts.points.contains time = false

def FarBetween (time : LimitTime) (first second : Tvq ℚ) : Prop :=
  ts.Between time first second ∧ 2 ^ 63 ≤ second.time.ticks - first.time.ticks ∧ first.value ≠ second.value ∧
    first.time < time.time ∧ time.time < second.time

variable {ts}

theorem contains_iff : ts.points.contains time = true ↔ ∃ tvq ∈ ts.tvqs, tvq.limitTime = time := by
  simp only [SortedEntries.contains, List.any_eq_true, decide_eq_true_eq, TimeSeries.tvqs, List.mem_map,
    exists_exists_and_eq_and]

theorem contains_eq_false_iff : ts.points.contains time = false ↔ ts.points.find? time = none := by
  rw [find?_eq_none_iff, ← Bool.not_eq_true, contains_iff]
  push Not
  rfl

theorem time_le_of_le {time other : LimitTime} (le : time ≤ other) : time.time ≤ other.time := by
  rcases lt_or_eq_of_le le with less | same
  · rcases LimitTime.lt_iff.mp less with earlier | sameTime
    · exact le_of_lt earlier
    · exact le_of_eq sameTime.1
  · exact le_of_eq (congrArg LimitTime.time same)

theorem Between.straddles (between : ts.Between time first second) (sameTime : first.time = second.time) :
    ts.StraddledBy time := by
  obtain ⟨before, after, cut, _, _⟩ := between.cut
  have firstMember : first ∈ ts.tvqs := by simp [cut]
  have secondMember : second ∈ ts.tvqs := by simp [cut]
  have missing := contains_eq_false_iff.mpr between.missing
  obtain ⟨_, firstBelow, secondAbove⟩ := between
  have instant : first.time = time.time :=
    le_antisymm (time_le_of_le (le_of_lt firstBelow))
      ((time_le_of_le (le_of_lt secondAbove)).trans (le_of_eq sameTime.symm))
  obtain ⟨⟨firstTime, firstLimit⟩, firstVq⟩ := first
  obtain ⟨⟨secondTime, secondLimit⟩, secondVq⟩ := second
  obtain ⟨instantTime, limit⟩ := time
  obtain rfl : firstTime = secondTime := sameTime
  obtain rfl : firstTime = instantTime := instant
  have firstRank : LimitTime.rank firstLimit < LimitTime.rank limit := by
    simpa [LimitTime.lt_iff] using firstBelow
  have secondRank : LimitTime.rank limit < LimitTime.rank secondLimit := by
    simpa [LimitTime.lt_iff] using secondAbove
  have limits : limit = .point ∧ firstLimit = .leftLimit ∧ secondLimit = .rightLimit := by
    cases limit <;> cases firstLimit <;> cases secondLimit <;> simp_all [LimitTime.rank]
  obtain ⟨rfl, rfl, rfl⟩ := limits
  exact ⟨rfl, contains_iff.mpr ⟨_, firstMember, rfl⟩, contains_iff.mpr ⟨_, secondMember, rfl⟩, missing⟩

theorem StraddledBy.between (straddled : ts.StraddledBy time) :
    ∃ first second, ts.Between time first second ∧ first.time = second.time := by
  obtain ⟨isPoint, left, right, missing⟩ := straddled
  obtain ⟨instant, limit⟩ := time
  obtain rfl : limit = .point := isPoint
  obtain ⟨leftTvq, leftMember, leftTime⟩ := contains_iff.mp left
  obtain ⟨rightTvq, rightMember, rightTime⟩ := contains_iff.mp right
  have leftBelow : leftTvq.limitTime < ⟨instant, .point⟩ := by
    rw [leftTime, LimitTime.lt_iff]
    exact Or.inr ⟨rfl, Nat.zero_lt_one⟩
  have rightAbove : (⟨instant, .point⟩ : LimitTime) < rightTvq.limitTime := by
    rw [rightTime, LimitTime.lt_iff]
    exact Or.inr ⟨rfl, Nat.one_lt_two⟩
  rcases ts.position (contains_eq_false_iff.mp missing) with early | ⟨_, _, _, late⟩ | ⟨first, second, between⟩
  · exact absurd leftBelow (not_lt.mpr (le_of_lt (early leftTvq leftMember)))
  · exact absurd rightAbove (not_lt.mpr (le_of_lt (late rightTvq rightMember)))
  · have firstBelow := between.2.1
    have secondAbove := between.2.2
    have leftFirst : leftTvq.limitTime ≤ first.limitTime :=
      (between.side leftMember).resolve_right fun beyond => absurd leftBelow (not_lt.mpr (le_of_lt (secondAbove.trans_le beyond)))
    have secondRight : second.limitTime ≤ rightTvq.limitTime :=
      (between.side rightMember).resolve_left fun beyond => absurd rightAbove (not_lt.mpr (le_of_lt (beyond.trans_lt firstBelow)))
    rw [leftTime] at leftFirst
    rw [rightTime] at secondRight
    have firstTime : first.time = instant :=
      le_antisymm (time_le_of_le (le_of_lt firstBelow)) (time_le_of_le leftFirst)
    have secondTime : second.time = instant :=
      le_antisymm (time_le_of_le secondRight) (time_le_of_le (le_of_lt secondAbove))
    exact ⟨first, second, between, firstTime.trans secondTime.symm⟩

theorem interpolate_error (sameTime : first.time = second.time) :
    interpolate time.time first second = .error .divideByZero := by
  rw [interpolate]
  exact if_pos ((UtcTime.long_sub_eq_zero _ _).mpr sameTime.symm)

theorem long_forward {length : Int} (notNegative : 0 ≤ length) (onAxis : length < 2 ^ 64) :
    long length = if length < 2 ^ 63 then length else length - 2 ^ 64 := by
  rw [long, Int.bmod_def]
  split <;> split <;> omega

theorem interpolate_between_iff (between : ts.Between time first second) (different : first.time ≠ second.time) :
    ∃ value, interpolate time.time first second = .ok value ∧
      (min first.value second.value ≤ value ∧ value ≤ max first.value second.value ↔
        ¬ts.FarBetween time first second) := by
  have firstTime : first.time ≤ time.time := time_le_of_le (le_of_lt between.2.1)
  have secondTime : time.time ≤ second.time := time_le_of_le (le_of_lt between.2.2)
  have divisor : long (second.time.ticks - first.time.ticks) ≠ 0 :=
    mt (UtcTime.long_sub_eq_zero _ _).mp different.symm
  have lower := first.time.lower
  have upper := second.time.upper
  rw [UtcTime.le_iff] at firstTime secondTime
  refine ⟨_, if_neg divisor, ?_⟩
  rw [mul_div_assoc, mean_between_iff, quotient_proper_iff divisor]
  have whole := @long_forward (second.time.ticks - first.time.ticks) (by omega) (by omega)
  have part := @long_forward (time.time.ticks - first.time.ticks) (by omega) (by omega)
  have proper : (0 ≤ long (time.time.ticks - first.time.ticks) ∧
        long (time.time.ticks - first.time.ticks) ≤ long (second.time.ticks - first.time.ticks) ∨
      long (second.time.ticks - first.time.ticks) ≤ long (time.time.ticks - first.time.ticks) ∧
        long (time.time.ticks - first.time.ticks) ≤ 0) ↔
      ¬(2 ^ 63 ≤ second.time.ticks - first.time.ticks ∧ first.time < time.time ∧ time.time < second.time) := by
    rw [whole, part, UtcTime.lt_iff, UtcTime.lt_iff]
    split <;> split <;> omega
  rw [proper, FarBetween]
  by_cases same : first.value = second.value
  · simp [same]
  · simp only [same, false_or, between, true_and, ne_eq, not_false_eq_true]

/-- A series reads between neighbours for every curve and time, but for a point between its own
limits and for neighbours too far apart. -/
theorem readsBetween_iff (ts : CurveSeries) (time : LimitTime) : ts.ReadsBetween time ↔
    ts.curveType = .step ∨ ¬ts.StraddledBy time ∧ ¬∃ first second, ts.FarBetween time first second := by
  constructor
  · rintro ⟨read, got, bounded⟩
    by_cases step : ts.curveType = .step
    · exact Or.inl step
    · refine Or.inr ⟨?_, ?_⟩
      · intro straddled
        obtain ⟨first, second, between, sameTime⟩ := straddled.between
        rw [getTvq_between ts between, if_neg step, interpolate_error sameTime] at got
        cases got
      · rintro ⟨first, second, far⟩
        have between := far.1
        have different : first.time ≠ second.time := ne_of_lt (lt_trans far.2.2.2.1 far.2.2.2.2)
        obtain ⟨value, interpolated, inside⟩ := interpolate_between_iff between different
        rw [getTvq_between ts between, if_neg step, interpolated] at got
        obtain ⟨tvq, isRead, bounds⟩ := bounded step first second between
        have same : some ⟨time, ⟨value, Quality.ofInt 0⟩⟩ = some tvq := (Except.ok.inj got).trans isRead
        rw [← Option.some.inj same] at bounds
        exact inside.mp bounds far
  · intro holds
    have reads (first second : Tvq ℚ) (between : ts.Between time first second) (notStep : ts.curveType ≠ .step) :
        ∃ tvq, ts.getTvq time = .ok (some tvq) ∧ min first.value second.value ≤ tvq.value ∧
          tvq.value ≤ max first.value second.value := by
      obtain ⟨notStraddled, notFar⟩ := holds.resolve_left notStep
      have different : first.time ≠ second.time := fun sameTime => notStraddled (between.straddles sameTime)
      obtain ⟨value, interpolated, inside⟩ := interpolate_between_iff between different
      refine ⟨⟨time, ⟨value, Quality.ofInt 0⟩⟩, ?_, inside.mpr fun far => notFar ⟨first, second, far⟩⟩
      rw [getTvq_between ts between, if_neg notStep, interpolated]
      rfl
    have returns : ∃ read, ts.getTvq time = .ok read := by
      cases found : ts.points.find? time with
      | some vq => exact ⟨_, getTvq_found ts found⟩
      | none =>
          rcases ts.position found with early | ⟨before, last, items, late⟩ | ⟨first, second, between⟩
          · exact ⟨_, getTvq_early ts found early⟩
          · exact ⟨_, getTvq_late ts found items late⟩
          · by_cases step : ts.curveType = .step
            · exact ⟨_, (getTvq_between ts between).trans (if_pos step)⟩
            · obtain ⟨tvq, read, _⟩ := reads first second between step
              exact ⟨_, read⟩
    obtain ⟨read, got⟩ := returns
    refine ⟨read, got, ?_⟩
    intro notStep first second between
    obtain ⟨tvq, alsoGot, bounds⟩ := reads first second between notStep
    exact ⟨tvq, Except.ok.inj (got.symm.trans alsoGot), bounds⟩

def limitsSeries (instant : UtcTime) : CurveSeries where
  name := none
  resolution := .unconstrained
  points := (SortedEntries.empty.set ⟨instant, .leftLimit⟩ ⟨1, Quality.ofInt 0⟩).set ⟨instant, .rightLimit⟩ ⟨2, Quality.ofInt 0⟩
  description := none
  curveType := .linear
  unit := none

/-- The point between its limits is not read. -/
theorem readsBetween_limits : ¬ ∀ (ts : CurveSeries) (time : LimitTime), ts.ReadsBetween time := by
  intro holds
  obtain ⟨read, got, _⟩ := holds (limitsSeries (UtcTime.ofTicks 36000000000)) ⟨UtcTime.ofTicks 36000000000, .point⟩
  have error : (limitsSeries (UtcTime.ofTicks 36000000000)).getTvq ⟨UtcTime.ofTicks 36000000000, .point⟩ =
    .error .divideByZero := by decide +kernel
  rw [error] at got
  cases got

end CurveSeries

end ServiceHost
