import Mathlib.Order.MinMax
import ServiceHost.TimeSeries.TsWriteItems

/-!
Protecting corrected values: which points the constructor takes out, and what
becomes of the periods to delete. A period is made to begin at the first of the
points that remain in it, whether or not its series has a date up to which it has
been corrected.
-/

namespace ServiceHost

open Library

namespace UtcTime

theorem compareOp_eq_ok_iff {relation : Int → Int → Bool} {a b : UtcTime} {result : Bool} :
    compareOp relation a b = .ok result ↔ a ≠ null ∧ b ≠ null ∧ relation a.ticks b.ticks = result := by
  simp only [compareOp, Utc.null, ne_null_iff]
  by_cases aNull : a.ticks = 0
  · simp [aNull]
  · by_cases bNull : b.ticks = 0
    · simp [bNull]
    · simp [aNull, bNull]

end UtcTime

variable {D : Type}

namespace TsPoint

def Covered (point : TsPoint D) : Prop :=
  point.vlcode = 0 ∧ point.lcDate ≠ UtcTime.null ∧ point.time ≤ point.lcDate

instance (point : TsPoint D) : Decidable point.Covered := inferInstanceAs (Decidable (_ ∧ _ ∧ _))

theorem protect_eq_ok_iff {optional : OptionalArrays} {point : TsPoint D} {kept : Option (TsPoint D)} :
    point.protect optional = .ok kept ↔
      (point.vlcode = 0 → point.lcDate ≠ UtcTime.null → point.time ≠ UtcTime.null) ∧
      (point.Covered → optional.paraFlags = true) ∧ (if point.Covered then none else some point) = kept := by
  by_cases value : point.vlcode = 0
  · by_cases noDate : point.lcDate = UtcTime.null
    · simp [protect, value, Covered, noDate, UtcTime.null]
    · have ticks : point.lcDate.ticks ≠ Utc.null := UtcTime.ne_null_iff.mp noDate
      by_cases noTime : point.time = UtcTime.null
      · have raised : UtcTime.less point.lcDate point.time = .error (.argumentNull UtcTime.oneOfOperandsIsNull) := by
          simp [UtcTime.less, UtcTime.compareOp, noTime, UtcTime.null]
        simp only [protect, value, ne_eq, not_true_eq_false, if_false, ticks, raised, error_bind]
        simp [noDate, noTime]
      · have compared := UtcTime.less_of_ne_null noDate noTime
        simp only [protect, value, ne_eq, not_true_eq_false, if_false, ticks, compared, ok_bind]
        by_cases later : point.lcDate < point.time
        · have notCovered : ¬point.Covered := fun covered => absurd covered.2.2 (not_le.mpr later)
          simp [later, notCovered, noTime]
        · have covered : point.Covered := ⟨value, noDate, not_lt.mp later⟩
          cases flags : optional.paraFlags with
          | false => simp [later, covered]
          | true => simp [later, covered, noTime]
  · simp [protect, value, Covered]

end TsPoint

def seriesDate (optional : OptionalArrays) (points : List (TsPoint D)) (timsKey : Int) : Option UtcTime :=
  if optional.lcDates then
    (points.find? fun point => point.timsKey = timsKey ∧ point.lcDate ≠ UtcTime.null).map TsPoint.lcDate
  else none

def Corrected (optional : OptionalArrays) (points : List (TsPoint D)) (point : TsPoint D) : Prop :=
  point.vlcode = 0 ∧ ∃ date ∈ seriesDate optional points point.timsKey, point.time ≤ date

instance (optional : OptionalArrays) (points : List (TsPoint D)) (point : TsPoint D) :
    Decidable (Corrected optional points point) := inferInstanceAs (Decidable (_ ∧ _))

def OneDatePerSeries (points : List (TsPoint D)) : Prop :=
  ∀ point ∈ points, ∀ other ∈ points, point.timsKey = other.timsKey →
    point.lcDate ≠ UtcTime.null → other.lcDate ≠ UtcTime.null → point.lcDate = other.lcDate

instance (points : List (TsPoint D)) : Decidable (OneDatePerSeries points) :=
  inferInstanceAs (Decidable (∀ point ∈ points, ∀ other ∈ points, _ → _ → _ → _))

namespace DeletePeriod

def Holds (tzDb : RegionalCalendar) (period : DeletePeriod) (time : UtcTime) : Prop :=
  ∃ fromTime untilTime, tzDb.ofDatabaseString period.fromDate17 = .ok fromTime ∧
    tzDb.ofDatabaseString period.untilDate17 = .ok untilTime ∧ fromTime ≤ time ∧ time ≤ untilTime

def Contains (tzDb : RegionalCalendar) (period : DeletePeriod) (point : TsPoint D) : Prop :=
  period.timsKey = point.timsKey ∧ period.vlcode = point.vlcode ∧ period.Holds tzDb point.time

def bounds (tzDb : RegionalCalendar) (period : DeletePeriod) :
    Int × Int × Except SystemException UtcTime × Except SystemException UtcTime :=
  (period.timsKey, period.vlcode, tzDb.ofDatabaseString period.fromDate17, tzDb.ofDatabaseString period.untilDate17)

end DeletePeriod

def seriesTimes (points : List (TsPoint D)) (timsKey : Int) : List UtcTime :=
  (points.filter fun point => point.vlcode = 0 ∧ point.timsKey = timsKey).map TsPoint.time

def firstWithin (times : List UtcTime) (fromTime untilTime none_ : UtcTime) : UtcTime :=
  (times.filter fun time => fromTime ≤ time ∧ time ≤ untilTime).foldr min none_

namespace DeletePeriod

structure Reads (tzDb : RegionalCalendar) (points : List (TsPoint D)) (period : DeletePeriod)
    (fromTime untilTime second : UtcTime) : Prop where
  fromDate : tzDb.ofDatabaseString period.fromDate17 = .ok fromTime
  untilDate : tzDb.ofDatabaseString period.untilDate17 = .ok untilTime
  following : tzDb.addSeconds untilTime 1 = .ok second
  notNull : second ≠ UtcTime.null
  times : ∀ time ∈ seriesTimes points period.timsKey, time ≠ UtcTime.null ∧ fromTime ≠ UtcTime.null

theorem Reads.untilNull {tzDb : RegionalCalendar} {points : List (TsPoint D)} {period : DeletePeriod}
    {fromTime untilTime second : UtcTime} (reads : period.Reads tzDb points fromTime untilTime second) :
    untilTime ≠ UtcTime.null := by
  rintro rfl
  have raised := reads.following
  cases raised

end DeletePeriod

theorem seriesTimes_cons (point : TsPoint D) (points : List (TsPoint D)) (timsKey : Int) :
    seriesTimes (point :: points) timsKey =
      if point.vlcode = 0 ∧ point.timsKey = timsKey then point.time :: seriesTimes points timsKey
      else seriesTimes points timsKey := by
  by_cases inSeries : point.vlcode = 0 ∧ point.timsKey = timsKey
  · simp [seriesTimes, inSeries]
  · simp only [seriesTimes, inSeries, if_false]
    rw [List.filter_cons_of_neg (by simpa using inSeries)]

theorem firstWithin_cons (time : UtcTime) (times : List UtcTime) (fromTime untilTime none_ : UtcTime) :
    firstWithin (time :: times) fromTime untilTime none_ =
      if fromTime ≤ time ∧ time ≤ untilTime then min time (firstWithin times fromTime untilTime none_)
      else firstWithin times fromTime untilTime none_ := by
  by_cases within : fromTime ≤ time ∧ time ≤ untilTime
  · simp [firstWithin, within]
  · simp only [firstWithin, within, if_false]
    rw [List.filter_cons_of_neg (by simpa using within)]

theorem firstWithin_cases (times : List UtcTime) (fromTime untilTime none_ : UtcTime) :
    firstWithin times fromTime untilTime none_ = none_ ∨
      firstWithin times fromTime untilTime none_ ∈ times ∧
        fromTime ≤ firstWithin times fromTime untilTime none_ ∧
        firstWithin times fromTime untilTime none_ ≤ untilTime := by
  induction times with
  | nil => exact Or.inl rfl
  | cons time times ih =>
      rw [firstWithin_cons]
      split
      · rename_i within
        rcases min_choice time (firstWithin times fromTime untilTime none_) with first | later
        · rw [first]
          exact Or.inr ⟨List.mem_cons_self, within⟩
        · rw [later]
          rcases ih with missing | ⟨member, inside⟩
          · exact Or.inl missing
          · exact Or.inr ⟨List.mem_cons_of_mem time member, inside⟩
      · rcases ih with missing | ⟨member, inside⟩
        · exact Or.inl missing
        · exact Or.inr ⟨List.mem_cons_of_mem time member, inside⟩

theorem firstWithin_le {times : List UtcTime} {fromTime untilTime time : UtcTime} (none_ : UtcTime) (member : time ∈ times)
    (lower : fromTime ≤ time) (upper : time ≤ untilTime) :
    firstWithin times fromTime untilTime none_ ≤ time := by
  induction times with
  | nil => cases member
  | cons first times ih =>
      rw [firstWithin_cons]
      rcases List.mem_cons.mp member with rfl | later
      · rw [if_pos ⟨lower, upper⟩]
        exact min_le_left _ _
      · split
        · exact (min_le_right _ _).trans (ih later)
        · exact ih later

namespace TsPoint

theorem newFromDate_of_other {point : TsPoint D} {timsKey : Int} {fromTime untilTime low : UtcTime}
    (other : ¬(point.vlcode = 0 ∧ point.timsKey = timsKey)) :
    point.newFromDate timsKey fromTime untilTime low = .ok low := by
  by_cases value : point.vlcode = 0
  · have otherSeries : point.timsKey ≠ timsKey := fun same => other ⟨value, same⟩
    simp [newFromDate, value, otherSeries]
  · simp [newFromDate, value]

theorem newFromDate_of_series {point : TsPoint D} {timsKey : Int} {fromTime untilTime low : UtcTime}
    (inSeries : point.vlcode = 0 ∧ point.timsKey = timsKey) (timeNull : point.time ≠ UtcTime.null)
    (fromNull : fromTime ≠ UtcTime.null) (untilNull : untilTime ≠ UtcTime.null) (lowNull : low ≠ UtcTime.null) :
    point.newFromDate timsKey fromTime untilTime low =
      .ok (if fromTime ≤ point.time ∧ point.time ≤ untilTime then min point.time low else low) := by
  have lower := UtcTime.greaterOrEqual_of_ne_null timeNull fromNull
  have upper := UtcTime.lessOrEqual_of_ne_null timeNull untilNull
  have earlier := UtcTime.less_of_ne_null timeNull lowNull
  simp only [newFromDate, inSeries, ne_eq, not_true_eq_false, if_false, lower, upper, earlier, ok_bind,
    decide_eq_true_eq, pure_eq_ok]
  by_cases afterFrom : fromTime ≤ point.time
  · by_cases beforeUntil : point.time ≤ untilTime
    · by_cases before : point.time < low
      · simp [afterFrom, beforeUntil, before, min_eq_left before.le]
      · simp [afterFrom, beforeUntil, before, min_eq_right (not_lt.mp before)]
    · simp [afterFrom, beforeUntil]
  · simp [afterFrom]

theorem foldrM_newFromDate {points : List (TsPoint D)} {timsKey : Int} {fromTime untilTime second : UtcTime}
    (untilNull : untilTime ≠ UtcTime.null) (secondNull : second ≠ UtcTime.null)
    (times : ∀ time ∈ seriesTimes points timsKey, time ≠ UtcTime.null ∧ fromTime ≠ UtcTime.null) :
    points.foldrM (newFromDate timsKey fromTime untilTime) second =
      .ok (firstWithin (seriesTimes points timsKey) fromTime untilTime second) := by
  induction points with
  | nil => rfl
  | cons point points ih =>
      rw [seriesTimes_cons] at times ⊢
      by_cases inSeries : point.vlcode = 0 ∧ point.timsKey = timsKey
      · rw [if_pos inSeries] at times ⊢
        have others := fun time member => times time (List.mem_cons_of_mem point.time member)
        obtain ⟨timeNull, fromNull⟩ := times point.time List.mem_cons_self
        have lowNull : firstWithin (seriesTimes points timsKey) fromTime untilTime second ≠ UtcTime.null := by
          rcases firstWithin_cases (seriesTimes points timsKey) fromTime untilTime second with missing | ⟨member, _⟩
          · rw [missing]
            exact secondNull
          · exact (others _ member).1
        rw [List.foldrM_cons, ih others, ok_bind,
          newFromDate_of_series inSeries timeNull fromNull untilNull lowNull, firstWithin_cons]
      · rw [if_neg inSeries] at times ⊢
        rw [List.foldrM_cons, ih times, ok_bind, newFromDate_of_other inSeries]

theorem newFromDate_reads {point : TsPoint D} {timsKey : Int} {fromTime untilTime later low : UtcTime}
    (inSeries : point.vlcode = 0 ∧ point.timsKey = timsKey)
    (run : point.newFromDate timsKey fromTime untilTime later = .ok low) :
    (point.time ≠ UtcTime.null ∧ fromTime ≠ UtcTime.null) ∧ (later = UtcTime.null → low = UtcTime.null) := by
  simp only [newFromDate, inSeries, ne_eq, not_true_eq_false, if_false, bind_eq_ok_iff] at run
  obtain ⟨afterFrom, compared, run⟩ := run
  obtain ⟨timeNull, fromNull, _⟩ := UtcTime.compareOp_eq_ok_iff.mp compared
  refine ⟨⟨timeNull, fromNull⟩, ?_⟩
  rintro rfl
  have raised : UtcTime.less point.time UtcTime.null = .error (.argumentNull UtcTime.oneOfOperandsIsNull) := by
    simp [UtcTime.less, UtcTime.compareOp, UtcTime.null]
  rw [raised] at run
  cases afterFrom with
  | false =>
      cases run
      rfl
  | true =>
      simp only [if_true, bind_eq_ok_iff] at run
      obtain ⟨beforeUntil, _, run⟩ := run
      cases beforeUntil with
      | false =>
          cases run
          rfl
      | true => cases run

theorem foldrM_newFromDate_reads {points : List (TsPoint D)} {timsKey : Int} {fromTime untilTime second low : UtcTime}
    (run : points.foldrM (newFromDate timsKey fromTime untilTime) second = .ok low) :
    (∀ time ∈ seriesTimes points timsKey, time ≠ UtcTime.null ∧ fromTime ≠ UtcTime.null) ∧
      (second = UtcTime.null → low = UtcTime.null) := by
  induction points generalizing low with
  | nil =>
      cases run
      refine ⟨fun time member => ?_, id⟩
      cases member
  | cons point points ih =>
      rw [List.foldrM_cons, bind_eq_ok_iff] at run
      obtain ⟨later, others, last⟩ := run
      obtain ⟨reads, stays⟩ := ih others
      rw [seriesTimes_cons]
      by_cases inSeries : point.vlcode = 0 ∧ point.timsKey = timsKey
      · rw [if_pos inSeries]
        obtain ⟨first, keeps⟩ := newFromDate_reads inSeries last
        refine ⟨fun time member => ?_, fun none_ => keeps (stays none_)⟩
        rcases List.mem_cons.mp member with rfl | rest
        · exact first
        · exact reads time rest
      · rw [newFromDate_of_other inSeries, Except.ok.injEq] at last
        rw [if_neg inSeries, ← last]
        exact ⟨reads, stays⟩

end TsPoint

namespace DeletePeriod

variable {tzDb : RegionalCalendar} {points : List (TsPoint D)} {period : DeletePeriod}

theorem shorten_of_other (other : period.vlcode ≠ 0) : period.shorten tzDb points = .ok (some period) := by
  simp [shorten, other]

theorem shorten_eq_ok_iff (value : period.vlcode = 0) {kept : Option DeletePeriod} :
    period.shorten tzDb points = .ok kept ↔ ∃ fromTime untilTime second,
      period.Reads tzDb points fromTime untilTime second ∧
      let low := firstWithin (seriesTimes points period.timsKey) fromTime untilTime second
      if low ≤ untilTime then
        ∃ text, tzDb.toDatabaseString low = .ok text ∧ some { period with fromDate17 := some text } = kept
      else none = kept := by
  constructor
  · intro run
    simp only [shorten, value, ne_eq, not_true_eq_false, if_false, bind_eq_ok_iff] at run
    obtain ⟨fromTime, fromDate, untilTime, untilDate, second, following, low, search, within, compared, run⟩ := run
    obtain ⟨lowNull, untilNull, order⟩ := UtcTime.compareOp_eq_ok_iff.mp compared
    obtain ⟨times, stays⟩ := TsPoint.foldrM_newFromDate_reads search
    have notNull : second ≠ UtcTime.null := fun none_ => lowNull (stays none_)
    rw [TsPoint.foldrM_newFromDate untilNull notNull times, Except.ok.injEq] at search
    refine ⟨fromTime, untilTime, second, ⟨fromDate, untilDate, following, notNull, times⟩, ?_⟩
    rw [search]
    by_cases ordered : low ≤ untilTime
    · obtain rfl : within = true := by
        rw [← order]
        exact decide_eq_true ordered
      simp only [if_true, bind_eq_ok_iff] at run
      obtain ⟨text, written, same⟩ := run
      simp only [ordered, if_true]
      exact ⟨text, written, by simpa [value] using same⟩
    · obtain rfl : within = false := by
        rw [← order]
        exact decide_eq_false ordered
      simp only [ordered, if_false]
      exact Except.ok.inj run
  · rintro ⟨fromTime, untilTime, second, reads, outcome⟩
    have search := TsPoint.foldrM_newFromDate reads.untilNull reads.notNull reads.times
    have lowNull : firstWithin (seriesTimes points period.timsKey) fromTime untilTime second ≠ UtcTime.null := by
      rcases firstWithin_cases (seriesTimes points period.timsKey) fromTime untilTime second with missing | ⟨member, _⟩
      · rw [missing]
        exact reads.notNull
      · exact (reads.times _ member).1
    have compared := UtcTime.lessOrEqual_of_ne_null lowNull reads.untilNull
    simp only [shorten, value, ne_eq, not_true_eq_false, if_false, reads.fromDate, reads.untilDate, reads.following,
      search, compared, ok_bind, decide_eq_true_eq]
    by_cases ordered : firstWithin (seriesTimes points period.timsKey) fromTime untilTime second ≤ untilTime
    · simp only [ordered, if_true] at outcome ⊢
      obtain ⟨text, written, same⟩ := outcome
      simp [written, ← same, value]
    · simp only [ordered, if_false] at outcome ⊢
      rw [← outcome]
      rfl

def BeginsAt (tzDb : RegionalCalendar) (points : List (TsPoint D)) (period : DeletePeriod) (begin_ : UtcTime) : Prop :=
  ∃ fromTime untilTime second text, period.Reads tzDb points fromTime untilTime second ∧
    firstWithin (seriesTimes points period.timsKey) fromTime untilTime second ≤ untilTime ∧
    tzDb.toDatabaseString (firstWithin (seriesTimes points period.timsKey) fromTime untilTime second) = .ok text ∧
    tzDb.ofDatabaseString (some text) = .ok begin_

theorem shorten_some {kept : DeletePeriod} (run : period.shorten tzDb points = .ok (some kept)) :
    ∃ fromDate17, kept = { period with fromDate17 } := by
  by_cases value : period.vlcode = 0
  · obtain ⟨fromTime, untilTime, second, _, outcome⟩ := (shorten_eq_ok_iff value).mp run
    dsimp only at outcome
    split at outcome
    · obtain ⟨text, _, same⟩ := outcome
      exact ⟨some text, (Option.some.inj same).symm⟩
    · cases outcome
  · rw [shorten_of_other value, Except.ok.injEq, Option.some.injEq] at run
    exact ⟨period.fromDate17, run.symm⟩

theorem beginsAt_iff (value : period.vlcode = 0) {begin_ : UtcTime} :
    period.BeginsAt tzDb points begin_ ↔
      ∃ kept, period.shorten tzDb points = .ok (some kept) ∧ tzDb.ofDatabaseString kept.fromDate17 = .ok begin_ := by
  constructor
  · rintro ⟨fromTime, untilTime, second, text, reads, within, written, begins⟩
    refine ⟨{ period with fromDate17 := some text }, ?_, begins⟩
    rw [shorten_eq_ok_iff value]
    refine ⟨fromTime, untilTime, second, reads, ?_⟩
    simp only [within, if_true]
    exact ⟨text, written, rfl⟩
  · rintro ⟨kept, run, begins⟩
    obtain ⟨fromTime, untilTime, second, reads, outcome⟩ := (shorten_eq_ok_iff value).mp run
    dsimp only at outcome
    split at outcome
    · rename_i within
      obtain ⟨text, written, same⟩ := outcome
      obtain rfl := Option.some.inj same
      exact ⟨fromTime, untilTime, second, text, reads, within, written, begins⟩
    · cases outcome

end DeletePeriod

section Protection

variable (optional : OptionalArrays) (points : List (TsPoint D)) (periods : List DeletePeriod) (tzDb : RegionalCalendar)

def remainingPoints : List (TsPoint D) := points.filter fun point => ¬Corrected optional points point

structure PeriodsProtect (remaining : List DeletePeriod) : Prop where
  protects : ∀ period ∈ remaining, period.vlcode = 0 → ∀ date ∈ seriesDate optional points period.timsKey,
    ∀ time ≤ date, ¬period.Holds tzDb time
  contains : ∀ point ∈ remainingPoints optional points, (∃ period ∈ periods, period.Contains tzDb point) →
    ∃ period ∈ remaining, period.Contains tzDb point
  keeps : (remaining.filter fun period => (seriesDate optional points period.timsKey).isNone).map
      (DeletePeriod.bounds tzDb) =
    (periods.filter fun period => (seriesDate optional points period.timsKey).isNone).map (DeletePeriod.bounds tzDb)

def ProtectsCorrectedValues (outcome : Except SystemException (TsWriteItemsFromArrays D)) : Prop :=
  ∃ remaining, outcome = .ok (.ofLists optional (remainingPoints optional points) remaining tzDb) ∧
    PeriodsProtect optional points periods tzDb remaining

structure Protectable : Prop where
  times : ∀ point ∈ points, point.vlcode = 0 → point.lcDate ≠ UtcTime.null → point.time ≠ UtcTime.null
  flags : (∃ point ∈ points, point.Covered) → optional.paraFlags = true
  dates : ∀ point ∈ points, Corrected optional points point → point.Covered
  readable : ∀ period ∈ periods, period.vlcode = 0 → ∃ fromTime untilTime second,
    period.Reads tzDb (remainingPoints optional points) fromTime untilTime second ∧
    (firstWithin (seriesTimes (remainingPoints optional points) period.timsKey) fromTime untilTime second ≤ untilTime →
      ∃ text, tzDb.toDatabaseString (firstWithin (seriesTimes (remainingPoints optional points) period.timsKey)
        fromTime untilTime second) = .ok text)
  undated : ∀ period ∈ periods, period.vlcode = 0 → seriesDate optional points period.timsKey = none →
    ∃ fromTime, tzDb.ofDatabaseString period.fromDate17 = .ok fromTime ∧
      period.BeginsAt tzDb (remainingPoints optional points) fromTime
  dated : ∀ period ∈ periods, period.vlcode = 0 → ∀ date ∈ seriesDate optional points period.timsKey,
    ∀ begin_, period.BeginsAt tzDb (remainingPoints optional points) begin_ →
      ∀ untilTime, tzDb.ofDatabaseString period.untilDate17 = .ok untilTime → date < begin_ ∨ untilTime < begin_
  contained : ∀ point ∈ remainingPoints optional points, point.vlcode = 0 →
    (∃ period ∈ periods, period.Contains tzDb point) →
    ∃ period ∈ periods, period.vlcode = 0 ∧ period.timsKey = point.timsKey ∧
      ∃ begin_ untilTime, period.BeginsAt tzDb (remainingPoints optional points) begin_ ∧
        tzDb.ofDatabaseString period.untilDate17 = .ok untilTime ∧ begin_ ≤ point.time ∧ point.time ≤ untilTime

end Protection

section Protection

variable {optional : OptionalArrays} {points reduced : List (TsPoint D)} {periods : List DeletePeriod}
  {tzDb : RegionalCalendar}

theorem covered_corrected (dates : optional.lcDates = true) (oneDate : OneDatePerSeries points) {point : TsPoint D}
    (member : point ∈ points) (covered : point.Covered) : Corrected optional points point := by
  obtain ⟨value, dated, before⟩ := covered
  refine ⟨value, point.lcDate, ?_, before⟩
  cases found : points.find? fun other => other.timsKey = point.timsKey ∧ other.lcDate ≠ UtcTime.null with
  | none =>
      have absent := List.find?_eq_none.mp found point member
      simp [dated] at absent
  | some other =>
      have facts : other.timsKey = point.timsKey ∧ other.lcDate ≠ UtcTime.null := by
        simpa using List.find?_some found
      have same := oneDate other (List.mem_of_find?_eq_some found) point member facts.1 facts.2 dated
      simp only [seriesDate, dates, if_true, found, Option.map_some, Option.mem_some_iff]
      exact same

theorem protectPoints_eq_ok_iff :
    rebuild (TsPoint.protect optional) points = .ok reduced ↔
      (∀ point ∈ points, point.vlcode = 0 → point.lcDate ≠ UtcTime.null → point.time ≠ UtcTime.null) ∧
      ((∃ point ∈ points, point.Covered) → optional.paraFlags = true) ∧
      points.filter (fun point => ¬point.Covered) = reduced := by
  have replaced (returns : ∀ point ∈ points, ∃ kept, point.protect optional = .ok kept) :
      points.filterMap (replacement (TsPoint.protect optional)) = points.filter fun point => ¬point.Covered := by
    rw [← List.filterMap_eq_filter]
    apply List.filterMap_congr
    intro point member
    obtain ⟨kept, run⟩ := returns point member
    rw [replacement_eq run, ← (TsPoint.protect_eq_ok_iff.mp run).2.2]
    by_cases covered : point.Covered
    · simp [Option.guard, covered]
    · simp [Option.guard, covered]
  rw [rebuild_eq_ok_iff]
  constructor
  · rintro ⟨returns, same⟩
    refine ⟨fun point member => ?_, ?_, (replaced returns).symm.trans same⟩
    · obtain ⟨kept, run⟩ := returns point member
      exact (TsPoint.protect_eq_ok_iff.mp run).1
    · rintro ⟨point, member, covered⟩
      obtain ⟨kept, run⟩ := returns point member
      exact (TsPoint.protect_eq_ok_iff.mp run).2.1 covered
  · rintro ⟨times, flags, same⟩
    have returns (point : TsPoint D) (member : point ∈ points) : ∃ kept, point.protect optional = .ok kept :=
      ⟨_, TsPoint.protect_eq_ok_iff.mpr ⟨times point member, fun covered => flags ⟨point, member, covered⟩, rfl⟩⟩
    exact ⟨returns, (replaced returns).trans same⟩

def leftPeriods (tzDb : RegionalCalendar) (reduced : List (TsPoint D)) (periods : List DeletePeriod) :
    List DeletePeriod :=
  periods.filterMap (replacement (DeletePeriod.shorten tzDb reduced))

theorem keeps_iff {date : Int → Option UtcTime} :
    ((leftPeriods tzDb reduced periods).filter fun period => (date period.timsKey).isNone).map
          (DeletePeriod.bounds tzDb) =
        (periods.filter fun period => (date period.timsKey).isNone).map (DeletePeriod.bounds tzDb) ↔
      ∀ period ∈ periods, period.vlcode = 0 → date period.timsKey = none →
        ∃ fromTime, tzDb.ofDatabaseString period.fromDate17 = .ok fromTime ∧
          period.BeginsAt tzDb reduced fromTime := by
  have picked (period kept : DeletePeriod)
      (same : replacement (DeletePeriod.shorten tzDb reduced) period = some kept) :
      (date kept.timsKey).isNone = (date period.timsKey).isNone := by
    obtain ⟨fromDate17, rfl⟩ := DeletePeriod.shorten_some (replacement_some same)
    rfl
  rw [leftPeriods, filterMap_shows_iff _ picked]
  constructor
  · intro shows period member value undated
    obtain ⟨kept, same, sameBounds⟩ := shows period member (by simp [undated])
    have run := replacement_some same
    obtain ⟨fromTime, _, _, reads, _⟩ := (DeletePeriod.shorten_eq_ok_iff value).mp run
    have text : tzDb.ofDatabaseString kept.fromDate17 = tzDb.ofDatabaseString period.fromDate17 :=
      congrArg (fun bounds => bounds.2.2.1) sameBounds
    exact ⟨fromTime, reads.fromDate, (DeletePeriod.beginsAt_iff value).mpr ⟨kept, run, text.trans reads.fromDate⟩⟩
  · intro keeps period member undated
    by_cases value : period.vlcode = 0
    · obtain ⟨fromTime, fromDate, begins⟩ := keeps period member value (Option.isNone_iff_eq_none.mp undated)
      obtain ⟨kept, run, text⟩ := (DeletePeriod.beginsAt_iff value).mp begins
      refine ⟨kept, replacement_eq run, ?_⟩
      obtain ⟨fromDate17, rfl⟩ := DeletePeriod.shorten_some run
      simp [DeletePeriod.bounds, fromDate, text]
    · exact ⟨period, replacement_eq (DeletePeriod.shorten_of_other value), rfl⟩

theorem shortens_iff :
    (∀ period ∈ periods, ∃ kept, DeletePeriod.shorten tzDb reduced period = .ok kept) ↔
      ∀ period ∈ periods, period.vlcode = 0 → ∃ fromTime untilTime second,
        period.Reads tzDb reduced fromTime untilTime second ∧
        (firstWithin (seriesTimes reduced period.timsKey) fromTime untilTime second ≤ untilTime →
          ∃ text, tzDb.toDatabaseString (firstWithin (seriesTimes reduced period.timsKey)
            fromTime untilTime second) = .ok text) := by
  constructor
  · intro returns period member value
    obtain ⟨kept, run⟩ := returns period member
    obtain ⟨fromTime, untilTime, second, reads, outcome⟩ := (DeletePeriod.shorten_eq_ok_iff value).mp run
    refine ⟨fromTime, untilTime, second, reads, fun within => ?_⟩
    simp only [within, if_true] at outcome
    obtain ⟨text, written, _⟩ := outcome
    exact ⟨text, written⟩
  · intro readable period member
    by_cases value : period.vlcode = 0
    · obtain ⟨fromTime, untilTime, second, reads, writes⟩ := readable period member value
      by_cases within : firstWithin (seriesTimes reduced period.timsKey) fromTime untilTime second ≤ untilTime
      · obtain ⟨text, written⟩ := writes within
        refine ⟨some { period with fromDate17 := some text }, ?_⟩
        refine (DeletePeriod.shorten_eq_ok_iff value).mpr ⟨fromTime, untilTime, second, reads, ?_⟩
        simp only [within, if_true]
        exact ⟨text, written, rfl⟩
      · refine ⟨none, (DeletePeriod.shorten_eq_ok_iff value).mpr ⟨fromTime, untilTime, second, reads, ?_⟩⟩
        simp only [within, if_false]
    · exact ⟨_, DeletePeriod.shorten_of_other value⟩

section Left

variable (returns : ∀ period ∈ periods, ∃ kept, DeletePeriod.shorten tzDb reduced period = .ok kept)

include returns

theorem mem_leftPeriods {kept : DeletePeriod} :
    kept ∈ leftPeriods tzDb reduced periods ↔
      ∃ period ∈ periods, DeletePeriod.shorten tzDb reduced period = .ok (some kept) := by
  simp only [leftPeriods, List.mem_filterMap]
  constructor
  · rintro ⟨period, member, same⟩
    obtain ⟨replaced, run⟩ := returns period member
    rw [replacement_eq run] at same
    exact ⟨period, member, same ▸ run⟩
  · rintro ⟨period, member, run⟩
    exact ⟨period, member, replacement_eq run⟩

theorem protects_iff {date : Int → Option UtcTime} :
    (∀ period ∈ leftPeriods tzDb reduced periods, period.vlcode = 0 → ∀ last ∈ date period.timsKey,
        ∀ time ≤ last, ¬period.Holds tzDb time) ↔
      ∀ period ∈ periods, period.vlcode = 0 → ∀ last ∈ date period.timsKey,
        ∀ begin_, period.BeginsAt tzDb reduced begin_ →
          ∀ untilTime, tzDb.ofDatabaseString period.untilDate17 = .ok untilTime → last < begin_ ∨ untilTime < begin_ := by
  constructor
  · intro protects period member value last told begin_ begins untilTime untilDate
    obtain ⟨kept, run, text⟩ := (DeletePeriod.beginsAt_iff value).mp begins
    obtain ⟨fromDate17, rfl⟩ := DeletePeriod.shorten_some run
    have free := protects _ ((mem_leftPeriods returns).mpr ⟨period, member, run⟩) value last told
    by_contra inside
    simp only [not_or, not_lt] at inside
    exact free begin_ inside.1 ⟨begin_, untilTime, text, untilDate, le_refl begin_, inside.2⟩
  · intro dated kept left value last told time before
    obtain ⟨period, member, run⟩ := (mem_leftPeriods returns).mp left
    obtain ⟨fromDate17, rfl⟩ := DeletePeriod.shorten_some run
    rintro ⟨begin_, untilTime, text, untilDate, lower, upper⟩
    have periodValue : period.vlcode = 0 := value
    have begins := (DeletePeriod.beginsAt_iff periodValue).mpr ⟨_, run, text⟩
    rcases dated period member value last told begin_ begins untilTime untilDate with late | empty
    · exact absurd (lower.trans before) (not_le.mpr late)
    · exact absurd (lower.trans upper) (not_le.mpr empty)

theorem contains_iff {remaining : List (TsPoint D)} :
    (∀ point ∈ remaining, (∃ period ∈ periods, period.Contains tzDb point) →
        ∃ period ∈ leftPeriods tzDb reduced periods, period.Contains tzDb point) ↔
      ∀ point ∈ remaining, point.vlcode = 0 → (∃ period ∈ periods, period.Contains tzDb point) →
        ∃ period ∈ periods, period.vlcode = 0 ∧ period.timsKey = point.timsKey ∧
          ∃ begin_ untilTime, period.BeginsAt tzDb reduced begin_ ∧
            tzDb.ofDatabaseString period.untilDate17 = .ok untilTime ∧ begin_ ≤ point.time ∧ point.time ≤ untilTime := by
  constructor
  · intro contains point member value inside
    obtain ⟨kept, left, sameKey, sameCode, begin_, untilTime, text, untilDate, lower, upper⟩ :=
      contains point member inside
    obtain ⟨period, given, run⟩ := (mem_leftPeriods returns).mp left
    obtain ⟨fromDate17, rfl⟩ := DeletePeriod.shorten_some run
    have periodValue : period.vlcode = 0 := sameCode.trans value
    exact ⟨period, given, periodValue, sameKey, begin_, untilTime,
      (DeletePeriod.beginsAt_iff periodValue).mpr ⟨_, run, text⟩, untilDate, lower, upper⟩
  · intro contained point member inside
    by_cases value : point.vlcode = 0
    · obtain ⟨period, given, periodValue, sameKey, begin_, untilTime, begins, untilDate, lower, upper⟩ :=
        contained point member value inside
      obtain ⟨kept, run, text⟩ := (DeletePeriod.beginsAt_iff periodValue).mp begins
      obtain ⟨fromDate17, rfl⟩ := DeletePeriod.shorten_some run
      exact ⟨_, (mem_leftPeriods returns).mpr ⟨period, given, run⟩, sameKey, periodValue.trans value.symm,
        begin_, untilTime, text, untilDate, lower, upper⟩
    · obtain ⟨period, given, sameKey, sameCode, holds⟩ := inside
      have other : period.vlcode ≠ 0 := fun zero => value (sameCode.symm.trans zero)
      exact ⟨period, (mem_leftPeriods returns).mpr ⟨period, given, DeletePeriod.shorten_of_other other⟩,
        sameKey, sameCode, holds⟩

end Left

theorem remainingPoints_length_iff (dates : optional.lcDates = true) (oneDate : OneDatePerSeries points) :
    (remainingPoints optional points).length = (points.filter fun point => ¬point.Covered).length ↔
      ∀ point ∈ points, Corrected optional points point → point.Covered := by
  have twice : remainingPoints optional points =
      (points.filter fun point => ¬point.Covered).filter fun point => ¬Corrected optional points point := by
    rw [remainingPoints, List.filter_filter]
    apply List.filter_congr
    intro point member
    by_cases covered : point.Covered
    · simp [covered, covered_corrected dates oneDate member covered]
    · simp [covered]
  rw [twice, List.length_filter_eq_length_iff]
  constructor
  · intro stays point member corrected
    by_contra notCovered
    have stays := stays point (List.mem_filter.mpr ⟨member, by simpa using notCovered⟩)
    exact absurd corrected (by simpa using stays)
  · intro carried point member
    obtain ⟨given, notCovered⟩ := List.mem_filter.mp member
    have notCovered : ¬point.Covered := by simpa using notCovered
    simpa using fun corrected => notCovered (carried point given corrected)

theorem remainingPoints_eq (dates : optional.lcDates = true) (oneDate : OneDatePerSeries points)
    (carried : ∀ point ∈ points, Corrected optional points point → point.Covered) :
    points.filter (fun point => ¬point.Covered) = remainingPoints optional points := by
  apply List.filter_congr
  intro point member
  have same : point.Covered ↔ Corrected optional points point :=
    ⟨covered_corrected dates oneDate member, carried point member⟩
  simp [same]

theorem protect_iff (dates : optional.lcDates = true) (oneDate : OneDatePerSeries points) :
    ProtectsCorrectedValues optional points periods tzDb
        (TsWriteItemsFromArrays.ofLists optional points periods tzDb).removePointsProtectCorrectedValuesMode ↔
      Protectable optional points periods tzDb := by
  rw [TsWriteItemsFromArrays.protect_ofLists dates]
  constructor
  · rintro ⟨remaining, run, protects⟩
    simp only [bind_eq_ok_iff, protectPoints_eq_ok_iff] at run
    obtain ⟨reduced, ⟨times, flags, rfl⟩, shortened, periodsRun, same⟩ := run
    have sameItems := Except.ok.inj same
    have sameLength : (points.filter fun point => ¬point.Covered).length = (remainingPoints optional points).length := by
      have stepTypes := congrArg (fun items => items.points.stepTypes.length) sameItems
      simpa [TsWriteItemsFromArrays.ofLists, PointArrays.ofPoints] using stepTypes
    have carried := (remainingPoints_length_iff dates oneDate).mp sameLength.symm
    rw [remainingPoints_eq dates oneDate carried] at periodsRun
    obtain rfl : shortened = remaining := PeriodArrays.ofPeriods_injective (congrArg TsWriteItemsFromArrays.deletes sameItems)
    obtain ⟨returns, rfl⟩ := rebuild_eq_ok_iff.mp periodsRun
    exact ⟨times, flags, carried, shortens_iff.mp returns, keeps_iff.mp protects.keeps,
      (protects_iff returns).mp protects.protects, (contains_iff returns).mp protects.contains⟩
  · intro protectable
    have pointsRun := protectPoints_eq_ok_iff.mpr
      ⟨protectable.times, protectable.flags, remainingPoints_eq dates oneDate protectable.dates⟩
    have returns := shortens_iff.mpr protectable.readable
    have periodsRun := rebuild_eq_ok_iff.mpr ⟨returns, rfl⟩
    refine ⟨leftPeriods tzDb (remainingPoints optional points) periods, ?_, ?_⟩
    · rw [pointsRun, ok_bind, periodsRun]
      rfl
    · exact ⟨(protects_iff returns).mpr protectable.dated, (contains_iff returns).mpr protectable.contained,
        keeps_iff.mpr protectable.undated⟩

theorem protect_missing (dates : optional.lcDates = false) :
    ProtectsCorrectedValues optional points periods tzDb
      (TsWriteItemsFromArrays.ofLists optional points periods tzDb).removePointsProtectCorrectedValuesMode := by
  have noDate (timsKey : Int) : seriesDate optional points timsKey = none := by simp [seriesDate, dates]
  have notCorrected (point : TsPoint D) : ¬Corrected optional points point := by simp [Corrected, noDate]
  have all : remainingPoints optional points = points := by
    rw [remainingPoints, List.filter_eq_self]
    intro point _
    simpa using notCorrected point
  refine ⟨periods, ?_, ?_, fun _ _ inside => inside, rfl⟩
  · rw [TsWriteItemsFromArrays.protect_missing dates, all]
  · intro period _ _ date told
    rw [noDate] at told
    cases told

end Protection

theorem OneDatePerSeries.prepared {points : List (TsPoint D)} (oneDate : OneDatePerSeries points)
    (optional : OptionalArrays) (appendOrigSeries : Bool) :
    OneDatePerSeries (preparedPoints optional appendOrigSeries points) := by
  have origin (point : TsPoint D) (member : point ∈ preparedPoints optional appendOrigSeries points) :
      ∃ given ∈ points, given.timsKey = point.timsKey ∧ given.lcDate = point.lcDate := by
    rw [preparedPoints] at member
    split at member
    · rcases List.mem_append.mp member with given | copy
      · exact ⟨point, given, rfl, rfl⟩
      · obtain ⟨given, present, same⟩ := List.mem_flatMap.mp copy
        rw [TsPoint.origPoint] at same
        split at same
        · obtain rfl := List.mem_singleton.mp same
          exact ⟨given, present, rfl, rfl⟩
        · cases same
    · exact ⟨point, member, rfl, rfl⟩
  intro point member other otherMember sameKey dated otherDated
  obtain ⟨given, present, key, date⟩ := origin point member
  obtain ⟨otherGiven, otherPresent, otherKey, otherDate⟩ := origin other otherMember
  have same := oneDate given present otherGiven otherPresent (by rw [key, otherKey, sameKey])
    (date ▸ dated) (otherDate ▸ otherDated)
  rw [← date, ← otherDate, same]

/-- Protecting corrected values loses nothing else exactly when, whatever has a date,
every period of values of a series without a date begins at one of its points. -/
theorem protectCorrectedValues_iff (optional : OptionalArrays) (points : List (TsPoint D))
    (periods : List DeletePeriod) (tzDb : RegionalCalendar) (appendOrigSeries : Bool)
    (oneDate : OneDatePerSeries points) :
    ProtectsCorrectedValues optional (preparedPoints optional appendOrigSeries points)
        (preparedPeriods optional appendOrigSeries periods) tzDb
        (TsWriteItemsFromArrays.create (.ofPoints optional points) (.ofPeriods periods) tzDb appendOrigSeries true) ↔
      optional.lcDates = false ∨
        Protectable optional (preparedPoints optional appendOrigSeries points)
          (preparedPeriods optional appendOrigSeries periods) tzDb := by
  rw [create_ofLists]
  simp only [if_true]
  cases dates : optional.lcDates with
  | false => simpa using protect_missing dates
  | true => simpa using protect_iff dates (oneDate.prepared optional appendOrigSeries)

section ReadBack

variable {optional : OptionalArrays} {points : List (TsPoint D)} {periods : List DeletePeriod} {tzDb : RegionalCalendar}

def ReadsBack (tzDb : RegionalCalendar) (time : UtcTime) : Prop :=
  ∃ text, tzDb.toDatabaseString time = .ok text ∧ tzDb.ofDatabaseString (some text) = .ok time

theorem DeletePeriod.Reads.begins {period : DeletePeriod} {fromTime untilTime second : UtcTime}
    (reads : period.Reads tzDb points fromTime untilTime second)
    (readBack : ∀ time ∈ seriesTimes points period.timsKey, ReadsBack tzDb time) (bounded : untilTime < second)
    {time : UtcTime} (member : time ∈ seriesTimes points period.timsKey) (lower : fromTime ≤ time)
    (upper : time ≤ untilTime) :
    ∃ begin_ ≤ time, fromTime ≤ begin_ ∧ period.BeginsAt tzDb points begin_ := by
  have first := firstWithin_le second member lower upper
  rcases firstWithin_cases (seriesTimes points period.timsKey) fromTime untilTime second with missing | ⟨found, inside⟩
  · rw [missing] at first
    exact absurd (first.trans upper) (not_le.mpr bounded)
  · obtain ⟨text, written, back⟩ := readBack _ found
    exact ⟨_, first, inside.1, fromTime, untilTime, second, text, reads, inside.2, written, back⟩

theorem DeletePeriod.Reads.beginsAt_mem {period : DeletePeriod} {fromTime untilTime second begin_ : UtcTime}
    (reads : period.Reads tzDb points fromTime untilTime second)
    (readBack : ∀ time ∈ seriesTimes points period.timsKey, ReadsBack tzDb time) (bounded : untilTime < second)
    (begins : period.BeginsAt tzDb points begin_) : begin_ ∈ seriesTimes points period.timsKey := by
  obtain ⟨otherFrom, otherUntil, otherSecond, text, otherReads, within, written, back⟩ := begins
  obtain rfl : fromTime = otherFrom := Except.ok.inj (reads.fromDate.symm.trans otherReads.fromDate)
  obtain rfl : untilTime = otherUntil := Except.ok.inj (reads.untilDate.symm.trans otherReads.untilDate)
  obtain rfl : second = otherSecond := Except.ok.inj (reads.following.symm.trans otherReads.following)
  rcases firstWithin_cases (seriesTimes points period.timsKey) fromTime untilTime second with missing | ⟨found, _⟩
  · rw [missing] at within
    exact absurd within (not_le.mpr bounded)
  · obtain ⟨otherText, otherWritten, otherBack⟩ := readBack _ found
    obtain rfl : text = otherText := Except.ok.inj (written.symm.trans otherWritten)
    obtain rfl := Except.ok.inj (back.symm.trans otherBack)
    exact found

theorem mem_seriesTimes {point : TsPoint D} (member : point ∈ points) (value : point.vlcode = 0) :
    point.time ∈ seriesTimes points point.timsKey :=
  List.mem_map.mpr ⟨point, List.mem_filter.mpr ⟨member, by simpa using value⟩, rfl⟩

theorem Protectable.ofReadsBack
    (times : ∀ point ∈ points, point.vlcode = 0 → point.lcDate ≠ UtcTime.null → point.time ≠ UtcTime.null)
    (flags : (∃ point ∈ points, point.Covered) → optional.paraFlags = true)
    (dates : ∀ point ∈ points, Corrected optional points point → point.Covered)
    (readable : ∀ period ∈ periods, period.vlcode = 0 → ∃ fromTime untilTime second,
      period.Reads tzDb (remainingPoints optional points) fromTime untilTime second ∧ untilTime < second)
    (readBack : ∀ point ∈ remainingPoints optional points, point.vlcode = 0 → ReadsBack tzDb point.time)
    (begins : ∀ period ∈ periods, period.vlcode = 0 → seriesDate optional points period.timsKey = none →
      ∃ point ∈ points, point.vlcode = 0 ∧ point.timsKey = period.timsKey ∧
        tzDb.ofDatabaseString period.fromDate17 = .ok point.time ∧
        ∀ untilTime, tzDb.ofDatabaseString period.untilDate17 = .ok untilTime → point.time ≤ untilTime) :
    Protectable optional points periods tzDb := by
  have timesReadBack (timsKey : Int) :
      ∀ time ∈ seriesTimes (remainingPoints optional points) timsKey, ReadsBack tzDb time := by
    intro time member
    obtain ⟨point, picked, rfl⟩ := List.mem_map.mp member
    obtain ⟨present, inSeries⟩ := List.mem_filter.mp picked
    have facts : point.vlcode = 0 ∧ point.timsKey = timsKey := by simpa using inSeries
    exact readBack point present facts.1
  refine ⟨times, flags, dates, ?_, ?_, ?_, ?_⟩
  · intro period member value
    obtain ⟨fromTime, untilTime, second, reads, bounded⟩ := readable period member value
    refine ⟨fromTime, untilTime, second, reads, fun within => ?_⟩
    rcases firstWithin_cases (seriesTimes (remainingPoints optional points) period.timsKey) fromTime untilTime second
      with missing | ⟨found, _⟩
    · rw [missing] at within
      exact absurd within (not_le.mpr bounded)
    · obtain ⟨text, written, _⟩ := timesReadBack period.timsKey _ found
      exact ⟨text, written⟩
  · intro period member value undated
    obtain ⟨fromTime, untilTime, second, reads, bounded⟩ := readable period member value
    obtain ⟨point, given, pointValue, sameKey, fromDate, before⟩ := begins period member value undated
    have notCorrected : ¬Corrected optional points point := by
      rintro ⟨_, date, told, _⟩
      rw [sameKey, undated] at told
      cases told
    have remains : point ∈ remainingPoints optional points :=
      List.mem_filter.mpr ⟨given, by simpa using notCorrected⟩
    obtain rfl : fromTime = point.time := Except.ok.inj (reads.fromDate.symm.trans fromDate)
    obtain ⟨begin_, upper, lower, starts⟩ := reads.begins (timesReadBack period.timsKey) bounded
      (sameKey ▸ mem_seriesTimes remains pointValue) (le_refl _) (before untilTime reads.untilDate)
    exact ⟨point.time, fromDate, le_antisymm upper lower ▸ starts⟩
  · intro period member value date told begin_ starts untilTime untilDate
    obtain ⟨fromTime, _, second, reads, bounded⟩ := readable period member value
    obtain ⟨point, picked, rfl⟩ :=
      List.mem_map.mp (reads.beginsAt_mem (timesReadBack period.timsKey) bounded starts)
    obtain ⟨present, inSeries⟩ := List.mem_filter.mp picked
    have facts : point.vlcode = 0 ∧ point.timsKey = period.timsKey := by simpa using inSeries
    have notCorrected : ¬Corrected optional points point := by simpa using (List.mem_filter.mp present).2
    left
    by_contra notAfter
    exact notCorrected ⟨facts.1, date, facts.2 ▸ told, not_lt.mp notAfter⟩
  · rintro point present value ⟨period, member, sameKey, sameCode, fromTime, untilTime, fromDate, untilDate, lower, upper⟩
    have periodValue : period.vlcode = 0 := sameCode.trans value
    obtain ⟨otherFrom, otherUntil, second, reads, bounded⟩ := readable period member periodValue
    obtain rfl : fromTime = otherFrom := Except.ok.inj (fromDate.symm.trans reads.fromDate)
    obtain rfl : untilTime = otherUntil := Except.ok.inj (untilDate.symm.trans reads.untilDate)
    obtain ⟨begin_, before, _, starts⟩ := reads.begins (timesReadBack period.timsKey) bounded
      (sameKey ▸ mem_seriesTimes present value) lower upper
    exact ⟨period, member, periodValue, sameKey, begin_, untilTime, starts, untilDate, before, upper⟩

end ReadBack

def valueAt (timsKey pdtime : Int) (lcDate : UtcTime) : TsPoint Int :=
  ⟨4, timsKey, 0, pdtime, 10, 0#32, some 0, some 0, some 0, UtcTime.null, 0, lcDate⟩

def valuesBetween (timsKey : Int) (fromDate untilDate : String) : DeletePeriod :=
  ⟨timsKey, 0, some (RegionalCalendar.codeUnits fromDate), some (RegionalCalendar.codeUnits untilDate)⟩

theorem protectCorrectedValues_iff_batch :
    ProtectsCorrectedValues ⟨false, true, true⟩
      [valueAt 1 1577836800 (.createFromPdtime 1577923200), valueAt 1 1578009600 (.createFromPdtime 1577923200),
        valueAt 2 1577836800 UtcTime.null]
      [valuesBetween 1 "20200101000000000" "20200103000000000", valuesBetween 2 "20200101000000000" "20200101000000000"]
      .utcCalendar
      (TsWriteItemsFromArrays.create
        (.ofPoints ⟨false, true, true⟩
          [valueAt 1 1577836800 (.createFromPdtime 1577923200), valueAt 1 1578009600 (.createFromPdtime 1577923200),
            valueAt 2 1577836800 UtcTime.null])
        (.ofPeriods [valuesBetween 1 "20200101000000000" "20200103000000000",
          valuesBetween 2 "20200101000000000" "20200101000000000"]) .utcCalendar false true) := by
  apply (protectCorrectedValues_iff _ _ _ _ false (by decide)).mpr
  right
  apply Protectable.ofReadsBack
  · decide
  · decide
  · decide
  · intro period member _
    rcases List.mem_pair.mp member with rfl | rfl
    · exact ⟨_, _, _, ⟨rfl, rfl, rfl, by decide, by decide⟩, by decide⟩
    · exact ⟨_, _, _, ⟨rfl, rfl, rfl, by decide, by decide⟩, by decide⟩
  · intro point member _
    rcases List.mem_pair.mp member with rfl | rfl
    · exact ⟨_, rfl, rfl⟩
    · exact ⟨_, rfl, rfl⟩
  · intro period member _ undated
    rcases List.mem_pair.mp member with rfl | rfl
    · cases undated
    · refine ⟨valueAt 2 1577836800 UtcTime.null, by decide, rfl, rfl, rfl, fun untilTime untilDate => ?_⟩
      obtain rfl := Except.ok.inj untilDate
      decide

/-- A period of a series without a date loses what lies before the first point. -/
theorem protectCorrectedValues_shortens :
    OneDatePerSeries [valueAt 1 1577923200 UtcTime.null] ∧
      ¬ProtectsCorrectedValues ⟨false, true, true⟩ [valueAt 1 1577923200 UtcTime.null]
        [valuesBetween 1 "20200101000000000" "20200103000000000"] .utcCalendar
        (TsWriteItemsFromArrays.create (.ofPoints ⟨false, true, true⟩ [valueAt 1 1577923200 UtcTime.null])
          (.ofPeriods [valuesBetween 1 "20200101000000000" "20200103000000000"]) .utcCalendar false true) := by
  refine ⟨by decide, ?_⟩
  rintro ⟨remaining, run, protects⟩
  obtain rfl : remaining = [valuesBetween 1 "20200102000000000" "20200103000000000"] :=
    PeriodArrays.ofPeriods_injective (congrArg TsWriteItemsFromArrays.deletes (Except.ok.inj run)).symm
  have begins : some (.ok (.createFromPdtime 1577923200) : Except SystemException UtcTime) =
      some (.ok (.createFromPdtime 1577836800)) :=
    congrArg (fun shown => shown.head?.map fun bounds => bounds.2.2.1) protects.keeps
  exact absurd (Except.ok.inj (Option.some.inj begins)) (by decide)

end ServiceHost
