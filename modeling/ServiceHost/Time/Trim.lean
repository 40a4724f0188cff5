import ServiceHost.Library.OffsetTrim
import ServiceHost.Time.LocalDays

/-!
Trimming a time to the start of its minute, hour, day, week, month or year. The start is
found on the local clock and read back; next to a change of the offset it may be read back
on the other side, and then trimming is no rounding down.
-/

namespace ServiceHost

open Library

namespace RegionalCalendar

def TrimStep (x : Int) : Prop :=
  x = Utc.minute ∨ x = 15 * Utc.minute ∨ x = Utc.hour ∨ x = Utc.day ∨ x = Utc.week ∨ x = Utc.month ∨ x = Utc.year

def periodStart (x clock : Int) : Int :=
  if x = Utc.month ∨ x = Utc.year then dayClock (Julian.YMD2j (keyDate x (dateOf clock)))
  else clock - clock % x

structure BoundedOffsets (calendar : RegionalCalendar) : Prop where
  utcLower : -14 * Utc.hour ≤ calendar.utcOffset
  utcUpper : calendar.utcOffset ≤ 14 * Utc.hour
  dstLower : ∀ y, -2 * Utc.hour ≤ calendar.dstOffset y
  dstUpper : ∀ y, calendar.dstOffset y ≤ 2 * Utc.hour

structure SpacedOffsets (calendar : RegionalCalendar) : Prop extends BoundedOffsets calendar where
  spaced : Spaced calendar.offsetAt (48 * Utc.hour) Utc.day (2 ^ 62 - 1)

structure Trimmable (t : UtcTime) : Prop where
  lower : 3 * Utc.year ≤ t.ticks
  upper : t.ticks < 2 ^ 62 - Utc.year

section Periods

theorem TrimStep.cases {x : Int} (unit : TrimStep x) :
    (x = Utc.month ∨ x = Utc.year) ∨
      ¬(x = Utc.month ∨ x = Utc.year) ∧ 0 < x ∧ x ≤ Utc.week ∧ Julian.referenceTicks % x = 0 := by
  rcases unit with rfl | rfl | rfl | rfl | rfl | rfl | rfl
  · exact Or.inr (by decide)
  · exact Or.inr (by decide)
  · exact Or.inr (by decide)
  · exact Or.inr (by decide)
  · exact Or.inr (by decide)
  · exact Or.inl (Or.inl rfl)
  · exact Or.inl (Or.inr rfl)

theorem dateOf_spec {clock : Int} (nonneg : 0 ≤ clock) :
    (dateOf clock).Valid ∧ Julian.YMD2j (dateOf clock) = dayOf clock ∧ -2000 ≤ (dateOf clock).year := by
  have firstDay : Julian.firstDay = -32044 := rfl
  have known : 1000000 ≤ dayOf clock := by
    rw [dayOf_eq]
    omega
  exact ⟨Julian.j2YMD_valid (by omega), Julian.YMD2j_j2YMD (by omega), yearOf_lower known⟩

theorem keyDate_spec {x : Int} (long : x = Utc.month ∨ x = Utc.year) {date : Date} (valid : date.Valid) :
    (keyDate x date).Valid ∧ (keyDate x date).year = date.year ∧ (keyDate x date).number ≤ date.number ∧
      keyDate x (keyDate x date) = keyDate x date := by
  obtain ⟨oneLeMonth, monthLe, oneLeDay, dayLe⟩ := valid
  rcases long with rfl | rfl
  · refine ⟨⟨oneLeMonth, monthLe, Int.le_refl 1, show 1 ≤ daysInMonth date.year date.month by omega⟩, rfl, ?_, rfl⟩
    show 10000 * date.year + 100 * date.month + 1 ≤ date.number
    unfold Date.number
    omega
  · have january : daysInMonth date.year 1 = 31 := rfl
    refine ⟨⟨Int.le_refl 1, show (1 : Int) ≤ 12 by decide, Int.le_refl 1, show 1 ≤ daysInMonth date.year 1 by omega⟩,
      rfl, ?_, rfl⟩
    show 10000 * date.year + 100 * 1 + 1 ≤ date.number
    unfold Date.number
    omega

theorem keyDate_mono {x : Int} (long : x = Utc.month ∨ x = Utc.year) {date later : Date} (valid : date.Valid)
    (laterValid : later.Valid) (order : date.number ≤ later.number) :
    (keyDate x date).number ≤ (keyDate x later).number := by
  have days := daysInMonth_le date.year date.month
  have laterDays := daysInMonth_le later.year later.month
  obtain ⟨oneLeMonth, monthLe, oneLeDay, dayLe⟩ := valid
  obtain ⟨laterOneLeMonth, laterMonthLe, laterOneLeDay, laterDayLe⟩ := laterValid
  unfold Date.number at order
  rcases long with rfl | rfl
  · show 10000 * date.year + 100 * date.month + 1 ≤ 10000 * later.year + 100 * later.month + 1
    omega
  · show 10000 * date.year + 100 * 1 + 1 ≤ 10000 * later.year + 100 * 1 + 1
    omega

theorem keyDay_spec {x : Int} (long : x = Utc.month ∨ x = Utc.year) {clock : Int} (nonneg : 0 ≤ clock) :
    Julian.YMD2j (keyDate x (dateOf clock)) ≤ dayOf clock ∧
      dayOf clock < Julian.YMD2j (keyDate x (dateOf clock)) + 366 ∧
      Julian.j2YMD (Julian.YMD2j (keyDate x (dateOf clock))) = keyDate x (dateOf clock) := by
  obtain ⟨valid, number, year⟩ := dateOf_spec nonneg
  obtain ⟨keyValid, keyYear, before, _⟩ := keyDate_spec long valid
  refine ⟨?_, ?_, Julian.j2YMD_YMD2j keyValid (by omega)⟩
  · rw [← number]
    exact (Julian.YMD2j_le_iff keyValid valid (by omega) (by omega)).mpr before
  · have started := (Julian.YMD2j_bounds keyValid (by omega)).1
    have ends := (Julian.YMD2j_bounds valid (by omega)).2
    have within := Julian.Y2j_succ_le (show -4799 ≤ (dateOf clock).year by omega)
    rw [keyYear] at started
    omega

theorem periodStart_bounds {x : Int} (unit : TrimStep x) {clock : Int} (nonneg : 0 ≤ clock) :
    periodStart x clock ≤ clock ∧ clock - 366 * Utc.day < periodStart x clock := by
  have day : Utc.day = 864000000000 := rfl
  have week : Utc.week = 6048000000000 := rfl
  unfold periodStart
  rcases unit.cases with long | ⟨short, positive, le, _⟩
  · obtain ⟨started, within, _⟩ := keyDay_spec long nonneg
    rw [if_pos long, dayClock_eq]
    rw [dayOf_eq] at started within
    omega
  · have lower := Int.emod_nonneg clock (Int.ne_of_gt positive)
    have upper := Int.emod_lt_of_pos clock positive
    rw [if_neg short]
    omega

theorem periodStart_isFloor {x : Int} (unit : TrimStep x) : IsFloor (periodStart x) (366 * Utc.day) where
  le clock above := (periodStart_bounds unit (le_trans (by decide) above)).1
  fixed clock above := by
    unfold periodStart
    rcases unit.cases with long | ⟨short, _⟩
    · obtain ⟨_, _, back⟩ := keyDay_spec long (le_trans (show 0 ≤ 366 * Utc.day by decide) above)
      simp only [if_pos long]
      rw [dateOf_dayClock, back, (keyDate_spec long (dateOf_spec (le_trans (by decide) above)).1).2.2.2]
    · simp only [if_neg short]
      rw [Int.sub_emod, Int.emod_emod_of_dvd _ (Int.dvd_refl x), Int.sub_self, Int.zero_emod, Int.sub_zero]
  mono clock later above order := by
    have nonneg : 0 ≤ clock := le_trans (by decide) above
    unfold periodStart
    rcases unit.cases with long | ⟨short, positive, _⟩
    · rw [if_pos long, if_pos long]
      obtain ⟨valid, number, year⟩ := dateOf_spec nonneg
      obtain ⟨laterValid, laterNumber, laterYear⟩ := dateOf_spec (le_trans nonneg order)
      obtain ⟨keyValid, keyYear, _⟩ := keyDate_spec long valid
      obtain ⟨laterKeyValid, laterKeyYear, _⟩ := keyDate_spec long laterValid
      apply dayClock_mono
      apply (Julian.YMD2j_le_iff keyValid laterKeyValid (by omega) (by omega)).mpr
      apply keyDate_mono long valid laterValid
      apply (Julian.YMD2j_le_iff valid laterValid (by omega) (by omega)).mp
      rw [number, laterNumber]
      exact dayOf_mono order
    · rw [if_neg short, if_neg short]
      have whole := Int.mul_ediv_add_emod clock x
      have laterWhole := Int.mul_ediv_add_emod later x
      have quotients := Int.mul_le_mul_of_nonneg_left (Int.ediv_le_ediv positive order) (le_of_lt positive)
      omega

end Periods

section Zone

variable {calendar : RegionalCalendar}

theorem BoundedOffsets.bounds (offsets : calendar.BoundedOffsets) (t : Int) :
    calendar.utcOffset - 2 * Utc.hour ≤ calendar.offsetAt t ∧
      calendar.offsetAt t ≤ calendar.utcOffset + 2 * Utc.hour := by
  have hour : Utc.hour = 36000000000 := rfl
  rcases calendar.offsetAt_cases t with same | ⟨y, same⟩
  · omega
  · have lower := offsets.dstLower y
    have upper := offsets.dstUpper y
    omega

theorem BoundedOffsets.bounded (offsets : calendar.BoundedOffsets) :
    BoundedOffset calendar.offsetAt (16 * Utc.hour) where
  lower t := by
    have hour : Utc.hour = 36000000000 := rfl
    have bounds := offsets.bounds t
    have utcLower := offsets.utcLower
    omega
  upper t := by
    have hour : Utc.hour = 36000000000 := rfl
    have bounds := offsets.bounds t
    have utcUpper := offsets.utcUpper
    omega
  spread t other := by
    have hour : Utc.hour = 36000000000 := rfl
    have bounds := offsets.bounds t
    have otherBounds := offsets.bounds other
    omega

theorem SpacedOffsets.stepOffset (offsets : calendar.SpacedOffsets) :
    StepOffset calendar.offsetAt (16 * Utc.hour) (48 * Utc.hour) (366 * Utc.day) (2 ^ 62 - 1) where
  toBoundedOffset := offsets.bounded
  spaced first second above := offsets.spaced first second (lt_of_le_of_lt (by decide) above)
  window := by decide
  positive := by decide

theorem adjustToTz_readBack (offsets : calendar.BoundedOffsets) {clock : Int} (lower : Utc.day ≤ clock)
    (upper : clock < 2 ^ 62) :
    calendar.adjustToTz (.ofTicks clock) = .ok (.ofTicks (readBack calendar.offsetAt clock)) := by
  have hour : Utc.hour = 36000000000 := rfl
  have day : Utc.day = 864000000000 := rfl
  have least : Utc.minValue = -9223372036854775807 := rfl
  have greatest : Utc.maxValue = 9223372036854775807 := rfl
  have offsetLower := offsets.bounded.lower clock
  have offsetUpper := offsets.bounded.upper clock
  have ticks : (UtcTime.ofTicks clock).ticks = clock := UtcTime.ofTicks_ticks (by omega) (by omega)
  have guessTicks : (UtcTime.ofTicks (clock - calendar.offsetAt clock)).ticks = clock - calendar.offsetAt clock :=
    UtcTime.ofTicks_ticks (by omega) (by omega)
  have ordinary : (UtcTime.ofTicks clock).Ordinary := UtcTime.ordinary_iff.mpr ⟨by omega, by omega, by omega⟩
  rw [adjustToTz_eq ordinary, ticks]
  · rw [ticks]
    omega
  · rw [ticks]
    omega
  · rw [ticks]
    exact UtcTime.ordinary_iff.mpr ⟨by omega, by omega, by omega⟩

theorem trim_ticks (offsets : calendar.BoundedOffsets) {x : Int} (unit : TrimStep x) {t : UtcTime}
    (lower : Utc.day ≤ t.ticks) (upper : t.ticks < 2 ^ 62 - Utc.day)
    (above : Utc.day ≤ periodStart x (t.ticks + calendar.offsetAt t.ticks)) :
    calendar.trim t x = .ok (.ofTicks (trimBack calendar.offsetAt (periodStart x) t.ticks)) := by
  have hour : Utc.hour = 36000000000 := rfl
  have day : Utc.day = 864000000000 := rfl
  have week : Utc.week = 6048000000000 := rfl
  have reference : Julian.referenceTicks = 1487312064000000000 := rfl
  have least : Utc.minValue = -9223372036854775807 := rfl
  have greatest : Utc.maxValue = 9223372036854775807 := rfl
  have null : Utc.null = 0 := rfl
  have offsetLower := offsets.bounded.lower t.ticks
  have offsetUpper := offsets.bounded.upper t.ticks
  have ordinary : t.Ordinary := UtcTime.ordinary_iff.mpr ⟨by omega, by omega, by omega⟩
  obtain ⟨clock, clockEq⟩ : ∃ clock, clock = t.ticks + calendar.offsetAt t.ticks := ⟨_, rfl⟩
  have ticks : (UtcTime.ofTicks clock).ticks = clock := UtcTime.ofTicks_ticks (by omega) (by omega)
  have started := periodStart_bounds unit (show 0 ≤ clock by omega)
  rw [← clockEq] at above
  have back := adjustToTz_readBack offsets above (by omega)
  rw [trimBack, ← clockEq, ← back]
  have dayTicks (julDate : Int) (known : dayClock julDate = periodStart x clock) :
      Julian.j2ticks julDate = periodStart x clock := by
    rw [Julian.j2ticks, ← dayClock, known, long_eq (by omega) (by omega)]
  have counted : Julian.ticks2j clock = dayOf clock := ticks2j_eq (by omega) (by omega)
  rcases unit.cases with (rfl | rfl) | ⟨short, positive, _, divides⟩
  · show calendar.trimMonth t = _
    have start := dayTicks (Julian.YMD2j (keyDate Utc.month (dateOf clock))) rfl
    simp only [trimMonth, diffUtc_eq, ok_bind, ordinary.add_eq, ← clockEq, ticks, counted]
    rw [← start]
    rfl
  · show calendar.trimYear t = _
    have start := dayTicks (Julian.YMD2j (keyDate Utc.year (dateOf clock))) rfl
    have newYear : Julian.YMD2j (keyDate Utc.year (dateOf clock)) = Julian.Y2j (dateOf clock).year :=
      Julian.YMD2j_firstOfYear _
    simp only [trimYear, diffUtc_eq, ok_bind, ordinary.add_eq, ← clockEq, ticks, counted]
    rw [← start, newYear, Julian.j2Y_eq_year]
    rfl
  · rw [not_or] at short
    have notTrimmed : ¬(x ≤ 0 ∨ x = Utc.null) := by omega
    have sum : Julian.referenceTicks + calendar.offsetAt t.ticks + t.ticks = Julian.referenceTicks + clock := by omega
    have noWrap : long (Julian.referenceTicks + clock) = Julian.referenceTicks + clock :=
      long_eq (by omega) (by omega)
    have quotient : (Julian.referenceTicks + clock).tdiv x * x - Julian.referenceTicks = periodStart x clock := by
      have rounded := Int.mul_ediv_add_emod (Julian.referenceTicks + clock) x
      have rest : (Julian.referenceTicks + clock) % x = clock % x := by
        rw [Int.add_emod, divides, Int.zero_add, Int.emod_emod_of_dvd _ (Int.dvd_refl x)]
      rw [periodStart, if_neg (not_or.mpr short), Int.tdiv_eq_ediv_of_nonneg (by omega), Int.mul_comm]
      omega
    simp only [trim, notTrimmed, short, if_false, diffUtc_eq, ok_bind, sum, noWrap, quotient]

structure IsTrimmed (calendar : RegionalCalendar) (t : UtcTime) (x : Int) (start : UtcTime) : Prop where
  found : calendar.trim t x = .ok start
  le : start ≤ t
  kept : calendar.trim start x = .ok start
  last : ∀ other : UtcTime, start < other → other ≤ t → calendar.trim other x ≠ .ok other

theorem IsTrimmed.mono {x : Int} {t later start laterStart : UtcTime} (trimmed : calendar.IsTrimmed t x start)
    (laterTrimmed : calendar.IsTrimmed later x laterStart) (order : t ≤ later) : start ≤ laterStart := by
  have le := trimmed.le
  rw [UtcTime.le_iff] at order le ⊢
  by_contra after
  exact laterTrimmed.last start (UtcTime.lt_iff.mpr (by omega)) (UtcTime.le_iff.mpr (by omega)) trimmed.kept

theorem isTrimmed_iff (offsets : calendar.SpacedOffsets) {x : Int} (unit : TrimStep x) {t : UtcTime}
    (inside : Trimmable t) :
    (∃ start, calendar.IsTrimmed t x start) ↔
      RoundsDown (trimBack calendar.offsetAt (periodStart x)) t.ticks := by
  have hour : Utc.hour = 36000000000 := rfl
  have day : Utc.day = 864000000000 := rfl
  have year : Utc.year = 315360000000000 := rfl
  obtain ⟨lower, upper⟩ := inside
  have offsetLower := offsets.stepOffset.lower t.ticks
  have offsetUpper := offsets.stepOffset.upper t.ticks
  have started := periodStart_bounds unit (show 0 ≤ t.ticks + calendar.offsetAt t.ticks by omega)
  have back := offsets.stepOffset.readBack_bounds (periodStart x (t.ticks + calendar.offsetAt t.ticks))
  rw [← trimBack] at back
  have found := trim_ticks offsets.toBoundedOffsets unit (show Utc.day ≤ t.ticks by omega) (by omega) (by omega)
  obtain ⟨start, startEq⟩ : ∃ start, start = trimBack calendar.offsetAt (periodStart x) t.ticks := ⟨_, rfl⟩
  rw [← startEq] at back found
  have ticks : (UtcTime.ofTicks start).ticks = start := UtcTime.ofTicks_ticks (by omega) (by omega)
  have keeps (other : UtcTime) (low : start ≤ other.ticks) (high : other.ticks ≤ t.ticks) :
      calendar.trim other x = .ok other ↔ trimBack calendar.offsetAt (periodStart x) other.ticks = other.ticks := by
    have otherLower := offsets.stepOffset.lower other.ticks
    have otherUpper := offsets.stepOffset.upper other.ticks
    have otherStarted := periodStart_bounds unit (show 0 ≤ other.ticks + calendar.offsetAt other.ticks by omega)
    have otherBack := offsets.stepOffset.readBack_bounds (periodStart x (other.ticks + calendar.offsetAt other.ticks))
    rw [← trimBack] at otherBack
    rw [trim_ticks offsets.toBoundedOffsets unit (by omega) (by omega) (by omega), Except.ok.injEq]
    constructor
    · intro same
      have sameTicks := congrArg UtcTime.ticks same
      rwa [UtcTime.ofTicks_ticks (by omega) (by omega)] at sameTicks
    · intro same
      rw [same, UtcTime.ofTicks_eq]
  constructor
  · rintro ⟨result, resultFound, le, kept, last⟩
    have same := Except.ok.inj (found.symm.trans resultFound)
    subst same
    rw [UtcTime.le_iff, ticks] at le
    refine ⟨by omega, ?_, ?_⟩
    · rw [← startEq]
      have again := (keeps _ (by omega) (by omega)).mp kept
      rwa [ticks] at again
    · intro other after notAfter
      rw [← startEq] at after
      have otherTicks : (UtcTime.ofTicks other).ticks = other := UtcTime.ofTicks_ticks (by omega) (by omega)
      have moves := last (.ofTicks other) (UtcTime.lt_iff.mpr (by omega)) (UtcTime.le_iff.mpr (by omega))
      rw [ne_eq, keeps _ (by omega) (by omega), otherTicks] at moves
      exact moves
  · rintro ⟨le, fixed, last⟩
    rw [← startEq] at le fixed last
    refine ⟨.ofTicks start, found, UtcTime.le_iff.mpr (by omega), ?_, ?_⟩
    · rw [keeps _ (by omega) (by omega), ticks]
      exact fixed
    · intro other after notAfter
      rw [UtcTime.lt_iff, ticks] at after
      rw [UtcTime.le_iff] at notAfter
      rw [ne_eq, keeps _ (by omega) (by omega)]
      exact last other.ticks after notAfter

/-- Trimming rounds down if and only if no change of the offset moves the start of the
period, and the starts so found are in the order of the times. -/
theorem trim_isFloor_iff (offsets : calendar.SpacedOffsets) {x : Int} (unit : TrimStep x) {t : UtcTime}
    (inside : Trimmable t) :
    ((∃ start, calendar.IsTrimmed t x start) ↔ KeepsStart calendar.offsetAt (periodStart x) t.ticks) ∧
      ∀ later, Trimmable later → t ≤ later → KeepsStart calendar.offsetAt (periodStart x) t.ticks →
        KeepsStart calendar.offsetAt (periodStart x) later.ticks →
        ∃ start laterStart, calendar.trim t x = .ok start ∧ calendar.trim later x = .ok laterStart ∧
          start ≤ laterStart := by
  have keepsStart {time : UtcTime} (inside : Trimmable time) :
      (∃ start, calendar.IsTrimmed time x start) ↔ KeepsStart calendar.offsetAt (periodStart x) time.ticks := by
    have hour : Utc.hour = 36000000000 := rfl
    have day : Utc.day = 864000000000 := rfl
    have year : Utc.year = 315360000000000 := rfl
    obtain ⟨lower, upper⟩ := inside
    have offsetLower := offsets.stepOffset.lower time.ticks
    have started := periodStart_bounds unit (show 0 ≤ time.ticks + calendar.offsetAt time.ticks by omega)
    exact (isTrimmed_iff offsets unit ⟨lower, upper⟩).trans
      (roundsDown_iff offsets.stepOffset (periodStart_isFloor unit) (by omega) (by omega) (by omega))
  refine ⟨keepsStart inside, ?_⟩
  intro later laterInside order keeps laterKeeps
  obtain ⟨start, trimmed⟩ := (keepsStart inside).mpr keeps
  obtain ⟨laterStart, laterTrimmed⟩ := (keepsStart laterInside).mpr laterKeeps
  exact ⟨start, laterStart, trimmed.found, laterTrimmed.found, trimmed.mono laterTrimmed order⟩

theorem summerOf2000_offsets : (summerOf2000 Utc.hour).SpacedOffsets where
  utcLower := by decide
  utcUpper := by decide
  dstLower _ := (by decide : -2 * Utc.hour ≤ Utc.hour)
  dstUpper _ := (by decide : Utc.hour ≤ 2 * Utc.hour)
  spaced := summerOf2000_spaced Utc.hour (by decide) (by decide)

theorem trim_isFloor_iff_june :
    ∃ start, (summerOf2000 Utc.hour).IsTrimmed (.ofTicks 630970000000000000) Utc.day start := by
  have ticks : (UtcTime.ofTicks 630970000000000000).ticks = 630970000000000000 := by decide
  have hour : Utc.hour = 36000000000 := rfl
  have bounds (time : Int) : -Utc.hour ≤ (summerOf2000 Utc.hour).offsetAt time ∧
      (summerOf2000 Utc.hour).offsetAt time ≤ 3 * Utc.hour := summerOf2000_offsets.bounds time
  have june (time : Int) (lower : 630969000000000000 ≤ time) (upper : time ≤ 630971000000000000) :
      (summerOf2000 Utc.hour).offsetAt time = Utc.hour + Utc.hour := by
    rw [offsetAt_summerOf2000 Utc.hour (by omega) (by omega), if_pos (by omega)]
  have start : periodStart Utc.day (630970000000000000 + (Utc.hour + Utc.hour)) = 630969696000000000 := by decide
  have offset := june 630970000000000000 (by decide) (by decide)
  have inside : Trimmable (.ofTicks 630970000000000000) := ⟨by decide, by decide⟩
  refine (trim_isFloor_iff summerOf2000_offsets (Or.inr (Or.inr (Or.inr (Or.inl rfl)))) inside).1.mpr ?_
  rw [ticks]
  constructor
  · intro change jump early started
    have after := bounds change
    rw [offset, start] at started
    omega
  · intro change nextStart jump late _ beyond repeated
    have before := bounds (change - 1)
    rw [offset] at beyond
    rw [june change (by omega) (by omega), june (change - 1) (by omega) (by omega)] at jump
    omega
  · intro change jump late started unstarted
    have before := bounds (change - 1)
    have after := bounds change
    rw [offset, start] at started unstarted
    rw [june change (by omega) (by omega), june (change - 1) (by omega) (by omega)] at jump
    omega

/-- Half past two, before the end of the summer: the hour is read back after it. -/
theorem trim_afterSummer :
    (summerOf2000 Utc.hour).SpacedOffsets ∧
    (summerOf2000 Utc.hour).trim (.ofTicks 631083762000000000) Utc.hour = .ok (.ofTicks 631083780000000000) ∧
    ¬ ∃ start, (summerOf2000 Utc.hour).IsTrimmed (.ofTicks 631083762000000000) Utc.hour start := by
  have found : (summerOf2000 Utc.hour).trim (.ofTicks 631083762000000000) Utc.hour =
      .ok (.ofTicks 631083780000000000) := by decide
  refine ⟨summerOf2000_offsets, found, ?_⟩
  rintro ⟨start, trimmed⟩
  have same := Except.ok.inj (found.symm.trans trimmed.found)
  have le := trimmed.le
  rw [← same] at le
  exact absurd le (by decide)

end Zone

end RegionalCalendar

end ServiceHost
