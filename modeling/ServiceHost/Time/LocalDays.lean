import ServiceHost.Time.StandardTime

/-!
Adding days on a calendar with daylight saving. The wall clock is kept unless a time
that the addition looks at lies in a transition hour, the hour after a change of the
offset, which the addition does not count as crossed.
-/

namespace ServiceHost

open Library

structure UtcTime.Dated (time : UtcTime) : Prop where
  lower : Utc.year ≤ time.ticks
  upper : time.ticks < 2 ^ 62 - 2 * Utc.year

structure CalendarUnits.DaysLater (units : CalendarUnits) (days : Int) (later : CalendarUnits) : Prop where
  date : Julian.YMD2j later.date = Julian.YMD2j units.date + days
  hour : later.hour = units.hour
  minute : later.minute = units.minute
  second : later.second = units.second
  fraction : later.fraction = units.fraction

namespace RegionalCalendar

structure Daylight (calendar : RegionalCalendar) : Prop where
  utcLower : -Utc.year ≤ calendar.utcOffset
  utcUpper : calendar.utcOffset ≤ Utc.year - 2 * Utc.hour
  dstLower : ∀ y, 0 ≤ calendar.dstOffset y
  dstUpper : ∀ y, calendar.dstOffset y ≤ 2 * Utc.hour
  spaced : Spaced calendar.offsetAt (48 * Utc.hour) Utc.day (2 ^ 62 - 1)

def TransitionHour (calendar : RegionalCalendar) (t : Int) : Prop :=
  ∃ change, t - Utc.hour < change ∧ change ≤ t ∧ calendar.offsetAt (change - 1) ≠ calendar.offsetAt change

def ShowsDaysLater (calendar : RegionalCalendar) (t : UtcTime) (days : Int) (later : UtcTime) : Prop :=
  ∃ units laterUnits, calendar.asYMDhms_tick t = .ok units ∧ calendar.asYMDhms_tick later = .ok laterUnits ∧
    units.DaysLater days laterUnits

section Fields

variable {calendar : RegionalCalendar}

def tickUnits (clock : Int) : CalendarUnits where
  date := dateOf clock
  hour := clock % Utc.day / Utc.hour
  minute := clock % Utc.hour / Utc.minute
  second := clock % Utc.minute / Utc.second
  fraction := clock % Utc.second

theorem asYMDhms_tick_eq {t : UtcTime} (ordinary : t.Ordinary)
    (lower : -Utc.year ≤ t.ticks + calendar.offsetAt t.ticks) (upper : t.ticks + calendar.offsetAt t.ticks < 2 ^ 62) :
    calendar.asYMDhms_tick t = .ok (tickUnits (t.ticks + calendar.offsetAt t.ticks)) := by
  obtain ⟨clock, clockEq⟩ : ∃ clock, clock = t.ticks + calendar.offsetAt t.ticks := ⟨_, rfl⟩
  have year : Utc.year = 315360000000000 := rfl
  have reference : Julian.referenceTicks = 1487312064000000000 := rfl
  have referenceDay : Julian.referenceDay = 1721426 := rfl
  have day : Utc.day = 864000000000 := rfl
  have hour : Utc.hour = 36000000000 := rfl
  have minute : Utc.minute = 600000000 := rfl
  have second : Utc.second = 10000000 := rfl
  rw [← clockEq, year] at lower
  rw [← clockEq] at upper
  have ticks : (UtcTime.ofTicks clock).ticks = clock := UtcTime.ofTicks_ticks (by omega) (by omega)
  have sum : long (clock + Julian.referenceTicks) = clock + Julian.referenceTicks :=
    long_eq (by omega) (by omega)
  simp only [asYMDhms_tick, diffUtc_eq, ok_bind, ordinary.add_eq, pure_eq_ok, ← clockEq, ticks, sum]
  rw [Int.tdiv_eq_ediv_of_nonneg (by omega), Int.tmod_eq_emod_of_nonneg (by omega)]
  have rest := Int.emod_nonneg (clock + Julian.referenceTicks) (show Utc.day ≠ 0 by decide)
  rw [Int.tdiv_eq_ediv_of_nonneg rest, Int.tmod_eq_emod_of_nonneg rest]
  have hours := Int.emod_nonneg ((clock + Julian.referenceTicks) % Utc.day) (show Utc.hour ≠ 0 by decide)
  rw [Int.tdiv_eq_ediv_of_nonneg hours, Int.tmod_eq_emod_of_nonneg hours]
  have minutes := Int.emod_nonneg ((clock + Julian.referenceTicks) % Utc.day % Utc.hour) (show Utc.minute ≠ 0 by decide)
  rw [Int.tdiv_eq_ediv_of_nonneg minutes, Int.tmod_eq_emod_of_nonneg minutes]
  have dayEq : (clock + Julian.referenceTicks) / Utc.day = dayOf clock := by
    rw [dayOf, reference, referenceDay, day]
    omega
  simp only [tickUnits, dateOf, dayEq, Except.ok.injEq]
  rw [reference, day, hour, minute, second]
  apply CalendarUnits.ext
  · rfl
  · dsimp only
    omega
  · dsimp only
    omega
  · dsimp only
    omega
  · dsimp only
    omega

theorem YMD2j_tickUnits {clock : Int} (lower : -Utc.year ≤ clock) :
    Julian.YMD2j (tickUnits clock).date = dayOf clock := by
  apply Julian.YMD2j_j2YMD
  have year : Utc.year = 315360000000000 := rfl
  have day : Utc.day = 864000000000 := rfl
  have referenceDay : Julian.referenceDay = 1721426 := rfl
  have firstDay : Julian.firstDay = -32044 := rfl
  rw [year] at lower
  rw [firstDay, dayOf, referenceDay, day]
  omega

theorem tickUnits_daysLater_iff {clock later : Int} (lower : -Utc.year ≤ clock) (laterLower : -Utc.year ≤ later)
    (days : Int) : (tickUnits clock).DaysLater days (tickUnits later) ↔ later = clock + days * Utc.day := by
  have number := YMD2j_tickUnits lower
  have laterNumber := YMD2j_tickUnits laterLower
  have day : Utc.day = 864000000000 := rfl
  have hour : Utc.hour = 36000000000 := rfl
  have minute : Utc.minute = 600000000 := rfl
  have second : Utc.second = 10000000 := rfl
  constructor
  · intro daysLater
    obtain ⟨date, hours, minutes, seconds, fractions⟩ := daysLater
    rw [number, laterNumber, dayOf, dayOf, day] at date
    simp only [tickUnits, day, hour, minute, second] at hours minutes seconds fractions
    rw [day]
    omega
  · rintro rfl
    refine ⟨?_, ?_, ?_, ?_, ?_⟩
    · rw [number, laterNumber, dayOf, dayOf, day]
      omega
    all_goals
      simp only [tickUnits, day, hour, minute, second]
      omega

theorem Daylight.bounds (daylight : calendar.Daylight) (t : Int) :
    calendar.utcOffset ≤ calendar.offsetAt t ∧ calendar.offsetAt t ≤ calendar.utcOffset + 2 * Utc.hour := by
  rcases calendar.offsetAt_cases t with same | ⟨y, same⟩
  · rw [same]
    exact ⟨Int.le_refl _, by have hour : Utc.hour = 36000000000 := rfl; omega⟩
  · have lower := daylight.dstLower y
    have upper := daylight.dstUpper y
    omega

theorem showsDaysLater_iff (daylight : calendar.Daylight) {t later : UtcTime} (dated : t.Dated)
    (positive : 0 < later.ticks) (below : later.ticks < 2 ^ 62 - Utc.year) (days : Int) :
    calendar.ShowsDaysLater t days later ↔
      later.ticks + calendar.offsetAt later.ticks = t.ticks + calendar.offsetAt t.ticks + days * Utc.day := by
  have utcLower := daylight.utcLower
  have utcUpper := daylight.utcUpper
  have bounds := daylight.bounds t.ticks
  have laterBounds := daylight.bounds later.ticks
  obtain ⟨lower, upper⟩ := dated
  have year : Utc.year = 315360000000000 := rfl
  have hour : Utc.hour = 36000000000 := rfl
  have least : Utc.minValue = -9223372036854775807 := rfl
  have greatest : Utc.maxValue = 9223372036854775807 := rfl
  have ordinary : t.Ordinary := UtcTime.ordinary_iff.mpr ⟨by omega, by omega, by omega⟩
  have laterOrdinary : later.Ordinary := UtcTime.ordinary_iff.mpr ⟨by omega, by omega, by omega⟩
  have fields : calendar.asYMDhms_tick t = .ok (tickUnits (t.ticks + calendar.offsetAt t.ticks)) :=
    asYMDhms_tick_eq ordinary (by omega) (by omega)
  have laterFields : calendar.asYMDhms_tick later = .ok (tickUnits (later.ticks + calendar.offsetAt later.ticks)) :=
    asYMDhms_tick_eq laterOrdinary (by omega) (by omega)
  have counted := @tickUnits_daysLater_iff (t.ticks + calendar.offsetAt t.ticks)
    (later.ticks + calendar.offsetAt later.ticks) (by omega) (by omega) days
  rw [← counted, ShowsDaysLater, fields, laterFields]
  constructor
  · rintro ⟨_, _, shown, laterShown, daysLater⟩
    cases shown
    cases laterShown
    exact daysLater
  · intro daysLater
    exact ⟨_, _, rfl, rfl, daysLater⟩

end Fields

section Add

variable {calendar : RegionalCalendar}

theorem add_span {t : UtcTime} (early : 2 * Utc.hour < t.ticks) (late : t.ticks < 2 ^ 62) {step count : Int}
    (unit : step = Utc.week ∨ step = Utc.day) (lower : 2 * Utc.hour < t.ticks + count * step)
    (upper : t.ticks + count * step < 2 ^ 62) :
    calendar.add t step count = .ok (.ofTicks (t.ticks + count * step +
      if 0 < count * step then calendar.offsetAt t.ticks - calendar.offsetAt (t.ticks + count * step - Utc.hour)
      else calendar.offsetAt (t.ticks - Utc.hour) - calendar.offsetAt (t.ticks + count * step))) := by
  obtain ⟨span, spanEq⟩ : ∃ span, span = count * step := ⟨_, rfl⟩
  rw [← spanEq] at lower upper ⊢
  have hour : Utc.hour = 36000000000 := rfl
  have least : Utc.minValue = -9223372036854775807 := rfl
  have greatest : Utc.maxValue = 9223372036854775807 := rfl
  rw [hour] at early lower
  have notYear : step ≠ Utc.year := by rcases unit with rfl | rfl <;> decide
  have notMonth : step ≠ Utc.month := by rcases unit with rfl | rfl <;> decide
  have ordinary : t.Ordinary := UtcTime.ordinary_iff.mpr ⟨by omega, by omega, by omega⟩
  have noWrap : long span = span := long_eq (by omega) (by omega)
  have moved : (UtcTime.ofTicks (t.ticks + span)).ticks = t.ticks + span :=
    UtcTime.ofTicks_ticks (by omega) (by omega)
  have movedOrdinary : (UtcTime.ofTicks (t.ticks + span)).Ordinary :=
    UtcTime.ordinary_iff.mpr ⟨by omega, by omega, by omega⟩
  have earlier : (UtcTime.ofTicks (t.ticks - Utc.hour)).ticks = t.ticks - Utc.hour :=
    UtcTime.ofTicks_ticks (by omega) (by omega)
  have movedEarlier : (UtcTime.ofTicks (t.ticks + span - Utc.hour)).ticks = t.ticks + span - Utc.hour :=
    UtcTime.ofTicks_ticks (by omega) (by omega)
  have kept : (UtcTime.ofTicks (t.ticks - 0)).ticks = t.ticks := by
    rw [Int.sub_zero, UtcTime.ofTicks_eq]
  have movedKept : (UtcTime.ofTicks (t.ticks + span - 0)).ticks = t.ticks + span := by
    rw [Int.sub_zero, moved]
  simp only [add, ← spanEq, notYear, notMonth, unit, if_false, if_true, noWrap, ordinary.sub_eq, ordinary.add_eq,
    ok_bind, diffUtc_eq, movedOrdinary.sub_eq, movedOrdinary.add_eq, moved]
  split
  · rw [kept, movedEarlier]
  · rw [earlier, movedKept]

theorem transitionHour_iff (daylight : calendar.Daylight) {t : Int} (lower : 2 * Utc.day ≤ t) (upper : t < 2 ^ 62) :
    calendar.TransitionHour t ↔ calendar.offsetAt (t - Utc.hour) ≠ calendar.offsetAt t := by
  have day : Utc.day = 864000000000 := rfl
  have hour : Utc.hour = 36000000000 := rfl
  constructor
  · rintro ⟨change, after, before, jump⟩
    rw [hour] at after
    obtain ⟨turn, early, late, steps⟩ :=
      exists_change (t - Utc.hour) t daylight.spaced (by omega) (by omega) (by omega)
    rw [hour] at steps ⊢
    have first := steps (t - 36000000000) (by omega) (by omega)
    have last := steps t (by omega) (by omega)
    have previous := steps (change - 1) (by omega) (by omega)
    have next := steps change (by omega) (by omega)
    split at first <;> split at last <;> split at previous <;> split at next <;> omega
  · intro different
    by_contra quiet
    apply different
    refine eq_of_no_change (by omega) fun time above within => ?_
    by_contra jump
    exact quiet ⟨time, above, within, jump⟩

def ProbesAgree (calendar : RegionalCalendar) (t days target : Int) : Prop :=
  if 0 < days then calendar.offsetAt (t + days * Utc.day - Utc.hour) = calendar.offsetAt target
  else calendar.offsetAt (t - Utc.hour) - calendar.offsetAt (t + days * Utc.day) =
    calendar.offsetAt t - calendar.offsetAt target

theorem offsetAt_moved (daylight : calendar.Daylight) {dst : Int} (uniform : ∀ y, calendar.dstOffset y = dst)
    {t target : UtcTime} {days : Int} (dated : t.Dated) (targetDated : target.Dated)
    (clock : target.ticks + calendar.offsetAt target.ticks =
      t.ticks + calendar.offsetAt t.ticks + days * Utc.day)
    (alone : ∀ other : UtcTime, 0 < other.ticks → other.ticks < 2 ^ 62 - Utc.year →
      calendar.ShowsDaysLater t days other → other = target) :
    calendar.offsetAt (t.ticks + days * Utc.day) = calendar.offsetAt target.ticks := by
  have year : Utc.year = 315360000000000 := rfl
  have hour : Utc.hour = 36000000000 := rfl
  have bounds := daylight.bounds t.ticks
  have targetBounds := daylight.bounds target.ticks
  obtain ⟨targetLower, targetUpper⟩ := targetDated
  have moved : (UtcTime.ofTicks (t.ticks + days * Utc.day)).ticks = t.ticks + days * Utc.day :=
    UtcTime.ofTicks_ticks (by omega) (by omega)
  by_contra different
  have elsewhere : calendar.offsetAt target.ticks ≠ calendar.offsetAt t.ticks := by
    intro same
    have meets : t.ticks + days * Utc.day = target.ticks := by omega
    exact different (congrArg calendar.offsetAt meets)
  have value (time : Int) : calendar.offsetAt time = calendar.utcOffset ∨
      calendar.offsetAt time = calendar.utcOffset + dst := by
    rcases calendar.offsetAt_cases time with same | ⟨y, same⟩
    · exact Or.inl same
    · exact Or.inr (uniform y ▸ same)
  have back : calendar.offsetAt (t.ticks + days * Utc.day) = calendar.offsetAt t.ticks := by
    rcases value t.ticks with own | own <;> rcases value target.ticks with targets | targets <;>
      rcases value (t.ticks + days * Utc.day) with moves | moves <;> omega
  -- The time that many days away in hours shows the same clock.
  have movedShown : calendar.ShowsDaysLater t days (.ofTicks (t.ticks + days * Utc.day)) := by
    rw [showsDaysLater_iff daylight dated (by omega) (by omega), moved]
    omega
  have same := alone _ (by omega) (by omega) movedShown
  rw [← same, moved] at different
  exact different rfl

/-- The addition meets the time that the wall clock names if and only if its two probes
agree. With one daylight offset it meets a time that is named alone if and only if the
end that is looked up an hour earlier lies in no transition hour. -/
theorem add_wallClock (daylight : calendar.Daylight) {t target : UtcTime} {step count days : Int}
    (unit : step = Utc.day ∧ days = count ∨ step = Utc.week ∧ days = 7 * count) (dated : t.Dated)
    (targetDated : target.Dated) (shown : calendar.ShowsDaysLater t days target)
    (alone : ∀ other : UtcTime, 0 < other.ticks → other.ticks < 2 ^ 62 - Utc.year →
      calendar.ShowsDaysLater t days other → other = target) :
    (calendar.add t step count = .ok target ↔ calendar.ProbesAgree t.ticks days target.ticks) ∧
      ∀ dst, (∀ y, calendar.dstOffset y = dst) → (calendar.add t step count = .ok target ↔
        ¬ calendar.TransitionHour (if 0 < days then t.ticks + days * Utc.day else t.ticks)) := by
  have year : Utc.year = 315360000000000 := rfl
  have hour : Utc.hour = 36000000000 := rfl
  have bounds := daylight.bounds t.ticks
  have targetBounds := daylight.bounds target.ticks
  have targetLower := targetDated.lower
  have targetUpper := targetDated.upper
  have clock := (showsDaysLater_iff daylight dated (by omega) (by omega) days).mp shown
  have span : count * step = days * Utc.day := by
    have week : Utc.week = 7 * Utc.day := rfl
    rcases unit with ⟨rfl, rfl⟩ | ⟨rfl, rfl⟩
    · rfl
    · rw [week, ← Int.mul_assoc, Int.mul_comm count 7]
  have forward : 0 < days * Utc.day ↔ 0 < days := by
    have day : Utc.day = 864000000000 := rfl
    rw [day]
    omega
  have named : step = Utc.week ∨ step = Utc.day := by
    rcases unit with ⟨isDay, _⟩ | ⟨isWeek, _⟩
    · exact Or.inr isDay
    · exact Or.inl isWeek
  have datedLower := dated.lower
  have datedUpper := dated.upper
  have added := @add_span calendar t (by omega) (by omega) step count named (by rw [span]; omega) (by rw [span]; omega)
  simp only [span, forward] at added
  have reaches (moved : Int) (lower : -2 ^ 63 ≤ moved) (upper : moved < 2 ^ 63) :
      (Except.ok (UtcTime.ofTicks moved) : Except SystemException UtcTime) = .ok target ↔ moved = target.ticks := by
    have ticks := UtcTime.ofTicks_ticks lower upper
    rw [Except.ok.injEq]
    constructor
    · rintro rfl
      exact ticks.symm
    · intro same
      exact UtcTime.ext (ticks.trans same)
  have probes : calendar.add t step count = .ok target ↔ calendar.ProbesAgree t.ticks days target.ticks := by
    rw [added]
    unfold ProbesAgree
    have before := daylight.bounds (t.ticks - Utc.hour)
    have moved := daylight.bounds (t.ticks + days * Utc.day)
    have movedBefore := daylight.bounds (t.ticks + days * Utc.day - Utc.hour)
    split
    · rw [reaches _ (by omega) (by omega)]
      omega
    · rw [reaches _ (by omega) (by omega)]
      omega
  refine ⟨probes, fun dst uniform => probes.trans ?_⟩
  have day : Utc.day = 864000000000 := rfl
  have lower := dated.lower
  have upper := dated.upper
  have meets := offsetAt_moved daylight uniform dated targetDated clock alone
  unfold ProbesAgree
  split
  · rw [transitionHour_iff daylight (by omega) (by omega), meets, Decidable.not_not]
  · rw [transitionHour_iff daylight (by omega) (by omega), meets, Decidable.not_not]
    omega

end Add

section Summer

theorem summerOf2000_daylight : (summerOf2000 Utc.hour).Daylight where
  utcLower := by decide
  utcUpper := by decide
  dstLower _ := (by decide : 0 ≤ Utc.hour)
  dstUpper _ := (by decide : Utc.hour ≤ 2 * Utc.hour)
  spaced := summerOf2000_spaced Utc.hour (by decide) (by decide)

theorem summerOf2000_alone {t target : UtcTime} {days : Int} (dated : t.Dated) (targetDated : target.Dated)
    (shown : (summerOf2000 Utc.hour).ShowsDaysLater t days target)
    (away : target.ticks < 631083744000000000 ∨ 631083816000000000 ≤ target.ticks) (other : UtcTime)
    (positive : 0 < other.ticks) (below : other.ticks < 2 ^ 62 - Utc.year)
    (otherShown : (summerOf2000 Utc.hour).ShowsDaysLater t days other) : other = target := by
  have year : Utc.year = 315360000000000 := rfl
  have hour : Utc.hour = 36000000000 := rfl
  have lower := targetDated.lower
  have upper := targetDated.upper
  rw [showsDaysLater_iff summerOf2000_daylight dated (by omega) (by omega)] at shown otherShown
  have own := offsetAt_summerOf2000 Utc.hour (show 0 < target.ticks by omega) (by omega)
  have others := offsetAt_summerOf2000 Utc.hour positive (by omega)
  apply UtcTime.ext
  split at own <;> split at others <;> omega

theorem add_wallClock_weekend :
    (summerOf2000 Utc.hour).addDays (.ofTicks 631082070000000000) 3 = .ok (.ofTicks 631084698000000000) := by
  have dated : (UtcTime.ofTicks 631082070000000000).Dated := ⟨by decide, by decide⟩
  have targetDated : (UtcTime.ofTicks 631084698000000000).Dated := ⟨by decide, by decide⟩
  have shown : (summerOf2000 Utc.hour).ShowsDaysLater (.ofTicks 631082070000000000) 3 (.ofTicks 631084698000000000) :=
    ⟨⟨⟨2000, 10, 27⟩, 3, 30, 0, 0⟩, ⟨⟨2000, 10, 30⟩, 3, 30, 0, 0⟩, rfl, rfl,
      ⟨by decide, rfl, rfl, rfl, rfl⟩⟩
  have probes : (summerOf2000 Utc.hour).ProbesAgree 631082070000000000 3 631084698000000000 := by
    unfold ProbesAgree
    decide
  exact (add_wallClock summerOf2000_daylight (Or.inl ⟨rfl, rfl⟩) dated targetDated shown
    (summerOf2000_alone dated targetDated shown (by decide))).1.mpr probes

/-- From half past three on the Saturday before the end of the summer, one day leads to half
past two, although the Sunday has half past three once. -/
theorem addDays_endOfSummer :
    (summerOf2000 Utc.hour).Daylight ∧
    (summerOf2000 Utc.hour).ShowsDaysLater (.ofTicks 631082934000000000) 1 (.ofTicks 631083834000000000) ∧
    (∀ other : UtcTime, 0 < other.ticks → other.ticks < 2 ^ 62 - Utc.year →
      (summerOf2000 Utc.hour).ShowsDaysLater (.ofTicks 631082934000000000) 1 other →
      other = .ofTicks 631083834000000000) ∧
    (summerOf2000 Utc.hour).asYMDhms_tick (.ofTicks 631082934000000000) = .ok ⟨⟨2000, 10, 28⟩, 3, 30, 0, 0⟩ ∧
    (summerOf2000 Utc.hour).addDays (.ofTicks 631082934000000000) 1 = .ok (.ofTicks 631083798000000000) ∧
    (summerOf2000 Utc.hour).asYMDhms_tick (.ofTicks 631083798000000000) = .ok ⟨⟨2000, 10, 29⟩, 2, 30, 0, 0⟩ := by
  have dated : (UtcTime.ofTicks 631082934000000000).Dated := ⟨by decide, by decide⟩
  have targetDated : (UtcTime.ofTicks 631083834000000000).Dated := ⟨by decide, by decide⟩
  have shown : (summerOf2000 Utc.hour).ShowsDaysLater (.ofTicks 631082934000000000) 1 (.ofTicks 631083834000000000) :=
    ⟨⟨⟨2000, 10, 28⟩, 3, 30, 0, 0⟩, ⟨⟨2000, 10, 29⟩, 3, 30, 0, 0⟩, rfl, rfl,
      ⟨by decide, rfl, rfl, rfl, rfl⟩⟩
  exact ⟨summerOf2000_daylight, shown, summerOf2000_alone dated targetDated shown (by decide), rfl, rfl, rfl⟩

end Summer

end RegionalCalendar

end ServiceHost
