import ServiceHost.Time.UtcTime

/-!
Seconds from 1970 and back. The two sides name their sentinels differently: the count
for the beginning of time is read as no time, and no time is written as 1970.
-/

namespace ServiceHost

namespace UtcTime

def minPdtime : Int := -62135769600
def maxPdtime : Int := 253402214400

def nullPdtime : Int := -62135596800

structure OnPdtimeAxis (time : UtcTime) : Prop where
  whole : time.ticks % Utc.second = 0
  lower : minPdtime * Utc.second + Utc.pdTime1970 ≤ time.ticks
  upper : time.ticks ≤ maxPdtime * Utc.second + Utc.pdTime1970

def IsSentinel (time : UtcTime) : Prop := time = null ∨ time = minValue ∨ time = maxValue

def IsPdtime (pdtime : Int) : Prop :=
  minPdtime ≤ pdtime ∧ pdtime ≤ maxPdtime ∨ pdtime = Utc.pdtimeBigBang ∨ pdtime = Utc.pdtimeGnabGib

theorem createFromPdtime_between {pdtime : Int} (lower : minPdtime ≤ pdtime) (upper : pdtime ≤ maxPdtime) :
    (createFromPdtime pdtime).ticks = pdtime * Utc.second + Utc.pdTime1970 := by
  have second : Utc.second = 10000000 := rfl
  have pdTime1970 : Utc.pdTime1970 = 621355968000000000 := rfl
  have bigBang : Utc.pdtimeBigBang = -9223372036854775808 := rfl
  have gnabGib : Utc.pdtimeGnabGib = 9223372036854775807 := rfl
  unfold minPdtime at lower
  unfold maxPdtime at upper
  rw [createFromPdtime, if_neg (by omega), if_neg (by omega), if_neg (by omega), second, pdTime1970]
  exact ofTicks_ticks (by omega) (by omega)

theorem toPdtime_between {time : UtcTime} (notNull : time ≠ null)
    (lower : minPdtime * Utc.second + Utc.pdTime1970 ≤ time.ticks)
    (upper : time.ticks ≤ maxPdtime * Utc.second + Utc.pdTime1970) :
    time.toPdtime = (time.ticks - Utc.pdTime1970).tdiv Utc.second := by
  have second : Utc.second = 10000000 := rfl
  have pdTime1970 : Utc.pdTime1970 = 621355968000000000 := rfl
  have least : Utc.minValue = -9223372036854775807 := rfl
  have greatest : Utc.maxValue = 9223372036854775807 := rfl
  have leastTicks : minPdtime * Utc.second = -621357696000000000 := rfl
  have greatestTicks : maxPdtime * Utc.second = 2534022144000000000 := rfl
  rw [toPdtime, if_neg (show ¬time.ticks = Utc.null from ne_null_iff.mp notNull), if_neg (by omega), if_neg (by omega),
    long_eq (by omega) (by omega)]

theorem createFromPdtime_toPdtime {time : UtcTime} (onAxis : OnPdtimeAxis time) (notNull : time ≠ null) :
    createFromPdtime time.toPdtime = time := by
  have second : Utc.second = 10000000 := rfl
  have pdTime1970 : Utc.pdTime1970 = 621355968000000000 := rfl
  have leastTicks : minPdtime * Utc.second = -621357696000000000 := rfl
  have greatestTicks : maxPdtime * Utc.second = 2534022144000000000 := rfl
  obtain ⟨whole, lower, upper⟩ := onAxis
  rw [second] at whole
  have exactly : (time.ticks - Utc.pdTime1970).tdiv Utc.second * Utc.second = time.ticks - Utc.pdTime1970 :=
    Int.tdiv_mul_cancel (Int.dvd_of_emod_eq_zero (by rw [second]; omega))
  obtain ⟨pdtime, pdtimeEq⟩ : ∃ pdtime, pdtime = time.toPdtime := ⟨_, rfl⟩
  rw [← toPdtime_between notNull lower upper, ← pdtimeEq] at exactly
  have ticks : pdtime * Utc.second = pdtime * 10000000 := rfl
  have minimum : minPdtime = -62135769600 := rfl
  have maximum : maxPdtime = 253402214400 := rfl
  rw [← pdtimeEq]
  apply ext
  rw [createFromPdtime_between (by omega) (by omega)]
  omega

theorem toPdtime_createFromPdtime {pdtime : Int} (lower : minPdtime ≤ pdtime) (upper : pdtime ≤ maxPdtime)
    (notNull : pdtime ≠ nullPdtime) : (createFromPdtime pdtime).toPdtime = pdtime := by
  have second : Utc.second = 10000000 := rfl
  have pdTime1970 : Utc.pdTime1970 = 621355968000000000 := rfl
  have minimum : minPdtime = -62135769600 := rfl
  have maximum : maxPdtime = 253402214400 := rfl
  have atNull : nullPdtime = -62135596800 := rfl
  have ticks := createFromPdtime_between lower upper
  have leastTicks : minPdtime * Utc.second = -621357696000000000 := rfl
  have greatestTicks : maxPdtime * Utc.second = 2534022144000000000 := rfl
  have scaled : pdtime * Utc.second = pdtime * 10000000 := rfl
  rw [toPdtime_between (ne_null_iff.mpr (by omega)) (by omega) (by omega), ticks, Int.add_sub_cancel]
  exact Int.mul_tdiv_cancel pdtime (by decide)

/-- Times come back from their counts, and counts from their times, but for the null time,
the beginning of time and the count of the null time. -/
theorem pdtime_roundTrip_iff {time : UtcTime} (known : OnPdtimeAxis time ∨ IsSentinel time) {pdtime : Int}
    (named : IsPdtime pdtime) :
    (createFromPdtime time.toPdtime = time ↔ time ≠ null ∧ time ≠ minValue) ∧
    ((createFromPdtime pdtime).toPdtime = pdtime ↔ pdtime ≠ Utc.pdtimeBigBang ∧ pdtime ≠ nullPdtime) := by
  constructor
  · constructor
    · intro back
      refine ⟨?_, ?_⟩
      · rintro rfl
        exact absurd back (by decide)
      · rintro rfl
        exact absurd back (by decide)
    · rintro ⟨notNull, notMin⟩
      rcases known with onAxis | rfl | rfl | rfl
      · exact createFromPdtime_toPdtime onAxis notNull
      · exact absurd rfl notNull
      · exact absurd rfl notMin
      · decide
  · constructor
    · intro back
      refine ⟨?_, ?_⟩
      · rintro rfl
        exact absurd back (by decide)
      · rintro rfl
        exact absurd back (by decide)
    · rintro ⟨notBigBang, notNull⟩
      rcases named with ⟨lower, upper⟩ | rfl | rfl
      · exact toPdtime_createFromPdtime lower upper notNull
      · exact absurd rfl notBigBang
      · decide

theorem pdtime_roundTrip_iff_1969 :
    createFromPdtime (UtcTime.ofTicks 621355967990000000).toPdtime = .ofTicks 621355967990000000 ∧
      (createFromPdtime (-1)).toPdtime = -1 := by
  have both := @pdtime_roundTrip_iff (.ofTicks 621355967990000000) (Or.inl ⟨by decide, by decide, by decide⟩) (-1)
    (Or.inl ⟨by decide, by decide⟩)
  exact ⟨both.1.mpr ⟨by decide, by decide⟩, both.2.mpr ⟨by decide, by decide⟩⟩

/-- The null time comes back as 1970 and the beginning of time as the null time. -/
theorem pdtime_sentinels :
    createFromPdtime null.toPdtime = .ofTicks Utc.pdTime1970 ∧ createFromPdtime minValue.toPdtime = null ∧
      (createFromPdtime Utc.pdtimeBigBang).toPdtime = 0 ∧ (createFromPdtime nullPdtime).toPdtime = 0 ∧
      ¬((∀ time, OnPdtimeAxis time ∨ IsSentinel time → createFromPdtime time.toPdtime = time) ∧
        ∀ pdtime, IsPdtime pdtime → (createFromPdtime pdtime).toPdtime = pdtime) := by
  refine ⟨by decide, by decide, by decide, by decide, ?_⟩
  rintro ⟨times, _⟩
  exact absurd (times null (Or.inr (Or.inl rfl))) (by decide)

end UtcTime

end ServiceHost
