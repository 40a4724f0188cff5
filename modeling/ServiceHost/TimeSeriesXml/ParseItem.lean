import ServiceHost.TimeSeries.QualityAccessors
import ServiceHost.TimeSeriesXml.TimeSeriesXMLAdapterCore

/-!
What becomes of the attributes of an item and of its period. The flags of an item are in the
quality; its methods and custom status are not. A period whose end and duration are both
given is accepted only when it is empty.
-/

namespace ServiceHost.TimeSeriesXml

open Library Quality

section Flags

variable {q : Quality} {bits : BitVector32.Section}

theorem union_getExposedFlag (q other : Quality) (bits : BitVector32.Section) :
    (q.union other).getExposedFlag bits = (q.getExposedFlag bits || other.getExposedFlag bits) := by
  have parts : BitVector32.get (q.union other).exposedQuality bits =
      BitVector32.get q.exposedQuality bits ||| BitVector32.get other.exposedQuality bits := readField_or _ _
  rw [getExposedFlag, getExposedFlag, getExposedFlag, parts, ← Bool.decide_or, decide_eq_decide]
  exact (not_congr BitVec.or_eq_zero_iff).trans not_and_or

theorem orWhen_getExposedFlag (flag : Bool) (other q : Quality) (bits : BitVector32.Section) :
    (orWhen flag other q).getExposedFlag bits = (q.getExposedFlag bits || (flag && other.getExposedFlag bits)) := by
  cases flag
  · exact (Bool.or_false _).symm
  · exact union_getExposedFlag q other bits

theorem flagged_getExposedFlag (accessor other : Accessor) (exposed : accessor.writesInternal = false)
    (exposed' : other.writesInternal = false) :
    (flagged accessor.bits).getExposedFlag other.bits = decide (accessor = other) := by
  cases accessor <;> cases other <;> revert exposed exposed' <;> decide

end Flags

variable {D : Type} {runtime : Runtime}

def itemFlag (tsItem : TsPVQItemType D) : Accessor → Bool
  | .notOK => tsItem.n_OK
  | .validated => tsItem.validated
  | .corrected => tsItem.corrected
  | .manual => tsItem.manual
  | .suspect => tsItem.suspect
  | .missing => tsItem.missing
  | .locked => tsItem.locked
  | .accepted => tsItem.accepted
  | _ => false

def itemQuality (tsItem : TsPVQItemType D) : Quality :=
  orWhen tsItem.accepted .accepted (orWhen tsItem.locked .locked (orWhen tsItem.missing .missing
    (orWhen tsItem.suspect .suspect (orWhen tsItem.manual .manual (orWhen tsItem.corrected .corrected
      (orWhen tsItem.validated .validated (orWhen tsItem.n_OK .notOK (ofInt 0))))))))

theorem itemQuality_getExposedFlag (tsItem : TsPVQItemType D) (accessor : Accessor)
    (exposed : accessor.writesInternal = false) :
    (itemQuality tsItem).getExposedFlag accessor.bits = itemFlag tsItem accessor := by
  have empty : (ofInt 0).getExposedFlag accessor.bits = false := by
    cases accessor <;> rfl
  have notOK : Quality.notOK.getExposedFlag accessor.bits = decide (Accessor.notOK = accessor) :=
    flagged_getExposedFlag .notOK accessor rfl exposed
  have validated : Quality.validated.getExposedFlag accessor.bits = decide (Accessor.validated = accessor) :=
    flagged_getExposedFlag .validated accessor rfl exposed
  have corrected : Quality.corrected.getExposedFlag accessor.bits = decide (Accessor.corrected = accessor) :=
    flagged_getExposedFlag .corrected accessor rfl exposed
  have manual : Quality.manual.getExposedFlag accessor.bits = decide (Accessor.manual = accessor) :=
    flagged_getExposedFlag .manual accessor rfl exposed
  have suspect : Quality.suspect.getExposedFlag accessor.bits = decide (Accessor.suspect = accessor) :=
    flagged_getExposedFlag .suspect accessor rfl exposed
  have missing : Quality.missing.getExposedFlag accessor.bits = decide (Accessor.missing = accessor) :=
    flagged_getExposedFlag .missing accessor rfl exposed
  have locked : Quality.locked.getExposedFlag accessor.bits = decide (Accessor.locked = accessor) :=
    flagged_getExposedFlag .locked accessor rfl exposed
  have accepted : Quality.accepted.getExposedFlag accessor.bits = decide (Accessor.accepted = accessor) :=
    flagged_getExposedFlag .accepted accessor rfl exposed
  simp only [itemQuality, orWhen_getExposedFlag, empty, Bool.false_or, notOK, validated, corrected, manual, suspect,
    missing, locked, accepted]
  cases accessor <;> simp [itemFlag]

theorem itemQuality_get (tsItem : TsPVQItemType D) (accessor : Accessor) (exposed : accessor.writesInternal = false)
    (noFlag : itemFlag tsItem accessor = false) :
    BitVector32.get (itemQuality tsItem).exposedQuality accessor.bits = 0 := by
  have clear := itemQuality_getExposedFlag tsItem accessor exposed
  rw [noFlag, getExposedFlag, decide_eq_false_iff_not] at clear
  exact Decidable.not_not.mp clear

def CustomNumber (runtime : Runtime) (tsItem : TsPVQItemType D) (number : Nat) : Prop :=
  tsItem.custom = none ∧ number = 0 ∨ ∃ text, tsItem.custom = some text ∧ runtime.toInt32 text = .ok (number : Int)

def validationOf (tsItem : TsPVQItemType D) : ValidationMethods :=
  if tsItem.valMethodSpecified then TsXMLEnumMapper.getValMethod tsItem.valMethod else .none

def correctionOf (tsItem : TsPVQItemType D) : CorrectionMethods :=
  if tsItem.corMethodSpecified then TsXMLEnumMapper.getCorMethod tsItem.corMethod else .none

structure Carries (tsItem : TsPVQItemType D) (number : Nat) (q : Quality) : Prop where
  notOK : q.isNotOK = tsItem.n_OK
  validated : q.isValidated = tsItem.validated
  corrected : q.isCorrected = tsItem.corrected
  manual : q.isManual = tsItem.manual
  suspect : q.isSuspect = tsItem.suspect
  missing : q.isMissing = tsItem.missing
  locked : q.isLocked = tsItem.locked
  accepted : q.isAccepted = tsItem.accepted
  custom : q.custom = BitVec.ofNat 32 number
  validation : q.validation = validationOf tsItem
  correction : q.correction = correctionOf tsItem

theorem parseQuality_eq {tsItem : TsPVQItemType D} {number : Nat} (custom : CustomNumber runtime tsItem number) :
    parseQuality runtime tsItem = .ok (itemQuality tsItem) := by
  unfold parseQuality
  rcases custom with ⟨absent, _⟩ | ⟨text, given, converted⟩
  · rw [absent]
    rfl
  · simp only [given, converted]
    rfl

theorem validationOf_none {tsItem : TsPVQItemType D} : validationOf tsItem = 0 ↔ tsItem.valMethodSpecified = false := by
  unfold validationOf
  cases tsItem.valMethodSpecified with
  | false => exact ⟨fun _ => rfl, fun _ => rfl⟩
  | true =>
      have mapped (method : TsValMethodType) : TsXMLEnumMapper.getValMethod method ≠ 0 := by
        cases method <;> decide
      exact ⟨fun none => absurd none (mapped tsItem.valMethod), fun not => absurd not (by decide)⟩

theorem correctionOf_none {tsItem : TsPVQItemType D} : correctionOf tsItem = 0 ↔ tsItem.corMethodSpecified = false := by
  unfold correctionOf
  cases tsItem.corMethodSpecified with
  | false => exact ⟨fun _ => rfl, fun _ => rfl⟩
  | true =>
      have mapped (method : TsCorMethodType) : TsXMLEnumMapper.getCorMethod method ≠ 0 := by
        cases method <;> decide
      exact ⟨fun none => absurd none (mapped tsItem.corMethod), fun not => absurd not (by decide)⟩

theorem carries_itemQuality (tsItem : TsPVQItemType D) (number : Nat) : Carries tsItem number (itemQuality tsItem) ↔
    BitVec.ofNat 32 number = 0 ∧ validationOf tsItem = 0 ∧ correctionOf tsItem = 0 := by
  have flag := itemQuality_getExposedFlag tsItem
  have custom : (itemQuality tsItem).custom = 0 := itemQuality_get tsItem .custom rfl rfl
  have validation : (itemQuality tsItem).validation = 0 := itemQuality_get tsItem .validation rfl rfl
  have correction : (itemQuality tsItem).correction = 0 := itemQuality_get tsItem .correction rfl rfl
  constructor
  · intro carries
    exact ⟨carries.custom.symm.trans custom, carries.validation.symm.trans validation,
      carries.correction.symm.trans correction⟩
  · rintro ⟨noCustom, noValidation, noCorrection⟩
    exact ⟨flag .notOK rfl, flag .validated rfl, flag .corrected rfl, flag .manual rfl, flag .suspect rfl,
      flag .missing rfl, flag .locked rfl, flag .accepted rfl, custom.trans noCustom.symm,
      validation.trans noValidation.symm, correction.trans noCorrection.symm⟩

/-- Nothing is lost exactly when the item has no custom number but zero and no methods. -/
theorem parseQuality_carries_iff {tsItem : TsPVQItemType D} {number : Nat}
    (custom : CustomNumber runtime tsItem number) (small : number ≤ 31) :
    (∃ q, parseQuality runtime tsItem = .ok q ∧ Carries tsItem number q) ↔
      number = 0 ∧ tsItem.valMethodSpecified = false ∧ tsItem.corMethodSpecified = false := by
  have zero : BitVec.ofNat 32 number = 0 ↔ number = 0 := by
    rw [← BitVec.toNat_inj, BitVec.toNat_ofNat, Nat.mod_eq_of_lt (by omega)]
    rfl
  rw [← validationOf_none, ← correctionOf_none, ← zero, ← carries_itemQuality, parseQuality_eq custom]
  constructor
  · rintro ⟨q, parsed, carries⟩
    rw [Except.ok.inj parsed]
    exact carries
  · intro carries
    exact ⟨itemQuality tsItem, rfl, carries⟩

def customItem : TsPVQItemType Int := { sampleItem 36000000000 1 with custom := some "7" }

def convertingRuntime : Runtime :=
  { sampleRuntime with
    toInt32 := fun text => if text = "7" then .ok 7 else .error "Input string was not in a correct format." }

theorem parseQuality_plainItem : (∃ q, parseQuality sampleRuntime (sampleItem 36000000000 1) = .ok q ∧
    Carries (sampleItem 36000000000 1) 0 q) ↔ (0 = 0 ∧ false = false ∧ false = false) :=
  parseQuality_carries_iff (Or.inl ⟨rfl, rfl⟩) (by decide)

/-- The custom number of an item is lost. -/
theorem parseQuality_customItem : ¬ ∀ (runtime : Runtime) (tsItem : TsPVQItemType Int) (number : Nat),
    CustomNumber runtime tsItem number → number ≤ 31 →
      ∃ q, parseQuality runtime tsItem = .ok q ∧ Carries tsItem number q := by
  intro holds
  have custom : CustomNumber convertingRuntime customItem 7 := Or.inr ⟨"7", rfl, rfl⟩
  obtain ⟨q, parsed, carries⟩ := holds convertingRuntime customItem 7 custom (by decide)
  rw [parseQuality_eq custom] at parsed
  rw [← Except.ok.inj parsed, carries_itemQuality] at carries
  exact absurd carries.1 (by decide)

def DurationOf (runtime : Runtime) (tsTime : TsTimePeriodType) : Option Int → Prop
  | none => tsTime.duration = ""
  | some duration => tsTime.duration ≠ "" ∧ runtime.toTimeSpan tsTime.duration = .ok duration ∧
      0 ≤ duration ∧ duration < 2 ^ 63

def Refused (runtime : Runtime) (tsTime : TsTimePeriodType) : Prop :=
  parseTimePeriod runtime tsTime = .error (runtime.argumentMessage "Ambiguous time period" tsTime.duration) ∨
    parseTimePeriod runtime tsTime = .error (runtime.argumentNullMessage UtcTime.oneOfOperandsIsNull)

def Decided (runtime : Runtime) (tsTime : TsTimePeriodType) : Option Int → Prop
  | none => tsTime.toSpecified = true →
      parseTimePeriod runtime tsTime = .ok ⟨tsTime.fromDateTime, tsTime.toDateTime⟩
  | some duration =>
      if tsTime.toSpecified then
        if tsTime.toDateTime.ticks - tsTime.fromDateTime.ticks = duration then
          parseTimePeriod runtime tsTime = .ok ⟨tsTime.fromDateTime, tsTime.toDateTime⟩
        else Refused runtime tsTime
      else
        parseTimePeriod runtime tsTime =
          .ok ⟨tsTime.fromDateTime, UtcTime.ofTicks (tsTime.fromDateTime.ticks + duration)⟩

def Bounded (tsTime : TsTimePeriodType) : Prop :=
  tsTime.fromDateTime ≠ UtcTime.null ∧ tsTime.toDateTime ≠ UtcTime.null

def Settled (tsTime : TsTimePeriodType) : Option Int → Prop
  | none => tsTime.toSpecified = true → Bounded tsTime
  | some duration =>
      let length := tsTime.toDateTime.ticks - tsTime.fromDateTime.ticks
      tsTime.toSpecified = true →
        (length = duration → Bounded tsTime ∧ length = 0) ∧
          (Bounded tsTime → length ≠ 2 ^ 63 ∧ length + duration ≠ 2 ^ 64)

section Period

variable {tsTime : TsTimePeriodType}

theorem parseTimePeriod_unbounded (specified : tsTime.toSpecified = true) (unbounded : ¬Bounded tsTime) :
    parseTimePeriod runtime tsTime = .error (runtime.argumentNullMessage UtcTime.oneOfOperandsIsNull) := by
  have null : tsTime.fromDateTime = UtcTime.null ∨ tsTime.toDateTime = UtcTime.null := by
    rw [Bounded, not_and_or, Decidable.not_not, Decidable.not_not] at unbounded
    exact unbounded
  simp only [parseTimePeriod, specified, null, if_true]
  rfl

theorem parseTimePeriod_noDuration (specified : tsTime.toSpecified = true) (bounded : Bounded tsTime)
    (absent : tsTime.duration = "") :
    parseTimePeriod runtime tsTime = .ok ⟨tsTime.fromDateTime, tsTime.toDateTime⟩ := by
  simp only [parseTimePeriod, specified, bounded.1, bounded.2, or_self, absent, if_true, if_false]
  rfl

theorem parseTimePeriod_noEnd (notSpecified : tsTime.toSpecified = false) {duration : Int}
    (given : DurationOf runtime tsTime (some duration)) : parseTimePeriod runtime tsTime =
      .ok ⟨tsTime.fromDateTime, UtcTime.ofTicks (tsTime.fromDateTime.ticks + duration)⟩ := by
  obtain ⟨present, parsed, _, _⟩ := given
  simp only [parseTimePeriod, notSpecified, Bool.false_eq_true, if_false, present, parsed]
  rfl

theorem parseTimePeriod_both (specified : tsTime.toSpecified = true) (bounded : Bounded tsTime) {duration : Int}
    (given : DurationOf runtime tsTime (some duration)) : parseTimePeriod runtime tsTime =
      let back := long (tsTime.fromDateTime.ticks - tsTime.toDateTime.ticks)
      if back ≠ timeSpanMinValue then
        if duration = back then .ok ⟨tsTime.fromDateTime, tsTime.toDateTime⟩
        else .error (runtime.argumentMessage "Ambiguous time period" tsTime.duration)
      else .ok ⟨tsTime.fromDateTime, UtcTime.ofTicks (tsTime.fromDateTime.ticks + duration)⟩ := by
  obtain ⟨present, parsed, _, _⟩ := given
  simp only [parseTimePeriod, specified, bounded.1, bounded.2, or_self, present, parsed, if_true, if_false]
  rfl

theorem long_back {length : Int} (ordered : 0 ≤ length) (onAxis : length < 2 ^ 64) :
    long (-length) = if length ≤ 2 ^ 63 then -length else 2 ^ 64 - length := by
  rw [long, Int.bmod_def]
  split <;> split <;> omega

theorem decided_none_iff (given : DurationOf runtime tsTime none) :
    Decided runtime tsTime none ↔ Settled tsTime none := by
  constructor
  · intro decided specified
    by_contra unbounded
    have parsed := decided specified
    rw [parseTimePeriod_unbounded specified unbounded] at parsed
    cases parsed
  · intro settled specified
    exact parseTimePeriod_noDuration specified (settled specified) given

theorem decided_unbounded_iff (specified : tsTime.toSpecified = true) (unbounded : ¬Bounded tsTime) (duration : Int) :
    Decided runtime tsTime (some duration) ↔ Settled tsTime (some duration) := by
  have parsed := @parseTimePeriod_unbounded runtime tsTime specified unbounded
  simp only [Decided, Settled, specified, if_true, Refused, parsed, unbounded, false_and, false_implies, and_true,
    true_implies, or_true, reduceCtorEq]
  split
  · rename_i same
    exact ⟨False.elim, fun settled => settled same⟩
  · rename_i different
    exact ⟨fun _ same => different same, fun _ => trivial⟩

theorem decided_bounded_iff (ordered : tsTime.fromDateTime ≤ tsTime.toDateTime) (specified : tsTime.toSpecified = true)
    (bounded : Bounded tsTime) {duration : Int} (given : DurationOf runtime tsTime (some duration)) :
    Decided runtime tsTime (some duration) ↔ Settled tsTime (some duration) := by
  have lower := tsTime.fromDateTime.lower
  have upper := tsTime.toDateTime.upper
  have order : tsTime.fromDateTime.ticks ≤ tsTime.toDateTime.ticks := ordered
  have notNegative := given.2.2.1
  have small := given.2.2.2
  have parsed := parseTimePeriod_both specified bounded given
  have back := @long_back (tsTime.toDateTime.ticks - tsTime.fromDateTime.ticks) (by omega) (by omega)
  rw [Int.neg_sub] at back
  dsimp only at parsed
  generalize long (tsTime.fromDateTime.ticks - tsTime.toDateTime.ticks) = wayBack at back parsed
  simp only [Decided, Settled, specified, if_true, Refused, bounded, true_and, true_implies]
  generalize lengthEq : tsTime.toDateTime.ticks - tsTime.fromDateTime.ticks = length at back ⊢
  have notBefore : 0 ≤ length := by omega
  by_cases half : length = 2 ^ 63
  · -- the way back is the sentinel of a missing end
    have sentinel : wayBack = timeSpanMinValue := by
      rw [back, if_pos (by omega), timeSpanMinValue]
      omega
    rw [if_neg (not_not.mpr sentinel)] at parsed
    rw [if_neg (by omega), parsed]
    simp only [reduceCtorEq, or_self, half, ne_eq, not_true, false_and, and_false]
  · have counted : wayBack ≠ timeSpanMinValue := by
      rw [back, timeSpanMinValue]
      split <;> omega
    rw [if_pos counted] at parsed
    by_cases agrees : duration = wayBack
    · rw [if_pos agrees] at parsed
      rw [parsed]
      simp only [reduceCtorEq, or_self]
      split at back <;> split <;> simp only [true_iff, false_iff] <;> omega
    · rw [if_neg agrees] at parsed
      rw [parsed]
      simp only [reduceCtorEq, true_or]
      split at back <;> split <;> simp only [true_iff, false_iff] <;> omega

/-- A period is decided as its end and its duration say exactly when they do not both say
something, or disagree, or say that it is empty. -/
theorem parseTimePeriod_decided_iff {duration : Option Int}
    (ordered : tsTime.toSpecified = true → tsTime.fromDateTime ≤ tsTime.toDateTime)
    (given : DurationOf runtime tsTime duration) :
    Decided runtime tsTime duration ↔ Settled tsTime duration := by
  cases duration with
  | none => exact decided_none_iff given
  | some duration =>
      by_cases specified : tsTime.toSpecified = true
      · by_cases bounded : Bounded tsTime
        · exact decided_bounded_iff (ordered specified) specified bounded given
        · exact decided_unbounded_iff specified bounded duration
      · have notSpecified : tsTime.toSpecified = false := Bool.eq_false_iff.mpr specified
        have decided : Decided runtime tsTime (some duration) := by
          rw [Decided, if_neg specified]
          exact parseTimePeriod_noEnd notSpecified given
        exact ⟨fun _ given => absurd given specified, fun _ => decided⟩

end Period

def hourPeriod : TsTimePeriodType where
  fromDateTime := UtcTime.ofTicks 36000000000
  toDateTime := UtcTime.ofTicks 72000000000
  toSpecified := true
  duration := "PT1H"

theorem parseTimePeriod_hourByDuration :
    Decided sampleRuntime { hourPeriod with toSpecified := false } (some 36000000000) :=
  (@parseTimePeriod_decided_iff sampleRuntime { hourPeriod with toSpecified := false } (some 36000000000) (by decide)
    ⟨by decide, rfl, by decide, by decide⟩).mpr fun specified => absurd specified (by decide)

/-- The end of an hour and the duration of an hour are called ambiguous. -/
theorem parseTimePeriod_hourPeriod : ¬ ∀ (runtime : Runtime) (tsTime : TsTimePeriodType) (duration : Option Int),
    (tsTime.toSpecified = true → tsTime.fromDateTime ≤ tsTime.toDateTime) → DurationOf runtime tsTime duration →
      Decided runtime tsTime duration := by
  intro holds
  have decided := holds sampleRuntime hourPeriod (some 36000000000) (by decide) ⟨by decide, rfl, by decide, by decide⟩
  have parsed : parseTimePeriod sampleRuntime hourPeriod =
    .error (sampleRuntime.argumentMessage "Ambiguous time period" "PT1H") := by rfl
  have specified : hourPeriod.toSpecified = true := rfl
  have hour : hourPeriod.toDateTime.ticks - hourPeriod.fromDateTime.ticks = 36000000000 := by decide
  rw [Decided, if_pos specified, if_pos hour, parsed] at decided
  cases decided

end ServiceHost.TimeSeriesXml
