import ServiceHost.TimeSeries.QualityAccessors

/-!
The columns of the status string. What it displays of a quality word is read back from
its columns, unless a custom method is inserted and shifts those behind it.
-/

namespace ServiceHost.Quality

open Library BitVector32

inductive Origin
  | manual
  | estimated
  | neither
deriving DecidableEq, Repr

structure Displayed where
  notOK : Bool
  accepted : Bool
  suspect : Bool
  missing : Bool
  locked : Bool
  origin : Origin
  validation : Option Nat
  correction : Option Nat
  custom : Option Nat
  isDefault : Bool
  virtualPoint : Bool
deriving DecidableEq, Repr

def displayed (quality : Quality) : Displayed where
  notOK := quality.isNotOK
  accepted := quality.isAccepted
  suspect := quality.isSuspect
  missing := quality.isMissing
  locked := quality.isLocked
  origin := if quality.isManual then .manual else if quality.isEstimated then .estimated else .neither
  validation := if quality.isValidated then some quality.validation.toNat else none
  correction := if quality.isCorrected then some quality.correction.toNat else none
  custom := if quality.custom = 0 then none else some quality.custom.toNat
  isDefault := quality.isDefault
  virtualPoint := quality.isVirtualPoint

def flagColumn (letter : Char) (flag : Bool) : Char := if flag then letter else '.'

def originColumn : Origin → Char
  | .manual => 'M'
  | .estimated => 'm'
  | .neither => '.'

def methodColumns (letter : Char) : Option Nat → List Char
  | some method => [letter, Nat.digitChar (method / 10), Nat.digitChar (method % 10)]
  | none => ['.', '.', '.']

def columns (fields : Displayed) : List Char :=
  [flagColumn '!' fields.notOK, flagColumn 'A' fields.accepted, flagColumn 'S' fields.suspect,
    flagColumn 'X' fields.missing, flagColumn 'L' fields.locked, originColumn fields.origin] ++
  methodColumns 'V' fields.validation ++ methodColumns 'C' fields.correction ++ methodColumns 'E' fields.custom ++
  [flagColumn 'D' fields.isDefault, flagColumn '~' fields.virtualPoint]

def readMethod (letter : Char) (text : List Char) : Option Nat :=
  match text with
  | [first, tens, units] => if first = letter then some ((tens.toNat - 48) * 10 + (units.toNat - 48)) else none
  | _ => none

def readBack (text : List Char) : Displayed where
  notOK := text[0]? = some '!'
  accepted := text[1]? = some 'A'
  suspect := text[2]? = some 'S'
  missing := text[3]? = some 'X'
  locked := text[4]? = some 'L'
  origin := if text[5]? = some 'M' then .manual else if text[5]? = some 'm' then .estimated else .neither
  validation := readMethod 'V' ((text.drop 6).take 3)
  correction := readMethod 'C' ((text.drop 9).take 3)
  custom := readMethod 'E' ((text.drop 12).take 3)
  isDefault := text[15]? = some 'D'
  virtualPoint := text[16]? = some '~'

section Editing

variable (condition : Bool) (c d : Char) (index length : Nat) (value text : List Char)

theorem removeAt_succ : removeAt (index + 1) length (c :: text) = c :: removeAt index length text := by
  rw [removeAt, removeAt, Nat.add_right_comm]
  rfl

theorem insertAt_succ : insertAt (index + 1) value (c :: text) = c :: insertAt index value text := rfl

theorem replaceWhen_succ :
    replaceWhen condition (index + 1) length value (c :: text) = c :: replaceWhen condition index length value text := by
  cases condition
  · rfl
  · rw [replaceWhen, replaceWhen, if_pos rfl, if_pos rfl, removeAt_succ, insertAt_succ]

theorem replaceWhen_one : replaceWhen condition 0 1 [d] (c :: text) = (if condition then d else c) :: text := by
  cases condition <;> rfl

theorem replaceWhen_two (c' d' : Char) : replaceWhen condition 0 2 [d, d'] (c :: c' :: text) =
    (if condition then d else c) :: (if condition then d' else c') :: text := by
  cases condition <;> rfl

theorem insertAt_zero : insertAt 0 value text = value ++ text := rfl

end Editing

theorem toStringD2_eq {method : BitVec 32} (small : method.toNat ≤ 31) :
    toStringD2 method = [Nat.digitChar (method.toNat / 10), Nat.digitChar (method.toNat % 10)] := by
  have digits : ∀ number : Fin 32, toStringD2 (BitVec.ofNat 32 number) =
      [Nat.digitChar (number / 10), Nat.digitChar (number % 10)] := by decide
  have this := digits ⟨method.toNat, by omega⟩
  rwa [BitVec.ofNat_toNat, BitVec.setWidth_eq] at this

theorem shows_eq (quality : Quality) {bits : Section} (small : bits.mask.toNat ≤ 31) :
    quality.shows bits = quality.getExposedFlag bits := by
  have bound : (BitVector32.get quality.exposedQuality bits).toNat ≤ 31 :=
    Nat.le_trans (readField_le quality.exposedQuality) small
  rw [shows, getExposedFlag, decide_eq_decide]
  generalize BitVector32.get quality.exposedQuality bits = value at bound
  have number : value.toInt = value.toNat := by
    rw [BitVec.toInt_eq_toNat_cond, if_pos (by omega)]
  rw [number, Ne, ← BitVec.toNat_inj]
  show 0 < (value.toNat : Int) ↔ ¬value.toNat = 0
  omega

theorem replaceWhen_both (condition : Bool) (index index' : Nat) (letter method text : List Char) :
    (if condition then replaceWhen true index' 2 method (replaceWhen true index 1 letter text) else text) =
      replaceWhen condition index' 2 method (replaceWhen condition index 1 letter text) := by
  cases condition <;> rfl

theorem replaceWhen_either (manual estimated : Bool) (index : Nat) (letter letter' : Char) (text : List Char) :
    (if manual then replaceWhen true index 1 [letter] text else replaceWhen estimated index 1 [letter'] text) =
      replaceWhen (manual || estimated) index 1 [if manual then letter else letter'] text := by
  cases manual <;> rfl

theorem getStatusString_eq (quality : Quality) :
    quality.getStatusString = columns quality.displayed ++ (if quality.custom = 0 then [] else ['.', '.']) := by
  have notOK : quality.shows notOKSection = quality.isNotOK := quality.shows_eq (by decide)
  have accepted : quality.shows acceptedSection = quality.isAccepted := quality.shows_eq (by decide)
  have suspect : quality.shows suspectSection = quality.isSuspect := quality.shows_eq (by decide)
  have missing : quality.shows missingSection = quality.isMissing := quality.shows_eq (by decide)
  have locked : quality.shows lockedSection = quality.isLocked := quality.shows_eq (by decide)
  have manual : quality.shows manualSection = quality.isManual := quality.shows_eq (by decide)
  have estimated : quality.shows estimatedSection = quality.isEstimated := quality.shows_eq (by decide)
  have validated : quality.shows validatedSection = quality.isValidated := quality.shows_eq (by decide)
  have corrected : quality.shows correctedSection = quality.isCorrected := quality.shows_eq (by decide)
  have isDefault : quality.shows defaultSection = quality.isDefault := quality.shows_eq (by decide)
  have virtualPoint : quality.shows virtualPointSection = quality.isVirtualPoint := quality.shows_eq (by decide)
  have customer : quality.shows customerMethodSection = decide (quality.custom ≠ 0) := quality.shows_eq (by decide)
  have validation : toStringD2 (BitVector32.get quality.exposedQuality validationMethodSection) =
      [Nat.digitChar (quality.validation.toNat / 10), Nat.digitChar (quality.validation.toNat % 10)] :=
    toStringD2_eq (readField_le quality.exposedQuality)
  have correction : toStringD2 (BitVector32.get quality.exposedQuality correctionMethodSection) =
      [Nat.digitChar (quality.correction.toNat / 10), Nat.digitChar (quality.correction.toNat % 10)] :=
    toStringD2_eq (readField_le quality.exposedQuality)
  have custom : toStringD2 (BitVector32.get quality.exposedQuality customerMethodSection) =
      [Nat.digitChar (quality.custom.toNat / 10), Nat.digitChar (quality.custom.toNat % 10)] :=
    toStringD2_eq (readField_le quality.exposedQuality)
  have start : List.replicate 17 '.' =
    ['.', '.', '.', '.', '.', '.', '.', '.', '.', '.', '.', '.', '.', '.', '.', '.', '.'] := rfl
  rw [getStatusString]
  simp only [notOK, accepted, suspect, missing, locked, manual, estimated, validated, corrected, isDefault, virtualPoint,
    customer, validation, correction, custom, replaceWhen_both, replaceWhen_either]
  simp only [start, replaceWhen_succ, replaceWhen_one, replaceWhen_two]
  by_cases none : quality.custom = 0
  · simp only [none, ne_eq, not_true, decide_false, Bool.false_eq_true, if_false, if_true, replaceWhen_succ,
      replaceWhen_one]
    simp only [columns, displayed, none, if_true, List.append_nil]
    cases quality.isManual <;> cases quality.isValidated <;> cases quality.isCorrected <;>
      cases quality.isEstimated <;> rfl
  · simp only [none, ne_eq, not_false_eq_true, decide_true, if_true, if_false, insertAt_succ, insertAt_zero,
      replaceWhen_succ, replaceWhen_one, List.cons_append, List.nil_append]
    simp only [columns, displayed, none, if_false]
    cases quality.isManual <;> cases quality.isValidated <;> cases quality.isCorrected <;>
      cases quality.isEstimated <;> rfl

structure Displayed.InRange (fields : Displayed) : Prop where
  validation : ∀ method ∈ fields.validation, method ≤ 31
  correction : ∀ method ∈ fields.correction, method ≤ 31
  custom : ∀ method ∈ fields.custom, method ≤ 31

theorem displayed_inRange (quality : Quality) : quality.displayed.InRange := by
  constructor
  · intro method shown
    simp only [displayed, Option.mem_def, Option.ite_none_right_eq_some, Option.some.injEq] at shown
    rw [← shown.2]
    exact readField_le quality.exposedQuality
  · intro method shown
    simp only [displayed, Option.mem_def, Option.ite_none_right_eq_some, Option.some.injEq] at shown
    rw [← shown.2]
    exact readField_le quality.exposedQuality
  · intro method shown
    simp only [displayed, Option.mem_def, Option.ite_none_left_eq_some, Option.some.injEq] at shown
    rw [← shown.2]
    exact readField_le quality.exposedQuality

theorem methodColumns_length (letter : Char) (method : Option Nat) : (methodColumns letter method).length = 3 := by
  cases method <;> rfl

theorem readMethod_columns {letter : Char} (visible : letter ≠ '.') {method : Option Nat}
    (inRange : ∀ number ∈ method, number ≤ 31) : readMethod letter (methodColumns letter method) = method := by
  cases method with
  | none => exact if_neg fun same => visible same.symm
  | some number =>
      have digits : ∀ number : Fin 32, ((Nat.digitChar (number / 10)).toNat - 48) * 10 +
          ((Nat.digitChar (number % 10)).toNat - 48) = number := by decide
      have small : number ≤ 31 := inRange number rfl
      exact (if_pos rfl).trans (congrArg some (digits ⟨number, by omega⟩))

theorem methodColumns_eq (letter : Char) (method : Option Nat) :
    ∃ first second third, methodColumns letter method = [first, second, third] :=
  List.length_eq_three.mp (methodColumns_length letter method)

theorem flagColumn_eq {letter : Char} (visible : letter ≠ '.') (flag : Bool) :
    decide (flagColumn letter flag = letter) = flag := by
  cases flag
  · exact decide_eq_false fun same => visible same.symm
  · exact decide_eq_true rfl

theorem readBack_columns {fields : Displayed} (inRange : fields.InRange) (rest : List Char) :
    readBack (columns fields ++ rest) = fields := by
  have validation := @readMethod_columns 'V' (by decide) fields.validation inRange.validation
  have correction := @readMethod_columns 'C' (by decide) fields.correction inRange.correction
  have custom := @readMethod_columns 'E' (by decide) fields.custom inRange.custom
  obtain ⟨v, v', v'', validationColumns⟩ := methodColumns_eq 'V' fields.validation
  obtain ⟨c, c', c'', correctionColumns⟩ := methodColumns_eq 'C' fields.correction
  obtain ⟨e, e', e'', customColumns⟩ := methodColumns_eq 'E' fields.custom
  have origin : (if originColumn fields.origin = 'M' then Origin.manual
      else if originColumn fields.origin = 'm' then .estimated else .neither) = fields.origin := by
    cases fields.origin <;> rfl
  rw [validationColumns] at validation
  rw [correctionColumns] at correction
  rw [customColumns] at custom
  rw [columns, validationColumns, correctionColumns, customColumns]
  simp only [readBack, List.cons_append, List.nil_append, List.getElem?_cons_zero, List.getElem?_cons_succ,
    List.drop_succ_cons, List.drop_zero, List.take_succ_cons, List.take_zero, Option.some.injEq,
    validation, correction, custom, origin, @flagColumn_eq '!' (by decide), @flagColumn_eq 'A' (by decide),
    @flagColumn_eq 'S' (by decide), @flagColumn_eq 'X' (by decide), @flagColumn_eq 'L' (by decide),
    @flagColumn_eq 'D' (by decide), @flagColumn_eq '~' (by decide)]

theorem columns_length (fields : Displayed) : (columns fields).length = 17 := by
  simp only [columns, List.length_append, methodColumns_length]
  rfl

theorem readBack_getStatusString (quality : Quality) : readBack quality.getStatusString = quality.displayed := by
  rw [getStatusString_eq]
  exact readBack_columns quality.displayed_inRange _

theorem displayed_custom (quality : Quality) : quality.displayed.custom = none ↔ quality.custom = 0 := by
  simp only [displayed, ite_eq_left_iff, reduceCtorEq, imp_false, Decidable.not_not]

theorem getStatusString_inj (quality other : Quality) :
    other.getStatusString = quality.getStatusString ↔ other.displayed = quality.displayed := by
  constructor
  · intro same
    rw [← readBack_getStatusString, same, readBack_getStatusString]
  · intro same
    have custom : other.custom = 0 ↔ quality.custom = 0 := by
      rw [← displayed_custom, same, displayed_custom]
    simp only [getStatusString_eq, same, custom]

structure FixedColumns (quality : Quality) : Prop where
  length : quality.getStatusString.length = 17
  columns : ∀ index < 17, quality.getStatusString[index]? = (Quality.columns quality.displayed)[index]?
  fields : readBack quality.getStatusString = quality.displayed
  same : ∀ other : Quality, other.getStatusString = quality.getStatusString ↔ other.displayed = quality.displayed

/-- The columns are fixed exactly without a custom method. -/
theorem fixedColumns_iff (quality : Quality) : quality.FixedColumns ↔ quality.custom = 0 := by
  constructor
  · intro fixed
    by_contra shown
    have length := fixed.length
    rw [getStatusString_eq, if_neg shown, List.length_append, columns_length] at length
    exact absurd length (by decide)
  · intro none
    have text : quality.getStatusString = Quality.columns quality.displayed := by
      rw [getStatusString_eq, if_pos none, List.append_nil]
    refine ⟨?_, ?_, readBack_getStatusString quality, getStatusString_inj quality⟩
    · rw [text, columns_length]
    · intro index _
      rw [text]

/-- The custom method 1 makes a string of nineteen characters. -/
theorem fixedColumns_custom : ¬ ∀ quality : Quality, quality.FixedColumns := by
  intro holds
  exact absurd (holds (ofInt 0x400#32)).length (by decide)

end ServiceHost.Quality
