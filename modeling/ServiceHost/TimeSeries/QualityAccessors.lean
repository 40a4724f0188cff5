import ServiceHost.TimeSeries.QualityCore

/-!
What a setter of the quality changes, and what the getters read afterwards. Each pair of
a setter and a getter has a section; it is told by the words that the two work on.
-/

namespace ServiceHost.Quality

open Library BitVector32

inductive Accessor
  | correction
  | validation
  | custom
  | estimated
  | accepted
  | locked
  | suspect
  | missing
  | manual
  | corrected
  | validated
  | notOK
  | modified
  | default
  | virtualPoint
deriving DecidableEq, Repr

namespace Accessor

abbrev Value : Accessor → Type
  | .correction | .validation | .custom => BitVec 32
  | _ => Bool

def set : (accessor : Accessor) → Quality → accessor.Value → Quality
  | .correction => setCorrection
  | .validation => setValidation
  | .custom => setCustom
  | .estimated => setEstimated
  | .accepted => setAccepted
  | .locked => setLocked
  | .suspect => setSuspect
  | .missing => setMissing
  | .manual => setManual
  | .corrected => setCorrected
  | .validated => setValidated
  | .notOK => setNotOK
  | .modified => setModifiedTo
  | .default => setDefault
  | .virtualPoint => setVirtualPoint

def get : (accessor : Accessor) → Quality → accessor.Value
  | .correction => Quality.correction
  | .validation => Quality.validation
  | .custom => Quality.custom
  | .estimated => isEstimated
  | .accepted => isAccepted
  | .locked => isLocked
  | .suspect => isSuspect
  | .missing => isMissing
  | .manual => isManual
  | .corrected => isCorrected
  | .validated => isValidated
  | .notOK => isNotOK
  | .modified => isModifiedFlag
  | .default => isDefault
  | .virtualPoint => isVirtualPoint

def Covers : (accessor : Accessor) → accessor.Value → Prop
  | .correction, value | .validation, value | .custom, value => value < 32#32
  | .estimated, _ | .accepted, _ | .locked, _ | .suspect, _ | .missing, _ | .manual, _ | .corrected, _
  | .validated, _ | .notOK, _ | .modified, _ | .default, _ | .virtualPoint, _ => True

def toInt : (accessor : Accessor) → accessor.Value → BitVec 32
  | .correction, value | .validation, value | .custom, value => value
  | .estimated, value | .accepted, value | .locked, value | .suspect, value | .missing, value | .manual, value
  | .corrected, value | .validated, value | .notOK, value | .modified, value | .default, value
  | .virtualPoint, value => flagToInt value

def bits : Accessor → Section
  | .correction => correctionMethodSection
  | .validation => validationMethodSection
  | .custom => customerMethodSection
  | .estimated => estimatedSection
  | .accepted => acceptedSection
  | .locked => lockedSection
  | .suspect => suspectSection
  | .missing => missingSection
  | .manual => manualSection
  | .corrected => correctedSection
  | .validated => validatedSection
  | .notOK => notOKSection
  | .modified => modifiedSection
  | .default => defaultSection
  | .virtualPoint => virtualPointSection

def readsInternal : Accessor → Bool
  | .modified => true
  | _ => false

def writesInternal : Accessor → Bool
  | .modified | .default | .virtualPoint => true
  | _ => false

def crosses (accessor : Accessor) : Bool := accessor.readsInternal != accessor.writesInternal

def word (internal : Bool) (quality : Quality) : BitVec 32 :=
  if internal then quality.internalQuality else quality.exposedQuality

def setWord (internal : Bool) (quality : Quality) (bits : Section) (value : BitVec 32) : Quality :=
  if internal then quality.setInternalSection bits value else quality.setExposedSection bits value

variable (accessor other : Accessor) (quality : Quality)

theorem fits : FitsAt accessor.bits.mask accessor.bits.offset := by
  cases accessor <;> decide

theorem disjoint (different : other ≠ accessor) (sameWord : other.readsInternal = accessor.writesInternal) :
    Disjoint accessor.bits.mask accessor.bits.offset other.bits.mask other.bits.offset := by
  cases accessor <;> cases other <;> revert different sameWord <;> decide

theorem set_eq (value : accessor.Value) :
    accessor.set quality value = setWord accessor.writesInternal quality accessor.bits (accessor.toInt value) := by
  cases accessor <;> rfl

theorem toInt_injective {value value' : accessor.Value} (same : accessor.toInt value = accessor.toInt value') :
    value = value' := by
  have flags : ∀ flag flag' : Bool, flagToInt flag = flagToInt flag' → flag = flag' := by decide
  cases accessor <;> first | exact same | exact flags _ _ same

end Accessor

theorem flagToInt_get {bits : Section} (oneBit : bits.mask = 1) (data : BitVec 32) :
    flagToInt (BitVector32.get data bits ≠ 0) = BitVector32.get data bits := by
  have masked : BitVector32.get data bits &&& 1#32 = BitVector32.get data bits := by
    rw [← show bits.mask = 1#32 from oneBit]
    exact readField_and data
  generalize BitVector32.get data bits = value at masked
  have small : value.toNat % 2 = value.toNat := by
    have numbers := congrArg BitVec.toNat masked
    rwa [BitVec.toNat_and, show (1#32).toNat = 1 from rfl, Nat.and_one_is_mod] at numbers
  rcases Nat.mod_two_eq_zero_or_one value.toNat with zero | one
  · have none : value = 0#32 := BitVec.eq_of_toNat_eq (by rw [← small, zero]; rfl)
    rw [none]
    rfl
  · have single : value = 1#32 := BitVec.eq_of_toNat_eq (by rw [← small, one]; rfl)
    rw [single]
    rfl

namespace Accessor

variable (accessor other : Accessor) (quality : Quality)

theorem toInt_get : accessor.toInt (accessor.get quality) =
    BitVector32.get (word accessor.readsInternal quality) accessor.bits := by
  cases accessor <;> first | rfl | exact flagToInt_get (by decide) _

theorem toInt_and {value : accessor.Value} (covers : accessor.Covers value) :
    accessor.toInt value &&& accessor.bits.mask = accessor.toInt value := by
  have methods {method : BitVec 32} (small : method < 32#32) : method &&& 31#32 = method := by
    apply BitVec.eq_of_toNat_eq
    rw [BitVec.toNat_and]
    exact (Nat.and_two_pow_sub_one_eq_mod _ 5).trans (Nat.mod_eq_of_lt small)
  have flags : ∀ flag : Bool, flagToInt flag &&& 1#32 = flagToInt flag := by decide
  cases accessor <;> first | exact methods covers | exact flags value

theorem word_setWord (internal written : Bool) (bits : Section) (value : BitVec 32) :
    word internal (setWord written quality bits value) =
      if internal = written then BitVector32.set (word internal quality) bits value else word internal quality := by
  cases internal <;> cases written <;> rfl

theorem setWord_word (written : Bool) (bits : Section) :
    setWord written quality bits (BitVector32.get (word written quality) bits) = quality := by
  have unchanged (data : BitVec 32) : BitVector32.set data bits (BitVector32.get data bits) = data :=
    writeField_readField data
  cases written
  · exact congrArg (fun data => { quality with exposedQuality := data }) (unchanged quality.exposedQuality)
  · exact congrArg (fun data => { quality with internalQuality := data }) (unchanged quality.internalQuality)

theorem get_word_set {value : accessor.Value} (covers : accessor.Covers value) :
    BitVector32.get (word accessor.writesInternal (accessor.set quality value)) accessor.bits =
      accessor.toInt value := by
  rw [set_eq, word_setWord, if_pos rfl]
  exact readField_writeField accessor.fits (accessor.toInt_and covers) _

theorem get_set_other (different : other ≠ accessor) (value : accessor.Value) :
    other.get (accessor.set quality value) = other.get quality := by
  apply other.toInt_injective
  rw [toInt_get, toInt_get, set_eq, word_setWord]
  split
  · rename_i sameWord
    exact readField_writeField_of_disjoint (accessor.disjoint other different sameWord) _ _
  · rfl

structure LensLaws (value : accessor.Value) : Prop where
  getSet : accessor.get (accessor.set quality value) = value
  others : ∀ other ≠ accessor, other.get (accessor.set quality value) = other.get quality
  setGet : accessor.set quality (accessor.get quality) = quality

theorem lensLaws_of_sameWord (sameWord : accessor.readsInternal = accessor.writesInternal) {value : accessor.Value}
    (covers : accessor.Covers value) : accessor.LensLaws quality value := by
  constructor
  · apply accessor.toInt_injective
    rw [toInt_get, sameWord, get_word_set accessor quality covers]
  · intro other different
    exact get_set_other accessor other quality different value
  · rw [set_eq, toInt_get, sameWord, setWord_word]

theorem lensLaws_of_crossing (reads : accessor.readsInternal = false) (writes : accessor.writesInternal = true)
    {value : accessor.Value} (covers : accessor.Covers value) :
    accessor.LensLaws quality value ↔ accessor.get quality = value ∧
      BitVector32.get quality.internalQuality accessor.bits = BitVector32.get quality.exposedQuality accessor.bits := by
  have unseen (value : accessor.Value) : accessor.get (accessor.set quality value) = accessor.get quality := by
    apply accessor.toInt_injective
    rw [toInt_get, toInt_get, set_eq, word_setWord, reads, writes, if_neg Bool.false_ne_true]
  have read : accessor.toInt (accessor.get quality) = BitVector32.get quality.exposedQuality accessor.bits := by
    rw [toInt_get, reads]
    rfl
  constructor
  · intro laws
    have seen : accessor.get quality = value := (unseen value).symm.trans laws.getSet
    refine ⟨seen, ?_⟩
    have written := get_word_set accessor quality (seen ▸ covers : accessor.Covers (accessor.get quality))
    rw [laws.setGet, writes, read] at written
    exact written
  · rintro ⟨seen, agrees⟩
    refine ⟨(unseen value).trans seen, fun other different => get_set_other accessor other quality different value, ?_⟩
    rw [set_eq, read, ← agrees, writes]
    exact setWord_word quality true accessor.bits

/-- The laws hold of every pair but those of the flags `Default` and `VirtualPoint`, for which
they hold when there is nothing to set. -/
theorem lensLaws_iff {value : accessor.Value} (covers : accessor.Covers value) :
    accessor.LensLaws quality value ↔ (accessor = .default ∨ accessor = .virtualPoint →
      accessor.get quality = value ∧ quality.getInternalFlag accessor.bits = quality.getExposedFlag accessor.bits) := by
  by_cases crossing : accessor = .default ∨ accessor = .virtualPoint
  · have reads : accessor.readsInternal = false := by
      rcases crossing with rfl | rfl <;> rfl
    have writes : accessor.writesInternal = true := by
      rcases crossing with rfl | rfl <;> rfl
    have oneBit : accessor.bits.mask = 1 := by
      rcases crossing with rfl | rfl <;> decide
    have agrees : BitVector32.get quality.internalQuality accessor.bits =
          BitVector32.get quality.exposedQuality accessor.bits ↔
        quality.getInternalFlag accessor.bits = quality.getExposedFlag accessor.bits := by
      have flags : ∀ flag flag' : Bool, flagToInt flag = flagToInt flag' ↔ flag = flag' := by decide
      rw [← flags, getInternalFlag, getExposedFlag, flagToInt_get oneBit, flagToInt_get oneBit]
    rw [lensLaws_of_crossing accessor quality reads writes covers, agrees]
    exact ⟨fun holds _ => holds, fun holds => holds crossing⟩
  · constructor
    · intro _ chosen
      exact absurd chosen crossing
    · intro _
      refine lensLaws_of_sameWord accessor quality ?_ covers
      cases accessor <;> first | rfl | exact absurd (by simp) crossing

theorem lensLaws_estimated : Accessor.estimated.LensLaws (ofInt 7#32) true :=
  (@lensLaws_iff .estimated (ofInt 7#32) true trivial).mpr fun crossing => absurd crossing (by decide)

/-- The flag `Default` is still read as not set after it was set. -/
theorem lensLaws_default : ¬ ∀ (accessor : Accessor) (quality : Quality) (value : accessor.Value),
    accessor.Covers value → accessor.LensLaws quality value := by
  intro holds
  have laws := holds .default (ofInt 0#32) true trivial
  exact absurd laws.getSet (by decide)

end Accessor

end ServiceHost.Quality
