import Mathlib.Data.BitVec

/-!
Fields of a word: the bits under a mask that is shifted to an offset. What is written
to a field is read back from it, writing to one field leaves the others, and writing
what is read changes nothing.
-/

namespace ServiceHost.Library

section WordFields

variable {w : Nat}

def readField (mask : BitVec w) (offset : Nat) (word : BitVec w) : BitVec w :=
  (word &&& mask <<< offset) >>> offset

def writeField (mask : BitVec w) (offset : Nat) (word value : BitVec w) : BitVec w :=
  (word &&& ~~~(mask <<< offset)) ||| (value <<< offset &&& mask <<< offset)

def FitsAt (mask : BitVec w) (offset : Nat) : Prop := mask <<< offset >>> offset = mask

def Disjoint (mask : BitVec w) (offset : Nat) (mask' : BitVec w) (offset' : Nat) : Prop :=
  mask <<< offset &&& mask' <<< offset' = 0

instance (mask : BitVec w) (offset : Nat) : Decidable (FitsAt mask offset) :=
  inferInstanceAs (Decidable (_ = _))

instance (mask : BitVec w) (offset : Nat) (mask' : BitVec w) (offset' : Nat) :
    Decidable (Disjoint mask offset mask' offset') :=
  inferInstanceAs (Decidable (_ = _))

variable {mask mask' : BitVec w} {offset offset' : Nat}

theorem readField_getLsbD (word : BitVec w) (i : Nat) :
    (readField mask offset word).getLsbD i =
      (word.getLsbD (offset + i) && (decide (offset + i < w) && mask.getLsbD i)) := by
  have above : ¬offset + i < offset := by omega
  simp only [readField, BitVec.getLsbD_ushiftRight, BitVec.getLsbD_and, BitVec.getLsbD_shiftLeft,
    Nat.add_sub_cancel_left, above, decide_false, Bool.not_false, Bool.and_true]

theorem readField_and (word : BitVec w) : readField mask offset word &&& mask = readField mask offset word := by
  apply BitVec.eq_of_getLsbD_eq
  intro i inside
  rw [BitVec.getLsbD_and, readField_getLsbD]
  cases mask.getLsbD i <;> simp

theorem readField_le (word : BitVec w) : (readField mask offset word).toNat ≤ mask.toNat := by
  rw [← readField_and, BitVec.toNat_and]
  exact Nat.and_le_right

theorem readField_or (word word' : BitVec w) :
    readField mask offset (word ||| word') = readField mask offset word ||| readField mask offset word' := by
  apply BitVec.eq_of_getLsbD_eq
  intro i inside
  rw [BitVec.getLsbD_or, readField_getLsbD, readField_getLsbD, readField_getLsbD, BitVec.getLsbD_or, Bool.and_or_distrib_right]

theorem writeField_getLsbD (word value : BitVec w) (i : Nat) :
    (writeField mask offset word value).getLsbD i =
      if (mask <<< offset).getLsbD i then (value <<< offset).getLsbD i else word.getLsbD i := by
  simp only [writeField, BitVec.getLsbD_or, BitVec.getLsbD_and, BitVec.getLsbD_not]
  by_cases inside : i < w
  · cases (mask <<< offset).getLsbD i <;> simp [inside]
  · have outside : w ≤ i := by omega
    simp [BitVec.getLsbD_of_ge _ _ outside]

theorem FitsAt.lt (fits : FitsAt mask offset) {i : Nat} (inMask : mask.getLsbD i = true) : offset + i < w := by
  have same : (mask <<< offset >>> offset).getLsbD i = true := by rw [fits, inMask]
  rw [BitVec.getLsbD_ushiftRight, BitVec.getLsbD_shiftLeft] at same
  simp only [Bool.and_eq_true, decide_eq_true_eq] at same
  exact same.1.1

theorem readField_writeField_and (fits : FitsAt mask offset) (word value : BitVec w) :
    readField mask offset (writeField mask offset word value) = value &&& mask := by
  apply BitVec.eq_of_getLsbD_eq
  intro i inside
  rw [readField_getLsbD, writeField_getLsbD, BitVec.getLsbD_shiftLeft, BitVec.getLsbD_shiftLeft, BitVec.getLsbD_and]
  cases inMask : mask.getLsbD i with
  | false => simp
  | true =>
      have below := fits.lt inMask
      simp [below, inMask]

theorem readField_writeField (fits : FitsAt mask offset) {value : BitVec w} (covered : value &&& mask = value)
    (word : BitVec w) : readField mask offset (writeField mask offset word value) = value := by
  rw [readField_writeField_and fits, covered]

theorem readField_writeField_of_disjoint (disjoint : Disjoint mask offset mask' offset') (word value : BitVec w) :
    readField mask' offset' (writeField mask offset word value) = readField mask' offset' word := by
  apply BitVec.eq_of_getLsbD_eq
  intro i inside
  rw [readField_getLsbD, readField_getLsbD, writeField_getLsbD]
  have noCommon : (mask <<< offset &&& mask' <<< offset').getLsbD (offset' + i) = false := by
    rw [disjoint]
    exact BitVec.getLsbD_zero
  have other : (mask' <<< offset').getLsbD (offset' + i) = (decide (offset' + i < w) && mask'.getLsbD i) := by
    have above : ¬offset' + i < offset' := by omega
    simp only [BitVec.getLsbD_shiftLeft, Nat.add_sub_cancel_left, above, decide_false, Bool.not_false, Bool.and_true]
  rw [BitVec.getLsbD_and, other] at noCommon
  cases inMask : mask'.getLsbD i with
  | false => simp
  | true =>
      by_cases below : offset' + i < w
      · simp only [below, inMask, decide_true, Bool.and_true] at noCommon
        simp [noCommon]
      · simp [below]

theorem writeField_readField (word : BitVec w) :
    writeField mask offset word (readField mask offset word) = word := by
  apply BitVec.eq_of_getLsbD_eq
  intro i inside
  rw [writeField_getLsbD]
  split
  · rename_i inField
    rw [BitVec.getLsbD_shiftLeft] at inField ⊢
    simp only [Bool.and_eq_true, decide_eq_true_eq, Bool.not_eq_true', decide_eq_false_iff_not] at inField
    rw [readField_getLsbD, inField.2, Nat.add_sub_cancel' (by omega : offset ≤ i)]
    simp [inside, inField.1.2]
  · rfl

end WordFields

end ServiceHost.Library
