import Mathlib.Init

/-!
Texts as 16 bit units. What is no half of a pair stands for itself, and a half that has
lost the other one is replaced when units are read as characters.
-/

namespace ServiceHost.Library.Utf16

def encodeChar (c : Char) : List UInt16 :=
  if c.toNat < 0x10000 then [UInt16.ofNat c.toNat]
  else
    [UInt16.ofNat (0xD800 + (c.toNat - 0x10000) / 0x400), UInt16.ofNat (0xDC00 + (c.toNat - 0x10000) % 0x400)]

def encode (text : List Char) : List UInt16 := text.flatMap encodeChar

def isHigh (unit : UInt16) : Bool := 0xD800 ≤ unit.toNat ∧ unit.toNat < 0xDC00

def isLow (unit : UInt16) : Bool := 0xDC00 ≤ unit.toNat ∧ unit.toNat < 0xE000

def decodeSingle (unit : UInt16) : Char :=
  if isHigh unit ∨ isLow unit then '\uFFFD' else Char.ofNat unit.toNat

def decodePair (high low : UInt16) : Char :=
  Char.ofNat (0x10000 + (high.toNat - 0xD800) * 0x400 + (low.toNat - 0xDC00))

def decode : List UInt16 → List Char
  | [] => []
  | [unit] => [decodeSingle unit]
  | unit :: next :: rest =>
      if isHigh unit ∧ isLow next then decodePair unit next :: decode rest
      else decodeSingle unit :: decode (next :: rest)

theorem decode_single {unit : UInt16} (notHigh : isHigh unit = false) (rest : List UInt16) :
    decode (unit :: rest) = decodeSingle unit :: decode rest := by
  cases rest with
  | nil => rfl
  | cons next rest => simp [decode, notHigh]

theorem decode_pair {high low : UInt16} (isHigh : isHigh high = true) (isLow : isLow low = true)
    (rest : List UInt16) : decode (high :: low :: rest) = decodePair high low :: decode rest := by
  simp [decode, isHigh, isLow]

theorem decode_encodeChar (c : Char) (rest : List UInt16) :
    decode (encodeChar c ++ rest) = c :: decode rest := by
  have valid : c.toNat < 0xD800 ∨ 0xDFFF < c.toNat ∧ c.toNat < 0x110000 := c.valid
  unfold encodeChar
  by_cases basic : c.toNat < 0x10000
  · have same : (UInt16.ofNat c.toNat).toNat = c.toNat := by
      rw [UInt16.toNat_ofNat']
      omega
    have notHigh : isHigh (UInt16.ofNat c.toNat) = false := by
      simp only [isHigh, same, decide_eq_false_iff_not]
      omega
    have notLow : isLow (UInt16.ofNat c.toNat) = false := by
      simp only [isLow, same, decide_eq_false_iff_not]
      omega
    simp only [basic, ↓reduceIte, List.singleton_append]
    rw [decode_single notHigh]
    simp [decodeSingle, notHigh, notLow, same]
  · have high : (UInt16.ofNat (0xD800 + (c.toNat - 0x10000) / 0x400)).toNat =
        0xD800 + (c.toNat - 0x10000) / 0x400 := by
      rw [UInt16.toNat_ofNat']
      omega
    have low : (UInt16.ofNat (0xDC00 + (c.toNat - 0x10000) % 0x400)).toNat =
        0xDC00 + (c.toNat - 0x10000) % 0x400 := by
      rw [UInt16.toNat_ofNat']
      omega
    simp only [basic, ↓reduceIte, List.cons_append, List.nil_append]
    rw [decode_pair]
    · have number : 0x10000 + (0xD800 + (c.toNat - 0x10000) / 0x400 - 0xD800) * 0x400 +
          (0xDC00 + (c.toNat - 0x10000) % 0x400 - 0xDC00) = c.toNat := by omega
      simp only [decodePair, high, low, number, Char.ofNat_toNat]
    · simp only [isHigh, high, decide_eq_true_eq]
      omega
    · simp only [isLow, low, decide_eq_true_eq]
      omega

theorem decode_encode (text : List Char) (rest : List UInt16) :
    decode (encode text ++ rest) = text ++ decode rest := by
  induction text with
  | nil => rfl
  | cons c text ih =>
      have split : encode (c :: text) ++ rest = encodeChar c ++ (encode text ++ rest) := by simp [encode]
      rw [split, decode_encodeChar, ih, List.cons_append]

theorem encodeChar_length (c : Char) : (encodeChar c).length = if c.toNat < 0x10000 then 1 else 2 := by
  unfold encodeChar
  split <;> rfl

theorem encode_append (first second : List Char) : encode (first ++ second) = encode first ++ encode second :=
  List.flatMap_append

theorem encode_injective {first second : List Char} (same : encode first = encode second) : first = second := by
  have decoded := congrArg decode same
  have firstText := decode_encode first []
  have secondText := decode_encode second []
  simp only [List.append_nil] at firstText secondText
  rw [firstText, secondText] at decoded
  simpa [decode] using decoded

end ServiceHost.Library.Utf16
