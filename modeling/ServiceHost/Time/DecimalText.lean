import Mathlib.Tactic.IntervalCases
import ServiceHost.Time.ConfiguredCalendarCore

/-!
Numbers as decimal digits, padded with zeros to a width. What is written reads back as the
number, and the text of a number that fits its width has that width.
-/

namespace ServiceHost.Text

open RegionalCalendar

def zero : UInt16 := 48

def decimal (value : Nat) : CodeUnits := (Nat.toDigits 10 value).map fun c => char c.toNat

def padLeft (width : Nat) (padding : UInt16) (text : CodeUnits) : CodeUnits := text.leftpad width padding

def int32Text (value : Int) : CodeUnits :=
  if value < 0 then minus :: decimal value.natAbs else decimal value.natAbs

def zeroPadded (width : Nat) (value : Int) : CodeUnits :=
  if value < 0 then minus :: padLeft width zero (decimal value.natAbs) else padLeft width zero (decimal value.natAbs)

theorem digitUnit {value : Int} (lower : 0 ≤ value) (upper : value < 10) :
    isAsciiDigit (char (48 + value)) = true ∧ (char (48 + value)).toNat = 48 + value.toNat := by
  have cases : value = 0 ∨ value = 1 ∨ value = 2 ∨ value = 3 ∨ value = 4 ∨ value = 5 ∨ value = 6 ∨ value = 7 ∨
      value = 8 ∨ value = 9 := by omega
  rcases cases with rfl | rfl | rfl | rfl | rfl | rfl | rfl | rfl | rfl | rfl <;> decide

theorem digitChar_unit {digit : Nat} (small : digit < 10) : char digit.digitChar.toNat = char (48 + digit) := by
  interval_cases digit <;> rfl

theorem decimal_eq (value : Nat) :
    decimal value = (if value < 10 then [] else decimal (value / 10)) ++ [char (48 + (value % 10 : Nat))] := by
  unfold decimal
  rw [Nat.toDigits_eq_if (by decide)]
  split
  · rename_i small
    rw [Nat.mod_eq_of_lt small]
    exact congrArg (fun unit => [unit]) (digitChar_unit small)
  · rw [List.map_append, List.map_singleton, digitChar_unit (Nat.mod_lt _ (by decide))]

theorem isAsciiDigit_decimal (value : Nat) : (decimal value).all isAsciiDigit = true := by
  induction value using Nat.strongRecOn with
  | ind value ih =>
    have last := (digitUnit (show 0 ≤ ((value % 10 : Nat) : Int) by omega) (by omega)).1
    rw [decimal_eq, List.all_append, List.all_cons, List.all_nil, last]
    split
    · rfl
    · rw [ih (value / 10) (by omega)]
      rfl

theorem numeral_append (digits more : CodeUnits) :
    numeral (digits ++ more) = more.foldl (fun value c => 10 * value + (c.toNat - 48)) (numeral digits) :=
  List.foldl_append

@[simp] theorem numeral_decimal (value : Nat) : numeral (decimal value) = value := by
  induction value using Nat.strongRecOn with
  | ind value ih =>
    have last := (digitUnit (show 0 ≤ ((value % 10 : Nat) : Int) by omega) (by omega)).2
    rw [decimal_eq, numeral_append, List.foldl_cons, List.foldl_nil, last]
    split
    · have none : numeral [] = 0 := rfl
      rw [none]
      omega
    · rw [ih (value / 10) (by omega)]
      omega

theorem decimal_injective {value other : Nat} (same : decimal value = decimal other) : value = other := by
  rw [← numeral_decimal value, same, numeral_decimal]

theorem length_decimal_le {value width : Nat} (positive : 0 < width) (small : value < 10 ^ width) :
    (decimal value).length ≤ width := by
  rw [decimal, List.length_map]
  exact (Nat.length_toDigits_le_iff (by decide) positive).mpr small

section Padding

variable {width value : Nat}

@[simp] theorem numeral_padLeft (width : Nat) (digits : CodeUnits) :
    numeral (padLeft width zero digits) = numeral digits := by
  have zeros : ∀ count, numeral (List.replicate count zero) = 0 := by
    intro count
    induction count with
    | zero => rfl
    | succ count ih =>
      rw [List.replicate_succ', numeral_append, ih]
      rfl
  rw [padLeft, List.leftpad, numeral_append, zeros]
  rfl

theorem isAsciiDigit_padLeft (width : Nat) {digits : CodeUnits} (all : digits.all isAsciiDigit = true) :
    (padLeft width zero digits).all isAsciiDigit = true := by
  rw [padLeft, List.leftpad, List.all_append, all, Bool.and_true, List.all_eq_true]
  intro c member
  rw [List.eq_of_mem_replicate member]
  rfl

theorem length_padLeft (width : Nat) (padding : UInt16) (text : CodeUnits) :
    (padLeft width padding text).length = max width text.length := List.length_leftpad

theorem padLeft_of_le (padding : UInt16) {text : CodeUnits} (long : width ≤ text.length) :
    padLeft width padding text = text := by
  rw [padLeft, List.leftpad, Nat.sub_eq_zero_of_le long, List.replicate_zero, List.nil_append]

theorem le_length_zeroPadded (width : Nat) (value : Int) : width ≤ (zeroPadded width value).length := by
  unfold zeroPadded
  split
  · rw [List.length_cons, length_padLeft]
    omega
  · rw [length_padLeft]
    omega

theorem zeroPadded_natCast (width value : Nat) : zeroPadded width value = padLeft width zero (decimal value) := by
  rw [zeroPadded, if_neg (by omega), Int.natAbs_natCast]

theorem length_zeroPadded (positive : 0 < width) (small : value < 10 ^ width) :
    (zeroPadded width value).length = width := by
  rw [zeroPadded_natCast, length_padLeft, Nat.max_eq_left (length_decimal_le positive small)]

theorem isAsciiDigit_zeroPadded (width value : Nat) : (zeroPadded width value).all isAsciiDigit = true := by
  rw [zeroPadded_natCast]
  exact isAsciiDigit_padLeft width (isAsciiDigit_decimal value)

theorem numeral_zeroPadded (width value : Nat) : numeral (zeroPadded width value) = value := by
  rw [zeroPadded_natCast, numeral_padLeft, numeral_decimal]

end Padding

end ServiceHost.Text
