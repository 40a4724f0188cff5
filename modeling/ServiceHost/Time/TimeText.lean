import Mathlib.Algebra.Group.Nat.Defs
import ServiceHost.Library.Loops
import ServiceHost.Time.ConfiguredCalendar
import ServiceHost.Time.TimeTextCore

/-!
A keyword with terms behind it is evaluated term by term, but for the signs of clock readings:
the loop is a fold over the terms, and is compared with the fold that the terms mean.
-/

namespace ServiceHost

open Library Text RegionalCalendar

structure DigitText where
  text : CodeUnits
  some : text ≠ []
  digits : text.all isAsciiDigit = true

structure TwoDigits extends DigitText where
  two : text.length = 2

inductive TermUnit
  | year
  | month
  | day
  | week
  | minute
  | hour
deriving DecidableEq, Repr

inductive TermAmount
  | clock (hours minutes : TwoDigits) (seconds : Option TwoDigits)
  | units (number : DigitText) (unit : TermUnit)

inductive TermSign
  | plus
  | minus
deriving DecidableEq, Repr

structure MacroTerm where
  sign : TermSign
  amount : TermAmount

structure MacroKeyword (classes : MacroClasses) where
  text : CodeUnits
  known : text.map asciiUpper = hydYear ∨ text.map classes.toUpper ∈ timeSpanDict.map Prod.fst

namespace DigitText

variable (number : DigitText)

def value : Nat := numeral number.text

theorem notMem {c : UInt16} (other : isAsciiDigit c = false) : c ∉ number.text := notMem_of_ascii number.digits other

theorem ne_colon : ∀ c ∈ number.text, (c == colon) = false := by
  intro c member
  rw [beq_eq_false_iff_ne]
  rintro rfl
  exact number.notMem (by decide) member

theorem splitOn_whole : number.text.splitOn colon = [number.text] := by
  rw [List.splitOn_eq_splitOnP, List.splitOnP_eq_singleton number.ne_colon]

theorem splitOn_colon (rest : CodeUnits) :
    (number.text ++ colon :: rest).splitOn colon = number.text :: rest.splitOn colon := by
  rw [List.splitOn_eq_splitOnP, List.splitOnP_append_cons_of_forall_mem number.ne_colon colon (beq_self_eq_true colon),
    List.splitOn_eq_splitOnP]

theorem parseInt32_text : parseInt32 number.text =
    if 2 ^ 31 ≤ number.value then .error .overflow else .ok (number.value : Int) := by
  have parsed : ¬(number.text = [] ∨ ¬number.text.all isAsciiDigit = true) := by
    rw [not_or, not_not]
    exact ⟨number.some, number.digits⟩
  rw [parseInt32_ascii number.some number.digits, parseDigits, if_neg parsed, value]
  simp only [Bool.false_eq_true, if_false, throw_eq_error, pure_eq_ok]
  split <;> split
  · rfl
  · omega
  · omega
  · rfl

end DigitText

namespace TwoDigits

variable (field : TwoDigits)

theorem value_lt : field.value < 100 := by
  obtain ⟨⟨text, _, digits⟩, two⟩ := field
  obtain ⟨tens, ones, rfl⟩ := List.length_eq_two.mp two
  have tensDigit := List.all_eq_true.mp digits tens List.mem_cons_self
  have onesDigit := List.all_eq_true.mp digits ones (List.mem_cons_of_mem tens List.mem_cons_self)
  simp only [isAsciiDigit, decide_eq_true_eq] at tensDigit onesDigit
  simp only [DigitText.value, numeral, List.foldl_cons, List.foldl_nil]
  omega

theorem tryParseInt32_text : tryParseInt32 field.text = field.value := by
  have small := field.value_lt
  rw [tryParseInt32, field.parseInt32_text, if_neg (by omega)]

end TwoDigits

namespace TermUnit

def letter : TermUnit → UInt16
  | .year => char 121
  | .month => char 109
  | .day => char 100
  | .week => char 119
  | .minute => char 120
  | .hour => char 104

def step : TermUnit → Int
  | .year => Utc.year
  | .month => Utc.month
  | .day => Utc.day
  | .week => Utc.week
  | .minute => Utc.minute
  | .hour => Utc.hour

theorem unitStep_letter (unit : TermUnit) : unitStep unit.letter = unit.step := by
  cases unit <;> decide

theorem letter_bounds (unit : TermUnit) : 97 ≤ unit.letter.toNat ∧ unit.letter.toNat < 123 := by
  cases unit <;> decide

end TermUnit

namespace TermAmount

def text : TermAmount → CodeUnits
  | .clock hours minutes none => hours.text ++ colon :: minutes.text
  | .clock hours minutes (some seconds) => hours.text ++ colon :: (minutes.text ++ colon :: seconds.text)
  | .units number unit => number.text ++ [unit.letter]

theorem notMem_text (amount : TermAmount) {c : UInt16} (digit : isAsciiDigit c = false) (notColon : c ≠ colon)
    (notLetter : ¬(97 ≤ c.toNat ∧ c.toNat < 123)) : c ∉ amount.text := by
  cases amount with
  | clock hours minutes seconds =>
      cases seconds with
      | none =>
          simp only [text, List.mem_append, List.mem_cons, not_or]
          exact ⟨hours.notMem digit, notColon, minutes.notMem digit⟩
      | some seconds =>
          simp only [text, List.mem_append, List.mem_cons, not_or]
          exact ⟨hours.notMem digit, notColon, minutes.notMem digit, notColon, seconds.notMem digit⟩
  | units number unit =>
      simp only [text, List.mem_append, List.mem_singleton, not_or]
      refine ⟨number.notMem digit, ?_⟩
      rintro rfl
      exact notLetter unit.letter_bounds

theorem isSign_text (amount : TermAmount) : ∀ c ∈ amount.text, isSign c = false := by
  intro c member
  by_contra signed
  rw [Bool.not_eq_false, isSign, decide_eq_true_eq] at signed
  rcases signed with rfl | rfl
  · exact amount.notMem_text (by decide) (by decide) (by decide) member
  · exact amount.notMem_text (by decide) (by decide) (by decide) member

end TermAmount

namespace TermSign

def text : TermSign → UInt16
  | .plus => Text.plus
  | .minus => Text.minus

def factor : TermSign → Int
  | .plus => 1
  | .minus => -1

theorem isSign_text (sign : TermSign) : isSign sign.text = true := by
  cases sign <;> decide

theorem isDelimiter_text (sign : TermSign) : isDelimiter sign.text = true := by
  cases sign <;> decide

end TermSign

namespace MacroTerm

def text (term : MacroTerm) : CodeUnits := term.sign.text :: term.amount.text

end MacroTerm

def clockTime (hours minutes : TwoDigits) (seconds : Option TwoDigits) : Int :=
  (hours.value * 3600 + minutes.value * 60 + (seconds.elim 0 fun seconds => seconds.value)) * Utc.second

theorem clockTime_bounds (hours minutes : TwoDigits) (seconds : Option TwoDigits) :
    0 ≤ clockTime hours minutes seconds ∧ clockTime hours minutes seconds < 2 ^ 62 := by
  have hoursLt := hours.value_lt
  have minutesLt := minutes.value_lt
  have second : Utc.second = 10000000 := rfl
  rw [clockTime, second]
  cases seconds with
  | none =>
      rw [Option.elim_none]
      omega
  | some seconds =>
      have secondsLt := seconds.value_lt
      rw [Option.elim_some]
      omega

def MacroTerm.addTo (calendar : RegionalCalendar) (t : UtcTime) (term : MacroTerm) : Except SystemException UtcTime :=
  match term.amount, term.sign with
  | .clock hours minutes seconds, .plus => t.add (clockTime hours minutes seconds)
  | .clock hours minutes seconds, .minus => t.sub (clockTime hours minutes seconds)
  | .units number unit, .plus => calendar.add t unit.step number.value
  | .units number unit, .minus => calendar.add t unit.step (-number.value)

section Terms

variable {classes : MacroClasses} {calendar : RegionalCalendar}

theorem addTerm_clock (dTrim sign : Int) (hours minutes : TwoDigits) (seconds : Option TwoDigits) (t : UtcTime) :
    addTerm classes calendar dTrim sign (TermAmount.clock hours minutes seconds).text t =
      t.add (clockTime hours minutes seconds) := by
  have hoursLt := hours.value_lt
  have minutesLt := minutes.value_lt
  cases seconds with
  | none =>
      have fields : (hours.text ++ colon :: minutes.text).splitOn colon = [hours.text, minutes.text] := by
        rw [hours.splitOn_colon, minutes.splitOn_whole]
      have span : timeSpan hours.value minutes.value 0 = .ok (clockTime hours minutes none) := by
        rw [timeSpan, if_neg (by omega)]
        rfl
      simp only [addTerm, TermAmount.text, fields, List.map_cons, List.map_nil, TwoDigits.tryParseInt32_text, span, ok_bind]
  | some seconds =>
      have secondsLt := seconds.value_lt
      have fields : (hours.text ++ colon :: (minutes.text ++ colon :: seconds.text)).splitOn colon =
          [hours.text, minutes.text, seconds.text] := by
        rw [hours.splitOn_colon, minutes.splitOn_colon, seconds.splitOn_whole]
      have span : timeSpan hours.value minutes.value seconds.value = .ok (clockTime hours minutes (some seconds)) := by
        rw [timeSpan, if_neg (by omega)]
        rfl
      simp only [addTerm, TermAmount.text, fields, List.map_cons, List.map_nil, TwoDigits.tryParseInt32_text, span, ok_bind]

theorem matchAmount_units (classes : MacroClasses) (number : DigitText) (unit : TermUnit) :
    matchAmount classes (number.text ++ [unit.letter]) = some (number.text, some unit.letter) := by
  have letter := unit.letter_bounds
  have digits := classes.digit_of_ascii number.digits
  have notDigit : classes.isDigit unit.letter = false := by
    rw [Bool.eq_false_iff, Ne, classes.digit unit.letter (by omega)]
    omega
  have isWord : classes.isWord unit.letter = true := by
    rw [classes.word unit.letter (by omega), isAsciiWord, decide_eq_true_eq]
    exact Or.inr (Or.inr (Or.inr letter))
  have begins : ((number.text ++ [unit.letter]).dropWhile fun c => !classes.isDigit c) =
      number.text ++ [unit.letter] := by
    have found := number.some
    cases cells : number.text with
    | nil => exact absurd cells found
    | cons first rest =>
        rw [cells] at digits
        exact List.dropWhile_cons_of_neg (by rw [digits first List.mem_cons_self]; decide)
  rw [matchAmount, begins]
  have taken : (number.text ++ [unit.letter]).takeWhile classes.isDigit = number.text := by
    rw [List.takeWhile_append_of_pos digits, List.takeWhile_cons_of_neg (by rw [notDigit]; decide), List.append_nil]
  have dropped : (number.text ++ [unit.letter]).dropWhile classes.isDigit = [unit.letter] := by
    rw [List.dropWhile_append_of_pos digits, List.dropWhile_cons_of_neg (by rw [notDigit]; decide)]
  cases cells : number.text ++ [unit.letter] with
  | nil => exact absurd cells (List.append_ne_nil_of_right_ne_nil _ (List.cons_ne_nil _ _))
  | cons first rest =>
      rw [cells] at taken dropped
      dsimp only
      rw [taken, dropped, List.head?_cons, Option.filter_some, if_pos isWord]

theorem addTerm_units (dTrim sign : Int) (number : DigitText) (unit : TermUnit) (t : UtcTime) :
    addTerm classes calendar dTrim sign (TermAmount.units number unit).text t =
      if 2 ^ 31 ≤ number.value then .error .overflow else calendar.add t unit.step (sign * number.value) := by
  have letter := unit.letter_bounds
  have noColon : ∀ c ∈ number.text ++ [unit.letter], (c == colon) = false := by
    intro c member
    rcases List.mem_append.mp member with digit | isLetter
    · exact number.ne_colon c digit
    · rw [List.mem_singleton.mp isLetter, beq_eq_false_iff_ne]
      intro same
      rw [same] at letter
      exact absurd letter (by decide)
  have whole : (number.text ++ [unit.letter]).splitOn colon = [number.text ++ [unit.letter]] := by
    rw [List.splitOn_eq_splitOnP, List.splitOnP_eq_singleton noColon]
  simp only [addTerm, TermAmount.text, whole, List.map_cons, List.map_nil, matchAmount_units, number.parseInt32_text,
    unit.unitStep_letter]
  split
  · rfl
  · rfl

theorem addTerms_skip (dTrim : Int) {front : CodeUnits} (unsigned : ∀ c ∈ front, isSign c = false) (s : CodeUnits)
    (t : UtcTime) : addTerms classes calendar dTrim (front ++ s) t = addTerms classes calendar dTrim s t := by
  induction front with
  | nil => rfl
  | cons c front ih =>
      have first := unsigned c List.mem_cons_self
      rw [List.cons_append, addTerms, if_neg (by rw [first]; decide)]
      exact ih fun c member => unsigned c (List.mem_cons_of_mem _ member)

theorem takeWhile_terms (terms : List MacroTerm) :
    (terms.flatMap MacroTerm.text).takeWhile (fun c => !isSign c) = [] := by
  cases terms with
  | nil => rfl
  | cons term terms =>
      rw [List.flatMap_cons, MacroTerm.text, List.cons_append,
        List.takeWhile_cons_of_neg (by rw [term.sign.isSign_text]; decide)]

theorem addTerms_terms (dTrim : Int) (terms : List MacroTerm) (t : UtcTime) :
    addTerms classes calendar dTrim (terms.flatMap MacroTerm.text) t = terms.foldlM (fun t term =>
      addTerm classes calendar dTrim term.sign.factor term.amount.text t) t := by
  induction terms generalizing t with
  | nil => rfl
  | cons term terms ih =>
      have factor : (if term.sign.text = plus then (1 : Int) else -1) = term.sign.factor := by
        cases term.sign <;> decide
      have own : (term.amount.text ++ terms.flatMap MacroTerm.text).takeWhile (fun c => !isSign c) = term.amount.text := by
        rw [List.takeWhile_append_of_pos, takeWhile_terms, List.append_nil]
        intro c member
        rw [term.amount.isSign_text c member]
        rfl
      rw [List.flatMap_cons, MacroTerm.text, List.cons_append, addTerms, if_pos term.sign.isSign_text, own, factor,
        List.foldlM_cons]
      congr 1
      funext t
      rw [addTerms_skip dTrim term.amount.isSign_text, ih]

def addedTerm (calendar : RegionalCalendar) (t : UtcTime) (term : MacroTerm) : Except SystemException UtcTime :=
  match term.amount with
  | .clock hours minutes seconds => t.add (clockTime hours minutes seconds)
  | .units number unit =>
      if 2 ^ 31 ≤ number.value then throw .overflow else calendar.add t unit.step (term.sign.factor * number.value)

theorem addTerm_text (dTrim : Int) (t : UtcTime) (term : MacroTerm) :
    addTerm classes calendar dTrim term.sign.factor term.amount.text t = addedTerm calendar t term := by
  obtain ⟨sign, amount⟩ := term
  cases amount with
  | clock hours minutes seconds => exact addTerm_clock dTrim sign.factor hours minutes seconds t
  | units number unit => exact addTerm_units dTrim sign.factor number unit t

end Terms

section Keywords

variable {classes : MacroClasses}

theorem keys_delimited : ∀ key ∈ timeSpanDict.map Prod.fst, (key.all fun c => !isDelimiter c) = true := by decide

theorem keys_span : ∀ key ∈ timeSpanDict.map Prod.fst, (timeSpanDict.lookup key).getD 0 ≠ 0 := by decide

theorem keys_start : ∀ key ∈ timeSpanDict.map Prod.fst, 2 ≤ key.length ∧ key.take 2 ≠ hydYear.take 2 := by decide

namespace MacroKeyword

variable (keyword : MacroKeyword classes)

theorem isDelimiter_text : ∀ c ∈ keyword.text, isDelimiter c = false := by
  intro c member
  by_contra delimits
  rw [Bool.not_eq_false] at delimits
  have own : c.toNat < 128 ∧ c.toNat ≠ 105 ∧ asciiUpper c = c := by
    simp only [isDelimiter, isSign, decide_eq_true_eq] at delimits
    rcases delimits with rfl | (rfl | rfl) | rfl <;> decide
  rcases keyword.known with hydrological | named
  · have shown : asciiUpper c ∈ keyword.text.map asciiUpper := List.mem_map_of_mem member
    rw [hydrological, own.2.2] at shown
    have letters : (hydYear.all fun c => !isDelimiter c) = true := by decide
    have letter := List.all_eq_true.mp letters c shown
    rw [delimits] at letter
    cases letter
  · have shown : classes.toUpper c ∈ keyword.text.map classes.toUpper := List.mem_map_of_mem member
    rw [classes.upper c own.1 own.2.1, own.2.2] at shown
    have letter := List.all_eq_true.mp (keys_delimited _ named) c shown
    rw [delimits] at letter
    cases letter

theorem upper_hydYear {c : UInt16} (member : asciiUpper c ∈ hydYear.take 2) : classes.toUpper c = asciiUpper c := by
  apply classes.upper
  · by_contra large
    have same : asciiUpper c = c := if_neg (by omega)
    have ascii : ((hydYear.take 2).all fun c => c.toNat < 128) = true := by decide
    rw [same] at member
    exact large (of_decide_eq_true (List.all_eq_true.mp ascii c member))
  · intro isI
    obtain rfl : c = 105 := UInt16.toNat_inj.mp isI
    exact absurd member (by decide)

theorem startsWith_iff (rest : CodeUnits) :
    startsWithIgnoreCase (keyword.text ++ rest) hydYear = true ↔ keyword.text.map asciiUpper = hydYear := by
  rw [startsWithIgnoreCase, decide_eq_true_eq]
  constructor
  · intro starts
    rcases keyword.known with hydrological | named
    · exact hydrological
    · obtain ⟨long, other⟩ := keys_start _ named
      rw [List.length_map] at long
      -- the first two letters tell the words of the table from the hydrological year
      have begins : (keyword.text.take 2).map asciiUpper = hydYear.take 2 := by
        have front := congrArg (List.take 2) starts
        rw [← List.map_take, List.take_take, List.take_append_of_le_length (le_trans (min_le_left _ _) long)] at front
        exact front
      have upper : (keyword.text.take 2).map classes.toUpper = (keyword.text.take 2).map asciiUpper := by
        apply List.map_congr_left
        intro c member
        have shown : asciiUpper c ∈ (keyword.text.take 2).map asciiUpper := List.mem_map_of_mem member
        rw [begins] at shown
        exact upper_hydYear shown
      rw [← List.map_take, upper, begins] at other
      exact absurd rfl other
  · intro hydrological
    have length : hydYear.length = keyword.text.length := by rw [← hydrological, List.length_map]
    rw [length, List.take_left]
    exact hydrological

def start (calendar : RegionalCalendar) (t : UtcTime) : Except SystemException UtcTime :=
  if keyword.text.map asciiUpper = hydYear then calendar.hydYearStart t
  else calendar.trim t ((timeSpanDict.lookup (keyword.text.map classes.toUpper)).getD 0)

theorem interpretTimeSpanText_text (terms : List MacroTerm) :
    interpretTimeSpanText classes (keyword.text ++ terms.flatMap MacroTerm.text) =
      (timeSpanDict.lookup (keyword.text.map classes.toUpper)).getD 0 := by
  have ends : (terms.flatMap MacroTerm.text).takeWhile (fun c => !isDelimiter c) = [] := by
    cases terms with
    | nil => rfl
    | cons term terms =>
        rw [List.flatMap_cons, MacroTerm.text, List.cons_append,
          List.takeWhile_cons_of_neg (by rw [term.sign.isDelimiter_text]; decide)]
  rw [interpretTimeSpanText, List.takeWhile_append_of_pos, ends, List.append_nil]
  intro c member
  rw [keyword.isDelimiter_text c member]
  rfl

end MacroKeyword

theorem notMem_terms (terms : List MacroTerm) : ∀ c ∈ terms.flatMap MacroTerm.text, c ≠ space := by
  intro c member
  obtain ⟨term, _, inText⟩ := List.mem_flatMap.mp member
  rintro rfl
  rcases List.mem_cons.mp inText with isSign | inAmount
  · cases sign : term.sign <;> rw [sign] at isSign <;> exact absurd isSign (by decide)
  · exact term.amount.notMem_text (by decide) (by decide) (by decide) inAmount

def referenceTime (now tNowRef : UtcTime) : UtcTime := if tNowRef = UtcTime.null then now else tNowRef

theorem txt2UtcTime_terms (calendar : RegionalCalendar) (now : UtcTime)
    (datetoken : CodeUnits → Except SystemException UtcTime) (keyword : MacroKeyword classes) (terms : List MacroTerm)
    (tNowRef : UtcTime) :
    txt2UtcTime classes calendar now datetoken (keyword.text ++ terms.flatMap MacroTerm.text) tNowRef =
      keyword.start calendar (referenceTime now tNowRef) >>= terms.foldlM (addedTerm calendar) := by
  have loop (dTrim : Int) (t : UtcTime) : addTerms classes calendar dTrim
      ((keyword.text ++ terms.flatMap MacroTerm.text).filter fun c => c ≠ space) t =
        terms.foldlM (addedTerm calendar) t := by
    have spaceless : ((keyword.text ++ terms.flatMap MacroTerm.text).filter fun c => c ≠ space) =
        keyword.text ++ terms.flatMap MacroTerm.text := by
      rw [List.filter_eq_self]
      intro c member
      rw [decide_eq_true_eq]
      rcases List.mem_append.mp member with inKeyword | inTerms
      · rintro rfl
        exact absurd (keyword.isDelimiter_text _ inKeyword) (by decide)
      · exact notMem_terms terms c inTerms
    have unsigned : ∀ c ∈ keyword.text, isSign c = false := by
      intro c member
      have inside := keyword.isDelimiter_text c member
      simp only [isDelimiter, decide_eq_false_iff_not, not_or] at inside
      exact Bool.eq_false_iff.mpr inside.2.1
    rw [spaceless, addTerms_skip dTrim unsigned, addTerms_terms]
    simp only [addTerm_text]
  rw [txt2UtcTime, MacroKeyword.start, ← referenceTime]
  by_cases hydrological : keyword.text.map asciiUpper = hydYear
  · rw [if_pos ((keyword.startsWith_iff _).mpr hydrological), if_pos hydrological]
    simp only [loop]
  · have named := keyword.known.resolve_left hydrological
    rw [if_neg (mt (keyword.startsWith_iff _).mp hydrological), if_neg hydrological]
    simp only [keyword.interpretTimeSpanText_text, keys_span _ named, if_false, loop]

end Keywords

section Signs

variable {calendar : RegionalCalendar}

theorem RegionalCalendar.addByDate_ne_overflow (t : UtcTime) (forward : Bool) (change : Date → Date) :
    calendar.addByDate t forward change ≠ .error .overflow := by
  simp only [addByDate, diffUtc_eq, ok_bind]
  refine bind_ne_error (UtcTime.sub_ne_overflow _ _) fun _ => ?_
  refine bind_ne_error (UtcTime.add_ne_overflow _ _) fun _ => ?_
  refine bind_ne_error (UtcTime.add_ne_overflow _ _) fun _ => ?_
  refine bind_ne_error (UtcTime.sub_ne_overflow _ _) fun _ => ?_
  exact UtcTime.add_ne_overflow _ _

theorem RegionalCalendar.add_ne_overflow (t : UtcTime) (step count : Int) : calendar.add t step count ≠ .error .overflow := by
  rw [RegionalCalendar.add]
  split
  · exact addByDate_ne_overflow _ _ _
  · split
    · exact addByDate_ne_overflow _ _ _
    · split
      · simp only [diffUtc_eq, ok_bind]
        refine bind_ne_error (UtcTime.sub_ne_overflow _ _) fun _ => ?_
        refine bind_ne_error (UtcTime.add_ne_overflow _ _) fun _ => ?_
        refine bind_ne_error (UtcTime.sub_ne_overflow _ _) fun _ => ?_
        exact UtcTime.add_ne_overflow _ _
      · exact UtcTime.add_ne_overflow _ _

def MacroTerm.TakenAsMeant (t : UtcTime) (term : MacroTerm) : Prop :=
  match term.amount with
  | .clock hours minutes seconds => term.sign = .minus → clockTime hours minutes seconds = 0 ∨ ¬t.Ordinary
  | .units number _ => number.value < 2 ^ 31

theorem addedTerm_eq_iff (t : UtcTime) (term : MacroTerm) :
    addedTerm calendar t term = term.addTo calendar t ↔ term.TakenAsMeant t := by
  obtain ⟨sign, amount⟩ := term
  cases amount with
  | clock hours minutes seconds =>
      obtain ⟨lower, upper⟩ := clockTime_bounds hours minutes seconds
      cases sign with
      | plus =>
          refine ⟨?_, fun _ => rfl⟩
          rintro _ ⟨⟩
      | minus =>
          have same : t.add (clockTime hours minutes seconds) = t.sub (clockTime hours minutes seconds) ↔
              clockTime hours minutes seconds = 0 ∨ ¬t.Ordinary := UtcTime.add_eq_sub_iff lower upper
          exact ⟨fun added _ => same.mp added, fun meant => same.mpr (meant rfl)⟩
  | units number unit =>
      have counted : (⟨sign, .units number unit⟩ : MacroTerm).addTo calendar t =
          calendar.add t unit.step (sign.factor * number.value) := by
        cases sign with
        | plus => rw [TermSign.factor, Int.one_mul]; rfl
        | minus => rw [TermSign.factor, Int.neg_one_mul]; rfl
      rw [counted]
      show (if 2 ^ 31 ≤ number.value then _ else _) = _ ↔ number.value < 2 ^ 31
      by_cases large : 2 ^ 31 ≤ number.value
      · rw [if_pos large]
        exact ⟨fun same => absurd same.symm (RegionalCalendar.add_ne_overflow _ _ _),
          fun small => absurd large (not_le.mpr small)⟩
      · rw [if_neg large]
        exact ⟨fun _ => not_le.mp large, fun _ => rfl⟩

end Signs

section Evaluation

variable (classes : MacroClasses) (calendar : RegionalCalendar) (now : UtcTime)
  (datetoken : CodeUnits → Except SystemException UtcTime)

def Evaluates (keyword : MacroKeyword classes) (terms : List MacroTerm) (tNowRef : UtcTime) : Prop :=
  txt2UtcTime classes calendar now datetoken (keyword.text ++ terms.flatMap MacroTerm.text) tNowRef = do
    let start ← keyword.start calendar (referenceTime now tNowRef)
    terms.foldlM (MacroTerm.addTo calendar) start

def EvaluatesTermwise (keyword : MacroKeyword classes) (terms : List MacroTerm) (tNowRef : UtcTime) : Prop :=
  ∀ done left, terms = done ++ left → Evaluates classes calendar now datetoken keyword done tNowRef

/-- An expression is evaluated term by term unless a clock reading is subtracted where that makes a
difference, or a number does not fit. -/
theorem evaluatesTermwise_iff (keyword : MacroKeyword classes) (terms : List MacroTerm) (tNowRef : UtcTime) :
    EvaluatesTermwise classes calendar now datetoken keyword terms tNowRef ↔
      ∀ start, keyword.start calendar (referenceTime now tNowRef) = .ok start →
        ¬HasFault (fun done term => ∃ t, done.foldlM (MacroTerm.addTo calendar) start = .ok t ∧ ¬term.TakenAsMeant t)
          terms := by
  have agrees (start : UtcTime) := @foldlM_agrees_iff UtcTime SystemException MacroTerm (addedTerm calendar)
    (MacroTerm.addTo calendar) terms start
  simp only [Ne, addedTerm_eq_iff] at agrees
  constructor
  · intro evaluates start begins
    rw [← agrees]
    intro done left split
    have value := evaluates done left split
    rw [Evaluates, txt2UtcTime_terms, begins] at value
    exact value
  · intro sound done left split
    rw [Evaluates, txt2UtcTime_terms]
    cases begins : keyword.start calendar (referenceTime now tNowRef) with
    | error _ => rfl
    | ok start => exact (agrees start).mpr (sound start begins) done left split

end Evaluation

section Samples

def asciiMacroClasses : MacroClasses where
  toCharacterClasses := asciiClasses
  isWord := isAsciiWord
  toUpper := asciiUpper
  word := by
    intro c _
    rfl
  upper := by
    intro c _ _
    rfl

def dayKeyword : MacroKeyword asciiMacroClasses where
  text := codeUnits "DAY"
  known := Or.inr (by decide)

def hourBefore : MacroTerm where
  sign := .minus
  amount := .clock ⟨⟨codeUnits "01", by decide, by decide⟩, by decide⟩
    ⟨⟨codeUnits "00", by decide, by decide⟩, by decide⟩ none

/-- A day less an hour is a day and an hour. -/
theorem evaluates_hourBefore : ¬ ∀ (classes : MacroClasses) (calendar : RegionalCalendar) (now : UtcTime)
    (datetoken : CodeUnits → Except SystemException UtcTime) (keyword : MacroKeyword classes) (terms : List MacroTerm)
    (tNowRef : UtcTime), Evaluates classes calendar now datetoken keyword terms tNowRef := by
  intro holds
  have value := holds asciiMacroClasses utcCalendar (UtcTime.ofTicks 635764032000000000) (fun _ => .ok UtcTime.null)
    dayKeyword [hourBefore] (UtcTime.ofTicks 635764032000000000)
  revert value
  unfold Evaluates
  decide +kernel

end Samples

end ServiceHost
