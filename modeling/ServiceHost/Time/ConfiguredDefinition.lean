import Mathlib.Data.List.Chain
import ServiceHost.Time.ConfiguredCalendarCore

/-!
A definition of a calendar is taken apart as it is written: whatever the names are, the
patterns find the offset and the days of the daylight rule.
-/

namespace ServiceHost

open Library Text

structure WrittenDay where
  monthText : CodeUnits
  sign : CodeUnits
  dayText : CodeUnits
  monthSome : monthText ≠ []
  monthDigits : monthText.all isAsciiDigit = true
  signText : sign = [] ∨ sign = [plus] ∨ sign = [minus]
  daySome : dayText ≠ []
  dayDigits : dayText.all isAsciiDigit = true
  oneLeMonth : 1 ≤ numeral monthText
  monthLe : numeral monthText ≤ 12
  oneLeDay : 1 ≤ numeral dayText
  dayLe : numeral dayText ≤ if sign = [minus] then 5 else 31

namespace WrittenDay

def text (written : WrittenDay) : CodeUnits :=
  written.monthText ++ space :: (written.sign ++ written.dayText)

def toMonthDay (written : WrittenDay) : MonthDay where
  month := numeral written.monthText
  day := if written.sign = [minus] then -(numeral written.dayText : Int) else numeral written.dayText

end WrittenDay

structure Definition where
  name : CodeUnits
  sign : CodeUnits
  whole : CodeUnits
  mark : CodeUnits
  fraction : CodeUnits
  alternateName : CodeUnits
  rule : Option (WrittenDay × WrittenDay)
  nameSome : name ≠ []
  nameLine : lineFeed ∉ name
  signText : sign = [] ∨ sign = [plus] ∨ sign = [minus]
  wholeDigits : whole.all isAsciiDigit = true
  markText : mark = [] ∨ mark = [comma] ∨ mark = [point]
  fractionDigits : fraction.all isAsciiDigit = true
  alternateSome : alternateName ≠ []
  alternateLine : lineFeed ∉ alternateName
  oneAt : (quote :: alternateName).IsChain fun c next => ¬(c = quote ∧ next = commercialAt)

namespace Definition

def offset (definition : Definition) : CodeUnits :=
  definition.sign ++ (definition.whole ++ (definition.mark ++ definition.fraction))

def ruleText (definition : Definition) : CodeUnits :=
  match definition.rule with
  | none => []
  | some (begins, ends) => openBracket :: (begins.text ++ underscore :: (ends.text ++ [closeBracket]))

def tailText (definition : Definition) : CodeUnits :=
  quote :: commercialAt :: (definition.offset ++ quote :: (definition.alternateName ++ quote :: definition.ruleText))

def text (definition : Definition) : CodeUnits := quote :: (definition.name ++ definition.tailText)

def days (definition : Definition) : MonthDay × MonthDay :=
  match definition.rule with
  | none => (⟨3, -5⟩, ⟨10, -5⟩)
  | some (begins, ends) => (begins.toMonthDay, ends.toMonthDay)

end Definition

theorem trimBy_whole {test : UInt16 → Bool} {text : CodeUnits} (first : ∀ c ∈ text.head?, test c = false)
    (last : ∀ c ∈ text.getLast?, test c = false) : trimBy test text = text := by
  unfold trimBy
  cases text with
  | nil => rfl
  | cons c rest =>
      rw [List.dropWhile_cons_of_neg (by simp [first c rfl])]
      rw [List.rdropWhile_eq_self_iff]
      intro nonempty
      rw [last _ (List.getLast?_eq_getLast_of_ne_nil nonempty)]
      simp

theorem CharacterClasses.digit_of_ascii (classes : CharacterClasses) {digits : CodeUnits}
    (ascii : digits.all isAsciiDigit = true) : ∀ c ∈ digits, classes.isDigit c = true := by
  intro c member
  have digit := List.all_eq_true.mp ascii c member
  simp only [isAsciiDigit, decide_eq_true_eq] at digit
  exact (classes.digit c (by omega)).mpr digit

theorem notMem_of_ascii {digits : CodeUnits} (ascii : digits.all isAsciiDigit = true) {c : UInt16}
    (other : isAsciiDigit c = false) : c ∉ digits := by
  intro member
  rw [List.all_eq_true.mp ascii c member] at other
  cases other

theorem CharacterClasses.notMem_digits (classes : CharacterClasses) {digits : CodeUnits}
    (pass : ∀ d ∈ digits, classes.isDigit d = true) {c : UInt16} (ascii : c.toNat < 128)
    (other : isAsciiDigit c = false) : c ∉ digits := by
  intro member
  simp only [isAsciiDigit, decide_eq_false_iff_not] at other
  exact other ((classes.digit c ascii).mp (pass c member))

theorem CharacterClasses.notMem_whole (classes : CharacterClasses) {sign digits : CodeUnits}
    (signText : sign = [] ∨ sign = [plus] ∨ sign = [minus]) (ascii : digits.all isAsciiDigit = true) {c : UInt16}
    (white : classes.isWhiteSpace c = true) : c ∉ sign ++ digits := by
  intro member
  have spaces := classes.whiteSpace c
  rcases List.mem_append.mp member with signed | digit
  · rcases signText with rfl | rfl | rfl
    · cases signed
    · obtain rfl := List.mem_singleton.mp signed
      exact absurd ((spaces (by decide)).mp white) (by decide)
    · obtain rfl := List.mem_singleton.mp signed
      exact absurd ((spaces (by decide)).mp white) (by decide)
  · have isDigit := List.all_eq_true.mp ascii c digit
    simp only [isAsciiDigit, decide_eq_true_eq] at isDigit
    have blank := (spaces (by omega)).mp white
    omega

theorem mem_of_sign {sign : CodeUnits} (signText : sign = [] ∨ sign = [plus] ∨ sign = [minus]) {c : UInt16}
    (member : c ∈ sign) : c = plus ∨ c = minus := by
  rcases signText with rfl | rfl | rfl
  · cases member
  · exact Or.inl (List.mem_singleton.mp member)
  · exact Or.inr (List.mem_singleton.mp member)

theorem Definition.notMem_offset (definition : Definition) {c : UInt16} (digit : isAsciiDigit c = false)
    (notPlus : c ≠ plus) (notMinus : c ≠ minus) (notComma : c ≠ comma) (notPoint : c ≠ point) :
    c ∉ definition.offset := by
  have whole := notMem_of_ascii definition.wholeDigits digit
  have fraction := notMem_of_ascii definition.fractionDigits digit
  unfold offset
  simp only [List.mem_append, not_or]
  refine ⟨?_, whole, ?_, fraction⟩
  · intro member
    rcases mem_of_sign definition.signText member with rfl | rfl
    · exact notPlus rfl
    · exact notMinus rfl
  · intro member
    rcases definition.markText with none | isComma | isPoint
    · rw [none] at member
      cases member
    · rw [isComma] at member
      exact notComma (List.mem_singleton.mp member)
    · rw [isPoint] at member
      exact notPoint (List.mem_singleton.mp member)

theorem parseDigits_ascii {digits : CodeUnits} (nonempty : digits ≠ []) (ascii : digits.all isAsciiDigit = true)
    (small : numeral digits < 100) (negative : Bool) :
    parseDigits negative digits = .ok (if negative then -(numeral digits : Int) else numeral digits) := by
  rw [parseDigits, if_neg (by simp [nonempty, ascii])]
  dsimp only
  rw [if_neg]
  · rfl
  · cases negative <;> simp <;> omega

theorem isBlank_of_ascii {digits : CodeUnits} (ascii : digits.all isAsciiDigit = true) {c : UInt16}
    (member : c ∈ digits) : isBlank c = false := by
  have digit := List.all_eq_true.mp ascii c member
  simp only [isAsciiDigit, decide_eq_true_eq] at digit
  simp only [isBlank, decide_eq_false_iff_not]
  omega

theorem parseInt32_ascii {digits : CodeUnits} (nonempty : digits ≠ []) (ascii : digits.all isAsciiDigit = true) :
    parseInt32 digits = parseDigits false digits := by
  have trimmed : trimBy isBlank digits = digits := by
    apply trimBy_whole
    · intro c first
      exact isBlank_of_ascii ascii (List.mem_of_mem_head? first)
    · intro c last
      exact isBlank_of_ascii ascii (List.mem_of_mem_getLast? last)
  have notMinus := notMem_of_ascii ascii (show isAsciiDigit minus = false by decide)
  have notPlus := notMem_of_ascii ascii (show isAsciiDigit plus = false by decide)
  rw [parseInt32, trimmed]
  cases digits with
  | nil => exact absurd rfl nonempty
  | cons c rest =>
      dsimp only
      rw [if_neg, if_neg]
      · rintro rfl
        exact notPlus List.mem_cons_self
      · rintro rfl
        exact notMinus List.mem_cons_self

namespace WrittenDay

variable (written : WrittenDay)

theorem notMem_text {c : UInt16} (digit : isAsciiDigit c = false) (notPlus : c ≠ plus) (notMinus : c ≠ minus)
    (notSpace : c ≠ space) : c ∉ written.text := by
  have month := notMem_of_ascii written.monthDigits digit
  have day := notMem_of_ascii written.dayDigits digit
  unfold text
  simp only [List.mem_append, List.mem_cons, not_or]
  refine ⟨month, notSpace, ?_, day⟩
  intro member
  rcases mem_of_sign written.signText member with rfl | rfl
  · exact notPlus rfl
  · exact notMinus rfl

theorem parseInt32_month : parseInt32 written.monthText = .ok written.toMonthDay.month := by
  rw [parseInt32_ascii written.monthSome written.monthDigits]
  exact parseDigits_ascii written.monthSome written.monthDigits (lt_of_le_of_lt written.monthLe (by decide)) false

theorem parseInt32_day : parseInt32 (written.sign ++ written.dayText) = .ok written.toMonthDay.day := by
  have small : numeral written.dayText < 100 := by
    have bound := written.dayLe
    split at bound <;> omega
  have parsed := parseDigits_ascii written.daySome written.dayDigits small
  have blanks : ∀ c ∈ written.sign ++ written.dayText, isBlank c = false := by
    intro c member
    rcases List.mem_append.mp member with signed | digit
    · rcases mem_of_sign written.signText signed with rfl | rfl
      · decide
      · decide
    · exact isBlank_of_ascii written.dayDigits digit
  have trimmed : trimBy isBlank (written.sign ++ written.dayText) = written.sign ++ written.dayText := by
    apply trimBy_whole
    · intro c first
      exact blanks c (List.mem_of_mem_head? first)
    · intro c last
      exact blanks c (List.mem_of_mem_getLast? last)
  rw [toMonthDay]
  rcases written.signText with none | isPlus | isMinus
  · have unsigned : ([] : CodeUnits) ≠ [minus] := by decide
    rw [none, List.nil_append, if_neg unsigned, parseInt32_ascii written.daySome written.dayDigits, parsed]
    rfl
  · have unsigned : [plus] ≠ [minus] := by decide
    rw [parseInt32, trimmed, isPlus, if_neg unsigned, List.singleton_append]
    dsimp only
    rw [if_neg (by decide), if_pos rfl, parsed]
    rfl
  · rw [parseInt32, trimmed, isMinus, if_pos rfl, List.singleton_append]
    dsimp only
    rw [if_pos rfl, parsed]
    rfl

end WrittenDay

namespace RegionalCalendar

variable {classes : CharacterClasses}

section Reads

variable {used : CodeUnits} {captures after : Captures UInt16 DefinitionGroup}

theorem reads_whole {sign digits : CodeUnits} (signText : sign = [] ∨ sign = [plus] ∨ sign = [minus])
    (nonempty : digits ≠ []) (ascii : digits.all isAsciiDigit = true) :
    Pattern.Reads (wholePattern classes) (sign ++ digits) captures captures := by
  refine .seq (Pattern.reads_optional_iff.mpr ⟨?_, rfl⟩)
    (Pattern.reads_some_iff.mpr ⟨nonempty, classes.digit_of_ascii ascii, rfl⟩)
  rcases signText with rfl | rfl | rfl
  · exact Or.inl rfl
  · exact Or.inr ⟨plus, rfl, rfl⟩
  · exact Or.inr ⟨minus, rfl, rfl⟩

theorem reads_offset (definition : Definition) :
    Pattern.Reads (offsetPattern classes) definition.offset captures captures := by
  unfold offsetPattern Definition.offset
  simp only [Pattern.reads_all_cons_iff, Pattern.reads_all_nil_iff, Pattern.reads_optional_iff, Pattern.reads_many_iff]
  refine ⟨definition.sign, _, captures, rfl, ⟨?_, rfl⟩, definition.whole, _, captures, rfl,
    ⟨classes.digit_of_ascii definition.wholeDigits, rfl⟩, definition.mark, definition.fraction, captures, rfl, ⟨?_, rfl⟩,
    definition.fraction, [], captures, (List.append_nil _).symm,
    ⟨classes.digit_of_ascii definition.fractionDigits, rfl⟩, rfl, rfl⟩
  · rcases definition.signText with none | isPlus | isMinus
    · exact Or.inl none
    · exact Or.inr ⟨plus, isPlus, rfl⟩
    · exact Or.inr ⟨minus, isMinus, rfl⟩
  · rcases definition.markText with none | isComma | isPoint
    · exact Or.inl none
    · exact Or.inr ⟨comma, isComma, rfl⟩
    · exact Or.inr ⟨point, isPoint, rfl⟩

theorem notMem_of_reads_offset (reads : Pattern.Reads (offsetPattern classes) used captures after) {c : UInt16}
    (ascii : c.toNat < 128) (digit : isAsciiDigit c = false) (sign : isSign c = false) (mark : isMark c = false) :
    c ∉ used ∧ after = captures := by
  have missing {test : UInt16 → Bool} {text : CodeUnits} (other : test c = false)
      (optional : text = [] ∨ ∃ d, text = [d] ∧ test d = true) : c ∉ text := by
    rcases optional with rfl | ⟨d, rfl, passes⟩
    · simp
    · intro member
      rw [List.mem_singleton.mp member, passes] at other
      cases other
  unfold offsetPattern at reads
  simp only [Pattern.reads_all_cons_iff, Pattern.reads_all_nil_iff, Pattern.reads_optional_iff,
    Pattern.reads_many_iff] at reads
  obtain ⟨_, _, _, rfl, ⟨signed, rfl⟩, _, _, _, rfl, ⟨whole, rfl⟩, _, _, _, rfl, ⟨marked, rfl⟩, _, _, _, rfl,
    ⟨fraction, rfl⟩, rfl, rfl⟩ := reads
  simp only [List.mem_append, not_or]
  exact ⟨⟨missing sign signed, classes.notMem_digits whole ascii digit, missing mark marked,
    classes.notMem_digits fraction ascii digit, by simp⟩, trivial⟩

theorem notMem_of_reads_whole (reads : Pattern.Reads (wholePattern classes) used captures after) {c : UInt16}
    (ascii : c.toNat < 128) (digit : isAsciiDigit c = false) (sign : isSign c = false) :
    c ∉ used ∧ after = captures := by
  unfold wholePattern at reads
  simp only [Pattern.reads_seq_iff, Pattern.reads_optional_iff, Pattern.reads_some_iff] at reads
  obtain ⟨_, _, _, rfl, ⟨signed, rfl⟩, _, pass, rfl⟩ := reads
  rw [List.mem_append, not_or]
  refine ⟨⟨?_, classes.notMem_digits pass ascii digit⟩, rfl⟩
  rcases signed with rfl | ⟨d, rfl, passes⟩
  · simp
  · intro member
    rw [List.mem_singleton.mp member, passes] at sign
    cases sign

end Reads

def bracketPattern (classes : CharacterClasses) : List DefinitionPattern :=
  [.literal [openBracket], .group .dstStartMonth (.some classes.isDigit), .one classes.isWhiteSpace,
    .group .dstStartDay (wholePattern classes), .literal [underscore], .group .dstEndMonth (.some classes.isDigit),
    .one classes.isWhiteSpace, .group .dstEndDay (wholePattern classes), .literal [closeBracket]]

def bracketText (before startDay endMonth endDay : CodeUnits) (startSpace endSpace : UInt16) : CodeUnits :=
  ((before ++ startSpace :: startDay) ++ underscore :: endMonth) ++ endSpace :: (endDay ++ [closeBracket])

theorem reads_bracket_iff {used : CodeUnits} {captures after : Captures UInt16 DefinitionGroup} :
    Pattern.Reads (.all (bracketPattern classes)) used captures after ↔
      ∃ startMonth startSpace startDay endMonth endSpace endDay,
        used = bracketText (openBracket :: startMonth) startDay endMonth endDay startSpace endSpace ∧
        after = (.dstEndDay, endDay) :: (.dstEndMonth, endMonth) :: (.dstStartDay, startDay) ::
          (.dstStartMonth, startMonth) :: captures ∧
        (startMonth ≠ [] ∧ ∀ c ∈ startMonth, classes.isDigit c = true) ∧ classes.isWhiteSpace startSpace = true ∧
        Pattern.Reads (wholePattern classes) startDay ((.dstStartMonth, startMonth) :: captures)
          ((.dstStartMonth, startMonth) :: captures) ∧
        (endMonth ≠ [] ∧ ∀ c ∈ endMonth, classes.isDigit c = true) ∧ classes.isWhiteSpace endSpace = true ∧
        Pattern.Reads (wholePattern classes) endDay
          ((.dstEndMonth, endMonth) :: (.dstStartDay, startDay) :: (.dstStartMonth, startMonth) :: captures)
          ((.dstEndMonth, endMonth) :: (.dstStartDay, startDay) :: (.dstStartMonth, startMonth) :: captures) := by
  unfold bracketPattern bracketText
  simp only [Pattern.reads_all_cons_iff, Pattern.reads_all_nil_iff, Pattern.reads_literal_iff, Pattern.reads_group_iff,
    Pattern.reads_some_iff, Pattern.reads_one_iff]
  constructor
  · rintro ⟨_, _, _, rfl, ⟨rfl, rfl⟩, startMonth, _, _, rfl, ⟨_, rfl, someStart, startDigits, rfl⟩, _, _, _, rfl,
      ⟨startSpace, rfl, startWhite, rfl⟩, startDay, _, _, rfl, ⟨_, rfl, startReads⟩, _, _, _, rfl, ⟨rfl, rfl⟩,
      endMonth, _, _, rfl, ⟨_, rfl, someEnd, endDigits, rfl⟩, _, _, _, rfl, ⟨endSpace, rfl, endWhite, rfl⟩,
      endDay, _, _, rfl, ⟨_, rfl, endReads⟩, _, _, _, rfl, ⟨rfl, rfl⟩, rfl, rfl⟩
    obtain ⟨_, rfl⟩ := notMem_of_reads_whole (c := quote) startReads (by decide) rfl rfl
    obtain ⟨_, rfl⟩ := notMem_of_reads_whole (c := quote) endReads (by decide) rfl rfl
    exact ⟨startMonth, startSpace, startDay, endMonth, endSpace, endDay, by simp, rfl, ⟨someStart, startDigits⟩,
      startWhite, startReads, ⟨someEnd, endDigits⟩, endWhite, endReads⟩
  · rintro ⟨startMonth, startSpace, startDay, endMonth, endSpace, endDay, rfl, rfl, ⟨someStart, startDigits⟩,
      startWhite, startReads, ⟨someEnd, endDigits⟩, endWhite, endReads⟩
    exact ⟨[openBracket], _, captures, by simp; rfl, ⟨rfl, rfl⟩, startMonth, _, _, rfl,
      ⟨_, rfl, someStart, startDigits, rfl⟩, [startSpace], _, _, rfl, ⟨startSpace, rfl, startWhite, rfl⟩, startDay, _, _,
      rfl, ⟨_, rfl, startReads⟩, [underscore], _, _, rfl, ⟨rfl, rfl⟩, endMonth, _, _, rfl,
      ⟨_, rfl, someEnd, endDigits, rfl⟩, [endSpace], _, _, rfl, ⟨endSpace, rfl, endWhite, rfl⟩, endDay, _, _, rfl,
      ⟨_, rfl, endReads⟩, [closeBracket], [], _, by simp, ⟨rfl, rfl⟩, rfl, rfl⟩

def tailPattern (classes : CharacterClasses) (more : List DefinitionPattern) : DefinitionPattern :=
  .all ([.literal [quote, commercialAt], .group .utcoffset (offsetPattern classes), .literal [quote],
    .group .altname (.some anything), .literal [quote]] ++ more)

theorem reads_tail_iff {more : List DefinitionPattern} {used : CodeUnits} {captures after : Captures UInt16 DefinitionGroup} :
    Pattern.Reads (tailPattern classes more) used captures after ↔ ∃ offset altname rest,
      used = quote :: commercialAt :: (offset ++ quote :: (altname ++ quote :: rest)) ∧
        Pattern.Reads (offsetPattern classes) offset captures captures ∧ altname ≠ [] ∧ lineFeed ∉ altname ∧
        Pattern.Reads (.all more) rest ((.altname, altname) :: (.utcoffset, offset) :: captures) after := by
  have line {text : CodeUnits} : (∀ c ∈ text, anything c = true) ↔ lineFeed ∉ text := by
    simp only [anything, decide_eq_true_eq]
    constructor
    · intro others member
      exact others lineFeed member rfl
    · rintro absent c member rfl
      exact absent member
  unfold tailPattern
  simp only [List.cons_append, List.nil_append, Pattern.reads_all_cons_iff, Pattern.reads_literal_iff,
    Pattern.reads_group_iff, Pattern.reads_some_iff, line]
  constructor
  · rintro ⟨_, _, _, rfl, ⟨rfl, rfl⟩, offset, _, _, rfl, ⟨inner, rfl, offsetReads⟩, _, _, _, rfl, ⟨rfl, rfl⟩,
      altname, _, _, rfl, ⟨_, rfl, nonempty, oneLine, rfl⟩, _, rest, _, rfl, ⟨rfl, rfl⟩, moreReads⟩
    obtain ⟨_, rfl⟩ := notMem_of_reads_offset (c := quote) offsetReads (by decide) rfl rfl rfl
    exact ⟨offset, altname, rest, rfl, offsetReads, nonempty, oneLine, moreReads⟩
  · rintro ⟨offset, altname, rest, rfl, offsetReads, nonempty, oneLine, moreReads⟩
    exact ⟨[quote, commercialAt], _, captures, rfl, ⟨rfl, rfl⟩, offset, _, _, rfl, ⟨captures, rfl, offsetReads⟩,
      [quote], _, _, rfl, ⟨rfl, rfl⟩, altname, _, _, rfl, ⟨_, rfl, nonempty, oneLine, rfl⟩, [quote], rest, _, rfl,
      ⟨rfl, rfl⟩, moreReads⟩

section Search

variable (definition : Definition)

theorem oneAt_tailText : (definition.tailText.drop 1).IsChain fun c next => ¬(c = quote ∧ next = commercialAt) := by
  have free {text : CodeUnits} (absent : quote ∉ text) : text.IsChain fun c next => ¬(c = quote ∧ next = commercialAt) := by
    induction text with
    | nil => exact .nil
    | cons c text ih =>
        rw [List.isChain_cons]
        refine ⟨?_, ih fun member => absent (List.mem_cons_of_mem c member)⟩
        rintro next _ ⟨rfl, _⟩
        exact absent List.mem_cons_self
  have offset : quote ∉ commercialAt :: definition.offset := by
    rw [List.mem_cons, not_or]
    exact ⟨by decide, definition.notMem_offset rfl (by decide) (by decide) (by decide) (by decide)⟩
  have rule : quote ∉ definition.ruleText ∧ ∀ c ∈ definition.ruleText.head?, c ≠ commercialAt := by
    unfold Definition.ruleText
    split
    · exact ⟨by simp, by simp⟩
    · rename_i begins ends _
      have beginsText := begins.notMem_text (c := quote) rfl (by decide) (by decide) (by decide)
      have endsText := ends.notMem_text (c := quote) rfl (by decide) (by decide) (by decide)
      simp only [List.mem_cons, List.mem_append, not_or]
      refine ⟨⟨by decide, beginsText, by decide, endsText, by decide⟩, ?_⟩
      rintro c ⟨⟩
      decide
  have split : definition.tailText.drop 1 = (commercialAt :: definition.offset) ++
      ((quote :: definition.alternateName) ++ (quote :: definition.ruleText)) := by
    simp [Definition.tailText]
  have last : (quote :: definition.ruleText).IsChain fun c next => ¬(c = quote ∧ next = commercialAt) := by
    rw [List.isChain_cons]
    refine ⟨?_, free rule.1⟩
    rintro next first ⟨_, same⟩
    exact rule.2 next first same
  rw [split, List.isChain_append, List.isChain_append]
  refine ⟨free offset, ⟨definition.oneAt, last, ?_⟩, ?_⟩
  · rintro c _ next ⟨⟩ ⟨_, same⟩
    cases same
  · rintro c last next _ ⟨rfl, _⟩
    exact offset (List.mem_of_mem_getLast? last)

theorem lineFeed_notMem_tailText : lineFeed ∉ definition.tailText := by
  have offset := definition.notMem_offset (c := lineFeed) rfl (by decide) (by decide) (by decide) (by decide)
  have rule : lineFeed ∉ definition.ruleText := by
    unfold Definition.ruleText
    split
    · simp
    · rename_i begins ends _
      have beginsText := begins.notMem_text (c := lineFeed) rfl (by decide) (by decide) (by decide)
      have endsText := ends.notMem_text (c := lineFeed) rfl (by decide) (by decide) (by decide)
      simp only [List.mem_cons, List.mem_append, not_or]
      exact ⟨by decide, beginsText, by decide, endsText, by decide⟩
  simp only [Definition.tailText, List.mem_cons, List.mem_append, not_or]
  exact ⟨by decide, by decide, offset, by decide, definition.alternateLine, by decide, rule⟩

theorem atEnd_suffix {text used rest : CodeUnits} (split : text = used ++ rest) (oneLine : lineFeed ∉ text)
    (stops : atEnd rest = true) : rest = [] := by
  simp only [atEnd, decide_eq_true_eq] at stops
  rcases stops with none | feed
  · exact none
  · rw [split, feed] at oneLine
    exact absurd (List.mem_append_right used List.mem_cons_self) oneLine

theorem matchWhole_altname (more : List DefinitionPattern) : matchWhole (altnamePattern classes more) definition.text =
    (Pattern.seq (.group .name (.some anything)) (tailPattern classes more)).run
      (fun rest captures => if atEnd rest then some captures else none) (definition.name ++ definition.tailText) [] := by
  unfold matchWhole altnamePattern namePattern Definition.text tailPattern
  rfl

def TailMatch (classes : CharacterClasses) (more : List DefinitionPattern) (groups : Captures UInt16 DefinitionGroup) : Prop :=
  Pattern.Reads (tailPattern classes more) definition.tailText [(.name, definition.name)] groups

theorem matchWhole_some {more : List DefinitionPattern} (readable : ∃ groups, TailMatch definition classes more groups) :
    ∃ groups, matchWhole (altnamePattern classes more) definition.text = some groups ∧
      TailMatch definition classes more groups := by
  obtain ⟨expected, reads⟩ := readable
  have complete := @Pattern.run_complete _ _ _ (fun rest captures => if atEnd rest then some captures else none) _ _ []
    _ _ reads rfl
  rw [List.append_nil] at complete
  obtain ⟨groups, found⟩ := Option.isSome_iff_exists.mp complete
  have name : ∀ c ∈ definition.name, anything c = true := by
    intro c member
    simp only [anything, decide_eq_true_eq]
    rintro rfl
    exact definition.nameLine member
  refine ⟨groups, ?_, ?_⟩
  · rw [matchWhole_altname]
    apply Pattern.run_group_some definition.nameSome name found
    intro longer rest' split nonempty
    cases stops : (tailPattern classes more).run _ rest' _ with
    | none => rfl
    | some other =>
        obtain ⟨used, rest, after, restSplit, tailReads, _⟩ := Pattern.run_sound stops
        obtain ⟨offset, altname, last, usedSplit, _⟩ := reads_tail_iff.mp tailReads
        obtain ⟨c, more', rfl⟩ := List.exists_cons_of_ne_nil nonempty
        have chain := oneAt_tailText definition
        rw [split, restSplit, usedSplit, List.cons_append, List.drop_one, List.tail_cons] at chain
        have joined := (List.isChain_append.mp chain).2.1
        exact absurd ⟨rfl, rfl⟩ (List.isChain_cons_cons.mp joined).1
  · obtain ⟨used, rest, after, split, tailReads, ends⟩ := Pattern.run_sound found
    split at ends
    · rename_i stops
      obtain rfl := atEnd_suffix split (lineFeed_notMem_tailText definition) stops
      rw [List.append_nil] at split
      obtain rfl := Option.some.inj ends
      rw [TailMatch, split]
      exact tailReads
    · cases ends

end Search

section Groups

variable (definition : Definition)

theorem TailMatch.offset {definition : Definition} {more : List DefinitionPattern}
    {groups : Captures UInt16 DefinitionGroup} (reads : TailMatch definition classes more groups) :
    ∃ altname rest, definition.alternateName ++ quote :: definition.ruleText = altname ++ quote :: rest ∧
      Pattern.Reads (.all more) rest [(.altname, altname), (.utcoffset, definition.offset), (.name, definition.name)]
        groups := by
  obtain ⟨offset, altname, rest, same, offsetReads, _, _, moreReads⟩ := reads_tail_iff.mp reads
  obtain ⟨absent, _⟩ := notMem_of_reads_offset (c := quote) offsetReads (by decide) rfl rfl rfl
  have written := definition.notMem_offset (c := quote) rfl (by decide) (by decide) (by decide) (by decide)
  injection same with _ same
  injection same with _ same
  obtain ⟨rfl, _, split⟩ := append_cons_inj_of_notMem_left absent written same
  exact ⟨altname, rest, split, moreReads⟩

theorem tailMatch_of_reads {more : List DefinitionPattern} {groups : Captures UInt16 DefinitionGroup}
    (reads : Pattern.Reads (.all more) definition.ruleText
      [(.altname, definition.alternateName), (.utcoffset, definition.offset), (.name, definition.name)] groups) :
    TailMatch definition classes more groups :=
  reads_tail_iff.mpr ⟨definition.offset, definition.alternateName, definition.ruleText, rfl, reads_offset definition,
    definition.alternateSome, definition.alternateLine, reads⟩

theorem text_last : definition.text.getLast? = some (if definition.rule = none then quote else closeBracket) := by
  cases rule : definition.rule with
  | none =>
      have split : definition.text = quote :: (definition.name ++ quote :: commercialAt :: (definition.offset ++
          quote :: definition.alternateName)) ++ [quote] := by
        simp [Definition.text, Definition.tailText, Definition.ruleText, rule]
      rw [split, List.getLast?_concat, if_pos rfl]
  | some days =>
      have split : definition.text = quote :: (definition.name ++ quote :: commercialAt :: (definition.offset ++
          quote :: (definition.alternateName ++ quote :: openBracket :: (days.1.text ++ underscore :: days.2.text)))) ++
            [closeBracket] := by
        simp [Definition.text, Definition.tailText, Definition.ruleText, rule]
      rw [split, List.getLast?_concat, if_neg (by simp)]

theorem match_names (noRule : definition.rule = none) :
    matchWhole (rulePattern classes) definition.text = none ∧
      ∃ groups, matchWhole (altnamePattern classes []) definition.text = some groups ∧
        groupValue groups .utcoffset = definition.offset ∧ groupValue groups .name = definition.name ∧
        groupValue groups .altname = definition.alternateName := by
  have noText : definition.ruleText = [] := by rw [Definition.ruleText, noRule]
  constructor
  · cases found : matchWhole (rulePattern classes) definition.text with
    | none => rfl
    | some groups =>
        obtain ⟨used, rest, after, split, reads, ends⟩ := Pattern.run_sound
          ((matchWhole_altname definition (bracketPattern classes)).symm.trans found)
        have oneLine : lineFeed ∉ definition.name ++ definition.tailText := by
          rw [List.mem_append, not_or]
          exact ⟨definition.nameLine, lineFeed_notMem_tailText definition⟩
        split at ends
        · rename_i stops
          obtain rfl := atEnd_suffix split oneLine stops
          obtain ⟨name, tail, between, rfl, _, tailReads⟩ := Pattern.reads_seq_iff.mp reads
          obtain ⟨offset, altname, last, rfl, _, _, _, bracket⟩ := reads_tail_iff.mp tailReads
          obtain ⟨startMonth, startSpace, startDay, endMonth, endSpace, endDay, rfl, _⟩ := reads_bracket_iff.mp bracket
          have written := text_last definition
          have bracketed :
              quote :: (name ++ quote :: commercialAt :: (offset ++ quote :: (altname ++ quote ::
                bracketText (openBracket :: startMonth) startDay endMonth endDay startSpace endSpace))) =
              quote :: (name ++ quote :: commercialAt :: (offset ++ quote :: (altname ++ quote ::
                ((((openBracket :: startMonth) ++ startSpace :: startDay) ++ underscore :: endMonth) ++
                  endSpace :: endDay)))) ++ [closeBracket] := by
            simp [bracketText]
          rw [Definition.text, split, List.append_nil, bracketed, List.getLast?_concat, noRule] at written
          cases written
        · cases ends
  · obtain ⟨groups, found, reads⟩ := @matchWhole_some classes definition []
      ⟨_, tailMatch_of_reads definition (by rw [noText]; exact .empty)⟩
    refine ⟨groups, found, ?_⟩
    obtain ⟨altname, rest, split, nothing⟩ := reads.offset
    obtain ⟨rfl, rfl⟩ := Pattern.reads_all_nil_iff.mp nothing
    rw [noText] at split
    have same := List.append_cancel_right split
    exact ⟨rfl, rfl, same.symm⟩

theorem match_rule {begins ends : WrittenDay} (rule : definition.rule = some (begins, ends)) :
    ∃ groups, matchWhole (rulePattern classes) definition.text = some groups ∧
      groupValue groups .utcoffset = definition.offset ∧ groupValue groups .name = definition.name ∧
      groupValue groups .altname = definition.alternateName ∧
      groupValue groups .dstStartMonth = begins.monthText ∧ groupValue groups .dstStartDay = begins.sign ++ begins.dayText ∧
      groupValue groups .dstEndMonth = ends.monthText ∧ groupValue groups .dstEndDay = ends.sign ++ ends.dayText := by
  have ruleText : definition.ruleText = bracketText (openBracket :: begins.monthText) (begins.sign ++ begins.dayText)
      ends.monthText (ends.sign ++ ends.dayText) space space := by
    rw [Definition.ruleText, rule]
    simp [bracketText, WrittenDay.text]
  have white : classes.isWhiteSpace space = true := (classes.whiteSpace space (by decide)).mpr (by decide)
  obtain ⟨groups, found, reads⟩ := @matchWhole_some classes definition (bracketPattern classes)
    ⟨_, tailMatch_of_reads definition (by
      rw [ruleText]
      exact reads_bracket_iff.mpr ⟨_, _, _, _, _, _, rfl, rfl,
        ⟨begins.monthSome, classes.digit_of_ascii begins.monthDigits⟩, white,
        reads_whole begins.signText begins.daySome begins.dayDigits,
        ⟨ends.monthSome, classes.digit_of_ascii ends.monthDigits⟩, white,
        reads_whole ends.signText ends.daySome ends.dayDigits⟩)⟩
  refine ⟨groups, found, ?_⟩
  obtain ⟨altname, rest, split, bracket⟩ := reads.offset
  obtain ⟨startMonth, startSpace, startDay, endMonth, endSpace, endDay, rfl, rfl, ⟨_, startDigits⟩, startWhite,
    startReads, ⟨_, endDigits⟩, endWhite, endReads⟩ := reads_bracket_iff.mp bracket
  have gather (before altname startDay endMonth endDay : CodeUnits) (startSpace endSpace : UInt16) :
      altname ++ quote :: bracketText (openBracket :: before) startDay endMonth endDay startSpace endSpace =
        bracketText (altname ++ quote :: openBracket :: before) startDay endMonth endDay startSpace endSpace := by
    simp [bracketText]
  rw [ruleText, gather, gather, bracketText, bracketText] at split
  have notClose {c : UInt16} (isWhite : classes.isWhiteSpace c = true) : c ≠ closeBracket := by
    rintro rfl
    exact absurd ((classes.whiteSpace closeBracket (by decide)).mp isWhite) (by decide)
  obtain ⟨split, _, days⟩ := append_cons_inj_of_notMem_right
    (by
      rw [List.mem_append, not_or]
      exact ⟨(notMem_of_reads_whole (c := space) endReads (by decide) rfl rfl).1, by decide⟩)
    (by
      rw [List.mem_append, not_or]
      exact ⟨classes.notMem_whole ends.signText ends.dayDigits endWhite, by simpa using notClose endWhite⟩) split
  obtain ⟨split, _, months⟩ := append_cons_inj_of_notMem_right
    (classes.notMem_digits endDigits (show underscore.toNat < 128 by decide) rfl)
    (notMem_of_ascii ends.monthDigits rfl) split
  obtain ⟨split, _, startDays⟩ := append_cons_inj_of_notMem_right
    (notMem_of_reads_whole (c := space) startReads (by decide) rfl rfl).1
    (classes.notMem_whole begins.signText begins.dayDigits startWhite) split
  obtain ⟨altnames, _, bracketed⟩ := append_cons_inj_of_notMem_right
    (by
      rw [List.mem_cons, not_or]
      exact ⟨by decide, classes.notMem_digits startDigits (show quote.toNat < 128 by decide) rfl⟩)
    (by
      rw [List.mem_cons, not_or]
      exact ⟨by decide, notMem_of_ascii begins.monthDigits rfl⟩) split
  injection bracketed with _ startMonths
  exact ⟨rfl, rfl, altnames.symm, startMonths.symm, startDays.symm, months.symm,
    (List.append_cancel_right days).symm⟩

theorem createFromConfig_text {D : Type} (numbers : FloatingPoint D) :
    createFromConfig classes numbers (some definition.text) = (do
      let utcOffset ← readUtcOffset numbers definition.offset
      let calendar ← addConfiguredRules definition.days.1 definition.days.2 daylightSavingYears daylightSavingFirstYear
        { utcCalendar with utcOffset }
      return some { calendar with name := definition.name, alternateName := definition.alternateName }) := by
  have trimmed : trimBy classes.isWhiteSpace definition.text = definition.text := by
    have mark {c : UInt16} (ascii : c.toNat < 128) (other : isBlank c = false) : classes.isWhiteSpace c = false := by
      simp only [isBlank, decide_eq_false_iff_not] at other
      rw [Bool.eq_false_iff]
      exact fun white => other ((classes.whiteSpace c ascii).mp white)
    apply trimBy_whole
    · rintro c ⟨⟩
      exact mark (by decide) rfl
    · intro c last
      rw [text_last] at last
      obtain rfl := Option.some.inj last
      split
      · exact mark (by decide) rfl
      · exact mark (by decide) rfl
  have configured {groups : Captures UInt16 DefinitionGroup} (offset : groupValue groups .utcoffset = definition.offset)
      (name : groupValue groups .name = definition.name)
      (altname : groupValue groups .altname = definition.alternateName) :
      some <$> configure numbers groups (some definition.days) = (do
        let utcOffset ← readUtcOffset numbers definition.offset
        let calendar ← addConfiguredRules definition.days.1 definition.days.2 daylightSavingYears daylightSavingFirstYear
          { utcCalendar with utcOffset }
        return some { calendar with name := definition.name, alternateName := definition.alternateName }) := by
    unfold configure
    rw [offset, name, altname]
    cases readUtcOffset numbers definition.offset with
    | error exception => rfl
    | ok utcOffset =>
        simp only [ok_bind]
        cases addConfiguredRules definition.days.1 definition.days.2 daylightSavingYears daylightSavingFirstYear
            { utcCalendar with utcOffset } with
        | error exception => rfl
        | ok calendar => rfl
  cases rule : definition.rule with
  | none =>
      obtain ⟨missed, groups, found, offset, name, altname⟩ := @match_names classes definition rule
      have days : definition.days = (⟨3, -5⟩, ⟨10, -5⟩) := by rw [Definition.days, rule]
      rw [← configured offset name altname, days]
      unfold createFromConfig
      split
      · contradiction
      · rename_i empty
        cases empty
      · rename_i text _ same
        obtain rfl := Option.some.inj same
        simp only [trimmed, missed, found]
  | some written =>
      obtain ⟨begins, ends⟩ := written
      obtain ⟨groups, found, offset, name, altname, startMonth, startDay, endMonth, endDay⟩ :=
        @match_rule classes definition begins ends rule
      have days : definition.days = (begins.toMonthDay, ends.toMonthDay) := by rw [Definition.days, rule]
      rw [← configured offset name altname, days]
      unfold createFromConfig
      split
      · contradiction
      · rename_i empty
        cases empty
      · rename_i text _ same
        obtain rfl := Option.some.inj same
        simp only [trimmed, found, startMonth, startDay, endMonth, endDay, begins.parseInt32_month, begins.parseInt32_day,
          ends.parseInt32_month, ends.parseInt32_day, ok_bind]

end Groups

end RegionalCalendar

end ServiceHost
