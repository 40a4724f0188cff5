import ServiceHost.Metering.EntitiesCore

/-!
`Merge` of the metering entities against what it is for: the properties that were set on
the incoming object are taken over, and nothing else is.
-/

namespace ServiceHost.Metering

open Library

section Purpose

variable {c : FieldClass 32} [DecidableEq c.Field]

def Record.Same (before after : Record c) : Prop := ∀ field, after.value field = before.value field

structure AppliesEdits (merge : Record c → Record c → Record c × Bool) (isKey : c.Field → Prop)
    (sets : List (Σ field, c.Value field)) (stored : Record c) : Prop where
  follows : FollowsEdits isKey sets stored (merge stored (Record.build c sets)).1
  told : (merge stored (Record.build c sets)).2 = true ↔
    ¬Record.Same stored (merge stored (Record.build c sets)).1
  untold : (merge (merge stored (Record.build c sets)).1 (Record.build c sets)).2 = false
  unchanged : Record.Same (merge stored (Record.build c sets)).1
    (merge (merge stored (Record.build c sets)).1 (Record.build c sets)).1

def AttributesFollow {V : Type} (stored incoming merged : Attributes V) : Prop :=
  ∀ name, merged.lookup name = (incoming.lookup name).or (stored.lookup name)

structure Attributed.Same (before after : Attributed c) : Prop where
  record : Record.Same before.record after.record
  attributesInt : ∀ name, after.attributesInt.lookup name = before.attributesInt.lookup name
  attributesFloat : ∀ name, after.attributesFloat.lookup name = before.attributesFloat.lookup name
  attributesString : ∀ name, after.attributesString.lookup name = before.attributesString.lookup name

def AttributedAppliesEdits (merge : Attributed c → Attributed c → Except SystemException (Attributed c × Bool))
    (isKey : c.Field → Prop) (sets : List (Σ field, c.Value field)) (stored component : Attributed c) : Prop :=
  ∃ merged told again, merge stored component = .ok (merged, told) ∧
    merge merged component = .ok (again, false) ∧
    FollowsEdits isKey sets stored.record merged.record ∧
    AttributesFollow stored.attributesInt component.attributesInt merged.attributesInt ∧
    AttributesFollow stored.attributesFloat component.attributesFloat merged.attributesFloat ∧
    AttributesFollow stored.attributesString component.attributesString merged.attributesString ∧
    (told = true ↔ ¬Attributed.Same stored merged) ∧ Attributed.Same merged again

variable {steps : List (MergeStep c)} {isKey : c.Field → Prop} {sets : List (Σ field, c.Value field)}
variable {stored : Record c}

theorem appliesEdits_iff (distinct : (steps.map MergeStep.field).Nodup) :
    AppliesEdits (fun this incoming => mergeFields steps incoming (this, false)) isKey sets stored ↔
      TakesEdits isKey steps sets stored ∧ SelfEqual steps (Record.build c sets) := by
  have stable := Record.build_stable sets
  constructor
  · intro applies
    exact ⟨(followsEdits_iff stored false).mp applies.follows,
      (mergeFields_again_untold distinct stable stored false).mp applies.untold⟩
  · rintro ⟨takes, settled⟩
    exact {
      follows := (followsEdits_iff stored false).mpr takes
      told := by
        rw [mergeFields_told_iff_changed distinct stable settled]
        simp [Record.Same]
      untold := (mergeFields_again_untold distinct stable stored false).mpr settled
      unchanged := mergeFields_again_value stable stored false false }

theorem Kind.differs_self : ∀ (kind : Kind) (value : kind.Value), kind ≠ .single →
    kind.differs value value = false
  | .string, _, _ => bne_self_eq_false (α := Option String) _
  | .int, _, _ => bne_self_eq_false (α := Int) _
  | .time, _, _ => bne_self_eq_false (α := UtcTime) _
  | .reference, _, _ => bne_self_eq_false (α := Option Nat) _
  | .single, _, other => absurd rfl other
  | .decimal, _, _ => bne_self_eq_false (α := Rat) _

theorem Single.differs_self_iff (value : Single) : value.differs value = false ↔ value ≠ .nan := by
  cases value <;> simp [Single.differs, Single.isNaN]

end Purpose

section Attributes

variable {V T : Type} {text : V → Option T}

def HaveTexts (text : V → Option T) (held incoming : Attributes V) : Prop :=
  ∀ name value before, incoming.lookup name = some value → held.lookup name = some before →
    text before ≠ none ∧ text value ≠ none

def Differing (text : V → Option T) (held incoming : Attributes V) : Prop :=
  ∃ name value, incoming.lookup name = some value ∧
    ∀ before, held.lookup name = some before → text before ≠ text value

theorem AttributesFollow.lookup_of_some {stored incoming merged : Attributes V}
    (follow : AttributesFollow stored incoming merged) {name : String} {value : V}
    (found : incoming.lookup name = some value) : merged.lookup name = some value := by
  rw [follow, found]
  rfl

theorem differing_iff_changed (injective : Function.Injective text) {stored incoming merged : Attributes V}
    (follow : AttributesFollow stored incoming merged) :
    Differing text stored incoming ↔ ¬∀ name, merged.lookup name = stored.lookup name := by
  constructor
  · rintro ⟨name, value, found, differs⟩ same
    have held : stored.lookup name = some value := by
      rw [← same, follow.lookup_of_some found]
    exact differs value held rfl
  · intro changed
    obtain ⟨name, other⟩ := not_forall.mp changed
    cases found : incoming.lookup name with
    | none =>
        rw [follow, found] at other
        exact absurd rfl other
    | some value =>
        refine ⟨name, value, found, fun before held sameText => other ?_⟩
        rw [follow.lookup_of_some found, held, injective sameText]

theorem not_differing_again {stored incoming merged : Attributes V}
    (follow : AttributesFollow stored incoming merged) : ¬Differing text merged incoming :=
  fun ⟨_, value, found, differs⟩ => differs value (follow.lookup_of_some found) rfl

theorem AttributesFollow.again {stored incoming merged again : Attributes V}
    (follow : AttributesFollow stored incoming merged) (second : AttributesFollow merged incoming again)
    (name : String) : again.lookup name = merged.lookup name := by
  rw [second, follow]
  cases incoming.lookup name <;> rfl

variable [DecidableEq T]

theorem mergeAttribute_ok (state : Attributes V × Bool) (entry : Σ _ : String, V)
    (texts : ∀ before, state.1.lookup entry.1 = some before → text before ≠ none ∧ text entry.2 ≠ none) :
    ∃ told, mergeAttribute text state entry = .ok (state.1.insert entry.1 entry.2, told) ∧
      (told = true ↔ state.2 = true ∨
        ∀ before, state.1.lookup entry.1 = some before → text before ≠ text entry.2) := by
  unfold mergeAttribute
  cases found : state.1.lookup entry.1 with
  | none => exact ⟨true, rfl, by simp⟩
  | some held =>
      obtain ⟨heldText, valueText⟩ := texts held found
      obtain ⟨before, beforeText⟩ := Option.ne_none_iff_exists'.mp heldText
      obtain ⟨after, afterText⟩ := Option.ne_none_iff_exists'.mp valueText
      refine ⟨state.2 || before != after, by simp only [beforeText, afterText], ?_⟩
      simp [beforeText, afterText]

theorem mergeAttribute_error {state : Attributes V × Bool} {entry : Σ _ : String, V} {before : V}
    (found : state.1.lookup entry.1 = some before) (textless : text before = none ∨ text entry.2 = none) :
    mergeAttribute text state entry = .error .nullReference := by
  unfold mergeAttribute
  rw [found]
  obtain none | none := textless
  · simp [none]
  · cases text before <;> simp [none]

theorem foldlM_attributes_ok {entries : List (Σ _ : String, V)} (distinct : entries.NodupKeys)
    {state : Attributes V × Bool} (texts : HaveTexts text state.1 ⟨entries, distinct⟩) :
    ∃ merged told, entries.foldlM (mergeAttribute text) state = .ok (merged, told) ∧
      AttributesFollow state.1 ⟨entries, distinct⟩ merged ∧
      (told = true ↔ state.2 = true ∨ Differing text state.1 ⟨entries, distinct⟩) := by
  induction entries generalizing state with
  | nil => exact ⟨state.1, state.2, rfl, fun _ => rfl, by simp [Differing, AList.lookup]⟩
  | cons entry rest ih =>
      obtain ⟨name, value⟩ := entry
      obtain ⟨fresh, restDistinct⟩ := List.nodupKeys_cons.mp distinct
      have atName : rest.dlookup name = none := List.dlookup_eq_none.mpr fresh
      have own : (AList.mk (⟨name, value⟩ :: rest) distinct).lookup name = some value :=
        List.dlookup_cons_eq _ _ _
      have others : ∀ other, other ≠ name → (AList.mk (⟨name, value⟩ :: rest) distinct).lookup other =
          (AList.mk rest restDistinct).lookup other :=
        fun other ne => List.dlookup_cons_ne _ _ ne
      have kept : ∀ other, other ≠ name →
          (state.1.insert name value).lookup other = state.1.lookup other :=
        fun other ne => AList.lookup_insert_ne ne
      obtain ⟨first, put, firstTold⟩ := mergeAttribute_ok state ⟨name, value⟩ fun before found =>
        texts name value before own found
      have restTexts : HaveTexts text (state.1.insert name value) ⟨rest, restDistinct⟩ := by
        intro other another before inRest found
        have ne : other ≠ name := by
          rintro rfl
          exact absurd (inRest.symm.trans atName) (by simp)
        exact texts other another before ((others other ne).trans inRest) ((kept other ne).symm.trans found)
      obtain ⟨merged, told, run, follow, restTold⟩ := @ih restDistinct (state.1.insert name value, first) restTexts
      refine ⟨merged, told, by rw [List.foldlM_cons, put]; exact run, ?_, ?_⟩
      · intro other
        refine (follow other).trans ?_
        change ((AList.mk rest restDistinct).lookup other).or ((state.1.insert name value).lookup other) = _
        by_cases same : other = name
        · subst same
          rw [own, show (AList.mk rest restDistinct).lookup other = none from atName, AList.lookup_insert]
          rfl
        · rw [others other same, kept other same]
      · rw [restTold, firstTold, or_assoc]
        refine or_congr_right ⟨?_, ?_⟩
        · rintro (differs | ⟨other, another, inRest, differs⟩)
          · exact ⟨name, value, own, differs⟩
          · have ne : other ≠ name := by
              rintro rfl
              exact absurd (inRest.symm.trans atName) (by simp)
            exact ⟨other, another, (others other ne).trans inRest, fun before found =>
              differs before ((kept other ne).trans found)⟩
        · rintro ⟨other, another, inAll, differs⟩
          by_cases same : other = name
          · subst same
            cases Option.some.inj (own.symm.trans inAll)
            exact Or.inl differs
          · exact Or.inr ⟨other, another, (others other same).symm.trans inAll, fun before found =>
              differs before ((kept other same).symm.trans found)⟩

theorem mergeAttributes_ok (incoming : Attributes V) (state : Attributes V × Bool)
    (texts : HaveTexts text state.1 incoming) :
    ∃ merged told, mergeAttributes text incoming state = .ok (merged, told) ∧
      AttributesFollow state.1 incoming merged ∧
      (told = true ↔ state.2 = true ∨ Differing text state.1 incoming) :=
  foldlM_attributes_ok incoming.nodupKeys texts

theorem haveTexts_of_foldlM {entries : List (Σ _ : String, V)} (distinct : entries.NodupKeys)
    {state result : Attributes V × Bool} (run : entries.foldlM (mergeAttribute text) state = .ok result) :
    HaveTexts text state.1 ⟨entries, distinct⟩ := by
  induction entries generalizing state with
  | nil =>
      intro name value before inNone
      cases inNone
  | cons entry rest ih =>
      obtain ⟨name, value⟩ := entry
      obtain ⟨fresh, restDistinct⟩ := List.nodupKeys_cons.mp distinct
      have texts : ∀ before, state.1.lookup name = some before → text before ≠ none ∧ text value ≠ none := by
        intro before found
        by_contra textless
        rw [← not_or, not_not] at textless
        rw [List.foldlM_cons, mergeAttribute_error found textless] at run
        cases run
      obtain ⟨told, put, -⟩ := mergeAttribute_ok state ⟨name, value⟩ texts
      rw [List.foldlM_cons, put] at run
      have restTexts := ih restDistinct run
      intro other another before inAll found
      by_cases same : other = name
      · subst same
        cases Option.some.inj ((List.dlookup_cons_eq _ _ _).symm.trans inAll)
        exact texts before found
      · refine restTexts other another before ((List.dlookup_cons_ne _ _ same).symm.trans inAll) ?_
        exact (AList.lookup_insert_ne same).trans found

end Attributes

section Attributed

variable {c : FieldClass 32} [DecidableEq c.Field]

structure Merges (steps : List (MergeStep c)) (this component merged : Attributed c) (told : Bool) : Prop where
  record : merged.record = (mergeFields steps component.record (this.record, false)).1
  attributesInt : AttributesFollow this.attributesInt component.attributesInt merged.attributesInt
  attributesFloat : merged.attributesFloat = this.attributesFloat
  attributesString : AttributesFollow this.attributesString component.attributesString merged.attributesString
  told_iff : told = true ↔ (mergeFields steps component.record (this.record, false)).2 = true ∨
    Differing id this.attributesString component.attributesString ∨
      Differing some this.attributesInt component.attributesInt

structure MergesWithTexts (merge : Attributed c → Attributed c → Except SystemException (Attributed c × Bool))
    (steps : List (MergeStep c)) : Prop where
  ends : ∀ this component, HaveTexts id this.attributesString component.attributesString →
    ∃ merged told, merge this component = .ok (merged, told) ∧ Merges steps this component merged told
  texts : ∀ this component result, merge this component = .ok result →
    HaveTexts id this.attributesString component.attributesString

structure AttributesApart (stored component : Attributed c) : Prop where
  strings : ∀ name value, component.attributesString.lookup name = some value →
    value ≠ none ∧ stored.attributesString.lookup name ≠ some none
  floats : ∀ name value, component.attributesFloat.lookup name = some value →
    stored.attributesFloat.lookup name = some value

variable {merge : Attributed c → Attributed c → Except SystemException (Attributed c × Bool)}
variable {steps : List (MergeStep c)} {isKey : c.Field → Prop} {sets : List (Σ field, c.Value field)}
variable {stored component : Attributed c}

theorem attributedAppliesEdits_iff (merges : MergesWithTexts merge steps)
    (distinct : (steps.map MergeStep.field).Nodup) (settled : SelfEqual steps component.record)
    (built : component.record = Record.build c sets) :
    AttributedAppliesEdits merge isKey sets stored component ↔
      TakesEdits isKey steps sets stored.record ∧ AttributesApart stored component := by
  have stable : component.record.Stable := built ▸ Record.build_stable sets
  constructor
  · rintro ⟨merged, told, again, first, second, follows, -, floats, strings, -⟩
    have texts := merges.texts _ _ _ first
    have textsAgain := merges.texts _ _ _ second
    obtain ⟨merged', told', sameRun, facts⟩ := merges.ends _ _ texts
    cases first.symm.trans sameRun
    rw [facts.record, built, followsEdits_iff] at follows
    refine ⟨follows, ⟨fun name value found => ⟨?_, fun missing => ?_⟩, fun name value found => ?_⟩⟩
    · exact (textsAgain name value value found (strings.lookup_of_some found)).2
    · exact (texts name value none found missing).1 rfl
    · rw [← facts.attributesFloat]
      exact floats.lookup_of_some found
  · rintro ⟨takes, apart⟩
    have texts : HaveTexts id stored.attributesString component.attributesString := by
      intro name value before found held
      obtain ⟨text, heldText⟩ := apart.strings name value found
      exact ⟨fun missing => heldText (missing ▸ held), text⟩
    obtain ⟨merged, told, first, facts⟩ := merges.ends _ _ texts
    have textsAgain : HaveTexts id merged.attributesString component.attributesString := by
      intro name value before found held
      rw [facts.attributesString.lookup_of_some found] at held
      cases held
      exact ⟨(apart.strings name value found).1, (apart.strings name value found).1⟩
    obtain ⟨again, toldAgain, second, factsAgain⟩ := merges.ends _ _ textsAgain
    have stays := (mergeFields_again_untold distinct stable stored.record false).mpr settled
    have untold : toldAgain = false := by
      rw [← Bool.not_eq_true, factsAgain.told_iff, facts.record, stays, not_or, not_or]
      exact ⟨Bool.false_ne_true, not_differing_again facts.attributesString,
        not_differing_again facts.attributesInt⟩
    subst untold
    refine ⟨merged, told, again, first, second, ?_, facts.attributesInt, ?_, facts.attributesString, ?_, ?_⟩
    · rw [facts.record, built]
      exact (followsEdits_iff stored.record false).mpr takes
    · intro name
      rw [facts.attributesFloat]
      cases found : component.attributesFloat.lookup name with
      | none => rfl
      | some value => exact apart.floats name value found
    · rw [facts.told_iff, mergeFields_told_iff_changed distinct stable settled,
        differing_iff_changed Function.injective_id facts.attributesString,
        differing_iff_changed (Option.some_injective _) facts.attributesInt, ← facts.record]
      constructor
      · rintro ((changed | ⟨field, changed⟩) | changed | changed) same
        · cases changed
        · exact changed (same.record field)
        · exact changed same.attributesString
        · exact changed same.attributesInt
      · intro changed
        by_contra same
        simp only [not_or, not_exists, not_not] at same
        obtain ⟨⟨-, sameRecord⟩, sameStrings, sameInts⟩ := same
        exact changed ⟨sameRecord, sameInts, fun _ => by rw [facts.attributesFloat], sameStrings⟩
    · refine ⟨?_, facts.attributesInt.again factsAgain.attributesInt, ?_,
        facts.attributesString.again factsAgain.attributesString⟩
      · rw [factsAgain.record, facts.record]
        exact mergeFields_again_value stable stored.record false false
      · intro name
        rw [factsAgain.attributesFloat]

end Attributed

namespace Installation

def bit : Field → Option Nat
  | .key => none
  | .id | .seqno => some 0
  | .secondaryId => some 1
  | .description => some 2
  | .code => some 3
  | .validFromDate => some 4
  | .validToDate => some 5
  | .customerName => some 6
  | .customerId => some 7
  | .apartmentNo => some 8
  | .houseNo | .addressMain => some 9
  | .coInfoMain => some 10
  | .postCodeMain => some 11
  | .cityMain => some 12
  | .addressContact => some 13
  | .coInfoContact => some 14
  | .postCodeContact => some 15
  | .cityContact => some 16
  | .phoneHome => some 17
  | .phoneWork => some 18
  | .phoneMobile => some 19
  | .measurePoints => some 20

theorem bits : Bits fields bit where
  inside := fun field position own => by
    cases field <;> simp only [bit, Option.some.injEq, reduceCtorEq] at own <;> omega
  mask_eq := fun field => by cases field <;> rfl
  sets := fun _ => rfl

theorem bit_shared {field other : Field} {position : Nat} (own : bit field = some position)
    (same : bit other = some position) : field = other ∨
      field = .id ∧ other = .seqno ∨ field = .seqno ∧ other = .id ∨
        field = .houseNo ∧ other = .addressMain ∨ field = .addressMain ∧ other = .houseNo := by
  cases field <;> cases own <;> cases other <;> simp [bit] at same <;> simp

theorem merged_or (field : Field) : field ∈ mergeSteps.map MergeStep.field ∨
    field = .key ∨ field = .seqno ∨ field = .measurePoints := by
  cases field <;> decide

theorem bit_of_ne_key {field : Field} (other : field ≠ .key) : ∃ position, bit field = some position := by
  cases field <;> first | exact absurd rfl other | exact ⟨_, rfl⟩

theorem takes_iff (sets : List (Σ field, fields.Value field)) (field : Field) :
    Takes mergeSteps (Record.build fields sets) field ↔ field ∈ mergeSteps.map MergeStep.field ∧
      ∃ other, IsSet sets other ∧ ∃ position, bit other = some position ∧ bit field = some position := by
  have accepting : ∀ step ∈ mergeSteps, ∀ value, step.accepts value = true := by
    simp [mergeSteps, MergeStep.plain]
  rw [takes_iff_edited accepting, bits.edited_build_iff]

structure EditsApart (sets : List (Σ field, fields.Value field)) (stored : Record fields) : Prop where
  seqno : IsSet sets Field.seqno →
    stored.value Field.seqno = (Record.build fields sets).value Field.seqno
  measurePoints : IsSet sets Field.measurePoints →
    stored.value Field.measurePoints = (Record.build fields sets).value Field.measurePoints
  id : IsSet sets Field.seqno → ¬IsSet sets Field.id →
    stored.value Field.id = (Record.build fields sets).value Field.id
  addressMain : IsSet sets Field.houseNo → ¬IsSet sets Field.addressMain →
    stored.value Field.addressMain = (Record.build fields sets).value Field.addressMain
  houseNo : IsSet sets Field.addressMain → ¬IsSet sets Field.houseNo →
    stored.value Field.houseNo = (Record.build fields sets).value Field.houseNo

theorem takesEdits_iff (sets : List (Σ field, fields.Value field)) (stored : Record fields) :
    TakesEdits IsKey mergeSteps sets stored ↔ EditsApart sets stored := by
  have takes := takes_iff sets
  constructor
  · intro edits
    exact {
      seqno := fun isSet => edits.missed Field.seqno isSet (by simp [IsKey]) fun taken =>
        absurd ((takes _).mp taken).1 (by decide)
      measurePoints := fun isSet => edits.missed Field.measurePoints isSet (by simp [IsKey]) fun taken =>
        absurd ((takes _).mp taken).1 (by decide)
      id := fun isSet unset => edits.shared Field.id unset
        ((takes _).mpr ⟨by decide, Field.seqno, isSet, 0, rfl, rfl⟩)
      addressMain := fun isSet unset => edits.shared Field.addressMain unset
        ((takes _).mpr ⟨by decide, Field.houseNo, isSet, 9, rfl, rfl⟩)
      houseNo := fun isSet unset => edits.shared Field.houseNo unset
        ((takes _).mpr ⟨by decide, Field.addressMain, isSet, 9, rfl, rfl⟩) }
  · intro apart
    refine ⟨fun field isSet notKey untaken => ?_, fun field unset taken => ?_⟩
    · obtain merged | rfl | rfl | rfl := merged_or field
      · obtain ⟨position, own⟩ := bit_of_ne_key notKey
        exact absurd ((takes field).mpr ⟨merged, field, isSet, position, own, own⟩) untaken
      · exact absurd rfl notKey
      · exact apart.seqno isSet
      · exact apart.measurePoints isSet
    · obtain ⟨merged, other, isSet, position, same, own⟩ := (takes field).mp taken
      obtain rfl | ⟨rfl, rfl⟩ | ⟨rfl, rfl⟩ | ⟨rfl, rfl⟩ | ⟨rfl, rfl⟩ := bit_shared own same
      · exact absurd isSet unset
      · exact apart.id isSet unset
      · exact absurd merged (by decide)
      · exact apart.houseNo isSet unset
      · exact apart.addressMain isSet unset

theorem appliesEdits_iff (sets : List (Σ field, fields.Value field)) (stored : Record fields) :
    AppliesEdits merge IsKey sets stored ↔ EditsApart sets stored := by
  have noSingle : ∀ field, kind field ≠ .single := fun field => by cases field <;> decide
  have settled : SelfEqual mergeSteps (Record.build fields sets) :=
    fun field _ => (kind field).differs_self _ (noSingle field)
  have distinct : (mergeSteps.map MergeStep.field).Nodup := by decide
  unfold merge
  rw [Metering.appliesEdits_iff distinct, takesEdits_iff, and_iff_left settled]

end Installation

namespace MeasurePoint

theorem not_appliesEdits (sets : List (Σ field, fields.Value field)) (stored : Record fields) :
    ¬AppliesEdits merge IsKey sets stored := by
  intro applies
  have distinct : (mergeSteps.map MergeStep.field).Nodup := by decide
  have told : ∀ this measurePoint : Record fields, (merge this measurePoint).2 = true :=
    fun _ _ => (mergeFields_told distinct).mpr (Or.inl rfl)
  have untold := applies.untold
  rw [told] at untold
  cases untold

end MeasurePoint

namespace Register

def bit : Field → Option Nat
  | .key | .registerNumber | .iecDirectionOfFlow => none
  | .capacityDigits => some 0
  | .capacityDecimals => some 1
  | .state => some 2
  | .validFromDate => some 3
  | .validToDate => some 4
  | .meteringConstant => some 5
  | .pulseConstant => some 6
  | .wayOfRegistration => some 7
  | .measureUnitCode => some 8
  | .directionOfFlow => some 9
  | .remoteMetering => some 10
  | .meteringFunctionCode => some 11
  | .meterID => some 12
  | .valueType => some 13
  | .annualConsumption => some 14

theorem bits : Bits fields bit where
  inside := fun field position own => by
    cases field <;> simp only [bit, Option.some.injEq, reduceCtorEq] at own <;> omega
  mask_eq := fun field => by cases field <;> rfl
  sets := fun _ => rfl

theorem bit_apart (field other : Field) (position : Nat) (own : bit field = some position)
    (same : bit other = some position) : field = other := by
  cases field <;> cases own <;> cases other <;> first | rfl | cases same

structure EditsApart (sets : List (Σ field, fields.Value field)) (stored : Record fields) : Prop where
  meteringFunctionCode : IsSet sets Field.meteringFunctionCode →
    stored.value Field.meteringFunctionCode = (Record.build fields sets).value Field.meteringFunctionCode
  valueType : IsSet sets Field.valueType →
    stored.value Field.valueType = (Record.build fields sets).value Field.valueType
  iecDirectionOfFlow : IsSet sets Field.iecDirectionOfFlow →
    stored.value Field.iecDirectionOfFlow = (Record.build fields sets).value Field.iecDirectionOfFlow
  pulseConstant : IsSet sets Field.pulseConstant →
    (Record.build fields sets).value Field.pulseConstant ≠ Single.nan
  annualConsumption : IsSet sets Field.annualConsumption →
    (Record.build fields sets).value Field.annualConsumption ≠ Single.nan

theorem accepting : ∀ step ∈ mergeSteps, ∀ value, step.accepts value = true := by
  simp [mergeSteps, MergeStep.plain]

theorem merged_or (field : Field) : field ∈ mergeSteps.map MergeStep.field ∨ IsKey field ∨
    field = .meteringFunctionCode ∨ field = .valueType ∨ field = .iecDirectionOfFlow := by
  cases field <;> simp only [IsKey] <;> decide

theorem takesEdits_iff (sets : List (Σ field, fields.Value field)) (stored : Record fields) :
    TakesEdits IsKey mergeSteps sets stored ↔
      ∀ field ∈ [Field.meteringFunctionCode, .valueType, .iecDirectionOfFlow], IsSet sets field →
        stored.value field = (Record.build fields sets).value field := by
  rw [bits.takesEdits_iff_of_apart bit_apart accepting (by decide)]
  constructor
  · intro missed field member isSet
    refine missed field isSet ?_ ?_
    · simp only [List.mem_cons, List.not_mem_nil, or_false] at member
      obtain rfl | rfl | rfl := member <;> simp [IsKey]
    · simp only [List.mem_cons, List.not_mem_nil, or_false] at member
      obtain rfl | rfl | rfl := member <;> decide
  · intro left field isSet notKey unmerged
    obtain merged | key | rest := merged_or field
    · exact absurd merged unmerged
    · exact absurd key notKey
    · exact left field (by simpa using rest) isSet

theorem settled_iff (sets : List (Σ field, fields.Value field)) :
    SelfEqual mergeSteps (Record.build fields sets) ↔
      ∀ field ∈ [Field.pulseConstant, .annualConsumption], IsSet sets field →
        fields.differs field ((Record.build fields sets).value field)
          ((Record.build fields sets).value field) = false := by
  have takes := @Bits.takes_iff_of_apart _ _ _ _ _ sets bits bit_apart accepting
  constructor
  · intro settled field member isSet
    simp only [List.mem_cons, List.not_mem_nil, or_false] at member
    refine settled field ((takes field).mpr ⟨?_, isSet, ?_⟩)
    · obtain rfl | rfl := member <;> decide
    · obtain rfl | rfl := member <;> rfl
  · intro numbers field taken
    by_cases single : kind field = .single
    · refine numbers field ?_ ((takes field).mp taken).2.1
      cases field <;> first | decide | cases single
    · exact (kind field).differs_self _ single

theorem appliesEdits_iff (sets : List (Σ field, fields.Value field)) (stored : Record fields) :
    AppliesEdits merge IsKey sets stored ↔ EditsApart sets stored := by
  have distinct : (mergeSteps.map MergeStep.field).Nodup := by decide
  unfold merge
  rw [Metering.appliesEdits_iff distinct, takesEdits_iff, settled_iff]
  simp only [List.forall_mem_cons, List.not_mem_nil, IsEmpty.forall_iff, implies_true, and_true]
  have number : ∀ value : Single, fields.differs .pulseConstant value value = false ↔ value ≠ .nan :=
    Single.differs_self_iff
  constructor
  · rintro ⟨⟨functionCode, valueType, flow⟩, pulse, annual⟩
    exact ⟨functionCode, valueType, flow, fun isSet => (number _).mp (pulse isSet),
      fun isSet => (number _).mp (annual isSet)⟩
  · intro apart
    exact ⟨⟨apart.meteringFunctionCode, apart.valueType, apart.iecDirectionOfFlow⟩,
      fun isSet => (number _).mpr (apart.pulseConstant isSet),
      fun isSet => (number _).mpr (apart.annualConsumption isSet)⟩

end Register

namespace Component

def steps {c : FieldClass 32} (own : Field → c.Field) : List (MergeStep c) :=
  mergeOrder.map fun field => MergeStep.plain (own field)

theorem mergeInto_eq {c : FieldClass 32} [DecidableEq c.Field] (own : Field → c.Field)
    (this component : Attributed c) : mergeInto own this component =
      (mergeAttributes id component.attributesString
        (this.attributesString, (mergeFields (steps own) component.record (this.record, false)).2)).bind
          fun strings => (mergeAttributes some component.attributesInt (this.attributesInt, strings.2)).bind
            fun ints => .ok (⟨(mergeFields (steps own) component.record (this.record, false)).1, ints.1,
              this.attributesFloat, strings.1⟩, ints.2) :=
  rfl

theorem mergesWithTexts {c : FieldClass 32} [DecidableEq c.Field] (own : Field → c.Field) :
    MergesWithTexts (mergeInto own) (steps own) where
  ends := by
    intro this component texts
    obtain ⟨attributesString, toldStrings, strings, stringsFollow, stringsTold⟩ :=
      mergeAttributes_ok component.attributesString (this.attributesString,
        (mergeFields (steps own) component.record (this.record, false)).2) texts
    have intTexts : HaveTexts some this.attributesInt component.attributesInt := by
      intro name value before _ _
      simp
    obtain ⟨attributesInt, told, ints, intsFollow, intsTold⟩ :=
      mergeAttributes_ok component.attributesInt (this.attributesInt, toldStrings) intTexts
    refine ⟨⟨(mergeFields (steps own) component.record (this.record, false)).1, attributesInt,
      this.attributesFloat, attributesString⟩, told, ?_, rfl, intsFollow, rfl, stringsFollow, ?_⟩
    · simp only [mergeInto_eq, strings, Except.bind, ints]
    · rw [intsTold, stringsTold, or_assoc]
  texts := by
    intro this component result run
    rw [mergeInto_eq] at run
    cases strings : mergeAttributes id component.attributesString
        (this.attributesString, (mergeFields (steps own) component.record (this.record, false)).2) with
    | error exception =>
        rw [strings] at run
        cases run
    | ok merged => exact haveTexts_of_foldlM component.attributesString.nodupKeys strings

def bit : Field → Option Nat
  | .key | .measKey | .monitorKey2 | .monitorPeriod => none
  | .id => some 0
  | .location => some 1
  | .masterName => some 2
  | .validFromDate => some 3
  | .validToDate => some 4
  | .state => some 5

theorem bits : Bits fields bit where
  inside := fun field position own => by
    cases field <;> simp only [bit, Option.some.injEq, reduceCtorEq] at own <;> omega
  mask_eq := fun field => by cases field <;> rfl
  sets := fun _ => rfl

theorem bit_apart (field other : Field) (position : Nat) (own : bit field = some position)
    (same : bit other = some position) : field = other := by
  cases field <;> cases own <;> cases other <;> first | rfl | cases same

theorem noSingle (field : Field) : kind field ≠ .single := by
  cases field <;> decide

theorem merged_or (field : Field) : field ∈ mergeOrder ∨ IsKey field ∨ field = .monitorPeriod := by
  cases field <;> simp only [IsKey] <;> decide

structure EditsApart (sets : List (Σ field, fields.Value field)) (stored component : Attributed fields) :
    Prop where
  monitorPeriod : IsSet sets Field.monitorPeriod →
    stored.record.value Field.monitorPeriod = component.record.value Field.monitorPeriod
  attributes : AttributesApart stored component

theorem takesEdits_iff (sets : List (Σ field, fields.Value field)) (stored : Record fields) :
    TakesEdits IsKey (steps fun own => own) sets stored ↔ (IsSet sets Field.monitorPeriod →
      stored.value Field.monitorPeriod = (Record.build fields sets).value Field.monitorPeriod) := by
  have accepting : ∀ step ∈ (steps fun own => own : List (MergeStep fields)), ∀ value,
      step.accepts value = true := by
    simp [steps, mergeOrder, MergeStep.plain]
  rw [bits.takesEdits_iff_of_apart bit_apart accepting (by decide)]
  constructor
  · intro missed isSet
    exact missed Field.monitorPeriod isSet (by simp [IsKey]) (by decide)
  · intro left field isSet notKey unmerged
    obtain merged | key | rfl := merged_or field
    · exact absurd (by simpa [steps, MergeStep.plain] using merged) unmerged
    · exact absurd key notKey
    · exact left isSet

theorem appliesEdits_iff (sets : List (Σ field, fields.Value field)) (stored component : Attributed fields)
    (built : component.record = Record.build fields sets) :
    AttributedAppliesEdits merge IsKey sets stored component ↔ EditsApart sets stored component := by
  have settled : SelfEqual (steps fun own => own) component.record :=
    fun field _ => (kind field).differs_self _ (noSingle field)
  have distinct : ((steps fun own => own : List (MergeStep fields)).map MergeStep.field).Nodup := by decide
  have merges : MergesWithTexts merge (steps fun own => own) :=
    @mergesWithTexts fields _ fun own => own
  rw [attributedAppliesEdits_iff merges distinct settled built, takesEdits_iff, ← built]
  exact ⟨fun ⟨period, attributes⟩ => ⟨period, attributes⟩, fun apart => ⟨apart.monitorPeriod, apart.attributes⟩⟩

end Component

namespace Meter

def componentSteps : List (MergeStep fields) := Component.steps Field.component

def ownSteps : List (MergeStep fields) := [.plain Field.terminalComponentId, .plain Field.registers]

def steps : List (MergeStep fields) := componentSteps ++ ownSteps

theorem merge_eq (this meter : Attributed fields) : merge this meter =
    (Component.mergeInto Field.component this meter).bind fun merged =>
      .ok ({ merged.1 with record := (mergeFields ownSteps meter.record (merged.1.record, merged.2)).1 },
        (mergeFields ownSteps meter.record (merged.1.record, merged.2)).2) :=
  rfl

theorem mergesAsComponent :
    MergesWithTexts (@Component.mergeInto fields _ Field.component) componentSteps :=
  @Component.mergesWithTexts fields _ Field.component

theorem mergesWithTexts : MergesWithTexts merge steps where
  ends := by
    intro this meter texts
    obtain ⟨merged, told, run, facts⟩ := mergesAsComponent.ends this meter texts
    have whole := mergeFields_append componentSteps ownSteps meter.record this.record false
    rw [mergeFields_edited (mergeFields componentSteps meter.record (this.record, false)).1, ← facts.record]
      at whole
    have last : mergeFields ownSteps meter.record (merged.record, told) =
        ((mergeFields ownSteps meter.record (merged.record, false)).1,
          told || (mergeFields ownSteps meter.record (merged.record, false)).2) :=
      mergeFields_edited merged.record told
    refine ⟨{ merged with record := (mergeFields ownSteps meter.record (merged.record, false)).1 },
      told || (mergeFields ownSteps meter.record (merged.record, false)).2, ?_, ?_⟩
    · rw [merge_eq, run]
      change Except.ok (_, _) = _
      rw [last]
    · refine ⟨?_, facts.attributesInt, facts.attributesFloat, facts.attributesString, ?_⟩
      · rw [steps, whole]
      · rw [steps, whole, Bool.or_eq_true, Bool.or_eq_true, facts.told_iff]
        tauto
  texts := by
    intro this meter result run
    rw [merge_eq] at run
    cases merged : Component.mergeInto Field.component this meter with
    | error exception =>
        rw [merged] at run
        cases run
    | ok inner => exact mergesAsComponent.texts this meter inner merged

def bit : Field → Option Nat
  | .component own => Component.bit own
  | .terminalComponentId => some 6
  | .registers => some 7

theorem bits : Bits fields bit where
  inside := fun field position own => by
    cases field with
    | component inner => exact Component.bits.inside inner position own
    | terminalComponentId => cases own; decide
    | registers => cases own; decide
  mask_eq := fun field => by
    cases field with
    | component inner => exact Component.bits.mask_eq inner
    | terminalComponentId => rfl
    | registers => rfl
  sets := fun _ => rfl

theorem bit_apart (field other : Field) (position : Nat) (own : bit field = some position)
    (same : bit other = some position) : field = other := by
  have small : ∀ (inner : Component.Field) position, Component.bit inner = some position → position < 6 := by
    intro inner position marked
    cases inner <;> cases marked <;> decide
  cases field with
  | component inner =>
      cases other with
      | component another => rw [Component.bit_apart inner another position own same]
      | terminalComponentId => cases same; exact absurd (small inner 6 own) (by decide)
      | registers => cases same; exact absurd (small inner 7 own) (by decide)
  | terminalComponentId =>
      cases own
      cases other with
      | component another => exact absurd (small another 6 same) (by decide)
      | terminalComponentId => rfl
      | registers => cases same
  | registers =>
      cases own
      cases other with
      | component another => exact absurd (small another 7 same) (by decide)
      | terminalComponentId => cases same
      | registers => rfl

theorem noSingle (field : Field) : kind field ≠ .single := by
  cases field with
  | component inner => exact Component.noSingle inner
  | terminalComponentId => decide
  | registers => decide

structure EditsApart (sets : List (Σ field, fields.Value field)) (stored meter : Attributed fields) :
    Prop where
  monitorPeriod : IsSet sets (Field.component .monitorPeriod) →
    stored.record.value (Field.component .monitorPeriod) = meter.record.value (Field.component .monitorPeriod)
  attributes : AttributesApart stored meter

theorem takesEdits_iff (sets : List (Σ field, fields.Value field)) (stored : Record fields) :
    TakesEdits IsKey steps sets stored ↔ (IsSet sets (Field.component .monitorPeriod) →
      stored.value (Field.component .monitorPeriod) =
        (Record.build fields sets).value (Field.component .monitorPeriod)) := by
  have accepting : ∀ step ∈ steps, ∀ value, step.accepts value = true := by
    simp [steps, componentSteps, ownSteps, Component.steps, Component.mergeOrder, MergeStep.plain]
  rw [bits.takesEdits_iff_of_apart bit_apart accepting (by decide)]
  constructor
  · intro missed isSet
    exact missed (Field.component .monitorPeriod) isSet (by simp [IsKey, Component.IsKey]) (by decide)
  · intro left field isSet notKey unmerged
    cases field with
    | component inner =>
        obtain merged | key | rfl := Component.merged_or inner
        · have inSteps : Field.component inner ∈ steps.map MergeStep.field := by
            rw [steps, List.map_append, componentSteps, Component.steps, List.map_map]
            exact List.mem_append_left _ (List.mem_map_of_mem merged)
          exact absurd inSteps unmerged
        · exact absurd key notKey
        · exact left isSet
    | terminalComponentId => exact absurd (by decide) unmerged
    | registers => exact absurd (by decide) unmerged

theorem appliesEdits_iff (sets : List (Σ field, fields.Value field)) (stored meter : Attributed fields)
    (built : meter.record = Record.build fields sets) :
    AttributedAppliesEdits merge IsKey sets stored meter ↔ EditsApart sets stored meter := by
  have settled : SelfEqual steps meter.record :=
    fun field _ => (kind field).differs_self _ (noSingle field)
  have distinct : (steps.map MergeStep.field).Nodup := by decide
  rw [attributedAppliesEdits_iff mergesWithTexts distinct settled built, takesEdits_iff, ← built]
  exact ⟨fun ⟨period, attributes⟩ => ⟨period, attributes⟩, fun apart => ⟨apart.monitorPeriod, apart.attributes⟩⟩

end Meter

section Entities

inductive EntityEdits
  | installation (sets : List (Σ field, Installation.fields.Value field)) (stored : Record Installation.fields)
  | measurePoint (sets : List (Σ field, MeasurePoint.fields.Value field)) (stored : Record MeasurePoint.fields)
  | register (sets : List (Σ field, Register.fields.Value field)) (stored : Record Register.fields)
  | component (sets : List (Σ field, Component.fields.Value field)) (ints : Attributes Int)
      (floats : Attributes Single) (strings : Attributes (Option String)) (stored : Attributed Component.fields)
  | meter (sets : List (Σ field, Meter.fields.Value field)) (ints : Attributes Int)
      (floats : Attributes Single) (strings : Attributes (Option String)) (stored : Attributed Meter.fields)

namespace EntityEdits

def Applies : EntityEdits → Prop
  | installation sets stored => AppliesEdits Installation.merge Installation.IsKey sets stored
  | measurePoint sets stored => AppliesEdits MeasurePoint.merge MeasurePoint.IsKey sets stored
  | register sets stored => AppliesEdits Register.merge Register.IsKey sets stored
  | component sets ints floats strings stored =>
      AttributedAppliesEdits Component.merge Component.IsKey sets stored
        ⟨Record.build Component.fields sets, ints, floats, strings⟩
  | meter sets ints floats strings stored =>
      AttributedAppliesEdits Meter.merge Meter.IsKey sets stored
        ⟨Record.build Meter.fields sets, ints, floats, strings⟩

def Apart : EntityEdits → Prop
  | installation sets stored => Installation.EditsApart sets stored
  | measurePoint _ _ => False
  | register sets stored => Register.EditsApart sets stored
  | component sets ints floats strings stored =>
      Component.EditsApart sets stored ⟨Record.build Component.fields sets, ints, floats, strings⟩
  | meter sets ints floats strings stored =>
      Meter.EditsApart sets stored ⟨Record.build Meter.fields sets, ints, floats, strings⟩

end EntityEdits

/-- A merge applies exactly the edits when they keep apart from what the class mixes up or
leaves out. `MeasurePoint.Merge` does so for no edits. -/
theorem merge_applies_edits_iff (edits : EntityEdits) : edits.Applies ↔ edits.Apart := by
  cases edits with
  | installation sets stored => exact Installation.appliesEdits_iff sets stored
  | measurePoint sets stored => exact iff_of_false (MeasurePoint.not_appliesEdits sets stored) not_false
  | register sets stored => exact Register.appliesEdits_iff sets stored
  | component sets ints floats strings stored => exact Component.appliesEdits_iff sets stored _ rfl
  | meter sets ints floats strings stored => exact Meter.appliesEdits_iff sets stored _ rfl

def storedInstallation : Record Installation.fields :=
  Record.build Installation.fields [⟨Installation.Field.addressMain, some "Storgata 1"⟩]

/-- Setting nothing but the house number takes the address away. -/
theorem house_number_clears_address :
    ¬AppliesEdits Installation.merge Installation.IsKey
      [⟨Installation.Field.houseNo, some "2"⟩] storedInstallation := by
  intro applies
  have apart := (Installation.appliesEdits_iff _ _).mp applies
  have same := apart.addressMain (by decide) (by decide)
  have address : storedInstallation.value Installation.Field.addressMain = some "Storgata 1" := rfl
  have missing : (Record.build Installation.fields [⟨Installation.Field.houseNo, some "2"⟩]).value
      Installation.Field.addressMain = (none : Option String) := rfl
  rw [address, missing] at same
  cases same

end Entities

end ServiceHost.Metering
