import Mathlib.Data.BitVec
import Mathlib.Data.List.Nodup
import Mathlib.Logic.Function.Basic

/-!
Records that remember in the bits of a word which of their fields were written, and
merging such a record into another one by a list of steps. The values after a merge and
what it tells are described by the steps that are taken; which steps are taken is
described by the bits that fields have in common.
-/

namespace ServiceHost.Library

/-- The fields of a class of records. A field stores what `store` makes of a value, and
`differs` is the comparison by which a merge decides whether to write. Writing a field
sets the bits of its mask, or clears them. -/
structure FieldClass (w : Nat) where
  Field : Type
  Value : Field → Type
  initial : ∀ field, Value field
  store : ∀ field, Value field → Value field
  differs : ∀ field, Value field → Value field → Bool
  mask : Field → Option (BitVec w)
  clears : Field → Bool
  store_store : ∀ field value, store field (store field value) = store field value
  store_initial : ∀ field, store field (initial field) = initial field
  eq_of_not_differs : ∀ field value other, differs field value other = false → value = other

structure Record {w : Nat} (c : FieldClass w) where
  value : ∀ field, c.Value field
  edits : BitVec w

structure MergeStep {w : Nat} (c : FieldClass w) where
  field : c.Field
  accepts : c.Value field → Bool
  /-- Whether the step writes as everybody does, or past the word of edits. -/
  marks : Bool

section EditedFields

variable {w : Nat} {c : FieldClass w}

def MergeStep.plain (field : c.Field) : MergeStep c := ⟨field, fun _ => true, true⟩

namespace Record

def new (c : FieldClass w) : Record c := ⟨c.initial, 0⟩

def edited (record : Record c) (field : c.Field) : Bool :=
  match c.mask field with
  | none => false
  | some mask => record.edits &&& mask == mask

def mark (c : FieldClass w) (field : c.Field) (edits : BitVec w) : BitVec w :=
  match c.mask field with
  | none => edits
  | some mask => if c.clears field then edits &&& ~~~mask else edits ||| mask

variable [DecidableEq c.Field]

def write (record : Record c) (field : c.Field) (value : c.Value field) : Record c :=
  { record with value := Function.update record.value field value }

def set (record : Record c) (field : c.Field) (value : c.Value field) : Record c where
  value := Function.update record.value field (c.store field value)
  edits := mark c field record.edits

def build (c : FieldClass w) [DecidableEq c.Field] (sets : List (Σ field, c.Value field)) : Record c :=
  sets.foldl (fun record edit => record.set edit.1 edit.2) (new c)

end Record

def IsSet (sets : List (Σ field, c.Value field)) (field : c.Field) : Prop := field ∈ sets.map Sigma.fst

instance [DecidableEq c.Field] (sets : List (Σ field, c.Value field)) (field : c.Field) :
    Decidable (IsSet sets field) :=
  inferInstanceAs (Decidable (_ ∈ _))

def MergeStep.takes (step : MergeStep c) (incoming : Record c) : Bool :=
  incoming.edited step.field && step.accepts (incoming.value step.field)

def Takes (steps : List (MergeStep c)) (incoming : Record c) (field : c.Field) : Prop :=
  ∃ step ∈ steps, step.field = field ∧ step.takes incoming = true

theorem takes_iff_edited {steps : List (MergeStep c)} {incoming : Record c}
    (accepting : ∀ step ∈ steps, ∀ value, step.accepts value = true)
    (field : c.Field) :
    Takes steps incoming field ↔ field ∈ steps.map MergeStep.field ∧ incoming.edited field = true := by
  simp only [Takes, List.mem_map, MergeStep.takes, Bool.and_eq_true]
  constructor
  · rintro ⟨step, member, rfl, edited, -⟩
    exact ⟨⟨step, member, rfl⟩, edited⟩
  · rintro ⟨⟨step, member, rfl⟩, edited⟩
    exact ⟨step, member, rfl, edited, accepting step member _⟩

section Merge

variable [DecidableEq c.Field]

def MergeStep.assign (step : MergeStep c) (record : Record c) (value : c.Value step.field) : Record c :=
  if step.marks then record.set step.field value else record.write step.field value

def mergeStep (incoming : Record c) (state : Record c × Bool) (step : MergeStep c) : Record c × Bool :=
  if step.takes incoming && c.differs step.field (state.1.value step.field) (incoming.value step.field) then
    (step.assign state.1 (incoming.value step.field), true)
  else state

/-- Merges field after field, and tells whether one of them was written. -/
def mergeFields (steps : List (MergeStep c)) (incoming : Record c) (state : Record c × Bool) :
    Record c × Bool :=
  steps.foldl (mergeStep incoming) state

variable {steps : List (MergeStep c)} {incoming : Record c} {state : Record c × Bool} {field : c.Field}

/-- Every value of the record is one that its field stores as it is. -/
def Record.Stable (record : Record c) : Prop := ∀ field, c.store field (record.value field) = record.value field

theorem Record.build_stable (sets : List (Σ field, c.Value field)) : (Record.build c sets).Stable := by
  have preserved : ∀ (record : Record c), record.Stable →
      (sets.foldl (fun record edit => record.set edit.1 edit.2) record).Stable := by
    induction sets with
    | nil => exact fun _ stable => stable
    | cons edit rest ih =>
        refine fun record stable => ih _ fun field => ?_
        by_cases same : field = edit.1
        · subst same
          simp only [Record.set, Function.update_self, c.store_store]
        · simp only [Record.set, Function.update_of_ne same, stable field]
  exact preserved _ c.store_initial

theorem MergeStep.assign_value_self {step : MergeStep c} {record : Record c} {value : c.Value step.field}
    (stable : c.store step.field value = value) : (step.assign record value).value step.field = value := by
  unfold MergeStep.assign
  split
  · simp only [Record.set, Function.update_self, stable]
  · simp only [Record.write, Function.update_self]

theorem MergeStep.assign_value_of_ne {step : MergeStep c} {record : Record c} {value : c.Value step.field}
    (other : field ≠ step.field) : (step.assign record value).value field = record.value field := by
  unfold MergeStep.assign
  split
  · simp only [Record.set, Function.update_of_ne other]
  · simp only [Record.write, Function.update_of_ne other]

theorem mergeStep_value_self {step : MergeStep c} (stable : incoming.Stable)
    (taken : step.takes incoming = true) :
    (mergeStep incoming state step).1.value step.field = incoming.value step.field := by
  unfold mergeStep
  split
  · exact MergeStep.assign_value_self (stable _)
  · rename_i same
    simp only [taken, Bool.true_and, Bool.not_eq_true] at same
    exact c.eq_of_not_differs _ _ _ same

theorem mergeStep_value_of_ne {step : MergeStep c} (other : field ≠ step.field) :
    (mergeStep incoming state step).1.value field = state.1.value field := by
  unfold mergeStep
  split
  · exact MergeStep.assign_value_of_ne other
  · rfl

theorem mergeStep_of_not_takes {step : MergeStep c} (left : step.takes incoming = false) :
    mergeStep incoming state step = state := by
  simp [mergeStep, left]

theorem mergeFields_value_of_not_takes (left : ¬Takes steps incoming field) :
    (mergeFields steps incoming state).1.value field = state.1.value field := by
  induction steps generalizing state with
  | nil => rfl
  | cons step rest ih =>
      have rests : ¬Takes rest incoming field :=
        fun ⟨other, member, facts⟩ => left ⟨other, List.mem_cons_of_mem _ member, facts⟩
      rw [mergeFields, List.foldl_cons, ← mergeFields, ih rests]
      by_cases same : field = step.field
      · have untaken : step.takes incoming = false :=
          Bool.eq_false_iff.mpr fun taken => left ⟨step, List.mem_cons_self, same.symm, taken⟩
        rw [mergeStep_of_not_takes untaken]
      · exact mergeStep_value_of_ne same

theorem mergeFields_value_of_takes (stable : incoming.Stable) (taken : Takes steps incoming field) :
    (mergeFields steps incoming state).1.value field = incoming.value field := by
  induction steps generalizing state with
  | nil =>
      obtain ⟨step, member, -⟩ := taken
      cases member
  | cons step rest ih =>
      rw [mergeFields, List.foldl_cons, ← mergeFields]
      by_cases rests : Takes rest incoming field
      · exact ih rests
      · obtain ⟨taker, member, rfl, takes⟩ := taken
        rw [mergeFields_value_of_not_takes rests]
        obtain rfl | inRest := List.mem_cons.mp member
        · exact mergeStep_value_self stable takes
        · exact absurd ⟨taker, inRest, rfl, takes⟩ rests

theorem mergeFields_told (distinct : (steps.map MergeStep.field).Nodup) :
    (mergeFields steps incoming state).2 = true ↔
      state.2 = true ∨ ∃ field, Takes steps incoming field ∧
        c.differs field (state.1.value field) (incoming.value field) = true := by
  induction steps generalizing state with
  | nil => simp [mergeFields, Takes]
  | cons step rest ih =>
      obtain ⟨fresh, distinct⟩ := List.nodup_cons.mp distinct
      have kept : ∀ field, Takes rest incoming field →
          (mergeStep incoming state step).1.value field = state.1.value field := by
        rintro _ ⟨other, member, rfl, -⟩
        exact mergeStep_value_of_ne fun same =>
          fresh (same ▸ List.mem_map_of_mem (f := MergeStep.field) member)
      have first : (mergeStep incoming state step).2 = true ↔ state.2 = true ∨
          step.takes incoming = true ∧
            c.differs step.field (state.1.value step.field) (incoming.value step.field) = true := by
        unfold mergeStep
        split
        · rename_i both
          simpa using Or.inr (by simpa using both)
        · rename_i notBoth
          simp only [Bool.and_eq_true] at notBoth
          simp [notBoth]
      rw [mergeFields, List.foldl_cons, ← mergeFields, ih distinct, first, or_assoc]
      refine or_congr_right ⟨?_, ?_⟩
      · rintro (⟨taken, differs⟩ | ⟨field, taken, differs⟩)
        · exact ⟨step.field, ⟨step, List.mem_cons_self, rfl, taken⟩, differs⟩
        · rw [kept field taken] at differs
          obtain ⟨other, member, facts⟩ := taken
          exact ⟨field, ⟨other, List.mem_cons_of_mem _ member, facts⟩, differs⟩
      · rintro ⟨field, ⟨other, member, rfl, taken⟩, differs⟩
        obtain rfl | inRest := List.mem_cons.mp member
        · exact Or.inl ⟨taken, differs⟩
        · refine Or.inr ⟨other.field, ⟨other, inRest, rfl, taken⟩, ?_⟩
          rw [kept other.field ⟨other, inRest, rfl, taken⟩]
          exact differs

theorem mergeFields_edited (stored : Record c) (edited : Bool) :
    mergeFields steps incoming (stored, edited) =
      ((mergeFields steps incoming (stored, false)).1,
        edited || (mergeFields steps incoming (stored, false)).2) := by
  induction steps generalizing stored edited with
  | nil => simp [mergeFields]
  | cons step rest ih =>
      have first : ∀ before, mergeStep incoming (stored, before) step =
          ((mergeStep incoming (stored, false) step).1,
            before || (mergeStep incoming (stored, false) step).2) := by
        intro before
        unfold mergeStep
        split <;> simp
      have turn : ∀ before, mergeFields (step :: rest) incoming (stored, before) =
          mergeFields rest incoming (mergeStep incoming (stored, before) step) := fun _ => rfl
      rw [turn, turn, first edited, ih, ih _ (mergeStep incoming (stored, false) step).2, Bool.or_assoc]

theorem mergeFields_of_not_told (quiet : (mergeFields steps incoming state).2 = false) :
    (mergeFields steps incoming state).1 = state.1 := by
  induction steps generalizing state with
  | nil => rfl
  | cons step rest ih =>
      have turn : mergeFields (step :: rest) incoming state =
          mergeFields rest incoming (mergeStep incoming state step) := rfl
      rw [turn] at quiet ⊢
      rw [ih quiet]
      have both := (@mergeFields_edited _ _ _ rest incoming)
        (mergeStep incoming state step).1 (mergeStep incoming state step).2
      have untold : (mergeStep incoming state step).2 = false := by
        have together := (congrArg Prod.snd both).symm.trans quiet
        exact (Bool.or_eq_false_iff.mp together).1
      unfold mergeStep at untold ⊢
      split
      · rename_i written
        rw [if_pos written] at untold
        cases untold
      · rfl

theorem mergeFields_append (steps later : List (MergeStep c)) (incoming stored : Record c) (edited : Bool) :
    mergeFields (steps ++ later) incoming (stored, edited) =
      mergeFields later incoming
        ((mergeFields steps incoming (stored, edited)).1, (mergeFields steps incoming (stored, edited)).2) :=
  List.foldl_append

/-- What the record has of the fields after a merge agrees with what was set. -/
structure FollowsEdits (isKey : c.Field → Prop) (sets : List (Σ field, c.Value field))
    (stored merged : Record c) : Prop where
  taken : ∀ field, IsSet sets field → ¬isKey field →
    merged.value field = (Record.build c sets).value field
  kept : ∀ field, ¬IsSet sets field → merged.value field = stored.value field

/-- The steps take the fields that were set and no others, up to values that the two
records have in common. -/
structure TakesEdits (isKey : c.Field → Prop) (steps : List (MergeStep c))
    (sets : List (Σ field, c.Value field)) (stored : Record c) : Prop where
  missed : ∀ field, IsSet sets field → ¬isKey field → ¬Takes steps (Record.build c sets) field →
    stored.value field = (Record.build c sets).value field
  shared : ∀ field, ¬IsSet sets field → Takes steps (Record.build c sets) field →
    stored.value field = (Record.build c sets).value field

variable {isKey : c.Field → Prop} {sets : List (Σ field, c.Value field)}

theorem followsEdits_iff (stored : Record c) (edited : Bool) :
    FollowsEdits isKey sets stored (mergeFields steps (Record.build c sets) (stored, edited)).1 ↔
      TakesEdits isKey steps sets stored := by
  have taken : ∀ field, Takes steps (Record.build c sets) field →
      (mergeFields steps (Record.build c sets) (stored, edited)).1.value field =
        (Record.build c sets).value field :=
    fun field => mergeFields_value_of_takes (Record.build_stable sets)
  have left : ∀ field, ¬Takes steps (Record.build c sets) field →
      (mergeFields steps (Record.build c sets) (stored, edited)).1.value field = stored.value field :=
    fun field => mergeFields_value_of_not_takes
  constructor
  · intro follows
    exact {
      missed := fun field isSet notKey untaken => by
        rw [← left field untaken]
        exact follows.taken field isSet notKey
      shared := fun field unset takes => by
        rw [← taken field takes]
        exact (follows.kept field unset).symm }
  · intro takes
    refine ⟨fun field isSet notKey => ?_, fun field unset => ?_⟩
    · by_cases inSteps : Takes steps (Record.build c sets) field
      · exact taken field inSteps
      · rw [left field inSteps]
        exact takes.missed field isSet notKey inSteps
    · by_cases inSteps : Takes steps (Record.build c sets) field
      · rw [taken field inSteps]
        exact (takes.shared field unset inSteps).symm
      · exact left field inSteps

def SelfEqual (steps : List (MergeStep c)) (incoming : Record c) : Prop :=
  ∀ field, Takes steps incoming field → c.differs field (incoming.value field) (incoming.value field) = false

theorem mergeFields_told_iff_changed (distinct : (steps.map MergeStep.field).Nodup)
    (stable : incoming.Stable) (settled : SelfEqual steps incoming) (stored : Record c) (edited : Bool) :
    (mergeFields steps incoming (stored, edited)).2 = true ↔ edited = true ∨
      ∃ field, (mergeFields steps incoming (stored, edited)).1.value field ≠ stored.value field := by
  rw [mergeFields_told distinct]
  refine or_congr_right (exists_congr fun field => ?_)
  constructor
  · rintro ⟨taken, differs⟩ same
    rw [mergeFields_value_of_takes stable taken] at same
    rw [← same, settled field taken] at differs
    cases differs
  · intro changed
    have taken : Takes steps incoming field :=
      of_not_not fun untaken => changed (mergeFields_value_of_not_takes untaken)
    refine ⟨taken, Bool.of_not_eq_false fun same => changed ?_⟩
    rw [mergeFields_value_of_takes stable taken]
    exact (c.eq_of_not_differs field _ _ same).symm

theorem mergeFields_again_value (stable : incoming.Stable) (stored : Record c) (edited again : Bool)
    (field : c.Field) :
    (mergeFields steps incoming ((mergeFields steps incoming (stored, edited)).1, again)).1.value field =
      (mergeFields steps incoming (stored, edited)).1.value field := by
  by_cases taken : Takes steps incoming field
  · rw [mergeFields_value_of_takes stable taken, mergeFields_value_of_takes stable taken]
  · exact mergeFields_value_of_not_takes taken

theorem mergeFields_again_untold (distinct : (steps.map MergeStep.field).Nodup)
    (stable : incoming.Stable) (stored : Record c) (edited : Bool) :
    (mergeFields steps incoming ((mergeFields steps incoming (stored, edited)).1, false)).2 = false ↔
      SelfEqual steps incoming := by
  rw [← Bool.not_eq_true, mergeFields_told distinct]
  simp only [Bool.false_eq_true, false_or, not_exists, not_and, Bool.not_eq_true]
  refine forall_congr' fun field => forall_congr' fun taken => ?_
  rw [mergeFields_value_of_takes stable taken]

end Merge

section Bits

/-- The mask of a field is a single bit of the word, and no field clears its bit. Fields
may have a bit in common. -/
structure Bits (c : FieldClass w) (bit : c.Field → Option Nat) : Prop where
  inside : ∀ field position, bit field = some position → position < w
  mask_eq : ∀ field, c.mask field = (bit field).map (BitVec.twoPow w)
  sets : ∀ field, c.clears field = false

variable {bit : c.Field → Option Nat}

theorem Bits.edited_iff (bits : Bits c bit) (record : Record c) (field : c.Field) :
    record.edited field = true ↔
      ∃ position, bit field = some position ∧ record.edits.getLsbD position = true := by
  rw [Record.edited, bits.mask_eq]
  cases atBit : bit field with
  | none => simp
  | some position =>
      simp only [Option.map_some, beq_iff_eq, BitVec.and_twoPow, Option.some.injEq, exists_eq_left']
      constructor
      · intro same
        by_contra unset
        rw [if_neg unset] at same
        have bitOf := congrArg (fun word => word.getLsbD position) same
        simp [bits.inside field position atBit] at bitOf
      · intro isSet
        rw [if_pos isSet]

theorem Bits.edited_build_iff [DecidableEq c.Field] (bits : Bits c bit)
    (sets : List (Σ field, c.Value field)) (field : c.Field) :
    (Record.build c sets).edited field = true ↔
      ∃ other, IsSet sets other ∧ ∃ position, bit other = some position ∧ bit field = some position := by
  have fromAny : ∀ record : Record c,
      (sets.foldl (fun record edit => record.set edit.1 edit.2) record).edited field = true ↔
        record.edited field = true ∨
          ∃ other, IsSet sets other ∧ ∃ position, bit other = some position ∧ bit field = some position := by
    induction sets with
    | nil => simp [IsSet]
    | cons edit rest ih =>
        intro record
        have step : (record.set edit.1 edit.2).edited field = true ↔ record.edited field = true ∨
            ∃ position, bit edit.1 = some position ∧ bit field = some position := by
          rw [bits.edited_iff, bits.edited_iff, Record.set, Record.mark, bits.mask_eq, bits.sets]
          cases own : bit edit.1 with
          | none => simp
          | some position =>
              have inside := bits.inside edit.1 position own
              simp only [Option.map_some, Bool.false_eq_true, if_false, BitVec.getLsbD_or,
                BitVec.getLsbD_twoPow, inside, decide_true, Bool.true_and, Bool.or_eq_true,
                decide_eq_true_eq, Option.some.injEq]
              constructor
              · rintro ⟨_, atBit, isSet | rfl⟩
                · exact Or.inl ⟨_, atBit, isSet⟩
                · exact Or.inr ⟨_, rfl, atBit⟩
              · rintro (⟨_, atBit, isSet⟩ | ⟨_, rfl, atBit⟩)
                · exact ⟨_, atBit, Or.inl isSet⟩
                · exact ⟨_, atBit, Or.inr rfl⟩
        rw [List.foldl_cons, ih, step, or_assoc]
        refine or_congr_right ?_
        simp only [IsSet, List.map_cons, List.mem_cons, or_and_right, exists_or, exists_eq_left]
  have unedited : ¬(Record.new c).edited field = true := by
    rw [bits.edited_iff]
    simp [Record.new]
  rw [Record.build, fromAny]
  exact or_iff_right unedited

variable [DecidableEq c.Field] {steps : List (MergeStep c)} {isKey : c.Field → Prop}
variable {sets : List (Σ field, c.Value field)} {stored : Record c}

theorem Bits.takes_iff_of_apart (bits : Bits c bit)
    (apart : ∀ field other position, bit field = some position → bit other = some position → field = other)
    (accepting : ∀ step ∈ steps, ∀ value, step.accepts value = true) (field : c.Field) :
    Takes steps (Record.build c sets) field ↔
      field ∈ steps.map MergeStep.field ∧ IsSet sets field ∧ (bit field).isSome = true := by
  rw [takes_iff_edited accepting, bits.edited_build_iff, Option.isSome_iff_exists]
  refine and_congr_right fun _ => ⟨?_, ?_⟩
  · rintro ⟨other, isSet, position, same, own⟩
    obtain rfl := apart field other position own same
    exact ⟨isSet, position, own⟩
  · rintro ⟨isSet, position, own⟩
    exact ⟨field, isSet, position, own, own⟩

theorem Bits.takesEdits_iff_of_apart (bits : Bits c bit)
    (apart : ∀ field other position, bit field = some position → bit other = some position → field = other)
    (accepting : ∀ step ∈ steps, ∀ value, step.accepts value = true)
    (marked : ∀ field ∈ steps.map MergeStep.field, (bit field).isSome = true) :
    TakesEdits isKey steps sets stored ↔
      ∀ field, IsSet sets field → ¬isKey field → field ∉ steps.map MergeStep.field →
        stored.value field = (Record.build c sets).value field := by
  have takes := @Bits.takes_iff_of_apart _ _ _ _ _ sets bits apart accepting
  constructor
  · intro edits field isSet notKey unmerged
    exact edits.missed field isSet notKey fun taken => unmerged ((takes field).mp taken).1
  · intro missed
    refine ⟨fun field isSet notKey untaken => missed field isSet notKey fun merged => ?_,
      fun field unset taken => absurd ((takes field).mp taken).2.1 unset⟩
    exact untaken ((takes field).mpr ⟨merged, isSet, marked field merged⟩)

end Bits

end EditedFields

end ServiceHost.Library
