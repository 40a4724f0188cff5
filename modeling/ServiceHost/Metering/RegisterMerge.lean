import Mathlib.Data.List.ReduceOption
import ServiceHost.Metering.EntityMerge
import ServiceHost.Metering.RegisterLogicCore

/-!
`MergeRegisters` as a synchronisation by register numbers: exactly when every number of the
message ends as one register, and the other registers of the component are finished once.
-/

namespace ServiceHost.Metering

open Library

namespace Register

theorem merge_value (this register : Register) (field : Field) :
    (Takes mergeSteps register field → (merge this register).1.value field = register.value field) ∧
      (¬Takes mergeSteps register field → (merge this register).1.value field = this.value field) :=
  ⟨mergeFields_value_of_takes fun _ => rfl, mergeFields_value_of_not_takes⟩

theorem merge_value_congr {this other : Register} (register : Register) {field : Field}
    (same : this.value field = other.value field) :
    (merge this register).1.value field = (merge other register).1.value field := by
  by_cases taken : Takes mergeSteps register field
  · rw [(merge_value this register field).1 taken, (merge_value other register field).1 taken]
  · rw [(merge_value this register field).2 taken, (merge_value other register field).2 taken, same]

theorem merge_self_value (this : Register) (field : Field) :
    (merge this this).1.value field = this.value field := by
  by_cases taken : Takes mergeSteps this field
  · exact (merge_value this this field).1 taken
  · exact (merge_value this this field).2 taken

theorem merge_registerNumber (this register : Register) :
    registerNumber (merge this register).1 = registerNumber this := by
  refine (merge_value this register Field.registerNumber).2 ?_
  rw [takes_iff_edited accepting]
  exact fun taken => absurd taken.1 (by decide)

theorem merge_of_not_told {this register : Register} (quiet : (merge this register).2 = false) :
    (merge this register).1 = this :=
  mergeFields_of_not_told quiet

theorem equals_self_iff (register : Register) :
    register.equals register = true ↔ register.value Field.pulseConstant ≠ Single.nan := by
  rw [equals_iff]
  constructor
  · intro same
    exact (Single.differs_self_iff _).mp (same Field.pulseConstant (by decide))
  · intro number field compared
    by_cases single : kind field = .single
    · have singles : ∀ field ∈ equalsFields, kind field = .single → field = .pulseConstant := by decide
      obtain rfl := singles field compared single
      exact (Single.differs_self_iff _).mpr number
    · exact (kind field).differs_self _ single

end Register

section Spec

def elements (array : Option (List (Option Nat))) : List Nat := (array.getD []).reduceOption

def Command.written (register : Nat) : Command → Option Register
  | .update other values => if other = register then some values else none
  | .finish _ => none

def updates (commands : List Command) : List Nat := commands.filterMap fun command => match command with
  | .update register _ => some register
  | .finish _ => none

def finishes (commands : List Command) : List Nat := commands.filterMap fun command => match command with
  | .update _ _ => none
  | .finish register => some register

def Remains (originals : List Nat) (commands : List Command) (register : Nat) : Prop :=
  register ∈ originals ∧ register ∉ finishes commands ∨ register ∈ updates commands

def mergeAll (original : Register) (externals : List Register) : Register :=
  externals.foldl (fun merged register => (Register.merge merged register).1) original

def externalsOf (start : Nat → Register) (externals : List Nat) (original : Nat) : List Register :=
  (externals.filter fun register => register ≠ original ∧
    (start register).registerNumber = (start original).registerNumber).map start

def InMessage (start : Nat → Register) (externals : List Nat) (original : Nat) : Prop :=
  ∃ register ∈ externals, (start register).registerNumber = (start original).registerNumber

structure Synchronised (start : Nat → Register) (externals originals : List Nat)
    (result : Except SystemException Unit × Heap) : Prop where
  returns : result.1 = .ok ()
  one : ∀ external ∈ externals, ∃! register, Remains originals result.2.commands register ∧
    (start register).registerNumber = (start external).registerNumber
  merged : ∀ original ∈ originals, InMessage start externals original → ∀ field ≠ Register.Field.key,
    (result.2.objects original).value field =
      (mergeAll (start original) (externalsOf start externals original)).value field
  saved : ∀ register, ((result.2.commands.filterMap (Command.written register)).getLast?).getD (start register) =
    result.2.objects register
  finished : ∀ original ∈ originals, ¬InMessage start externals original →
    (finishes result.2.commands).count original = 1
  apart : ∀ register, register ∈ updates result.2.commands → register ∉ finishes result.2.commands

structure Synchronisable (start : Nat → Register) (registersExt registersOrig : Option (List (Option Nat))) :
    Prop where
  there : registersOrig = none → registersExt.getD [] = []
  externals : none ∉ registersExt.getD []
  originals : none ∉ registersOrig.getD []
  numbers : ∀ original ∈ elements registersOrig, InMessage start (elements registersExt) original →
    (mergeAll (start original) (externalsOf start (elements registersExt) original)).value
      Register.Field.pulseConstant ≠ Single.nan
  finishable : ∀ original ∈ elements registersOrig, ¬InMessage start (elements registersExt) original →
    (start original).key ≠ 0 ∧ (start original).registerNumber ≠ 0
  once : ∀ external ∈ elements registersExt, ∀ other ∈ elements registersExt,
    (start external).registerNumber = (start other).registerNumber →
      (∀ original ∈ elements registersOrig,
        (start original).registerNumber ≠ (start external).registerNumber) → external = other

end Spec

section Turns

variable {relatedComponent : Int} {timeOfUpdate : UtcTime}

def Heap.save (heap : Heap) (register : Nat) (values : Register) : Heap :=
  { heap with
    objects := Function.update heap.objects register values
    commands := heap.commands ++ [.update register values] }

def Heap.merged (heap : Heap) (relatedComponent : Int) (regOrig regExt : Nat) : Heap :=
  if (Register.merge (heap.objects regOrig) (heap.objects regExt)).2 then
    heap.save regOrig
      (RegisterData.keyed relatedComponent (Register.merge (heap.objects regOrig) (heap.objects regExt)).1)
  else heap

def Heap.addFound (heap : Heap) (regOrig : Nat) : Heap :=
  { heap with alOrigFound := heap.alOrigFound ++ [regOrig] }

def dated (timeOfUpdate : UtcTime) (register : Register) : Register :=
  (register.set Register.Field.validFromDate timeOfUpdate).set Register.Field.validToDate UtcTime.maxValue

def Heap.existing (heap : Heap) (originals : List Nat) (regExt : Nat) : Option Nat :=
  originals.find? fun regOrig => (heap.objects regExt).registerNumber = (heap.objects regOrig).registerNumber

def Heap.turned (heap : Heap) (relatedComponent : Int) (timeOfUpdate : UtcTime) (originals : List Nat)
    (regExt : Nat) : Heap :=
  match heap.existing originals regExt with
  | some regOrig => (heap.merged relatedComponent regOrig regExt).addFound regOrig
  | none => heap.save regExt (RegisterData.keyed relatedComponent (dated timeOfUpdate (heap.objects regExt)))

theorem update_run (register : Nat) (heap : Heap) (values : Register) :
    RegisterData.update register relatedComponent
        { heap with objects := Function.update heap.objects register values } =
      (.ok (), heap.save register (RegisterData.keyed relatedComponent values)) := by
  unfold RegisterData.update Heap.save
  rw [Program.bind_of_ok (Program.change_run _ _), Program.change_run]
  simp only [Function.update_self, Function.update_idem]

theorem mergeAndUpdate_run (regOrig regExt : Nat) (heap : Heap) :
    mergeAndUpdate regOrig regExt relatedComponent heap = (.ok (), heap.merged relatedComponent regOrig regExt) := by
  have merging : mergeInto regOrig regExt heap =
      (.ok (Register.merge (heap.objects regOrig) (heap.objects regExt)).2,
        { heap with
          objects := Function.update heap.objects regOrig
            (Register.merge (heap.objects regOrig) (heap.objects regExt)).1 }) := rfl
  rw [mergeAndUpdate, Program.bind_of_ok merging, Heap.merged]
  cases told : (Register.merge (heap.objects regOrig) (heap.objects regExt)).2 with
  | true => exact update_run regOrig heap _
  | false =>
      rw [if_neg Bool.false_ne_true, if_neg Bool.false_ne_true, Register.merge_of_not_told told,
        Function.update_eq_self]
      rfl

theorem updateExisting_run (regExt : Nat) (originals : List Nat) (heap : Heap) :
    updateExisting regExt relatedComponent (originals.map some) heap =
      match heap.existing originals regExt with
      | some regOrig => (.ok true, (heap.merged relatedComponent regOrig regExt).addFound regOrig)
      | none => (.ok false, heap) := by
  unfold Heap.existing
  induction originals with
  | nil => rfl
  | cons regOrig rest ih =>
      rw [List.map_cons, updateExisting, Program.bind_of_ok (Program.read_run _ heap), List.find?_cons]
      by_cases same : (heap.objects regExt).registerNumber = (heap.objects regOrig).registerNumber
      · rw [if_pos same, decide_eq_true same, Program.bind_of_ok (mergeAndUpdate_run regOrig regExt heap)]
        rfl
      · rw [if_neg same, decide_eq_false same]
        exact ih

theorem mergeTurn_run (originals : List Nat) (regExt : Nat) (heap : Heap) :
    mergeTurn (some (originals.map some)) relatedComponent timeOfUpdate (some regExt) heap =
      (.ok (), heap.turned relatedComponent timeOfUpdate originals regExt) := by
  have search := (@updateExisting_run relatedComponent) regExt originals heap
  have turn : mergeTurn (some (originals.map some)) relatedComponent timeOfUpdate (some regExt) heap =
      (updateExisting regExt relatedComponent (originals.map some) >>= fun bExtFound =>
        if bExtFound then pure () else addRegister regExt relatedComponent timeOfUpdate) heap := rfl
  rw [turn, Heap.turned]
  cases found : heap.existing originals regExt with
  | some regOrig =>
      rw [found] at search
      rw [Program.bind_of_ok search]
      rfl
  | none =>
      rw [found] at search
      rw [Program.bind_of_ok search]
      exact update_run regExt heap _

end Turns

section Invariant

variable {start : Nat → Register} {originals front : List Nat} {heap : Heap} {relatedComponent : Int}
  {timeOfUpdate : UtcTime} {external : Nat}

structure Merging (start : Nat → Register) (originals front : List Nat) (heap : Heap) : Prop where
  numbers : ∀ register, (heap.objects register).registerNumber = (start register).registerNumber
  found : ∀ register, register ∈ heap.alOrigFound ↔ register ∈ originals ∧ InMessage start front register
  updated : ∀ register ∈ updates heap.commands, register ∈ originals ∧ InMessage start front register ∨
    register ∈ front ∧ ∀ original ∈ originals,
      (start original).registerNumber ≠ (start register).registerNumber
  added : ∀ register ∈ front, (∀ original ∈ originals,
    (start original).registerNumber ≠ (start register).registerNumber) → register ∈ updates heap.commands
  unfinished : finishes heap.commands = []
  saved : ∀ register, ((heap.commands.filterMap (Command.written register)).getLast?).getD (start register) =
    heap.objects register
  merged : ∀ original ∈ originals, ∀ field ≠ Register.Field.key, (heap.objects original).value field =
    (mergeAll (start original) (externalsOf start front original)).value field

theorem keyed_value (register : Register) {field : Register.Field} (other : field ≠ .key) :
    (RegisterData.keyed relatedComponent register).value field = register.value field := by
  unfold RegisterData.keyed
  split
  · exact Function.update_of_ne other _ _
  · rfl

theorem dated_registerNumber (register : Register) :
    (dated timeOfUpdate register).registerNumber = register.registerNumber := rfl

theorem keyed_registerNumber (register : Register) :
    (RegisterData.keyed relatedComponent register).registerNumber = register.registerNumber :=
  keyed_value register (by decide)

theorem inMessage_snoc {original : Nat} : InMessage start (front ++ [external]) original ↔
    InMessage start front original ∨ (start external).registerNumber = (start original).registerNumber := by
  simp only [InMessage, List.mem_append, List.mem_singleton, or_and_right, exists_or, exists_eq_left]

theorem Merging.untouched (merging : Merging start originals front heap) {register : Nat}
    (unwritten : register ∉ updates heap.commands) : heap.objects register = start register := by
  have none : heap.commands.filterMap (Command.written register) = [] := by
    refine List.filterMap_eq_nil_iff.mpr fun command member => ?_
    cases command with
    | finish _ => rfl
    | update other values =>
        refine if_neg fun same => unwritten ?_
        exact List.mem_filterMap.mpr ⟨_, member, congrArg some same⟩
  have saved := merging.saved register
  rw [none] at saved
  exact saved.symm

theorem Merging.refl (start : Nat → Register) (originals : List Nat) :
    Merging start originals [] ⟨start, [], []⟩ where
  numbers := fun _ => rfl
  found := by simp [InMessage]
  updated := by simp [updates]
  added := by simp
  unfinished := rfl
  saved := fun _ => rfl
  merged := fun _ _ _ _ => rfl

theorem updates_snoc (commands : List Command) (register : Nat) (values : Register) :
    updates (commands ++ [.update register values]) = updates commands ++ [register] := by
  simp [updates]

theorem finishes_snoc (commands : List Command) (register : Nat) (values : Register) :
    finishes (commands ++ [.update register values]) = finishes commands := by
  simp [finishes]

theorem saved_snoc (saved : ∀ register,
    ((heap.commands.filterMap (Command.written register)).getLast?).getD (start register) = heap.objects register)
    (written : Nat) (values : Register) (register : Nat) :
    (((heap.save written values).commands.filterMap (Command.written register)).getLast?).getD (start register) =
      (heap.save written values).objects register := by
  unfold Heap.save
  rw [List.filterMap_append]
  by_cases same : written = register
  · subst same
    simp [Command.written]
  · simp only [List.filterMap_cons, Command.written, if_neg same, List.filterMap_nil, List.append_nil, saved,
      Function.update_of_ne (Ne.symm same)]

theorem externalsOf_snoc (start : Nat → Register) (front : List Nat) (external original : Nat) :
    externalsOf start (front ++ [external]) original = externalsOf start front original ++
      if external ≠ original ∧ (start external).registerNumber = (start original).registerNumber then
        [start external] else [] := by
  unfold externalsOf
  rw [List.filter_append, List.map_append, List.filter_cons]
  simp only [decide_eq_true_eq]
  split <;> rfl

theorem mergeAll_snoc (original : Register) (externals : List Register) (external : Register) :
    mergeAll original (externals ++ [external]) = (Register.merge (mergeAll original externals) external).1 := by
  simp [mergeAll]

theorem Merging.existing_eq_none_iff (merging : Merging start originals front heap) :
    heap.existing originals external = none ↔ ∀ original ∈ originals,
      (start original).registerNumber ≠ (start external).registerNumber := by
  unfold Heap.existing
  rw [List.find?_eq_none]
  simp only [merging.numbers, decide_eq_true_eq]
  exact forall₂_congr fun _ _ => not_congr eq_comm

theorem Merging.of_existing (merging : Merging start originals front heap) {original : Nat}
    (existing : heap.existing originals external = some original) :
    original ∈ originals ∧ (start external).registerNumber = (start original).registerNumber := by
  refine ⟨List.mem_of_find?_eq_some existing, ?_⟩
  have same := List.find?_some existing
  simpa only [merging.numbers, decide_eq_true_eq] using same

theorem Merging.add (merging : Merging start originals front heap)
    (new : ∀ original ∈ originals, (start original).registerNumber ≠ (start external).registerNumber) :
    Merging start originals (front ++ [external])
      (heap.save external (RegisterData.keyed relatedComponent (dated timeOfUpdate (heap.objects external)))) := by
  have others (original : Nat) (member : original ∈ originals) :
      (start external).registerNumber ≠ (start original).registerNumber := (new original member).symm
  refine ⟨fun register => ?_, fun register => ?_, fun register written => ?_, fun register member isNew => ?_, ?_,
    saved_snoc merging.saved _ _, fun original member field other => ?_⟩
  · by_cases same : register = external
    · subst same
      simp only [Heap.save, Function.update_self, keyed_registerNumber, dated_registerNumber, merging.numbers]
    · simp only [Heap.save, Function.update_of_ne same, merging.numbers]
  · rw [inMessage_snoc]
    refine (merging.found register).trans (and_congr_right fun member => ?_)
    rw [or_iff_left (others register member)]
  · simp only [Heap.save, updates_snoc, List.mem_append, List.mem_singleton] at written
    obtain before | rfl := written
    · obtain ⟨member, inMessage⟩ | ⟨inFront, isNew⟩ := merging.updated register before
      · exact Or.inl ⟨member, inMessage_snoc.mpr (Or.inl inMessage)⟩
      · exact Or.inr ⟨List.mem_append_left _ inFront, isNew⟩
    · exact Or.inr ⟨by simp, new⟩
  · simp only [Heap.save, updates_snoc, List.mem_append, List.mem_singleton] at member ⊢
    exact member.imp (fun inFront => merging.added register inFront isNew) id
  · simp only [Heap.save, finishes_snoc, merging.unfinished]
  · have different : original ≠ external := fun same => others original member (same ▸ rfl)
    rw [externalsOf_snoc, if_neg fun both => others original member both.2, List.append_nil,
      ← merging.merged original member field other]
    simp only [Heap.save, Function.update_of_ne different]

abbrev Distinct (start : Nat → Register) (originals : List Nat) : Prop :=
  (originals.map fun original => (start original).registerNumber).Nodup

theorem Distinct.eq (distinct : Distinct start originals) {first second : Nat} (firstIn : first ∈ originals)
    (secondIn : second ∈ originals)
    (same : (start first).registerNumber = (start second).registerNumber) : first = second :=
  List.inj_on_of_nodup_map distinct firstIn secondIn same

theorem Merging.merge_value (merging : Merging start originals front heap) (distinct : Distinct start originals)
    {original : Nat} (member : original ∈ originals)
    (same : (start external).registerNumber = (start original).registerNumber) {field : Register.Field}
    (other : field ≠ .key) :
    (Register.merge (heap.objects original) (heap.objects external)).1.value field =
      (mergeAll (start original) (externalsOf start (front ++ [external]) original)).value field := by
  have before := merging.merged original member field other
  rw [externalsOf_snoc]
  by_cases self : external = original
  · subst self
    rw [if_neg fun both => both.1 rfl, List.append_nil, Register.merge_self_value]
    exact before
  · -- The register of the message is none of the component, and was not added either.
    have unwritten : external ∉ updates heap.commands := by
      intro written
      obtain ⟨isOriginal, -⟩ | ⟨-, isNew⟩ := merging.updated external written
      · exact self (distinct.eq isOriginal member same)
      · exact isNew original member same.symm
    rw [if_pos ⟨self, same⟩, mergeAll_snoc, merging.untouched unwritten]
    exact Register.merge_value_congr _ before

theorem Merging.merge (merging : Merging start originals front heap) (distinct : Distinct start originals)
    {original : Nat} (member : original ∈ originals)
    (same : (start external).registerNumber = (start original).registerNumber) :
    Merging start originals (front ++ [external])
      ((heap.merged relatedComponent original external).addFound original) := by
  have isHere : InMessage start (front ++ [external]) original := inMessage_snoc.mpr (Or.inr same)
  have found (register : Nat) : register ∈ heap.alOrigFound ++ [original] ↔
      register ∈ originals ∧ InMessage start (front ++ [external]) register := by
    rw [List.mem_append, List.mem_singleton, merging.found, inMessage_snoc]
    constructor
    · rintro (⟨isOriginal, inMessage⟩ | rfl)
      · exact ⟨isOriginal, Or.inl inMessage⟩
      · exact ⟨member, Or.inr same⟩
    · rintro ⟨isOriginal, inMessage | sameNumber⟩
      · exact Or.inl ⟨isOriginal, inMessage⟩
      · exact Or.inr (distinct.eq isOriginal member (sameNumber.symm.trans same))
  have updated : ∀ register ∈ updates heap.commands,
      register ∈ originals ∧ InMessage start (front ++ [external]) register ∨
        register ∈ front ++ [external] ∧ ∀ original ∈ originals,
          (start original).registerNumber ≠ (start register).registerNumber := by
    intro register written
    obtain ⟨isOriginal, inMessage⟩ | ⟨inFront, isNew⟩ := merging.updated register written
    · exact Or.inl ⟨isOriginal, inMessage_snoc.mpr (Or.inl inMessage)⟩
    · exact Or.inr ⟨List.mem_append_left _ inFront, isNew⟩
  have added : ∀ register ∈ front ++ [external], (∀ original ∈ originals,
      (start original).registerNumber ≠ (start register).registerNumber) → register ∈ updates heap.commands := by
    intro register inFront isNew
    obtain before | last := List.mem_append.mp inFront
    · exact merging.added register before isNew
    · exact absurd same.symm (List.mem_singleton.mp last ▸ isNew original member)
  have otherMerged : ∀ register ∈ originals, register ≠ original → ∀ field ≠ Register.Field.key,
      (heap.objects register).value field =
        (mergeAll (start register) (externalsOf start (front ++ [external]) register)).value field := by
    intro register isOriginal different field other
    rw [externalsOf_snoc, if_neg fun both => different (distinct.eq isOriginal member (both.2.symm.trans same)),
      List.append_nil]
    exact merging.merged register isOriginal field other
  unfold Heap.merged Heap.addFound
  split
  · refine ⟨fun register => ?_, found, fun register written => ?_, fun register inFront isNew => ?_, ?_,
      saved_snoc merging.saved _ _, fun register isOriginal field other => ?_⟩
    · by_cases isOriginal : register = original
      · subst isOriginal
        simp only [Heap.save, Function.update_self, keyed_registerNumber, Register.merge_registerNumber,
          merging.numbers]
      · simp only [Heap.save, Function.update_of_ne isOriginal, merging.numbers]
    · simp only [Heap.save, updates_snoc, List.mem_append, List.mem_singleton] at written
      obtain before | rfl := written
      · exact updated register before
      · exact Or.inl ⟨member, isHere⟩
    · simp only [Heap.save, updates_snoc]
      exact List.mem_append_left _ (added register inFront isNew)
    · simp only [Heap.save, finishes_snoc, merging.unfinished]
    · by_cases isMerged : register = original
      · subst isMerged
        simp only [Heap.save, Function.update_self, keyed_value _ other]
        exact merging.merge_value distinct member same other
      · simp only [Heap.save, Function.update_of_ne isMerged]
        exact otherMerged register isOriginal isMerged field other
  · rename_i quiet
    refine ⟨merging.numbers, found, updated, added, merging.unfinished, merging.saved,
      fun register isOriginal field other => ?_⟩
    by_cases isMerged : register = original
    · subst isMerged
      have value := merging.merge_value distinct member same other
      rw [Register.merge_of_not_told (Bool.not_eq_true _ ▸ quiet)] at value
      exact value
    · exact otherMerged register isOriginal isMerged field other

theorem Merging.turn (merging : Merging start originals front heap) (distinct : Distinct start originals) :
    Merging start originals (front ++ [external])
      (heap.turned relatedComponent timeOfUpdate originals external) := by
  unfold Heap.turned
  cases existing : heap.existing originals external with
  | some original =>
      obtain ⟨member, same⟩ := merging.of_existing existing
      exact merging.merge distinct member same
  | none => exact merging.add (merging.existing_eq_none_iff.mp existing)

theorem reduceOption_map_some (registers : List Nat) : (registers.map some).reduceOption = registers := by
  rw [List.reduceOption, List.filterMap_map]
  exact List.filterMap_some

theorem mergeLoop_run (distinct : Distinct start originals) (externals : List Nat) :
    ∃ heap, Program.forEach (mergeTurn (some (originals.map some)) relatedComponent timeOfUpdate)
        (externals.map some) ⟨start, [], []⟩ = (.ok (), heap) ∧ Merging start originals externals heap := by
  have loop := (@Program.forEach_invariant _ _ _ (mergeTurn (some (originals.map some)) relatedComponent timeOfUpdate) (fun front heap => Merging start originals front.reduceOption heap) (externals.map some))
    (fun front item rest all heap merging => by
      have isExternal : item ∈ externals.map some := by rw [all]; simp
      obtain ⟨external, -, rfl⟩ := List.mem_map.mp isExternal
      refine ⟨_, mergeTurn_run originals external heap, ?_⟩
      rw [List.reduceOption_append, List.reduceOption_singleton]
      exact merging.turn distinct)
    (Merging.refl start originals)
  obtain ⟨heap, run, merging⟩ := loop
  rw [reduceOption_map_some] at merging
  exact ⟨heap, run, merging⟩

end Invariant

section Disconnect

variable {start : Nat → Register} {originals externals : List Nat} {heap : Heap}

theorem disconnectLoop_run (registers : List Nat) (heap : Heap) :
    ((Program.forEach disconnectTurn (registers.map some) heap).1 = .ok () ↔
      ∀ register ∈ registers, isFound heap (some register) = false →
        (heap.objects register).key ≠ 0 ∧ (heap.objects register).registerNumber ≠ 0) ∧
    ((Program.forEach disconnectTurn (registers.map some) heap).1 = .ok () →
      (Program.forEach disconnectTurn (registers.map some) heap).2 =
        { heap with
          commands := heap.commands ++
            (registers.filter fun register => isFound heap (some register) = false).map .finish }) := by
  induction registers generalizing heap with
  | nil => simp [Program.forEach]
  | cons register rest ih =>
      rw [List.map_cons, Program.forEach, List.forall_mem_cons, List.filter_cons]
      cases found : isFound heap (some register) with
      | true =>
          have turn : disconnectTurn (some register) heap = (.ok (), heap) := by
            rw [disconnectTurn, Program.bind_of_ok (Program.read_run _ heap), if_pos found]
            rfl
          rw [Program.bind_of_ok turn]
          simpa using ih heap
      | false =>
          have lost : disconnectTurn (some register) heap = RegisterData.finish (some register) heap := by
            rw [disconnectTurn, Program.bind_of_ok (Program.read_run _ heap),
              if_neg (Bool.eq_false_iff.mp found)]
          by_cases refused : (heap.objects register).key = 0 ∨ (heap.objects register).registerNumber = 0
          · have turn : disconnectTurn (some register) heap =
                (.error (.argument "RegisterFinish: Register without Key or RegisterNumber"), heap) := by
              rw [lost, RegisterData.finish, Program.bind_of_ok (Program.read_run _ heap), if_pos refused]
              rfl
            rw [Program.bind_of_error turn]
            refine ⟨⟨fun ended => (by cases ended), fun all => ?_⟩, fun ended => (by cases ended)⟩
            exact absurd refused (not_or.mpr (all.1 rfl))
          · have turn : disconnectTurn (some register) heap =
                (.ok (), { heap with commands := heap.commands ++ [.finish register] }) := by
              rw [lost, RegisterData.finish, Program.bind_of_ok (Program.read_run _ heap), if_neg refused]
              rfl
            have accepted : (heap.objects register).key ≠ 0 ∧ (heap.objects register).registerNumber ≠ 0 :=
              not_or.mp refused
            obtain ⟨returns, leaves⟩ := ih { heap with commands := heap.commands ++ [.finish register] }
            rw [Program.bind_of_ok turn]
            refine ⟨returns.trans ⟨fun all => ⟨fun _ => accepted, all⟩, fun all => all.2⟩, fun ended => ?_⟩
            rw [leaves ended, if_pos (decide_eq_true rfl), List.map_cons, List.append_assoc]
            rfl

theorem Merging.isFound_iff (merging : Merging start originals externals heap)
    (distinct : Distinct start originals) {original : Nat} (member : original ∈ originals) :
    isFound heap (some original) = true ↔ InMessage start externals original ∧
      (mergeAll (start original) (externalsOf start externals original)).value
        Register.Field.pulseConstant ≠ Single.nan := by
  rw [← merging.merged original member _ (by decide), ← Register.equals_self_iff]
  unfold isFound
  rw [List.any_eq_true]
  constructor
  · rintro ⟨item, found, same⟩
    obtain ⟨isOriginal, inMessage⟩ := (merging.found item).mp found
    have numbers : (heap.objects item).registerNumber = (heap.objects original).registerNumber :=
      Register.value_eq_of_equals same (by decide)
    rw [merging.numbers, merging.numbers] at numbers
    obtain rfl := distinct.eq isOriginal member numbers
    exact ⟨inMessage, same⟩
  · rintro ⟨inMessage, same⟩
    exact ⟨original, (merging.found original).mpr ⟨member, inMessage⟩, same⟩

theorem Merging.unmerged (merging : Merging start originals externals heap) {original : Nat}
    (member : original ∈ originals) (absent : ¬InMessage start externals original) :
    heap.objects original = start original := by
  refine merging.untouched fun written => ?_
  obtain ⟨-, inMessage⟩ | ⟨-, isNew⟩ := merging.updated original written
  · exact absent inMessage
  · exact isNew original member rfl

theorem updates_finish (commands : List Command) (registers : List Nat) :
    updates (commands ++ registers.map Command.finish) = updates commands := by
  unfold updates
  rw [List.filterMap_append, List.filterMap_map]
  exact (congrArg _ (List.filterMap_eq_nil_iff.mpr fun _ _ => rfl)).trans (List.append_nil _)

theorem finishes_finish (commands : List Command) (registers : List Nat) :
    finishes (commands ++ registers.map Command.finish) = finishes commands ++ registers := by
  unfold finishes
  rw [List.filterMap_append, List.filterMap_map]
  exact congrArg _ List.filterMap_some

theorem written_finish (commands : List Command) (registers : List Nat) (register : Nat) :
    (commands ++ registers.map Command.finish).filterMap (Command.written register) =
      commands.filterMap (Command.written register) := by
  rw [List.filterMap_append, List.filterMap_map]
  exact (congrArg _ (List.filterMap_eq_nil_iff.mpr fun _ _ => rfl)).trans (List.append_nil _)

end Disconnect

section Synchronisation

variable {objects : Nat → Register} {originals externals : List Nat} {heap : Heap}
  {registersExt registersOrig : Option (List (Option Nat))} {relatedComponent : Int} {timeOfUpdate : UtcTime}

def Heap.disconnected (heap : Heap) (originals : List Nat) : Heap :=
  { heap with
    commands := heap.commands ++
      (originals.filter fun original => isFound heap (some original) = false).map Command.finish }

theorem Merging.synchronised_iff (merging : Merging objects originals externals heap)
    (distinct : Distinct objects originals) :
    Synchronised objects externals originals (.ok (), heap.disconnected originals) ↔
      (∀ original ∈ originals, InMessage objects externals original →
        (mergeAll (objects original) (externalsOf objects externals original)).value
          Register.Field.pulseConstant ≠ Single.nan) ∧
      ∀ external ∈ externals, ∀ other ∈ externals,
        (objects external).registerNumber = (objects other).registerNumber →
          (∀ original ∈ originals,
            (objects original).registerNumber ≠ (objects external).registerNumber) → external = other := by
  have written : updates (heap.disconnected originals).commands = updates heap.commands := updates_finish _ _
  have lost : finishes (heap.disconnected originals).commands =
      originals.filter fun original => isFound heap (some original) = false := by
    rw [Heap.disconnected, finishes_finish, merging.unfinished, List.nil_append]
  have mem_lost {register : Nat} : register ∈ finishes (heap.disconnected originals).commands ↔
      register ∈ originals ∧ ¬isFound heap (some register) = true := by
    rw [lost, List.mem_filter, decide_eq_true_eq, Bool.not_eq_true]
  constructor
  · intro synchronised
    refine ⟨fun original member inMessage notNumber => ?_, fun external inExternals other inOthers same isNew => ?_⟩
    · have finished := mem_lost.mpr ⟨member, fun found =>
        ((merging.isFound_iff distinct member).mp found).2 notNumber⟩
      obtain ⟨external, inExternals, sameNumber⟩ := inMessage
      obtain ⟨register, ⟨remains, number⟩, -⟩ := synchronised.one external inExternals
      obtain ⟨isOriginal, kept⟩ | updated := remains
      · obtain rfl := distinct.eq isOriginal member (number.trans sameNumber)
        exact kept finished
      · have isUpdated := updated
        rw [written] at updated
        obtain ⟨isOriginal, -⟩ | ⟨-, isNew⟩ := merging.updated register updated
        · obtain rfl := distinct.eq isOriginal member (number.trans sameNumber)
          exact synchronised.apart register isUpdated finished
        · exact isNew original member (sameNumber.symm.trans number.symm)
    · have added (register : Nat) (member : register ∈ externals)
          (sameNumber : (objects register).registerNumber = (objects external).registerNumber) :
          Remains originals (heap.disconnected originals).commands register := by
        refine Or.inr ?_
        rw [written]
        refine merging.added register member fun original isOriginal => ?_
        rw [sameNumber]
        exact isNew original isOriginal
      exact (synchronised.one external inExternals).unique ⟨added external inExternals rfl, rfl⟩
        ⟨added other inOthers same.symm, same.symm⟩
  · rintro ⟨numbers, once⟩
    have kept (original : Nat) (member : original ∈ originals)
        (inMessage : InMessage objects externals original) :
        original ∉ finishes (heap.disconnected originals).commands := fun finished =>
      (mem_lost.mp finished).2
        ((merging.isFound_iff distinct member).mpr ⟨inMessage, numbers original member inMessage⟩)
    refine ⟨rfl, fun external inExternals => ?_, fun original member _ field other =>
        merging.merged original member field other, fun register => ?_, fun original member absent => ?_,
      fun register isUpdated finished => ?_⟩
    · cases existing : heap.existing originals external with
      | some original =>
          obtain ⟨member, same⟩ := merging.of_existing existing
          refine ⟨original, ⟨Or.inl ⟨member, kept original member ⟨external, inExternals, same⟩⟩, same.symm⟩, ?_⟩
          rintro register ⟨⟨isOriginal, -⟩ | isUpdated, number⟩
          · exact distinct.eq isOriginal member (number.trans same)
          · rw [written] at isUpdated
            obtain ⟨isOriginal, -⟩ | ⟨-, isNew⟩ := merging.updated register isUpdated
            · exact distinct.eq isOriginal member (number.trans same)
            · exact absurd (same.symm.trans number.symm) (isNew original member)
      | none =>
          have isNew := merging.existing_eq_none_iff.mp existing
          refine ⟨external, ⟨Or.inr ?_, rfl⟩, ?_⟩
          · rw [written]
            exact merging.added external inExternals isNew
          · rintro register ⟨⟨isOriginal, -⟩ | isUpdated, number⟩
            · exact absurd number (isNew register isOriginal)
            · rw [written] at isUpdated
              obtain ⟨isOriginal, -⟩ | ⟨inExternals', -⟩ := merging.updated register isUpdated
              · exact absurd number (isNew register isOriginal)
              · exact (once external inExternals register inExternals' number.symm isNew).symm
    · rw [Heap.disconnected, written_finish]
      exact merging.saved register
    · rw [lost]
      have nodup : originals.Nodup := List.Nodup.of_map _ distinct
      refine List.count_eq_one_of_mem (nodup.filter _) ?_
      rw [← lost]
      exact mem_lost.mpr ⟨member, fun found => absent ((merging.isFound_iff distinct member).mp found).1⟩
    · obtain ⟨isOriginal, notFound⟩ := mem_lost.mp finished
      rw [written] at isUpdated
      obtain ⟨-, inMessage⟩ | ⟨-, isNew⟩ := merging.updated register isUpdated
      · exact kept register isOriginal inMessage finished
      · exact isNew register isOriginal rfl

theorem eq_map_some {array : List (Option Nat)} (noNull : none ∉ array) : array = array.reduceOption.map some := by
  induction array with
  | nil => rfl
  | cons item rest ih =>
      rw [List.mem_cons, not_or] at noNull
      cases item with
      | none => exact absurd rfl noNull.1
      | some register =>
          rw [List.reduceOption_cons_of_some, List.map_cons, ← ih noNull.2]

theorem forEachOf_eq (array : Option (List (Option Nat))) (turn : Option Nat → Objects Unit) :
    forEachOf array turn = Program.forEach turn (array.getD []) := by
  cases array <;> rfl

theorem mergeRegisters_run (relatedComponent : Int) (timeOfUpdate : UtcTime)
    (there : registersOrig = none → registersExt.getD [] = [])
    (noNullExt : none ∉ registersExt.getD []) (noNullOrig : none ∉ registersOrig.getD [])
    (distinct : Distinct objects (elements registersOrig)) :
    ∃ heap, Merging objects (elements registersOrig) (elements registersExt) heap ∧
      mergeRegisters registersExt registersOrig relatedComponent timeOfUpdate ⟨objects, [], []⟩ =
        Program.forEach disconnectTurn ((elements registersOrig).map some) heap := by
  have loop : ∃ heap, Program.forEach (mergeTurn registersOrig relatedComponent timeOfUpdate)
      (registersExt.getD []) ⟨objects, [], []⟩ = (.ok (), heap) ∧
        Merging objects (elements registersOrig) (elements registersExt) heap := by
    cases registersOrig with
    | none =>
        have empty : elements registersExt = [] := by rw [elements, there rfl]; rfl
        rw [there rfl, empty]
        exact ⟨_, rfl, Merging.refl objects []⟩
    | some array =>
        rw [eq_map_some noNullExt]
        have isArray : array = (elements (some array)).map some := eq_map_some noNullOrig
        have run := (@mergeLoop_run _ _ relatedComponent timeOfUpdate) distinct
          (elements registersExt)
        rw [← isArray] at run
        exact run
  obtain ⟨heap, run, merging⟩ := loop
  refine ⟨heap, merging, ?_⟩
  rw [mergeRegisters, Program.bind_of_ok (Program.change_run _ _), forEachOf_eq, forEachOf_eq,
    Program.bind_of_ok run]
  exact congrArg (fun array => Program.forEach disconnectTurn array heap) (eq_map_some noNullOrig)

theorem no_nulls_of_returns
    (returns : (mergeRegisters registersExt registersOrig relatedComponent timeOfUpdate
      ⟨objects, [], []⟩).1 = .ok ()) :
    (registersOrig = none → registersExt.getD [] = []) ∧ none ∉ registersExt.getD [] ∧
      none ∉ registersOrig.getD [] := by
  rw [mergeRegisters, Program.bind_of_ok (Program.change_run _ _), forEachOf_eq, forEachOf_eq] at returns
  cases run : Program.forEach (mergeTurn registersOrig relatedComponent timeOfUpdate) (registersExt.getD [])
      (⟨objects, [], []⟩ : Heap) with
  | mk outcome heap =>
      cases outcome with
      | error exception =>
          rw [Program.bind_of_error run] at returns
          cases returns
      | ok _ =>
          rw [Program.bind_of_ok run] at returns
          have loopReturns := congrArg Prod.fst run
          have mergesAll := fun item => @Program.forEach_turn_returns _ _ _ _ _ _ loopReturns item
          refine ⟨fun isNull => List.eq_nil_iff_forall_not_mem.mpr fun item member => ?_, fun member => ?_,
            fun member => ?_⟩
          · subst isNull
            obtain ⟨_, turn⟩ := mergesAll item member
            cases turn
          · obtain ⟨_, turn⟩ := mergesAll none member
            cases registersOrig <;> cases turn
          · obtain ⟨_, turn⟩ := Program.forEach_turn_returns returns member
            cases turn

/-- The registers are synchronised exactly when no null is met, the pulse constants of the
registers that were merged are numbers, those that are finished have key and number, and no
new number stands for two registers of the message. -/
theorem registers_are_synchronised_iff (objects : Nat → Register)
    (registersExt registersOrig : Option (List (Option Nat))) (relatedComponent : Int) (timeOfUpdate : UtcTime)
    (distinct : ((elements registersOrig).map fun original => (objects original).registerNumber).Nodup) :
    Synchronised objects (elements registersExt) (elements registersOrig)
        (mergeRegisters registersExt registersOrig relatedComponent timeOfUpdate ⟨objects, [], []⟩) ↔
      Synchronisable objects registersExt registersOrig := by
  by_cases noNulls : (registersOrig = none → registersExt.getD [] = []) ∧ none ∉ registersExt.getD [] ∧
      none ∉ registersOrig.getD []
  · obtain ⟨there, noNullExt, noNullOrig⟩ := noNulls
    obtain ⟨heap, merging, run⟩ :=
      mergeRegisters_run relatedComponent timeOfUpdate there noNullExt noNullOrig distinct
    obtain ⟨returns, leaves⟩ := disconnectLoop_run (elements registersOrig) heap
    have result (ended : (Program.forEach disconnectTurn ((elements registersOrig).map some) heap).1 = .ok ()) :
        Program.forEach disconnectTurn ((elements registersOrig).map some) heap =
          (.ok (), heap.disconnected (elements registersOrig)) := Prod.ext ended (leaves ended)
    rw [run]
    constructor
    · intro synchronised
      have ended := synchronised.returns
      rw [result ended, merging.synchronised_iff distinct] at synchronised
      obtain ⟨numbers, once⟩ := synchronised
      refine ⟨there, noNullExt, noNullOrig, numbers, fun original member absent => ?_, once⟩
      have notFound : isFound heap (some original) = false := Bool.eq_false_iff.mpr fun found =>
        absent ((merging.isFound_iff distinct member).mp found).1
      have accepted := returns.mp ended original member notFound
      rwa [merging.unmerged member absent] at accepted
    · intro synchronisable
      have ended : (Program.forEach disconnectTurn ((elements registersOrig).map some) heap).1 = .ok () := by
        refine returns.mpr fun original member notFound => ?_
        have absent : ¬InMessage objects (elements registersExt) original := fun inMessage =>
          absurd ((merging.isFound_iff distinct member).mpr
            ⟨inMessage, synchronisable.numbers original member inMessage⟩) (Bool.eq_false_iff.mp notFound)
        rw [merging.unmerged member absent]
        exact synchronisable.finishable original member absent
      rw [result ended, merging.synchronised_iff distinct]
      exact ⟨synchronisable.numbers, synchronisable.once⟩
  · constructor
    · exact fun synchronised => absurd (no_nulls_of_returns synchronised.returns) noNulls
    · exact fun synchronisable =>
        absurd ⟨synchronisable.there, synchronisable.externals, synchronisable.originals⟩ noNulls

def withoutFactor : Nat → Register
  | 0 => (((Record.new Register.fields).write Register.Field.key (1 : Int)).write
      Register.Field.registerNumber (1 : Int)).write Register.Field.pulseConstant Single.nan
  | _ => (Record.new Register.fields).write Register.Field.registerNumber (1 : Int)

/-- The register of the message is found, and yet the register of the component is finished. -/
theorem register_without_factor_is_finished :
    ¬Synchronised withoutFactor (elements (some [some 1])) (elements (some [some 0]))
      (mergeRegisters (some [some 1]) (some [some 0]) 1 UtcTime.null ⟨withoutFactor, [], []⟩) := by
  intro synchronised
  obtain ⟨register, ⟨⟨isOriginal, kept⟩ | updated, -⟩, -⟩ := synchronised.one 1 (by decide)
  · obtain rfl := List.mem_singleton.mp isOriginal
    revert kept
    decide
  · have none : updates (mergeRegisters (some [some 1]) (some [some 0]) 1 UtcTime.null
        ⟨withoutFactor, [], []⟩).2.commands = [] := by decide
    rw [none] at updated
    cases updated

def firstRegister (_ : Nat) : Register := (Record.new Register.fields).write Register.Field.registerNumber (1 : Int)

theorem first_register_is_merged :
    Synchronised firstRegister [1] [0]
      (mergeRegisters (some [some 1]) (some [some 0]) 1 UtcTime.null ⟨firstRegister, [], []⟩) := by
  refine (registers_are_synchronised_iff firstRegister (some [some 1]) (some [some 0]) 1 UtcTime.null
    (by decide)).mpr ⟨nofun, by decide, by decide, fun original member _ => ?_, fun original member absent => ?_,
      fun external member other otherMember _ _ => ?_⟩
  · obtain rfl := List.mem_singleton.mp member
    exact (by decide : Single.number 0 ≠ Single.nan)
  · obtain rfl := List.mem_singleton.mp member
    exact absurd ⟨1, List.mem_singleton_self 1, rfl⟩ absent
  · exact (List.mem_singleton.mp member).trans (List.mem_singleton.mp otherMember).symm

end Synchronisation

end ServiceHost.Metering
