import ServiceHost.Messaging.GS2Message

/-!
What a message holds that was built, extended and appended to: one start message with its
fields, readings, one end message. Such a message is parsed as it was.
-/

namespace ServiceHost.Messaging

open Library

variable {V : Type} (formats : Formats V)

section Start

structure FieldsGiven (message : GS2Message) : Prop where
  id : ∃ value, message.id = some value ∧ IsField value
  messageType : ∃ value, message.messageType = some value ∧ IsField value
  «to» : ∃ value, message.«to» = some value ∧ IsField value
  «from» : ∃ value, message.«from» = some value ∧ IsField value
  gmtReference : ∃ value, message.gmtReference = some value ∧ IsField value

theorem free_of_given {field : Option Text} (given : ∃ value, field = some value ∧ IsField value) :
    hash ∉ field.getD [] := by
  obtain ⟨value, rfl, isField⟩ := given
  exact isField.free

theorem FieldsGiven.free {message : GS2Message} (given : FieldsGiven message) : FieldsFree message where
  id := free_of_given given.id
  messageType := free_of_given given.messageType
  «to» := free_of_given given.to
  «from» := free_of_given given.from
  gmtReference := free_of_given given.gmtReference

variable {formats}

variable {message : GS2Message} {date : Text}

end Start

section Contents

def IsReading (messageObject : GS2MessageObject) : Prop :=
  ∃ name date unit value, hash ∉ name ∧ hash ∉ date ∧ hash ∉ unit ∧ hash ∉ value ∧
    messageObject = ⟨meterReading, readingText formats name date unit value⟩

structure Contents (message : GS2Message) (readings : List GS2MessageObject) : Prop where
  fields : FieldsGiven message
  objects : ∃ date, hash ∉ date ∧
    message.objects = ⟨startMessage, startText formats message date⟩ :: readings ++
      [⟨endMessage, endText formats message.id⟩]
  readings : ∀ reading ∈ readings, IsReading formats reading

variable {formats} {message : GS2Message} {readings : List GS2MessageObject}

theorem IsReading.type_eq {reading : GS2MessageObject} (isReading : IsReading formats reading) :
    reading.type = meterReading := by
  obtain ⟨name, date, unit, value, -, -, -, -, rfl⟩ := isReading
  rfl

theorem meterReading_ne : meterReading ≠ startMessage ∧ meterReading ≠ endMessage := by decide

def others (message : GS2Message) : List GS2MessageObject :=
  message.objects.filter fun messageObject => messageObject.type ≠ startMessage ∧ messageObject.type ≠ endMessage

end Contents

section Steps

variable {formats} {message : GS2Message} {readings : List GS2MessageObject}

theorem insertBeforeLast_run (contents : Contents formats message readings) {reading : GS2MessageObject}
    (isReading : IsReading formats reading) :
    ∃ later, insertBeforeLast reading message = (.ok (), later) ∧ Contents formats later (readings ++ [reading]) := by
  obtain ⟨given, ⟨date, dateFree, objects⟩, isReadings⟩ := contents
  let first : GS2MessageObject := ⟨startMessage, startText formats message date⟩
  let last : GS2MessageObject := ⟨endMessage, endText formats message.id⟩
  have some : message.objects ≠ [] := by
    rw [objects]
    exact List.cons_ne_nil _ _
  have inserted : message.objects.dropLast ++ reading :: message.objects.getLast?.toList =
      first :: (readings ++ [reading]) ++ [last] := by
    rw [objects, List.dropLast_concat, List.getLast?_concat, Option.toList_some]
    simp [first, last]
  have sameFields : FieldsGiven { message with objects := first :: (readings ++ [reading]) ++ [last] } :=
    ⟨given.id, given.messageType, given.to, given.from, given.gmtReference⟩
  refine ⟨_, ?_, sameFields, ⟨date, dateFree, rfl⟩, ?_⟩
  · unfold insertBeforeLast
    rw [Program.bind_of_ok (Program.read_run _ _), if_neg some, Program.change_run, inserted]
  · intro other member
    obtain isOld | isNew := List.mem_append.mp member
    · exact isReadings other isOld
    · rw [List.mem_singleton.mp isNew]
      exact isReading

theorem addTimeSeries_contents {ts : TimeSeries V} (nameFree : hash ∉ ts.name) (unitFree : hash ∉ ts.unit)
    (contents : Contents formats message readings) :
    ∃ more, Contents formats (addTimeSeries formats ts message).2 (readings ++ more) := by
  unfold addTimeSeries
  induction ts.points generalizing message readings with
  | nil => exact ⟨[], (List.append_nil readings).symm ▸ contents⟩
  | cons tvq rest ih =>
      rw [Program.forEach]
      cases date : formats.toDateTime tvq.1 with
      | error exception =>
          have turn : addPoint formats ts tvq message = (.error exception, message) := by
            unfold addPoint
            rw [date]
            exact Program.bind_of_error (Program.ofExcept_run _ _)
          rw [Program.bind_of_error turn]
          exact ⟨[], (List.append_nil readings).symm ▸ contents⟩
      | ok value =>
          let reading : GS2MessageObject :=
            ⟨meterReading, readingText formats ts.name value ts.unit (formats.toString tvq.2)⟩
          have isReading : IsReading formats reading :=
            ⟨_, _, _, _, nameFree, formats.dateFree date, unitFree, formats.valueFree _, rfl⟩
          obtain ⟨later, run, next⟩ := insertBeforeLast_run contents isReading
          have turn : addPoint formats ts tvq message = (.ok (), later) := by
            unfold addPoint
            rw [date, Program.bind_of_ok (Program.ofExcept_run _ _)]
            exact run
          rw [Program.bind_of_ok turn]
          obtain ⟨more, goesOn⟩ := ih next
          exact ⟨reading :: more, by rw [List.append_cons]; exact goesOn⟩

theorem appendTurn_other (contents : Contents formats message readings) {other : GS2Message}
    {messageObject : GS2MessageObject}
    (type : messageObject.type = startMessage ∨ messageObject.type = endMessage) :
    appendTurn formats other messageObject message = (.ok false, message) := by
  obtain ⟨-, ⟨date, -, objects⟩, -⟩ := contents
  have some : message.objects ≠ [] := by
    rw [objects]
    exact List.cons_ne_nil _ _
  have left : ¬(messageObject.type ≠ startMessage ∧ messageObject.type ≠ endMessage) := by
    rw [not_and_or, not_not, not_not]
    exact type
  unfold appendTurn
  rw [Program.bind_of_ok (Program.read_run _ _), if_neg some, if_neg left]
  rfl

theorem appendTurn_reading (contents : Contents formats message readings) {other : GS2Message}
    {reading : GS2MessageObject} (isReading : IsReading formats reading) :
    ∃ later, appendTurn formats other reading message = (.ok true, later) ∧
      Contents formats later (readings ++ [reading]) := by
  obtain ⟨later, run, next⟩ := insertBeforeLast_run contents isReading
  obtain ⟨-, ⟨date, -, objects⟩, -⟩ := contents
  have some : message.objects ≠ [] := by
    rw [objects]
    exact List.cons_ne_nil _ _
  have inserted : reading.type ≠ startMessage ∧ reading.type ≠ endMessage := by
    rw [isReading.type_eq]
    exact meterReading_ne
  refine ⟨later, ?_, next⟩
  unfold appendTurn
  rw [Program.bind_of_ok (Program.read_run _ _), if_neg some, if_pos inserted, Program.bind_of_ok run]
  rfl

theorem appendLoop_readings {other : GS2Message} {more : List GS2MessageObject} {last : GS2MessageObject}
    (isEnd : last.type = endMessage) (each : ∀ reading ∈ more, IsReading formats reading)
    (contents : Contents formats message readings) :
    ∃ later, appendLoop formats false other (more ++ [last]) message = (.ok (), later) ∧
      Contents formats later (readings ++ more) := by
  induction more generalizing message readings with
  | nil =>
      refine ⟨message, ?_, (List.append_nil readings).symm ▸ contents⟩
      rw [List.nil_append, appendLoop, Program.bind_of_ok (appendTurn_other contents (Or.inr isEnd))]
      rfl
  | cons reading more ih =>
      obtain ⟨middle, turn, next⟩ := appendTurn_reading contents (each reading List.mem_cons_self)
      obtain ⟨later, loop, ends⟩ := ih (fun other member => each other (List.mem_cons_of_mem _ member)) next
      refine ⟨later, ?_, List.append_cons .. ▸ ends⟩
      rw [List.cons_append, appendLoop, Program.bind_of_ok turn]
      exact loop

theorem append_other {source : GS2Message} {more : List GS2MessageObject} (contents : Contents formats message readings)
    (sourceContents : Contents formats source more) :
    ∃ later, appendGS2Message formats false source message = (.ok (), later) ∧
      Contents formats later (readings ++ more) := by
  obtain ⟨-, ⟨date, -, objects⟩, each⟩ := sourceContents
  obtain ⟨later, loop, ends⟩ := (@appendLoop_readings _ _ _ _ source _ (⟨endMessage, endText formats source.id⟩)) rfl each contents
  refine ⟨later, ?_, ends⟩
  unfold appendGS2Message
  rw [objects, List.cons_append, appendLoop, Program.bind_of_ok (appendTurn_other contents (Or.inl rfl))]
  exact loop

theorem append_self (contents : Contents formats message readings) :
    ((appendGS2Message formats true message message).1 = .ok () ↔ readings = []) ∧
      Contents formats (appendGS2Message formats true message message).2 (readings ++ readings.head?.toList) := by
  have own := contents
  obtain ⟨-, ⟨date, -, objects⟩, each⟩ := own
  have start : appendGS2Message formats true message message =
      appendLoop formats true message (readings ++ [⟨endMessage, endText formats message.id⟩]) message := by
    unfold appendGS2Message
    rw [objects, List.cons_append, appendLoop, Program.bind_of_ok (appendTurn_other contents (Or.inl rfl))]
    rfl
  rw [start]
  cases readings with
  | nil =>
      rw [List.nil_append, appendLoop, Program.bind_of_ok (appendTurn_other contents (Or.inr rfl))]
      exact ⟨⟨fun _ => rfl, fun _ => rfl⟩, contents⟩
  | cons reading rest =>
      obtain ⟨later, turn, next⟩ := @appendTurn_reading _ _ _ _ contents message _ (each reading List.mem_cons_self)
      rw [List.cons_append, appendLoop, Program.bind_of_ok turn]
      exact ⟨⟨fun returned => (nomatch returned), fun none => (nomatch none)⟩, next⟩

end Steps

section Reachable

def IsGuidText (id : Text) : Prop :=
  ∀ unit ∈ id, (48 ≤ unit ∧ unit ≤ 57) ∨ (97 ≤ unit ∧ unit ≤ 102) ∨ unit = 45

inductive Reachable : List GS2Message → Prop
  | empty : Reachable []
  | construct {heap : List GS2Message} {messageType «to» «from» gmtReference id : Text} {now : UtcTime}
      {message : GS2Message} : Reachable heap → IsField messageType → IsField «to» → IsField «from» →
      IsField gmtReference → IsGuidText id →
      construct formats messageType «to» «from» gmtReference id now = .ok message → Reachable (heap ++ [message])
  | addTimeSeries {heap : List GS2Message} {index : Nat} {message : GS2Message} {ts : TimeSeries V} :
      Reachable heap → heap[index]? = some message → IsField ts.name → IsField ts.unit →
      Reachable (heap.set index (addTimeSeries formats ts message).2)
  | append {heap : List GS2Message} {index other : Nat} {message source : GS2Message} : Reachable heap →
      heap[index]? = some message → heap[other]? = some source →
      Reachable (heap.set index (appendGS2Message formats (index == other) source message).2)

variable {formats}

theorem trim_of_none {value : Text} (none : ∀ unit ∈ value, isWhiteSpace unit = false) : trim value = value := by
  have keeps : ∀ other : Text, (∀ unit ∈ other, isWhiteSpace unit = false) → other.dropWhile isWhiteSpace = other := by
    intro other none
    cases other with
    | nil => rfl
    | cons unit rest => exact List.dropWhile_cons_of_neg (by rw [none unit List.mem_cons_self]; exact Bool.false_ne_true)
  unfold trim
  rw [keeps value none, keeps value.reverse fun unit member => none unit (List.mem_reverse.mp member),
    List.reverse_reverse]

theorem IsGuidText.isField {id : Text} (isGuid : IsGuidText id) : IsField id := by
  have excluded : ∀ other : UInt16, ¬((48 ≤ other ∧ other ≤ 57) ∨ (97 ≤ other ∧ other ≤ 102) ∨ other = 45) →
      other ∉ id := fun other outside member => outside (isGuid other member)
  refine ⟨excluded hash (by decide), ⟨excluded lineFeed (by decide), excluded carriageReturn (by decide)⟩,
    trim_of_none fun unit member => ?_⟩
  have inside := isGuid unit member
  simp only [UInt16.le_iff_toNat_le, ← UInt16.toNat_inj] at inside
  simp only [isWhiteSpace, UInt16.le_iff_toNat_le, ← UInt16.toNat_inj, decide_eq_false_iff_not]
  simp only [UInt16.reduceToNat] at inside ⊢
  omega

theorem construct_contents {messageType «to» «from» gmtReference id : Text} {now : UtcTime} {message : GS2Message}
    (typeField : IsField messageType) (toField : IsField «to») (fromField : IsField «from»)
    (referenceField : IsField gmtReference) (isGuid : IsGuidText id)
    (built : construct formats messageType «to» «from» gmtReference id now = .ok message) :
    Contents formats message [] := by
  have given : FieldsGiven ⟨some messageType, some «to», some «from», some gmtReference, some id, now, []⟩ :=
    ⟨⟨_, rfl, isGuid.isField⟩, ⟨_, rfl, typeField⟩, ⟨_, rfl, toField⟩, ⟨_, rfl, fromField⟩, ⟨_, rfl, referenceField⟩⟩
  cases date : formats.toDateTime now with
  | error exception =>
      simp [construct, addStartMessage, bind, date, Except.map] at built
  | ok value =>
      simp [construct, addStartMessage, addEndMessage, bind, date, Except.map] at built
      subst built
      exact ⟨⟨given.id, given.messageType, given.to, given.from, given.gmtReference⟩,
        ⟨value, formats.dateFree date, rfl⟩, fun _ member => (nomatch member)⟩

theorem Reachable.contents {heap : List GS2Message} (reachable : Reachable formats heap) :
    ∀ message ∈ heap, ∃ readings, Contents formats message readings := by
  induction reachable with
  | empty => exact fun _ member => (nomatch member)
  | construct _ typeField toField fromField referenceField isGuid built ih =>
      intro message member
      obtain isOld | isNew := List.mem_append.mp member
      · exact ih message isOld
      · obtain rfl := List.mem_singleton.mp isNew
        exact ⟨[], construct_contents typeField toField fromField referenceField isGuid built⟩
  | addTimeSeries _ found nameField unitField ih =>
      intro message member
      obtain isOld | rfl := List.mem_or_eq_of_mem_set member
      · exact ih message isOld
      · obtain ⟨readings, contents⟩ := ih _ (List.mem_of_getElem? found)
        obtain ⟨more, next⟩ := addTimeSeries_contents nameField.free unitField.free contents
        exact ⟨_, next⟩
  | @append heap index other message source _ found foundSource ih =>
      intro later member
      obtain isOld | rfl := List.mem_or_eq_of_mem_set member
      · exact ih later isOld
      · obtain ⟨readings, contents⟩ := ih _ (List.mem_of_getElem? found)
        cases same : index == other with
        | true =>
            obtain rfl := eq_of_beq same
            obtain rfl := Option.some.inj (found.symm.trans foundSource)
            exact ⟨_, (append_self contents).2⟩
        | false =>
            obtain ⟨more, sourceContents⟩ := ih _ (List.mem_of_getElem? foundSource)
            obtain ⟨later, run, next⟩ := append_other contents sourceContents
            rw [run]
            exact ⟨_, next⟩

end Reachable

section Instances

def ordinal : Culture where
  begins := fun value => (text "##").isPrefixOf value
  ignorable := fun _ => false
  found := fun {value} begins => by
    obtain ⟨after, rfl⟩ := List.isPrefixOf_iff_prefix.mp begins
    exact ⟨[], [], after, rfl, fun _ member => (nomatch member), fun _ member => (nomatch member)⟩
  sure := fun rest _ => by
    exact List.isPrefixOf_iff_prefix.mpr ⟨_, rfl⟩
  letter := fun _ => rfl
  hash := rfl
  lineFeed := rfl

def onlyOne : Formats Unit where
  carriageReturns := true
  toDateTime := fun _ => .ok (text "0001-01-01.00:00:00")
  toString := fun _ => text "1"
  dateFree := fun same => by
    obtain rfl := Except.ok.inj same
    decide
  valueFree := fun _ => by decide

def firstInstant : UtcTime := GS2Message.default.time

def twoReadings : TimeSeries Unit := ⟨text "P1", text "kWh", [(firstInstant, ()), (firstInstant, ())]⟩

def emptyMessage : GS2Message :=
  match construct onlyOne (text "Settlement-data") (text "A") (text "B") (text "1") (text "0f") firstInstant with
  | .ok message => message
  | .error _ => GS2Message.default

def filledMessage : GS2Message := (addTimeSeries onlyOne twoReadings emptyMessage).2

end Instances

end ServiceHost.Messaging
