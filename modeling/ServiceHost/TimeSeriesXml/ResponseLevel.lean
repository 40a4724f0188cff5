import ServiceHost.TimeSeriesXml.TimeSeriesXMLAdapter

/-!
What is stored at two response levels. Two runs over one document go side by side as
long as neither has failed. A run that answers nothing never fails, so it stores what
every other run refuses.
-/

namespace ServiceHost.TimeSeriesXml

open Library

variable {D : Type} {runtime : Runtime}

def TimeSeriesType.atLevel (tsXML : TimeSeriesType D) (responseLevel : TsResponseLevelType) : TimeSeriesType D :=
  { tsXML with responseLevel }

def RejectsPeriod (runtime : Runtime) (tsXML : TimeSeriesType D) : Prop :=
  ∃ valueMetaInfo replacePeriod message, tsXML.valueMetaInfo = some valueMetaInfo ∧
    valueMetaInfo.replacePeriod = some replacePeriod ∧ parseTimePeriod runtime replacePeriod = .error message

def itemFails (runtime : Runtime) (item : TsPVQItemType D) : Bool :=
  match parseTsItem runtime item with
  | .ok _ => false
  | .error _ => true

def SeriesFails (runtime : Runtime) (tsXML : TimeSeriesType D) : Prop :=
  tsXML.reference.id = "" ∨ RejectsPeriod runtime tsXML ∨ ∀ item ∈ tsXML.items, itemFails runtime item = true

structure SameStorage (runtime : Runtime) (tsXML : TimeSeriesType D) (level level' : TsResponseLevelType) : Prop where
  same : storageCall (parseTimeSeries runtime (tsXML.atLevel level)) =
    storageCall (parseTimeSeries runtime (tsXML.atLevel level'))
  refused : RejectsPeriod runtime tsXML → storageCall (parseTimeSeries runtime (tsXML.atLevel level)) = none ∧
    storageCall (parseTimeSeries runtime (tsXML.atLevel level')) = none

section Items

variable {importData first second : TsXmlImportData D} {nItemsInvalid : Nat} {item : TsPVQItemType D}

theorem newResponse_same (importData : TsXmlImportData D) (item : TsPVQItemType D) (status : StatusType)
    (statusMessage : String) : SameReport importData (importData.newResponse item status statusMessage).2 := by
  unfold TsXmlImportData.newResponse
  split <;> exact ⟨rfl, rfl, rfl, rfl, rfl, rfl, rfl, rfl⟩

theorem SameReport.trans {middle later : TsXmlImportData D} (before : SameReport importData middle)
    (after : SameReport middle later) : SameReport importData later where
  dataLevel := after.dataLevel.trans before.dataLevel
  responseLevel := after.responseLevel.trans before.responseLevel
  status := after.status.trans before.status
  itemsResponses := after.itemsResponses.trans before.itemsResponses
  totalItems := after.totalItems.trans before.totalItems
  failedItems := after.failedItems.trans before.failedItems
  timeSeries := after.timeSeries.trans before.timeSeries
  replacePeriod := after.replacePeriod.trans before.replacePeriod

theorem addItem_same (failed : importData.tsResponse.status = .failed) :
    SameReport importData (importData.addItem runtime nItemsInvalid item).2 := by
  have fresh := newResponse_same importData item .failed "Item skipped because of time series parsing error"
  simp only [TsXmlImportData.addItem, failed, ne_eq, not_true_eq_false, ↓reduceIte]
  generalize importData.newResponse item .failed "Item skipped because of time series parsing error" = made at fresh ⊢
  obtain ⟨reference, later⟩ := made
  cases reference with
  | none => exact fresh
  | some reference => exact fresh.trans ⟨rfl, rfl, rfl, rfl, rfl, rfl, rfl, rfl⟩

theorem addItem_goes (goes : importData.tsResponse.status ≠ .failed) : ∃ touched, SameReport importData touched ∧
    ((∃ message, parseTsItem runtime item = .error message ∧
        importData.addItem runtime nItemsInvalid item = (nItemsInvalid + 1, touched)) ∨
      (∃ tvq, parseTsItem runtime item = .ok tvq ∧ tvq.time ∈ importData.itemsResponses.map Prod.fst ∧
        importData.addItem runtime nItemsInvalid item = (nItemsInvalid, touched)) ∨
      ∃ tvq reference, parseTsItem runtime item = .ok tvq ∧ tvq.time ∉ importData.itemsResponses.map Prod.fst ∧
        importData.addItem runtime nItemsInvalid item = (nItemsInvalid, { touched with
          itemsResponses := touched.itemsResponses ++ [(tvq.time, reference)]
          timeSeries := touched.timeSeries.setValue tvq true })) := by
  have fresh := newResponse_same importData item .ok ""
  rw [TsXmlImportData.addItem, if_pos goes]
  generalize importData.newResponse item .ok "" = made at fresh ⊢
  obtain ⟨reference, later⟩ := made
  cases parsed : parseTsItem runtime item with
  | error message => exact ⟨_, fresh.trans (reportItem_same later reference message .failed), Or.inl ⟨message, rfl, rfl⟩⟩
  | ok tvq =>
      simp only [TsXmlImportData.addImportItem]
      split
      · rename_i known
        refine ⟨_, fresh.trans (reportItem_same later reference _ .failed), Or.inr (Or.inl ⟨tvq, rfl, ?_, rfl⟩)⟩
        rw [← fresh.itemsResponses]
        simpa using known
      · rename_i unknown
        refine ⟨later, fresh, Or.inr (Or.inr ⟨tvq, reference, rfl, ?_, rfl⟩)⟩
        rw [← fresh.itemsResponses]
        simpa using unknown

theorem addItem_series (importData : TsXmlImportData D) (nItemsInvalid : Nat) (item : TsPVQItemType D) :
    (importData.addItem runtime nItemsInvalid item).2.tsResponse.status = importData.tsResponse.status ∧
      (importData.addItem runtime nItemsInvalid item).2.tsResponse.responseLevel =
        importData.tsResponse.responseLevel := by
  by_cases failed : importData.tsResponse.status = .failed
  · have same := @addItem_same _ runtime importData nItemsInvalid item failed
    exact ⟨same.status, same.responseLevel⟩
  · obtain ⟨touched, same, ⟨_, _, step⟩ | ⟨_, _, _, step⟩ | ⟨_, _, _, _, step⟩⟩ :=
      @addItem_goes _ runtime importData nItemsInvalid item failed
    all_goals
      rw [step]
      exact ⟨same.status, same.responseLevel⟩

theorem addItems_series (items : List (TsPVQItemType D)) (importData : TsXmlImportData D) (nItemsInvalid : Nat) :
    (importData.addItems runtime items nItemsInvalid).2.tsResponse.status = importData.tsResponse.status ∧
      (importData.addItems runtime items nItemsInvalid).2.tsResponse.responseLevel =
        importData.tsResponse.responseLevel := by
  induction items generalizing importData nItemsInvalid with
  | nil => exact ⟨rfl, rfl⟩
  | cons item rest ih =>
      obtain ⟨status, responseLevel⟩ := @addItem_series _ runtime importData nItemsInvalid item
      obtain ⟨laterStatus, laterLevel⟩ := ih (importData.addItem runtime nItemsInvalid item).2
        (importData.addItem runtime nItemsInvalid item).1
      exact ⟨laterStatus.trans status, laterLevel.trans responseLevel⟩

structure SideBySide (first second : TsXmlImportData D) : Prop where
  timeSeries : first.timeSeries = second.timeSeries
  replacePeriod : first.replacePeriod = second.replacePeriod
  times : first.itemsResponses.map Prod.fst = second.itemsResponses.map Prod.fst

theorem SameReport.sides {touched touched' : TsXmlImportData D} (same : SameReport first touched)
    (same' : SameReport second touched') (sides : SideBySide first second) : SideBySide touched touched' where
  timeSeries := same.timeSeries.trans (sides.timeSeries.trans same'.timeSeries.symm)
  replacePeriod := same.replacePeriod.trans (sides.replacePeriod.trans same'.replacePeriod.symm)
  times := by rw [same.itemsResponses, same'.itemsResponses, sides.times]

theorem SideBySide.step (sides : SideBySide first second) (goes : first.tsResponse.status ≠ .failed)
    (goes' : second.tsResponse.status ≠ .failed) (nItemsInvalid : Nat) (item : TsPVQItemType D) :
    (first.addItem runtime nItemsInvalid item).1 = (second.addItem runtime nItemsInvalid item).1 ∧
      SideBySide (first.addItem runtime nItemsInvalid item).2 (second.addItem runtime nItemsInvalid item).2 := by
  obtain ⟨touched, same, ways⟩ := @addItem_goes _ runtime first nItemsInvalid item goes
  obtain ⟨touched', same', ways'⟩ := @addItem_goes _ runtime second nItemsInvalid item goes'
  have between := same.sides same' sides
  rw [sides.times] at ways
  rcases ways with ⟨message, failed, step⟩ | ⟨tvq, parsed, known, step⟩ | ⟨tvq, reference, parsed, fresh, step⟩
  · rcases ways' with ⟨_, _, step'⟩ | ⟨tvq', parsed', _⟩ | ⟨tvq', _, parsed', _⟩
    · rw [step, step']
      exact ⟨rfl, between⟩
    all_goals
      rw [failed] at parsed'
      contradiction
  · rcases ways' with ⟨_, failed', _⟩ | ⟨_, _, _, step'⟩ | ⟨tvq', _, parsed', fresh', _⟩
    · rw [parsed] at failed'
      contradiction
    · rw [step, step']
      exact ⟨rfl, between⟩
    · rw [parsed] at parsed'
      cases parsed'
      exact absurd known fresh'
  · rcases ways' with ⟨_, failed', _⟩ | ⟨tvq', parsed', known', _⟩ | ⟨tvq', reference', parsed', _, step'⟩
    · rw [parsed] at failed'
      contradiction
    · rw [parsed] at parsed'
      cases parsed'
      exact absurd known' fresh
    · rw [parsed] at parsed'
      cases parsed'
      rw [step, step']
      refine ⟨rfl, ?_, between.replacePeriod, ?_⟩
      · exact congrArg (fun series => series.setValue tvq true) between.timeSeries
      · simp [between.times]

theorem SideBySide.run (sides : SideBySide first second) (goes : first.tsResponse.status ≠ .failed)
    (goes' : second.tsResponse.status ≠ .failed) (items : List (TsPVQItemType D)) (nItemsInvalid : Nat) :
    (first.addItems runtime items nItemsInvalid).1 = (second.addItems runtime items nItemsInvalid).1 ∧
      SideBySide (first.addItems runtime items nItemsInvalid).2 (second.addItems runtime items nItemsInvalid).2 := by
  induction items generalizing first second nItemsInvalid with
  | nil => exact ⟨rfl, sides⟩
  | cons item rest ih =>
      obtain ⟨count, after⟩ := @SideBySide.step _ runtime _ _ sides goes goes' nItemsInvalid item
      have still := (@addItem_series _ runtime first nItemsInvalid item).1.trans_ne goes
      have still' := (@addItem_series _ runtime second nItemsInvalid item).1.trans_ne goes'
      simp only [TsXmlImportData.addItems, ← count]
      exact ih after still still' _

theorem addItems_invalid (goes : importData.tsResponse.status ≠ .failed) (items : List (TsPVQItemType D))
    (nItemsInvalid : Nat) : (importData.addItems runtime items nItemsInvalid).1 =
      nItemsInvalid + (items.filter (itemFails runtime)).length := by
  induction items generalizing importData nItemsInvalid with
  | nil => rfl
  | cons item rest ih =>
      have still := (@addItem_series _ runtime importData nItemsInvalid item).1.trans_ne goes
      simp only [TsXmlImportData.addItems]
      rw [ih still]
      obtain ⟨touched, _, ⟨_, failed, step⟩ | ⟨_, parsed, _, step⟩ | ⟨_, _, parsed, _, step⟩⟩ :=
        @addItem_goes _ runtime importData nItemsInvalid item goes
      · have fails : itemFails runtime item = true := by rw [itemFails, failed]
        rw [step, List.filter_cons_of_pos fails, List.length_cons]
        omega
      · have passes : ¬ itemFails runtime item = true := by simp [itemFails, parsed]
        rw [step, List.filter_cons_of_neg passes]
      · have passes : ¬ itemFails runtime item = true := by simp [itemFails, parsed]
        rw [step, List.filter_cons_of_neg passes]

end Items

section Series

variable {importData : TsXmlImportData D} {nItems nItemsInvalid : Nat} {tsXML : TimeSeriesType D}
  {level level' : TsResponseLevelType}

theorem addTsStatus_silent (silent : importData.tsResponse.responseLevel = .none) (statusMessage : String)
    (statusType : StatusType) : importData.addTsStatus statusMessage statusType = importData := by
  unfold TsXmlImportData.addTsStatus
  rw [if_neg (not_not_intro silent)]

theorem addTsStatus_failed_iff (asked : importData.tsResponse.responseLevel ≠ .none) (statusMessage : String)
    (statusType : StatusType) : (importData.addTsStatus statusMessage statusType).tsResponse.status = .failed ↔
      importData.tsResponse.status = .failed ∨ statusType = .failed := by
  rw [addTsStatus_status _ _ asked]
  cases importData.tsResponse.status <;> cases statusType <;> decide

theorem closeItems_silent (silent : importData.tsResponse.responseLevel = .none) :
    closeItems nItems nItemsInvalid importData = importData := by
  simp only [closeItems, addTsStatus_silent silent, ite_self]

theorem closeItems_reported (nItems nItemsInvalid : Nat) (importData : TsXmlImportData D) :
    Reported importData (closeItems nItems nItemsInvalid importData) := by
  let received := importData.addTsStatus (toString nItems ++ " items received") .ok
  have first : Reported importData received := addTsStatus_reported ..
  have second : Reported importData (if nItems = 0 then received.addTsStatus "No items received" .failed else received) := by
    split
    · exact first.trans (addTsStatus_reported ..)
    · exact first
  simp only [closeItems]
  split
  · exact second.trans (addTsStatus_reported ..)
  · exact second

theorem closeItems_failed_iff (asked : importData.tsResponse.responseLevel ≠ .none) :
    (closeItems nItems nItemsInvalid importData).tsResponse.status = .failed ↔
      importData.tsResponse.status = .failed ∨ nItems = 0 ∨ nItemsInvalid > 0 ∧ nItemsInvalid = nItems := by
  have received := addTsStatus_reported importData (toString nItems ++ " items received") .ok
  have stillAsked := received.responseLevel.trans_ne asked
  have still := addTsStatus_failed_iff asked (toString nItems ++ " items received") .ok
  have empty := addTsStatus_reported (importData.addTsStatus (toString nItems ++ " items received") .ok)
    "No items received" .failed
  simp only [closeItems]
  by_cases none_ : nItems = 0
  · have fails := (addTsStatus_failed_iff stillAsked "No items received" .failed).mpr (Or.inr rfl)
    have notAll : ¬ (nItemsInvalid > 0 ∧ nItemsInvalid = nItems) := by omega
    rw [if_neg notAll, if_pos none_]
    exact iff_of_true fails (Or.inr (Or.inl none_))
  · rw [if_neg none_]
    split
    · rename_i all
      have fails := (addTsStatus_failed_iff stillAsked "All items failed during parsing of XML" .failed).mpr (Or.inr rfl)
      exact iff_of_true fails (Or.inr (Or.inr all))
    · rename_i notAll
      rw [still]
      simp [none_, notAll]

def opened (runtime : Runtime) (tsXML : TimeSeriesType D) : TsXmlImportData D :=
  parseValueMetaInfo runtime tsXML (parseReference tsXML (newImportData tsXML.responseLevel))

theorem parseReference_level (importData : TsXmlImportData D) :
    (parseReference tsXML importData).tsResponse.responseLevel = importData.tsResponse.responseLevel := by
  unfold parseReference
  split
  · exact (addTsStatus_reported ..).responseLevel
  · rfl

theorem parseValueMetaInfo_level (importData : TsXmlImportData D) :
    (parseValueMetaInfo runtime tsXML importData).tsResponse.responseLevel = importData.tsResponse.responseLevel := by
  unfold parseValueMetaInfo
  split
  · rfl
  · unfold parseReplacePeriod
    split
    · rfl
    · split
      · rfl
      · exact (addTsStatus_reported ..).responseLevel

theorem parseReplacePeriod_failed_iff (asked : importData.tsResponse.responseLevel ≠ .none)
    (replacePeriod : Option TsTimePeriodType) :
    (parseReplacePeriod runtime replacePeriod importData).tsResponse.status = .failed ↔
      importData.tsResponse.status = .failed ∨
        ∃ given message, replacePeriod = some given ∧ parseTimePeriod runtime given = .error message := by
  cases replacePeriod with
  | none => simp [parseReplacePeriod]
  | some given =>
      simp only [parseReplacePeriod]
      cases parsed : parseTimePeriod runtime given with
      | ok period => simp [parsed]
      | error message =>
          rw [addTsStatus_failed_iff asked]
          exact iff_of_true (Or.inr rfl) (Or.inr ⟨given, message, rfl, parsed⟩)

theorem parseValueMetaInfo_failed_iff (asked : importData.tsResponse.responseLevel ≠ .none) :
    (parseValueMetaInfo runtime tsXML importData).tsResponse.status = .failed ↔
      importData.tsResponse.status = .failed ∨ RejectsPeriod runtime tsXML := by
  unfold parseValueMetaInfo RejectsPeriod
  cases tsXML.valueMetaInfo with
  | none => simp
  | some valueMetaInfo =>
      have period := @parseReplacePeriod_failed_iff _ runtime { importData with
        timeSeries := { importData.timeSeries with resolution := resolutionOf valueMetaInfo.interval } } asked
        valueMetaInfo.replacePeriod
      exact period.trans (by simp)

theorem opened_level (tsXML : TimeSeriesType D) :
    (opened runtime tsXML).tsResponse.responseLevel = tsXML.responseLevel :=
  (parseValueMetaInfo_level _).trans (parseReference_level _)

theorem opened_failed_iff (asked : tsXML.responseLevel ≠ .none) :
    (opened runtime tsXML).tsResponse.status = .failed ↔ tsXML.reference.id = "" ∨ RejectsPeriod runtime tsXML := by
  have stillAsked : (parseReference tsXML (newImportData tsXML.responseLevel)).tsResponse.responseLevel ≠ .none :=
    (parseReference_level _).trans_ne asked
  rw [opened, parseValueMetaInfo_failed_iff stillAsked, parseReference]
  split
  · rename_i noId
    rw [addTsStatus_failed_iff asked]
    simp [noId]
  · rename_i id
    simp [id, newImportData]

theorem opened_silent (silent : tsXML.responseLevel = .none) : (opened runtime tsXML).tsResponse.status = .ok := by
  have reference : (parseReference tsXML (newImportData tsXML.responseLevel)).tsResponse = ⟨.ok, [], [], .none⟩ := by
    unfold parseReference
    split
    · rw [addTsStatus_silent silent, silent]
      rfl
    · rw [silent]
      rfl
  unfold opened parseValueMetaInfo
  split
  · rw [reference]
  · unfold parseReplacePeriod
    split
    · rw [reference]
    · split
      · rw [reference]
      · rw [addTsStatus_silent (by rw [reference]), reference]

theorem SideBySide.reported {first second later later' : TsXmlImportData D} (sides : SideBySide first second)
    (reported : Reported first later) (reported' : Reported second later') : SideBySide later later' where
  timeSeries := reported.timeSeries.trans (sides.timeSeries.trans reported'.timeSeries.symm)
  replacePeriod := reported.replacePeriod.trans (sides.replacePeriod.trans reported'.replacePeriod.symm)
  times := by rw [reported.itemsResponses, reported'.itemsResponses, sides.times]

theorem SideBySide.parseValueMetaInfo {first second : TsXmlImportData D} (sides : SideBySide first second)
    (runtime : Runtime) (tsXML : TimeSeriesType D) :
    SideBySide (parseValueMetaInfo runtime tsXML first) (parseValueMetaInfo runtime tsXML second) := by
  obtain ⟨timeSeries, replacePeriod, times⟩ := sides
  unfold TimeSeriesXml.parseValueMetaInfo parseReplacePeriod
  split
  · exact ⟨timeSeries, replacePeriod, times⟩
  · split
    · exact ⟨by rw [timeSeries], replacePeriod, times⟩
    · split
      · exact ⟨by rw [timeSeries], rfl, times⟩
      · refine SideBySide.reported ?_ (addTsStatus_reported ..) (addTsStatus_reported ..)
        exact ⟨by rw [timeSeries], replacePeriod, times⟩

theorem opened_sideBySide (tsXML : TimeSeriesType D) (level level' : TsResponseLevelType) :
    SideBySide (opened runtime (tsXML.atLevel level)) (opened runtime (tsXML.atLevel level')) := by
  have fresh : @SideBySide D (newImportData level) (newImportData level') := ⟨rfl, rfl, rfl⟩
  have reference : SideBySide (parseReference tsXML (newImportData level)) (parseReference tsXML (newImportData level')) := by
    unfold parseReference
    split
    · exact fresh.reported (addTsStatus_reported ..) (addTsStatus_reported ..)
    · exact ⟨rfl, rfl, rfl⟩
  exact reference.parseValueMetaInfo runtime tsXML

def parsedItems (runtime : Runtime) (tsXML : TimeSeriesType D) : Nat × TsXmlImportData D :=
  (opened runtime tsXML).addItems runtime tsXML.items 0

def closed (runtime : Runtime) (tsXML : TimeSeriesType D) : TsXmlImportData D :=
  closeItems tsXML.items.length (parsedItems runtime tsXML).1 (parsedItems runtime tsXML).2

theorem storageCall_eq (runtime : Runtime) (tsXML : TimeSeriesType D) :
    storageCall (parseTimeSeries runtime tsXML) =
      if (closed runtime tsXML).tsResponse.status = .failed then none
      else some ⟨(parsedItems runtime tsXML).2.timeSeries, tsXML.reference.originatorSendingTimeDateTime,
        (parsedItems runtime tsXML).2.replacePeriod⟩ := by
  have reported : Reported (parsedItems runtime tsXML).2 (closed runtime tsXML) := closeItems_reported ..
  have parsed : parseTimeSeries runtime tsXML =
      if (closed runtime tsXML).tsResponse.status ≠ .failed then
        { closed runtime tsXML with
          originatorSendingTime := tsXML.reference.originatorSendingTimeDateTime
          totalItems := tsXML.items.length
          failedItems := (parsedItems runtime tsXML).1 }
      else closed runtime tsXML := rfl
  rw [storageCall, parsed]
  by_cases failed : (closed runtime tsXML).tsResponse.status = .failed
  · simp [failed]
  · simp [failed, reported.timeSeries, reported.replacePeriod]

theorem parsedItems_series (runtime : Runtime) (tsXML : TimeSeriesType D) :
    (parsedItems runtime tsXML).2.tsResponse.status = (opened runtime tsXML).tsResponse.status ∧
      (parsedItems runtime tsXML).2.tsResponse.responseLevel = tsXML.responseLevel := by
  obtain ⟨status, level⟩ := @addItems_series _ runtime tsXML.items (opened runtime tsXML) 0
  exact ⟨status, level.trans (opened_level tsXML)⟩

theorem storageCall_none_iff (asked : tsXML.responseLevel ≠ .none) :
    storageCall (parseTimeSeries runtime tsXML) = none ↔ SeriesFails runtime tsXML := by
  have opening := @opened_failed_iff _ runtime tsXML asked
  obtain ⟨status, level⟩ := parsedItems_series runtime tsXML
  have closing := @closeItems_failed_iff _ (parsedItems runtime tsXML).2 tsXML.items.length
    (parsedItems runtime tsXML).1 (level.trans_ne asked)
  have stored : storageCall (parseTimeSeries runtime tsXML) = none ↔
      (closed runtime tsXML).tsResponse.status = .failed := by
    rw [storageCall_eq]
    simp
  rw [stored, closed, closing, status, opening, SeriesFails, or_assoc]
  by_cases goes : (opened runtime tsXML).tsResponse.status = .failed
  · rcases opening.mp goes with noId | rejects
    · simp [noId]
    · simp [rejects]
  · have allInvalid := List.length_filter_eq_length_iff (p := itemFails runtime) (l := tsXML.items)
    have count : (parsedItems runtime tsXML).1 = (tsXML.items.filter (itemFails runtime)).length :=
      (addItems_invalid goes tsXML.items 0).trans (Nat.zero_add _)
    have some_ : tsXML.items.length = 0 ∨ (parsedItems runtime tsXML).1 > 0 ∧
        (parsedItems runtime tsXML).1 = tsXML.items.length ↔
        (tsXML.items.filter (itemFails runtime)).length = tsXML.items.length := by
      have least := List.length_filter_le (itemFails runtime) tsXML.items
      omega
    rw [some_, allInvalid]

theorem storageCall_silent (silent : tsXML.responseLevel = .none) :
    storageCall (parseTimeSeries runtime tsXML) ≠ none := by
  obtain ⟨status, level⟩ := parsedItems_series runtime tsXML
  rw [storageCall_eq, closed, closeItems_silent (level.trans silent), status, opened_silent silent]
  simp

theorem storageCall_some {call : StorageCall D} (stores : storageCall (parseTimeSeries runtime tsXML) = some call) :
    (opened runtime tsXML).tsResponse.status ≠ .failed ∧ call = ⟨(parsedItems runtime tsXML).2.timeSeries,
      tsXML.reference.originatorSendingTimeDateTime, (parsedItems runtime tsXML).2.replacePeriod⟩ := by
  rw [storageCall_eq] at stores
  split at stores
  · contradiction
  · rename_i goes
    refine ⟨fun failed => goes ?_, (Option.some.inj stores).symm⟩
    obtain ⟨status, level⟩ := parsedItems_series runtime tsXML
    by_cases silent : tsXML.responseLevel = .none
    · rw [opened_silent silent] at failed
      contradiction
    · exact (closeItems_failed_iff (level.trans_ne silent)).mpr (Or.inl (status.trans failed))

theorem storageCall_same {call call' : StorageCall D}
    (stores : storageCall (parseTimeSeries runtime (tsXML.atLevel level)) = some call)
    (stores' : storageCall (parseTimeSeries runtime (tsXML.atLevel level')) = some call') : call = call' := by
  obtain ⟨goes, rfl⟩ := storageCall_some stores
  obtain ⟨goes', rfl⟩ := storageCall_some stores'
  obtain ⟨_, sides⟩ := @SideBySide.run _ runtime _ _ (opened_sideBySide tsXML level level') goes goes' tsXML.items 0
  rw [StorageCall.mk.injEq]
  exact ⟨sides.timeSeries, rfl, sides.replacePeriod⟩

/-- The same is stored at two levels exactly when a series that fails is asked about at
both or at neither, and one whose replace period is rejected at both. -/
theorem sameStorage_iff (runtime : Runtime) (tsXML : TimeSeriesType D) (level level' : TsResponseLevelType) :
    SameStorage runtime tsXML level level' ↔
      (SeriesFails runtime tsXML → (level = .none ↔ level' = .none)) ∧
      (RejectsPeriod runtime tsXML → level ≠ .none ∧ level' ≠ .none) := by
  have silent (level : TsResponseLevelType) (none_ : level = .none) :
      storageCall (parseTimeSeries runtime (tsXML.atLevel level)) ≠ none := storageCall_silent none_
  have asked (level : TsResponseLevelType) (some_ : level ≠ .none) :
      storageCall (parseTimeSeries runtime (tsXML.atLevel level)) = none ↔ SeriesFails runtime tsXML :=
    storageCall_none_iff some_
  constructor
  · rintro ⟨same, refused⟩
    refine ⟨fun fails => ⟨fun none_ => ?_, fun none_ => ?_⟩, fun rejects => ⟨fun none_ => ?_, fun none_ => ?_⟩⟩
    · by_contra some_
      exact silent level none_ (same.trans ((asked level' some_).mpr fails))
    · by_contra some_
      exact silent level' none_ (same.symm.trans ((asked level some_).mpr fails))
    · exact silent level none_ (refused rejects).1
    · exact silent level' none_ (refused rejects).2
  · rintro ⟨both, heard⟩
    constructor
    · cases first : storageCall (parseTimeSeries runtime (tsXML.atLevel level)) with
      | none =>
          have some_ : level ≠ .none := fun none_ => silent level none_ first
          have fails := (asked level some_).mp first
          exact ((asked level' fun none_ => some_ ((both fails).mpr none_)).mpr fails).symm
      | some call =>
          cases second : storageCall (parseTimeSeries runtime (tsXML.atLevel level')) with
          | none =>
              have some_ : level' ≠ .none := fun none_ => silent level' none_ second
              have fails := (asked level' some_).mp second
              have refused := (asked level fun none_ => some_ ((both fails).mp none_)).mpr fails
              rw [first] at refused
              contradiction
          | some call' => exact congrArg some (storageCall_same first second)
    · intro rejects
      have fails : SeriesFails runtime tsXML := Or.inr (Or.inl rejects)
      exact ⟨(asked level (heard rejects).1).mpr fails, (asked level' (heard rejects).2).mpr fails⟩

def samplePeriodDocument : TimeSeriesType Int where
  reference := ⟨"series", UtcTime.ofTicks 50000⟩
  valueMetaInfo := some ⟨none, some ⟨UtcTime.ofTicks 10000, UtcTime.ofTicks 36000010000, true, "PT1H"⟩⟩
  items := [sampleItem 10000 1]
  responseLevel := .none

/-- The points of a document are stored without its replace period when nothing is answered. -/
theorem sameStorage_fails :
    ¬ ∀ (tsXML : TimeSeriesType Int) (level level' : TsResponseLevelType), SameStorage sampleRuntime tsXML level level' := by
  intro same
  have stored : (storageCall (parseTimeSeries sampleRuntime (samplePeriodDocument.atLevel .none))).isSome = true := by
    decide
  have refused : (storageCall (parseTimeSeries sampleRuntime (samplePeriodDocument.atLevel .ts))).isNone = true := by
    decide
  have equal := (same samplePeriodDocument .none .ts).same
  rw [equal, Option.isSome_iff_ne_none, ← Option.isNone_iff_eq_none.mp refused] at stored
  exact stored rfl

end Series

end ServiceHost.TimeSeriesXml
