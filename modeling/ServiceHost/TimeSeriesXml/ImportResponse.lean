import ServiceHost.TimeSeriesXml.TimeSeriesXMLAdapter

/-!
What the response of an import says about its items. It is the truth as long as no item
repeats a time when none is accepted, and none is accepted where only failures are asked
for: repeated items are not counted, and accepted ones are never left out.
-/

namespace ServiceHost.TimeSeriesXml

open Library

variable {D : Type} {runtime : Runtime} {tsXML : TimeSeriesType D} {statuses : List (TvqStorageStatus D)}

def Accepted (runtime : Runtime) (tsXML : TimeSeriesType D) (statuses : List (TvqStorageStatus D))
    (position : Nat) : Prop :=
  ∃ tvq, FirstAt runtime tsXML.items position tvq ∧
    ∃ status ∈ statuses, status.tvq.time = tvq.time ∧ isOk status = true

def Answered (runtime : Runtime) (tsXML : TimeSeriesType D) (statuses : List (TvqStorageStatus D)) : Prop :=
  (statuses.map fun status => status.tvq.limitTime).Perm (parseTimeSeries runtime tsXML).timeSeries.times

instance (runtime : Runtime) (tsXML : TimeSeriesType D) (statuses : List (TvqStorageStatus D)) :
    Decidable (Answered runtime tsXML statuses) := by
  unfold Answered
  infer_instance

structure TellsTheTruth (tsXML : TimeSeriesType D) (accepted : Nat → Prop) (updated : TsXmlImportData D) : Prop where
  ok : updated.tsResponse.status = .ok ↔ ∀ position < tsXML.items.length, accepted position
  failed : updated.tsResponse.status = .failed ↔ ∀ position < tsXML.items.length, ¬ accepted position
  partlyOk : updated.tsResponse.status = .partlyOk ↔
    ¬ (∀ position < tsXML.items.length, accepted position) ∧ ¬ ∀ position < tsXML.items.length, ¬ accepted position
  refers : ∀ position ∈ updated.tsResponse.itemsResponse, ∃ response, updated.objects[position]? = some response ∧
    tsXML.items[position]? = some response.tsPVQItem
  once : updated.tsResponse.itemsResponse.Nodup
  tsv : tsXML.responseLevel = .tsv → ∀ position < tsXML.items.length,
    position ∈ updated.tsResponse.itemsResponse ∧
      ∀ response, updated.objects[position]? = some response → (response.status = .ok ↔ accepted position)
  tsvFail : tsXML.responseLevel = .tsvFail → ∀ position,
    position ∈ updated.tsResponse.itemsResponse ↔ position < tsXML.items.length ∧ ¬ accepted position

section Storage

variable {importData metadata : TsXmlImportData D} {nItemsInvalid : Nat} {level : TsResponseLevelType}
  {items : List (TsPVQItemType D)}

theorem ParseLoop.responseOf_status (loop : ParseLoop runtime level items nItemsInvalid importData)
    (same : metadata.itemsResponses = importData.itemsResponses)
    (answered : (statuses.map fun status => status.tvq.limitTime).Perm importData.timeSeries.times)
    {status : TvqStorageStatus D} (member : status ∈ statuses) :
    ∃ position tvq, responseOf metadata status = some position ∧ FirstAt runtime items position tvq ∧
      tvq.time = status.tvq.time ∧ status.tvq.limitTime = ⟨tvq.time, .point⟩ := by
  have there := (answered.trans loop.times).mem_iff.mp (List.mem_map.mpr ⟨status, member, rfl⟩)
  obtain ⟨entry, known, limit⟩ := List.mem_map.mp there
  have time : entry.1 = status.tvq.time := congrArg LimitTime.time limit
  rw [responseOf, same]
  cases found : importData.itemsResponses.find? fun entry => entry.1 = status.tvq.time with
  | none =>
      have absent := List.find?_eq_none.mp found entry known
      exact absurd time (by simpa using absent)
  | some other =>
      have sameTime : other.1 = status.tvq.time := by simpa using List.find?_some found
      obtain ⟨position, tvq, reference, first, isTime⟩ := loop.table.mp (List.mem_of_find?_eq_some found)
      refine ⟨position, tvq, ?_, first, isTime.trans sameTime, ?_⟩
      · simp [reference]
      · rw [← limit, isTime, sameTime, time]

theorem ParseLoop.answered_nodup (loop : ParseLoop runtime level items nItemsInvalid importData)
    (answered : (statuses.map fun status => status.tvq.limitTime).Perm importData.timeSeries.times) :
    (statuses.map fun status => status.tvq.limitTime).Nodup := by
  have points : (importData.itemsResponses.map fun entry => (⟨entry.1, .point⟩ : LimitTime)).Nodup := by
    have nodup := List.Nodup.map (f := fun time => (⟨time, .point⟩ : LimitTime))
      (fun _ _ same => congrArg LimitTime.time same) loop.keys
    rwa [List.map_map] at nodup
  exact (answered.trans loop.times).nodup_iff.mpr points

theorem ParseLoop.answered_unique (loop : ParseLoop runtime level items nItemsInvalid importData)
    (same : metadata.itemsResponses = importData.itemsResponses)
    (answered : (statuses.map fun status => status.tvq.limitTime).Perm importData.timeSeries.times)
    {status other : TvqStorageStatus D} (member : status ∈ statuses) (member' : other ∈ statuses)
    (one : responseOf metadata status = responseOf metadata other) : status = other := by
  obtain ⟨position, tvq, found, first, _, limit⟩ := loop.responseOf_status same answered member
  obtain ⟨position', tvq', found', first', _, limit'⟩ := loop.responseOf_status same answered member'
  rw [found, found'] at one
  cases one
  cases first.1.unique first'.1
  exact List.inj_on_of_nodup_map (loop.answered_nodup answered) member member' (limit.trans limit'.symm)

theorem ParseLoop.exists_status (loop : ParseLoop runtime level items nItemsInvalid importData)
    (same : metadata.itemsResponses = importData.itemsResponses)
    (answered : (statuses.map fun status => status.tvq.limitTime).Perm importData.timeSeries.times)
    {position : Nat} {tvq : Tvq D} (first : FirstAt runtime items position tvq) :
    ∃ status ∈ statuses, responseOf metadata status = some position ∧ status.tvq.time = tvq.time := by
  have known : (tvq.time, some position) ∈ importData.itemsResponses := loop.table.mpr ⟨position, tvq, rfl, first, rfl⟩
  have there := (answered.trans loop.times).mem_iff.mpr (List.mem_map.mpr ⟨_, known, rfl⟩)
  obtain ⟨status, member, limit⟩ := List.mem_map.mp there
  have limit' : status.tvq.limitTime = ⟨tvq.time, .point⟩ := limit
  have time : status.tvq.time = tvq.time := by rw [Tvq.time, limit']
  obtain ⟨position', tvq', found, first', sameTime, _⟩ := loop.responseOf_status same answered member
  have one := first.unique first' (time.symm.trans sameTime.symm)
  exact ⟨status, member, one ▸ found, time⟩

end Storage

section Outcome

def IsDuplicate (runtime : Runtime) (items : List (TsPVQItemType D)) (position : Nat) : Prop :=
  (∃ tvq, ParsedAt runtime items position tvq) ∧ ¬ IsFirst runtime items position

structure Outcome (runtime : Runtime) (tsXML : TimeSeriesType D) (statuses : List (TvqStorageStatus D))
    (updated : TsXmlImportData D) : Prop where
  once : updated.tsResponse.itemsResponse.Nodup
  listed : ∀ position, position ∈ updated.tsResponse.itemsResponse ↔ position < tsXML.items.length
  objects : ∀ position < tsXML.items.length, ∃ response, updated.objects[position]? = some response ∧
    tsXML.items[position]? = some response.tsPVQItem ∧
      (response.status = .ok ↔ Accepted runtime tsXML statuses position)
  ok : updated.tsResponse.status = .ok ↔
    ∀ position < tsXML.items.length, Accepted runtime tsXML statuses position
  failed : updated.tsResponse.status = .failed ↔
    (∀ position < tsXML.items.length, ¬ Accepted runtime tsXML statuses position) ∧
      ∀ position, ¬ IsDuplicate runtime tsXML.items position

theorem Accepted.isFirst {position : Nat} (accepted : Accepted runtime tsXML statuses position) :
    IsFirst runtime tsXML.items position := by
  obtain ⟨tvq, first, _⟩ := accepted
  exact ⟨tvq, first⟩

variable {importData : TsXmlImportData D} {nItemsInvalid : Nat}

theorem ParseLoop.answered_positions {metadata : TsXmlImportData D}
    (loop : ParseLoop runtime tsXML.responseLevel tsXML.items nItemsInvalid importData)
    (same : metadata.itemsResponses = importData.itemsResponses)
    (answered : (statuses.map fun status => status.tvq.limitTime).Perm importData.timeSeries.times) :
    (statuses.filterMap (responseOf metadata)).Nodup ∧
      ∀ position, position ∈ statuses.filterMap (responseOf metadata) ↔ IsFirst runtime tsXML.items position := by
  constructor
  · refine List.pairwise_filterMap.mpr ?_
    have distinct := List.pairwise_map.mp (loop.answered_nodup answered)
    refine distinct.imp_of_mem fun {status other} member member' different => ?_
    intro position found position' found' equal
    have one : responseOf metadata status = responseOf metadata other := by rw [found, found', equal]
    cases loop.answered_unique same answered member member' one
    exact different rfl
  · intro position
    rw [List.mem_filterMap]
    constructor
    · rintro ⟨status, member, found⟩
      obtain ⟨position', tvq, found', first, _⟩ := loop.responseOf_status same answered member
      rw [found] at found'
      cases found'
      exact ⟨tvq, first⟩
    · rintro ⟨tvq, first⟩
      obtain ⟨status, member, found, _⟩ := loop.exists_status same answered first
      exact ⟨status, member, found⟩

theorem ParseLoop.accepted_iff {metadata : TsXmlImportData D}
    (loop : ParseLoop runtime tsXML.responseLevel tsXML.items nItemsInvalid importData)
    (same : metadata.itemsResponses = importData.itemsResponses)
    (answered : (statuses.map fun status => status.tvq.limitTime).Perm importData.timeSeries.times)
    {status : TvqStorageStatus D} (member : status ∈ statuses) {position : Nat}
    (found : responseOf metadata status = some position) :
    Accepted runtime tsXML statuses position ↔ isOk status = true := by
  obtain ⟨position', tvq, found', first, time, limit⟩ := loop.responseOf_status same answered member
  rw [found] at found'
  cases found'
  constructor
  · rintro ⟨tvq', first', other, member', time', ok⟩
    cases first.1.unique first'.1
    obtain ⟨_, _, found', again, sameTime, _⟩ := loop.responseOf_status same answered member'
    have one := first.unique again (time'.symm.trans sameTime.symm)
    cases loop.answered_unique same answered member member' (by rw [found, found', one])
    exact ok
  · intro ok
    exact ⟨tvq, first, status, member, time.symm, ok⟩

theorem ParseLoop.noneAccepted_iff {metadata : TsXmlImportData D}
    (loop : ParseLoop runtime tsXML.responseLevel tsXML.items nItemsInvalid importData)
    (same : metadata.itemsResponses = importData.itemsResponses)
    (answered : (statuses.map fun status => status.tvq.limitTime).Perm importData.timeSeries.times) :
    (∀ position < tsXML.items.length, ¬ Accepted runtime tsXML statuses position) ↔
      ∀ status ∈ statuses, isOk status = false := by
  constructor
  · intro none_ status member
    obtain ⟨position, tvq, found, first, _⟩ := loop.responseOf_status same answered member
    have refused := none_ position first.1.below
    rw [loop.accepted_iff same answered member found] at refused
    simpa using refused
  · intro refused position below accepted
    obtain ⟨tvq, first, status, member, time, ok⟩ := accepted
    rw [refused status member] at ok
    contradiction

theorem ParseLoop.allAccepted_iff {metadata : TsXmlImportData D}
    (loop : ParseLoop runtime tsXML.responseLevel tsXML.items nItemsInvalid importData)
    (same : metadata.itemsResponses = importData.itemsResponses)
    (answered : (statuses.map fun status => status.tvq.limitTime).Perm importData.timeSeries.times) :
    (∀ position < tsXML.items.length, Accepted runtime tsXML statuses position) ↔
      (∀ position < tsXML.items.length, IsFirst runtime tsXML.items position) ∧
        ∀ status ∈ statuses, isOk status = true := by
  constructor
  · intro all
    refine ⟨fun position below => (all position below).isFirst, fun status member => ?_⟩
    obtain ⟨position, tvq, found, first, _⟩ := loop.responseOf_status same answered member
    exact (loop.accepted_iff same answered member found).mp (all position first.1.below)
  · rintro ⟨allFirst, allOk⟩ position below
    obtain ⟨tvq, first⟩ := allFirst position below
    obtain ⟨status, member, found, _⟩ := loop.exists_status same answered first
    exact (loop.accepted_iff same answered member found).mpr (allOk status member)

theorem ParseLoop.exists_duplicates (loop : ParseLoop runtime tsXML.responseLevel tsXML.items nItemsInvalid importData)
    (answered : (statuses.map fun status => status.tvq.limitTime).Perm importData.timeSeries.times) :
    ∃ duplicates, tsXML.items.length = nItemsInvalid + duplicates + statuses.length ∧
      (duplicates = 0 ↔ ∀ position, ¬ IsDuplicate runtime tsXML.items position) := by
  obtain ⟨duplicates, total, none_⟩ := loop.counted
  have points : statuses.length = importData.itemsResponses.length := by
    simpa using (answered.trans loop.times).length_eq
  refine ⟨duplicates, points ▸ total, none_.trans ⟨fun all position duplicate => ?_, fun all position tvq parsed => ?_⟩⟩
  · obtain ⟨⟨tvq, parsed⟩, later⟩ := duplicate
    exact later (all position tvq parsed)
  · by_contra later
    exact all position ⟨⟨tvq, parsed⟩, later⟩

theorem filter_not_length_eq_iff {A : Type} (accepts : A → Bool) (list : List A) :
    (list.filter fun entry => !accepts entry).length = list.length ↔ ∀ entry ∈ list, accepts entry = false := by
  rw [List.length_filter_eq_length_iff]
  simp

theorem import_status (document : ListedDocument runtime tsXML) (answered : Answered runtime tsXML statuses) :
    ((updateTimeSeriesResponse (parseTimeSeries runtime tsXML) statuses).tsResponse.status = .ok ↔
      ∀ position < tsXML.items.length, Accepted runtime tsXML statuses position) ∧
    ((updateTimeSeriesResponse (parseTimeSeries runtime tsXML) statuses).tsResponse.status = .failed ↔
      (∀ position < tsXML.items.length, ¬ Accepted runtime tsXML statuses position) ∧
        ∀ position, ¬ IsDuplicate runtime tsXML.items position) := by
  obtain ⟨importData, nItemsInvalid, loop, parsed⟩ := parseTimeSeries_parsed document
  have storage : (statuses.map fun status => status.tvq.limitTime).Perm importData.timeSeries.times :=
    parsed.timeSeries ▸ answered
  have asked : (parseTimeSeries runtime tsXML).tsResponse.responseLevel ≠ .none := by
    rw [parsed.responseLevel, loop.responseLevel]
    exact document.asked
  have lists : (parseTimeSeries runtime tsXML).responseLevel.listsItems = true := by
    rw [parsed.dataLevel, loop.dataLevel]
    exact document.lists
  have update := (UpdateLoop.start (parseTimeSeries runtime tsXML)).run lists statuses
  rw [List.nil_append] at update
  have status := (updateTimeSeriesResponse_updated (parseTimeSeries runtime tsXML) statuses
    (update.responseLevel.trans_ne asked)).status
  obtain ⟨duplicates, total, noDuplicates⟩ := loop.exists_duplicates storage
  have refused := filter_not_length_eq_iff isOk statuses
  have most := List.length_filter_le (fun status => !isOk status) statuses
  have some_ : tsXML.items.length ≠ 0 := by simpa using document.items
  rw [loop.noneAccepted_iff parsed.itemsResponses storage, ← refused, ← noDuplicates,
    loop.allAccepted_iff parsed.itemsResponses storage, ← loop.errors, ← parsed.itemErrors, ← update.itemErrors, status,
    update.failedItems, update.totalItems, update.status]
  by_cases allInvalid : nItemsInvalid = tsXML.items.length
  · obtain ⟨_, noTotal, noneFailed⟩ := parsed.allInvalid allInvalid
    rw [noTotal, if_pos (Nat.zero_le _)]
    refine ⟨iff_of_false (by decide) ?_, iff_of_true rfl (by omega)⟩
    rw [update.itemErrors, parsed.itemErrors, loop.errors]
    rintro ⟨allFirst, _⟩
    obtain ⟨tvq, first⟩ := allFirst 0 (by omega)
    obtain ⟨status, member, _⟩ := loop.exists_status parsed.itemsResponses storage first
    have answers := List.length_pos_of_mem member
    omega
  · obtain ⟨ok, totalItems, failedItems⟩ := parsed.someValid allInvalid
    rw [ok, totalItems, failedItems]
    have noneBad (clean : (updateItems statuses (parseTimeSeries runtime tsXML)).itemErrors = []) :
        (statuses.filter fun status => !isOk status).length = 0 := by
      obtain ⟨_, allOk⟩ := update.itemErrors.mp clean
      simpa using allOk
    split
    · rename_i enough
      refine ⟨iff_of_false (by decide) fun clean => ?_, iff_of_true rfl (by omega)⟩
      have noBad := noneBad clean
      omega
    · rename_i notEnough
      split
      · rename_i errors
        exact ⟨iff_of_false (by decide) errors.1, iff_of_false (by decide) (by omega)⟩
      · rename_i noErrors
        exact ⟨iff_of_true rfl (by simpa using noErrors), iff_of_false (by decide) (by omega)⟩

theorem import_outcome (document : ListedDocument runtime tsXML) (answered : Answered runtime tsXML statuses) :
    Outcome runtime tsXML statuses (updateTimeSeriesResponse (parseTimeSeries runtime tsXML) statuses) := by
  obtain ⟨importData, nItemsInvalid, loop, parsed⟩ := parseTimeSeries_parsed document
  have storage : (statuses.map fun status => status.tvq.limitTime).Perm importData.timeSeries.times :=
    parsed.timeSeries ▸ answered
  have asked : (parseTimeSeries runtime tsXML).tsResponse.responseLevel ≠ .none := by
    rw [parsed.responseLevel, loop.responseLevel]
    exact document.asked
  have lists : (parseTimeSeries runtime tsXML).responseLevel.listsItems = true := by
    rw [parsed.dataLevel, loop.dataLevel]
    exact document.lists
  have update := (UpdateLoop.start (parseTimeSeries runtime tsXML)).run lists statuses
  rw [List.nil_append] at update
  have updated := updateTimeSeriesResponse_updated (parseTimeSeries runtime tsXML) statuses
    (update.responseLevel.trans_ne asked)
  obtain ⟨positionsOnce, positions⟩ := loop.answered_positions parsed.itemsResponses storage
  constructor
  · rw [updated.listed, update.listed, parsed.listed]
    refine List.Nodup.append loop.listedOnce positionsOnce fun position rejected answered => ?_
    exact ((loop.listed position).mp rejected).2 ((positions position).mp answered)
  · intro position
    rw [updated.listed, update.listed, parsed.listed, List.mem_append, loop.listed, positions]
    constructor
    · rintro (⟨below, _⟩ | ⟨tvq, first⟩)
      · exact below
      · exact first.1.below
    · intro below
      by_cases first : IsFirst runtime tsXML.items position
      · exact Or.inr first
      · exact Or.inl ⟨below, first⟩
  · intro position below
    obtain ⟨response, object, item, first, later⟩ := loop.objects (List.getElem?_eq_getElem below)
    obtain ⟨after, there, same, failed, kept⟩ := update.objects (parsed.objects ▸ object)
    refine ⟨after, updated.objects ▸ there, ?_, ?_⟩
    · rw [same, item, List.getElem?_eq_getElem below]
    · by_cases isFirst : IsFirst runtime tsXML.items position
      · obtain ⟨tvq, isFirst'⟩ := isFirst
        obtain ⟨status, member, found, _⟩ := loop.exists_status parsed.itemsResponses storage isFirst'
        rw [loop.accepted_iff parsed.itemsResponses storage member found]
        cases ok : isOk status with
        | true =>
            have all : ∀ other ∈ statuses, responseOf (parseTimeSeries runtime tsXML) other = some position →
                isOk other = true := by
              intro other member' found'
              have one := loop.answered_unique parsed.itemsResponses storage member member' (found.trans found'.symm)
              exact one ▸ ok
            exact iff_of_true ((kept all).trans (first ⟨tvq, isFirst'⟩)) rfl
        | false =>
            have bad := failed ⟨status, member, found, ok⟩
            simp [bad]
      · have unanswered : ∀ status ∈ statuses, responseOf (parseTimeSeries runtime tsXML) status = some position →
            isOk status = true := by
          intro status member found
          exact absurd ((positions position).mp (List.mem_filterMap.mpr ⟨status, member, found⟩)) isFirst
        have bad := (kept unanswered).trans (later isFirst)
        refine iff_of_false (by simp [bad]) fun accepted => isFirst accepted.isFirst
  · exact (import_status document answered).1
  · exact (import_status document answered).2

/-- The response is the truth unless a repeated item is all that is wrong with the count,
or an accepted item is listed where failures were asked for. -/
theorem updateTimeSeriesResponse_truth_iff (document : ListedDocument runtime tsXML)
    (answered : Answered runtime tsXML statuses) :
    TellsTheTruth tsXML (Accepted runtime tsXML statuses)
        (updateTimeSeriesResponse (parseTimeSeries runtime tsXML) statuses) ↔
      ((∀ position < tsXML.items.length, ¬ Accepted runtime tsXML statuses position) →
        ∀ position, ¬ IsDuplicate runtime tsXML.items position) ∧
      (tsXML.responseLevel = .tsvFail →
        ∀ position < tsXML.items.length, ¬ Accepted runtime tsXML statuses position) := by
  have outcome := import_outcome document answered
  constructor
  · intro truth
    refine ⟨fun none_ => (outcome.failed.mp (truth.failed.mpr none_)).2, fun level position below => ?_⟩
    exact ((truth.tsvFail level position).mp ((outcome.listed position).mpr below)).2
  · rintro ⟨distinct, onlyFailures⟩
    have failed : (updateTimeSeriesResponse (parseTimeSeries runtime tsXML) statuses).tsResponse.status = .failed ↔
        ∀ position < tsXML.items.length, ¬ Accepted runtime tsXML statuses position := by
      rw [outcome.failed]
      exact ⟨And.left, fun none_ => ⟨none_, distinct none_⟩⟩
    constructor
    · exact outcome.ok
    · exact failed
    · rw [← outcome.ok, ← failed]
      cases (updateTimeSeriesResponse (parseTimeSeries runtime tsXML) statuses).tsResponse.status <;> decide
    · intro position listed
      obtain ⟨response, object, item, _⟩ := outcome.objects position ((outcome.listed position).mp listed)
      exact ⟨response, object, item⟩
    · exact outcome.once
    · intro level position below
      refine ⟨(outcome.listed position).mpr below, fun response found => ?_⟩
      obtain ⟨response', object, _, status⟩ := outcome.objects position below
      rw [found] at object
      cases object
      exact status
    · intro level position
      rw [outcome.listed]
      exact ⟨fun below => ⟨below, onlyFailures level position below⟩, And.left⟩

end Outcome

section Samples

def sampleDocument (items : List (TsPVQItemType Int)) (level : TsResponseLevelType) : TimeSeriesType Int where
  reference := ⟨"series", UtcTime.ofTicks 50000⟩
  valueMetaInfo := none
  items := items
  responseLevel := level

def sampleStatus (ticks value : Int) (status : StorageStatus) : TvqStorageStatus Int :=
  ⟨⟨⟨UtcTime.ofTicks ticks, .point⟩, ⟨value, ⟨0, 0⟩⟩⟩, status, ""⟩

theorem sampleDocument_listed {items : List (TsPVQItemType Int)} {level : TsResponseLevelType}
    (lists : level.listsItems = true) (someItems : items ≠ []) :
    ListedDocument sampleRuntime (sampleDocument items level) := by
  constructor
  · exact lists
  · simp [sampleDocument]
  · intro valueMetaInfo replacePeriod given
    contradiction
  · exact someItems

theorem updateTimeSeriesResponse_truth_iff_stored :
    let document := sampleDocument [sampleItem 10000 1, sampleItem 20000 2] .tsv
    let statuses := [sampleStatus 10000 1 .stored, sampleStatus 20000 2 .internalError]
    TellsTheTruth document (Accepted sampleRuntime document statuses)
      (updateTimeSeriesResponse (parseTimeSeries sampleRuntime document) statuses) := by
  intro document statuses
  refine (updateTimeSeriesResponse_truth_iff (sampleDocument_listed (by decide) (by decide)) (by decide)).mpr ?_
  have accepted : Accepted sampleRuntime document statuses 0 :=
    ⟨(sampleStatus 10000 1 .stored).tvq, ⟨⟨sampleItem 10000 1, rfl, rfl⟩, by simp⟩, sampleStatus 10000 1 .stored,
      by simp [statuses], rfl, rfl⟩
  refine ⟨fun none_ => absurd accepted (none_ 0 (by decide)), fun level => ?_⟩
  contradiction

/-- Two items have the same time, and the storage refuses the point. -/
theorem updateTimeSeriesResponse_untruth :
    ¬ ∀ (tsXML : TimeSeriesType Int) (statuses : List (TvqStorageStatus Int)), ListedDocument sampleRuntime tsXML →
      Answered sampleRuntime tsXML statuses → TellsTheTruth tsXML (Accepted sampleRuntime tsXML statuses)
        (updateTimeSeriesResponse (parseTimeSeries sampleRuntime tsXML) statuses) := by
  intro truth
  have told := truth (sampleDocument [sampleItem 10000 1, sampleItem 10000 2] .tsv)
    [sampleStatus 10000 1 .internalError] (sampleDocument_listed (by decide) (by decide)) (by decide)
  have partly : ¬ (updateTimeSeriesResponse (parseTimeSeries sampleRuntime
      (sampleDocument [sampleItem 10000 1, sampleItem 10000 2] .tsv))
      [sampleStatus 10000 1 .internalError]).tsResponse.status = .failed := by decide
  refine partly (told.failed.mpr ?_)
  rintro position below ⟨tvq, first, status, member, time, ok⟩
  rw [List.mem_singleton.mp member] at ok
  contradiction

end Samples

end ServiceHost.TimeSeriesXml
