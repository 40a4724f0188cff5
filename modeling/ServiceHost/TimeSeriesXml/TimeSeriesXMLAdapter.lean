import ServiceHost.TimeSeriesXml.TimeSeriesXMLAdapterCore

/-!
The response of an import whose items are listed. Every item of the document is
rejected while it is parsed, or becomes a point and waits for its storage status. The
response counts and lists the items of the first kind and of the second in two loops.
-/

namespace ServiceHost.TimeSeriesXml

open Library

variable {D : Type} {runtime : Runtime}

section Items

def ParsedAt (runtime : Runtime) (items : List (TsPVQItemType D)) (position : Nat) (tvq : Tvq D) : Prop :=
  ∃ item, items[position]? = some item ∧ parseTsItem runtime item = .ok tvq

def FirstAt (runtime : Runtime) (items : List (TsPVQItemType D)) (position : Nat) (tvq : Tvq D) : Prop :=
  ParsedAt runtime items position tvq ∧
    ∀ earlier < position, ∀ other, ParsedAt runtime items earlier other → other.time ≠ tvq.time

def IsFirst (runtime : Runtime) (items : List (TsPVQItemType D)) (position : Nat) : Prop :=
  ∃ tvq, FirstAt runtime items position tvq

variable {items done : List (TsPVQItemType D)} {item : TsPVQItemType D} {position other : Nat} {tvq tvq' : Tvq D}

theorem ParsedAt.below (parsed : ParsedAt runtime items position tvq) : position < items.length := by
  obtain ⟨item, found, _⟩ := parsed
  exact (List.getElem?_eq_some_iff.mp found).1

theorem ParsedAt.unique (parsed : ParsedAt runtime items position tvq) (again : ParsedAt runtime items position tvq') :
    tvq = tvq' := by
  obtain ⟨item, found, ok⟩ := parsed
  obtain ⟨item', found', ok'⟩ := again
  rw [found] at found'
  cases found'
  rw [ok] at ok'
  exact Except.ok.inj ok'

theorem parsedAt_snoc : ParsedAt runtime (done ++ [item]) position tvq ↔
    ParsedAt runtime done position tvq ∨ position = done.length ∧ parseTsItem runtime item = .ok tvq := by
  constructor
  · rintro ⟨there, found, ok⟩
    rw [List.getElem?_append] at found
    split at found
    · exact Or.inl ⟨there, found, ok⟩
    · rw [List.getElem?_singleton] at found
      split at found
      · cases found
        exact Or.inr ⟨by omega, ok⟩
      · contradiction
  · rintro (⟨there, found, ok⟩ | ⟨rfl, ok⟩)
    · have below := (List.getElem?_eq_some_iff.mp found).1
      exact ⟨there, (List.getElem?_append_left below).trans found, ok⟩
    · exact ⟨item, by simp, ok⟩

theorem firstAt_snoc : FirstAt runtime (done ++ [item]) position tvq ↔
    FirstAt runtime done position tvq ∨ position = done.length ∧ parseTsItem runtime item = .ok tvq ∧
      ∀ earlier other, ParsedAt runtime done earlier other → other.time ≠ tvq.time := by
  constructor
  · rintro ⟨parsed, before⟩
    have older (earlier : Nat) (below : earlier < position) (other : Tvq D)
        (parsed : ParsedAt runtime done earlier other) : other.time ≠ tvq.time :=
      before earlier below other (parsedAt_snoc.mpr (Or.inl parsed))
    rcases parsedAt_snoc.mp parsed with old | ⟨rfl, ok⟩
    · exact Or.inl ⟨old, older⟩
    · exact Or.inr ⟨rfl, ok, fun earlier other parsed => older earlier parsed.below other parsed⟩
  · rintro (⟨parsed, before⟩ | ⟨rfl, ok, before⟩)
    · refine ⟨parsedAt_snoc.mpr (Or.inl parsed), fun earlier below other parsed' => ?_⟩
      rcases parsedAt_snoc.mp parsed' with old | ⟨rfl, _⟩
      · exact before earlier below other old
      · have inside := parsed.below
        omega
    · refine ⟨parsedAt_snoc.mpr (Or.inr ⟨rfl, ok⟩), fun earlier below other parsed' => ?_⟩
      rcases parsedAt_snoc.mp parsed' with old | ⟨rfl, _⟩
      · exact before earlier other old
      · omega

theorem exists_firstAt (parsed : ParsedAt runtime items position tvq) :
    ∃ first other, FirstAt runtime items first other ∧ other.time = tvq.time := by
  induction position using Nat.strongRecOn generalizing tvq with
  | ind position ih =>
      by_cases fresh : ∀ earlier < position, ∀ other, ParsedAt runtime items earlier other → other.time ≠ tvq.time
      · exact ⟨position, tvq, ⟨parsed, fresh⟩, rfl⟩
      · simp only [not_forall, ne_eq, not_not] at fresh
        obtain ⟨earlier, below, other, parsed', same⟩ := fresh
        obtain ⟨first, found, isFirst, time⟩ := ih earlier below parsed'
        exact ⟨first, found, isFirst, time.trans same⟩

theorem FirstAt.unique (first : FirstAt runtime items position tvq) (again : FirstAt runtime items other tvq')
    (same : tvq.time = tvq'.time) : position = other := by
  rcases Nat.lt_trichotomy position other with less | equal | greater
  · exact absurd same (again.2 position less tvq first.1)
  · exact equal
  · exact absurd same.symm (first.2 other greater tvq' again.1)

end Items

section Loop

def rejected (importData : TsXmlImportData D) (item : TsPVQItemType D) (message : String) : TsXmlImportData D :=
  { importData with
    objects := importData.objects ++ [⟨item, .failed, message⟩]
    itemErrors := countStatus message importData.itemErrors
    tsResponse := { importData.tsResponse with
      itemsResponse := importData.tsResponse.itemsResponse ++ [importData.objects.length] } }

def added (importData : TsXmlImportData D) (item : TsPVQItemType D) (tvq : Tvq D) : TsXmlImportData D :=
  { importData with
    objects := importData.objects ++ [⟨item, .ok, ""⟩]
    itemsResponses := importData.itemsResponses ++ [(tvq.time, some importData.objects.length)]
    timeSeries := importData.timeSeries.setValue tvq true }

theorem modify_last {A : Type} (items : List A) (item : A) (change : A → A) :
    (items ++ [item]).modify items.length change = items ++ [change item] := by
  induction items with
  | nil => rfl
  | cons head tail ih => simpa using ih

variable {importData : TsXmlImportData D} {item : TsPVQItemType D} {nItemsInvalid : Nat}

theorem addItem_cases (lists : importData.responseLevel.listsItems = true)
    (goes : importData.tsResponse.status ≠ .failed) :
    (∃ message, parseTsItem runtime item = .error message ∧
      importData.addItem runtime nItemsInvalid item = (nItemsInvalid + 1, rejected importData item message)) ∨
    (∃ tvq message, parseTsItem runtime item = .ok tvq ∧ tvq.time ∈ importData.itemsResponses.map Prod.fst ∧
      importData.addItem runtime nItemsInvalid item = (nItemsInvalid, rejected importData item message)) ∨
    ∃ tvq, parseTsItem runtime item = .ok tvq ∧ tvq.time ∉ importData.itemsResponses.map Prod.fst ∧
      importData.addItem runtime nItemsInvalid item = (nItemsInvalid, added importData item tvq) := by
  have failing : importData.responseLevel = .tsv ∨ importData.responseLevel = .tsvFail := by
    cases level : importData.responseLevel <;> simp [level, TsResponseLevelType.listsItems] at lists ⊢
  have reject (message : String) :
      ((importData.newResponse item .ok "").2.addTsItemStatus (importData.newResponse item .ok "").1 message
        .failed).listItem (importData.newResponse item .ok "").1 = rejected importData item message := by
    simp [TsXmlImportData.newResponse, lists, TsXmlImportData.addTsItemStatus, TsXmlImportData.addItemStatus, failing,
      TsXmlImportData.listItem, rejected, modify_last, TsItemsResponseType.worsen, StatusType.toNat]
  unfold TsXmlImportData.addItem
  rw [if_pos goes]
  cases parsed : parseTsItem runtime item with
  | error message => exact Or.inl ⟨message, rfl, by simp [← reject]⟩
  | ok tvq =>
      right
      have table : (importData.newResponse item .ok "").2.itemsResponses = importData.itemsResponses := by
        simp [TsXmlImportData.newResponse, lists]
      by_cases known : tvq.time ∈ importData.itemsResponses.map Prod.fst
      · have there : ((importData.newResponse item .ok "").2.itemsResponses.any fun entry => entry.1 = tvq.time) = true := by
          simpa [table] using known
        refine Or.inl ⟨tvq, "Item with time '" ++ runtime.toXmlDateTime tvq.time ++ "' already added", rfl, known, ?_⟩
        simp [← reject, TsXmlImportData.addImportItem, there]
      · have fresh : ((importData.newResponse item .ok "").2.itemsResponses.any fun entry => entry.1 = tvq.time) = false := by
          rw [table, List.any_eq_false]
          intro entry member same
          exact known (List.mem_map.mpr ⟨entry, member, by simpa using same⟩)
        refine Or.inr ⟨tvq, rfl, known, ?_⟩
        simp only [TsXmlImportData.addImportItem, fresh, Bool.false_eq_true, ↓reduceIte]
        simp [TsXmlImportData.newResponse, lists, added]

theorem parseTsItem_limitTime {tvq : Tvq D} (parsed : parseTsItem runtime item = .ok tvq) :
    tvq.limitTime = ⟨tvq.time, .point⟩ := by
  obtain ⟨period, _, parsed⟩ := bind_eq_ok_iff.mp parsed
  obtain ⟨quality, _, parsed⟩ := bind_eq_ok_iff.mp parsed
  cases parsed
  rfl

structure ParseLoop (runtime : Runtime) (level : TsResponseLevelType) (done : List (TsPVQItemType D))
    (nItemsInvalid : Nat) (importData : TsXmlImportData D) : Prop where
  dataLevel : importData.responseLevel = level
  responseLevel : importData.tsResponse.responseLevel = level
  status : importData.tsResponse.status = .ok
  totals : importData.totalItems = 0 ∧ importData.failedItems = 0
  length : importData.objects.length = done.length
  objects : ∀ {position item}, done[position]? = some item → ∃ response,
    importData.objects[position]? = some response ∧ response.tsPVQItem = item ∧
      (IsFirst runtime done position → response.status = .ok) ∧
      (¬ IsFirst runtime done position → response.status = .failed)
  table : ∀ {time reference}, (time, reference) ∈ importData.itemsResponses ↔
    ∃ position tvq, reference = some position ∧ FirstAt runtime done position tvq ∧ tvq.time = time
  keys : (importData.itemsResponses.map Prod.fst).Nodup
  times : importData.timeSeries.times.Perm (importData.itemsResponses.map fun entry => ⟨entry.1, .point⟩)
  listedOnce : importData.tsResponse.itemsResponse.Nodup
  listed : ∀ position, position ∈ importData.tsResponse.itemsResponse ↔
    position < done.length ∧ ¬ IsFirst runtime done position
  counted : ∃ duplicates, done.length = nItemsInvalid + duplicates + importData.itemsResponses.length ∧
    (duplicates = 0 ↔ ∀ position tvq, ParsedAt runtime done position tvq → IsFirst runtime done position)
  errors : importData.itemErrors = [] ↔ ∀ position < done.length, IsFirst runtime done position

theorem countStatus_ne_nil (status : String) (counters : List (String × Nat)) : countStatus status counters ≠ [] := by
  cases counters with
  | nil => simp [countStatus]
  | cons entry rest =>
      simp only [countStatus]
      split <;> simp

theorem isFirst_snoc_of_lt {done : List (TsPVQItemType D)} {position : Nat} (below : position < done.length) :
    IsFirst runtime (done ++ [item]) position ↔ IsFirst runtime done position := by
  constructor
  · rintro ⟨tvq, first⟩
    rcases firstAt_snoc.mp first with old | ⟨same, _⟩
    · exact ⟨tvq, old⟩
    · omega
  · rintro ⟨tvq, first⟩
    exact ⟨tvq, firstAt_snoc.mpr (Or.inl first)⟩

variable {level : TsResponseLevelType} {done : List (TsPVQItemType D)} {invalid : Nat}

theorem getElem?_snoc {A : Type} {list : List A} {last found : A} {position : Nat}
    (there : (list ++ [last])[position]? = some found) :
    list[position]? = some found ∧ position < list.length ∨ position = list.length ∧ found = last := by
  rw [List.getElem?_append] at there
  split at there
  · rename_i below
    exact Or.inl ⟨there, below⟩
  · rw [List.getElem?_singleton] at there
    split at there
    · cases there
      exact Or.inr ⟨by omega, rfl⟩
    · contradiction

theorem ParseLoop.objects_snoc (loop : ParseLoop runtime level done nItemsInvalid importData) (status : StatusType)
    (message : String) (ok : IsFirst runtime (done ++ [item]) done.length → status = .ok)
    (failed : ¬ IsFirst runtime (done ++ [item]) done.length → status = .failed)
    {position : Nat} {found : TsPVQItemType D} (there : (done ++ [item])[position]? = some found) :
    ∃ response, (importData.objects ++ [⟨item, status, message⟩])[position]? = some response ∧
      response.tsPVQItem = found ∧ (IsFirst runtime (done ++ [item]) position → response.status = .ok) ∧
      (¬ IsFirst runtime (done ++ [item]) position → response.status = .failed) := by
  rcases getElem?_snoc there with ⟨old, below⟩ | ⟨rfl, rfl⟩
  · obtain ⟨response, object, same, first, later⟩ := loop.objects old
    have inside := (List.getElem?_eq_some_iff.mp object).1
    refine ⟨response, (List.getElem?_append_left inside).trans object, same, ?_, ?_⟩
    · exact fun isFirst => first ((isFirst_snoc_of_lt below).mp isFirst)
    · exact fun notFirst => later fun isFirst => notFirst ((isFirst_snoc_of_lt below).mpr isFirst)
  · refine ⟨⟨found, status, message⟩, ?_, rfl, ok, failed⟩
    rw [← loop.length]
    simp

theorem ParseLoop.reject (loop : ParseLoop runtime level done nItemsInvalid importData) (message : String)
    (last : ¬ IsFirst runtime (done ++ [item]) done.length)
    (parsed : invalid = nItemsInvalid + 1 ∧ (∀ tvq, parseTsItem runtime item ≠ .ok tvq) ∨
      invalid = nItemsInvalid ∧ ∃ tvq, parseTsItem runtime item = .ok tvq) :
    ParseLoop runtime level (done ++ [item]) invalid (rejected importData item message) := by
  have before {position : Nat} {tvq : Tvq D} :
      FirstAt runtime (done ++ [item]) position tvq ↔ FirstAt runtime done position tvq := by
    constructor
    · intro first
      rcases firstAt_snoc.mp first with old | ⟨rfl, _⟩
      · exact old
      · exact absurd ⟨tvq, first⟩ last
    · exact fun first => firstAt_snoc.mpr (Or.inl first)
  constructor
  · exact loop.dataLevel
  · exact loop.responseLevel
  · exact loop.status
  · exact loop.totals
  · simp [rejected, loop.length]
  · exact loop.objects_snoc .failed message (fun first => absurd first last) fun _ => rfl
  · intro time reference
    simp only [before]
    exact loop.table
  · exact loop.keys
  · exact loop.times
  · have fresh : importData.objects.length ∉ importData.tsResponse.itemsResponse := by
      rw [loop.listed, loop.length]
      omega
    simp only [rejected]
    exact List.Nodup.append loop.listedOnce (List.nodup_singleton _) (by simpa using fresh)
  · intro position
    simp only [rejected, List.mem_append, List.mem_singleton, loop.listed, loop.length, List.length_append,
      List.length_singleton]
    constructor
    · rintro (⟨below, notFirst⟩ | rfl)
      · exact ⟨by omega, fun isFirst => notFirst ((isFirst_snoc_of_lt below).mp isFirst)⟩
      · exact ⟨by omega, last⟩
    · rintro ⟨below, notFirst⟩
      by_cases old : position < done.length
      · exact Or.inl ⟨old, fun isFirst => notFirst ((isFirst_snoc_of_lt old).mpr isFirst)⟩
      · exact Or.inr (by omega)
  · obtain ⟨duplicates, total, none_⟩ := loop.counted
    rcases parsed with ⟨rfl, invalid⟩ | ⟨rfl, tvq, ok⟩
    · refine ⟨duplicates, ?_, none_.trans ⟨fun all position tvq there => ?_, fun all position tvq there => ?_⟩⟩
      · simp only [rejected, List.length_append, List.length_singleton]
        omega
      · rcases parsedAt_snoc.mp there with old | ⟨_, ok⟩
        · exact (isFirst_snoc_of_lt old.below).mpr (all position tvq old)
        · exact absurd ok (invalid tvq)
      · exact (isFirst_snoc_of_lt there.below).mp (all position tvq (parsedAt_snoc.mpr (Or.inl there)))
    · refine ⟨duplicates + 1, ?_, iff_of_false (by omega) fun all => ?_⟩
      · simp only [rejected, List.length_append, List.length_singleton]
        omega
      · exact last (all done.length tvq (parsedAt_snoc.mpr (Or.inr ⟨rfl, ok⟩)))
  · refine iff_of_false (countStatus_ne_nil _ _) fun all => ?_
    exact last (all done.length (by simp))

theorem ParseLoop.add (loop : ParseLoop runtime level done nItemsInvalid importData) {tvq : Tvq D}
    (parsed : parseTsItem runtime item = .ok tvq) (fresh : tvq.time ∉ importData.itemsResponses.map Prod.fst) :
    ParseLoop runtime level (done ++ [item]) nItemsInvalid (added importData item tvq) := by
  have unseen (earlier : Nat) (other : Tvq D) (there : ParsedAt runtime done earlier other) :
      other.time ≠ tvq.time := by
    intro same
    obtain ⟨first, known, isFirst, time⟩ := exists_firstAt there
    exact fresh (List.mem_map.mpr ⟨(known.time, some first), loop.table.mpr ⟨first, known, rfl, isFirst, rfl⟩,
      time.trans same⟩)
  have last : FirstAt runtime (done ++ [item]) done.length tvq :=
    firstAt_snoc.mpr (Or.inr ⟨rfl, parsed, unseen⟩)
  have isFirst : IsFirst runtime (done ++ [item]) done.length := ⟨tvq, last⟩
  constructor
  · exact loop.dataLevel
  · exact loop.responseLevel
  · exact loop.status
  · exact loop.totals
  · simp [added, loop.length]
  · exact loop.objects_snoc .ok "" (fun _ => rfl) fun notFirst => absurd isFirst notFirst
  · intro time reference
    simp only [added, List.mem_append, List.mem_singleton, Prod.mk.injEq, loop.table, loop.length]
    constructor
    · rintro (⟨position, found, rfl, first, same⟩ | ⟨rfl, rfl⟩)
      · exact ⟨position, found, rfl, firstAt_snoc.mpr (Or.inl first), same⟩
      · exact ⟨done.length, tvq, rfl, last, rfl⟩
    · rintro ⟨position, found, rfl, first, same⟩
      rcases firstAt_snoc.mp first with old | ⟨rfl, ok, _⟩
      · exact Or.inl ⟨position, found, rfl, old, same⟩
      · rw [parsed] at ok
        cases ok
        exact Or.inr ⟨same.symm, rfl⟩
  · simp only [added, List.map_append, List.map_cons, List.map_nil]
    exact List.Nodup.append loop.keys (List.nodup_singleton _) (by simpa using fresh)
  · have limit : tvq.limitTime = ⟨tvq.time, .point⟩ := parseTsItem_limitTime parsed
    have absent : ∀ entry ∈ importData.timeSeries.points.entries, tvq.limitTime ≠ entry.1 := by
      intro entry member same
      have listed := loop.times.mem_iff.mp (List.mem_map.mpr ⟨entry, member, rfl⟩)
      obtain ⟨there, known, time⟩ := List.mem_map.mp listed
      rw [← same, limit] at time
      exact fresh (List.mem_map.mpr ⟨there, known, congrArg LimitTime.time time⟩)
    have put := (SortedEntries.put_perm tvq.setModified.vq absent).map Prod.fst
    simp only [added, List.map_append, List.map_cons, List.map_nil]
    refine put.trans ?_
    rw [List.map_cons, limit]
    exact (loop.times.cons _).trans (List.perm_append_singleton _ _).symm
  · exact loop.listedOnce
  · intro position
    simp only [added, loop.listed, List.length_append, List.length_singleton]
    constructor
    · rintro ⟨below, notFirst⟩
      exact ⟨by omega, fun first => notFirst ((isFirst_snoc_of_lt below).mp first)⟩
    · rintro ⟨below, notFirst⟩
      by_cases old : position < done.length
      · exact ⟨old, fun first => notFirst ((isFirst_snoc_of_lt old).mpr first)⟩
      · have same : position = done.length := by omega
        exact absurd (same ▸ isFirst) notFirst
  · obtain ⟨duplicates, total, none_⟩ := loop.counted
    refine ⟨duplicates, ?_, none_.trans ⟨fun all position found there => ?_, fun all position found there => ?_⟩⟩
    · simp only [added, List.length_append, List.length_singleton]
      omega
    · rcases parsedAt_snoc.mp there with old | ⟨rfl, _⟩
      · exact (isFirst_snoc_of_lt old.below).mpr (all position found old)
      · exact isFirst
    · exact (isFirst_snoc_of_lt there.below).mp (all position found (parsedAt_snoc.mpr (Or.inl there)))
  · refine loop.errors.trans ⟨fun all position below => ?_, fun all position below => ?_⟩
    · by_cases old : position < done.length
      · exact (isFirst_snoc_of_lt old).mpr (all position old)
      · simp only [List.length_append, List.length_singleton] at below
        have same : position = done.length := by omega
        exact same ▸ isFirst
    · exact (isFirst_snoc_of_lt below).mp (all position (by simp; omega))

theorem ParseLoop.step (loop : ParseLoop runtime level done nItemsInvalid importData)
    (lists : level.listsItems = true) (item : TsPVQItemType D) :
    ParseLoop runtime level (done ++ [item]) (importData.addItem runtime nItemsInvalid item).1
      (importData.addItem runtime nItemsInvalid item).2 := by
  have goes : importData.tsResponse.status ≠ .failed := by
    rw [loop.status]
    decide
  rcases @addItem_cases _ runtime importData item nItemsInvalid (loop.dataLevel ▸ lists) goes with
    ⟨message, failed, step⟩ | ⟨tvq, message, parsed, known, step⟩ | ⟨tvq, parsed, fresh, step⟩
  · rw [step]
    refine loop.reject message ?_ (Or.inl ⟨rfl, fun tvq ok => ?_⟩)
    · rintro ⟨tvq, first⟩
      rcases firstAt_snoc.mp first with old | ⟨_, ok, _⟩
      · exact absurd old.1.below (Nat.lt_irrefl _)
      · rw [failed] at ok
        contradiction
    · rw [failed] at ok
      contradiction
  · rw [step]
    refine loop.reject message ?_ (Or.inr ⟨rfl, tvq, parsed⟩)
    rintro ⟨found, first⟩
    rcases firstAt_snoc.mp first with old | ⟨_, ok, unseen⟩
    · exact absurd old.1.below (Nat.lt_irrefl _)
    · rw [parsed] at ok
      cases ok
      obtain ⟨⟨time, reference⟩, member, same⟩ := List.mem_map.mp known
      obtain ⟨position, other, _, earlier, sameTime⟩ := loop.table.mp member
      exact unseen position other earlier.1 (sameTime.trans same)
  · rw [step]
    exact loop.add parsed fresh

theorem ParseLoop.run (loop : ParseLoop runtime level done nItemsInvalid importData)
    (lists : level.listsItems = true) (items : List (TsPVQItemType D)) :
    ParseLoop runtime level (done ++ items) (importData.addItems runtime items nItemsInvalid).1
      (importData.addItems runtime items nItemsInvalid).2 := by
  induction items generalizing done nItemsInvalid importData with
  | nil => simpa [TsXmlImportData.addItems] using loop
  | cons item rest ih =>
      have next := ih (loop.step lists item)
      rw [List.append_assoc] at next
      exact next

structure ListedDocument (runtime : Runtime) (tsXML : TimeSeriesType D) : Prop where
  lists : tsXML.responseLevel.listsItems = true
  reference : tsXML.reference.id ≠ ""
  replacePeriod : ∀ valueMetaInfo replacePeriod, tsXML.valueMetaInfo = some valueMetaInfo →
    valueMetaInfo.replacePeriod = some replacePeriod → ∃ period, parseTimePeriod runtime replacePeriod = .ok period
  items : tsXML.items ≠ []

theorem ParseLoop.start {tsXML : TimeSeriesType D} (document : ListedDocument runtime tsXML) :
    ParseLoop runtime tsXML.responseLevel [] 0
      (parseValueMetaInfo runtime tsXML (parseReference tsXML (newImportData tsXML.responseLevel))) := by
  have fresh (timeSeries : TimeSeries D) (replacePeriod : Option TimePeriod) (empty : timeSeries.times = []) :
      ParseLoop runtime tsXML.responseLevel [] 0
        { newImportData tsXML.responseLevel with timeSeries, replacePeriod } := by
    constructor
    · rfl
    · rfl
    · rfl
    · exact ⟨rfl, rfl⟩
    · rfl
    · simp
    · simp [newImportData, FirstAt, ParsedAt]
    · exact List.nodup_nil
    · simp [newImportData, empty]
    · exact List.nodup_nil
    · simp [newImportData]
    · exact ⟨0, rfl, by simp [ParsedAt]⟩
    · simp [newImportData]
  simp only [parseReference, document.reference, ↓reduceIte, parseValueMetaInfo]
  cases info : tsXML.valueMetaInfo with
  | none => exact fresh _ _ rfl
  | some valueMetaInfo =>
      simp only [parseReplacePeriod]
      cases given : valueMetaInfo.replacePeriod with
      | none => exact fresh _ _ rfl
      | some replacePeriod =>
          obtain ⟨period, parsed⟩ := document.replacePeriod valueMetaInfo replacePeriod info given
          simp only [parsed]
          exact fresh _ _ rfl

structure Reported (importData later : TsXmlImportData D) : Prop where
  timeSeries : later.timeSeries = importData.timeSeries
  objects : later.objects = importData.objects
  itemsResponses : later.itemsResponses = importData.itemsResponses
  replacePeriod : later.replacePeriod = importData.replacePeriod
  totalItems : later.totalItems = importData.totalItems
  failedItems : later.failedItems = importData.failedItems
  dataLevel : later.responseLevel = importData.responseLevel
  itemErrors : later.itemErrors = importData.itemErrors
  responseLevel : later.tsResponse.responseLevel = importData.tsResponse.responseLevel
  listed : later.tsResponse.itemsResponse = importData.tsResponse.itemsResponse

theorem Reported.refl (importData : TsXmlImportData D) : Reported importData importData :=
  ⟨rfl, rfl, rfl, rfl, rfl, rfl, rfl, rfl, rfl, rfl⟩

theorem Reported.trans {middle later : TsXmlImportData D} (first : Reported importData middle)
    (second : Reported middle later) : Reported importData later where
  timeSeries := second.timeSeries.trans first.timeSeries
  objects := second.objects.trans first.objects
  itemsResponses := second.itemsResponses.trans first.itemsResponses
  replacePeriod := second.replacePeriod.trans first.replacePeriod
  totalItems := second.totalItems.trans first.totalItems
  failedItems := second.failedItems.trans first.failedItems
  dataLevel := second.dataLevel.trans first.dataLevel
  itemErrors := second.itemErrors.trans first.itemErrors
  responseLevel := second.responseLevel.trans first.responseLevel
  listed := second.listed.trans first.listed

theorem addTsStatus_reported (importData : TsXmlImportData D) (statusMessage : String) (statusType : StatusType) :
    Reported importData (importData.addTsStatus statusMessage statusType) := by
  unfold TsXmlImportData.addTsStatus
  split
  · exact ⟨rfl, rfl, rfl, rfl, rfl, rfl, rfl, rfl, rfl, rfl⟩
  · exact .refl importData

theorem addTsStatus_status (statusMessage : String) (statusType : StatusType)
    (asked : importData.tsResponse.responseLevel ≠ .none) :
    (importData.addTsStatus statusMessage statusType).tsResponse.status =
      if statusType.toNat > importData.tsResponse.status.toNat then statusType else importData.tsResponse.status := by
  unfold TsXmlImportData.addTsStatus
  rw [if_pos asked]

theorem closeItems_status {nItems : Nat} (some_ : nItems ≠ 0) (status : importData.tsResponse.status = .ok)
    (asked : importData.tsResponse.responseLevel ≠ .none) :
    Reported importData (closeItems nItems nItemsInvalid importData) ∧
      (closeItems nItems nItemsInvalid importData).tsResponse.status =
        if nItemsInvalid = nItems then .failed else .ok := by
  let received := importData.addTsStatus (toString nItems ++ " items received") .ok
  have first : Reported importData received := addTsStatus_reported ..
  have stillOk : received.tsResponse.status = .ok := by
    rw [addTsStatus_status _ _ asked, status]
    rfl
  by_cases all : nItemsInvalid = nItems
  · have closed : closeItems nItems nItemsInvalid importData =
        received.addTsStatus "All items failed during parsing of XML" .failed := by
      have positive : nItems > 0 := by omega
      simp [closeItems, received, all, positive, some_]
    have stillAsked : received.tsResponse.responseLevel ≠ .none := first.responseLevel.trans_ne asked
    rw [closed, if_pos all, addTsStatus_status _ _ stillAsked, stillOk]
    exact ⟨first.trans (addTsStatus_reported ..), rfl⟩
  · have closed : closeItems nItems nItemsInvalid importData = received := by
      simp [closeItems, received, all, some_]
    rw [closed, if_neg all]
    exact ⟨first, stillOk⟩

structure Parsed (importData parsed : TsXmlImportData D) (nItems nItemsInvalid : Nat) : Prop where
  dataLevel : parsed.responseLevel = importData.responseLevel
  responseLevel : parsed.tsResponse.responseLevel = importData.tsResponse.responseLevel
  timeSeries : parsed.timeSeries = importData.timeSeries
  objects : parsed.objects = importData.objects
  itemsResponses : parsed.itemsResponses = importData.itemsResponses
  itemErrors : parsed.itemErrors = importData.itemErrors
  listed : parsed.tsResponse.itemsResponse = importData.tsResponse.itemsResponse
  allInvalid : nItemsInvalid = nItems →
    parsed.tsResponse.status = .failed ∧ parsed.totalItems = 0 ∧ parsed.failedItems = 0
  someValid : nItemsInvalid ≠ nItems →
    parsed.tsResponse.status = .ok ∧ parsed.totalItems = nItems ∧ parsed.failedItems = nItemsInvalid

theorem ListedDocument.asked {tsXML : TimeSeriesType D} (document : ListedDocument runtime tsXML) :
    tsXML.responseLevel ≠ .none := by
  intro same
  have lists := document.lists
  rw [same] at lists
  contradiction

theorem parseTimeSeries_parsed {tsXML : TimeSeriesType D} (document : ListedDocument runtime tsXML) :
    ∃ importData nItemsInvalid, ParseLoop runtime tsXML.responseLevel tsXML.items nItemsInvalid importData ∧
      Parsed importData (parseTimeSeries runtime tsXML) tsXML.items.length nItemsInvalid := by
  have loop := (ParseLoop.start document).run document.lists tsXML.items
  refine ⟨_, _, loop, ?_⟩
  generalize run : (parseValueMetaInfo runtime tsXML
    (parseReference tsXML (newImportData tsXML.responseLevel))).addItems runtime tsXML.items 0 = final at loop ⊢
  obtain ⟨nItemsInvalid, importData⟩ := final
  rw [List.nil_append] at loop
  have someItems : tsXML.items.length ≠ 0 := by simpa using document.items
  obtain ⟨reported, status⟩ := @closeItems_status _ importData nItemsInvalid tsXML.items.length someItems loop.status
    (loop.responseLevel.trans_ne document.asked)
  by_cases all : nItemsInvalid = tsXML.items.length
  · rw [if_pos all] at status
    simp only [parseTimeSeries, run, status, ne_eq, not_true_eq_false, ↓reduceIte]
    exact ⟨reported.dataLevel, reported.responseLevel, reported.timeSeries, reported.objects, reported.itemsResponses,
      reported.itemErrors, reported.listed,
      fun _ => ⟨status, reported.totalItems.trans loop.totals.1, reported.failedItems.trans loop.totals.2⟩,
      fun some_ => absurd all some_⟩
  · rw [if_neg all] at status
    simp only [parseTimeSeries, run, status, ne_eq, reduceCtorEq, not_false_eq_true, ↓reduceIte]
    exact ⟨reported.dataLevel, reported.responseLevel, reported.timeSeries, reported.objects, reported.itemsResponses,
      reported.itemErrors, reported.listed, fun same => absurd same all, fun _ => ⟨status, rfl, rfl⟩⟩

end Loop

section Update

variable {before later metadata : TsXmlImportData D} {tvqStatus : TvqStorageStatus D}
  {done : List (TvqStorageStatus D)}

structure UpdateLoop (before : TsXmlImportData D) (done : List (TvqStorageStatus D)) (later : TsXmlImportData D) :
    Prop where
  dataLevel : later.responseLevel = before.responseLevel
  responseLevel : later.tsResponse.responseLevel = before.tsResponse.responseLevel
  status : later.tsResponse.status = before.tsResponse.status
  itemsResponses : later.itemsResponses = before.itemsResponses
  totalItems : later.totalItems = before.totalItems
  failedItems : later.failedItems = before.failedItems + (done.filter fun status => !isOk status).length
  itemErrors : later.itemErrors = [] ↔ before.itemErrors = [] ∧ ∀ status ∈ done, isOk status = true
  listed : later.tsResponse.itemsResponse = before.tsResponse.itemsResponse ++ done.filterMap (responseOf before)
  objects : ∀ {position response}, before.objects[position]? = some response → ∃ after,
    later.objects[position]? = some after ∧ after.tsPVQItem = response.tsPVQItem ∧
      ((∃ status ∈ done, responseOf before status = some position ∧ isOk status = false) →
        after.status = .failed) ∧
      ((∀ status ∈ done, responseOf before status = some position → isOk status = true) →
        after.status = response.status)

theorem UpdateLoop.start (before : TsXmlImportData D) : UpdateLoop before [] before where
  dataLevel := rfl
  responseLevel := rfl
  status := rfl
  itemsResponses := rfl
  totalItems := rfl
  failedItems := rfl
  itemErrors := by simp
  listed := by simp
  objects found := ⟨_, found, rfl, by simp, fun _ => rfl⟩

theorem responseOf_congr (same : later.itemsResponses = before.itemsResponses) :
    responseOf later tvqStatus = responseOf before tvqStatus := by
  rw [responseOf, same, responseOf]

theorem worsen_status (response : TsItemsResponseType D) (message : String) (statusType : StatusType) :
    (response.worsen message statusType).tsPVQItem = response.tsPVQItem ∧
      (statusType = .failed → (response.worsen message statusType).status = .failed) ∧
      (statusType = .ok → (response.worsen message statusType).status = response.status) := by
  unfold TsItemsResponseType.worsen
  split
  · rename_i worse
    refine ⟨rfl, fun failed => failed, fun ok => ?_⟩
    rw [ok] at worse
    simp [StatusType.toNat] at worse
  · rename_i notWorse
    have stays : statusType = .failed → response.status = .failed := by
      rintro rfl
      cases status : response.status <;> simp [status, StatusType.toNat] at notWorse ⊢
    split
    · exact ⟨rfl, stays, fun _ => rfl⟩
    · exact ⟨rfl, stays, fun _ => rfl⟩

structure SameReport (metadata later : TsXmlImportData D) : Prop where
  dataLevel : later.responseLevel = metadata.responseLevel
  responseLevel : later.tsResponse.responseLevel = metadata.tsResponse.responseLevel
  status : later.tsResponse.status = metadata.tsResponse.status
  itemsResponses : later.itemsResponses = metadata.itemsResponses
  totalItems : later.totalItems = metadata.totalItems
  failedItems : later.failedItems = metadata.failedItems
  timeSeries : later.timeSeries = metadata.timeSeries
  replacePeriod : later.replacePeriod = metadata.replacePeriod

section Item

variable (metadata : TsXmlImportData D) (itemResponse : Option Nat) (message : String) (statusType : StatusType)

def reportItem : TsXmlImportData D :=
  (metadata.addTsItemStatus itemResponse message statusType).listItem itemResponse

theorem reportItem_same : SameReport metadata (reportItem metadata itemResponse message statusType) := by
  cases itemResponse with
  | none =>
      simp only [reportItem, TsXmlImportData.addTsItemStatus, TsXmlImportData.listItem, TsXmlImportData.addItemStatus]
      split <;> exact ⟨rfl, rfl, rfl, rfl, rfl, rfl, rfl, rfl⟩
  | some reference =>
      simp only [reportItem, TsXmlImportData.addTsItemStatus, TsXmlImportData.listItem, TsXmlImportData.addItemStatus]
      split
      · split <;> exact ⟨rfl, rfl, rfl, rfl, rfl, rfl, rfl, rfl⟩
      · split <;> exact ⟨rfl, rfl, rfl, rfl, rfl, rfl, rfl, rfl⟩

theorem reportItem_listed : (reportItem metadata itemResponse message statusType).tsResponse.itemsResponse =
    metadata.tsResponse.itemsResponse ++ itemResponse.toList := by
  cases itemResponse with
  | none =>
      simp only [reportItem, TsXmlImportData.addTsItemStatus, TsXmlImportData.listItem, TsXmlImportData.addItemStatus]
      split <;> simp
  | some reference =>
      simp only [reportItem, TsXmlImportData.addTsItemStatus, TsXmlImportData.listItem, TsXmlImportData.addItemStatus]
      split
      · split <;> rfl
      · split <;> rfl

theorem reportItem_itemErrors : (reportItem metadata itemResponse message statusType).itemErrors = [] ↔
    metadata.itemErrors = [] ∧ statusType ≠ .failed := by
  have counted : (reportItem metadata itemResponse message statusType).itemErrors =
      if statusType = .failed then countStatus message metadata.itemErrors else metadata.itemErrors := by
    cases itemResponse with
    | none =>
        simp only [reportItem, TsXmlImportData.addTsItemStatus, TsXmlImportData.listItem,
          TsXmlImportData.addItemStatus, decide_eq_true_eq]
        split <;> rfl
    | some reference =>
        simp only [reportItem, TsXmlImportData.addTsItemStatus, TsXmlImportData.listItem,
          TsXmlImportData.addItemStatus, decide_eq_true_eq]
        split
        · split <;> rfl
        · split <;> rfl
  rw [counted]
  split
  · rename_i failed
    simp [countStatus_ne_nil, failed]
  · rename_i notFailed
    simp [notFailed]

theorem reportItem_objects (lists : metadata.responseLevel.listsItems = true) {position : Nat}
    {response : TsItemsResponseType D} (found : metadata.objects[position]? = some response) :
    ∃ after, (reportItem metadata itemResponse message statusType).objects[position]? = some after ∧
      after.tsPVQItem = response.tsPVQItem ∧
      (itemResponse = some position → statusType = .failed → after.status = .failed) ∧
      (itemResponse ≠ some position ∨ statusType = .ok → after.status = response.status) := by
  have failing : metadata.responseLevel = .tsv ∨ metadata.responseLevel = .tsvFail := by
    cases level : metadata.responseLevel <;> simp [level, TsResponseLevelType.listsItems] at lists ⊢
  have sameObjects : (metadata.addItemStatus message (decide (statusType = .failed))).objects = metadata.objects ∧
      (metadata.addItemStatus message (decide (statusType = .failed))).responseLevel = metadata.responseLevel := by
    unfold TsXmlImportData.addItemStatus
    split <;> exact ⟨rfl, rfl⟩
  obtain ⟨worseItem, worseFailed, worseOk⟩ := worsen_status response message statusType
  cases itemResponse with
  | none => exact ⟨response, sameObjects.1 ▸ found, rfl, by simp, fun _ => rfl⟩
  | some reference =>
      simp only [reportItem, TsXmlImportData.addTsItemStatus, TsXmlImportData.listItem, sameObjects]
      split
      · by_cases same : reference = position
        · subst same
          refine ⟨response.worsen message statusType, ?_, worseItem, fun _ => worseFailed, ?_⟩
          · simp [found]
          · rintro (other | ok)
            · exact absurd rfl other
            · exact worseOk ok
        · refine ⟨response, ?_, rfl, fun this => absurd (Option.some.inj this) same, fun _ => rfl⟩
          simp [found, same]
      · rename_i silent
        refine ⟨response, sameObjects.1 ▸ found, rfl, fun _ failed => absurd ?_ silent, fun _ => rfl⟩
        rcases failing with tsv | tsvFail
        · exact Or.inl tsv
        · exact Or.inr ⟨tsvFail, failed⟩

end Item

theorem updateItem_cases (metadata : TsXmlImportData D) (tvqStatus : TvqStorageStatus D) :
    (isOk tvqStatus = true ∧ ∃ message,
      updateItem metadata tvqStatus = reportItem metadata (responseOf metadata tvqStatus) message .ok) ∨
    (isOk tvqStatus = false ∧ ∃ message,
      updateItem metadata tvqStatus = reportItem { metadata with failedItems := metadata.failedItems + 1 }
        (responseOf metadata tvqStatus) message .failed) := by
  unfold updateItem
  cases ok : isOk tvqStatus with
  | true => exact Or.inl ⟨rfl, _, rfl⟩
  | false => exact Or.inr ⟨rfl, _, rfl⟩

theorem UpdateLoop.step (loop : UpdateLoop before done metadata) (lists : before.responseLevel.listsItems = true)
    (tvqStatus : TvqStorageStatus D) : UpdateLoop before (done ++ [tvqStatus]) (updateItem metadata tvqStatus) := by
  have reference : responseOf metadata tvqStatus = responseOf before tvqStatus := responseOf_congr loop.itemsResponses
  have stillLists : metadata.responseLevel.listsItems = true := loop.dataLevel ▸ lists
  have listed : metadata.tsResponse.itemsResponse ++ (responseOf before tvqStatus).toList =
      before.tsResponse.itemsResponse ++ (done ++ [tvqStatus]).filterMap (responseOf before) := by
    rw [loop.listed, List.filterMap_append, List.append_assoc]
    cases found : responseOf before tvqStatus <;> simp [found]
  rcases updateItem_cases metadata tvqStatus with ⟨ok, message, step⟩ | ⟨failed, message, step⟩
  · rw [step, reference]
    have same := reportItem_same metadata (responseOf before tvqStatus) message .ok
    constructor
    · exact same.dataLevel.trans loop.dataLevel
    · exact same.responseLevel.trans loop.responseLevel
    · exact same.status.trans loop.status
    · exact same.itemsResponses.trans loop.itemsResponses
    · exact same.totalItems.trans loop.totalItems
    · rw [same.failedItems, loop.failedItems]
      simp [ok]
    · rw [reportItem_itemErrors, loop.itemErrors, List.forall_mem_append, List.forall_mem_singleton, ok]
      simp
    · exact (reportItem_listed ..).trans listed
    · intro position response found
      obtain ⟨after, there, item, failed, kept⟩ := loop.objects found
      obtain ⟨last, there', item', _, kept'⟩ := reportItem_objects metadata (responseOf before tvqStatus) message .ok
        stillLists there
      have sameStatus := kept' (Or.inr rfl)
      refine ⟨last, there', item'.trans item, ?_, fun all => ?_⟩
      · rintro ⟨status, member, this, bad⟩
        rcases List.mem_append.mp member with old | new
        · exact sameStatus.trans (failed ⟨status, old, this, bad⟩)
        · rw [List.mem_singleton.mp new, ok] at bad
          contradiction
      · exact sameStatus.trans (kept fun status member => all status (List.mem_append_left _ member))
  · rw [step, reference]
    have same := reportItem_same { metadata with failedItems := metadata.failedItems + 1 }
      (responseOf before tvqStatus) message .failed
    constructor
    · exact same.dataLevel.trans loop.dataLevel
    · exact same.responseLevel.trans loop.responseLevel
    · exact same.status.trans loop.status
    · exact same.itemsResponses.trans loop.itemsResponses
    · exact same.totalItems.trans loop.totalItems
    · rw [same.failedItems]
      simp only [loop.failedItems, List.filter_append, List.length_append, List.filter_cons, failed, Bool.not_false,
        ↓reduceIte, List.filter_nil, List.length_singleton, Nat.add_assoc]
    · rw [reportItem_itemErrors]
      simp [failed]
    · exact (reportItem_listed ..).trans listed
    · intro position response found
      obtain ⟨after, there, item, worse, kept⟩ := loop.objects found
      obtain ⟨last, there', item', worse', kept'⟩ := reportItem_objects
        { metadata with failedItems := metadata.failedItems + 1 } (responseOf before tvqStatus) message .failed
        stillLists there
      refine ⟨last, there', item'.trans item, ?_, fun all => ?_⟩
      · rintro ⟨status, member, this, bad⟩
        by_cases here : responseOf before tvqStatus = some position
        · exact worse' here rfl
        · rw [kept' (Or.inl here)]
          rcases List.mem_append.mp member with old | new
          · exact worse ⟨status, old, this, bad⟩
          · rw [List.mem_singleton.mp new] at this
            exact absurd this here
      · have elsewhere : responseOf before tvqStatus ≠ some position := by
          intro here
          have ok := all tvqStatus (by simp) here
          rw [failed] at ok
          contradiction
        rw [kept' (Or.inl elsewhere)]
        exact kept fun status member => all status (List.mem_append_left _ member)

theorem UpdateLoop.run (loop : UpdateLoop before done metadata) (lists : before.responseLevel.listsItems = true)
    (statuses : List (TvqStorageStatus D)) : UpdateLoop before (done ++ statuses) (updateItems statuses metadata) := by
  induction statuses generalizing done metadata with
  | nil => simpa [updateItems] using loop
  | cons tvqStatus rest ih =>
      have next := ih (loop.step lists tvqStatus)
      rw [List.append_assoc] at next
      exact next

theorem addCounters_status (kind : String) (statusType : StatusType) (counters : List (String × Nat))
    (asked : metadata.tsResponse.responseLevel ≠ .none) :
    Reported metadata (addCounters kind statusType counters metadata) ∧
      (addCounters kind statusType counters metadata).tsResponse.status =
        if counters ≠ [] ∧ statusType.toNat > metadata.tsResponse.status.toNat then statusType
        else metadata.tsResponse.status := by
  induction counters generalizing metadata with
  | nil => exact ⟨.refl metadata, by simp [addCounters]⟩
  | cons entry rest ih =>
      have first := addTsStatus_reported metadata (counterMessage kind entry) statusType
      have status := addTsStatus_status (counterMessage kind entry) statusType asked
      have later := ih (first.responseLevel.trans_ne asked)
      refine ⟨first.trans later.1, later.2.trans ?_⟩
      rw [status]
      by_cases worse : statusType.toNat > metadata.tsResponse.status.toNat
      · simp [worse]
      · simp [worse]

structure Updated (loop updated : TsXmlImportData D) : Prop where
  objects : updated.objects = loop.objects
  listed : updated.tsResponse.itemsResponse = loop.tsResponse.itemsResponse
  status : updated.tsResponse.status =
    if loop.failedItems ≥ loop.totalItems then .failed
    else if loop.itemErrors ≠ [] ∧ loop.tsResponse.status = .ok then .partlyOk
    else loop.tsResponse.status

theorem updateTimeSeriesResponse_updated (metadata : TsXmlImportData D) (statuses : List (TvqStorageStatus D))
    (asked : (updateItems statuses metadata).tsResponse.responseLevel ≠ .none) :
    Updated (updateItems statuses metadata) (updateTimeSeriesResponse metadata statuses) := by
  obtain ⟨first, status⟩ := addCounters_status "STATUS: " .ok (updateItems statuses metadata).itemStatuses asked
  obtain ⟨second, status'⟩ := @addCounters_status _
    (addCounters "STATUS: " .ok (updateItems statuses metadata).itemStatuses (updateItems statuses metadata))
    "ERROR: " .partlyOk
    (addCounters "STATUS: " .ok (updateItems statuses metadata).itemStatuses
      (updateItems statuses metadata)).itemErrors (first.responseLevel.trans_ne asked)
  have reported := first.trans second
  rw [first.itemErrors, status] at status'
  rw [first.itemErrors] at reported
  have worst : ¬ StatusType.ok.toNat > (updateItems statuses metadata).tsResponse.status.toNat := by
    simp [StatusType.toNat]
  have partly (response : StatusType) : StatusType.partlyOk.toNat > response.toNat ↔ response = .ok := by
    cases response <;> simp [StatusType.toNat]
  simp only [worst, and_false, ↓reduceIte, partly] at status'
  simp only [updateTimeSeriesResponse, first.itemErrors]
  split
  · rename_i all
    rw [reported.failedItems, reported.totalItems] at all
    exact ⟨reported.objects, reported.listed, (if_pos all).symm⟩
  · rename_i notAll
    rw [reported.failedItems, reported.totalItems] at notAll
    exact ⟨reported.objects, reported.listed, status'.trans (if_neg notAll).symm⟩

end Update

end ServiceHost.TimeSeriesXml
