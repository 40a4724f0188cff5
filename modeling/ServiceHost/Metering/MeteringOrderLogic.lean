import Mathlib.Data.List.Perm.Basic
import Mathlib.Data.List.Forall2
import Mathlib.Data.List.Nodup
import ServiceHost.Metering.MeteringOrderLogicCore

/-!
Which marks a round of on-demand orders leaves. A split order is marked as failed itself,
its parts mark it as forwarded, and an order without definitions counts as forwarded.
-/

namespace ServiceHost.Metering

open Library

variable {P R : Type} {lookups : Lookups P R} {moodCol : MeteringOrderOnDemandCollection P R}
  {mood : MeteringOrderOnDemand P R}

def forwardable (lookups : Lookups P R) (moodCol : MeteringOrderOnDemandCollection P R)
    (mood : MeteringOrderOnDemand P R) : Bool :=
  match lookups.measurePointForTimeSeries mood.key.timsKey moodCol.dataFromTime with
  | none => false
  | some measurePoint =>
      match lookups.fetchImportDefinitions mood.key.timsKey moodCol.dataFromTime moodCol.dataToTime with
      | none => false
      | some impDefs =>
          impDefs ≠ [] && impDefs.all fun impDef =>
            (lookups.registerForTimeSeries impDef.tsCode measurePoint moodCol.dataFromTime).isSome

def ordersOf (collections : List (MeteringOrderOnDemandCollection P R)) :
    List (MeteringOrderOnDemandCollection P R × MeteringOrderOnDemand P R) :=
  collections.flatMap fun moodCol => moodCol.meteringOrdersOnDemand.map fun mood => (moodCol, mood)

def expectedMark (lookups : Lookups P R)
    (order : MeteringOrderOnDemandCollection P R × MeteringOrderOnDemand P R) : OrderKey × Status :=
  (order.2.key, if forwardable lookups order.1 order.2 then .forwardedMss else .forwardMssFailed)

def MarkedCorrectly (lookups : Lookups P R) (collections : List (MeteringOrderOnDemandCollection P R)) : Prop :=
  ∃ marks, splitAndMark lookups collections = .ok marks ∧
    marks.Perm ((ordersOf collections).map (expectedMark lookups))

def Markable (lookups : Lookups P R) (moodCol : MeteringOrderOnDemandCollection P R)
    (mood : MeteringOrderOnDemand P R) : Prop :=
  ∀ measurePoint impDefs,
    lookups.measurePointForTimeSeries mood.key.timsKey moodCol.dataFromTime = some measurePoint →
    lookups.fetchImportDefinitions mood.key.timsKey moodCol.dataFromTime moodCol.dataToTime = some impDefs →
    impDefs.length = 1 ∨ 1 < impDefs.length ∧ ∀ impDef ∈ impDefs,
      lookups.registerForTimeSeries impDef.tsCode measurePoint moodCol.dataFromTime = none ∧
      ∃ period, impDef.validPeriod.intersection ⟨moodCol.dataFromTime, moodCol.dataToTime⟩ = .ok (some period)

structure NewOrders (collections : List (MeteringOrderOnDemandCollection P R)) : Prop where
  new : ∀ order ∈ ordersOf collections, order.2 = newOrder order.2.key
  distinct : ((ordersOf collections).map fun order => order.2.key).Nodup

section Split

def CountsAsFailed (status : SendingStatus) : Prop :=
  status ≠ .ok ∧ status ≠ .split ∧ status ≠ .splitMissingRegister

structure Fits (lookups : Lookups P R) (order : MeteringOrderOnDemandCollection P R × MeteringOrderOnDemand P R)
    (mood : MeteringOrderOnDemand P R) : Prop where
  key : mood.key = order.2.key
  forwarded : forwardable lookups order.1 order.2 = true → mood.sendStatus = .ok
  failed : forwardable lookups order.1 order.2 = false → CountsAsFailed mood.sendStatus

theorem splitParts_none {measurePoint : P} {original : OrderKey} {impDefs : List ImportDefinition}
    (missing : ∀ impDef ∈ impDefs,
      lookups.registerForTimeSeries impDef.tsCode measurePoint moodCol.dataFromTime = none ∧
      ∃ period, impDef.validPeriod.intersection ⟨moodCol.dataFromTime, moodCol.dataToTime⟩ = .ok (some period)) :
    splitParts lookups moodCol measurePoint original impDefs = .ok [] := by
  induction impDefs with
  | nil => rfl
  | cons impDef rest ih =>
      have others := ih fun other member => missing other (List.mem_cons_of_mem _ member)
      obtain ⟨unregistered, period, intersects⟩ := missing impDef List.mem_cons_self
      simp [splitParts, intersects, others, unregistered]

theorem splitParts_ok {measurePoint : P} {original : OrderKey} {impDefs : List ImportDefinition}
    {cols : List (MeteringOrderOnDemandCollection P R)}
    (splits : splitParts lookups moodCol measurePoint original impDefs = .ok cols) :
    ∀ impDef ∈ impDefs,
      (∃ period, impDef.validPeriod.intersection ⟨moodCol.dataFromTime, moodCol.dataToTime⟩ = .ok (some period)) ∧
      (lookups.registerForTimeSeries impDef.tsCode measurePoint moodCol.dataFromTime = none ∨
        ∃ col ∈ cols, ∃ part ∈ col.meteringOrdersOnDemand, part.sendStatus = .split ∧
          part.original = some original) := by
  induction impDefs generalizing cols with
  | nil => simp
  | cons impDef rest ih =>
      simp only [splitParts, bind_eq_ok_iff] at splits
      obtain ⟨intersection, intersects, splits⟩ := splits
      split at splits
      · cases splits
      · rename_i period
        simp only [bind_eq_ok_iff] at splits
        obtain ⟨others, othersSplit, splits⟩ := splits
        have tail := ih othersSplit
        intro other member
        rcases List.mem_cons.mp member with same | member
        · subst same
          refine ⟨⟨period, intersects⟩, ?_⟩
          split at splits
          · rename_i unregistered
            exact .inl unregistered
          · cases splits
            exact .inr ⟨_, List.mem_cons_self, _, List.mem_cons_self, rfl, rfl⟩
        · obtain ⟨meets, registered⟩ := tail other member
          refine ⟨meets, registered.imp_right ?_⟩
          rintro ⟨col, added, part⟩
          split at splits
          · cases splits
            exact ⟨col, added, part⟩
          · cases splits
            exact ⟨col, List.mem_cons_of_mem _ added, part⟩

theorem splitOrder_markable (markable : Markable lookups moodCol mood) (new : mood = newOrder mood.key) :
    ∃ whole, splitOrder lookups moodCol mood = .ok (whole, []) ∧ Fits lookups (moodCol, mood) whole := by
  have status : mood.sendStatus = .ok := by
    rw [new]
    rfl
  cases found : lookups.measurePointForTimeSeries mood.key.timsKey moodCol.dataFromTime with
  | none =>
      refine ⟨{ mood with sendStatus := .missingMeasurepoint }, ?_, rfl, ?_, ?_⟩
      · simp [splitOrder, found]
      · simp [forwardable, found]
      · simp [CountsAsFailed]
  | some measurePoint =>
      cases fetched : lookups.fetchImportDefinitions mood.key.timsKey moodCol.dataFromTime moodCol.dataToTime with
      | none =>
          refine ⟨{ mood with sendStatus := .missingImpdef }, ?_, rfl, ?_, ?_⟩
          · simp [splitOrder, found, fetched]
          · simp [forwardable, found, fetched]
          · simp [CountsAsFailed]
      | some impDefs =>
          rcases markable measurePoint impDefs found fetched with one | ⟨many, missing⟩
          · obtain ⟨impDef, same⟩ := List.length_eq_one_iff.mp one
            subst same
            cases registered : lookups.registerForTimeSeries impDef.tsCode measurePoint moodCol.dataFromTime with
            | none =>
                refine ⟨{ mood with sendStatus := .missingRegister }, ?_, rfl, ?_, ?_⟩
                · simp [splitOrder, found, fetched, registered]
                · simp [forwardable, found, fetched, registered]
                · simp [CountsAsFailed]
            | some register =>
                refine ⟨{ mood with
                  measurePoint := some measurePoint
                  importDefinition := some impDef
                  register := some register }, ?_, rfl, fun _ => status, ?_⟩
                · simp [splitOrder, found, fetched, registered]
                · simp [forwardable, found, fetched, registered]
          · refine ⟨{ mood with sendStatus := .splitted }, ?_, rfl, ?_, ?_⟩
            · match impDefs, many with
              | first :: second :: rest, _ =>
                  have parts := @splitParts_none P R lookups moodCol measurePoint mood.key _ missing
                  simp [splitOrder, found, fetched, parts]
            · intro forwards
              match impDefs, many with
              | first :: rest, _ =>
                  simp [forwardable, found, fetched, (missing first List.mem_cons_self).1] at forwards
            · simp [CountsAsFailed]

theorem splitOrder_not_markable (unmarkable : ¬ Markable lookups moodCol mood) (new : mood = newOrder mood.key)
    {changed : MeteringOrderOnDemand P R} {cols : List (MeteringOrderOnDemandCollection P R)}
    (splits : splitOrder lookups moodCol mood = .ok (changed, cols)) : changed.key = mood.key ∧
      (forwardable lookups moodCol mood = false ∧ changed.sendStatus = .ok ∨
        CountsAsFailed changed.sendStatus ∧ ∃ col ∈ cols, ∃ part ∈ col.meteringOrdersOnDemand,
          part.sendStatus = .split ∧ part.original = some mood.key) := by
  simp only [Markable, not_forall] at unmarkable
  obtain ⟨measurePoint, impDefs, found, fetched, unmarkable⟩ := unmarkable
  match impDefs with
  | [] =>
      simp only [splitOrder, found, fetched] at splits
      cases splits
      refine ⟨rfl, .inl ⟨by simp [forwardable, found, fetched], ?_⟩⟩
      rw [new]
      rfl
  | [impDef] => exact absurd (.inl rfl) unmarkable
  | first :: second :: rest =>
      simp only [splitOrder, found, fetched, bind_eq_ok_iff] at splits
      obtain ⟨parts, partsSplit, splits⟩ := splits
      cases splits
      refine ⟨rfl, .inr ⟨by simp [CountsAsFailed], ?_⟩⟩
      have ways := splitParts_ok partsSplit
      by_contra absent
      refine unmarkable (.inr ⟨by simp, fun impDef member => ?_⟩)
      obtain ⟨meets, registered⟩ := ways impDef member
      exact ⟨registered.resolve_right absent, meets⟩

theorem splitOrders_ok {moods wholes : List (MeteringOrderOnDemand P R)}
    {cols : List (MeteringOrderOnDemandCollection P R)}
    (splits : splitOrders lookups moodCol moods = .ok (wholes, cols)) :
    ∀ mood ∈ moods, ∃ whole ∈ wholes, ∃ parts, splitOrder lookups moodCol mood = .ok (whole, parts) ∧
      parts ⊆ cols := by
  induction moods generalizing wholes cols with
  | nil => simp
  | cons first rest ih =>
      simp only [splitOrders, bind_eq_ok_iff] at splits
      obtain ⟨⟨whole, parts⟩, split, ⟨others, added⟩, othersSplit, made⟩ := splits
      cases made
      intro mood member
      rcases List.mem_cons.mp member with same | member
      · subst same
        exact ⟨whole, List.mem_cons_self, parts, split, List.subset_append_left ..⟩
      · obtain ⟨other, present, its, split, subset⟩ := ih othersSplit mood member
        exact ⟨other, List.mem_cons_of_mem _ present, its, split, List.subset_append_of_subset_right _ subset⟩

theorem splitCollections_ok {collections wholes cols : List (MeteringOrderOnDemandCollection P R)}
    (splits : splitCollections lookups collections = .ok (wholes, cols)) :
    ∀ order ∈ ordersOf collections, ∃ whole ∈ wholes.flatMap MeteringOrderOnDemandCollection.meteringOrdersOnDemand,
      ∃ parts, splitOrder lookups order.1 order.2 = .ok (whole, parts) ∧ parts ⊆ cols := by
  induction collections generalizing wholes cols with
  | nil => simp [ordersOf]
  | cons moodCol rest ih =>
      simp only [splitCollections, bind_eq_ok_iff] at splits
      obtain ⟨⟨orders, parts⟩, split, ⟨others, added⟩, othersSplit, made⟩ := splits
      cases made
      intro order member
      simp only [ordersOf, List.flatMap_cons, List.mem_append, List.mem_map] at member
      rcases member with ⟨mood, member, same⟩ | member
      · subst same
        obtain ⟨whole, present, its, split, subset⟩ := splitOrders_ok split mood member
        refine ⟨whole, ?_, its, split, List.subset_append_of_subset_left _ subset⟩
        simp [present]
      · obtain ⟨whole, present, its, split, subset⟩ := ih othersSplit order member
        refine ⟨whole, ?_, its, split, List.subset_append_of_subset_right _ subset⟩
        rw [List.flatMap_cons]
        exact List.mem_append_right _ present

theorem splitOrders_markable {moods : List (MeteringOrderOnDemand P R)}
    (markable : ∀ mood ∈ moods, Markable lookups moodCol mood ∧ mood = newOrder mood.key) :
    ∃ wholes, splitOrders lookups moodCol moods = .ok (wholes, []) ∧
      List.Forall₂ (fun mood whole => Fits lookups (moodCol, mood) whole) moods wholes := by
  induction moods with
  | nil => exact ⟨[], rfl, .nil⟩
  | cons first rest ih =>
      obtain ⟨wholes, splits, fits⟩ := ih fun mood member => markable mood (List.mem_cons_of_mem _ member)
      obtain ⟨markable, new⟩ := markable first List.mem_cons_self
      obtain ⟨whole, split, fit⟩ := splitOrder_markable markable new
      refine ⟨whole :: wholes, ?_, .cons fit fits⟩
      simp [splitOrders, splits, split]

theorem splitCollections_markable {collections : List (MeteringOrderOnDemandCollection P R)}
    (markable : ∀ order ∈ ordersOf collections, Markable lookups order.1 order.2 ∧ order.2 = newOrder order.2.key) :
    ∃ wholes, splitCollections lookups collections = .ok (wholes, []) ∧
      List.Forall₂ (Fits lookups) (ordersOf collections)
        (wholes.flatMap MeteringOrderOnDemandCollection.meteringOrdersOnDemand) := by
  induction collections with
  | nil => exact ⟨[], rfl, .nil⟩
  | cons moodCol rest ih =>
      simp only [ordersOf, List.flatMap_cons, List.mem_append, List.mem_map] at markable
      obtain ⟨wholes, splits, fits⟩ := ih fun order member => markable order (.inr member)
      obtain ⟨orders, split, fit⟩ := splitOrders_markable fun mood member =>
        markable (moodCol, mood) (.inl ⟨mood, member, rfl⟩)
      refine ⟨{ moodCol with meteringOrdersOnDemand := orders } :: wholes, ?_, ?_⟩
      · simp [splitCollections, splits, split]
      · simp only [ordersOf, List.flatMap_cons]
        exact List.rel_append (List.forall₂_map_left_iff.mpr fit) fits

end Split

section Mark

theorem markNew_some (keys : List OrderKey) (status : Status) :
    markNewOnDemandMeteringOrders (keys.map some) status = .ok (keys.map fun key => (key, status)) := by
  unfold markNewOnDemandMeteringOrders
  induction keys with
  | nil => rfl
  | cons key rest ih =>
      rw [List.map_cons, List.mapM_cons, ih]
      rfl

theorem mem_markNew {orders : List (Option OrderKey)} {status : Status} {marks : List (OrderKey × Status)}
    (marked : markNewOnDemandMeteringOrders orders status = .ok marks) {key : OrderKey} (listed : some key ∈ orders) :
    (key, status) ∈ marks := by
  unfold markNewOnDemandMeteringOrders at marked
  induction orders generalizing marks with
  | nil => cases listed
  | cons order rest ih =>
      simp only [List.mapM_cons, bind_eq_ok_iff] at marked
      obtain ⟨mark, first, others, rests, made⟩ := marked
      cases made
      rcases List.mem_cons.mp listed with same | listed
      · subst same
        cases first
        exact List.mem_cons_self
      · exact List.mem_cons_of_mem _ (ih rests listed)

theorem foldl_addMark_whole {moods : List (MeteringOrderOnDemand P R)}
    (whole : ∀ mood ∈ moods, mood.sendStatus = .ok ∨ CountsAsFailed mood.sendStatus) (lists : MarkLists) :
    moods.foldl addMark lists =
      ⟨lists.ok ++ ((moods.filter fun mood => mood.sendStatus = .ok).map MeteringOrderOnDemand.key).map some,
        lists.failed ++ ((moods.filter fun mood => ¬ mood.sendStatus = .ok).map MeteringOrderOnDemand.key).map some⟩ := by
  induction moods generalizing lists with
  | nil => simp
  | cons mood rest ih =>
      rw [List.foldl_cons, ih fun other member => whole other (List.mem_cons_of_mem _ member)]
      rcases whole mood List.mem_cons_self with ok | failed
      · simp [addMark, ok]
      · obtain ⟨notOk, notSplit, notMissing⟩ := failed
        have added : addMark lists mood = { lists with failed := lists.failed ++ [some mood.key] } := by
          unfold addMark
          split <;> simp_all
        simp [added, notOk]

theorem addMark_subset (lists : MarkLists) (mood : MeteringOrderOnDemand P R) :
    lists.ok ⊆ (addMark lists mood).ok ∧ lists.failed ⊆ (addMark lists mood).failed := by
  unfold addMark
  split
  · exact ⟨List.subset_append_left .., fun _ member => member⟩
  · split
    · exact ⟨fun _ member => member, fun _ member => member⟩
    · exact ⟨List.subset_append_left .., fun _ member => member⟩
  · split
    · exact ⟨fun _ member => member, fun _ member => member⟩
    · exact ⟨fun _ member => member, List.subset_append_left ..⟩
  · exact ⟨fun _ member => member, List.subset_append_left ..⟩

theorem foldl_addMark_subset (moods : List (MeteringOrderOnDemand P R)) (lists : MarkLists) :
    lists.ok ⊆ (moods.foldl addMark lists).ok ∧ lists.failed ⊆ (moods.foldl addMark lists).failed := by
  induction moods generalizing lists with
  | nil => exact ⟨fun _ member => member, fun _ member => member⟩
  | cons mood rest ih =>
      obtain ⟨firstOk, firstFailed⟩ := addMark_subset lists mood
      obtain ⟨restOk, restFailed⟩ := ih (addMark lists mood)
      exact ⟨List.Subset.trans firstOk restOk, List.Subset.trans firstFailed restFailed⟩

theorem foldl_addMark_mem {moods : List (MeteringOrderOnDemand P R)} {mood : MeteringOrderOnDemand P R}
    (member : mood ∈ moods) (lists : MarkLists) :
    (mood.sendStatus = .ok → some mood.key ∈ (moods.foldl addMark lists).ok) ∧
      (mood.sendStatus = .split → mood.original ∈ (moods.foldl addMark lists).ok) ∧
      (CountsAsFailed mood.sendStatus → some mood.key ∈ (moods.foldl addMark lists).failed) := by
  induction moods generalizing lists with
  | nil => cases member
  | cons first rest ih =>
      rcases List.mem_cons.mp member with same | member
      · subst same
        obtain ⟨ok, failed⟩ := foldl_addMark_subset rest (addMark lists mood)
        refine ⟨fun status => ok ?_, fun status => ok ?_, fun status => failed ?_⟩
        · simp [addMark, status]
        · by_cases listed : mood.original ∈ lists.ok <;> simp [addMark, status, listed]
        · obtain ⟨notOk, notSplit, notMissing⟩ := status
          unfold addMark
          split <;> simp_all
      · exact ih member (addMark lists first)

end Mark

theorem Fits.mark {order : MeteringOrderOnDemandCollection P R × MeteringOrderOnDemand P R}
    {whole : MeteringOrderOnDemand P R} (fits : Fits lookups order whole) :
    (whole.key, if whole.sendStatus = .ok then Status.forwardedMss else .forwardMssFailed) =
      expectedMark lookups order := by
  unfold expectedMark
  rw [fits.key]
  cases forwards : forwardable lookups order.1 order.2 with
  | true => simp [fits.forwarded forwards]
  | false => simp [(fits.failed forwards).1]

theorem Fits.whole {order : MeteringOrderOnDemandCollection P R × MeteringOrderOnDemand P R}
    {whole : MeteringOrderOnDemand P R} (fits : Fits lookups order whole) :
    whole.sendStatus = .ok ∨ CountsAsFailed whole.sendStatus := by
  cases forwards : forwardable lookups order.1 order.2 with
  | true => exact .inl (fits.forwarded forwards)
  | false => exact .inr (fits.failed forwards)

section Round

variable {collections : List (MeteringOrderOnDemandCollection P R)}

theorem marks_perm (moods : List (MeteringOrderOnDemand P R)) :
    (((moods.filter fun mood => mood.sendStatus = .ok).map MeteringOrderOnDemand.key).map fun key =>
        (key, Status.forwardedMss)) ++
      (((moods.filter fun mood => ¬ mood.sendStatus = .ok).map MeteringOrderOnDemand.key).map fun key =>
        (key, Status.forwardMssFailed)) |>.Perm
      (moods.map fun mood => (mood.key, if mood.sendStatus = .ok then Status.forwardedMss else .forwardMssFailed)) := by
  have sorted := List.filter_append_perm (fun mood : MeteringOrderOnDemand P R => decide (mood.sendStatus = .ok)) moods
  have marked := sorted.map fun mood =>
    (mood.key, if mood.sendStatus = .ok then Status.forwardedMss else .forwardMssFailed)
  rw [List.map_append] at marked
  convert marked using 2
  · rw [List.map_map]
    refine List.map_congr_left fun mood member => ?_
    have ok : mood.sendStatus = .ok := by simpa using (List.mem_filter.mp member).2
    simp [ok]
  · rw [List.map_map]
    simp only [decide_not]
    refine List.map_congr_left fun mood member => ?_
    have failed : ¬ mood.sendStatus = .ok := by simpa using (List.mem_filter.mp member).2
    simp [failed]

theorem fits_marks {orders : List (MeteringOrderOnDemandCollection P R × MeteringOrderOnDemand P R)}
    {wholes : List (MeteringOrderOnDemand P R)} (fits : List.Forall₂ (Fits lookups) orders wholes) :
    (∀ whole ∈ wholes, whole.sendStatus = .ok ∨ CountsAsFailed whole.sendStatus) ∧
      wholes.map (fun mood => (mood.key, if mood.sendStatus = .ok then Status.forwardedMss else .forwardMssFailed)) =
        orders.map (expectedMark lookups) := by
  induction fits with
  | nil => simp
  | cons fit _ ih =>
      obtain ⟨whole, marks⟩ := ih
      refine ⟨?_, by rw [List.map_cons, List.map_cons, marks, fit.mark]⟩
      intro mood member
      rcases List.mem_cons.mp member with same | member
      · rw [same]
        exact fit.whole
      · exact whole mood member

theorem markedCorrectly_of_markable (new : NewOrders collections)
    (markable : ∀ order ∈ ordersOf collections, Markable lookups order.1 order.2) :
    MarkedCorrectly lookups collections := by
  obtain ⟨wholes, splits, fits⟩ := splitCollections_markable fun order member =>
    ⟨markable order member, new.new order member⟩
  obtain ⟨whole, marks⟩ := fits_marks fits
  have lists := foldl_addMark_whole whole ⟨[], []⟩
  have sorted := marks_perm (wholes.flatMap MeteringOrderOnDemandCollection.meteringOrdersOnDemand)
  rw [marks] at sorted
  refine ⟨_, ?_, sorted⟩
  simp only [splitAndMark, splitOnDemandMeteringOrders, splits, ok_bind, List.append_nil,
    markSentOnDemandMeteringOrders, lists, List.nil_append, markNew_some]

theorem NewOrders.expected_unique (new : NewOrders collections)
    {order : MeteringOrderOnDemandCollection P R × MeteringOrderOnDemand P R} (member : order ∈ ordersOf collections)
    {status : Status} (expected : (order.2.key, status) ∈ (ordersOf collections).map (expectedMark lookups)) :
    expectedMark lookups order = (order.2.key, status) := by
  obtain ⟨other, present, same⟩ := List.mem_map.mp expected
  have keys : other.2.key = order.2.key := congrArg Prod.fst same
  have equal := List.inj_on_of_nodup_map new.distinct present member keys
  rw [← equal, same, equal]

theorem markable_of_markedCorrectly (new : NewOrders collections) (marked : MarkedCorrectly lookups collections) :
    ∀ order ∈ ordersOf collections, Markable lookups order.1 order.2 := by
  intro order member
  by_contra unmarkable
  obtain ⟨marks, run, expected⟩ := marked
  simp only [splitAndMark, splitOnDemandMeteringOrders, bind_eq_ok_iff, markSentOnDemandMeteringOrders] at run
  obtain ⟨all, ⟨⟨wholes, cols⟩, splits, same⟩, forwarded, marksForwarded, failed, marksFailed, run⟩ := run
  cases same
  cases run
  obtain ⟨whole, present, parts, split, added⟩ := splitCollections_ok splits order member
  obtain ⟨key, ways⟩ := splitOrder_not_markable unmarkable (new.new order member) split
  rw [List.flatMap_append] at marksForwarded marksFailed
  have wholeListed := foldl_addMark_mem (List.mem_append_left
    (cols.flatMap MeteringOrderOnDemandCollection.meteringOrdersOnDemand) present) ⟨[], []⟩
  have isExpected {status : Status} (mark : (order.2.key, status) ∈ forwarded ++ failed) :
      expectedMark lookups order = (order.2.key, status) :=
    new.expected_unique member (expected.subset mark)
  rcases ways with ⟨unforwardable, ok⟩ | ⟨fails, col, kept, part, itsPart, isSplit, original⟩
  · have mark := mem_markNew marksForwarded (wholeListed.1 ok)
    rw [key] at mark
    have forwards := isExpected (List.mem_append_left _ mark)
    simp [expectedMark, unforwardable] at forwards
  · have mark := mem_markNew marksFailed (wholeListed.2.2 fails)
    rw [key] at mark
    have partPresent : part ∈ cols.flatMap MeteringOrderOnDemandCollection.meteringOrdersOnDemand :=
      List.mem_flatMap.mpr ⟨col, added kept, itsPart⟩
    have partListed := (foldl_addMark_mem (List.mem_append_right
      (wholes.flatMap MeteringOrderOnDemandCollection.meteringOrdersOnDemand) partPresent) ⟨[], []⟩).2.1 isSplit
    rw [original] at partListed
    have first := isExpected (List.mem_append_left _ (mem_markNew marksForwarded partListed))
    have second := isExpected (List.mem_append_right _ mark)
    rw [first] at second
    cases second

/-- A round marks every order exactly once and correctly if and only if each order has a
single definition, or several without a register, or none for which the lookup is null. -/
theorem splitAndMark_iff (lookups : Lookups P R) (new : NewOrders collections) :
    MarkedCorrectly lookups collections ↔ ∀ order ∈ ordersOf collections, Markable lookups order.1 order.2 :=
  ⟨markable_of_markedCorrectly new, markedCorrectly_of_markable new⟩

end Round

section Orders

def orderedDay : TimePeriod := ⟨.ofTicks Utc.hour, .ofTicks (25 * Utc.hour)⟩

def dayOrders : List (MeteringOrderOnDemandCollection Unit Unit) :=
  [⟨.null, orderedDay.fromTime, orderedDay.untilTime, 0, [newOrder ⟨some 1, 7, 3, 1⟩]⟩]

def answers (impDefs : List ImportDefinition) (registers : List String) : Lookups Unit Unit where
  measurePointForTimeSeries := fun _ _ => some ()
  fetchImportDefinitions := fun _ _ _ => some impDefs
  registerForTimeSeries := fun tsCode _ _ => if tsCode ∈ registers then some () else none

theorem dayOrders_new : NewOrders dayOrders := by
  constructor
  · intro order member
    simp only [dayOrders, ordersOf, List.flatMap_cons, List.flatMap_nil, List.map_cons, List.map_nil, List.append_nil,
      List.mem_singleton] at member
    rw [member]
    rfl
  · simp [dayOrders, ordersOf]

def wholeDay (tsCode : String) : ImportDefinition := ⟨tsCode, orderedDay⟩

theorem splitAndMark_iff_single : MarkedCorrectly (answers [wholeDay "A"] ["A"]) dayOrders ↔
    ∀ order ∈ ordersOf dayOrders, Markable (answers [wholeDay "A"] ["A"]) order.1 order.2 :=
  splitAndMark_iff (answers [wholeDay "A"] ["A"]) dayOrders_new

/-- An order with two definitions is marked as forwarded and as failed. -/
theorem splitAndMark_twice : ¬ ∀ (lookups : Lookups Unit Unit) collections, NewOrders collections →
    MarkedCorrectly lookups collections := by
  intro marked
  obtain ⟨marks, run, expected⟩ := marked (answers [wholeDay "A", wholeDay "B"] ["A", "B"]) dayOrders dayOrders_new
  have twice : splitAndMark (answers [wholeDay "A", wholeDay "B"] ["A", "B"]) dayOrders =
      .ok [(⟨some 1, 7, 3, 1⟩, .forwardedMss), (⟨some 1, 7, 3, 1⟩, .forwardMssFailed)] := rfl
  rw [twice] at run
  cases run
  exact absurd expected.length_eq (by decide)

end Orders

end ServiceHost.Metering
