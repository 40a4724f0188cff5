import Mathlib.Data.Prod.Lex
import ServiceHost.TimeSeries.TsWriteItems

/-!
What `writeValues` hands to the database for items that were given as lists: the
rows of the points, in an order by series, code and time, and those of the periods.
-/

namespace ServiceHost

open Library

variable {D N : Type}

structure BulkPoint (N : Type) where
  timsKey : Int
  vlcode : Int
  datetime : Int
  value : Option N
  status : BitVec 32
  readKey : Int
  reptKey : Int
  reasKey : Int
  rtpDate : Option Int
deriving DecidableEq

structure BulkPeriod where
  timsKey : Int
  vlcode : Int
  fromDate : Int
  untilDate : Int
deriving DecidableEq

def BulkWrite.ofRows (points : List (BulkPoint N)) (periods : List BulkPeriod) : BulkWrite N where
  timsKeys := points.map BulkPoint.timsKey
  vlcodes := points.map BulkPoint.vlcode
  datetimes := points.map BulkPoint.datetime
  values := points.map BulkPoint.value
  status := points.map BulkPoint.status
  readKeys := points.map BulkPoint.readKey
  reptKeys := points.map BulkPoint.reptKey
  reasKeys := points.map BulkPoint.reasKey
  rtpDates := points.map BulkPoint.rtpDate
  changedTimsKeys := periods.map BulkPeriod.timsKey
  changedVlCodes := periods.map BulkPeriod.vlcode
  changedFromDates := periods.map BulkPeriod.fromDate
  changedUntilDates := periods.map BulkPeriod.untilDate

theorem BulkWrite.ofRows_periods {points otherPoints : List (BulkPoint N)} {periods otherPeriods : List BulkPeriod}
    (same : ofRows points periods = ofRows otherPoints otherPeriods) : periods = otherPeriods := by
  have fields := map_pair (congrArg changedTimsKeys same) (map_pair (congrArg changedVlCodes same)
    (map_pair (congrArg changedFromDates same) (congrArg changedUntilDates same)))
  refine List.map_injective_iff.mpr (fun period other equal => ?_) fields
  cases period
  cases other
  simp_all

namespace TsPoint

def sortKey (point : TsPoint D) : Int ×ₗ Int ×ₗ UtcTime :=
  toLex (point.timsKey, toLex (point.vlcode, point.time))

def rtpOf (optional : OptionalArrays) (point : TsPoint D) : UtcTime :=
  if optional.rtps then point.rtp else UtcTime.null

def row [OracleDouble D N] (optional : OptionalArrays) (point : TsPoint D) : Except SystemException (BulkPoint N) := do
  let (value, status) ← TsWriter.handedValue point.value point.quality
  return {
    timsKey := point.timsKey
    vlcode := point.vlcode
    datetime := point.time.toPdtime
    value, status
    readKey := point.readKey.getD 0
    reptKey := point.reptKey.getD 0
    reasKey := point.reasKey.getD 0
    rtpDate := if point.rtpOf optional = UtcTime.null then none else some (point.rtpOf optional).toPdtime }

end TsPoint

def DeletePeriod.row (tzDb : RegionalCalendar) (period : DeletePeriod) : Except SystemException BulkPeriod := do
  let fromTime ← tzDb.ofDatabaseString period.fromDate17
  let untilTime ← tzDb.ofDatabaseString period.untilDate17
  return ⟨period.timsKey, period.vlcode, fromTime.toPdtime, untilTime.toPdtime⟩

namespace TsWriter

open TsWriteItemsFromArrays (ofLists)

variable (optional : OptionalArrays) {points : List (TsPoint D)} (periods : List DeletePeriod) (tzDb : RegionalCalendar)

theorem elementAt_getElem? {A B : Type} {items : List A} {item : A} {i : Nat} (f : A → B) (found : items[i]? = some item) :
    elementAt (items.map f) i = .ok (f item) := by
  simp [elementAt, found]

theorem time_ofPoints {i : Nat} {point : TsPoint D} (found : points[i]? = some point) :
    (PointArrays.ofPoints optional points).time i = .ok point.time := by
  simp only [PointArrays.time, PointArrays.ofPoints, elementAt_getElem? _ found]
  rfl

theorem compare_ofLists {i j : Nat} {point other : TsPoint D} (left : points[i]? = some point)
    (right : points[j]? = some other) (timeNull : point.time ≠ UtcTime.null) (otherNull : other.time ≠ UtcTime.null) :
    ∃ order, compare (ofLists optional points periods tzDb) i j = .ok order ∧
      (order ≤ 0 ↔ point.sortKey ≤ other.sortKey) := by
  have keys : elementAt (PointArrays.ofPoints optional points).timsKeys i = .ok point.timsKey ∧
      elementAt (PointArrays.ofPoints optional points).timsKeys j = .ok other.timsKey :=
    ⟨elementAt_getElem? _ left, elementAt_getElem? _ right⟩
  have codes : elementAt (PointArrays.ofPoints optional points).vlcodes i = .ok point.vlcode ∧
      elementAt (PointArrays.ofPoints optional points).vlcodes j = .ok other.vlcode :=
    ⟨elementAt_getElem? _ left, elementAt_getElem? _ right⟩
  simp only [compare, ofLists, keys.1, keys.2, codes.1, codes.2, time_ofPoints optional left, time_ofPoints optional right, ok_bind,
    UtcTime.less_of_ne_null timeNull otherNull, UtcTime.greater_of_ne_null timeNull otherNull, decide_eq_true_eq,
    TsPoint.sortKey, Prod.Lex.toLex_le_toLex]
  rcases lt_trichotomy point.timsKey other.timsKey with before | same | after
  · exact ⟨-1, by simp [before], by simp [before]⟩
  · rcases lt_trichotomy point.vlcode other.vlcode with codeBefore | sameCode | codeAfter
    · exact ⟨-1, by simp [same, codeBefore], by simp [same, codeBefore]⟩
    · rcases lt_trichotomy point.time other.time with earlier | sameTime | later
      · exact ⟨-1, by simp [same, sameCode, earlier], by simp [same, sameCode, earlier.le]⟩
      · exact ⟨0, by simp [same, sameCode, sameTime], by simp [same, sameCode, sameTime]⟩
      · refine ⟨1, by simp [same, sameCode, later, later.not_gt], by simp [same, sameCode, later]⟩
    · refine ⟨1, by simp [same, codeAfter, codeAfter.not_gt], ?_⟩
      simp [same, codeAfter.not_gt, codeAfter.ne']
  · refine ⟨1, by simp [after, after.not_gt], ?_⟩
    simp [after.not_gt, after.ne']

theorem compare_raises {i : Nat} {point : TsPoint D} (found : points[i]? = some point)
    (timeNull : point.time = UtcTime.null) :
    ∃ exception, compare (ofLists optional points periods tzDb) i i = .error exception := by
  have key : elementAt (PointArrays.ofPoints optional points).timsKeys i = .ok point.timsKey :=
    elementAt_getElem? _ found
  have code : elementAt (PointArrays.ofPoints optional points).vlcodes i = .ok point.vlcode :=
    elementAt_getElem? _ found
  have raised : UtcTime.less point.time point.time = .error (.argumentNull UtcTime.oneOfOperandsIsNull) := by
    simp [UtcTime.less, UtcTime.compareOp, timeNull, UtcTime.null]
  refine ⟨.argumentNull UtcTime.oneOfOperandsIsNull, ?_⟩
  simp [compare, ofLists, key, code, time_ofPoints optional found, raised]

theorem writePeriod_ofLists (points : List (TsPoint D)) {front back : List DeletePeriod} {period : DeletePeriod}
    (split : periods = front ++ period :: back) (rows : List (BulkPoint N)) (changed : List BulkPeriod) :
    writePeriod (ofLists optional points periods tzDb) front.length (.ofRows rows changed) =
      (fun row => .ofRows rows (changed ++ [row])) <$> period.row tzDb := by
  have timsKey : elementAt (ofLists optional points periods tzDb).deletes.timsKeys front.length = .ok period.timsKey :=
    elementAt_map _ split
  have vlcode : elementAt (ofLists optional points periods tzDb).deletes.vlcodes front.length = .ok period.vlcode :=
    elementAt_map _ split
  have fromDate : elementAt (ofLists optional points periods tzDb).deletes.fromDate17s front.length =
      .ok period.fromDate17 := elementAt_map _ split
  have untilDate : elementAt (ofLists optional points periods tzDb).deletes.untilDate17s front.length =
      .ok period.untilDate17 := elementAt_map _ split
  have calendar : (ofLists optional points periods tzDb).tzDb = tzDb := rfl
  simp only [writePeriod, TsWriteItemsFromArrays.changedPeriod, DeletePeriod.row, timsKey, vlcode, fromDate, untilDate,
    calendar, ok_bind]
  cases tzDb.ofDatabaseString period.fromDate17 with
  | error _ => rfl
  | ok fromTime =>
      simp only [ok_bind]
      cases tzDb.ofDatabaseString period.untilDate17 with
      | error _ => rfl
      | ok untilTime => simp [BulkWrite.ofRows]

def pick (points : List (TsPoint D)) (ix : List Nat) : List (TsPoint D) := ix.filterMap fun i => points[i]?

theorem pick_range (points : List (TsPoint D)) : pick points (List.range points.length) = points := by
  induction points using List.reverseRecOn with
  | nil => rfl
  | append_singleton front point ih =>
      have earlier : (List.range front.length).filterMap (fun i => (front ++ [point])[i]?) =
          (List.range front.length).filterMap fun i => front[i]? := by
        apply List.filterMap_congr
        intro i member
        exact List.getElem?_append_left (List.mem_range.mp member)
      rw [pick] at ih
      simp [pick, List.range_succ, List.filterMap_append, earlier, ih]

def Sortable (points : List (TsPoint D)) : Prop := points.length ≤ 1 ∨ ∀ point ∈ points, point.time ≠ UtcTime.null

theorem compares_ofLists (timed : ∀ point ∈ points, point.time ≠ UtcTime.null) :
    ∀ i ∈ List.range points.length, ∀ j ∈ List.range points.length, ∃ order,
      compare (ofLists optional points periods tzDb) i j = .ok order ∧
        (order ≤ 0 ↔ (points[i]?.map TsPoint.sortKey).getD (toLex (0, toLex (0, UtcTime.null))) ≤
          (points[j]?.map TsPoint.sortKey).getD (toLex (0, toLex (0, UtcTime.null)))) := by
  intro i left j right
  have foundLeft := List.getElem?_eq_getElem (List.mem_range.mp left)
  have foundRight := List.getElem?_eq_getElem (List.mem_range.mp right)
  simpa [foundLeft, foundRight] using compare_ofLists optional periods tzDb
    foundLeft foundRight (timed _ (List.getElem_mem _)) (timed _ (List.getElem_mem _))

theorem sorted_pick (sortable : Sortable points) {outcome : Except SystemException (List Nat)}
    (sorts : SortOutcome (compare (ofLists optional points periods tzDb)) sortFailure (List.range points.length) outcome) :
    ∃ ix, outcome = .ok ix ∧ (∀ i ∈ ix, i < points.length) ∧ (pick points ix).Perm points ∧
      (pick points ix).Pairwise fun point other => point.sortKey ≤ other.sortKey := by
  rcases sortable with single | timed
  · have unsorted := (SortOutcome.of_single (by simpa using single)).mp sorts
    refine ⟨_, unsorted, fun i member => List.mem_range.mp member, ?_, ?_⟩
    · rw [pick_range]
    · rw [pick_range]
      rcases points with _ | ⟨point, _ | ⟨_, _⟩⟩
      · exact List.Pairwise.nil
      · exact List.pairwise_singleton _ point
      · simp at single
  · obtain ⟨ix, sorted, perm, ordered⟩ := SortOutcome.ordered_by (compares_ofLists optional periods tzDb timed) sorts
    refine ⟨ix, sorted, fun i member => List.mem_range.mp (perm.mem_iff.mp member), ?_, ?_⟩
    · have picked := perm.filterMap fun i => points[i]?
      rwa [← pick, ← pick, pick_range] at picked
    · rw [pick, List.pairwise_filterMap]
      apply ordered.imp
      intro i j before point found other foundOther
      simpa [found, foundOther] using before

theorem exists_sorted (sortable : Sortable points) :
    ∃ outcome, SortOutcome (compare (ofLists optional points periods tzDb)) sortFailure (List.range points.length)
      outcome := by
  rcases sortable with single | timed
  · exact ⟨_, (SortOutcome.of_single (by simpa using single)).mpr rfl⟩
  · exact SortOutcome.exists_sorted (compares_ofLists optional periods tzDb timed)

section Bulk

variable [OracleDouble D N]

theorem writePoint_ofLists {i : Nat} {point : TsPoint D} (found : points[i]? = some point) (rows : List (BulkPoint N))
    (changed : List BulkPeriod) :
    writePoint (ofLists optional points periods tzDb) (.ofRows rows changed) i =
      (fun row => .ofRows (rows ++ [row]) changed) <$> point.row optional := by
  have rtp : (ofLists optional points periods tzDb).rtp i = .ok (point.rtpOf optional) := by
    cases present : optional.rtps with
    | false => simp [TsWriteItemsFromArrays.rtp, ofLists, PointArrays.ofPoints, OptionalArrays.array, present, TsPoint.rtpOf]
    | true =>
        simp only [TsWriteItemsFromArrays.rtp, ofLists, PointArrays.ofPoints, OptionalArrays.array, present, if_true,
          elementAt_getElem? _ found, TsPoint.rtpOf]
  have time : (ofLists optional points periods tzDb).points.time i = .ok point.time := time_ofPoints optional found
  have timsKey : elementAt (ofLists optional points periods tzDb).points.timsKeys i = .ok point.timsKey :=
    elementAt_getElem? _ found
  have vlcode : elementAt (ofLists optional points periods tzDb).points.vlcodes i = .ok point.vlcode :=
    elementAt_getElem? _ found
  have value : elementAt (ofLists optional points periods tzDb).points.vs i = .ok point.value :=
    elementAt_getElem? _ found
  have quality : elementAt (ofLists optional points periods tzDb).points.qs i = .ok point.quality :=
    elementAt_getElem? _ found
  have readKey : elementAt (ofLists optional points periods tzDb).points.readKeys i = .ok point.readKey :=
    elementAt_getElem? _ found
  have reptKey : elementAt (ofLists optional points periods tzDb).points.reptKeys i = .ok point.reptKey :=
    elementAt_getElem? _ found
  have reasKey : elementAt (ofLists optional points periods tzDb).points.reasKeys i = .ok point.reasKey :=
    elementAt_getElem? _ found
  simp only [writePoint, TsPoint.row, TsWriteItemsFromArrays.key, rtp, time, timsKey, vlcode, value, quality, readKey,
    reptKey, reasKey, ok_bind]
  cases handedValue (N := N) point.value point.quality with
  | error _ => rfl
  | ok handed => simp [BulkWrite.ofRows]

theorem foldlM_writePoint {ix : List Nat} (inside : ∀ i ∈ ix, i < points.length) (rows : List (BulkPoint N))
    (changed : List BulkPeriod) :
    ix.foldlM (writePoint (ofLists optional points periods tzDb)) (.ofRows rows changed) =
      (fun added => .ofRows (rows ++ added) changed) <$> (pick points ix).mapM (TsPoint.row optional) := by
  induction ix generalizing rows with
  | nil => simp [pick]
  | cons i ix ih =>
      have found : points[i]? = some (points.get ⟨i, inside i List.mem_cons_self⟩) :=
        List.getElem?_eq_getElem (inside i List.mem_cons_self)
      have rest := ih fun other member => inside other (List.mem_cons_of_mem i member)
      have picked : pick points (i :: ix) = points.get ⟨i, inside i List.mem_cons_self⟩ :: pick points ix :=
        List.filterMap_cons_some found
      rw [List.foldlM_cons, writePoint_ofLists optional periods tzDb found, picked, List.mapM_cons]
      cases TsPoint.row (N := N) optional (points.get ⟨i, inside i List.mem_cons_self⟩) with
      | error _ => rfl
      | ok row =>
          simp only [map_ok, ok_bind, rest]
          cases (pick points ix).mapM (TsPoint.row (N := N) optional) with
          | error _ => rfl
          | ok added => simp

theorem bulkWrite_ofLists {ix : List Nat} (inside : ∀ i ∈ ix, i < points.length) :
    bulkWrite (N := N) (ofLists optional points periods tzDb) ix = do
      let rows ← (pick points ix).mapM (TsPoint.row optional)
      let changed ← periods.mapM (DeletePeriod.row tzDb)
      return .ofRows rows changed := by
  have start : (emptyArrays : BulkWrite N) = .ofRows [] [] := rfl
  have count : (ofLists optional points periods tzDb).numberOfPeriods = periods.length := List.length_map _
  simp only [bulkWrite, start, foldlM_writePoint optional periods tzDb inside, count, List.nil_append]
  cases (pick points ix).mapM (TsPoint.row (N := N) optional) with
  | error _ => rfl
  | ok rows =>
      have written := ascending_appends (BulkWrite.ofRows rows) periods []
        fun _ _ _ changed split => writePeriod_ofLists optional periods tzDb points split rows changed
      simp only [map_ok, ok_bind, written]
      cases periods.mapM (DeletePeriod.row tzDb) with
      | error _ => rfl
      | ok changed => rfl

theorem writeValues_returns (sortable : Sortable points)
    (rows : ∀ point ∈ points, ∃ row : BulkPoint N, point.row optional = .ok row)
    (changed : ∀ period ∈ periods, ∃ row, DeletePeriod.row tzDb period = .ok row) :
    (∃ outcome : Except SystemException (BulkWrite N), WriteValues (ofLists optional points periods tzDb) outcome) ∧
    ∀ outcome : Except SystemException (BulkWrite N), WriteValues (ofLists optional points periods tzDb) outcome →
      ∃ (sorted : List (TsPoint D)) (bulkPoints : List (BulkPoint N)) (bulkPeriods : List BulkPeriod),
        outcome = .ok (.ofRows bulkPoints bulkPeriods) ∧ sorted.Perm points ∧
        sorted.Pairwise (fun point other => point.sortKey ≤ other.sortKey) ∧
        sorted.mapM (TsPoint.row optional) = .ok bulkPoints ∧
        periods.mapM (DeletePeriod.row tzDb) = .ok bulkPeriods := by
  have count : (ofLists optional points periods tzDb).numberOfPoints = points.length := List.length_map _
  refine ⟨?_, ?_⟩
  · obtain ⟨ix, sorts⟩ := exists_sorted optional periods tzDb sortable
    exact ⟨_, ix, count ▸ sorts, rfl⟩
  · rintro outcome ⟨result, sorts, rfl⟩
    rw [count] at sorts
    obtain ⟨ix, rfl, inside, perm, ordered⟩ := sorted_pick optional periods tzDb sortable sorts
    obtain ⟨bulkPoints, written⟩ := mapM_returns fun point member => rows point (perm.mem_iff.mp member)
    obtain ⟨bulkPeriods, changedWritten⟩ := mapM_returns changed
    refine ⟨pick points ix, bulkPoints, bulkPeriods, ?_, perm, ordered, written, changedWritten⟩
    rw [ok_bind, bulkWrite_ofLists optional periods tzDb inside, written, ok_bind, changedWritten]
    rfl

theorem writeValues_needs
    (possible : ∃ outcome : Except SystemException (BulkWrite N), WriteValues (ofLists optional points periods tzDb) outcome)
    (returns : ∀ outcome : Except SystemException (BulkWrite N),
      WriteValues (ofLists optional points periods tzDb) outcome → ∃ bulk, outcome = .ok bulk) :
    Sortable points ∧ (∀ point ∈ points, ∃ row : BulkPoint N, point.row optional = .ok row) ∧
      ∀ period ∈ periods, ∃ row, DeletePeriod.row tzDb period = .ok row := by
  have count : (ofLists optional points periods tzDb).numberOfPoints = points.length := List.length_map _
  have sortable : Sortable points := by
    by_contra unsortable
    simp only [Sortable, not_or, not_le, not_forall, not_not] at unsortable
    obtain ⟨several, point, member, timeNull⟩ := unsortable
    obtain ⟨i, found⟩ := List.mem_iff_getElem?.mp member
    have inside : i ∈ List.range points.length := List.mem_range.mpr (List.getElem?_eq_some_iff.mp found).1
    obtain ⟨exception, raised⟩ :=
      compare_raises optional periods tzDb found timeNull
    obtain ⟨bulk, returned⟩ := returns (.error sortFailure)
      ⟨.error sortFailure, count ▸ .failed (by simpa using several) inside inside raised, rfl⟩
    cases returned
  obtain ⟨outcome, result, sorts, same⟩ := possible
  obtain ⟨bulk, rfl⟩ := returns outcome ⟨result, sorts, same⟩
  rw [count] at sorts
  obtain ⟨ix, rfl, inside, perm, _⟩ := sorted_pick optional periods tzDb sortable sorts
  rw [ok_bind, bulkWrite_ofLists optional periods tzDb inside] at same
  obtain ⟨bulkPoints, written, rest⟩ := bind_eq_ok_iff.mp same.symm
  obtain ⟨bulkPeriods, changedWritten, _⟩ := bind_eq_ok_iff.mp rest
  exact ⟨sortable, fun point member => mapM_raises written point (perm.mem_iff.mpr member),
    mapM_raises changedWritten⟩

end Bulk

end TsWriter

end ServiceHost
