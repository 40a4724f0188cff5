import Mathlib.Data.List.Nodup
import ServiceHost.DataExchange.IccpLogicCore

/-!
What an `IccpLogic` knows, whatever has happened to it: its points only become more, and
after a match the reference of a point is the one that the map gives it.
-/

namespace ServiceHost.DataExchange.Iccp

namespace IccpLogic

variable {logic : IccpLogic} {domainName dataSetName : String} {variableId : VariableId}

def Knows (logic : IccpLogic) (variableId : VariableId) : Prop :=
  ∃ point ∈ logic.domains, point.variableId = variableId

def KnowsDomain (logic : IccpLogic) (domainName : String) : Prop :=
  ∃ variableId, logic.Knows variableId ∧ variableId.domain = domainName

def KnowsDataSet (logic : IccpLogic) (domainName dataSetName : String) : Prop :=
  ∃ variableId, logic.Knows variableId ∧ variableId.domain = domainName ∧ variableId.dataset = dataSetName

theorem containsPoint_iff : logic.containsPoint variableId = true ↔ logic.Knows variableId := by
  simp [containsPoint, Knows]

theorem containsDomain_iff : logic.containsDomain domainName = true ↔ logic.KnowsDomain domainName := by
  simp [containsDomain, KnowsDomain, Knows]

theorem containsDataSet_iff :
    logic.containsDataSet domainName dataSetName = true ↔ logic.KnowsDataSet domainName dataSetName := by
  simp [containsDataSet, KnowsDataSet, Knows]

theorem KnowsDataSet.domain (knows : logic.KnowsDataSet domainName dataSetName) : logic.KnowsDomain domainName := by
  obtain ⟨variableId, known, inDomain, _⟩ := knows
  exact ⟨variableId, known, inDomain⟩

section Points

theorem knows_addDataSetPoint (name : Option String) (dataSetName variableName : String) :
    (logic.addDataSetPoint name dataSetName variableName).Knows variableId ↔
      logic.Knows variableId ∨ variableId = ⟨name.getD "", dataSetName, variableName⟩ := by
  unfold addDataSetPoint
  dsimp only
  generalize (⟨name.getD "", dataSetName, variableName⟩ : VariableId) = added
  split
  · rename_i contained
    have known := containsPoint_iff.mp contained
    constructor
    · rintro ⟨point, member, own⟩
      obtain ⟨old, oldMember, replaced⟩ := List.mem_map.mp member
      split at replaced
      · subst replaced
        exact .inr own.symm
      · subst replaced
        exact .inl ⟨old, oldMember, own⟩
    · have kept : ∀ point ∈ logic.domains, ∃ other ∈ logic.domains.map fun point =>
          if point.variableId = added then ⟨added, "", ""⟩ else point, other.variableId = point.variableId := by
        intro point member
        refine ⟨_, List.mem_map_of_mem member, ?_⟩
        split
        · rename_i own
          exact own.symm
        · rfl
      rintro (⟨point, member, own⟩ | new)
      · obtain ⟨other, present, equal⟩ := kept point member
        exact ⟨other, present, equal.trans own⟩
      · obtain ⟨point, member, own⟩ := known
        obtain ⟨other, present, equal⟩ := kept point member
        exact ⟨other, present, equal.trans (own.trans new.symm)⟩
  · simp [Knows, or_and_right, exists_or, eq_comm]

theorem addDataSetPoint_timeseriesMaps (name : Option String) (dataSetName variableName : String) :
    (logic.addDataSetPoint name dataSetName variableName).timeseriesMaps = logic.timeseriesMaps := by
  unfold addDataSetPoint
  dsimp only
  split <;> rfl

theorem knows_foldl_addPoint (points : List (Option String × String × String)) (logic : IccpLogic) :
    (points.foldl addPoint logic).Knows variableId ↔
      logic.Knows variableId ∨ ∃ point ∈ points, variableId = ⟨point.1.getD "", point.2.1, point.2.2⟩ := by
  induction points generalizing logic with
  | nil => simp
  | cons point rest ih =>
      rw [List.foldl_cons, ih, addPoint, knows_addDataSetPoint]
      simp only [List.mem_cons, exists_eq_or_imp, or_assoc]

theorem foldl_addPoint_timeseriesMaps (points : List (Option String × String × String)) (logic : IccpLogic) :
    (points.foldl addPoint logic).timeseriesMaps = logic.timeseriesMaps := by
  induction points generalizing logic with
  | nil => rfl
  | cons point rest ih => exact (ih _).trans (addDataSetPoint_timeseriesMaps ..)

end Points

section Match

@[simp] theorem applyMap_variableId (point : PointValueMapping) (entry : TimeserieMap) :
    (applyMap point entry).variableId = point.variableId := by
  unfold applyMap
  split <;> rfl

@[simp] theorem foldl_applyMap_variableId (entries : List TimeserieMap) (point : PointValueMapping) :
    (entries.foldl applyMap point).variableId = point.variableId := by
  induction entries generalizing point with
  | nil => rfl
  | cons entry rest ih => exact (ih _).trans (applyMap_variableId point entry)

theorem matchMap_domains (matched : Nat × IccpLogic) (entry : TimeserieMap) :
    (matchMap matched entry).2.domains = matched.2.domains.map fun point => applyMap point entry := by
  unfold matchMap
  split
  · rfl
  · rename_i unknown
    have absent := mt containsPoint_iff.mpr unknown
    have same : matched.2.domains.map (fun point => applyMap point entry) = matched.2.domains.map id := by
      refine List.map_congr_left fun point member => ?_
      have other : ¬ entry.variableId = point.variableId := fun own => absent ⟨point, member, own.symm⟩
      simp [applyMap, other]
    rw [same, List.map_id]

theorem matchMap_timeseriesMaps (matched : Nat × IccpLogic) (entry : TimeserieMap) :
    (matchMap matched entry).2.timeseriesMaps = matched.2.timeseriesMaps := by
  unfold matchMap
  split <;> rfl

theorem foldl_matchMap (entries : List TimeserieMap) (matched : Nat × IccpLogic) :
    (entries.foldl matchMap matched).2.domains = matched.2.domains.map (fun point => entries.foldl applyMap point) ∧
      (entries.foldl matchMap matched).2.timeseriesMaps = matched.2.timeseriesMaps := by
  induction entries generalizing matched with
  | nil => simp
  | cons entry rest ih =>
      obtain ⟨domains, maps⟩ := ih (matchMap matched entry)
      refine ⟨?_, maps.trans (matchMap_timeseriesMaps matched entry)⟩
      rw [List.foldl_cons, domains, matchMap_domains, List.map_map]
      rfl

theorem matchTimeseriesMapping_domains (logic : IccpLogic) :
    logic.matchTimeseriesMapping.2.domains =
      logic.domains.map fun point => logic.timeseriesMaps.foldl applyMap point := by
  unfold matchTimeseriesMapping
  split
  · rename_i empty
    rcases empty with empty | empty
    · rw [List.eq_nil_of_length_eq_zero empty]
      simp
    · rw [List.eq_nil_of_length_eq_zero empty]
      simp
  · exact (foldl_matchMap _ _).1

theorem matchTimeseriesMapping_timeseriesMaps (logic : IccpLogic) :
    logic.matchTimeseriesMapping.2.timeseriesMaps = logic.timeseriesMaps := by
  unfold matchTimeseriesMapping
  split
  · rfl
  · exact (foldl_matchMap _ _).2

theorem knows_matchTimeseriesMapping : logic.matchTimeseriesMapping.2.Knows variableId ↔ logic.Knows variableId := by
  simp [Knows, matchTimeseriesMapping_domains]

theorem foldl_matchMap_count (entries : List TimeserieMap) (matched : Nat × IccpLogic) :
    matched.1 ≤ (entries.foldl matchMap matched).1 ∧
      ((entries.foldl matchMap matched).1 = matched.1 →
        ∀ entry ∈ entries, ¬ matched.2.Knows entry.variableId) := by
  induction entries generalizing matched with
  | nil => simp
  | cons entry rest ih =>
      obtain ⟨more, unmatched⟩ := ih (matchMap matched entry)
      rw [List.foldl_cons]
      by_cases known : matched.2.containsPoint entry.variableId = true
      · have counted : (matchMap matched entry).1 = matched.1 + 1 := by simp [matchMap, known]
        exact ⟨by omega, fun same => by omega⟩
      · have skipped : matchMap matched entry = matched := by simp [matchMap, known]
        rw [skipped] at more unmatched ⊢
        refine ⟨more, fun same other member => ?_⟩
        rcases List.mem_cons.mp member with first | member
        · subst first
          exact mt containsPoint_iff.mpr known
        · exact unmatched same other member

theorem matchTimeseriesMapping_zero (zero : logic.matchTimeseriesMapping.1 = 0) :
    ∀ entry ∈ logic.timeseriesMaps, ¬ logic.Knows entry.variableId := by
  unfold matchTimeseriesMapping at zero
  split at zero
  · rename_i empty
    rcases empty with empty | empty
    · simp [List.eq_nil_of_length_eq_zero empty]
    · simp [Knows, List.eq_nil_of_length_eq_zero empty]
  · exact (foldl_matchMap_count _ _).2 zero

def referenceFrom (first : String) (entries : List TimeserieMap) (variableId : VariableId) : String :=
  entries.foldl
    (fun reference entry => if entry.variableId = variableId then entry.externalReference else reference) first

def reference (entries : List TimeserieMap) (variableId : VariableId) : String := referenceFrom "" entries variableId

theorem foldl_applyMap_reference (entries : List TimeserieMap) (point : PointValueMapping) :
    (entries.foldl applyMap point).externalReference =
      referenceFrom point.externalReference entries point.variableId := by
  induction entries generalizing point with
  | nil => rfl
  | cons entry rest ih =>
      rw [List.foldl_cons, ih, applyMap_variableId]
      unfold referenceFrom
      rw [List.foldl_cons]
      by_cases own : entry.variableId = point.variableId <;> simp [applyMap, own]

theorem referenceFrom_mapped {first second : String} {entries : List TimeserieMap}
    (mapped : ∃ entry ∈ entries, entry.variableId = variableId) :
    referenceFrom first entries variableId = referenceFrom second entries variableId := by
  induction entries generalizing first second with
  | nil => simp at mapped
  | cons entry rest ih =>
      unfold referenceFrom
      rw [List.foldl_cons, List.foldl_cons]
      by_cases own : entry.variableId = variableId
      · simp [own]
      · simp only [own, ↓reduceIte]
        obtain ⟨other, member, same⟩ := mapped
        rcases List.mem_cons.mp member with equal | member
        · rw [equal] at same
          exact absurd same own
        · exact ih ⟨other, member, same⟩

theorem reference_unmapped {first : String} {entries : List TimeserieMap}
    (unmapped : ¬ ∃ entry ∈ entries, entry.variableId = variableId) :
    referenceFrom first entries variableId = first := by
  induction entries with
  | nil => rfl
  | cons entry rest ih =>
      have other : ¬ entry.variableId = variableId := fun own => unmapped ⟨entry, List.mem_cons_self, own⟩
      unfold referenceFrom
      rw [List.foldl_cons, if_neg other]
      exact ih fun ⟨found, member, own⟩ => unmapped ⟨found, List.mem_cons_of_mem _ member, own⟩

def Settled (logic : IccpLogic) : Prop :=
  ∀ point ∈ logic.domains, (¬ ∃ entry ∈ logic.timeseriesMaps, entry.variableId = point.variableId) →
    point.externalReference = ""

theorem Settled.references (settled : logic.Settled) : ∀ point ∈ logic.matchTimeseriesMapping.2.domains,
    point.externalReference = reference logic.timeseriesMaps point.variableId := by
  intro point member
  rw [matchTimeseriesMapping_domains] at member
  obtain ⟨old, oldMember, same⟩ := List.mem_map.mp member
  subst same
  rw [foldl_applyMap_reference, foldl_applyMap_variableId]
  by_cases mapped : ∃ entry ∈ logic.timeseriesMaps, entry.variableId = old.variableId
  · exact referenceFrom_mapped mapped
  · rw [settled old oldMember mapped]
    rfl

theorem Settled.matchTimeseriesMapping (settled : logic.Settled) : logic.matchTimeseriesMapping.2.Settled := by
  intro point member unmapped
  rw [settled.references point member]
  rw [matchTimeseriesMapping_timeseriesMaps] at unmapped
  exact reference_unmapped unmapped

theorem Settled.addDataSetPoint (settled : logic.Settled) (name : Option String) (dataSetName variableName : String) :
    (logic.addDataSetPoint name dataSetName variableName).Settled := by
  intro point member unmapped
  rw [addDataSetPoint_timeseriesMaps] at unmapped
  unfold IccpLogic.addDataSetPoint at member
  dsimp only at member
  split at member
  · obtain ⟨old, oldMember, replaced⟩ := List.mem_map.mp member
    split at replaced
    · subst replaced
      rfl
    · subst replaced
      exact settled old oldMember unmapped
  · rcases List.mem_append.mp member with member | member
    · exact settled point member unmapped
    · rw [List.mem_singleton.mp member]

theorem setTimeseriesMaps_settled (timeseriesMaps : List TimeserieMap) (logic : IccpLogic) :
    (logic.setTimeseriesMaps timeseriesMaps).Settled := by
  refine Settled.matchTimeseriesMapping fun point member _ => ?_
  simp only [clearExternalReference, List.mem_map] at member
  obtain ⟨_, _, same⟩ := member
  rw [← same]

end Match

end IccpLogic

end ServiceHost.DataExchange.Iccp
