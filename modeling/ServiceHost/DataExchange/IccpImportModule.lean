import Mathlib.Data.List.Perm.Basic
import Mathlib.Tactic.Tauto
import ServiceHost.Library.Runs
import ServiceHost.DataExchange.IccpLogic

/-!
Which data sets a connection subscribes to. What the logic remembers of earlier connections
counts as predefined on the server, so that a dynamic data set is not made again after the
server has lost it.
-/

namespace ServiceHost.DataExchange.Iccp

open Library IccpLogic

section Names

variable {logic : IccpLogic} {domainName dataSetName : String}

theorem nodup_eraseDups (names : List String) : names.eraseDups.Nodup := by
  induction length : names.length using Nat.strongRecOn generalizing names with
  | ind size ih =>
      cases names with
      | nil => simp
      | cons name rest =>
          rw [List.eraseDups_cons, List.nodup_cons]
          have shorter := List.length_filter_le (fun other => !other == name) rest
          refine ⟨by simp, ih _ ?_ _ rfl⟩
          simp only [List.length_cons] at length
          omega

theorem mem_dataSetNames : dataSetName ∈ logic.dataSetNames domainName ↔ logic.KnowsDataSet domainName dataSetName := by
  simp only [dataSetNames, List.mem_eraseDups, List.mem_map, List.mem_filter, decide_eq_true_eq]
  constructor
  · rintro ⟨point, ⟨member, inDomain⟩, inDataSet⟩
    exact ⟨point.variableId, ⟨point, member, rfl⟩, inDomain, inDataSet⟩
  · rintro ⟨variableId, ⟨point, member, own⟩, inDomain, inDataSet⟩
    subst own
    exact ⟨point, ⟨member, inDomain⟩, inDataSet⟩

def Mapped (timeseriesMaps : List TimeserieMap) (domainName dataSetName : String) : Prop :=
  ∃ entry ∈ timeseriesMaps, entry.variableId.domain = domainName ∧ entry.variableId.dataset = dataSetName

structure IsDynamic (logic : IccpLogic) (domainName dataSetName : String) : Prop where
  domain : logic.KnowsDomain domainName
  mapped : Mapped logic.timeseriesMaps domainName dataSetName
  unknown : ¬ logic.KnowsDataSet domainName dataSetName

theorem mem_foldl_dynamic (entries : List TimeserieMap) (ret : List String) :
    dataSetName ∈ entries.foldl
      (fun ret timeseriesMap =>
        if timeseriesMap.variableId.domain ≠ domainName then ret
        else if logic.containsDataSet domainName timeseriesMap.variableId.dataset then ret
        else if timeseriesMap.variableId.dataset ∈ ret then ret
        else ret ++ [timeseriesMap.variableId.dataset]) ret ↔
      dataSetName ∈ ret ∨ Mapped entries domainName dataSetName ∧ ¬ logic.KnowsDataSet domainName dataSetName := by
  induction entries generalizing ret with
  | nil => simp [Mapped]
  | cons entry rest ih =>
      rw [List.foldl_cons, ih]
      have here : Mapped (entry :: rest) domainName dataSetName ↔
          (entry.variableId.domain = domainName ∧ entry.variableId.dataset = dataSetName) ∨
            Mapped rest domainName dataSetName := by
        simp [Mapped]
      rw [here]
      by_cases inDomain : entry.variableId.domain = domainName
      · by_cases known : logic.KnowsDataSet domainName entry.variableId.dataset
        · have skipped := containsDataSet_iff.mpr known
          by_cases same : entry.variableId.dataset = dataSetName
          · subst same
            simp [inDomain, skipped, known]
          · simp [inDomain, skipped, same]
        · have absent := mt containsDataSet_iff.mp known
          by_cases same : entry.variableId.dataset = dataSetName
          · subst same
            by_cases listed : entry.variableId.dataset ∈ ret <;> simp [inDomain, absent, known, listed]
          · by_cases listed : entry.variableId.dataset ∈ ret
            · simp [inDomain, absent, same, listed]
            · have other : dataSetName ≠ entry.variableId.dataset := Ne.symm same
              simp [inDomain, absent, same, listed, other]
      · simp [inDomain]

theorem mem_getDynamicDatasets :
    dataSetName ∈ logic.getDynamicDatasets domainName ↔ IsDynamic logic domainName dataSetName := by
  unfold getDynamicDatasets
  split
  · rename_i contained
    rw [mem_foldl_dynamic]
    constructor
    · rintro (none | ⟨mapped, unknown⟩)
      · cases none
      · exact ⟨containsDomain_iff.mp contained, mapped, unknown⟩
    · intro dynamic
      exact .inr ⟨dynamic.mapped, dynamic.unknown⟩
  · rename_i unknown
    constructor
    · intro none
      cases none
    · intro dynamic
      exact absurd (containsDomain_iff.mpr dynamic.domain) unknown

def HasReference (logic : IccpLogic) (domainName dataSetName : String) : Prop :=
  ∃ variableId, logic.Knows variableId ∧ variableId.domain = domainName ∧ variableId.dataset = dataSetName ∧
    reference logic.timeseriesMaps variableId ≠ ""

theorem mem_getDataSetsWithExternalReference (settled : logic.Settled) :
    dataSetName ∈ logic.matchTimeseriesMapping.2.getDataSetsWithExternalReference domainName ↔
      HasReference logic domainName dataSetName := by
  have references := settled.references
  simp only [getDataSetsWithExternalReference, List.mem_filter, mem_dataSetNames, mem_getDynamicDatasets,
    List.any_eq_true, decide_eq_true_eq, Bool.decide_and, Bool.and_eq_true]
  constructor
  · rintro ⟨_, _, point, member, inDomain, inDataSet, referred⟩
    rw [references point member] at referred
    exact ⟨point.variableId, knows_matchTimeseriesMapping.mp ⟨point, member, rfl⟩, inDomain, inDataSet, referred⟩
  · rintro ⟨variableId, known, inDomain, inDataSet, referred⟩
    have matched := knows_matchTimeseriesMapping.mpr known
    have knownSet : logic.matchTimeseriesMapping.2.KnowsDataSet domainName dataSetName :=
      ⟨variableId, matched, inDomain, inDataSet⟩
    obtain ⟨point, member, own⟩ := matched
    subst own
    refine ⟨knownSet, fun dynamic => dynamic.unknown knownSet, point, member, inDomain, inDataSet, ?_⟩
    rw [references point member]
    exact referred

theorem nodup_getDataSetsWithExternalReference (logic : IccpLogic) (domainName : String) :
    (logic.getDataSetsWithExternalReference domainName).Nodup :=
  (nodup_eraseDups _).filter _

end Names

section Points

structure Adds (logic later : IccpLogic) (added : List VariableId) : Prop where
  maps : later.timeseriesMaps = logic.timeseriesMaps
  knows : ∀ variableId, later.Knows variableId ↔ logic.Knows variableId ∨ variableId ∈ added

namespace Adds

variable {logic later last : IccpLogic} {added more : List VariableId} {domainName dataSetName : String}

theorem refl (logic : IccpLogic) : Adds logic logic [] := ⟨rfl, by simp⟩

theorem trans (first : Adds logic later added) (second : Adds later last more) : Adds logic last (added ++ more) := by
  refine ⟨second.maps.trans first.maps, fun variableId => ?_⟩
  rw [second.knows, first.knows, List.mem_append, or_assoc]

theorem knowsDomain (adds : Adds logic later added) :
    later.KnowsDomain domainName ↔ logic.KnowsDomain domainName ∨ ∃ variableId ∈ added, variableId.domain = domainName := by
  simp only [KnowsDomain, adds.knows, or_and_right, exists_or]

theorem knowsDataSet (adds : Adds logic later added) :
    later.KnowsDataSet domainName dataSetName ↔ logic.KnowsDataSet domainName dataSetName ∨
      ∃ variableId ∈ added, variableId.domain = domainName ∧ variableId.dataset = dataSetName := by
  simp only [KnowsDataSet, adds.knows, or_and_right, exists_or]

theorem isDynamic (adds : Adds logic later added) (others : ∀ variableId ∈ added, variableId.domain ≠ domainName) :
    IsDynamic later domainName dataSetName ↔ IsDynamic logic domainName dataSetName := by
  have domain : later.KnowsDomain domainName ↔ logic.KnowsDomain domainName := by
    rw [adds.knowsDomain]
    refine or_iff_left ?_
    rintro ⟨variableId, member, inDomain⟩
    exact others variableId member inDomain
  have dataSet : later.KnowsDataSet domainName dataSetName ↔ logic.KnowsDataSet domainName dataSetName := by
    rw [adds.knowsDataSet]
    refine or_iff_left ?_
    rintro ⟨variableId, member, inDomain, _⟩
    exact others variableId member inDomain
  constructor
  · intro dynamic
    exact ⟨domain.mp dynamic.domain, adds.maps ▸ dynamic.mapped, mt dataSet.mpr dynamic.unknown⟩
  · intro dynamic
    exact ⟨domain.mpr dynamic.domain, adds.maps ▸ dynamic.mapped, mt dataSet.mp dynamic.unknown⟩

end Adds

def pointId (point : Option String × String × String) : VariableId := ⟨point.1.getD "", point.2.1, point.2.2⟩

theorem foldl_addPoint_adds (points : List (Option String × String × String)) (logic : IccpLogic) :
    Adds logic (points.foldl addPoint logic) (points.map pointId) := by
  refine ⟨foldl_addPoint_timeseriesMaps points logic, fun variableId => ?_⟩
  rw [knows_foldl_addPoint]
  simp [pointId, eq_comm]

theorem match_adds (logic : IccpLogic) : Adds logic logic.matchTimeseriesMapping.2 [] :=
  ⟨matchTimeseriesMapping_timeseriesMaps logic, fun _ => by simp [knows_matchTimeseriesMapping]⟩

theorem foldl_addPoint_settled (points : List (Option String × String × String)) {logic : IccpLogic}
    (settled : logic.Settled) : (points.foldl addPoint logic).Settled := by
  induction points generalizing logic with
  | nil => exact settled
  | cons point rest ih => exact ih (settled.addDataSetPoint point.1 point.2.1 point.2.2)

def offers (parameters : IccpParameters) (server : IccpServer) : List VariableId :=
  (domainNames parameters server).flatMap fun domainName => (domainPoints parameters server domainName).map pointId

theorem readServer_adds (parameters : IccpParameters) (server : IccpServer) (logic : IccpLogic) :
    Adds logic (readServer parameters server logic) (offers parameters server) := by
  unfold readServer offers
  induction domainNames parameters server generalizing logic with
  | nil => exact Adds.refl logic
  | cons domainName rest ih => exact (foldl_addPoint_adds _ logic).trans (ih _)

theorem readServer_settled (parameters : IccpParameters) (server : IccpServer) {logic : IccpLogic}
    (settled : logic.Settled) : (readServer parameters server logic).Settled := by
  unfold readServer
  induction domainNames parameters server generalizing logic with
  | nil => exact settled
  | cons domainName rest ih => exact ih (foldl_addPoint_settled _ settled)

end Points

section Created

variable {server : IccpServer} {domainName : String} {names : List String}

def createdIds (server : IccpServer) (domainName dataSetName : String) (variableNames : List String) : List VariableId :=
  if server.createDataSet domainName dataSetName variableNames then
    (server.createdPoints domainName dataSetName variableNames).map fun point =>
      ⟨point.domainName.getD "", dataSetName, point.variableName⟩
  else []

def createCalls (server : IccpServer) (domainName dataSetName : String) (variableNames : List String) : List IccpCall :=
  if server.createDataSet domainName dataSetName variableNames then
    [.createDataSet domainName dataSetName variableNames, .createTransferSet domainName dataSetName]
  else [.createDataSet domainName dataSetName variableNames]

def OwnDomains (server : IccpServer) (names : List String) : Prop :=
  ∀ domainName dataSetName variableNames, ∀ point ∈ server.createdPoints domainName dataSetName variableNames,
    point.domainName.getD "" = domainName ∨ point.domainName.getD "" ∉ names

theorem OwnDomains.createdIds (own : OwnDomains server names) {dataSetName : String} {variableNames : List String} :
    ∀ variableId ∈ createdIds server domainName dataSetName variableNames,
      variableId.domain = domainName ∨ variableId.domain ∉ names := by
  intro variableId member
  unfold Iccp.createdIds at member
  split at member
  · obtain ⟨point, present, same⟩ := List.mem_map.mp member
    subst same
    exact own domainName dataSetName variableNames point present
  · cases member

theorem createDynamicDataset_run {state : IccpLogic × List IccpCall} {dataSetName : String}
    {variableNames : List String} (names : state.1.getDynamicDatasetVariables domainName dataSetName = variableNames) :
    Adds state.1 (createDynamicDataset server domainName state dataSetName).1
        (createdIds server domainName dataSetName variableNames) ∧
      (createDynamicDataset server domainName state dataSetName).2 =
        state.2 ++ createCalls server domainName dataSetName variableNames := by
  unfold createDynamicDataset createdIds createCalls
  rw [names]
  by_cases creates : server.createDataSet domainName dataSetName variableNames = true
  · rw [if_pos creates, if_pos creates, if_pos creates]
    have adds := (foldl_addPoint_adds ((server.createdPoints domainName dataSetName variableNames).map fun point =>
      (point.domainName, dataSetName, point.variableName)) state.1).trans (match_adds _)
    rw [List.append_nil, List.map_map] at adds
    exact ⟨adds, rfl⟩
  · rw [if_neg creates, if_neg creates, if_neg creates]
    exact ⟨Adds.refl state.1, rfl⟩

theorem createDynamicDataset_settled {state : IccpLogic × List IccpCall} (settled : state.1.Settled)
    (dataSetName : String) : (createDynamicDataset server domainName state dataSetName).1.Settled := by
  unfold createDynamicDataset
  dsimp only
  split
  · exact (foldl_addPoint_settled _ settled).matchTimeseriesMapping
  · exact settled

theorem foldl_createDynamicDataset {dataSets : List String} {state : IccpLogic × List IccpCall}
    (known : dataSets ≠ [] → state.1.KnowsDomain domainName) :
    Adds state.1 (dataSets.foldl (createDynamicDataset server domainName) state).1
        (dataSets.flatMap fun dataSetName => createdIds server domainName dataSetName
          (datasetVariables state.1.timeseriesMaps domainName dataSetName)) ∧
      (dataSets.foldl (createDynamicDataset server domainName) state).2 =
        state.2 ++ dataSets.flatMap fun dataSetName => createCalls server domainName dataSetName
          (datasetVariables state.1.timeseriesMaps domainName dataSetName) := by
  induction dataSets generalizing state with
  | nil => exact ⟨Adds.refl state.1, by simp⟩
  | cons dataSetName rest ih =>
      have contains := containsDomain_iff.mpr (known (List.cons_ne_nil _ _))
      have names : state.1.getDynamicDatasetVariables domainName dataSetName =
          datasetVariables state.1.timeseriesMaps domainName dataSetName := by
        simp [getDynamicDatasetVariables, contains]
      obtain ⟨adds, calls⟩ := @createDynamicDataset_run server domainName state dataSetName _ names
      have later := @ih (createDynamicDataset server domainName state dataSetName) fun _ =>
        adds.knowsDomain.mpr (.inl (known (List.cons_ne_nil _ _)))
      rw [adds.maps, calls] at later
      refine ⟨adds.trans later.1, ?_⟩
      rw [List.foldl_cons, later.2, List.flatMap_cons, List.append_assoc]

theorem createDynamicDatasets_run (server : IccpServer) (state : IccpLogic × List IccpCall) (domainName : String) :
    Adds state.1 (createDynamicDatasets server state domainName).1
        ((state.1.getDynamicDatasets domainName).flatMap fun dataSetName => createdIds server domainName dataSetName
          (datasetVariables state.1.timeseriesMaps domainName dataSetName)) ∧
      (createDynamicDatasets server state domainName).2 =
        state.2 ++ (state.1.getDynamicDatasets domainName).flatMap fun dataSetName =>
          createCalls server domainName dataSetName
            (datasetVariables state.1.timeseriesMaps domainName dataSetName) := by
  refine foldl_createDynamicDataset fun some => ?_
  obtain ⟨dataSetName, member⟩ := List.exists_mem_of_ne_nil _ some
  exact (mem_getDynamicDatasets.mp member).domain

theorem initializeModule_settled (parameters : IccpParameters) (server : IccpServer) {logic : IccpLogic}
    (settled : logic.Settled) : (initializeModule parameters server logic).1.Settled := by
  have matched := (readServer_settled parameters server settled).matchTimeseriesMapping
  have each {names : List String} {state : IccpLogic × List IccpCall} (settled : state.1.Settled) :
      (names.foldl (createDynamicDatasets server) state).1.Settled := by
    induction names generalizing state with
    | nil => exact settled
    | cons domainName rest ih =>
        refine ih ?_
        unfold createDynamicDatasets
        induction state.1.getDynamicDatasets domainName generalizing state with
        | nil => exact settled
        | cons dataSetName others inner => exact inner (createDynamicDataset_settled settled dataSetName)
  unfold initializeModule
  dsimp only
  split
  · exact each matched
  · exact matched

end Created

section TwoLogics

variable {server : IccpServer} {names : List String} {first second : IccpLogic} {domainName dataSetName : String}

inductive AlikeIn (first second : IccpLogic) (domainName : String) : Prop
  | known (domain : first.KnowsDomain domainName) (domainToo : second.KnowsDomain domainName)
      (dataSets : ∀ dataSetName, Mapped first.timeseriesMaps domainName dataSetName →
        (first.KnowsDataSet domainName dataSetName ↔ second.KnowsDataSet domainName dataSetName))
  | idle (none : ∀ dataSetName, ¬ IsDynamic first domainName dataSetName)
      (noneToo : ∀ dataSetName, ¬ IsDynamic second domainName dataSetName)

structure Alike (names : List String) (first second : IccpLogic) : Prop where
  maps : first.timeseriesMaps = second.timeseriesMaps
  domains : ∀ domainName ∈ names, AlikeIn first second domainName

theorem AlikeIn.getDynamicDatasets (alike : AlikeIn first second domainName)
    (maps : first.timeseriesMaps = second.timeseriesMaps) :
    first.getDynamicDatasets domainName = second.getDynamicDatasets domainName := by
  cases alike with
  | idle none noneToo =>
      have empty {logic : IccpLogic} (none : ∀ dataSetName, ¬ IsDynamic logic domainName dataSetName) :
          logic.getDynamicDatasets domainName = [] :=
        List.eq_nil_iff_forall_not_mem.mpr fun dataSetName member =>
          none dataSetName (mem_getDynamicDatasets.mp member)
      rw [empty none, empty noneToo]
  | known domain domainToo dataSets =>
      unfold IccpLogic.getDynamicDatasets
      rw [if_pos (containsDomain_iff.mpr domain), if_pos (containsDomain_iff.mpr domainToo), ← maps]
      refine List.foldl_ext _ _ _ fun ret entry member => ?_
      by_cases inDomain : entry.variableId.domain = domainName
      · have same := dataSets entry.variableId.dataset ⟨entry, member, inDomain, rfl⟩
        rw [← containsDataSet_iff, ← containsDataSet_iff] at same
        rw [Bool.eq_iff_iff.mpr same]
      · simp [inDomain]

theorem AlikeIn.known_adds {firstLater secondLater : IccpLogic} {added : List VariableId}
    (domain : first.KnowsDomain domainName) (domainToo : second.KnowsDomain domainName)
    (dataSets : ∀ dataSetName, Mapped first.timeseriesMaps domainName dataSetName →
      (first.KnowsDataSet domainName dataSetName ↔ second.KnowsDataSet domainName dataSetName))
    (firstAdds : Adds first firstLater added) (secondAdds : Adds second secondLater added) :
    AlikeIn firstLater secondLater domainName := by
  refine .known (firstAdds.knowsDomain.mpr (.inl domain)) (secondAdds.knowsDomain.mpr (.inl domainToo)) ?_
  intro dataSetName mapped
  rw [firstAdds.maps] at mapped
  rw [firstAdds.knowsDataSet, secondAdds.knowsDataSet, dataSets dataSetName mapped]

theorem Alike.adds {firstLater secondLater : IccpLogic} {added : List VariableId} (alike : Alike names first second)
    (firstAdds : Adds first firstLater added) (secondAdds : Adds second secondLater added)
    (own : ∀ variableId ∈ added, variableId.domain = domainName ∨ variableId.domain ∉ names)
    (known : added ≠ [] → ∃ dataSetName, IsDynamic first domainName dataSetName) : Alike names firstLater secondLater := by
  refine ⟨firstAdds.maps.trans (alike.maps.trans secondAdds.maps.symm), fun other present => ?_⟩
  have domains := alike.domains other present
  by_cases others : ∀ variableId ∈ added, variableId.domain ≠ other
  · cases domains with
    | idle none noneToo =>
        exact .idle (fun dataSetName => mt (firstAdds.isDynamic others).mp (none dataSetName))
          (fun dataSetName => mt (secondAdds.isDynamic others).mp (noneToo dataSetName))
    | known domain domainToo dataSets =>
        exact AlikeIn.known_adds domain domainToo dataSets firstAdds secondAdds
  · simp only [ne_eq, not_forall, not_not] at others
    obtain ⟨variableId, addedTo, inDomain⟩ := others
    have same : other = domainName := by
      rcases own variableId addedTo with here | away
      · exact inDomain.symm.trans here
      · rw [inDomain] at away
        exact absurd present away
    subst same
    obtain ⟨dataSetName, dynamic⟩ := known (List.ne_nil_of_mem addedTo)
    cases domains with
    | idle none _ => exact absurd dynamic (none dataSetName)
    | known domain domainToo dataSets =>
        exact AlikeIn.known_adds domain domainToo dataSets firstAdds secondAdds

theorem OwnDomains.dynamicIds (own : OwnDomains server names) (logic : IccpLogic) (domainName : String) :
    ∀ variableId ∈ (logic.getDynamicDatasets domainName).flatMap (fun dataSetName =>
      Iccp.createdIds server domainName dataSetName (datasetVariables logic.timeseriesMaps domainName dataSetName)),
      variableId.domain = domainName ∨ variableId.domain ∉ names := by
  intro variableId member
  obtain ⟨dataSetName, _, created⟩ := List.mem_flatMap.mp member
  exact own.createdIds variableId created

theorem Alike.turn {state other : IccpLogic × List IccpCall} (alike : Alike names state.1 other.1)
    (own : OwnDomains server names) (member : domainName ∈ names) : ∃ calls,
    (createDynamicDatasets server state domainName).2 = state.2 ++ calls ∧
      (createDynamicDatasets server other domainName).2 = other.2 ++ calls ∧
      Alike names (createDynamicDatasets server state domainName).1 (createDynamicDatasets server other domainName).1 := by
  obtain ⟨adds, calls⟩ := createDynamicDatasets_run server state domainName
  obtain ⟨addsToo, callsToo⟩ := createDynamicDatasets_run server other domainName
  have sets := (alike.domains domainName member).getDynamicDatasets alike.maps
  rw [← sets, ← alike.maps] at addsToo callsToo
  refine ⟨_, calls, callsToo, alike.adds adds addsToo (own.dynamicIds state.1 domainName) fun some => ?_⟩
  obtain ⟨variableId, added⟩ := List.exists_mem_of_ne_nil _ some
  obtain ⟨dataSetName, dynamic, _⟩ := List.mem_flatMap.mp added
  exact ⟨dataSetName, mem_getDynamicDatasets.mp dynamic⟩

theorem Alike.run {state other : IccpLogic × List IccpCall} (alike : Alike names state.1 other.1)
    (own : OwnDomains server names) {rest : List String} (subset : rest ⊆ names) : ∃ calls,
    (rest.foldl (createDynamicDatasets server) state).2 = state.2 ++ calls ∧
      (rest.foldl (createDynamicDatasets server) other).2 = other.2 ++ calls := by
  induction rest generalizing state other with
  | nil => exact ⟨[], by simp, by simp⟩
  | cons domainName rest ih =>
      obtain ⟨calls, made, madeToo, alike⟩ := alike.turn own (subset List.mem_cons_self)
      obtain ⟨more, others, othersToo⟩ := ih alike fun _ member => subset (List.mem_cons_of_mem _ member)
      refine ⟨calls ++ more, ?_, ?_⟩
      · rw [List.foldl_cons, others, made, List.append_assoc]
      · rw [List.foldl_cons, othersToo, madeToo, List.append_assoc]

theorem mem_createCalls {variableNames others : List String} {otherDomain otherSet : String} :
    .createDataSet domainName dataSetName variableNames ∈ createCalls server otherDomain otherSet others ↔
      domainName = otherDomain ∧ dataSetName = otherSet ∧ variableNames = others := by
  unfold createCalls
  split <;> simp

theorem isDynamic_turn (own : OwnDomains server names) (state : IccpLogic × List IccpCall) (turn : String)
    (member : domainName ∈ names) :
    (IsDynamic (createDynamicDatasets server state turn).1 domainName dataSetName →
        IsDynamic state.1 domainName dataSetName) ∧
      (turn ≠ domainName → IsDynamic state.1 domainName dataSetName →
        IsDynamic (createDynamicDatasets server state turn).1 domainName dataSetName) := by
  have adds := (createDynamicDatasets_run server state turn).1
  have ids := own.dynamicIds state.1 turn
  by_cases others : ∀ variableId ∈ (state.1.getDynamicDatasets turn).flatMap (fun dataSetName =>
      createdIds server turn dataSetName (datasetVariables state.1.timeseriesMaps turn dataSetName)),
      variableId.domain ≠ domainName
  · exact ⟨(adds.isDynamic others).mp, fun _ => (adds.isDynamic others).mpr⟩
  · simp only [ne_eq, not_forall, not_not] at others
    obtain ⟨variableId, added, inDomain⟩ := others
    have same : turn = domainName := by
      rcases ids variableId added with here | away
      · exact here.symm.trans inDomain
      · rw [inDomain] at away
        exact absurd member away
    subst same
    obtain ⟨other, dynamic, _⟩ := List.mem_flatMap.mp added
    refine ⟨fun later => ?_, fun different => absurd rfl different⟩
    refine ⟨(mem_getDynamicDatasets.mp dynamic).domain, adds.maps ▸ later.mapped, fun known => later.unknown ?_⟩
    exact adds.knowsDataSet.mpr (.inl known)

theorem mem_dynamicCalls (own : OwnDomains server names) {variableNames : List String} {rest : List String}
    (subset : rest ⊆ names) (state : IccpLogic × List IccpCall) :
    .createDataSet domainName dataSetName variableNames ∈ (rest.foldl (createDynamicDatasets server) state).2 ↔
      .createDataSet domainName dataSetName variableNames ∈ state.2 ∨
        domainName ∈ rest ∧ IsDynamic state.1 domainName dataSetName ∧
          variableNames = datasetVariables state.1.timeseriesMaps domainName dataSetName := by
  induction rest generalizing state with
  | nil => simp
  | cons turn rest ih =>
      obtain ⟨adds, calls⟩ := createDynamicDatasets_run server state turn
      rw [List.foldl_cons, ih fun _ member => subset (List.mem_cons_of_mem _ member), calls, adds.maps]
      simp only [List.mem_append, List.mem_flatMap, mem_getDynamicDatasets, mem_createCalls]
      constructor
      · rintro ((made | ⟨other, dynamic, same, equal, named⟩) | ⟨member, dynamic, named⟩)
        · exact .inl made
        · subst same equal
          exact .inr ⟨List.mem_cons_self, dynamic, named⟩
        · have present := subset (List.mem_cons_of_mem _ member)
          exact .inr ⟨List.mem_cons_of_mem _ member, (isDynamic_turn own state turn present).1 dynamic, named⟩
      · rintro (made | ⟨member, dynamic, named⟩)
        · exact .inl (.inl made)
        · by_cases same : turn = domainName
          · subst same
            exact .inl (.inr ⟨dataSetName, dynamic, rfl, rfl, named⟩)
          · have later := (List.mem_cons.mp member).resolve_left (Ne.symm same)
            exact .inr ⟨later, (isDynamic_turn own state turn (subset member)).2 same dynamic, named⟩

end TwoLogics

section Subscriptions

variable {parameters : IccpParameters} {server : IccpServer} {logic : IccpLogic} {domainName dataSetName : String}

def referenceCalls (parameters : IccpParameters) (server : IccpServer) (logic : IccpLogic) : List IccpCall :=
  (domainNames parameters server).flatMap fun domainName =>
    (logic.matchTimeseriesMapping.2.getDataSetsWithExternalReference domainName).map (.createTransferSet domainName)

theorem predefinedCalls_run (settled : logic.Settled) :
    predefinedCalls parameters server logic.matchTimeseriesMapping = referenceCalls parameters server logic := by
  unfold predefinedCalls
  split
  · rfl
  · rename_i none
    have unmatched := matchTimeseriesMapping_zero (by omega : logic.matchTimeseriesMapping.1 = 0)
    symm
    unfold referenceCalls
    rw [List.flatMap_eq_nil_iff]
    intro domainName _
    rw [List.map_eq_nil_iff, List.eq_nil_iff_forall_not_mem]
    intro dataSetName member
    obtain ⟨variableId, known, _, _, referred⟩ := (mem_getDataSetsWithExternalReference settled).mp member
    refine referred (reference_unmapped fun ⟨entry, inMap, own⟩ => unmatched entry inMap ?_)
    rw [own]
    exact known

theorem mem_referenceCalls (settled : logic.Settled) :
    .createTransferSet domainName dataSetName ∈ referenceCalls parameters server logic ↔
      domainName ∈ domainNames parameters server ∧ HasReference logic domainName dataSetName := by
  simp only [referenceCalls, List.mem_flatMap, List.mem_map, IccpCall.createTransferSet.injEq]
  constructor
  · rintro ⟨name, member, other, listed, same, equal⟩
    subst same equal
    exact ⟨member, (mem_getDataSetsWithExternalReference settled).mp listed⟩
  · rintro ⟨member, referred⟩
    exact ⟨domainName, member, dataSetName, (mem_getDataSetsWithExternalReference settled).mpr referred, rfl, rfl⟩

theorem mem_referenceCalls_createDataSet {variableNames : List String} :
    .createDataSet domainName dataSetName variableNames ∉ referenceCalls parameters server logic := by
  simp [referenceCalls]

theorem initializeModule_calls (parameters : IccpParameters) (server : IccpServer) (settled : logic.Settled) :
    (initializeModule parameters server logic).2 =
      (if parameters.useDynamicDatasets then
        (domainNames parameters server).foldl (createDynamicDatasets server)
          ((readServer parameters server logic).matchTimeseriesMapping.2,
            referenceCalls parameters server (readServer parameters server logic))
      else ((readServer parameters server logic).matchTimeseriesMapping.2,
        referenceCalls parameters server (readServer parameters server logic))).2 := by
  unfold initializeModule
  dsimp only
  rw [predefinedCalls_run (readServer_settled parameters server settled)]

def ShowsDomain (parameters : IccpParameters) (server : IccpServer) (domainName : String) : Prop :=
  ∃ variableId ∈ offers parameters server, variableId.domain = domainName

def ShowsDataSet (parameters : IccpParameters) (server : IccpServer) (domainName dataSetName : String) : Prop :=
  ∃ variableId ∈ offers parameters server, variableId.domain = domainName ∧ variableId.dataset = dataSetName

structure RemembersNothingElse (parameters : IccpParameters) (server : IccpServer) (logic : IccpLogic) : Prop where
  referred : ∀ domainName ∈ domainNames parameters server, ∀ variableId, logic.Knows variableId →
    variableId.domain = domainName → reference logic.timeseriesMaps variableId ≠ "" →
      ∃ shown ∈ offers parameters server, shown.domain = domainName ∧ shown.dataset = variableId.dataset ∧
        reference logic.timeseriesMaps shown ≠ ""
  lost : parameters.useDynamicDatasets = true → ∀ domainName ∈ domainNames parameters server, ∀ dataSetName,
    Mapped logic.timeseriesMaps domainName dataSetName → ShowsDomain parameters server domainName →
      logic.KnowsDataSet domainName dataSetName → ShowsDataSet parameters server domainName dataSetName
  gone : parameters.useDynamicDatasets = true → ∀ domainName ∈ domainNames parameters server, ∀ dataSetName,
    Mapped logic.timeseriesMaps domainName dataSetName → ¬ ShowsDomain parameters server domainName →
      logic.KnowsDomain domainName → logic.KnowsDataSet domainName dataSetName

theorem newLogic_timeseriesMaps (timeseriesMaps : List TimeserieMap) :
    (newLogic timeseriesMaps).timeseriesMaps = timeseriesMaps :=
  matchTimeseriesMapping_timeseriesMaps _

theorem newLogic_domains (timeseriesMaps : List TimeserieMap) : (newLogic timeseriesMaps).domains = [] := by
  simp [newLogic, setTimeseriesMaps, matchTimeseriesMapping_domains, clearExternalReference]

theorem newLogic_knows (timeseriesMaps : List TimeserieMap) (variableId : VariableId) :
    ¬ (newLogic timeseriesMaps).Knows variableId := by
  simp [Knows, newLogic_domains]

theorem readServer_new_knowsDomain (timeseriesMaps : List TimeserieMap) :
    (readServer parameters server (newLogic timeseriesMaps)).KnowsDomain domainName ↔
      ShowsDomain parameters server domainName := by
  rw [(readServer_adds parameters server _).knowsDomain]
  simp [KnowsDomain, newLogic_knows, ShowsDomain]

theorem readServer_new_knowsDataSet (timeseriesMaps : List TimeserieMap) :
    (readServer parameters server (newLogic timeseriesMaps)).KnowsDataSet domainName dataSetName ↔
      ShowsDataSet parameters server domainName dataSetName := by
  rw [(readServer_adds parameters server _).knowsDataSet]
  simp [KnowsDataSet, newLogic_knows, ShowsDataSet]

theorem ShowsDataSet.domain (shows : ShowsDataSet parameters server domainName dataSetName) :
    ShowsDomain parameters server domainName := by
  obtain ⟨variableId, shown, inDomain, _⟩ := shows
  exact ⟨variableId, shown, inDomain⟩

theorem isDynamic_same_iff (logic : IccpLogic) :
    (∀ dataSetName, IsDynamic (readServer parameters server logic) domainName dataSetName ↔
        IsDynamic (readServer parameters server (newLogic logic.timeseriesMaps)) domainName dataSetName) ↔
      (∀ dataSetName, Mapped logic.timeseriesMaps domainName dataSetName →
        (ShowsDomain parameters server domainName →
          logic.KnowsDataSet domainName dataSetName → ShowsDataSet parameters server domainName dataSetName) ∧
        (¬ ShowsDomain parameters server domainName →
          logic.KnowsDomain domainName → logic.KnowsDataSet domainName dataSetName)) := by
  have adds := readServer_adds parameters server logic
  have remembered (dataSetName : String) : IsDynamic (readServer parameters server logic) domainName dataSetName ↔
      (logic.KnowsDomain domainName ∨ ShowsDomain parameters server domainName) ∧
        Mapped logic.timeseriesMaps domainName dataSetName ∧
        ¬ (logic.KnowsDataSet domainName dataSetName ∨ ShowsDataSet parameters server domainName dataSetName) := by
    rw [ShowsDomain, ShowsDataSet, ← adds.knowsDomain, ← adds.knowsDataSet, ← adds.maps]
    exact ⟨fun dynamic => ⟨dynamic.domain, dynamic.mapped, dynamic.unknown⟩, fun ⟨domain, mapped, unknown⟩ =>
      ⟨domain, mapped, unknown⟩⟩
  have fresh (dataSetName : String) :
      IsDynamic (readServer parameters server (newLogic logic.timeseriesMaps)) domainName dataSetName ↔
      ShowsDomain parameters server domainName ∧ Mapped logic.timeseriesMaps domainName dataSetName ∧
        ¬ ShowsDataSet parameters server domainName dataSetName := by
    have maps := (readServer_adds parameters server (newLogic logic.timeseriesMaps)).maps
    rw [newLogic_timeseriesMaps] at maps
    rw [← readServer_new_knowsDomain logic.timeseriesMaps, ← readServer_new_knowsDataSet logic.timeseriesMaps]
    constructor
    · intro dynamic
      exact ⟨dynamic.domain, maps ▸ dynamic.mapped, dynamic.unknown⟩
    · rintro ⟨domain, mapped, unknown⟩
      exact ⟨domain, maps.symm ▸ mapped, unknown⟩
  simp only [remembered, fresh]
  refine forall_congr' fun dataSetName => ?_
  have inDomain : ShowsDataSet parameters server domainName dataSetName → ShowsDomain parameters server domainName :=
    ShowsDataSet.domain
  have inKnown : logic.KnowsDataSet domainName dataSetName → logic.KnowsDomain domainName := KnowsDataSet.domain
  tauto

theorem hasReference_remembered (logic : IccpLogic) :
    HasReference (readServer parameters server logic) domainName dataSetName ↔
      ∃ variableId, (logic.Knows variableId ∨ variableId ∈ offers parameters server) ∧
        variableId.domain = domainName ∧ variableId.dataset = dataSetName ∧
        reference logic.timeseriesMaps variableId ≠ "" := by
  have adds := readServer_adds parameters server logic
  simp only [HasReference, adds.knows, adds.maps]

theorem hasReference_new (timeseriesMaps : List TimeserieMap) :
    HasReference (readServer parameters server (newLogic timeseriesMaps)) domainName dataSetName ↔
      ∃ variableId ∈ offers parameters server, variableId.domain = domainName ∧ variableId.dataset = dataSetName ∧
        reference timeseriesMaps variableId ≠ "" := by
  rw [hasReference_remembered, newLogic_timeseriesMaps]
  simp [newLogic_knows]

theorem hasReference_same_iff (logic : IccpLogic) :
    (∀ dataSetName, HasReference (readServer parameters server logic) domainName dataSetName ↔
        HasReference (readServer parameters server (newLogic logic.timeseriesMaps)) domainName dataSetName) ↔
      ∀ variableId, logic.Knows variableId → variableId.domain = domainName →
        reference logic.timeseriesMaps variableId ≠ "" →
        ∃ shown ∈ offers parameters server, shown.domain = domainName ∧ shown.dataset = variableId.dataset ∧
          reference logic.timeseriesMaps shown ≠ "" := by
  simp only [hasReference_new, hasReference_remembered logic]
  constructor
  · intro same variableId known inDomain referred
    exact (same variableId.dataset).mp ⟨variableId, .inl known, inDomain, rfl, referred⟩
  · intro shown dataSetName
    constructor
    · rintro ⟨variableId, known | offered, inDomain, inDataSet, referred⟩
      · obtain ⟨other, offered, otherDomain, otherSet, otherReferred⟩ := shown variableId known inDomain referred
        exact ⟨other, offered, otherDomain, otherSet.trans inDataSet, otherReferred⟩
      · exact ⟨variableId, offered, inDomain, inDataSet, referred⟩
    · rintro ⟨variableId, offered, rest⟩
      exact ⟨variableId, .inr offered, rest⟩

theorem referenceCalls_perm_iff {first second : IccpLogic} (settled : first.Settled) (settledToo : second.Settled) :
    (referenceCalls parameters server first).Perm (referenceCalls parameters server second) ↔
      ∀ domainName ∈ domainNames parameters server, ∀ dataSetName,
        HasReference first domainName dataSetName ↔ HasReference second domainName dataSetName := by
  constructor
  · intro perm domainName member dataSetName
    have same := @List.Perm.mem_iff _ (.createTransferSet domainName dataSetName) _ _ perm
    rw [mem_referenceCalls settled, mem_referenceCalls settledToo] at same
    simpa [member] using same
  · intro same
    unfold referenceCalls
    refine List.Perm.flatMap_left _ fun domainName member => List.Perm.map _ ?_
    refine (List.perm_ext_iff_of_nodup (nodup_getDataSetsWithExternalReference _ _)
      (nodup_getDataSetsWithExternalReference _ _)).mpr fun dataSetName => ?_
    rw [mem_getDataSetsWithExternalReference settled, mem_getDataSetsWithExternalReference settledToo]
    exact same domainName member dataSetName

theorem isDynamic_matched (logic : IccpLogic) :
    IsDynamic logic.matchTimeseriesMapping.2 domainName dataSetName ↔ IsDynamic logic domainName dataSetName :=
  (match_adds logic).isDynamic (by simp)

theorem alike_of_dynamic {names : List String} {first second : IccpLogic}
    (maps : first.timeseriesMaps = second.timeseriesMaps)
    (knows : ∀ variableId, second.Knows variableId → first.Knows variableId)
    (dynamic : ∀ domainName ∈ names, ∀ dataSetName,
      IsDynamic first domainName dataSetName ↔ IsDynamic second domainName dataSetName) : Alike names first second := by
  refine ⟨maps, fun domainName member => ?_⟩
  by_cases known : second.KnowsDomain domainName
  · have knownToo : first.KnowsDomain domainName := by
      obtain ⟨variableId, here, inDomain⟩ := known
      exact ⟨variableId, knows variableId here, inDomain⟩
    refine .known knownToo known fun dataSetName mapped => ?_
    have same := dynamic domainName member dataSetName
    constructor
    · intro inFirst
      by_contra unknown
      exact (same.mpr ⟨known, maps ▸ mapped, unknown⟩).unknown inFirst
    · rintro ⟨variableId, here, inDomain, inDataSet⟩
      exact ⟨variableId, knows variableId here, inDomain, inDataSet⟩
  · have none (dataSetName : String) : ¬ IsDynamic second domainName dataSetName :=
      fun isDynamic => known isDynamic.domain
    exact .idle (fun dataSetName => mt (dynamic domainName member dataSetName).mp (none dataSetName)) none

end Subscriptions

section Reconnect

variable {parameters : IccpParameters} {server : IccpServer}

theorem newLogic_settled (timeseriesMaps : List TimeserieMap) : (newLogic timeseriesMaps).Settled :=
  setTimeseriesMaps_settled timeseriesMaps ⟨[], []⟩

theorem logicStep_settled {logic : IccpLogic} (settled : logic.Settled) (event : LogicEvent) :
    (logicStep logic event).Settled := by
  cases event with
  | addDataSetPoint domainName dataSetName variableName => exact settled.addDataSetPoint domainName dataSetName variableName
  | setTimeseriesMaps timeseriesMaps => exact setTimeseriesMaps_settled timeseriesMaps logic
  | initializeModule parameters server => exact initializeModule_settled parameters server settled

theorem finalState_settled {logic : IccpLogic} (settled : logic.Settled) (events : List LogicEvent) :
    (finalState logicStep logic events).Settled := by
  induction events generalizing logic with
  | nil => exact settled
  | cons event rest ih => exact ih (logicStep_settled settled event)

theorem initializeModule_perm_iff (own : OwnDomains server (domainNames parameters server)) {logic : IccpLogic}
    (settled : logic.Settled) :
    (initializeModule parameters server logic).2.Perm
        (initializeModule parameters server (newLogic logic.timeseriesMaps)).2 ↔
      RemembersNothingElse parameters server logic := by
  have fresh : (newLogic logic.timeseriesMaps).Settled := newLogic_settled logic.timeseriesMaps
  have readSettled := readServer_settled parameters server settled
  have freshSettled := readServer_settled parameters server fresh
  have adds := readServer_adds parameters server logic
  have freshAdds := readServer_adds parameters server (newLogic logic.timeseriesMaps)
  have maps : (readServer parameters server logic).matchTimeseriesMapping.2.timeseriesMaps =
      (readServer parameters server (newLogic logic.timeseriesMaps)).matchTimeseriesMapping.2.timeseriesMaps := by
    rw [matchTimeseriesMapping_timeseriesMaps, matchTimeseriesMapping_timeseriesMaps, adds.maps, freshAdds.maps,
      newLogic_timeseriesMaps]
  have knows (variableId : VariableId)
      (known : (readServer parameters server (newLogic logic.timeseriesMaps)).matchTimeseriesMapping.2.Knows variableId) :
      (readServer parameters server logic).matchTimeseriesMapping.2.Knows variableId := by
    rw [knows_matchTimeseriesMapping, freshAdds.knows] at known
    rw [knows_matchTimeseriesMapping, adds.knows]
    exact .inr (known.resolve_left (newLogic_knows _ _))
  have references := @referenceCalls_perm_iff parameters server _ _ readSettled freshSettled
  rw [initializeModule_calls parameters server settled, initializeModule_calls parameters server fresh]
  by_cases uses : parameters.useDynamicDatasets = true
  · simp only [uses, ↓reduceIte]
    have alikeRun (dynamic : ∀ domainName ∈ domainNames parameters server, ∀ dataSetName,
        IsDynamic (readServer parameters server logic) domainName dataSetName ↔
          IsDynamic (readServer parameters server (newLogic logic.timeseriesMaps)) domainName dataSetName) :=
      have alike := alike_of_dynamic maps knows fun domainName member dataSetName => by
        rw [isDynamic_matched, isDynamic_matched]
        exact dynamic domainName member dataSetName
      @Alike.run server (domainNames parameters server)
        ((readServer parameters server logic).matchTimeseriesMapping.2,
          referenceCalls parameters server (readServer parameters server logic))
        ((readServer parameters server (newLogic logic.timeseriesMaps)).matchTimeseriesMapping.2,
          referenceCalls parameters server (readServer parameters server (newLogic logic.timeseriesMaps)))
        alike own (domainNames parameters server) (fun _ member => member)
    constructor
    · intro perm
      have dynamic : ∀ domainName ∈ domainNames parameters server, ∀ dataSetName,
          IsDynamic (readServer parameters server logic) domainName dataSetName ↔
            IsDynamic (readServer parameters server (newLogic logic.timeseriesMaps)) domainName dataSetName := by
        intro domainName member dataSetName
        have same := @List.Perm.mem_iff _ (.createDataSet domainName dataSetName (datasetVariables
          (readServer parameters server logic).matchTimeseriesMapping.2.timeseriesMaps domainName dataSetName)) _ _ perm
        rw [mem_dynamicCalls own (fun _ member => member), mem_dynamicCalls own (fun _ member => member), ← maps] at same
        simpa [mem_referenceCalls_createDataSet, member, isDynamic_matched] using same
      obtain ⟨calls, made, madeToo⟩ := alikeRun dynamic
      rw [made, madeToo, List.perm_append_right_iff, references] at perm
      refine ⟨fun domainName member => (hasReference_same_iff logic).mp (perm domainName member), ?_, ?_⟩
      · intro _ domainName member dataSetName mapped
        exact ((isDynamic_same_iff logic).mp (dynamic domainName member) dataSetName mapped).1
      · intro _ domainName member dataSetName mapped
        exact ((isDynamic_same_iff logic).mp (dynamic domainName member) dataSetName mapped).2
    · intro nothingElse
      obtain ⟨calls, made, madeToo⟩ := alikeRun fun domainName member => (isDynamic_same_iff logic).mpr
        fun dataSetName mapped => ⟨nothingElse.lost uses domainName member dataSetName mapped,
          nothingElse.gone uses domainName member dataSetName mapped⟩
      rw [made, madeToo, List.perm_append_right_iff, references]
      exact fun domainName member => (hasReference_same_iff logic).mpr (nothingElse.referred domainName member)
  · simp only [uses, Bool.false_eq_true, ↓reduceIte]
    rw [references]
    constructor
    · intro same
      refine ⟨fun domainName member => (hasReference_same_iff logic).mp (same domainName member), ?_, ?_⟩
      · exact fun dynamic => absurd dynamic uses
      · exact fun dynamic => absurd dynamic uses
    · intro nothingElse domainName member
      exact (hasReference_same_iff logic).mpr (nothingElse.referred domainName member)

/-- After any history a connection subscribes as a new logic does if and only if nothing that
the logic remembers is missing on the server. -/
theorem reconnect_iff (own : OwnDomains server (domainNames parameters server)) (timeseriesMaps : List TimeserieMap)
    (events : List LogicEvent) :
    (initializeModule parameters server (finalState logicStep (newLogic timeseriesMaps) events)).2.Perm
        (initializeModule parameters server
          (newLogic (finalState logicStep (newLogic timeseriesMaps) events).timeseriesMaps)).2 ↔
      RemembersNothingElse parameters server (finalState logicStep (newLogic timeseriesMaps) events) :=
  initializeModule_perm_iff own (finalState_settled (newLogic_settled timeseriesMaps) events)

def lineServer : IccpServer where
  domainNames := ["icc1"]
  dataSets := fun _ => []
  domainVariables := fun _ => ["Flow"]
  points := fun _ _ => []
  createDataSet := fun _ _ _ => true
  createdPoints := fun domainName _ _ => [⟨some domainName, "Flow"⟩]

def lineMap : List TimeserieMap := [⟨⟨"icc1", "Lines", "Flow"⟩, "line flow", "MW"⟩]

theorem lineServer_ownDomains (names : List String) : OwnDomains lineServer names := by
  intro domainName dataSetName variableNames point member
  rw [List.mem_singleton.mp member]
  exact .inl rfl

theorem reconnect_iff_first :
    (initializeModule ⟨"", true⟩ lineServer (finalState logicStep (newLogic lineMap) [])).2.Perm
        (initializeModule ⟨"", true⟩ lineServer
          (newLogic (finalState logicStep (newLogic lineMap) []).timeseriesMaps)).2 ↔
      RemembersNothingElse ⟨"", true⟩ lineServer (finalState logicStep (newLogic lineMap) []) :=
  reconnect_iff (lineServer_ownDomains _) lineMap []

/-- A server that has lost its dynamic data set is not asked to make it again. -/
theorem reconnect_lost : ¬ ∀ parameters server timeseriesMaps events,
    OwnDomains server (domainNames parameters server) →
    (initializeModule parameters server (finalState logicStep (newLogic timeseriesMaps) events)).2.Perm
      (initializeModule parameters server
        (newLogic (finalState logicStep (newLogic timeseriesMaps) events).timeseriesMaps)).2 := by
  intro same
  have perm := same ⟨"", true⟩ lineServer lineMap [.initializeModule ⟨"", true⟩ lineServer] (lineServer_ownDomains _)
  exact absurd perm.length_eq (by decide)

end Reconnect

end ServiceHost.DataExchange.Iccp
