import ServiceHost.Interop.Environment

/-!
`icc_env_setup_internal` with the configuration server: the variables of the process
are kept, but what is derived from them follows the configuration.
-/

namespace ServiceHost

open Library
open Environment

def IsFixed (name : VariableName) : Prop :=
  name.key ∈ ["TMPDIR".toList, "TEMPDIR".toList, "HOMEDRIVE".toList]

instance (name : VariableName) : Decidable (IsFixed name) := inferInstanceAs (Decidable (_ ∈ _))

def loadedMark (pid : Nat) : Setting := ⟨uniqueEnvId pid, textOf "LOADED"⟩

def configurationOf (pid : Nat) (settings : List Setting) : Environment :=
  (loadedMark pid :: settings).foldl iccPutenv .empty

def Acyclic (configuration : Environment) : Prop := ∃ rank, Ranked rank configuration.getenv

structure OverridesConfiguration (original configuration later : Environment) : Prop where
  kept : ∀ name, ¬IsFixed name → ∀ text, original.getenv name = some text → later.getenv name = some text
  derived : ∀ name, ¬IsFixed name → ∀ text, configuration.getenv name = some text → original.getenv name = none →
    ∃ expanded, ExpandsTo (overlay original configuration) text expanded ∧ later.getenv name = some expanded

def ExpandsAlike (original configuration : Environment) : Prop :=
  ∀ name, ¬IsFixed name → ∀ text, configuration.getenv name = some text → original.getenv name = none →
    ∃ expanded, ExpandsTo (overlay configuration original) text expanded ∧
      ExpandsTo (overlay original configuration) text expanded

def SetsUp (pid : Nat) (source : ConfigurationSource) (original : Environment) : Prop :=
  ∃ bound, ∀ depth, bound ≤ depth → ∃ powelEnv later,
    iccEnvSetupInternal depth pid source original = some (powelEnv, later) ∧
      OverridesConfiguration original (configurationOf pid source.server) later

section Put

variable {environ original configuration live : Environment} {setting : Setting}

theorem getenv_iccPutenv_cleared (cleared : setting.value = []) (clears : isAbat setting.name = false)
    (environ : Environment) (name : VariableName) :
    (environ.iccPutenv setting).getenv name = if name.key = setting.key then none else environ.getenv name := by
  rw [iccPutenv, if_neg (not_not.mpr cleared), if_neg (by rw [clears]; exact Bool.false_ne_true)]
  cases present : environ.getenv setting.name with
  | some text => rw [Option.isSome_some, if_pos rfl, getenv_putenv, if_pos cleared]
  | none =>
      rw [Option.isSome_none, if_neg Bool.false_ne_true]
      split
      · rename_i same
        exact (getenv_alike same environ).trans present
      · rfl

theorem Filled.iccPutenv (filled : Filled environ) (setting : Setting) : Filled (environ.iccPutenv setting) := by
  intro name text value
  by_cases present : setting.value = []
  · cases clears : isAbat setting.name with
    | true =>
        rw [Environment.iccPutenv, if_neg (not_not.mpr present), if_pos clears] at value
        exact filled name text value
    | false =>
        rw [getenv_iccPutenv_cleared present clears] at value
        split at value
        · cases value
        · exact filled name text value
  · rw [getenv_iccPutenv present] at value
    split at value
    · exact Option.some.inj value ▸ present
    · exact filled name text value

theorem Filled.foldl (filled : Filled environ) (settings : List Setting) : Filled (settings.foldl Environment.iccPutenv environ) := by
  induction settings generalizing environ with
  | nil => exact filled
  | cons setting settings ih => exact ih (filled.iccPutenv setting)

theorem configuredOver_empty (original : Environment) : ConfiguredOver original .empty original := fun _ => Or.inl rfl

theorem ConfiguredOver.iccPutenv (configured : ConfiguredOver original configuration live) (setting : Setting) :
    ConfiguredOver original (configuration.iccPutenv setting) (live.iccPutenv setting) := by
  intro name
  by_cases present : setting.value = []
  · cases clears : isAbat setting.name with
    | true =>
        rw [Environment.iccPutenv, if_neg (not_not.mpr present), if_pos clears,
          Environment.iccPutenv, if_neg (not_not.mpr present), if_pos clears]
        exact configured name
    | false =>
        rw [getenv_iccPutenv_cleared present clears, getenv_iccPutenv_cleared present clears]
        by_cases same : name.key = setting.key
        · rw [if_pos same, if_pos same]
          exact Or.inr rfl
        · rw [if_neg same, if_neg same]
          exact configured name
  · rw [getenv_iccPutenv present, getenv_iccPutenv present]
    by_cases same : name.key = setting.key
    · rw [if_pos same, if_pos same]
    · rw [if_neg same, if_neg same]
      exact configured name

theorem ConfiguredOver.foldl (configured : ConfiguredOver original configuration live) (settings : List Setting) :
    ConfiguredOver original (settings.foldl Environment.iccPutenv configuration)
      (settings.foldl Environment.iccPutenv live) := by
  induction settings generalizing configuration live with
  | nil => exact configured
  | cons setting settings ih => exact ih (configured.iccPutenv setting)

theorem getenv_fixes {name : VariableName} (other : ¬IsFixed name) (environ : Environment) :
    (setHomeDrive (setTempDir environ)).getenv name = environ.getenv name := by
  have differs : ∀ (setting : Setting), setting.key ∈ ["TMPDIR".toList, "TEMPDIR".toList, "HOMEDRIVE".toList] →
      ∀ environ : Environment, (environ.iccPutenv setting).getenv name = environ.getenv name := by
    intro setting member environ
    apply getenv_iccPutenv_other
    intro same
    exact other (same ▸ member : name.key ∈ _)
  have temp : (setTempDir environ).getenv name = environ.getenv name := by
    rw [setTempDir, differs _ (by simp [Setting.key, VariableName.key])]
    exact differs _ (by simp [Setting.key, VariableName.key]) _
  rw [setHomeDrive]
  split
  · rw [differs _ (by simp [Setting.key, VariableName.key]), temp]
  · exact temp

end Put

section Setup

variable {pid : Nat} {source : ConfigurationSource} {original : Environment}

theorem iccEnvSetupInternal_run (acyclic : Acyclic (configurationOf pid source.server)) (plain : Plain original)
    (filled : Filled original) (fresh : original.getenv (uniqueEnvId pid) = none)
    (server : original.getenv "ICC_NO_CFGSERVER".toList = none) :
    ∃ g, Solves (overlay (configurationOf pid source.server) original) g ∧ ∃ later : Environment,
      (∃ bound, ∀ depth, bound ≤ depth →
        iccEnvSetupInternal depth pid source original = some (later.entries, later)) ∧
        ∀ name, ¬IsFixed name → later.getenv name =
          (original.getenv name).or (((configurationOf pid source.server).getenv name).map (applyAll g)) := by
  obtain ⟨rank, ranked⟩ := acyclic
  have marks : original.iccPutenv (loadedMark pid) = original.putenv (loadedMark pid) :=
    if_pos (by decide : textOf "LOADED" ≠ [])
  have configured : ConfiguredOver original (configurationOf pid source.server)
      (source.server.foldl iccPutenv (original.putenv (loadedMark pid))) := by
    rw [← marks]
    exact (configuredOver_empty original).foldl (loadedMark pid :: source.server)
  have liveFilled : Filled (source.server.foldl iccPutenv (original.putenv (loadedMark pid))) := by
    rw [← marks]
    exact filled.foldl (loadedMark pid :: source.server)
  obtain ⟨g, solves, expanded, ⟨bound, run⟩, found⟩ :=
    iccExpandEnv_run ranked configured plain filled liveFilled
  have reached : (original.putenv (loadedMark pid)).getenv "ICC_NO_CFGSERVER".toList = none := by
    have differs : VariableName.key "ICC_NO_CFGSERVER".toList ≠ (loadedMark pid).key := by
      intro same
      have fifth : some 'N' = some 'E' := congrArg (fun name : VariableName => name[4]?) same
      cases fifth
    rw [getenv_putenv, if_neg differs, server]
  refine ⟨g, solves, setHomeDrive (setTempDir expanded), ⟨bound, fun depth enough => ?_⟩, fun name other => ?_⟩
  · have loads : loadConfiguration depth original.entries source (original.putenv (loadedMark pid)) =
        some (expanded.entries, expanded) := by
      rw [loadConfiguration, reached, Option.isNone_none, if_pos rfl]
      exact run depth enough
    rw [iccEnvSetupInternal, fresh, Option.isSome_none, if_neg Bool.false_ne_true]
    change (loadConfiguration depth original.entries source (original.putenv (loadedMark pid)) >>= _) = _
    rw [loads]
    rfl
  · rw [getenv_fixes other, found]

/-- A process overrides the configuration exactly where the expansion does not show
which of two values was used. -/
theorem iccEnvSetupInternal_overrides_iff (pid : Nat) (source : ConfigurationSource) (original : Environment)
    (acyclic : Acyclic (configurationOf pid source.server)) (plain : Plain original) (filled : Filled original)
    (fresh : original.getenv (uniqueEnvId pid) = none) (server : original.getenv "ICC_NO_CFGSERVER".toList = none) :
    SetsUp pid source original ↔ ExpandsAlike original (configurationOf pid source.server) := by
  obtain ⟨g, solves, later, ⟨bound, run⟩, found⟩ := iccEnvSetupInternal_run acyclic plain filled fresh server
  obtain ⟨rank, ranked⟩ := acyclic
  obtain ⟨wideRank, wideRanked⟩ := overlay_ranked ranked plain
  have value : ∀ name, ¬IsFixed name → ∀ text, (configurationOf pid source.server).getenv name = some text →
      original.getenv name = none → later.getenv name = some (applyAll g text) := by
    intro name other text known unset
    rw [found name other, known, unset]
    rfl
  constructor
  · rintro ⟨otherBound, sets⟩ name other text known unset
    obtain ⟨powelEnv, left, otherRun, overrides⟩ := sets (max bound otherBound) (Nat.le_max_right _ _)
    obtain rfl : later = left :=
      congrArg Prod.snd (Option.some.inj ((run _ (Nat.le_max_left _ _)).symm.trans otherRun))
    obtain ⟨expanded, expands, shown⟩ := overrides.derived name other text known unset
    obtain rfl : applyAll g text = expanded := Option.some.inj ((value name other text known unset).symm.trans shown)
    exact ⟨_, (solves.expandsTo_iff wideRanked).mpr rfl, expands⟩
  · intro alike
    refine ⟨bound, fun depth enough => ⟨_, later, run depth enough, ?_, ?_⟩⟩
    · intro name other text own
      rw [found name other, own]
      rfl
    · intro name other text known unset
      obtain ⟨expanded, first, second⟩ := alike name other text known unset
      obtain rfl : expanded = applyAll g text := (solves.expandsTo_iff wideRanked).mp first
      exact ⟨_, second, value name other text known unset⟩

theorem expandsAlike_of_apart {configuration : Environment} (acyclic : Acyclic configuration) (plain : Plain original)
    (apart : ∀ name text, configuration.getenv name = some text → ∀ other ∈ references text,
      configuration.getenv other = none ∨ original.getenv other = none) : ExpandsAlike original configuration := by
  obtain ⟨rank, ranked⟩ := acyclic
  obtain ⟨wideRank, wideRanked⟩ := overlay_ranked ranked plain
  obtain ⟨g, solves⟩ := exists_solves wideRanked
  have agree : ∀ name text, configuration.getenv name = some text → ∀ other ∈ references text,
      overlay configuration original other = overlay original configuration other := by
    intro name text known other member
    rcases apart name text known other member with unset | unset
    · rw [overlay, overlay, unset, Option.none_or, Option.or_none]
    · rw [overlay, overlay, unset, Option.none_or, Option.or_none]
  intro name _ text known _
  have expands : ExpandsTo (overlay configuration original) text (applyAll g text) :=
    (solves.expandsTo_iff wideRanked).mpr rfl
  refine ⟨_, expands, expands.congr ?_ (agree name text known)⟩
  intro source replacement value found member
  rcases Option.or_eq_some_iff.mp value with configured | ⟨_, own⟩
  · exact agree source replacement configured found member
  · rw [plain source replacement own] at member
    exact absurd member List.not_mem_nil

end Setup

theorem Environment.forall_getenv {environ : Environment} {P : VariableName → VariableText → Prop}
    (all : ∀ setting ∈ environ.entries, P setting.key setting.value) (name : VariableName) (text : VariableText)
    (value : environ.getenv name = some text) : P name.key text := by
  obtain ⟨setting, member, key, same⟩ := exists_of_valueIn value
  exact key ▸ same ▸ all setting member

def oneVariable (name value : String) : Environment := ⟨[⟨name.toList, textOf value⟩], List.nodup_singleton _⟩

def dataBelow (installation : String) : Setting :=
  ⟨"DATA".toList, .reference installation.toList :: textOf "/data"⟩

theorem iccEnvSetupInternal_overrides_iff_data :
    SetsUp 7 ⟨[dataBelow "HOME"], [], true⟩ (oneVariable "HOME" "/icc") := by
  have plain : Plain (oneVariable "HOME" "/icc") :=
    forall_getenv (P := fun _ text => references text = []) (by decide)
  have settled : ∀ name text, (configurationOf 7 [dataBelow "HOME"]).getenv name = some text →
      ∀ other ∈ references text, (configurationOf 7 [dataBelow "HOME"]).getenv other = none :=
    forall_getenv (P := fun _ text => ∀ other ∈ references text,
      (configurationOf 7 [dataBelow "HOME"]).getenv other = none) (by decide)
  have acyclic : Acyclic (configurationOf 7 [dataBelow "HOME"]) := ⟨fun _ => 0, Ranked.of_settled settled⟩
  apply (iccEnvSetupInternal_overrides_iff 7 ⟨[dataBelow "HOME"], [], true⟩ (oneVariable "HOME" "/icc") acyclic plain
    (forall_getenv (P := fun _ text => text ≠ []) (by decide)) (by decide) (by decide)).mpr
  exact expandsAlike_of_apart acyclic plain fun name text known other member =>
    Or.inl (settled name text known other member)

/-- The directory of the data follows the configured installation, not that of the process. -/
theorem iccEnvSetupInternal_derives_configured :
    Acyclic (configurationOf 7 [⟨"HOME".toList, textOf "/std"⟩, dataBelow "HOME"]) ∧
      Plain (oneVariable "HOME" "/icc") ∧
      ¬SetsUp 7 ⟨[⟨"HOME".toList, textOf "/std"⟩, dataBelow "HOME"], [], true⟩ (oneVariable "HOME" "/icc") := by
  have reference : ∀ name text,
      (configurationOf 7 [⟨"HOME".toList, textOf "/std"⟩, dataBelow "HOME"]).getenv name = some text →
      ∀ other ∈ references text,
        (if other.key = "DATA".toList then 1 else 0) < if name.key = "DATA".toList then 1 else 0 :=
    forall_getenv (P := fun key text => ∀ other ∈ references text,
      (if other.key = "DATA".toList then 1 else 0) < if key = "DATA".toList then 1 else 0) (by decide)
  refine ⟨⟨fun name => if name.key = "DATA".toList then 1 else 0, fun name text known other member _ =>
    reference name text known other member⟩, forall_getenv (P := fun _ text => references text = []) (by decide), ?_⟩
  rintro ⟨bound, sets⟩
  obtain ⟨powelEnv, later, run, overrides⟩ := sets (bound + 5) (Nat.le_add_right _ _)
  have left : (iccEnvSetupInternal (bound + 5) 7 ⟨[⟨"HOME".toList, textOf "/std"⟩, dataBelow "HOME"], [], true⟩
      (oneVariable "HOME" "/icc")).map (fun result => result.2.getenv "DATA".toList) =
        some (some (textOf "/std/data")) := rfl
  rw [run] at left
  obtain ⟨expanded, ⟨passes, reached, _⟩, shown⟩ :=
    overrides.derived "DATA".toList (by decide) (dataBelow "HOME").value rfl rfl
  obtain rfl : expanded = textOf "/std/data" := Option.some.inj (shown.symm.trans (Option.some.inj left))
  cases passes with
  | zero => exact absurd reached (by decide)
  | succ passes =>
      have original : substitute (overlay (oneVariable "HOME" "/icc")
          (configurationOf 7 [⟨"HOME".toList, textOf "/std"⟩, dataBelow "HOME"])) (dataBelow "HOME").value =
            textOf "/icc/data" := rfl
      rw [Function.iterate_succ_apply, original, Function.iterate_fixed (by rfl)] at reached
      exact absurd reached (by decide)

end ServiceHost
