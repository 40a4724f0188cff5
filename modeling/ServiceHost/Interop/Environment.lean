import ServiceHost.Interop.EnvironmentCore

/-!
What the configuration leaves in the environment of a process. The originals are
back after each pass, but the first pass expands the settings while configured
values still stand in their places.
-/

namespace ServiceHost

open Library

def valueIn (settings : List Setting) (key : VariableName) : Option VariableText :=
  (settings.find? fun setting => setting.key = key).map Setting.value

section ValueIn

variable {settings : List Setting} {setting : Setting} {key : VariableName} {text : VariableText}

theorem valueIn_cons (setting : Setting) (settings : List Setting) (key : VariableName) :
    valueIn (setting :: settings) key = if setting.key = key then some setting.value else valueIn settings key := by
  by_cases same : setting.key = key
  · simp [valueIn, same]
  · simp [valueIn, same]

theorem valueIn_eq_none (absent : key ∉ settings.map Setting.key) : valueIn settings key = none := by
  rw [valueIn, Option.map_eq_none_iff, List.find?_eq_none]
  intro setting member same
  exact absent (List.mem_map.mpr ⟨setting, member, of_decide_eq_true same⟩)

theorem exists_of_valueIn (found : valueIn settings key = some text) :
    ∃ setting ∈ settings, setting.key = key ∧ setting.value = text := by
  obtain ⟨setting, first, value⟩ := Option.map_eq_some_iff.mp found
  have same := List.find?_some first
  exact ⟨setting, List.mem_of_find?_eq_some first, of_decide_eq_true same, value⟩

theorem valueIn_of_mem (distinct : (settings.map Setting.key).Nodup) (member : setting ∈ settings) :
    valueIn settings setting.key = some setting.value := by
  induction settings with
  | nil => exact absurd member List.not_mem_nil
  | cons first settings ih =>
      obtain ⟨fresh, distinct⟩ := List.nodup_cons.mp distinct
      rw [valueIn_cons]
      rcases List.mem_cons.mp member with rfl | member
      · exact if_pos rfl
      · have other : first.key ≠ setting.key := by
          intro same
          exact fresh (same ▸ List.mem_map_of_mem member)
        rw [if_neg other, ih distinct member]

theorem valueIn_append (first second : List Setting) (key : VariableName) :
    valueIn (first ++ second) key = (valueIn first key).or (valueIn second key) := by
  induction first with
  | nil => rfl
  | cons setting first ih =>
      rw [List.cons_append, valueIn_cons, valueIn_cons, ih]
      split
      · rfl
      · rfl

theorem valueIn_filter (settings : List Setting) (removed key : VariableName) :
    valueIn (settings.filter fun setting => setting.key ≠ removed) key =
      if key = removed then none else valueIn settings key := by
  induction settings with
  | nil => simp [valueIn]
  | cons setting settings ih =>
      rw [List.filter_cons]
      by_cases same : setting.key = removed
      · simp only [same, ne_eq, not_true_eq_false, decide_false, Bool.false_eq_true, if_false, ih, valueIn_cons]
        by_cases wanted : key = removed
        · simp [wanted]
        · simp [wanted, Ne.symm wanted]
      · simp only [same, ne_eq, not_false_eq_true, decide_true, if_true, ih, valueIn_cons]
        by_cases wanted : key = removed
        · simp [wanted, same]
        · simp [wanted]

theorem valueIn_replaceEntry (settings : List Setting) (setting : Setting) (key : VariableName) :
    valueIn (settings.map (Environment.replaceEntry setting)) key =
      if key = setting.key ∧ key ∈ settings.map Setting.key then some setting.value else valueIn settings key := by
  induction settings with
  | nil => simp [valueIn]
  | cons entry settings ih =>
      rw [List.map_cons, valueIn_cons, Environment.replaceEntry_key, ih, valueIn_cons, List.map_cons]
      by_cases here : entry.key = key
      · by_cases wanted : key = setting.key
        · simp [Environment.replaceEntry, here, wanted]
        · simp [Environment.replaceEntry, here, wanted]
      · simp [here, Ne.symm here]

theorem valueIn_map (f : VariableText → VariableText) (settings : List Setting) (key : VariableName) :
    valueIn (settings.map fun setting => ⟨setting.name, f setting.value⟩) key = (valueIn settings key).map f := by
  induction settings with
  | nil => rfl
  | cons setting settings ih =>
      rw [List.map_cons, valueIn_cons, valueIn_cons, ih]
      change (if setting.key = key then some (f setting.value) else _) = _
      split
      · rfl
      · rfl

end ValueIn

namespace Environment

variable {environ : Environment} {setting : Setting} {name : VariableName} {text : VariableText}

theorem getenv_eq (environ : Environment) (name : VariableName) : environ.getenv name = valueIn environ.entries name.key := rfl

theorem getenv_of_mem (member : setting ∈ environ.entries) : environ.getenv setting.name = some setting.value :=
  valueIn_of_mem environ.distinct member

theorem getenv_putenv (environ : Environment) (setting : Setting) (name : VariableName) :
    (environ.putenv setting).getenv name =
      if name.key = setting.key then (if setting.value = [] then none else some setting.value)
      else environ.getenv name := by
  rw [putenv]
  by_cases cleared : setting.value = []
  · rw [if_pos cleared, if_pos cleared, getenv_eq, getenv_eq]
    exact valueIn_filter environ.entries setting.key name.key
  · rw [if_neg cleared, if_neg cleared]
    by_cases known : setting.key ∈ environ.entries.map Setting.key
    · rw [dif_pos known, getenv_eq, getenv_eq]
      refine (valueIn_replaceEntry environ.entries setting name.key).trans ?_
      by_cases same : name.key = setting.key
      · rw [if_pos same, if_pos ⟨same, same ▸ known⟩]
      · rw [if_neg same, if_neg fun both => same both.1]
    · rw [dif_neg known, getenv_eq, getenv_eq]
      refine (valueIn_append environ.entries [setting] name.key).trans ?_
      by_cases same : name.key = setting.key
      · rw [if_pos same, same, valueIn_eq_none known, valueIn_cons, if_pos rfl]
        rfl
      · rw [if_neg same, valueIn_cons, if_neg (Ne.symm same)]
        exact Option.or_none

theorem getenv_iccPutenv (filled : setting.value ≠ []) (environ : Environment) (name : VariableName) :
    (environ.iccPutenv setting).getenv name = if name.key = setting.key then some setting.value else environ.getenv name := by
  rw [iccPutenv, if_pos filled, getenv_putenv, if_neg filled]

theorem getenv_iccPutenv_other (other : name.key ≠ setting.key) (environ : Environment) :
    (environ.iccPutenv setting).getenv name = environ.getenv name := by
  have put : (environ.putenv setting).getenv name = environ.getenv name := by
    rw [getenv_putenv, if_neg other]
  rw [iccPutenv]
  split
  · exact put
  · split
    · rfl
    · split
      · exact put
      · rfl

theorem getenv_foldl {settings : List Setting} (distinct : (settings.map Setting.key).Nodup)
    (filled : ∀ setting ∈ settings, setting.value ≠ []) (environ : Environment) (name : VariableName) :
    (settings.foldl iccPutenv environ).getenv name = (valueIn settings name.key).or (environ.getenv name) := by
  induction settings generalizing environ with
  | nil => rfl
  | cons setting settings ih =>
      obtain ⟨fresh, distinct⟩ := List.nodup_cons.mp distinct
      rw [List.foldl_cons, ih distinct (fun other member => filled other (List.mem_cons_of_mem _ member)),
        getenv_iccPutenv (filled setting List.mem_cons_self), valueIn_cons]
      by_cases same : name.key = setting.key
      · rw [if_pos same, if_pos same.symm, same, valueIn_eq_none fresh]
        rfl
      · rw [if_neg same, if_neg (Ne.symm same)]

end Environment

theorem references_of_noPercent {text : VariableText} (plain : hasPercent text = false) : references text = [] := by
  rw [List.eq_nil_iff_forall_not_mem]
  intro name member
  have found : hasPercent text = true := List.any_eq_true.mpr ⟨_, mem_references.mp member, rfl⟩
  rw [plain] at found
  cases found

section Expand

variable {rank : VariableName → Nat} {f : VariableName → VariableText}

theorem expand_eq {environ : Environment} (solves : Solves environ.getenv f) (ranked : Ranked rank environ.getenv)
    {bound : Nat} {text : VariableText} (below : RefersBelow rank environ.getenv bound text) {depth : Nat}
    (deep : bound < depth) : environ.expand depth text = some (applyAll f text) := by
  induction depth generalizing bound text with
  | zero => exact absurd deep (Nat.not_lt_zero _)
  | succ depth ih =>
      have plain : ∀ other : VariableText, hasPercent other = false → applyAll f other = other := by
        intro other unsigned
        apply solves.settled
        intro name member
        rw [references_of_noPercent unsigned] at member
        exact absurd member List.not_mem_nil
      rw [Environment.expand]
      cases signed : hasPercent text with
      | false => simp [plain text signed]
      | true =>
          simp only [if_true, Environment.expandEnvironmentStrings]
          by_cases fixed : text = substitute environ.getenv text
          · have unchanged : applyAll f text = text :=
              solves.settled (settled_of_substitute ranked fixed.symm)
            simp [← fixed, unchanged]
          · have same : applyAll f (substitute environ.getenv text) = applyAll f text := solves.substitute text
            by_cases again : hasPercent (substitute environ.getenv text) = true
            · cases bound with
              | zero => exact absurd (substitute_settled below.settled).symm fixed
              | succ bound =>
                  have deeper : environ.expand depth (substitute environ.getenv text) =
                      some (applyAll f (substitute environ.getenv text)) :=
                    ih (below.substitute ranked) (by omega)
                  simp [fixed, again, deeper, same]
            · simp only [Bool.not_eq_true] at again
              simp [again, ← same, plain _ again]

variable {base : VariableName → Option VariableText}

def Between (base : VariableName → Option VariableText) (f : VariableName → VariableText) (environ : Environment) : Prop :=
  ∀ name, environ.getenv name = base name ∨
    ∃ text, base name = some text ∧ environ.getenv name = some (applyAll f text)

section Between

variable {environ : Environment} (between : Between base f environ)
include between

theorem Between.known_iff (name : VariableName) : environ.getenv name = none ↔ base name = none := by
  rcases between name with same | ⟨text, value, expanded⟩
  · rw [same]
  · simp [value, expanded]

variable (solves : Solves base f) (ranked : Ranked rank base)
include solves ranked

theorem solves_between : Solves environ.getenv f := by
  intro name
  rcases between name with same | ⟨text, value, expanded⟩
  · rw [same]
    exact solves name
  · rw [expanded, solves.of_known value]
    exact (solves.settled (solves.references_unknown ranked)).symm

theorem ranked_between : Ranked rank environ.getenv := by
  intro name text value other member known
  have baseKnown : base other ≠ none := fun unknown => known ((between.known_iff other).mpr unknown)
  rcases between name with same | ⟨old, oldValue, expanded⟩
  · exact ranked name text (same ▸ value) other member baseKnown
  · obtain rfl : applyAll f old = text := Option.some.inj (expanded.symm.trans value)
    exact absurd (solves.references_unknown ranked other member) baseKnown

end Between

def expandedWith (f : VariableName → VariableText) (setting : Setting) : Setting :=
  ⟨setting.name, applyAll f setting.value⟩

theorem expandLoop_run {bound : Nat} {entries : List Setting} {environ : Environment} (solves : Solves base f)
    (ranked : Ranked rank base) (filled : ∀ name, f name ≠ [])
    (values : ∀ setting ∈ entries, (∀ name : VariableName, name.key = setting.key → base name = some setting.value) ∧
      setting.value ≠ [] ∧ rank setting.name < bound)
    (between : Between base f environ) : ∃ later,
      (∀ depth, bound ≤ depth → expandLoop depth entries environ = some (entries.map (expandedWith f), later)) ∧
        ∀ name : VariableName, later.getenv name =
          if name.key ∈ entries.map Setting.key then (base name).map (applyAll f) else environ.getenv name := by
  induction entries generalizing environ with
  | nil => exact ⟨environ, fun _ _ => rfl, fun name => rfl⟩
  | cons setting entries ih =>
      obtain ⟨value, present, deep⟩ := values setting List.mem_cons_self
      have known : base setting.name = some setting.value := value setting.name rfl
      have expands : ∀ depth, bound ≤ depth → environ.expand depth setting.value = some (applyAll f setting.value) := by
        intro depth enough
        apply expand_eq (solves_between between solves ranked) (ranked_between between solves ranked) _
          (Nat.lt_of_lt_of_le deep enough)
        intro name member unknown
        exact ranked setting.name setting.value known name member
          fun absent => unknown ((between.known_iff name).mpr absent)
      have put : ∃ next, Between base f next ∧
          (∀ name : VariableName, next.getenv name =
            if name.key = setting.key then (base name).map (applyAll f) else environ.getenv name) ∧
          ∀ depth, bound ≤ depth → expandLoop depth (setting :: entries) environ =
            (expandLoop depth entries next).map fun rest => (expandedWith f setting :: rest.1, rest.2) := by
        cases signed : hasPercent setting.value with
        | false =>
            have unchanged : applyAll f setting.value = setting.value := by
              apply solves.settled
              intro name member
              rw [references_of_noPercent signed] at member
              exact absurd member List.not_mem_nil
            refine ⟨environ, between, fun name => ?_, fun depth _ => ?_⟩
            · split
              · rename_i same
                rcases between name with old | ⟨text, known, expanded⟩
                · rw [old, value name same, Option.map_some, unchanged]
                · rw [expanded, known, Option.map_some]
              · rfl
            · rw [expandLoop, signed, expandedWith, unchanged]
              cases expandLoop depth entries environ <;> rfl
        | true =>
            have stored : applyAll f setting.value ≠ [] := applyAll_ne_nil present fun name _ => filled name
            have found : ∀ name : VariableName, (environ.iccPutenv (expandedWith f setting)).getenv name =
                if name.key = setting.key then (base name).map (applyAll f) else environ.getenv name := by
              intro name
              rw [Environment.getenv_iccPutenv stored]
              by_cases same : name.key = setting.key
              · rw [if_pos same, value name same]
                exact if_pos same
              · rw [if_neg same]
                exact if_neg same
            refine ⟨environ.iccPutenv (expandedWith f setting), fun name => ?_, found, fun depth enough => ?_⟩
            · rw [found]
              split
              · rename_i same
                exact Or.inr ⟨setting.value, value name same, by rw [value name same]; rfl⟩
              · exact between name
            · rw [expandLoop, signed, if_pos rfl, expands depth enough]
              change (expandLoop depth entries (environ.iccPutenv (expandedWith f setting)) >>= _) = _
              cases expandLoop depth entries (environ.iccPutenv (expandedWith f setting)) <;> rfl
      obtain ⟨next, nextBetween, nextFound, goes⟩ := put
      obtain ⟨later, run, found⟩ :=
        ih (fun other member => values other (List.mem_cons_of_mem _ member)) nextBetween
      refine ⟨later, fun depth enough => by rw [goes depth enough, run depth enough]; rfl, fun name => ?_⟩
      rw [found, nextFound, List.map_cons]
      by_cases rest : name.key ∈ entries.map Setting.key
      · simp [rest]
      · simp [rest]

end Expand

section Pass

variable {rank : VariableName → Nat} {f : VariableName → VariableText} {original environ : Environment}

theorem getenv_alike {name other : VariableName} (same : name.key = other.key) (environ : Environment) :
    environ.getenv name = environ.getenv other := by
  rw [Environment.getenv_eq, Environment.getenv_eq, same]

theorem expandPass_run (solves : Solves environ.getenv f) (ranked : Ranked rank environ.getenv)
    (filled : ∀ name text, environ.getenv name = some text → text ≠ [])
    (originalFilled : ∀ name text, original.getenv name = some text → text ≠ []) : ∃ later : Environment,
      (∃ bound, ∀ depth, bound ≤ depth →
        expandPass depth original.entries environ.entries environ = some (later.entries, later)) ∧
        ∀ name, later.getenv name = (original.getenv name).or ((environ.getenv name).map (applyAll f)) := by
  obtain ⟨bound, below⟩ := exists_rank_bound rank (environ.entries.map Setting.name)
  have filledAll : ∀ name, f name ≠ [] := solves.ne_nil ranked filled
  have values : ∀ setting ∈ environ.entries,
      (∀ name : VariableName, name.key = setting.key → environ.getenv name = some setting.value) ∧
        setting.value ≠ [] ∧ rank setting.name < bound := by
    intro setting member
    have value : environ.getenv setting.name = some setting.value := Environment.getenv_of_mem member
    exact ⟨fun name same => (getenv_alike same environ).trans value, filled _ _ value,
      below _ (List.mem_map_of_mem member)⟩
  obtain ⟨expanded, run, found⟩ :=
    expandLoop_run solves ranked filledAll values fun name => Or.inl rfl
  have keys : (environ.entries.map (expandedWith f)).map Setting.key = environ.entries.map Setting.key := by
    rw [List.map_map]
    rfl
  have put : ∀ setting ∈ environ.entries.map (expandedWith f), setting.value ≠ [] := by
    intro setting member
    obtain ⟨old, present, rfl⟩ := List.mem_map.mp member
    exact applyAll_ne_nil (values old present).2.1 fun name _ => filledAll name
  have back : ∀ setting ∈ original.entries, setting.value ≠ [] :=
    fun setting member => originalFilled _ _ (Environment.getenv_of_mem member)
  refine ⟨_, ⟨bound, fun depth enough => by rw [expandPass, run depth enough]; rfl⟩, fun name => ?_⟩
  rw [Environment.getenv_foldl original.distinct back,
    Environment.getenv_foldl (keys ▸ environ.distinct) put, found]
  have again : valueIn (environ.entries.map (expandedWith f)) name.key = (environ.getenv name).map (applyAll f) :=
    valueIn_map (applyAll f) environ.entries name.key
  rw [again, Environment.getenv_eq original]
  congr 1
  by_cases known : name.key ∈ environ.entries.map Setting.key
  · rw [if_pos known, Option.or_self]
  · rw [if_neg known, Environment.getenv_eq, valueIn_eq_none known]
    rfl

end Pass

def overlay (first second : Environment) (name : VariableName) : Option VariableText :=
  (first.getenv name).or (second.getenv name)

def Filled (environ : Environment) : Prop := ∀ name text, environ.getenv name = some text → text ≠ []

def Plain (environ : Environment) : Prop := ∀ name text, environ.getenv name = some text → references text = []

def ConfiguredOver (original configuration live : Environment) : Prop :=
  ∀ name, match configuration.getenv name with
    | some text => live.getenv name = some text
    | none => live.getenv name = original.getenv name ∨ live.getenv name = none

section Passes

variable {rank : VariableName → Nat} {f : VariableName → VariableText} {original configuration live : Environment}

theorem Filled.expanded (filled : Filled live) (solves : Solves live.getenv f) (ranked : Ranked rank live.getenv)
    (originalFilled : Filled original) {later : Environment}
    (found : ∀ name, later.getenv name = (original.getenv name).or ((live.getenv name).map (applyAll f))) :
    Filled later := by
  intro name text value
  rw [found] at value
  rcases Option.or_eq_some_iff.mp value with own | ⟨_, expanded⟩
  · exact originalFilled name text own
  · obtain ⟨old, known, rfl⟩ := Option.map_eq_some_iff.mp expanded
    exact applyAll_ne_nil (filled name old known) fun other _ => solves.ne_nil ranked filled other

theorem overlay_ranked (ranked : Ranked rank configuration.getenv) (plain : Plain original) :
    ∃ wideRank, Ranked wideRank (overlay configuration original) := by
  apply ranked.extend
  intro name text value
  rcases Option.or_eq_some_iff.mp value with configured | ⟨_, own⟩
  · exact Or.inl configured
  · exact Or.inr (plain name text own)

section FirstPasses

variable {first second : Environment} {g h : VariableName → VariableText}
  (configured : ConfiguredOver original configuration live) (plain : Plain original)
include configured

theorem ConfiguredOver.of_some {name : VariableName} {text : VariableText} (known : configuration.getenv name = some text) :
    live.getenv name = some text := by
  have value := configured name
  rwa [known] at value

theorem ConfiguredOver.of_none {name : VariableName} (unknown : configuration.getenv name = none) :
    live.getenv name = original.getenv name ∨ live.getenv name = none := by
  have value := configured name
  rwa [unknown] at value

include plain

theorem ConfiguredOver.ranked (ranked : Ranked rank configuration.getenv) : ∃ liveRank, Ranked liveRank live.getenv := by
  apply ranked.extend
  intro name text value
  cases known : configuration.getenv name with
  | some own =>
      rw [configured.of_some known] at value
      exact Or.inl value
  | none =>
      rcases configured.of_none known with same | absent
      · exact Or.inr (plain name text (same ▸ value))
      · rw [absent] at value
        cases value

variable (firstSolves : Solves live.getenv f)
  (firstFound : ∀ name, first.getenv name = (original.getenv name).or ((live.getenv name).map (applyAll f)))
include firstSolves firstFound

omit configured in
theorem firstPass_ranked (ranked : Ranked rank live.getenv) :
    Ranked (fun name => if original.getenv name = none then 1 else 0) first.getenv := by
  intro name text value other member known
  rw [firstFound] at value
  rcases Option.or_eq_some_iff.mp value with own | ⟨missing, expanded⟩
  · rw [plain name text own] at member
    exact absurd member List.not_mem_nil
  · obtain ⟨old, _, rfl⟩ := Option.map_eq_some_iff.mp expanded
    have unknown : live.getenv other = none := firstSolves.references_unknown ranked other member
    have own : original.getenv other ≠ none := by
      intro missing
      rw [firstFound, missing, unknown] at known
      exact known rfl
    simp [missing, own]

theorem solves_overlay (secondSolves : Solves first.getenv g) :
    Solves (overlay configuration original) fun name => applyAll g (f name) := by
  intro name
  cases known : configuration.getenv name with
  | some text =>
      have value : f name = applyAll f text := firstSolves.of_known (configured.of_some known)
      simp only [overlay, known, Option.some_or, value]
      exact applyAll_applyAll g f text
  | none =>
      cases own : original.getenv name with
      | some text =>
          have unchanged : ∀ h : VariableName → VariableText, applyAll h text = text := by
            intro h
            apply applyAll_self
            intro other member
            rw [plain name text own] at member
            exact absurd member List.not_mem_nil
          simp only [overlay, known, own, Option.none_or, unchanged]
          rcases configured.of_none known with same | absent
          · rw [firstSolves.of_known (same.trans own), unchanged, unchanged]
          · rw [firstSolves.of_unknown absent]
            have value : first.getenv name = some text := by
              rw [firstFound, own]
              rfl
            exact (List.append_nil _).trans ((secondSolves.of_known value).trans (unchanged g))
      | none =>
          have absent : live.getenv name = none := by
            rcases configured.of_none known with same | absent
            · exact same.trans own
            · exact absent
          have still : first.getenv name = none := by
            rw [firstFound, own, absent]
            rfl
          simp only [overlay, known, own, Option.none_or, firstSolves.of_unknown absent]
          exact (List.append_nil _).trans (secondSolves.of_unknown still)

omit plain firstSolves in
theorem secondPass_getenv
    (secondFound : ∀ name, second.getenv name = (original.getenv name).or ((first.getenv name).map (applyAll g)))
    (name : VariableName) : second.getenv name =
      (original.getenv name).or ((configuration.getenv name).map (applyAll fun name => applyAll g (f name))) := by
  rw [secondFound, firstFound]
  cases own : original.getenv name with
  | some text => rfl
  | none =>
      cases known : configuration.getenv name with
      | some text =>
          rw [configured.of_some known]
          exact congrArg some (applyAll_applyAll g f text)
      | none =>
          rcases configured.of_none known with same | absent
          · rw [same, own]
            rfl
          · rw [absent]
            rfl

end FirstPasses

theorem iccExpandEnv_run (ranked : Ranked rank configuration.getenv) (configured : ConfiguredOver original configuration live)
    (plain : Plain original) (originalFilled : Filled original) (filled : Filled live) :
    ∃ g, Solves (overlay configuration original) g ∧ ∃ later : Environment,
      (∃ bound, ∀ depth, bound ≤ depth →
        iccExpandEnv depth original.entries live.entries live = some (later.entries, later)) ∧
        ∀ name, later.getenv name = (original.getenv name).or ((configuration.getenv name).map (applyAll g)) := by
  obtain ⟨liveRank, liveRanked⟩ := configured.ranked plain ranked
  obtain ⟨f, firstSolves⟩ := exists_solves liveRanked
  obtain ⟨first, ⟨firstBound, firstRun⟩, firstFound⟩ := expandPass_run firstSolves liveRanked filled originalFilled
  have firstFilled : Filled first := filled.expanded firstSolves liveRanked originalFilled firstFound
  have firstRanked := firstPass_ranked plain firstSolves firstFound liveRanked
  obtain ⟨g, secondSolves⟩ := exists_solves firstRanked
  obtain ⟨second, ⟨secondBound, secondRun⟩, secondFound⟩ :=
    expandPass_run secondSolves firstRanked firstFilled originalFilled
  have secondFilled : Filled second := firstFilled.expanded secondSolves firstRanked originalFilled secondFound
  have solves := solves_overlay configured plain firstSolves firstFound secondSolves
  have found := secondPass_getenv configured firstFound secondFound
  obtain ⟨wideRank, wideRanked⟩ := overlay_ranked ranked plain
  have settled : ∀ name text, second.getenv name = some text →
      ∀ other ∈ references text, second.getenv other = none := by
    intro name text value other member
    rw [found] at value
    rcases Option.or_eq_some_iff.mp value with own | ⟨_, expanded⟩
    · rw [plain name text own] at member
      exact absurd member List.not_mem_nil
    · obtain ⟨old, _, rfl⟩ := Option.map_eq_some_iff.mp expanded
      obtain ⟨unset, missing⟩ := Option.or_eq_none_iff.mp (solves.references_unknown wideRanked other member)
      rw [found, missing, unset]
      rfl
  have secondRanked : Ranked (fun _ => 0) second.getenv := Ranked.of_settled settled
  obtain ⟨h, thirdSolves⟩ := exists_solves secondRanked
  obtain ⟨third, ⟨thirdBound, thirdRun⟩, thirdFound⟩ :=
    expandPass_run thirdSolves secondRanked secondFilled originalFilled
  refine ⟨_, solves, third, ⟨max firstBound (max secondBound thirdBound), fun depth enough => ?_⟩, fun name => ?_⟩
  · rw [iccExpandEnv, firstRun depth (by omega)]
    change (expandPass depth original.entries first.entries first >>= _) = _
    rw [secondRun depth (by omega)]
    exact thirdRun depth (by omega)
  · have unchanged : (second.getenv name).map (applyAll h) = second.getenv name := by
      cases value : second.getenv name with
      | none => rfl
      | some text => exact congrArg some (thirdSolves.settled (settled name text value))
    rw [thirdFound, unchanged, found]
    cases original.getenv name with
    | some text => rfl
    | none => rfl

end Passes

end ServiceHost
