import ServiceHost.Library.References
import Mathlib.Data.List.Nodup

/-!
`icc_env_setup_internal`: the configuration is put over the environment of the
process and expanded, and the original environment is put back over it. A value is
a text of characters and of references such as `%NAME%`; a percent sign that does
not belong to a reference is a character. Names have neither percent nor equals
signs, and texts are short enough for the buffers. The depth bounds the recursion
of `expand`, which does not end where references form a cycle.
-/

namespace ServiceHost

open Library

abbrev VariableName := List Char

abbrev VariableText := List (Piece VariableName Char)

/-- A string `NAME=VALUE`. -/
structure Setting where
  name : VariableName
  value : VariableText
deriving DecidableEq

def VariableName.key (name : VariableName) : VariableName := name.map Char.toUpper

def Setting.key (setting : Setting) : VariableName := setting.name.key

def textOf (characters : String) : VariableText := characters.toList.map .character

/-- Whether `strchr` finds a percent sign. -/
def hasPercent (text : VariableText) : Bool :=
  text.any fun piece =>
    match piece with
    | .character c => c = '%'
    | .reference _ => true

/-- The variables of a process, in the order of `_environ`. -/
structure Environment where
  entries : List Setting
  distinct : (entries.map Setting.key).Nodup

namespace Environment

def empty : Environment := ⟨[], List.nodup_nil⟩

def getenv (environ : Environment) (name : VariableName) : Option VariableText :=
  (environ.entries.find? fun setting => setting.key = name.key).map Setting.value

def remove (environ : Environment) (key : VariableName) : Environment where
  entries := environ.entries.filter fun setting => setting.key ≠ key
  distinct := environ.distinct.sublist (List.filter_sublist.map _)

def replaceEntry (setting : Setting) (entry : Setting) : Setting :=
  if entry.key = setting.key then setting else entry

theorem replaceEntry_key (setting entry : Setting) : (replaceEntry setting entry).key = entry.key := by
  rw [replaceEntry]
  split
  · rename_i same
    exact same.symm
  · rfl

def replace (environ : Environment) (setting : Setting) : Environment where
  entries := environ.entries.map (replaceEntry setting)
  distinct := by
    have keys : (environ.entries.map (replaceEntry setting)).map Setting.key = environ.entries.map Setting.key := by
      rw [List.map_map]
      exact List.map_congr_left fun entry _ => replaceEntry_key setting entry
    rw [keys]
    exact environ.distinct

def add (environ : Environment) (setting : Setting) (fresh : setting.key ∉ environ.entries.map Setting.key) :
    Environment where
  entries := environ.entries ++ [setting]
  distinct := by
    rw [List.map_append]
    exact List.Nodup.append environ.distinct (List.nodup_singleton _) (List.disjoint_singleton.mpr fresh)

/-- `_putenv`: an empty value removes the variable. -/
def putenv (environ : Environment) (setting : Setting) : Environment :=
  if setting.value = [] then environ.remove setting.key
  else if known : setting.key ∈ environ.entries.map Setting.key then environ.replace setting
  else environ.add setting known

/-- Whether `strstr` finds `ABAT_`. -/
def isAbat (name : VariableName) : Bool := name.tails.any fun rest => "ABAT_".toList.isPrefixOf rest

/-- `icc_putenv`: an empty value clears a variable that is set. -/
def iccPutenv (environ : Environment) (setting : Setting) : Environment :=
  if setting.value ≠ [] then environ.putenv setting
  else if isAbat setting.name then environ
  else if (environ.getenv setting.name).isSome then environ.putenv setting
  else environ

/-- Every `%N%` of a known variable is replaced by its value, in one pass. -/
def expandEnvironmentStrings (environ : Environment) (text : VariableText) : VariableText := substitute environ.getenv text

/-- `expand`: as long as the text changes and has percent signs, it is expanded again. -/
def expand : Nat → Environment → VariableText → Option VariableText
  | 0, _, _ => none
  | depth + 1, environ, s =>
      if hasPercent s then
        let buffer := environ.expandEnvironmentStrings s
        let recurse : Bool := s ≠ buffer
        if recurse && hasPercent buffer then expand depth environ buffer else some buffer
      else some s

end Environment

open Environment

section Setup

variable (depth : Nat)

/-- The first loop of a pass, over the strings of `Powel_env`. -/
def expandLoop : List Setting → Environment → Option (List Setting × Environment)
  | [], environ => some ([], environ)
  | setting :: rest, environ =>
      if hasPercent setting.value then do
        let s ← expand depth environ setting.value
        let (expanded, environ) ← expandLoop rest (environ.iccPutenv ⟨setting.name, s⟩)
        return (⟨setting.name, s⟩ :: expanded, environ)
      else do
        let (expanded, environ) ← expandLoop rest environ
        return (setting :: expanded, environ)

/-- A pass of `icc_expand_env`; the new `Powel_env` is a copy of the environment. -/
def expandPass (original : List Setting) (powelEnv : List Setting) (environ : Environment) :
    Option (List Setting × Environment) := do
  let (expanded, environ) ← expandLoop depth powelEnv environ
  let environ := expanded.foldl iccPutenv environ
  let environ := original.foldl iccPutenv environ
  return (environ.entries, environ)

def iccExpandEnv (original : List Setting) (powelEnv : List Setting) (environ : Environment) :
    Option (List Setting × Environment) := do
  let (powelEnv, environ) ← expandPass depth original powelEnv environ
  let (powelEnv, environ) ← expandPass depth original powelEnv environ
  expandPass depth original powelEnv environ

/-- `icc_db_setup_`: the settings of the server are put to the environment as they are. -/
def iccDbSetup (settings : List Setting) (environ : Environment) : List Setting × Environment :=
  let environ := settings.foldl iccPutenv environ
  (environ.entries, environ)

/-- `envhandler` for each of the settings that are read from the registry. -/
def readSettings : List Setting → List Setting → Environment → Option (List Setting × Environment)
  | [], powelEnv, environ => some (powelEnv, environ)
  | setting :: rest, powelEnv, environ => do
      let s ← expand depth environ setting.value
      readSettings rest (powelEnv ++ [⟨setting.name, s⟩]) (environ.iccPutenv ⟨setting.name, s⟩)

/-- Where the settings come from. The registry may end with an error. -/
structure ConfigurationSource where
  server : List Setting
  registry : List Setting
  registryRead : Bool

/-- `icc_env_setup_`, which reads from the registry. -/
def iccEnvSetup (original : List Setting) (source : ConfigurationSource) (environ : Environment) :
    Option (List Setting × Environment) := do
  let (powelEnv, environ) ← readSettings depth source.registry [] environ
  if source.registryRead then iccExpandEnv depth original powelEnv environ else return (powelEnv, environ)

def setTempDir (environ : Environment) : Environment :=
  let tmpstr := match environ.getenv "ICC_TMP".toList with
    | some tmp => tmp
    | none => (environ.getenv "TMP".toList).getD (textOf "(null)")
  (environ.iccPutenv ⟨"TMPDIR".toList, tmpstr⟩).iccPutenv ⟨"TEMPDIR".toList, tmpstr⟩

def setHomeDrive (environ : Environment) : Environment :=
  match environ.getenv "ICC_HOMEDRIVE".toList with
  | some tmpstr => environ.iccPutenv ⟨"HOMEDRIVE".toList, tmpstr⟩
  | none => environ

def uniqueEnvId (pid : Nat) : VariableName := "ICC_ENV_".toList ++ (toString pid).toList

def loadConfiguration (original : List Setting) (source : ConfigurationSource) (environ : Environment) :
    Option (List Setting × Environment) :=
  if (environ.getenv "ICC_NO_CFGSERVER".toList).isNone then
    let dbenv := iccDbSetup source.server environ
    iccExpandEnv depth original dbenv.1 dbenv.2
  else iccEnvSetup depth original source environ

/-- The first call of `icc_env_setup_internal` in a process: what it returns, and the
environment that it leaves. -/
def iccEnvSetupInternal (pid : Nat) (source : ConfigurationSource) (environ : Environment) :
    Option (List Setting × Environment) :=
  let original := environ.entries
  if (environ.getenv (uniqueEnvId pid)).isSome then iccExpandEnv depth original [] environ
  else do
    let environ := environ.putenv ⟨uniqueEnvId pid, textOf "LOADED"⟩
    let (_, environ) ← loadConfiguration depth original source environ
    let environ := setHomeDrive (setTempDir environ)
    return (environ.entries, environ)

end Setup

end ServiceHost
