import ServiceHost.Configuration.StringExpanderCore

/-!
`CfgReader::GetExpandedConfiguration`, for a user and for a role. What the sessions and the
queries of the database come to is given. The arrays have a slot for each counted parameter.
-/

namespace ServiceHost.Configuration

open Library

abbrev HResult := Int

def sOk : HResult := 0

def eInvalidArg : HResult := -0x7FF8FFA9

def succeeded (result : HResult) : Prop := 0 ≤ result

instance (result : HResult) : Decidable (succeeded result) := inferInstanceAs (Decidable (0 ≤ result))

/-- A `bool` that is returned as a result code. -/
def ofBool : Bool → HResult
  | false => 0
  | true => 1

abbrev SafeArray := List (Option Text)

structure Outputs where
  pname : Option SafeArray
  pvalue : Option SafeArray
  bResult : Option Int
deriving DecidableEq

def Outputs.untouched : Outputs := ⟨none, none, none⟩

structure Session where
  /-- Whether `server_attach_session_init` succeeds. -/
  attaches : Bool
  /-- Whether `session_reopen` throws no exception. -/
  reopens : Bool
  connected : Bool
  /-- The rows of `getConfigurationWithGroup`, if it throws no exception. -/
  rows : Option (List (Text × Text))
  /-- A `_com_error` while the arrays are made and filled. -/
  comError : Option HResult
  /-- Whether `session_end` throws no exception. -/
  ends : Bool

/-- `std::map::insert` keeps a value that is there, and tells whether it has inserted one. -/
def insert (m : CfgMap) (key value : Text) : CfgMap × Bool :=
  if m.contains key then (m, false) else (m.set key value, true)

def createSafeArray (count : Nat) : SafeArray := List.replicate count none

def put (values : List Text) (array : SafeArray) : SafeArray :=
  values.zipIdx.foldl (fun array entry => array.set entry.2 (some entry.1)) array

def nameValueMap (userName computerName : Text) (rows : List (Text × Text)) : CfgMap × Nat :=
  let (m, inserted) := insert SortedEntries.empty (ascii "USERNAME") userName
  let configCountOut := if inserted then rows.length + 1 else rows.length
  let (m, inserted) := insert m (ascii "COMPUTERNAME") computerName
  let configCountOut := if inserted then configCountOut + 1 else configCountOut
  (rows.foldl (fun m row => (insert m row.1 row.2).1) m, configCountOut)

def getExpandedConfigurationInternal (session : Session) (osUser computerName : Option Text) (outputs : Outputs) :
    Option (Bool × Outputs) :=
  if session.connected then
    match session.rows with
    | none => none
    | some rows =>
        let userName := osUser.getD []
        let cName := computerName.getD []
        match session.comError with
        | some error => some (error = sOk, outputs)
        | none =>
            let (m, configCountOut) := nameValueMap userName cName rows
            let expanded := (expandMap m).1
            some (true,
              { pname := some (put expanded.keys (createSafeArray configCountOut))
                pvalue := some (put expanded.values (createSafeArray configCountOut))
                bResult := some configCountOut })
  else some (false, outputs)

/-- The part that both methods share: the body runs in a session, and what it throws is invalid.
What the body has put into the outputs stays there. -/
def inSession (session : Session) (body : Option (HResult × Outputs)) (outputs : Outputs) : HResult × Outputs :=
  if session.attaches then
    if session.reopens then
      match body with
      | none => (eInvalidArg, outputs)
      | some (retVal, outputs) => if session.ends then (retVal, outputs) else (eInvalidArg, outputs)
    else (eInvalidArg, outputs)
  else (eInvalidArg, outputs)

def getExpandedConfiguration (session : Session) (osUser computerName : Option Text) (outputs : Outputs) :
    HResult × Outputs :=
  inSession session
    ((getExpandedConfigurationInternal session osUser computerName outputs).map fun result => (ofBool result.1, result.2))
    outputs

/-- The user of the role is what the query of it gives, if it throws no exception. -/
def getExpandedConfigurationByRole (session : Session) (roleUser : Option Text) (computerName : Option Text)
    (outputs : Outputs) : HResult × Outputs :=
  inSession session
    (match roleUser with
    | none => none
    | some username =>
        if username.length > 0 then
          (getExpandedConfigurationInternal session (some username) computerName outputs).map fun result =>
            (ofBool result.1, result.2)
        else some (sOk, { outputs with bResult := some (-3) }))
    outputs

end ServiceHost.Configuration
