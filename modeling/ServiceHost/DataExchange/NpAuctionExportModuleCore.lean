import ServiceHost.Library.Program
import ServiceHost.Library.Runs
import ServiceHost.DataExchange.QueueCore

/-!
`NpAuctionExportModule.Connect`: the module asks Nord Pool on behalf of one operator after
another. A client is known by the credentials that its requests fetch a token with.
-/

namespace ServiceHost.DataExchange.NpAuction

open Library

structure AuthenticationParameters where
  username : String
  password : String
  clientId : String
  clientSecret : String
deriving DecidableEq, Repr

/-- A row of `oprtunit`, with its secrets decrypted. -/
structure OperatorUnit where
  npUser : Option String
  npPassword : Option String
  npClientName : Option String
  npClientSecret : Option String

inductive ConnectionState
  | opened
  | closed
deriving DecidableEq, Repr

structure NpAuctionExportModule where
  authCache : Int → Option AuthenticationParameters
  currentOpunKey : Int
  dbConn : Option ConnectionState
  apiClient : Option AuthenticationParameters

def newModule : NpAuctionExportModule where
  authCache := fun _ => none
  currentOpunKey := 0
  dbConn := none
  apiClient := none

/-- What becomes of the two clients that a logon makes. An exception of the second one is
only logged, and no client is left. -/
inductive LogonOutcome
  | ssoClientRaises (exception : SystemException)
  | noAuctionClient
  | connected
deriving DecidableEq

structure ConnectOutcomes where
  openConnection : Option SystemException
  commandToDataTable : Option SystemException
  logon : LogonOutcome

def getAuthenticationParameters (operators : Int → Option OperatorUnit) (opunKey : Int) :
    Option AuthenticationParameters := do
  let row ← operators opunKey
  let username ← row.npUser
  let password ← row.npPassword
  let clientId ← row.npClientName
  let clientSecret ← row.npClientSecret
  pure { username, password, clientId, clientSecret }

abbrev Connecting (A : Type) := Program NpAuctionExportModule SystemException A

def authCacheItem (opunKey : Int) : Connecting AuthenticationParameters := do
  let authCache ← Program.read NpAuctionExportModule.authCache
  match authCache opunKey with
  | some auth => pure auth
  | none => Program.raise (.other "KeyNotFoundException")

def openConnection (outcomes : ConnectOutcomes) : Connecting Unit := do
  let dbConn ← Program.read NpAuctionExportModule.dbConn
  if dbConn = none then do
    Program.call outcomes.openConnection
    Program.change fun module => { module with dbConn := some .opened }
  else pure ()

def cacheCredentials (operators : Int → Option OperatorUnit) (outcomes : ConnectOutcomes) (opunKey : Int) :
    Connecting Unit := do
  openConnection outcomes
  Program.call outcomes.commandToDataTable
  match getAuthenticationParameters operators opunKey with
  | none => Program.raise (.invalidMetadata 0)
  | some dbAuth =>
      Program.change fun module =>
        { module with authCache := Function.update module.authCache opunKey (some dbAuth), currentOpunKey := opunKey }

def disconnect : Connecting Unit :=
  Program.change fun module =>
    { module with dbConn := module.dbConn.map fun _ => .closed, apiClient := none }

def reconnect (outcomes : ConnectOutcomes) : Connecting Unit := do
  disconnect
  let currentOpunKey ← Program.read NpAuctionExportModule.currentOpunKey
  let auth ← authCacheItem currentOpunKey
  match outcomes.logon with
  | .ssoClientRaises exception => Program.raise exception
  | .noAuctionClient => Program.change fun module => { module with apiClient := none }
  | .connected => Program.change fun module => { module with apiClient := some auth }

/-- The credentials that were current, or those of the cache for another operator. -/
def switchOperator (operators : Int → Option OperatorUnit) (outcomes : ConnectOutcomes) (opunKey : Int)
    (auth : Option AuthenticationParameters) : Connecting (Option AuthenticationParameters) := do
  let authCache ← Program.read NpAuctionExportModule.authCache
  match authCache opunKey with
  | some cached => do
      Program.change fun module => { module with currentOpunKey := opunKey }
      pure (some cached)
  | none => do
      cacheCredentials operators outcomes opunKey
      pure auth

def connect (operators : Int → Option OperatorUnit) (outcomes : ConnectOutcomes) (opunKey : Int) :
    Connecting Unit := do
  let currentOpunKey ← Program.read NpAuctionExportModule.currentOpunKey
  let auth ← if currentOpunKey ≠ 0 then some <$> authCacheItem currentOpunKey else pure none
  if opunKey ≠ currentOpunKey then do
    let auth ← switchOperator operators outcomes opunKey auth
    let current ← authCacheItem opunKey
    if auth = some current then pure () else reconnect outcomes
  else pure ()

/-- One call of `Connect`, and what its collaborators answer. -/
structure ConnectCall where
  opunKey : Int
  outcomes : ConnectOutcomes

def connectStep (operators : Int → Option OperatorUnit) (module : NpAuctionExportModule) (call : ConnectCall) :
    NpAuctionExportModule :=
  (connect operators call.outcomes call.opunKey module).2

end ServiceHost.DataExchange.NpAuction
