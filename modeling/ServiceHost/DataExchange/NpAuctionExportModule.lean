import Mathlib.Logic.Function.Basic
import ServiceHost.DataExchange.NpAuctionExportModuleCore

/-!
As whom the module speaks to Nord Pool. A new operator gets a new client; an operator that
comes back from the cache is left with the client of the one before, because `Connect`
compares its credentials with themselves.
-/

namespace ServiceHost.DataExchange.NpAuction

open Library

variable {operators : Int → Option OperatorUnit} {module : NpAuctionExportModule} {outcomes : ConnectOutcomes}
  {opunKey : Int} {auth : AuthenticationParameters}

def LoggedOnAs (operators : Int → Option OperatorUnit) (opunKey : Int) (module : NpAuctionExportModule) : Prop :=
  ∃ auth, getAuthenticationParameters operators opunKey = some auth ∧ module.apiClient = some auth

def Refused (operators : Int → Option OperatorUnit) (call : ConnectCall) (module : NpAuctionExportModule) : Prop :=
  module.dbConn = none ∧ call.outcomes.openConnection ≠ none ∨ call.outcomes.commandToDataTable ≠ none ∨
    getAuthenticationParameters operators call.opunKey = none

def KeepsClient (operators : Int → Option OperatorUnit) (module : NpAuctionExportModule) (opunKey : Int) : Prop :=
  opunKey = module.currentOpunKey ∨
    getAuthenticationParameters operators opunKey = module.authCache module.currentOpunKey ∧
      (module.authCache opunKey = none → module.currentOpunKey ≠ 0)

inductive Connects (operators : Int → Option OperatorUnit) (module : NpAuctionExportModule) (call : ConnectCall) : Prop
  | kept (keeps : KeepsClient operators module call.opunKey) (auth : AuthenticationParameters)
      (client : module.apiClient = some auth)
  | renewed (needs : ¬ KeepsClient operators module call.opunKey) (new : module.authCache call.opunKey = none)
      (logon : call.outcomes.logon ≠ .noAuctionClient)
  | refused (other : call.opunKey ≠ module.currentOpunKey) (new : module.authCache call.opunKey = none)
      (fails : Refused operators call module)

structure Consistent (operators : Int → Option OperatorUnit) (module : NpAuctionExportModule) : Prop where
  cached : ∀ opunKey auth, module.authCache opunKey = some auth →
    getAuthenticationParameters operators opunKey = some auth
  current : module.currentOpunKey ≠ 0 → ∃ auth, module.authCache module.currentOpunKey = some auth
  client : ∀ auth, module.apiClient = some auth → module.authCache module.currentOpunKey = some auth

theorem newModule_consistent (operators : Int → Option OperatorUnit) : Consistent operators newModule :=
  ⟨by simp [newModule], by simp [newModule], by simp [newModule]⟩

def currentAuth (module : NpAuctionExportModule) : Option AuthenticationParameters :=
  if module.currentOpunKey ≠ 0 then module.authCache module.currentOpunKey else none

section Runs

theorem authCacheItem_run (cached : module.authCache opunKey = some auth) :
    authCacheItem opunKey module = (.ok auth, module) := by
  simp [authCacheItem, bind, cached]

theorem connect_run (consistent : Consistent operators module) (outcomes : ConnectOutcomes) (opunKey : Int) :
    connect operators outcomes opunKey module =
      (if opunKey ≠ module.currentOpunKey then do
        let auth ← switchOperator operators outcomes opunKey (currentAuth module)
        let current ← authCacheItem opunKey
        if auth = some current then pure () else reconnect outcomes
      else pure () : Connecting Unit) module := by
  unfold connect currentAuth
  rw [Program.bind_of_ok (Program.read_run _ _)]
  by_cases zero : module.currentOpunKey = 0
  · simp only [zero, ne_eq, not_true_eq_false, ↓reduceIte]
    exact Program.bind_of_ok (Program.pure_run none module)
  · obtain ⟨auth, cached⟩ := consistent.current zero
    simp only [ne_eq, zero, not_false_eq_true, ↓reduceIte, cached]
    exact Program.bind_of_ok ((Program.bind_of_ok (authCacheItem_run cached)).trans rfl)

theorem connect_current (consistent : Consistent operators module) (outcomes : ConnectOutcomes) :
    connect operators outcomes module.currentOpunKey module = (.ok (), module) := by
  rw [connect_run consistent]
  simp

theorem connect_cached (consistent : Consistent operators module) (outcomes : ConnectOutcomes)
    (other : opunKey ≠ module.currentOpunKey) (cached : module.authCache opunKey = some auth) :
    connect operators outcomes opunKey module = (.ok (), { module with currentOpunKey := opunKey }) := by
  have switched : switchOperator operators outcomes opunKey (currentAuth module) module =
      (.ok (some auth), { module with currentOpunKey := opunKey }) := by
    simp [switchOperator, bind, cached]
  have item : authCacheItem opunKey { module with currentOpunKey := opunKey } =
      (.ok auth, { module with currentOpunKey := opunKey }) := authCacheItem_run cached
  rw [connect_run consistent, if_pos other, Program.bind_of_ok switched, Program.bind_of_ok item, if_pos rfl]
  rfl

def cachedModule (opunKey : Int) (auth : AuthenticationParameters) (dbConn : Option ConnectionState)
    (module : NpAuctionExportModule) : NpAuctionExportModule :=
  { module with
    authCache := Function.update module.authCache opunKey (some auth)
    currentOpunKey := opunKey
    dbConn := dbConn }

theorem openConnection_run (opens : module.dbConn = none → outcomes.openConnection = none) :
    openConnection outcomes module = (.ok (), { module with dbConn := some (module.dbConn.getD .opened) }) := by
  cases connected : module.dbConn with
  | none => simp [openConnection, bind, connected, opens connected]
  | some state =>
      have same : { module with dbConn := some state } = module := by rw [← connected]
      simp [openConnection, bind, connected, same]

theorem cacheCredentials_run {call : ConnectCall} (accepted : ¬ Refused operators call module) : ∃ auth dbConn,
    getAuthenticationParameters operators call.opunKey = some auth ∧
      cacheCredentials operators call.outcomes call.opunKey module =
        (.ok (), cachedModule call.opunKey auth dbConn module) := by
  simp only [Refused, not_or, not_and, not_not] at accepted
  obtain ⟨opens, reads, known⟩ := accepted
  obtain ⟨auth, found⟩ := Option.ne_none_iff_exists'.mp known
  refine ⟨auth, some (module.dbConn.getD .opened), found, ?_⟩
  unfold cacheCredentials
  rw [Program.bind_of_ok (openConnection_run opens), reads]
  simp [bind, found, cachedModule]

theorem cacheCredentials_refused {call : ConnectCall} (fails : Refused operators call module) : ∃ exception dbConn,
    cacheCredentials operators call.outcomes call.opunKey module =
      (.error exception, { module with dbConn := dbConn }) := by
  by_cases opens : module.dbConn = none → call.outcomes.openConnection = none
  · have opened := openConnection_run opens
    cases reads : call.outcomes.commandToDataTable with
    | some exception =>
        refine ⟨exception, some (module.dbConn.getD .opened), (Program.bind_of_ok opened).trans ?_⟩
        rw [reads]
        rfl
    | none =>
        have unknown : getAuthenticationParameters operators call.opunKey = none := by
          rcases fails with ⟨closed, raises⟩ | raises | unknown
          · exact absurd (opens closed) raises
          · exact absurd reads raises
          · exact unknown
        refine ⟨.invalidMetadata 0, some (module.dbConn.getD .opened), (Program.bind_of_ok opened).trans ?_⟩
        rw [reads, unknown]
        rfl
  · simp only [Classical.not_imp] at opens
    obtain ⟨closed, raises⟩ := opens
    obtain ⟨exception, raises⟩ := Option.ne_none_iff_exists'.mp raises
    have refused : openConnection call.outcomes module = (.error exception, module) := by
      simp [openConnection, bind, closed, raises]
    have same : { module with dbConn := none } = module := by rw [← closed]
    exact ⟨exception, none, (Program.bind_of_error refused).trans (by rw [same])⟩

theorem connect_refused (consistent : Consistent operators module) {call : ConnectCall}
    (other : call.opunKey ≠ module.currentOpunKey) (new : module.authCache call.opunKey = none)
    (fails : Refused operators call module) : ∃ exception dbConn,
      connect operators call.outcomes call.opunKey module = (.error exception, { module with dbConn := dbConn }) := by
  obtain ⟨exception, dbConn, refused⟩ := cacheCredentials_refused fails
  refine ⟨exception, dbConn, ?_⟩
  have switched : switchOperator operators call.outcomes call.opunKey (currentAuth module) module =
      (.error exception, { module with dbConn := dbConn }) := by
    simp [switchOperator, bind, new, refused]
  rw [connect_run consistent, if_pos other, Program.bind_of_error switched]

theorem connect_same (consistent : Consistent operators module) {call : ConnectCall}
    (other : call.opunKey ≠ module.currentOpunKey) (new : module.authCache call.opunKey = none)
    (accepted : ¬ Refused operators call module)
    (same : getAuthenticationParameters operators call.opunKey = currentAuth module) : ∃ auth dbConn,
    getAuthenticationParameters operators call.opunKey = some auth ∧
      connect operators call.outcomes call.opunKey module = (.ok (), cachedModule call.opunKey auth dbConn module) := by
  obtain ⟨auth, dbConn, found, cached⟩ := cacheCredentials_run accepted
  refine ⟨auth, dbConn, found, ?_⟩
  have switched : switchOperator operators call.outcomes call.opunKey (currentAuth module) module =
      (.ok (some auth), cachedModule call.opunKey auth dbConn module) := by
    simp [switchOperator, bind, new, cached, ← same, found]
  have item : authCacheItem call.opunKey (cachedModule call.opunKey auth dbConn module) =
      (.ok auth, cachedModule call.opunKey auth dbConn module) := authCacheItem_run (by simp [cachedModule])
  rw [connect_run consistent, if_pos other, Program.bind_of_ok switched, Program.bind_of_ok item, if_pos rfl]
  rfl

theorem connect_new (consistent : Consistent operators module) {call : ConnectCall}
    (other : call.opunKey ≠ module.currentOpunKey) (new : module.authCache call.opunKey = none)
    (accepted : ¬ Refused operators call module)
    (differs : getAuthenticationParameters operators call.opunKey ≠ currentAuth module) : ∃ auth dbConn,
    getAuthenticationParameters operators call.opunKey = some auth ∧
      connect operators call.outcomes call.opunKey module =
        reconnect call.outcomes (cachedModule call.opunKey auth dbConn module) := by
  obtain ⟨auth, dbConn, found, cached⟩ := cacheCredentials_run accepted
  refine ⟨auth, dbConn, found, ?_⟩
  have switched : switchOperator operators call.outcomes call.opunKey (currentAuth module) module =
      (.ok (currentAuth module), cachedModule call.opunKey auth dbConn module) := by
    simp [switchOperator, bind, new, cached]
  have item : authCacheItem call.opunKey (cachedModule call.opunKey auth dbConn module) =
      (.ok auth, cachedModule call.opunKey auth dbConn module) := authCacheItem_run (by simp [cachedModule])
  have changed : currentAuth module ≠ some auth := fun same => differs (found.trans same.symm)
  rw [connect_run consistent, if_pos other, Program.bind_of_ok switched, Program.bind_of_ok item, if_neg changed]

def LogonOutcome.leaves (auth : AuthenticationParameters) (module : NpAuctionExportModule) :
    LogonOutcome → Except SystemException Unit × NpAuctionExportModule
  | .ssoClientRaises exception => (.error exception, { module with apiClient := none })
  | .noAuctionClient => (.ok (), { module with apiClient := none })
  | .connected => (.ok (), { module with apiClient := some auth })

theorem reconnect_run (outcomes : ConnectOutcomes) (cached : module.authCache module.currentOpunKey = some auth) :
    reconnect outcomes module =
      outcomes.logon.leaves auth { module with dbConn := module.dbConn.map fun _ => .closed } := by
  cases logon : outcomes.logon <;>
    simp [reconnect, disconnect, authCacheItem, bind, cached, logon, LogonOutcome.leaves]

end Runs

section Steps

variable {call : ConnectCall}

theorem Consistent.cachedModule (consistent : Consistent operators module)
    (found : getAuthenticationParameters operators opunKey = some auth) (dbConn : Option ConnectionState)
    {client : Option AuthenticationParameters} (own : ∀ other, client = some other → other = auth) :
    Consistent operators { cachedModule opunKey auth dbConn module with apiClient := client } := by
  constructor
  · intro key credentials cached
    by_cases same : key = opunKey
    · subst same
      simp only [NpAuction.cachedModule, Function.update_self] at cached
      rw [found, cached]
    · simp only [NpAuction.cachedModule, Function.update_of_ne same] at cached
      exact consistent.cached key credentials cached
  · exact fun _ => ⟨auth, by simp [NpAuction.cachedModule]⟩
  · intro credentials logged
    rw [own credentials logged]
    simp [NpAuction.cachedModule]

theorem Consistent.same_client (consistent : Consistent operators module)
    (found : getAuthenticationParameters operators opunKey = some auth)
    (same : getAuthenticationParameters operators opunKey = module.authCache module.currentOpunKey)
    {client : AuthenticationParameters} (logged : module.apiClient = some client) : client = auth := by
  have own := consistent.client client logged
  rw [← same, found] at own
  exact (Option.some.inj own).symm

inductive Goes (operators : Int → Option OperatorUnit) (module : NpAuctionExportModule) (call : ConnectCall) :
    Except SystemException Unit × NpAuctionExportModule → Prop
  | stays (same : call.opunKey = module.currentOpunKey) : Goes operators module call (.ok (), module)
  | returns (other : call.opunKey ≠ module.currentOpunKey) (auth : AuthenticationParameters)
      (cached : module.authCache call.opunKey = some auth) :
      Goes operators module call (.ok (), { module with currentOpunKey := call.opunKey })
  | refused (other : call.opunKey ≠ module.currentOpunKey) (new : module.authCache call.opunKey = none)
      (fails : Refused operators call module) (exception : SystemException) (dbConn : Option ConnectionState) :
      Goes operators module call (.error exception, { module with dbConn := dbConn })
  | same (other : call.opunKey ≠ module.currentOpunKey) (new : module.authCache call.opunKey = none)
      (accepted : ¬ Refused operators call module) (auth : AuthenticationParameters)
      (found : getAuthenticationParameters operators call.opunKey = some auth) (current : module.currentOpunKey ≠ 0)
      (equal : module.authCache module.currentOpunKey = some auth) (dbConn : Option ConnectionState) :
      Goes operators module call (.ok (), cachedModule call.opunKey auth dbConn module)
  | logsOn (other : call.opunKey ≠ module.currentOpunKey) (new : module.authCache call.opunKey = none)
      (accepted : ¬ Refused operators call module) (auth : AuthenticationParameters)
      (found : getAuthenticationParameters operators call.opunKey = some auth)
      (differs : module.currentOpunKey = 0 ∨ module.authCache module.currentOpunKey ≠ some auth)
      (dbConn : Option ConnectionState) :
      Goes operators module call (call.outcomes.logon.leaves auth (cachedModule call.opunKey auth dbConn module))

theorem connect_goes (consistent : Consistent operators module) (call : ConnectCall) :
    Goes operators module call (connect operators call.outcomes call.opunKey module) := by
  by_cases other : call.opunKey = module.currentOpunKey
  · rw [other, connect_current consistent]
    exact .stays other
  · cases cached : module.authCache call.opunKey with
    | some auth =>
        rw [connect_cached consistent call.outcomes other cached]
        exact .returns other auth cached
    | none =>
        by_cases fails : Refused operators call module
        · obtain ⟨exception, dbConn, run⟩ := connect_refused consistent other cached fails
          rw [run]
          exact .refused other cached fails exception dbConn
        · by_cases same : getAuthenticationParameters operators call.opunKey = currentAuth module
          · obtain ⟨auth, dbConn, found, run⟩ := connect_same consistent other cached fails same
            rw [run]
            rw [found, currentAuth] at same
            split at same
            · exact .same other cached fails auth found ‹_› same.symm dbConn
            · cases same
          · obtain ⟨auth, dbConn, found, run⟩ := connect_new consistent other cached fails same
            have logged := @reconnect_run (cachedModule call.opunKey auth dbConn module) auth call.outcomes
              (by simp [cachedModule])
            rw [run, logged]
            refine .logsOn other cached fails auth found ?_ (dbConn.map fun _ => .closed)
            rw [found, currentAuth] at same
            by_cases zero : module.currentOpunKey = 0
            · exact .inl zero
            · rw [if_pos zero] at same
              exact .inr fun equal => same equal.symm

theorem Consistent.step (consistent : Consistent operators module) (connects : Connects operators module call) :
    Consistent operators (connectStep operators module call) := by
  unfold connectStep
  have goes := connect_goes consistent call
  generalize connect operators call.outcomes call.opunKey module = out at goes
  cases goes with
  | stays same => exact consistent
  | returns other auth cached =>
      refine ⟨consistent.cached, fun _ => ⟨auth, cached⟩, fun client logged => ?_⟩
      have found := consistent.cached _ _ cached
      cases connects with
      | kept keeps =>
          rcases keeps with same | ⟨same, _⟩
          · exact absurd same other
          · rw [consistent.same_client found same logged]
            exact cached
      | renewed _ new => simp [new] at cached
      | refused _ new => simp [new] at cached
  | refused other new fails exception dbConn => exact ⟨consistent.cached, consistent.current, consistent.client⟩
  | same other new accepted auth found current equal dbConn =>
      refine consistent.cachedModule found dbConn fun client logged => ?_
      exact consistent.same_client found (found.trans equal.symm) logged
  | logsOn other new accepted auth found differs dbConn =>
      cases call.outcomes.logon with
      | ssoClientRaises exception => exact consistent.cachedModule found dbConn (by simp)
      | noAuctionClient => exact consistent.cachedModule found dbConn (by simp)
      | connected => exact consistent.cachedModule found dbConn (by simp)

theorem connect_loggedOn_iff (consistent : Consistent operators module) (call : ConnectCall) :
    ((connect operators call.outcomes call.opunKey module).1 = .ok () →
      LoggedOnAs operators call.opunKey (connectStep operators module call)) ↔
      Connects operators module call := by
  unfold connectStep
  have goes := connect_goes consistent call
  generalize connect operators call.outcomes call.opunKey module = out at goes
  cases goes with
  | stays same =>
      constructor
      · intro loggedOn
        obtain ⟨auth, _, client⟩ := loggedOn rfl
        exact .kept (.inl same) auth client
      · intro connects _
        cases connects with
        | kept _ auth client =>
            have cached := consistent.client auth client
            rw [← same] at cached
            exact ⟨auth, consistent.cached _ _ cached, client⟩
        | renewed needs => exact absurd (.inl same) needs
        | refused other => exact absurd same other
  | returns other auth cached =>
      have found := consistent.cached _ _ cached
      constructor
      · intro loggedOn
        obtain ⟨credentials, known, client⟩ := loggedOn rfl
        have equal := consistent.client credentials client
        exact .kept (.inr ⟨known.trans equal.symm, by simp [cached]⟩) credentials client
      · intro connects _
        cases connects with
        | kept keeps credentials client =>
            rcases keeps with same | ⟨same, _⟩
            · exact absurd same other
            · rw [consistent.same_client found same client] at client
              exact ⟨auth, found, client⟩
        | renewed _ new => simp [new] at cached
        | refused _ new => simp [new] at cached
  | refused other new fails exception dbConn =>
      exact iff_of_true (fun returned => nomatch returned) (.refused other new fails)
  | same other new accepted auth found current equal dbConn =>
      have same := found.trans equal.symm
      constructor
      · intro loggedOn
        obtain ⟨credentials, _, client⟩ := loggedOn rfl
        exact .kept (.inr ⟨same, fun _ => current⟩) credentials client
      · intro connects _
        cases connects with
        | kept _ credentials client =>
            rw [consistent.same_client found same client] at client
            exact ⟨auth, found, client⟩
        | renewed needs => exact absurd (.inr ⟨same, fun _ => current⟩) needs
        | refused _ _ fails => exact absurd fails accepted
  | logsOn other new accepted auth found differs dbConn =>
      have needs : ¬ KeepsClient operators module call.opunKey := by
        rintro (same | ⟨same, current⟩)
        · exact other same
        · rcases differs with zero | differs
          · exact current new zero
          · exact differs (same.symm.trans found)
      cases logon : call.outcomes.logon with
      | ssoClientRaises exception =>
          exact iff_of_true (fun returned => nomatch returned) (.renewed needs new (by simp [logon]))
      | connected => exact iff_of_true (fun _ => ⟨auth, found, rfl⟩) (.renewed needs new (by simp [logon]))
      | noAuctionClient =>
          refine iff_of_false (fun loggedOn => ?_) fun connects => ?_
          · obtain ⟨credentials, _, client⟩ := loggedOn rfl
            cases client
          · cases connects with
            | kept keeps => exact needs keeps
            | renewed _ _ made => exact made logon
            | refused _ _ fails => exact accepted fails

end Steps

section Sequences

def LoggedOnEach (operators : Int → Option OperatorUnit) (module : NpAuctionExportModule) : List ConnectCall → Prop
  | [] => True
  | call :: rest =>
      ((connect operators call.outcomes call.opunKey module).1 = .ok () →
        LoggedOnAs operators call.opunKey (connectStep operators module call)) ∧
      LoggedOnEach operators (connectStep operators module call) rest

theorem loggedOnEach_of_permits {calls : List ConnectCall} (consistent : Consistent operators module)
    (permitted : Permits (connectStep operators) (Connects operators) module calls) :
    LoggedOnEach operators module calls := by
  induction calls generalizing module with
  | nil => trivial
  | cons call rest ih =>
      obtain ⟨connects, permitted⟩ := permitted
      exact ⟨(connect_loggedOn_iff consistent call).mpr connects, ih (consistent.step connects) permitted⟩

theorem permits_of_loggedOnEach {calls : List ConnectCall} (consistent : Consistent operators module)
    (loggedOn : LoggedOnEach operators module calls) :
    Permits (connectStep operators) (Connects operators) module calls := by
  induction calls generalizing module with
  | nil => trivial
  | cons call rest ih =>
      obtain ⟨first, others⟩ := loggedOn
      have connects := (connect_loggedOn_iff consistent call).mp first
      exact ⟨connects, ih (consistent.step connects) others⟩

/-- In a sequence of calls each speaks for its operator if and only if at each of them the
operator keeps a client that is there, or is new to the cache and gets one. -/
theorem connect_sequence_iff (operators : Int → Option OperatorUnit) (calls : List ConnectCall) :
    LoggedOnEach operators newModule calls ↔ Permits (connectStep operators) (Connects operators) newModule calls :=
  ⟨permits_of_loggedOnEach (newModule_consistent operators), loggedOnEach_of_permits (newModule_consistent operators)⟩

def twoOperators (opunKey : Int) : Option OperatorUnit :=
  if opunKey = 1 then some ⟨some "north", some "secret", some "client", some "key"⟩
  else if opunKey = 2 then some ⟨some "south", some "secret", some "client", some "key"⟩
  else none

def connecting (opunKey : Int) : ConnectCall := ⟨opunKey, none, none, .connected⟩

/-- The first operator comes back and speaks as the second one. -/
theorem connect_sequence_returns : ¬ ∀ operators calls, LoggedOnEach operators newModule calls := by
  intro loggedOn
  obtain ⟨_, _, returned, _⟩ := loggedOn twoOperators [connecting 1, connecting 2, connecting 1]
  obtain ⟨auth, found, client⟩ := returned rfl
  rw [← client] at found
  exact absurd found (by decide)

end Sequences

end ServiceHost.DataExchange.NpAuction
