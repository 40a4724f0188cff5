import ServiceHost.DataExchange.CompelloImport
import ServiceHost.DataExchange.NpAuctionLogicCore

/-!
What the import reads when it asks for the payload of an answer. Where the answer is put
into a property of the message, a command with its payload in the claim store gives its own
payload to the import instead.
-/

namespace ServiceHost.DataExchange.NpAuction

open Library

variable {X : Type}

def HasPayload (payloads : ClaimTicket → Option String) (message : DataExchangeMessage) : Prop :=
  message.version = 0 ∨ message.version = 1 ∧ ∃ ticket payload, message.claimTicket = some ticket ∧
    payloads ticket = some payload ∧ ticket.handlerName ∈ claimHandlers

def Response.InStore : Response → Prop
  | .auction _ | .auctions _ | .tradesSummary _ | .tradesSummaries _ => False
  | _ => True

structure Stored (payloads later : ClaimTicket → Option String) (message : DataExchangeMessage) : Prop where
  kept : ∀ ticket payload, payloads ticket = some payload → later ticket = some payload
  referred : ∀ ticket payload, later ticket = some payload →
    payloads ticket = some payload ∨ message.claimTicket = some ticket

theorem Stored.refl (payloads : ClaimTicket → Option String) (message : DataExchangeMessage) :
    Stored payloads payloads message :=
  ⟨fun _ _ held => held, fun _ _ held => .inl held⟩

theorem stored_update {payloads : ClaimTicket → Option String} {ticket : ClaimTicket} (free : payloads ticket = none)
    (payload : String) {message : DataExchangeMessage} (held : message.claimTicket = some ticket) :
    Stored payloads (Function.update payloads ticket (some payload)) message := by
  constructor
  · intro other text stored
    by_cases same : other = ticket
    · subst same
      rw [free] at stored
      contradiction
    · rw [Function.update_of_ne same]
      exact stored
  · intro other text stored
    by_cases same : other = ticket
    · subst same
      exact .inr held
    · rw [Function.update_of_ne same] at stored
      exact .inl stored

theorem createClaimHandler_known {claimHandler handlerName : String}
    (known : (if handlerName = "" then claimHandler else handlerName) ∈ claimHandlers) :
    createClaimHandler claimHandler handlerName = .ok (if handlerName = "" then claimHandler else handlerName) := by
  simp only [createClaimHandler, known, ↓reduceIte]

section Answers

variable {command : DataExchangeMessage} {world : World X} {outcomes : NpAuctionOutcomes}

theorem importMessageOf_inside (claimHandler copyId : String) (inside : command.version = 0) (world : World X) :
    ∃ copy, importMessageOf claimHandler copyId command world = (.ok copy, world) ∧ copy.version = 0 := by
  simp only [importMessageOf, bind, Program.read_run, DataExchangeMessage.getMessageData, inside, ↓reduceIte,
    Program.ofExcept_run, setMessageData]
  exact ⟨_, rfl, rfl⟩

theorem importMessageOf_outside (claimHandler copyId : String) (outside : command.version = 1) {ticket : ClaimTicket}
    {payload : String} (held : command.claimTicket = some ticket) (stored : world.payloads ticket = some payload)
    (known : ticket.handlerName ∈ claimHandlers) :
    ∃ copy, importMessageOf claimHandler copyId command world =
        (.ok copy, { world with
          payloads := Function.update world.payloads ⟨ticket.handlerName, copyId⟩ (some payload) }) ∧
      copy.version = 1 ∧ copy.claimTicket = some ⟨ticket.handlerName, copyId⟩ := by
  have named : ticket.handlerName ≠ "" := by
    intro empty
    rw [empty] at known
    simp [claimHandlers] at known
  have created : createClaimHandler claimHandler ticket.handlerName = .ok ticket.handlerName := by
    have handler := @createClaimHandler_known claimHandler ticket.handlerName (by simpa [named] using known)
    simpa [named] using handler
  simp only [importMessageOf, bind, Program.read_run, DataExchangeMessage.getMessageData, outside, held, stored,
    Program.ofExcept_run, setMessageData, created, Option.map_some, Option.getD_some, Int.one_ne_zero, ↓reduceIte,
    Program.change_run]
  exact ⟨_, rfl, rfl, rfl⟩

structure Answered (text : String) (world : World X) (message : DataExchangeMessage)
    (later : World X) : Prop where
  queues : later.queues = world.queues
  payload : message.getMessageData later.payloads none = .ok (some text)
  stored : Stored world.payloads later.payloads message

variable (reference : Option String) (protocol : String) (protocolId : Int) (json : String)

theorem answerInProperty_inside (inside : command.version = 0) : ∃ message later,
    answerInProperty outcomes command reference protocol protocolId json world = (.ok message, later) ∧
      Answered json world message later := by
  obtain ⟨copy, run, version⟩ := importMessageOf_inside outcomes.claimHandler outcomes.copyId inside world
  refine ⟨{ switched command reference protocol protocolId copy with messageData := some json }, world, ?_, rfl, ?_,
    Stored.refl _ _⟩
  · rw [answerInProperty, Program.bind_of_ok run]
    rfl
  · simp [DataExchangeMessage.getMessageData, switched, version]

theorem answerInStore_inside (inside : command.version = 0) : ∃ message later,
    answerInStore outcomes command reference protocol protocolId json world = (.ok message, later) ∧
      Answered json world message later := by
  obtain ⟨copy, run, version⟩ := importMessageOf_inside outcomes.claimHandler outcomes.copyId inside world
  refine ⟨{ switched command reference protocol protocolId copy with messageData := some json }, world, ?_, rfl, ?_,
    Stored.refl _ _⟩
  · rw [answerInStore, Program.bind_of_ok run]
    simp [deleteMessageData, setMessageData, bind, switched, version]
  · simp [DataExchangeMessage.getMessageData, switched, version]

theorem answerInProperty_outside (outside : command.version = 1) {ticket : ClaimTicket} {payload : String}
    (held : command.claimTicket = some ticket) (stored : world.payloads ticket = some payload)
    (known : ticket.handlerName ∈ claimHandlers) (free : world.payloads ⟨ticket.handlerName, outcomes.copyId⟩ = none) :
    ∃ message later,
      answerInProperty outcomes command reference protocol protocolId json world = (.ok message, later) ∧
        Answered payload world message later := by
  obtain ⟨copy, run, version, copied⟩ :=
    importMessageOf_outside outcomes.claimHandler outcomes.copyId outside held stored known
  refine ⟨{ switched command reference protocol protocolId copy with messageData := some json },
    { world with payloads := Function.update world.payloads ⟨ticket.handlerName, outcomes.copyId⟩ (some payload) },
    ?_, rfl, ?_, ?_⟩
  · rw [answerInProperty, Program.bind_of_ok run]
    rfl
  · simp [DataExchangeMessage.getMessageData, switched, version, copied]
  · exact stored_update free payload copied

theorem answerInStore_outside (outside : command.version = 1) {ticket : ClaimTicket} {payload : String}
    (held : command.claimTicket = some ticket) (stored : world.payloads ticket = some payload)
    (known : ticket.handlerName ∈ claimHandlers) (free : world.payloads ⟨ticket.handlerName, outcomes.copyId⟩ = none)
    (default : outcomes.claimHandler ∈ claimHandlers)
    (freeAnswer : world.payloads ⟨outcomes.claimHandler, outcomes.answerId⟩ = none) :
    ∃ message later,
      answerInStore outcomes command reference protocol protocolId json world = (.ok message, later) ∧
        Answered json world message later := by
  obtain ⟨copy, run, version, copied⟩ :=
    importMessageOf_outside outcomes.claimHandler outcomes.copyId outside held stored known
  have created : createClaimHandler outcomes.claimHandler "" = .ok outcomes.claimHandler := by
    have handler := @createClaimHandler_known outcomes.claimHandler "" (by simpa using default)
    simpa using handler
  -- the copied payload leaves the store as it was
  have cleared : Function.update (Function.update world.payloads ⟨ticket.handlerName, outcomes.copyId⟩ (some payload))
      ⟨ticket.handlerName, outcomes.copyId⟩ none = world.payloads := by
    rw [Function.update_idem, ← free, Function.update_eq_self]
  refine ⟨{ switched command reference protocol protocolId copy with
      claimTicket := some ⟨outcomes.claimHandler, outcomes.answerId⟩ },
    { world with
      payloads := Function.update world.payloads ⟨outcomes.claimHandler, outcomes.answerId⟩ (some json) },
    ?_, rfl, ?_, ?_⟩
  · rw [answerInStore, Program.bind_of_ok run]
    simp [deleteMessageData, setMessageData, DataExchangeMessage.deleteMessageData, bind, switched, version, copied,
      created, cleared]
  · simp [DataExchangeMessage.getMessageData, switched, version]
  · exact stored_update freeAnswer json rfl

end Answers

section Submit

variable {outcomes : NpAuctionOutcomes} {toUpperInvariant : Char → Char}

theorem filledMessage_same (defaultRoutingAddress : Option String) (message : DataExchangeMessage) :
    ∃ routingAddress priority, filledMessage defaultRoutingAddress message =
      { message with routingAddress := routingAddress, priority := priority } := by
  unfold filledMessage
  split
  · exact ⟨message.routingAddress, message.priority, rfl⟩
  · exact ⟨_, _, rfl⟩

theorem invalidMessage_enqueues (message : DataExchangeMessage) :
    Compello.Enqueues (X := X)
      (do
        DataExchangeApi.enqueueErroneousImportMessage outcomes.enqueueErroneous message
        logMessage 8100
        logMessage 8209)
      outcomes.enqueueErroneous .internalImportError message := by
  intro world kind pending
  obtain ⟨later, run, queues, payloads, transaction⟩ :=
    @Compello.enqueues_enqueue X .internalImportError message outcomes.enqueueErroneous world kind pending
  cases failure : outcomes.enqueueErroneous with
  | none =>
      rw [failure] at run transaction
      refine ⟨{ later with eventLog := later.eventLog ++ [8100] ++ [8209] }, ?_, queues, payloads, transaction⟩
      exact (Program.bind_of_ok run).trans rfl
  | some exception =>
      rw [failure] at run transaction
      refine ⟨later, ?_, queues, payloads, transaction⟩
      exact Program.bind_of_error run

theorem raise_enqueues (exception : SystemException) (name : QueueName) (message : DataExchangeMessage) :
    Compello.Enqueues (X := X) (Program.raise exception) (some exception) name message := by
  intro world kind pending
  exact ⟨world, rfl, rfl, rfl, by simpa using pending⟩

theorem handle_enqueues {call : Exchange X Unit} {handler : SystemException → Exchange X Unit}
    {exception : SystemException} {failure : Option SystemException} {name later : QueueName}
    {message kept : DataExchangeMessage} (raises : Compello.Enqueues call (some exception) name message)
    (handles : Compello.Enqueues (handler exception) failure later kept) :
    Compello.Enqueues (Program.handle call handler) failure later kept := by
  intro world kind pending
  obtain ⟨raised, run, queues, payloads, transaction⟩ := raises world kind pending
  obtain ⟨last, handled, lastQueues, lastPayloads, lastTransaction⟩ := handles raised kind (by simpa using transaction)
  refine ⟨last, ?_, lastQueues.trans queues, lastPayloads.trans payloads, lastTransaction⟩
  exact (Program.handle_of_error run).trans handled

theorem submitCall_enqueues (message : DataExchangeMessage) : ∃ name enqueued failure,
    Compello.Enqueues (X := X)
      (Program.handle (DataExchangeApi.enqueueImportMessage toUpperInvariant outcomes.enqueueImport message)
        fun exception =>
          match exception with
          | .invalidMessage _ | .invalidMetadata _ => do
              DataExchangeApi.enqueueErroneousImportMessage outcomes.enqueueErroneous
                (filledMessage outcomes.enqueueImport.defaultRoutingAddress message)
              logMessage 8100
              logMessage 8209
          | _ => Program.raise exception) failure name enqueued ∧
      (failure = none → ((∃ priority, name = .internalImport priority) ∨ name = .internalImportError) ∧
        ∃ routingAddress priority,
          enqueued = { message with routingAddress := routingAddress, priority := priority }) := by
  obtain ⟨name, enqueued, enqueues, named⟩ :=
    Compello.enqueueImportMessage_enqueues (X := X) toUpperInvariant outcomes.enqueueImport message
  have same := filledMessage_same outcomes.enqueueImport.defaultRoutingAddress message
  have invalid := @invalidMessage_enqueues X outcomes
    (filledMessage outcomes.enqueueImport.defaultRoutingAddress message)
  generalize Compello.importEnqueueFailure toUpperInvariant outcomes.enqueueImport message = result at enqueues named
  cases result with
  | none =>
      refine ⟨name, enqueued, none, ?_, fun _ => ⟨.inl (named rfl).1, (named rfl).2⟩⟩
      intro world kind pending
      obtain ⟨later, run, rest⟩ := enqueues world kind pending
      exact ⟨later, Program.handle_of_ok run, rest⟩
  | some exception =>
      cases exception with
      | invalidMessage messageId => exact ⟨_, _, _, handle_enqueues enqueues invalid, fun _ => ⟨.inr rfl, same⟩⟩
      | invalidMetadata messageId => exact ⟨_, _, _, handle_enqueues enqueues invalid, fun _ => ⟨.inr rfl, same⟩⟩
      | _ => exact ⟨name, enqueued, _, handle_enqueues enqueues (raise_enqueues _ _ _), fun none => by cases none⟩

theorem submitImport_adds (message : DataExchangeMessage) : ∃ name enqueued failure,
    (∀ world : World X,
      Compello.Adds world (submitImport toUpperInvariant outcomes message world) failure name enqueued) ∧
    (failure = none → ((∃ priority, name = .internalImport priority) ∨ name = .internalImportError) ∧
      ∃ routingAddress priority,
        enqueued = { message with routingAddress := routingAddress, priority := priority }) := by
  obtain ⟨name, enqueued, failure, enqueues, named⟩ := @submitCall_enqueues X outcomes toUpperInvariant message
  refine ⟨name, enqueued, outcomes.transaction.failure outcomes.kind failure, ?_, fun committed => ?_⟩
  · intro world
    exact Compello.addMessage_adds outcomes.transaction enqueues world
  · exact named (Compello.TransactionOutcomes.enqueued_of_failure committed)

end Submit

section Answer

variable {command : DataExchangeMessage} {world later : World X} {outcomes : NpAuctionOutcomes}

theorem answerMessage_ways (response : Response) : ∃ reference protocol protocolId,
    (response.InStore → answerMessage (X := X) outcomes command response =
      answerInStore outcomes command reference protocol protocolId response.serialised) ∧
    (¬ response.InStore → answerMessage (X := X) outcomes command response =
      answerInProperty outcomes command reference protocol protocolId response.serialised) := by
  cases response with
  | auction | auctions | tradesSummary | tradesSummaries => exact ⟨_, _, _, False.elim, fun _ => rfl⟩
  | _ => exact ⟨_, _, _, fun _ => rfl, fun inProperty => absurd trivial inProperty⟩

theorem answerInStore_default {reference : Option String} {protocol json : String} {protocolId : Int}
    {ticket : ClaimTicket} {payload : String} {message : DataExchangeMessage} (outside : command.version = 1)
    (held : command.claimTicket = some ticket) (stored : world.payloads ticket = some payload)
    (known : ticket.handlerName ∈ claimHandlers)
    (run : answerInStore outcomes command reference protocol protocolId json world = (.ok message, later)) :
    outcomes.claimHandler ∈ claimHandlers := by
  obtain ⟨copy, copied, version, ticketed⟩ :=
    importMessageOf_outside outcomes.claimHandler outcomes.copyId outside held stored known
  rw [answerInStore, Program.bind_of_ok copied] at run
  by_contra unknown
  simp [deleteMessageData, setMessageData, DataExchangeMessage.deleteMessageData, bind, switched, version, ticketed,
    createClaimHandler, unknown] at run

theorem answerMessage_answered (response : Response) (hasPayload : HasPayload world.payloads command)
    (newCopy : ∀ handlerName, world.payloads ⟨handlerName, outcomes.copyId⟩ = none)
    (newAnswer : ∀ handlerName, world.payloads ⟨handlerName, outcomes.answerId⟩ = none)
    {message : DataExchangeMessage} (run : answerMessage outcomes command response world = (.ok message, later)) :
    ∃ text, Answered text world message later ∧
      (command.version = 0 ∨ response.InStore → text = response.serialised) ∧
      (command.version = 1 → ¬ response.InStore → command.getMessageData world.payloads none = .ok (some text)) := by
  obtain ⟨reference, protocol, protocolId, inStore, inProperty⟩ := @answerMessage_ways X command outcomes response
  have same {text : String} {made : DataExchangeMessage} {state : World X}
      (makes : answerMessage outcomes command response world = (.ok made, state))
      (answered : Answered text world made state) : Answered text world message later := by
    rw [run] at makes
    cases makes
    exact answered
  by_cases stores : response.InStore
  · refine ⟨response.serialised, ?_, fun _ => rfl, fun _ property => absurd stores property⟩
    rcases hasPayload with inside | ⟨outside, ticket, payload, held, stored, known⟩
    · obtain ⟨made, state, makes, answered⟩ :=
        @answerInStore_inside X command world outcomes reference protocol protocolId response.serialised inside
      exact same (by rw [inStore stores, makes]) answered
    · rw [inStore stores] at run
      obtain ⟨made, state, makes, answered⟩ := answerInStore_outside reference protocol protocolId response.serialised
        outside held stored known (newCopy _) (answerInStore_default outside held stored known run) (newAnswer _)
      exact same (by rw [inStore stores, makes]) answered
  · rcases hasPayload with inside | ⟨outside, ticket, payload, held, stored, known⟩
    · refine ⟨response.serialised, ?_, fun _ => rfl, fun one => by rw [inside] at one; cases one⟩
      obtain ⟨made, state, makes, answered⟩ :=
        @answerInProperty_inside X command world outcomes reference protocol protocolId response.serialised inside
      exact same (by rw [inProperty stores, makes]) answered
    · obtain ⟨made, state, makes, answered⟩ := answerInProperty_outside reference protocol protocolId
        response.serialised outside held stored known (newCopy _)
      refine ⟨payload, same (by rw [inProperty stores, makes]) answered, ?_, fun _ _ => ?_⟩
      · rintro (zero | inside)
        · rw [outside] at zero
          cases zero
        · exact absurd inside stores
      · simp [DataExchangeMessage.getMessageData, outside, held, stored]

theorem append_injective {queues : Queues} {name other : QueueName} {item second : QueueItem}
    (same : queues.append name item = queues.append other second) : item = second := by
  have added := congrFun same name
  by_cases names : name = other
  · subst names
    simpa [Queues.append] using added
  · simp [Queues.append, Function.update_of_ne names] at added

structure Reaches (text : String) (command : DataExchangeMessage) (world later : World X) : Prop where
  enqueued : ∃ name message, ((∃ priority, name = .internalImport priority) ∨ name = .internalImportError) ∧
    later.queues = world.queues.append name (.message message) ∧
    message.getMessageData later.payloads none = .ok (some text) ∧ Stored world.payloads later.payloads message
  readable : command.getMessageData later.payloads none = command.getMessageData world.payloads none

theorem Reaches.unique {first second : String} (one : Reaches first command world later)
    (other : Reaches second command world later) : first = second := by
  obtain ⟨name, message, _, queues, reads, _⟩ := one.enqueued
  obtain ⟨_, same, _, added, readsToo, _⟩ := other.enqueued
  have enqueued := append_injective (queues.symm.trans added)
  cases enqueued
  rw [reads] at readsToo
  cases readsToo
  rfl

theorem Stored.readable {payloads stores : ClaimTicket → Option String} {message : DataExchangeMessage}
    (stored : Stored payloads stores message) (hasPayload : HasPayload payloads command) :
    command.getMessageData stores none = command.getMessageData payloads none := by
  rcases hasPayload with inside | ⟨outside, ticket, payload, held, kept, _⟩
  · simp [DataExchangeMessage.getMessageData, inside]
  · simp [DataExchangeMessage.getMessageData, outside, held, kept, stored.kept ticket payload kept]

theorem submitAnswer_reaches (toUpperInvariant : Char → Char) (response : Response)
    (hasPayload : HasPayload world.payloads command)
    (newCopy : ∀ handlerName, world.payloads ⟨handlerName, outcomes.copyId⟩ = none)
    (newAnswer : ∀ handlerName, world.payloads ⟨handlerName, outcomes.answerId⟩ = none)
    (returns : submitAnswer outcomes command toUpperInvariant response world = (.ok (), later)) :
    ∃ text, Reaches text command world later ∧
      (command.version = 0 ∨ response.InStore → text = response.serialised) ∧
      (command.version = 1 → ¬ response.InStore → command.getMessageData world.payloads none = .ok (some text)) := by
  unfold submitAnswer at returns
  cases run : answerMessage outcomes command response world with
  | mk outcome state =>
      cases outcome with
      | error exception =>
          rw [Program.bind_of_error run] at returns
          cases returns
      | ok answer =>
          obtain ⟨text, answered, stores, copies⟩ := answerMessage_answered response hasPayload newCopy newAnswer run
          obtain ⟨name, message, failure, submits, named⟩ := @submitImport_adds X outcomes toUpperInvariant answer
          have adds := submits state
          rw [Program.bind_of_ok run] at returns
          rw [returns] at adds
          have committed : failure = none := by
            have result := adds.result
            cases failure with
            | none => rfl
            | some exception => cases result
          obtain ⟨isImport, routingAddress, priority, same⟩ := named committed
          have queues := adds.queues
          rw [if_pos committed, answered.queues] at queues
          have payloads : later.payloads = state.payloads := adds.payloads
          have stored : Stored world.payloads later.payloads message := by
            subst same
            rw [payloads]
            exact ⟨answered.stored.kept, answered.stored.referred⟩
          refine ⟨text, ⟨⟨name, message, isImport, queues, ?_, stored⟩, stored.readable hasPayload⟩, stores, copies⟩
          subst same
          rw [payloads]
          exact answered.payload

/-- An answer that is submitted reaches the import unless it goes into a property of a
message with a ticket, and then only if the command's payload is the same text. -/
theorem submitAnswer_reaches_iff (toUpperInvariant : Char → Char) (response : Response)
    (hasPayload : HasPayload world.payloads command)
    (newCopy : ∀ handlerName, world.payloads ⟨handlerName, outcomes.copyId⟩ = none)
    (newAnswer : ∀ handlerName, world.payloads ⟨handlerName, outcomes.answerId⟩ = none)
    (returns : submitAnswer outcomes command toUpperInvariant response world = (.ok (), later)) :
    Reaches response.serialised command world later ↔
      command.version = 0 ∨ response.InStore ∨
        command.getMessageData world.payloads none = .ok (some response.serialised) := by
  obtain ⟨text, reaches, stores, copies⟩ :=
    submitAnswer_reaches toUpperInvariant response hasPayload newCopy newAnswer returns
  constructor
  · intro reachesAnswer
    have same : text = response.serialised := reaches.unique reachesAnswer
    subst same
    rcases hasPayload with inside | ⟨outside, _⟩
    · exact .inl inside
    · by_cases store : response.InStore
      · exact .inr (.inl store)
      · exact .inr (.inr (copies outside store))
  · intro condition
    by_cases first : command.version = 0 ∨ response.InStore
    · rw [← stores first]
      exact reaches
    · rcases hasPayload with inside | ⟨outside, _⟩
      · exact absurd (.inl inside) first
      · have reads := copies outside fun store => first (.inr store)
        rcases condition with inside | store | own
        · exact absurd (.inl inside) first
        · exact absurd (.inr store) first
        · rw [own] at reads
          cases reads
          exact reaches

end Answer

section Portfolio

def portfolioCommand : DataExchangeMessage where
  version := 1
  externalReference := none
  messageData := none
  claimTicket := some ⟨"DatabaseClaimHandler", "7"⟩
  senderId := "trader"
  receiverId := "nordpool"
  senderName := "Trader"
  receiverName := "Nord Pool"
  format := "JSON"
  country := "NO"
  protocolId := 115
  protocol := "JSON.NPAUCTION"
  priority := ""
  routingAddress := "NP:auction"
  messageLogId := 5
  messageReference := "5"
  senderKey := 1
  receiverKey := 2

def portfolioWorld : World Unit where
  queues := fun _ => []
  payloads := Function.update (fun _ => none) ⟨"DatabaseClaimHandler", "7"⟩ (some "GetAuction")
  messageLog := []
  eventLog := []
  imports := []
  transactions := fun _ => .create .msmq
  external := ()

def portfolioOutcomes : NpAuctionOutcomes where
  newGuid := "guid"
  copyId := "8"
  answerId := "9"
  claimHandler := "LocalFileshareClaimHandler"
  kind := .msmq
  transaction := ⟨none, none, none⟩
  enqueueImport := ⟨none, none⟩
  enqueueErroneous := none

theorem portfolioCommand_hasPayload : HasPayload portfolioWorld.payloads portfolioCommand :=
  .inr ⟨rfl, ⟨"DatabaseClaimHandler", "7"⟩, "GetAuction", rfl, by simp [portfolioWorld], by decide⟩

theorem portfolioWorld_new {storageId : String} (other : storageId ≠ "7") (handlerName : String) :
    portfolioWorld.payloads ⟨handlerName, storageId⟩ = none := by
  simp [portfolioWorld, other]

theorem portfolioWorld_newCopy (handlerName : String) :
    portfolioWorld.payloads ⟨handlerName, portfolioOutcomes.copyId⟩ = none :=
  portfolioWorld_new (by decide) handlerName

theorem portfolioWorld_newAnswer (handlerName : String) :
    portfolioWorld.payloads ⟨handlerName, portfolioOutcomes.answerId⟩ = none :=
  portfolioWorld_new (by decide) handlerName

theorem submitAnswer_reaches_iff_prices :
    let later := (submitAnswer portfolioOutcomes portfolioCommand Char.toUpper (.prices "[31.5]") portfolioWorld).2
    Reaches "[31.5]" portfolioCommand portfolioWorld later ↔
      portfolioCommand.version = 0 ∨ (Response.prices "[31.5]").InStore ∨
        portfolioCommand.getMessageData portfolioWorld.payloads none = .ok (some "[31.5]") :=
  submitAnswer_reaches_iff Char.toUpper (.prices "[31.5]") portfolioCommand_hasPayload
    portfolioWorld_newCopy portfolioWorld_newAnswer rfl

/-- An auction comes into a property that the import does not read. -/
theorem submitAnswer_auction : ¬ ∀ outcomes command toUpperInvariant response (world later : World Unit),
    HasPayload world.payloads command →
    (∀ handlerName, world.payloads ⟨handlerName, outcomes.copyId⟩ = none) →
    (∀ handlerName, world.payloads ⟨handlerName, outcomes.answerId⟩ = none) →
    submitAnswer outcomes command toUpperInvariant response world = (.ok (), later) →
      Reaches response.serialised command world later := by
  intro reaches
  have auction := reaches portfolioOutcomes portfolioCommand Char.toUpper (.auction "[]") portfolioWorld _
    portfolioCommand_hasPayload portfolioWorld_newCopy portfolioWorld_newAnswer rfl
  obtain ⟨text, own, _, copies⟩ := submitAnswer_reaches Char.toUpper (.auction "[]") portfolioCommand_hasPayload
    portfolioWorld_newCopy portfolioWorld_newAnswer rfl
  have read := copies rfl not_false
  rw [own.unique auction] at read
  simp [DataExchangeMessage.getMessageData, portfolioCommand, portfolioWorld, Response.serialised] at read

end Portfolio

end ServiceHost.DataExchange.NpAuction
