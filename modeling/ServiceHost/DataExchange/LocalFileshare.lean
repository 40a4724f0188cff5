import Mathlib.Logic.Function.Basic
import ServiceHost.DataExchange.EcpMessage
import ServiceHost.DataExchange.Queue

/-!
`LocalFileshareClaimHandler`: payloads in the files of a directory, under names that are made up. A text is a list of
16 bit units, and a file is written in UTF-8. A byte order mark is not taken for a part of what is read.
-/

namespace ServiceHost.DataExchange.LocalFileshare

open Library

abbrev Text := EcpMessage.Text

/-- The ticket of this handler, or of another one. -/
inductive ClaimTicket
  | localFileshare (filename : String)
  | other (handlerName : String)

inductive ClaimException
  | claimHandler (ticket : ClaimTicket)

/-- The files of the directory. -/
abbrev Share := String → Option (List UInt8)

def byteOrderMark : List UInt8 := [0xEF, 0xBB, 0xBF]

/-- `ReadToEnd` of a reader that looks for a byte order mark; no text that is written in UTF-8 begins with another one. -/
def readToEnd (fallback : EcpMessage.DecoderFallback) (content : List UInt8) : Text :=
  let text := if byteOrderMark <+: content then content.drop byteOrderMark.length else content
  EcpMessage.decodeFrom fallback text.length text

section Handler

variable (fallback : EcpMessage.DecoderFallback) (share : Share)

def checkIn (newGuid : String) (payload : Text) : ClaimTicket × Share :=
  (.localFileshare newGuid, Function.update share newGuid (some (EcpMessage.getBytes payload)))

def clear : ClaimTicket → Share
  | .localFileshare filename => Function.update share filename none
  | .other _ => share

def checkOut (ticket : ClaimTicket) (delete : Bool) : Except ClaimException Text × Share :=
  match ticket with
  | .other _ => (.ok [], share)
  | .localFileshare filename =>
      match share filename with
      | none => (.error (.claimHandler ticket), share)
      | some content => (.ok (readToEnd fallback content), if delete then clear share ticket else share)

end Handler

section Read

variable (fallback : EcpMessage.DecoderFallback)

theorem byteOrderMark_prefix_iff (text : List Char) :
    byteOrderMark <+: EcpMessage.utf8 text ↔ text.head? = some '\uFEFF' := by
  have mark : byteOrderMark = String.utf8EncodeChar '\uFEFF' := by decide
  cases text with
  | nil => exact iff_of_false (by decide) (by decide)
  | cons c text =>
      rw [List.head?_cons, Option.some_inj, EcpMessage.utf8_cons]
      constructor
      · rintro ⟨rest, same⟩
        have first : (byteOrderMark ++ rest).toByteArray.utf8DecodeChar? 0 = some '\uFEFF' := by
          rw [mark, List.toByteArray_append, ByteArray.utf8DecodeChar?_utf8EncodeChar_append]
        rw [same, List.toByteArray_append, ByteArray.utf8DecodeChar?_utf8EncodeChar_append] at first
        exact Option.some.inj first
      · rintro rfl
        exact ⟨EcpMessage.utf8 text, by rw [mark]⟩

/-- What is read of a file that was written with a payload. -/
def delivered (payload : Text) : Text :=
  let text := Utf16.decode payload
  Utf16.encode (if text.head? = some '\uFEFF' then text.tail else text)

theorem readToEnd_getBytes (payload : Text) : readToEnd fallback (EcpMessage.getBytes payload) = delivered payload := by
  unfold readToEnd delivered EcpMessage.getBytes
  dsimp only
  simp only [byteOrderMark_prefix_iff]
  split
  · rename_i marked
    cases text : Utf16.decode payload with
    | nil =>
        rw [text] at marked
        cases marked
    | cons c rest =>
        rw [text] at marked
        obtain rfl : c = '\uFEFF' := Option.some.inj marked
        have behind : (EcpMessage.utf8 ('\uFEFF' :: rest)).drop byteOrderMark.length = EcpMessage.utf8 rest := rfl
        rw [behind, EcpMessage.decodeFrom_utf8 fallback rest _ (Nat.le_refl _)]
        rfl
  · exact EcpMessage.decodeFrom_utf8 fallback _ _ (Nat.le_refl _)

theorem tail_of_encoded {text : List Char} {payload : Text} (same : Utf16.encode text = payload) : Utf16.decode payload = text := by
  have decoded := Utf16.decode_encode text []
  rw [List.append_nil] at decoded
  rw [← same, decoded]
  exact List.append_nil text

/-- A payload is read as it was written if no half of a pair is alone in it and it does not begin with a byte order
mark. -/
theorem delivered_eq_iff (payload : Text) :
    delivered payload = payload ↔ ∃ text : List Char, payload = Utf16.encode text ∧ text.head? ≠ some '\uFEFF' := by
  constructor
  · intro same
    have decoded := tail_of_encoded same
    refine ⟨_, same.symm, fun marked => ?_⟩
    -- What is left of a marked text is shorter than the text.
    split at marked
    · rename_i first
      rw [if_pos first] at decoded
      cases text : Utf16.decode payload with
      | nil =>
          rw [text] at first
          cases first
      | cons c rest =>
          rw [text] at decoded
          have lengths := congrArg List.length decoded
          simp at lengths
    · rename_i first
      exact first marked
  · rintro ⟨text, rfl, unmarked⟩
    have decoded := tail_of_encoded (rfl : Utf16.encode text = _)
    unfold delivered
    dsimp only
    rw [decoded, if_neg unmarked]

end Read

section Runs

inductive Call
  | checkIn (newGuid : String) (payload : Text)
  | checkOut (ticket : ClaimTicket) (delete : Bool)
  | clear (ticket : ClaimTicket)

variable (fallback : EcpMessage.DecoderFallback)

def Call.run (share : Share) : Call → Share
  | .checkIn newGuid payload => (LocalFileshare.checkIn share newGuid payload).2
  | .checkOut ticket delete => (LocalFileshare.checkOut fallback share ticket delete).2
  | .clear ticket => LocalFileshare.clear share ticket

def runCalls (share : Share) (calls : List Call) : Share := calls.foldl (Call.run fallback) share

/-- The call writes or deletes the file of a ticket. -/
def Call.Touches (filename : String) : Call → Prop
  | .checkIn newGuid _ => newGuid = filename
  | .checkOut ticket delete => ticket = .localFileshare filename ∧ delete = true
  | .clear ticket => ticket = .localFileshare filename

theorem clear_other {share : Share} {ticket : ClaimTicket} {filename : String} (other : ticket ≠ .localFileshare filename) :
    clear share ticket filename = share filename := by
  cases ticket with
  | localFileshare name => exact Function.update_of_ne (fun same => other (congrArg ClaimTicket.localFileshare same.symm)) _ _
  | other handlerName => rfl

theorem Call.run_untouched {filename : String} {call : Call} (share : Share) (untouched : ¬call.Touches filename) :
    call.run fallback share filename = share filename := by
  cases call with
  | checkIn newGuid payload => exact Function.update_of_ne (Ne.symm untouched) _ _
  | clear ticket => exact clear_other untouched
  | checkOut ticket delete =>
      unfold Call.run LocalFileshare.checkOut
      cases ticket with
      | other handlerName => rfl
      | localFileshare name =>
          dsimp only
          cases share name with
          | none => rfl
          | some content =>
              cases delete with
              | false => rfl
              | true => exact clear_other fun same => untouched ⟨same, rfl⟩

theorem runCalls_untouched {filename : String} {calls : List Call} (share : Share)
    (untouched : ∀ call ∈ calls, ¬call.Touches filename) : runCalls fallback share calls filename = share filename := by
  induction calls generalizing share with
  | nil => rfl
  | cons call calls ih =>
      have rest := ih (call.run fallback share) fun other member => untouched other (List.mem_cons_of_mem call member)
      exact rest.trans (Call.run_untouched fallback share (untouched call List.mem_cons_self))

/-- A ticket gives the payload that it was made for, whatever is done with other tickets and however often it was
used before, and gives the payload unchanged if that can be written. -/
theorem checkOut_after_checkIn (share : Share) (before after : List Call) (newGuid : String) (payload : Text) (delete : Bool)
    (untouched : ∀ call ∈ after, ¬call.Touches newGuid) :
    (checkOut fallback (runCalls fallback share (before ++ .checkIn newGuid payload :: after)) (.localFileshare newGuid) delete).1 =
        .ok (delivered payload) ∧
      (delivered payload = payload ↔ ∃ text : List Char, payload = Utf16.encode text ∧ text.head? ≠ some '\uFEFF') := by
  refine ⟨?_, delivered_eq_iff payload⟩
  have file : runCalls fallback share (before ++ .checkIn newGuid payload :: after) newGuid = some (EcpMessage.getBytes payload) := by
    unfold runCalls
    rw [List.foldl_append, List.foldl_cons]
    have kept := runCalls_untouched fallback (checkIn (runCalls fallback share before) newGuid payload).2 untouched
    exact kept.trans (Function.update_self _ _ _)
  unfold checkOut
  dsimp only
  rw [file]
  exact congrArg Except.ok (readToEnd_getBytes fallback payload)

theorem checkOut_after_checkIn_letter :
    (checkOut (fun _ => ([0xFFFD], 1)) (runCalls (fun _ => ([0xFFFD], 1)) (fun _ => none)
      ([.checkIn "b" [66]] ++ .checkIn "a" [65] :: [.checkIn "c" [67]])) (.localFileshare "a") false).1 =
        .ok (delivered [65]) :=
  (checkOut_after_checkIn (fun _ => ([0xFFFD], 1)) (fun _ => none) [.checkIn "b" [66]] [.checkIn "c" [67]] "a" [65] false
    (by simp [Call.Touches])).1

end Runs

section Messages

def handlerId : String := "LocalFileshareClaimHandler"

variable (fallback : EcpMessage.DecoderFallback)

/-- The ticket of a message, as the handler that its factory creates sees it. -/
def ticketOf (ticket : DataExchange.ClaimTicket) : ClaimTicket :=
  if ticket.handlerName = handlerId then .localFileshare ticket.storageId else .other ticket.handlerName

def textOf (payload : String) : Text := Utf16.encode payload.toList

/-- What messages have done with their payloads. -/
inductive Request
  | setMessageData (ticket : DataExchange.ClaimTicket) (payload : String)
  | deleteMessageData (ticket : DataExchange.ClaimTicket)

abbrev Payloads := DataExchange.ClaimTicket → Option String

/-- A request to the store of the messages, which has the payloads by their tickets. -/
def Request.store (payloads : Payloads) : Request → Payloads
  | .setMessageData ticket payload => Function.update payloads ticket (some payload)
  | .deleteMessageData ticket => Function.update payloads ticket none

/-- The same request to the files of the directory. -/
def Request.files (share : Share) : Request → Share
  | .setMessageData ticket payload =>
      if ticket.handlerName = handlerId then (checkIn share ticket.storageId (textOf payload)).2 else share
  | .deleteMessageData ticket => clear share (ticketOf ticket)

/-- A payload that does not begin with a byte order mark. -/
def Request.Unmarked : Request → Prop
  | .setMessageData _ payload => payload.toList.head? ≠ some '\uFEFF'
  | .deleteMessageData _ => True

/-- The files are the payloads of the tickets that name them. -/
def Holds (share : Share) (payloads : Payloads) : Prop :=
  ∀ filename, (share filename).map (readToEnd fallback) = (payloads ⟨handlerId, filename⟩).map textOf

variable {fallback}

theorem Holds.checkIn {share : Share} {payloads : Payloads} (holds : Holds fallback share payloads) (newGuid : String)
    {payload : String} (unmarked : payload.toList.head? ≠ some '\uFEFF') :
    Holds fallback (LocalFileshare.checkIn share newGuid (textOf payload)).2
      (Function.update payloads ⟨handlerId, newGuid⟩ (some payload)) := by
  intro filename
  unfold LocalFileshare.checkIn
  dsimp only
  by_cases same : filename = newGuid
  · have kept : delivered (textOf payload) = textOf payload := (delivered_eq_iff _).mpr ⟨_, rfl, unmarked⟩
    rw [same, Function.update_self, Function.update_self, Option.map_some, Option.map_some, readToEnd_getBytes, kept]
  · have other : (⟨handlerId, filename⟩ : DataExchange.ClaimTicket) ≠ ⟨handlerId, newGuid⟩ := fun equal =>
      same (congrArg DataExchange.ClaimTicket.storageId equal)
    rw [Function.update_of_ne same, Function.update_of_ne other]
    exact holds filename

theorem Holds.foreign {share : Share} {payloads : Payloads} (holds : Holds fallback share payloads)
    {ticket : DataExchange.ClaimTicket} (foreign : ticket.handlerName ≠ handlerId) (payload : Option String) :
    Holds fallback share (Function.update payloads ticket payload) := by
  intro filename
  have other : (⟨handlerId, filename⟩ : DataExchange.ClaimTicket) ≠ ticket := fun equal => foreign (equal ▸ rfl)
  rw [Function.update_of_ne other]
  exact holds filename

theorem Holds.clear {share : Share} {payloads : Payloads} (holds : Holds fallback share payloads)
    (ticket : DataExchange.ClaimTicket) :
    Holds fallback (LocalFileshare.clear share (ticketOf ticket)) (Function.update payloads ticket none) := by
  unfold ticketOf
  by_cases own : ticket.handlerName = handlerId
  · rw [if_pos own]
    intro filename
    unfold LocalFileshare.clear
    dsimp only
    by_cases same : filename = ticket.storageId
    · have named : (⟨handlerId, filename⟩ : DataExchange.ClaimTicket) = ticket := by rw [same, ← own]
      rw [named, same, Function.update_self, Function.update_self]
      rfl
    · have other : (⟨handlerId, filename⟩ : DataExchange.ClaimTicket) ≠ ticket := fun equal => same (equal ▸ rfl)
      rw [Function.update_of_ne same, Function.update_of_ne other]
      exact holds filename
  · rw [if_neg own]
    exact holds.foreign own none

theorem Holds.request {share : Share} {payloads : Payloads} (holds : Holds fallback share payloads) {request : Request}
    (unmarked : request.Unmarked) : Holds fallback (request.files share) (request.store payloads) := by
  cases request with
  | deleteMessageData ticket => exact holds.clear ticket
  | setMessageData ticket payload =>
      unfold Request.files Request.store
      dsimp only
      by_cases own : ticket.handlerName = handlerId
      · have named : ticket = ⟨handlerId, ticket.storageId⟩ := by rw [← own]
        rw [if_pos own]
        have step := holds.checkIn ticket.storageId unmarked
        rw [← named] at step
        exact step
      · rw [if_neg own]
        exact holds.foreign own (some payload)

theorem Holds.requests {requests : List Request} {share : Share} {payloads : Payloads} (holds : Holds fallback share payloads)
    (unmarked : ∀ request ∈ requests, request.Unmarked) :
    Holds fallback (requests.foldl Request.files share) (requests.foldl Request.store payloads) := by
  induction requests generalizing share payloads with
  | nil => exact holds
  | cons request requests ih =>
      exact ih (holds.request (unmarked request List.mem_cons_self)) fun other member =>
        unmarked other (List.mem_cons_of_mem request member)

/-- What the handler should answer where the store of the messages answers so. -/
def answerOf (ticket : ClaimTicket) (answer : Except SystemException (Option String)) : Except ClaimException Text :=
  match answer with
  | .ok payload => .ok (textOf (payload.getD ""))
  | .error _ => .error (.claimHandler ticket)

/-- The directory does what the store of the messages does: after any requests a message gets the same payload from its
file, or no payload as its file is missing. -/
theorem checkOut_refines {share : Share} {payloads : Payloads} (holds : Holds fallback share payloads)
    (requests : List Request) (unmarked : ∀ request ∈ requests, request.Unmarked) (message : DataExchangeMessage)
    (external : message.version ≠ 0) (filename : String) (ticket : message.claimTicket = some ⟨handlerId, filename⟩) :
    (checkOut fallback (requests.foldl Request.files share) (.localFileshare filename) false).1 =
      answerOf (.localFileshare filename) (message.getMessageData (requests.foldl Request.store payloads) none) := by
  have file := holds.requests unmarked filename
  unfold checkOut DataExchangeMessage.getMessageData
  rw [if_neg external, ticket]
  dsimp only
  cases stored : requests.foldl Request.store payloads ⟨handlerId, filename⟩ with
  | none =>
      rw [stored] at file
      rw [Option.map_eq_none_iff.mp file]
      rfl
  | some payload =>
      rw [stored] at file
      obtain ⟨content, found, read⟩ := Option.map_eq_some_iff.mp file
      rw [found]
      exact congrArg Except.ok read

theorem checkOut_refines_values :
    (checkOut (fun _ => ([0xFFFD], 1))
      ([.setMessageData valuesTicket "a", .setMessageData ⟨handlerId, "other"⟩ "b",
        .deleteMessageData ⟨handlerId, "other"⟩].foldl Request.files fun _ => none) (.localFileshare "values") false).1 =
      answerOf (.localFileshare "values") (valuesMessage.getMessageData
        ([.setMessageData valuesTicket "a", .setMessageData ⟨handlerId, "other"⟩ "b",
          .deleteMessageData ⟨handlerId, "other"⟩].foldl Request.store fun _ => none) none) :=
  checkOut_refines (fun _ => rfl) _ (by simp [Request.Unmarked]) valuesMessage (by decide) "values" rfl

end Messages

end ServiceHost.DataExchange.LocalFileshare
