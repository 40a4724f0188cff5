import Mathlib.Data.List.TakeWhile
import ServiceHost.DataExchange.EcpAmqpExportCore
import ServiceHost.DataExchange.EcpMessage
import ServiceHost.Library.Loops

/-!
What is reported as sent. An answer is told as the sequence of its signals: a status, a
status text or a metadata item, in the order of the document.
-/

namespace ServiceHost.DataExchange.EcpAmqpExport

open Library
open EcpMessage (Body DecoderFallback utf8)

inductive Signal
  | status (v : Option String)
  | statusText (v : Option String)
  | metadata (name : String) (v : Option String)
deriving DecidableEq

namespace Signal

def text : Signal → Option String
  | .statusText v => v
  | _ => none

def name : Signal → Option String
  | .metadata name _ => some name
  | _ => none

def isText : Signal → Bool
  | .statusText _ => true
  | _ => false

end Signal

section Signals

def statusSignal (messageStatusElement : XElement) : Option Signal :=
  if messageStatusElement.name = "status" then some (.status messageStatusElement.v)
  else if messageStatusElement.name = "statusText" then some (.statusText messageStatusElement.v)
  else none

def metadataSignal (metadataElement : XElement) : Signal := .metadata metadataElement.name metadataElement.v

def rootSignals (xElement : RootElement) : List Signal :=
  if xElement.name = "finalMessageStatus" then xElement.elements.filterMap statusSignal
  else if xElement.name = "edxReplyMetadata" then xElement.elements.map metadataSignal
  else []

def signals (document : XDocument) : List Signal := document.flatMap rootSignals

def onSignal (traversal : Traversal) : Signal → Except SystemException Traversal
  | .status v => onMessageStatusElement traversal ⟨"status", v⟩
  | .statusText v => onMessageStatusElement traversal ⟨"statusText", v⟩
  | .metadata name v => if traversal.failed then onMetadataElement traversal ⟨name, v⟩ else pure traversal

theorem onMessageStatusElement_eq (traversal : Traversal) (element : XElement) :
    onMessageStatusElement traversal element = (statusSignal element).toList.foldlM onSignal traversal := by
  by_cases isStatus : element.name = "status"
  · have signal : statusSignal element = some (.status element.v) := if_pos isStatus
    rw [signal, Option.toList_some, List.foldlM_cons]
    simp only [List.foldlM_nil, bind_pure]
    rw [onSignal, ← isStatus]
  · by_cases isText : element.name = "statusText"
    · have signal : statusSignal element = some (.statusText element.v) := by
        rw [statusSignal, if_neg isStatus, if_pos isText]
      rw [signal, Option.toList_some, List.foldlM_cons]
      simp only [List.foldlM_nil, bind_pure]
      rw [onSignal, ← isText]
    · have signal : statusSignal element = none := by rw [statusSignal, if_neg isStatus, if_neg isText]
      rw [signal, onMessageStatusElement, if_neg isStatus, if_neg fun both => isText both.2]
      rfl

theorem onMessageStatusElements_eq (elements : List XElement) (traversal : Traversal) :
    elements.foldlM onMessageStatusElement traversal = (elements.filterMap statusSignal).foldlM onSignal traversal := by
  induction elements generalizing traversal with
  | nil => rfl
  | cons element elements ih =>
      have split : (element :: elements).filterMap statusSignal =
          (statusSignal element).toList ++ elements.filterMap statusSignal := by
        cases told : statusSignal element with
        | none => rw [List.filterMap_cons_none told]; rfl
        | some signal => rw [List.filterMap_cons_some told]; rfl
      rw [split, List.foldlM_append, List.foldlM_cons, onMessageStatusElement_eq]
      exact bind_congr fun next => ih next

theorem onMetadataElement_failed {traversal next : Traversal} {element : XElement}
    (run : onMetadataElement traversal element = .ok next) : next.failed = traversal.failed := by
  rw [onMetadataElement] at run
  cases told : traversal.exception with
  | none =>
      rw [told] at run
      cases run
  | some pair =>
      rw [told] at run
      simp only [bind_eq_ok_iff] at run
      obtain ⟨_, _, _, _, same⟩ := run
      cases same
      rfl

theorem onMetadataElements_eq (elements : List XElement) (traversal : Traversal) (failed : traversal.failed = true) :
    elements.foldlM onMetadataElement traversal = (elements.map metadataSignal).foldlM onSignal traversal := by
  induction elements generalizing traversal with
  | nil => rfl
  | cons element elements ih =>
      have first : onSignal traversal (metadataSignal element) = onMetadataElement traversal element := if_pos failed
      rw [List.map_cons, List.foldlM_cons, List.foldlM_cons, first]
      cases run : onMetadataElement traversal element with
      | error exception => rfl
      | ok next => exact ih next ((onMetadataElement_failed run).trans failed)

theorem onMetadataElements_ignored (elements : List XElement) (traversal : Traversal)
    (failed : traversal.failed = false) :
    (elements.map metadataSignal).foldlM onSignal traversal = .ok traversal := by
  induction elements with
  | nil => rfl
  | cons element elements ih =>
      have first : onSignal traversal (metadataSignal element) = .ok traversal :=
        if_neg (by rw [failed]; exact Bool.false_ne_true)
      rw [List.map_cons, List.foldlM_cons, first]
      exact ih

theorem onRootElement_eq (traversal : Traversal) (xElement : RootElement) :
    onRootElement traversal xElement = (rootSignals xElement).foldlM onSignal traversal := by
  rw [onRootElement, rootSignals]
  by_cases isStatus : xElement.name = "finalMessageStatus"
  · rw [if_pos isStatus, if_pos isStatus]
    exact onMessageStatusElements_eq xElement.elements traversal
  · rw [if_neg isStatus, if_neg isStatus]
    by_cases isMetadata : xElement.name = "edxReplyMetadata"
    · rw [if_pos isMetadata]
      cases failed : traversal.failed with
      | true =>
          rw [if_pos ⟨rfl, isMetadata⟩]
          exact onMetadataElements_eq xElement.elements traversal failed
      | false =>
          rw [if_neg fun both => Bool.false_ne_true both.1]
          exact (onMetadataElements_ignored xElement.elements traversal failed).symm
    · rw [if_neg isMetadata, if_neg fun both => isMetadata both.2]
      rfl

theorem traverse_eq (document : XDocument) : traverse document = (signals document).foldlM onSignal started := by
  rw [traverse]
  generalize started = traversal
  induction document generalizing traversal with
  | nil => rfl
  | cons xElement document ih =>
      rw [List.foldlM_cons, onRootElement_eq, signals, List.flatMap_cons, List.foldlM_append]
      exact bind_congr fun next => ih next

end Signals

section History

def failedStatus : Signal := .status (some "FAILED")

def hasFailed (told : List Signal) : Bool := told.contains failedStatus

def texts (told : List Signal) : List String := told.filterMap Signal.text

def spoken (told : List Signal) : List String := texts (told.dropWhile fun signal => signal ≠ failedStatus)

def replied (told : List Signal) : List String :=
  (told.reverse.takeWhile fun signal => !signal.isText).filterMap Signal.name

def Faulty (told : List Signal) : Signal → Prop
  | .status v => v = none
  | .statusText v => hasFailed told = true ∧ v = none
  | .metadata name v => hasFailed told = true ∧ (spoken told = [] ∨ v = none ∨ name ∈ replied told)

structure TakenIn (told : List Signal) (traversal : Traversal) : Prop where
  failed : traversal.failed = hasFailed told
  message : traversal.exception.map Prod.fst = (spoken told).getLast?
  data : ∀ message data, traversal.exception = some (message, data) →
    ∀ name, name ∈ data.map Prod.fst ↔ name ∈ replied told

theorem hasFailed_append (told : List Signal) (signal : Signal) :
    hasFailed (told ++ [signal]) = (hasFailed told || signal == failedStatus) := by
  rw [hasFailed, List.contains_append]
  have same : [signal].contains failedStatus = (signal == failedStatus) := by
    rw [List.contains_cons, List.contains_nil, Bool.or_false]
    exact BEq.comm
  rw [same]
  rfl

theorem hasFailed_status (told : List Signal) (status : String) :
    hasFailed (told ++ [.status (some status)]) = (hasFailed told || status == "FAILED") := by
  rw [hasFailed_append]
  congr 1
  by_cases failed : status = "FAILED"
  · rw [failed]
    rfl
  · rw [beq_eq_false_iff_ne.mpr failed]
    exact beq_eq_false_iff_ne.mpr fun same => failed (Option.some.inj (Signal.status.inj same))

theorem hasFailed_statusText (told : List Signal) (v : Option String) :
    hasFailed (told ++ [.statusText v]) = hasFailed told := by
  rw [hasFailed_append, show (Signal.statusText v == failedStatus) = false from rfl, Bool.or_false]

theorem hasFailed_metadata (told : List Signal) (name : String) (v : Option String) :
    hasFailed (told ++ [.metadata name v]) = hasFailed told := by
  rw [hasFailed_append, show (Signal.metadata name v == failedStatus) = false from rfl, Bool.or_false]

theorem dropWhile_eq_nil_iff (told : List Signal) :
    (told.dropWhile fun signal => signal ≠ failedStatus) = [] ↔ hasFailed told = false := by
  rw [List.dropWhile_eq_nil_iff, hasFailed, List.contains_eq_mem, decide_eq_false_iff_not]
  constructor
  · intro differs member
    have other := differs failedStatus member
    rw [decide_eq_true_eq] at other
    exact other rfl
  · intro absent signal member
    rw [decide_eq_true_eq]
    rintro rfl
    exact absent member

theorem spoken_quiet {told : List Signal} (quiet : hasFailed told = false) : spoken told = [] := by
  rw [spoken, (dropWhile_eq_nil_iff told).mpr quiet]
  rfl

theorem spoken_append_failed {told : List Signal} (failed : hasFailed told = true) (signal : Signal) :
    spoken (told ++ [signal]) = spoken told ++ signal.text.toList := by
  have stops : (told.dropWhile fun signal => signal ≠ failedStatus).isEmpty = false := by
    rw [List.isEmpty_eq_false_iff]
    intro all
    rw [(dropWhile_eq_nil_iff told).mp all] at failed
    cases failed
  rw [spoken, List.dropWhile_append, stops, if_neg Bool.false_ne_true, texts, List.filterMap_append]
  cases told : signal.text with
  | none => rw [List.filterMap_cons_none told]; rfl
  | some text => rw [List.filterMap_cons_some told]; rfl

theorem spoken_append_quiet {told : List Signal} (quiet : hasFailed told = false) (signal : Signal) :
    spoken (told ++ [signal]) = [] := by
  by_cases failed : signal = failedStatus
  · rw [spoken, List.dropWhile_append, (dropWhile_eq_nil_iff told).mpr quiet, failed]
    rfl
  · apply spoken_quiet
    rw [hasFailed_append, quiet, Bool.false_or]
    exact beq_eq_false_iff_ne.mpr failed

theorem replied_append (told : List Signal) (signal : Signal) :
    replied (told ++ [signal]) = if signal.isText then [] else signal.name.toList ++ replied told := by
  rw [replied, List.reverse_append, List.reverse_singleton, List.singleton_append]
  cases isText : signal.isText with
  | true =>
      rw [List.takeWhile_cons_of_neg (by rw [isText]; exact Bool.false_ne_true), if_pos rfl]
      rfl
  | false =>
      rw [List.takeWhile_cons_of_pos (by rw [isText]; rfl), if_neg Bool.false_ne_true]
      cases named : signal.name with
      | none => rw [List.filterMap_cons_none named]; rfl
      | some name => rw [List.filterMap_cons_some named]; rfl

theorem takenIn_started : TakenIn [] started := by
  constructor
  · rfl
  · rfl
  · intro message data same
    cases same

section Step

variable {told : List Signal} {traversal : Traversal}

theorem spoken_append_textless {signal : Signal} (textless : signal.text = none) :
    spoken (told ++ [signal]) = spoken told := by
  cases failed : hasFailed told with
  | true => rw [spoken_append_failed failed, textless, Option.toList_none, List.append_nil]
  | false => rw [spoken_append_quiet failed, spoken_quiet failed]

theorem TakenIn.exception_none (takenIn : TakenIn told traversal) (silent : spoken told = []) :
    traversal.exception = none := by
  have message := takenIn.message
  rw [silent, List.getLast?_nil, Option.map_eq_none_iff] at message
  exact message

theorem TakenIn.exception_some (takenIn : TakenIn told traversal) (spoke : spoken told ≠ []) :
    ∃ data, traversal.exception = some ((spoken told).getLast spoke, data) := by
  have message := takenIn.message
  rw [List.getLast?_eq_some_getLast spoke] at message
  obtain ⟨⟨text, data⟩, same, first⟩ := Option.map_eq_some_iff.mp message
  exact ⟨data, by rw [same, ← first]⟩

theorem onSignal_status (status : String) : onSignal traversal (.status (some status)) =
    .ok (if status = "FAILED" then { traversal with failed := true } else traversal) := rfl

theorem onSignal_statusText (failed : traversal.failed = true) (v : Option String) :
    onSignal traversal (.statusText v) = XElement.value ⟨"statusText", v⟩ >>= fun text =>
      pure { traversal with exception := some (text, []) } := by
  have other : ("statusText" : String) ≠ "status" := by decide
  rw [onSignal, onMessageStatusElement, if_neg other, if_pos ⟨failed, rfl⟩]

theorem onSignal_statusText_ignored (quiet : traversal.failed = false) (v : Option String) :
    onSignal traversal (.statusText v) = .ok traversal := by
  have other : ("statusText" : String) ≠ "status" := by decide
  rw [onSignal, onMessageStatusElement, if_neg other, if_neg (by simp [quiet])]
  rfl

theorem keeps_status (takenIn : TakenIn told traversal) (status : String) :
    TakenIn (told ++ [.status (some status)])
      (if status = "FAILED" then { traversal with failed := true } else traversal) := by
  have sameSpoken : spoken (told ++ [.status (some status)]) = spoken told := spoken_append_textless rfl
  have sameReplied : replied (told ++ [.status (some status)]) = replied told := replied_append told _
  by_cases failed : status = "FAILED"
  · rw [if_pos failed]
    constructor
    · rw [hasFailed_status, failed]
      exact (Bool.or_true _).symm
    · rw [sameSpoken]
      exact takenIn.message
    · rw [sameReplied]
      exact takenIn.data
  · rw [if_neg failed]
    constructor
    · rw [hasFailed_status, beq_eq_false_iff_ne.mpr failed, Bool.or_false]
      exact takenIn.failed
    · rw [sameSpoken]
      exact takenIn.message
    · rw [sameReplied]
      exact takenIn.data

theorem keeps_statusText (takenIn : TakenIn told traversal) (failed : hasFailed told = true) (text : String) :
    TakenIn (told ++ [.statusText (some text)]) { traversal with exception := some (text, []) } := by
  constructor
  · rw [hasFailed_statusText]
    exact takenIn.failed
  · rw [spoken_append_failed failed, show Signal.text (.statusText (some text)) = some text from rfl,
      Option.toList_some, List.getLast?_concat]
    rfl
  · intro message data same name
    have nothing : replied (told ++ [.statusText (some text)]) = [] := replied_append told _
    rw [nothing]
    cases same
    rfl

theorem keeps_ignored (takenIn : TakenIn told traversal) (quiet : hasFailed told = false) {signal : Signal}
    (other : signal ≠ failedStatus) : TakenIn (told ++ [signal]) traversal := by
  constructor
  · rw [hasFailed_append, beq_eq_false_iff_ne.mpr other, Bool.or_false]
    exact takenIn.failed
  · rw [spoken_append_quiet quiet, ← spoken_quiet quiet]
    exact takenIn.message
  · intro message data same
    rw [takenIn.exception_none (spoken_quiet quiet)] at same
    cases same

theorem onSignal_metadata {message : String} {data : List (String × Option String)} (failed : traversal.failed = true)
    (same : traversal.exception = some (message, data)) (name value : String) :
    onSignal traversal (.metadata name (some value)) =
      if name ∈ data.map Prod.fst then .error (.other "ArgumentException")
      else .ok { traversal with exception := some (message, data ++ [(name, some value)]) } := by
  rw [onSignal, if_pos failed, onMetadataElement, same]
  by_cases present : name ∈ data.map Prod.fst
  · rw [if_pos present]
    simp only [XElement.value, addData, if_pos present]
    rfl
  · rw [if_neg present]
    simp only [XElement.value, addData, if_neg present]
    rfl

theorem onSignal_metadata_silent (failed : traversal.failed = true) (none : traversal.exception = none) (name : String)
    (v : Option String) : onSignal traversal (.metadata name v) = .error .nullReference := by
  rw [onSignal, if_pos failed, onMetadataElement, none]
  rfl

theorem onSignal_metadata_missing (failed : traversal.failed = true) (name : String) :
    onSignal traversal (.metadata name none) = .error .nullReference := by
  rw [onSignal, if_pos failed, onMetadataElement]
  cases traversal.exception with
  | none => rfl
  | some pair => rfl

theorem keeps_metadata (takenIn : TakenIn told traversal) {message : String} {data : List (String × Option String)}
    (same : traversal.exception = some (message, data)) (name value : String) :
    TakenIn (told ++ [.metadata name (some value)])
      { traversal with exception := some (message, data ++ [(name, some value)]) } := by
  have sameReplied : replied (told ++ [.metadata name (some value)]) = name :: replied told := replied_append told _
  constructor
  · rw [hasFailed_metadata]
    exact takenIn.failed
  · rw [spoken_append_textless rfl, ← takenIn.message, same]
    rfl
  · intro otherMessage otherData otherSame other
    cases otherSame
    rw [sameReplied, List.map_append, List.mem_append, List.mem_cons, takenIn.data message data same other]
    exact or_comm.trans (or_congr_left List.mem_singleton)

theorem keepsHistory_onSignal : KeepsHistory Faulty TakenIn onSignal := by
  constructor
  · intro told signal traversal takenIn faulty
    cases signal with
    | status v =>
        cases (show v = none from faulty)
        exact ⟨.nullReference, rfl⟩
    | statusText v =>
        obtain ⟨failed, missing⟩ := faulty
        cases missing
        exact ⟨.nullReference, onSignal_statusText (takenIn.failed.trans failed) none⟩
    | metadata name v =>
        obtain ⟨failed, faults⟩ := faulty
        have isFailed := takenIn.failed.trans failed
        by_cases silent : spoken told = []
        · exact ⟨.nullReference, onSignal_metadata_silent isFailed (takenIn.exception_none silent) name v⟩
        · obtain ⟨data, same⟩ := takenIn.exception_some silent
          cases v with
          | none => exact ⟨.nullReference, onSignal_metadata_missing isFailed name⟩
          | some value =>
              rcases faults with nothing | missing | twice
              · exact absurd nothing silent
              · cases missing
              · refine ⟨.other "ArgumentException", ?_⟩
                rw [onSignal_metadata isFailed same, if_pos ((takenIn.data _ data same name).mpr twice)]
  · intro told signal traversal takenIn sound
    cases signal with
    | status v =>
        cases v with
        | none => exact absurd rfl sound
        | some status => exact ⟨_, onSignal_status status, keeps_status takenIn status⟩
    | statusText v =>
        cases failed : hasFailed told with
        | false =>
            exact ⟨traversal, onSignal_statusText_ignored (takenIn.failed.trans failed) v,
              keeps_ignored takenIn failed (by rintro ⟨⟩)⟩
        | true =>
            cases v with
            | none => exact absurd ⟨failed, rfl⟩ sound
            | some text =>
                exact ⟨_, onSignal_statusText (takenIn.failed.trans failed) (some text), keeps_statusText takenIn failed text⟩
    | metadata name v =>
        cases failed : hasFailed told with
        | false =>
            refine ⟨traversal, ?_, keeps_ignored takenIn failed (by rintro ⟨⟩)⟩
            exact if_neg (by rw [takenIn.failed, failed]; exact Bool.false_ne_true)
        | true =>
            have isFailed := takenIn.failed.trans failed
            have spoke : spoken told ≠ [] := fun silent => sound ⟨failed, Or.inl silent⟩
            obtain ⟨data, same⟩ := takenIn.exception_some spoke
            cases v with
            | none => exact absurd ⟨failed, Or.inr (Or.inl rfl)⟩ sound
            | some value =>
                have fresh : name ∉ data.map Prod.fst := by
                  intro present
                  exact sound ⟨failed, Or.inr (Or.inr ((takenIn.data _ data same name).mp present))⟩
                refine ⟨_, ?_, keeps_metadata takenIn same name value⟩
                rw [onSignal_metadata isFailed same, if_neg fresh]

theorem traverse_history (document : XDocument) :
    (HasFault Faulty (signals document) → ∃ exception, traverse document = .error exception) ∧
      (¬HasFault Faulty (signals document) →
        ∃ traversal, traverse document = .ok traversal ∧ TakenIn (signals document) traversal) := by
  rw [traverse_eq]
  exact keepsHistory_onSignal.foldlM takenIn_started (signals document)

end Step

end History

def ExportException.Carries (text : String) : ExportException → Prop
  | .thrown _ => False
  | .failed message _ => message = text
  | .wrapped _ _ inner => inner.Carries text

section Document

variable (load : Text → Except SystemException XDocument) (fallback : DecoderFallback)

def Represents (body : Body) (text : Text) : Prop :=
  body = .text text ∨ ∃ characters, text = Utf16.encode characters ∧ body = .bytes (utf8 characters)

def IsDocument (body : Body) (document : XDocument) : Prop :=
  ∃ text, Represents body text ∧ load text = .ok document

def IsPlain (body : Body) : Prop := ∀ bytes, body = .bytes bytes → ∀ byte ∈ bytes, byte.toNat < 128

structure IsRead (body : Body) (document : XDocument) : Prop where
  plain : IsPlain body
  sound : ¬HasFault Faulty (signals document)

variable {load fallback}

theorem represents_unique {body : Body} {first second : Text} (one : Represents body first)
    (other : Represents body second) : first = second := by
  rcases one with isText | ⟨characters, encoded, isBytes⟩
  · rcases other with otherText | ⟨otherCharacters, _, otherBytes⟩
    · exact EcpMessage.Body.text.inj (isText.symm.trans otherText)
    · cases isText.symm.trans otherBytes
  · rcases other with otherText | ⟨otherCharacters, otherEncoded, otherBytes⟩
    · cases isBytes.symm.trans otherText
    · have sameBytes := EcpMessage.Body.bytes.inj (isBytes.symm.trans otherBytes)
      have decoded := EcpMessage.decodeFrom_utf8 (fun _ => ([], 1)) characters _ (Nat.le_refl _)
      rw [sameBytes, EcpMessage.decodeFrom_utf8 _ otherCharacters _ (Nat.le_refl _)] at decoded
      rw [encoded, otherEncoded, decoded]

theorem isDocument_unique {body : Body} {first second : XDocument} (one : IsDocument load body first)
    (other : IsDocument load body second) : first = second := by
  obtain ⟨text, represents, loaded⟩ := one
  obtain ⟨otherText, otherRepresents, otherLoaded⟩ := other
  cases represents_unique represents otherRepresents
  exact Except.ok.inj (loaded.symm.trans otherLoaded)

theorem decodeBody_plain {body : Body} {text : Text} (represents : Represents body text) (plain : IsPlain body) :
    decodeBody fallback body = .ok text := by
  rcases represents with isText | ⟨characters, encoded, isBytes⟩
  · rw [isText]
    rfl
  · have ascii := (EcpMessage.bytes_lt_iff characters).mp (plain _ isBytes)
    have lengths := (EcpMessage.units_eq_bytes_iff characters).mpr ascii
    have decoded := @EcpMessage.decodeBodyAsString_utf8 fallback ⟨body, "", "", []⟩ characters isBytes none
    rw [lengths, Nat.sub_self, List.replicate_zero, List.append_nil, ← encoded] at decoded
    rw [decodeBody, decoded]
    rfl

theorem decodeBody_padded {body : Body} {text : Text} (represents : Represents body text) (notPlain : ¬IsPlain body) :
    ∃ padded, decodeBody fallback body = .ok padded ∧ 0 ∈ padded := by
  rcases represents with isText | ⟨characters, encoded, isBytes⟩
  · refine absurd ?_ notPlain
    intro bytes isBytes
    cases isText.symm.trans isBytes
  · have longer : (utf8 characters).length - (Utf16.encode characters).length ≠ 0 := by
      intro same
      have lengths : (Utf16.encode characters).length = (utf8 characters).length :=
        Nat.le_antisymm (EcpMessage.units_le_bytes characters) (Nat.sub_eq_zero_iff_le.mp same)
      refine notPlain fun bytes otherBytes => ?_
      rw [← EcpMessage.Body.bytes.inj (isBytes.symm.trans otherBytes)]
      exact (EcpMessage.bytes_lt_iff characters).mpr ((EcpMessage.units_eq_bytes_iff characters).mp lengths)
    have decoded := @EcpMessage.decodeBodyAsString_utf8 fallback ⟨body, "", "", []⟩ characters isBytes none
    refine ⟨_, by rw [decodeBody, decoded]; rfl, ?_⟩
    rw [Utf16.encode_append, EcpMessage.encode_zeros, List.mem_append]
    exact Or.inr (List.mem_replicate.mpr ⟨longer, rfl⟩)

theorem texts_dropWhile (told : List Signal) {text : String} (member : text ∈ spoken told) : text ∈ texts told := by
  obtain ⟨signal, later, same⟩ := List.mem_filterMap.mp member
  exact List.mem_filterMap.mpr ⟨signal, (List.dropWhile_sublist _).subset later, same⟩

section Check

variable {response : Response} {document : XDocument}

theorem checkEdx_returns (isDocument : IsDocument load response.body document)
    (isRead : IsRead response.body document) (silent : spoken (signals document) = []) :
    checkEdx load fallback response = .ok () := by
  obtain ⟨text, represents, loaded⟩ := isDocument
  obtain ⟨traversal, run, takenIn⟩ := (traverse_history document).2 isRead.sound
  rw [checkEdx, decodeBody_plain represents isRead.plain]
  simp only [liftExport, Except.mapError, ok_bind, loaded, run, takenIn.exception_none silent]
  rfl

theorem checkEdx_failed (isDocument : IsDocument load response.body document)
    (isRead : IsRead response.body document) (spoke : spoken (signals document) ≠ []) :
    ∃ data, checkEdx load fallback response = .error (.failed ((spoken (signals document)).getLast spoke) data) := by
  obtain ⟨text, represents, loaded⟩ := isDocument
  obtain ⟨traversal, run, takenIn⟩ := (traverse_history document).2 isRead.sound
  obtain ⟨data, same⟩ := takenIn.exception_some spoke
  refine ⟨data, ?_⟩
  rw [checkEdx, decodeBody_plain represents isRead.plain]
  simp only [liftExport, Except.mapError, ok_bind, loaded, run, same]
  rfl

theorem checkEdx_thrown (noZero : ∀ text, 0 ∈ text → ∃ exception, load text = .error exception)
    (isDocument : IsDocument load response.body document) (notRead : ¬IsRead response.body document) :
    ∃ exception, checkEdx load fallback response = .error (.thrown exception) := by
  obtain ⟨text, represents, loaded⟩ := isDocument
  by_cases plain : IsPlain response.body
  · have fault : HasFault Faulty (signals document) := by
      by_contra sound
      exact notRead ⟨plain, sound⟩
    obtain ⟨exception, run⟩ := (traverse_history document).1 fault
    refine ⟨exception, ?_⟩
    rw [checkEdx, decodeBody_plain represents plain]
    simp only [liftExport, Except.mapError, ok_bind, loaded, run]
    rfl
  · obtain ⟨padded, decoded, zero⟩ := decodeBody_padded represents plain
    obtain ⟨exception, refused⟩ := noZero padded zero
    refine ⟨exception, ?_⟩
    rw [checkEdx, decoded]
    simp only [liftExport, Except.mapError, ok_bind, refused]
    rfl

end Check

end Document

section Receive

inductive Receives (correlationId : Option String) : List Answer → Option Response → Prop
  | ended : Receives correlationId [] none
  | timeout (answers : List Answer) : Receives correlationId (.timeout :: answers) none
  | passing {response : Response} {properties : Properties} {answers : List Answer} {received : Option Response}
      (given : response.properties = some properties) (other : correlationId ≠ properties.correlationId)
      (later : Receives correlationId answers received) :
      Receives correlationId (.response response none :: answers) received
  | matching {response : Response} {properties : Properties} (answers : List Answer)
      (given : response.properties = some properties) (same : correlationId = properties.correlationId) :
      Receives correlationId (.response response none :: answers) (some response)

theorem receive_eq_ok_iff (correlationId : Option String) (answers : List Answer) (received : Option Response) :
    receive correlationId answers = .ok received ↔ Receives correlationId answers received := by
  induction answers with
  | nil =>
      constructor
      · intro returned
        cases returned
        exact .ended
      · intro receives
        cases receives
        rfl
  | cons answer answers ih =>
      cases answer with
      | timeout =>
          constructor
          · intro returned
            cases returned
            exact .timeout answers
          · intro receives
            cases receives
            rfl
      | failure exception =>
          constructor
          · intro returned
            cases returned
          · intro receives
            cases receives
      | response response accept =>
          cases accept with
          | some exception =>
              constructor
              · intro returned
                cases returned
              · intro receives
                cases receives
          | none =>
              rw [receive]
              simp only [succeeds, pure_eq_ok, ok_bind]
              cases given : response.properties with
              | none =>
                  constructor
                  · intro returned
                    cases returned
                  · intro receives
                    cases receives with
                    | passing otherGiven _ _ => cases given.symm.trans otherGiven
                    | matching _ otherGiven _ => cases given.symm.trans otherGiven
              | some properties =>
                  dsimp only
                  by_cases same : correlationId = properties.correlationId
                  · rw [if_neg (not_not_intro same)]
                    constructor
                    · intro returned
                      cases returned
                      exact .matching answers given same
                    · intro receives
                      cases receives with
                      | passing otherGiven other _ =>
                          cases given.symm.trans otherGiven
                          exact absurd same other
                      | matching _ _ _ => rfl
                  · rw [if_pos same, ih]
                    constructor
                    · intro later
                      exact .passing given same later
                    · intro receives
                      cases receives with
                      | passing _ _ later => exact later
                      | matching _ otherGiven otherSame =>
                          cases given.symm.trans otherGiven
                          exact absurd otherSame same

end Receive

section Send

variable (load : Text → Except SystemException XDocument) (fallback : DecoderFallback)
  (parameters : EcpAmqpParameters) (document : Document) (outcomes : LinkOutcomes)

structure IsSent : Prop where
  created : ∃ message, createMessage outcomes.newGuid document = .ok message
  connect : outcomes.connect = none
  send : outcomes.send = none
  openInbox : outcomes.openInbox = none

def IsReceived (received : Option Response) : Prop :=
  IsSent document outcomes ∧ Receives document.externalReference outcomes.answers received

structure ReportsHonestly : Prop where
  returns : (∃ reference, sendExportMessage load fallback parameters document outcomes = .ok reference) ↔
    ∃ response answer, IsReceived document outcomes (some response) ∧ IsDocument load response.body answer ∧
      hasFailed (signals answer) = false
  carries : ∀ response answer, IsReceived document outcomes (some response) → IsDocument load response.body answer →
    hasFailed (signals answer) = true →
    ∃ exception, sendExportMessage load fallback parameters document outcomes = .error exception ∧
      (texts (signals answer) ≠ [] → ∃ text ∈ texts (signals answer), exception.Carries text)

structure IsAnswered : Prop where
  inTime : IsReceived document outcomes none → outcomes.close ≠ none
  positive : ∀ response answer, IsReceived document outcomes (some response) → IsDocument load response.body answer →
    hasFailed (signals answer) = false → outcomes.close = none ∧ IsRead response.body answer
  untold : ∀ response answer, IsReceived document outcomes (some response) → IsDocument load response.body answer →
    hasFailed (signals answer) = true → texts (signals answer) = [] →
    ¬(outcomes.close = none ∧ IsRead response.body answer)
  told : ∀ response answer, IsReceived document outcomes (some response) → IsDocument load response.body answer →
    hasFailed (signals answer) = true → texts (signals answer) ≠ [] →
    (outcomes.close = none ∧ IsRead response.body answer) ∧ spoken (signals answer) ≠ []

variable {load fallback parameters document outcomes}

theorem createMessage_correlationId {newGuid : String} {message : OutgoingMessage}
    (created : createMessage newGuid document = .ok message) : message.correlationId = document.externalReference := by
  simp only [createMessage, bind_eq_ok_iff] at created
  obtain ⟨data, _, built⟩ := created
  cases data with
  | none => cases built
  | some messageData =>
      simp only [bind_eq_ok_iff] at built
      obtain ⟨receiver, _, same⟩ := built
      cases same
      rfl

theorem handle_carries (useEdx : parameters.useEdx = true) (caught : ExportException) :
    ∃ exception, handle parameters document caught = .error exception ∧
      ∀ text, exception.Carries text ↔ caught.Carries text := by
  unfold handle
  rw [useEdx]
  dsimp only
  split <;> exact ⟨_, rfl, fun text => Iff.rfl⟩

theorem exchange_timedOut (timedOut : IsReceived document outcomes none) :
    exchange load fallback parameters document outcomes = .ok none := by
  obtain ⟨⟨⟨message, created⟩, _, sent, opened⟩, receives⟩ := timedOut
  rw [← createMessage_correlationId created, ← receive_eq_ok_iff] at receives
  rw [exchange, created, sent, opened]
  simp only [liftExport, Except.mapError, ok_bind, succeeds, pure_eq_ok, receives]

theorem exchange_answered (useEdx : parameters.useEdx = true) {response : Response}
    (answered : IsReceived document outcomes (some response)) : exchange load fallback parameters document outcomes =
      (checkEdx load fallback response >>= fun _ => .ok (response.properties.bind Properties.messageId)) := by
  obtain ⟨⟨⟨message, created⟩, _, sent, opened⟩, receives⟩ := answered
  rw [← createMessage_correlationId created, ← receive_eq_ok_iff] at receives
  rw [exchange, created, sent, opened]
  simp only [liftExport, Except.mapError, ok_bind, succeeds, pure_eq_ok, receives, useEdx, if_true]

theorem exchange_returns {reference : Option String} (connected : outcomes.connect = none)
    (returned : exchange load fallback parameters document outcomes = .ok reference) :
    ∃ received, IsReceived document outcomes received := by
  cases created : createMessage outcomes.newGuid document with
  | error exception =>
      rw [exchange, created] at returned
      cases returned
  | ok message =>
      cases sent : outcomes.send with
      | some exception =>
          rw [exchange, created, sent] at returned
          cases returned
      | none =>
          cases opened : outcomes.openInbox with
          | some exception =>
              rw [exchange, created, sent, opened] at returned
              cases returned
          | none =>
              cases receives : receive message.correlationId outcomes.answers with
              | error exception =>
                  rw [exchange, created, sent, opened] at returned
                  simp only [liftExport, Except.mapError, ok_bind, succeeds, pure_eq_ok, receives] at returned
                  cases returned
              | ok received =>
                  rw [receive_eq_ok_iff, createMessage_correlationId created] at receives
                  exact ⟨received, ⟨⟨message, created⟩, connected, sent, opened⟩, receives⟩

theorem send_not_connected {exception : SystemException} (connect : outcomes.connect = some exception) :
    sendExportMessage load fallback parameters document outcomes = .error (.thrown exception) := by
  rw [sendExportMessage, connect]
  rfl

theorem send_not_closed {exception : SystemException} (connect : outcomes.connect = none)
    (close : outcomes.close = some exception) :
    sendExportMessage load fallback parameters document outcomes = .error (.thrown exception) := by
  rw [sendExportMessage, connect, close]
  rfl

theorem send_returns {reference : Option String} (connect : outcomes.connect = none) (close : outcomes.close = none)
    (returned : exchange load fallback parameters document outcomes = .ok reference) :
    ∃ reference, sendExportMessage load fallback parameters document outcomes = .ok reference := by
  rw [sendExportMessage, connect, close, returned]
  exact ⟨_, rfl⟩

theorem send_throws (useEdx : parameters.useEdx = true) {caught : ExportException} (connect : outcomes.connect = none)
    (close : outcomes.close = none) (raised : exchange load fallback parameters document outcomes = .error caught) :
    ∃ exception, sendExportMessage load fallback parameters document outcomes = .error exception ∧
      ∀ text, exception.Carries text ↔ caught.Carries text := by
  obtain ⟨exception, handled, carries⟩ := @handle_carries parameters document useEdx caught
  refine ⟨exception, ?_, carries⟩
  rw [sendExportMessage, connect, close, raised]
  simp only [liftExport, Except.mapError, ok_bind, succeeds, pure_eq_ok, Except.tryCatch, handled]
  rfl

theorem isReceived_unique {first second : Option Response} (one : IsReceived document outcomes first)
    (other : IsReceived document outcomes second) : first = second := by
  have same := (receive_eq_ok_iff _ _ _).mpr one.2
  rw [(receive_eq_ok_iff _ _ _).mpr other.2] at same
  exact (Except.ok.inj same).symm

section Answered

variable {response : Response} {answer : XDocument} (useEdx : parameters.useEdx = true)
  (answered : IsReceived document outcomes (some response)) (isDocument : IsDocument load response.body answer)
include useEdx answered isDocument

theorem send_silent (close : outcomes.close = none) (isRead : IsRead response.body answer)
    (silent : spoken (signals answer) = []) :
    ∃ reference, sendExportMessage load fallback parameters document outcomes = .ok reference := by
  have returned := @exchange_answered load fallback parameters document outcomes useEdx response answered
  rw [checkEdx_returns isDocument isRead silent] at returned
  exact send_returns answered.1.connect close returned

theorem send_told (close : outcomes.close = none) (isRead : IsRead response.body answer)
    (spoke : spoken (signals answer) ≠ []) :
    ∃ exception, sendExportMessage load fallback parameters document outcomes = .error exception ∧
      ∃ text ∈ texts (signals answer), exception.Carries text := by
  have raised := @exchange_answered load fallback parameters document outcomes useEdx response answered
  obtain ⟨data, failed⟩ := @checkEdx_failed load fallback response answer isDocument isRead spoke
  rw [failed] at raised
  obtain ⟨exception, thrown, carries⟩ := send_throws useEdx answered.1.connect close raised
  exact ⟨exception, thrown, _, texts_dropWhile _ (List.getLast_mem spoke), (carries _).mpr rfl⟩

theorem send_unread (noZero : ∀ text, 0 ∈ text → ∃ exception, load text = .error exception)
    (unread : ¬(outcomes.close = none ∧ IsRead response.body answer)) :
    ∃ exception, sendExportMessage load fallback parameters document outcomes = .error exception ∧
      ∀ text, ¬exception.Carries text := by
  cases close : outcomes.close with
  | some exception => exact ⟨_, send_not_closed answered.1.connect close, fun _ carries => carries⟩
  | none =>
      have notRead : ¬IsRead response.body answer := fun isRead => unread ⟨close, isRead⟩
      have raised := @exchange_answered load fallback parameters document outcomes useEdx response answered
      obtain ⟨caught, thrown⟩ := @checkEdx_thrown load fallback response answer noZero isDocument notRead
      rw [thrown] at raised
      obtain ⟨exception, sent, carries⟩ := send_throws useEdx answered.1.connect close raised
      exact ⟨exception, sent, fun text carried => (carries text).mp carried⟩

end Answered

theorem send_unanswered (useEdx : parameters.useEdx = true)
    (unanswered : ∀ received, ¬IsReceived document outcomes received) {reference : Option String} :
    sendExportMessage load fallback parameters document outcomes ≠ .ok reference := by
  intro sent
  cases connect : outcomes.connect with
  | some exception => cases (send_not_connected connect).symm.trans sent
  | none =>
      cases close : outcomes.close with
      | some exception => cases (send_not_closed connect close).symm.trans sent
      | none =>
          cases exchanged : exchange load fallback parameters document outcomes with
          | ok returned =>
              obtain ⟨received, isReceived⟩ := exchange_returns connect exchanged
              exact unanswered received isReceived
          | error caught =>
              obtain ⟨exception, thrown, _⟩ := send_throws useEdx connect close exchanged
              cases thrown.symm.trans sent

theorem IsAnswered.throws (isAnswered : IsAnswered load document outcomes) (useEdx : parameters.useEdx = true)
    (noZero : ∀ text, 0 ∈ text → ∃ exception, load text = .error exception) {response : Response} {answer : XDocument}
    (answered : IsReceived document outcomes (some response)) (isDocument : IsDocument load response.body answer)
    (failed : hasFailed (signals answer) = true) :
    ∃ exception, sendExportMessage load fallback parameters document outcomes = .error exception ∧
      (texts (signals answer) ≠ [] → ∃ text ∈ texts (signals answer), exception.Carries text) := by
  by_cases noTexts : texts (signals answer) = []
  · obtain ⟨exception, thrown, _⟩ := @send_unread load fallback parameters document outcomes response answer
      useEdx answered isDocument noZero (isAnswered.untold response answer answered isDocument failed noTexts)
    exact ⟨exception, thrown, fun hasTexts => absurd noTexts hasTexts⟩
  · obtain ⟨isRead, spoke⟩ := isAnswered.told response answer answered isDocument failed noTexts
    obtain ⟨exception, thrown, carries⟩ := @send_told load fallback parameters document outcomes response answer
      useEdx answered isDocument isRead.1 isRead.2 spoke
    exact ⟨exception, thrown, fun _ => carries⟩

/-- What is sent is reported honestly exactly when its answer comes in time and is read as it has to be. -/
theorem reportsHonestly_iff (useEdx : parameters.useEdx = true)
    (noZero : ∀ text, 0 ∈ text → ∃ exception, load text = .error exception)
    (anyDocument : ∀ response, IsReceived document outcomes (some response) →
      ∃ answer, IsDocument load response.body answer) :
    ReportsHonestly load fallback parameters document outcomes ↔ IsAnswered load document outcomes := by
  constructor
  · intro honest
    constructor
    · intro timedOut close
      obtain ⟨response, answer, answered, _⟩ := honest.returns.mp
        (send_returns timedOut.1.connect close (exchange_timedOut timedOut))
      cases isReceived_unique timedOut answered
    · intro response answer answered isDocument positive
      by_contra unread
      obtain ⟨exception, thrown, _⟩ := @send_unread load fallback parameters document outcomes response
        answer useEdx answered isDocument noZero unread
      obtain ⟨reference, sent⟩ := honest.returns.mpr ⟨response, answer, answered, isDocument, positive⟩
      cases thrown.symm.trans sent
    · intro response answer answered isDocument failed noTexts isRead
      have silent : spoken (signals answer) = [] := by
        apply List.eq_nil_iff_forall_not_mem.mpr
        intro text member
        have other := texts_dropWhile _ member
        rw [noTexts] at other
        cases other
      obtain ⟨exception, thrown, _⟩ := honest.carries response answer answered isDocument failed
      obtain ⟨reference, sent⟩ := @send_silent load fallback parameters document outcomes response
        answer useEdx answered isDocument isRead.1 isRead.2 silent
      cases thrown.symm.trans sent
    · intro response answer answered isDocument failed hasTexts
      obtain ⟨exception, thrown, carries⟩ := honest.carries response answer answered isDocument failed
      obtain ⟨text, _, carried⟩ := carries hasTexts
      have isRead : outcomes.close = none ∧ IsRead response.body answer := by
        by_contra unread
        obtain ⟨other, otherThrown, carriesNothing⟩ :=
          @send_unread load fallback parameters document outcomes response answer useEdx answered isDocument noZero
            unread
        cases thrown.symm.trans otherThrown
        exact carriesNothing text carried
      refine ⟨isRead, fun silent => ?_⟩
      obtain ⟨reference, sent⟩ := @send_silent load fallback parameters document outcomes response
        answer useEdx answered isDocument isRead.1 isRead.2 silent
      cases thrown.symm.trans sent
  · intro isAnswered
    constructor
    · constructor
      · rintro ⟨reference, sent⟩
        by_cases received : ∃ received, IsReceived document outcomes received
        · obtain ⟨received, isReceived⟩ := received
          cases received with
          | none =>
              cases close : outcomes.close with
              | none => exact absurd close (isAnswered.inTime isReceived)
              | some exception => cases (send_not_closed isReceived.1.connect close).symm.trans sent
          | some response =>
              obtain ⟨answer, isDocument⟩ := anyDocument response isReceived
              refine ⟨response, answer, isReceived, isDocument, ?_⟩
              by_contra notPositive
              have failed : hasFailed (signals answer) = true := eq_true_of_ne_false notPositive
              obtain ⟨exception, thrown, _⟩ :=
                @IsAnswered.throws load fallback parameters document outcomes isAnswered useEdx noZero response answer
                  isReceived isDocument failed
              cases thrown.symm.trans sent
        · exact absurd sent (send_unanswered useEdx (not_exists.mp received))
      · rintro ⟨response, answer, answered, isDocument, positive⟩
        have isRead := isAnswered.positive response answer answered isDocument positive
        exact send_silent useEdx answered isDocument isRead.1 isRead.2 (spoken_quiet positive)
    · intro response answer answered isDocument failed
      exact isAnswered.throws useEdx noZero answered isDocument failed

section Routed

def loadOnly (xml : String) (document : XDocument) (content : Text) : Except SystemException XDocument :=
  if content = Utf16.encode xml.toList then .ok document else .error (.other "XmlException")

def refusedXml : String :=
  "<e><finalMessageStatus><status v='FAILED'/><statusText v='No route'/></finalMessageStatus></e>"

def refused : XDocument := [⟨"finalMessageStatus", [⟨"status", some "FAILED"⟩, ⟨"statusText", some "No route"⟩]⟩]

def refusedEarlyXml : String :=
  "<e><finalMessageStatus><statusText v='No route'/><status v='FAILED'/></finalMessageStatus></e>"

def refusedEarly : XDocument := [⟨"finalMessageStatus", [⟨"statusText", some "No route"⟩, ⟨"status", some "FAILED"⟩]⟩]

def edx : EcpAmqpParameters := ⟨true, true⟩

def bids : Document where
  messageLogId := 7
  subAddress := "TRE-bids-new"
  routingAddress := some (Utf16.encode "ECPAMQP:10V0000000000001".toList)
  messageReference := "ref"
  externalReference := some "id"
  getMessageData := .ok (some (Utf16.encode "<bids/>".toList))

def answerOf (correlationId xml : String) : Response :=
  ⟨some ⟨some correlationId, some "m1"⟩, .text (Utf16.encode xml.toList), some []⟩

def answeredBy (answers : List Answer) : LinkOutcomes where
  newGuid := "guid"
  connect := none
  send := none
  openInbox := none
  answers := answers
  close := none

theorem isSent_bids (answers : List Answer) : IsSent bids (answeredBy answers) := ⟨⟨_, rfl⟩, rfl, rfl, rfl⟩

theorem receives_refused :
    IsReceived bids (answeredBy [.response (answerOf "other" "<e/>") none, .response (answerOf "id" refusedXml) none])
      (some (answerOf "id" refusedXml)) :=
  ⟨isSent_bids _, .passing rfl (by decide) (.matching [] rfl rfl)⟩

theorem loadOnly_refused : IsDocument (loadOnly refusedXml refused) (answerOf "id" refusedXml).body refused :=
  ⟨_, Or.inl rfl, if_pos rfl⟩

theorem isRead_refused : IsRead (answerOf "id" refusedXml).body refused := by
  constructor
  · intro bytes same
    cases same
  · change ¬HasFault Faulty ([.status (some "FAILED")] ++ [.statusText (some "No route")])
    rw [hasFault_append_singleton]
    change ¬(HasFault Faulty ([] ++ [.status (some "FAILED")]) ∨ _)
    rw [hasFault_append_singleton]
    rintro ((nothing | status) | ⟨_, statusText⟩)
    · exact hasFault_nil Faulty nothing
    · cases status
    · cases statusText

theorem reportsHonestly_refused : ReportsHonestly (loadOnly refusedXml refused) (fun _ => ([], 1)) edx bids
    (answeredBy [.response (answerOf "other" "<e/>") none, .response (answerOf "id" refusedXml) none]) := by
  refine (reportsHonestly_iff rfl ?_ ?_).mpr ⟨?_, ?_, ?_, ?_⟩
  · intro text zero
    refine ⟨.other "XmlException", if_neg ?_⟩
    rintro rfl
    revert zero
    decide
  · intro response received
    cases isReceived_unique received receives_refused
    exact ⟨refused, loadOnly_refused⟩
  · intro timedOut
    cases isReceived_unique timedOut receives_refused
  · intro response answer received isDocument positive
    cases isReceived_unique received receives_refused
    cases isDocument_unique isDocument loadOnly_refused
    cases positive
  · intro response answer received isDocument _ noTexts
    cases isReceived_unique received receives_refused
    cases isDocument_unique isDocument loadOnly_refused
    cases noTexts
  · intro response answer received isDocument _ _
    cases isReceived_unique received receives_refused
    cases isDocument_unique isDocument loadOnly_refused
    exact ⟨⟨rfl, isRead_refused⟩, by decide⟩

/-- A time-out is reported as sent, and so is a failure whose text comes before its status. -/
theorem reportsHonestly_timeout :
    ¬ReportsHonestly (loadOnly refusedXml refused) (fun _ => ([], 1)) edx bids (answeredBy []) ∧
      ¬ReportsHonestly (loadOnly refusedEarlyXml refusedEarly) (fun _ => ([], 1)) edx bids
        (answeredBy [.response (answerOf "id" refusedEarlyXml) none]) := by
  constructor
  · intro honest
    obtain ⟨response, _, received, _⟩ := honest.returns.mp ⟨none, rfl⟩
    cases isReceived_unique received ⟨isSent_bids [], .ended⟩
  · intro honest
    have received : IsReceived bids (answeredBy [.response (answerOf "id" refusedEarlyXml) none])
        (some (answerOf "id" refusedEarlyXml)) := ⟨isSent_bids _, .matching [] rfl rfl⟩
    obtain ⟨exception, thrown, _⟩ := honest.carries _ refusedEarly received ⟨_, Or.inl rfl, if_pos rfl⟩ (by decide)
    have sent : sendExportMessage (loadOnly refusedEarlyXml refusedEarly) (fun _ => ([], 1)) edx bids
        (answeredBy [.response (answerOf "id" refusedEarlyXml) none]) = .ok (some "m1") := by rfl
    cases thrown.symm.trans sent

end Routed

end Send

end ServiceHost.DataExchange.EcpAmqpExport
