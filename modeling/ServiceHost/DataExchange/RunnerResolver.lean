import ServiceHost.DataExchange.RunnerResolverCore

/-!
Where a message is routed to, and what may be thrown on the way. The lines of a payload are
searched up to the first empty one only, and a marked line may be too short for a type.
-/

namespace ServiceHost.DataExchange

open Library

namespace RunnerResolver

variable (runtime : Runtime) (settings : ImportSettings) (message : ImportMessage)

def isMarked (line : Text) : Bool := runtime.startsWith line (text "PD01 ")

def searched (messageData : Text) : List Text := (lines messageData).takeWhile fun line => line ≠ []

def CarriesType (messageTypes : List Text) (messageData : Text) : Prop :=
  ∃ line, (lines messageData).find? (isMarked runtime) = some line ∧ (line.drop 5).take 3 ∈ messageTypes

def configuredTypes : List Text := settings.ancitraMessageTypes.getD []

def consults : Bool :=
  let protocol := trimmedUpperCase runtime message.protocol
  edkinProtocols.contains protocol || utiltsProtocols.contains protocol || xmlElProtocols.contains protocol

def IsHandled (exception : SystemException) : Prop := exception = .claimHandler ∨ ∃ id, exception = .invalidMetadata id

structure Routes : Prop where
  total : ∀ exception, getApplicationType runtime settings message = .error exception → IsHandled exception
  queue : consults runtime message = true → ∀ messageData, message.getMessageData = .ok (some messageData) →
    (getApplicationType runtime settings message = .ok .ancitraQueue ↔
      CarriesType runtime (configuredTypes settings) messageData)

def Readable (messageTypes : List Text) (messageData : Text) : Prop :=
  match (searched messageData).find? (isMarked runtime) with
  | some line => 8 ≤ line.length
  | none => ¬CarriesType runtime messageTypes messageData

abbrev comparesCodes (wanted : Bool) (address : Option Text) (kind : Text) : Prop :=
  wanted ∧ (trimmedUpperCase runtime address).length > 0 ∧
    trimmedUpperCase runtime address = trimmedUpperCase runtime message.senderName ∧
    trimmedUpperCase runtime message.subAddress = kind

structure CodesGiven : Prop where
  avregn : comparesCodes runtime message settings.tradeAvregnToEdkin settings.tradeStatnettAddress (text "AVREGNING") →
    settings.tradeEdiimpProductCodes ≠ none
  timer : comparesCodes runtime message settings.tradeTimerToEdkin settings.tradeStatnettAddress (text "TIMER") →
    settings.tradeEdiimpProductCodes ≠ none
  delfor : comparesCodes runtime message settings.tradeDelforToEdkin settings.tradeSvkAddress (text "TRANS") →
    settings.tradeEdkinProductCodes ≠ none

structure Routable : Prop where
  payload : consults runtime message = true → configuredTypes settings ≠ [] →
    match message.getMessageData with
    | .error exception => IsHandled exception
    | .ok none => False
    | .ok (some messageData) => Readable runtime (configuredTypes settings) messageData
  codes : trimmedUpperCase runtime message.protocol ∈ ediProtocols → CodesGiven runtime settings message

section Lines

variable {runtime}

theorem scanLines_eq (messageTypes : List Text) (all : List Text) : scanLines runtime messageTypes all =
    match (all.takeWhile fun line => line ≠ []).find? (isMarked runtime) with
    | some line => (messageTypeOf line).map messageTypes.contains
    | none => .ok false := by
  induction all with
  | nil => rfl
  | cons line rest ih =>
      rw [scanLines]
      by_cases empty : line = []
      · rw [if_pos empty, List.takeWhile_cons_of_neg (by simpa using empty)]
        rfl
      · rw [if_neg empty, List.takeWhile_cons_of_pos (by simpa using empty)]
        by_cases marked : isMarked runtime line = true
        · rw [if_pos (show runtime.startsWith line (text "PD01 ") = true from marked), List.find?_cons_of_pos marked]
          change (messageTypeOf line >>= fun messageType => pure (messageTypes.contains messageType)) =
            (messageTypeOf line).map messageTypes.contains
          cases messageTypeOf line with
          | error exception => rfl
          | ok messageType => rfl
        · rw [if_neg (show ¬runtime.startsWith line (text "PD01 ") = true from marked),
            List.find?_cons_of_neg marked, ih]

theorem find?_searched {messageData line : Text} (found : (searched messageData).find? (isMarked runtime) = some line) :
    (lines messageData).find? (isMarked runtime) = some line := by
  rw [← List.takeWhile_append_dropWhile (p := fun line => line ≠ []) (l := lines messageData), List.find?_append]
  exact Option.or_eq_some_iff.mpr (Or.inl found)

theorem messageTypeOf_error {line : Text} (short : line.length < 8) :
    messageTypeOf line = .error (.other "ArgumentOutOfRangeException") := if_pos short

theorem messageTypeOf_ok {line : Text} (long : 8 ≤ line.length) : messageTypeOf line = .ok ((line.drop 5).take 3) :=
  if_neg (Nat.not_lt.mpr long)

theorem scanLines_iff (messageTypes : List Text) (messageData : Text) :
    ((∀ exception, scanLines runtime messageTypes (lines messageData) = .error exception → IsHandled exception) ∧
      (scanLines runtime messageTypes (lines messageData) = .ok true ↔ CarriesType runtime messageTypes messageData)) ↔
      Readable runtime messageTypes messageData := by
  have scan := @scanLines_eq runtime messageTypes (lines messageData)
  change _ = match (searched messageData).find? (isMarked runtime) with
    | some line => _
    | none => _ at scan
  rw [scan, Readable]
  cases found : (searched messageData).find? (isMarked runtime) with
  | none =>
      dsimp only
      constructor
      · intro routes carries
        cases routes.2.mpr carries
      · intro carriesNot
        constructor
        · intro exception error
          cases error
        · constructor
          · intro same
            cases same
          · intro carries
            exact absurd carries carriesNot
  | some line =>
      dsimp only
      have first := find?_searched found
      by_cases long : 8 ≤ line.length
      · rw [messageTypeOf_ok long]
        have carries : CarriesType runtime messageTypes messageData ↔ (line.drop 5).take 3 ∈ messageTypes := by
          constructor
          · rintro ⟨other, otherFound, inTypes⟩
            rwa [Option.some.inj (otherFound.symm.trans first)] at inTypes
          · intro inTypes
            exact ⟨line, first, inTypes⟩
        rw [carries]
        constructor
        · intro _
          exact long
        · intro _
          constructor
          · intro exception error
            cases error
          · rw [← List.contains_iff_mem]
            exact ⟨Except.ok.inj, congrArg Except.ok⟩
      · rw [messageTypeOf_error (Nat.lt_of_not_le long)]
        constructor
        · intro routes
          rcases routes.1 _ rfl with isClaim | ⟨id, isMetadata⟩
          · cases isClaim
          · cases isMetadata
        · intro longEnough
          exact absurd longEnough long

end Lines

section Protocols

variable {runtime settings message}

theorem utiltsProtocols_apart :
    ∀ protocol ∈ utiltsProtocols, protocol ∉ edkinProtocols ∧ protocol ∉ ediProtocols := by decide

theorem xmlElProtocols_apart : ∀ protocol ∈ xmlElProtocols,
    protocol ∉ edkinProtocols ∧ protocol ∉ ediProtocols ∧ protocol ∉ utiltsProtocols ∧ protocol ∉ gs2Protocols := by
  decide

theorem ediProtocols_apart : ∀ protocol ∈ ediProtocols,
    protocol ∉ edkinProtocols ∧ protocol ∉ utiltsProtocols ∧ protocol ∉ xmlElProtocols := by decide

theorem getApplicationType_plain (plain : consults runtime message = false)
    (notEdi : trimmedUpperCase runtime message.protocol ∉ ediProtocols) :
    (∃ type, type ≠ .ancitraQueue ∧ getApplicationType runtime settings message = .ok type) ∨
      getApplicationType runtime settings message = .error (.invalidMetadata 0) := by
  simp only [consults, Bool.or_eq_false_iff] at plain
  obtain ⟨⟨notEdkin, notUtilts⟩, notXmlEl⟩ := plain
  rw [← List.contains_iff_mem] at notEdi
  simp only [getApplicationType, notEdkin, notUtilts, notXmlEl]
  rw [if_neg Bool.false_ne_true, if_neg notEdi, if_neg Bool.false_ne_true, if_neg Bool.false_ne_true]
  split
  · exact Or.inl ⟨.gs2imp, by decide, rfl⟩
  · split
    · exact Or.inl ⟨.prodatImp, by decide, rfl⟩
    · split
      · exact Or.inl ⟨.nppoload, by decide, rfl⟩
      · split
        · exact Or.inl ⟨.serviceBus2Tss, by decide, rfl⟩
        · exact Or.inr rfl

theorem consults_edi (edi : trimmedUpperCase runtime message.protocol ∈ ediProtocols) :
    consults runtime message = false := by
  have apart := ediProtocols_apart _ edi
  simp only [consults, Bool.or_eq_false_iff, List.contains_eq_mem, decide_eq_false_iff_not]
  exact ⟨⟨apart.1, apart.2.1⟩, apart.2.2⟩

theorem getApplicationType_edi (edi : trimmedUpperCase runtime message.protocol ∈ ediProtocols) :
    getApplicationType runtime settings message =
      (useSpecialCaseForMsconsWhereEdkinIsUsed runtime settings message).map fun special =>
        if special then .edkIn else .ediImp := by
  have apart := ediProtocols_apart _ edi
  simp only [getApplicationType, List.contains_iff_mem]
  rw [if_neg apart.1, if_pos edi]

section SpecialCase

variable {condition : Prop} [Decidable condition] {codes : Option (List (Option Text))}
  (compare : List (Option Text) → Bool)

theorem andAlso_unmet (unmet : ¬condition) :
    andAlso (decide condition) ((productCodes codes).map compare) = .ok false := by
  rw [decide_eq_false unmet]
  rfl

theorem andAlso_missing (met : condition) (missing : codes = none) :
    andAlso (decide condition) ((productCodes codes).map compare) = .error .argumentNull := by
  rw [decide_eq_true met, missing]
  rfl

theorem andAlso_given (given : condition → codes ≠ none) :
    ∃ same, andAlso (decide condition) ((productCodes codes).map compare) = .ok same := by
  by_cases met : condition
  · rw [decide_eq_true met]
    cases codes with
    | none => exact absurd rfl (given met)
    | some codes => exact ⟨compare codes, rfl⟩
  · exact ⟨false, andAlso_unmet compare met⟩

end SpecialCase

theorem special_given (given : CodesGiven runtime settings message) :
    ∃ special, useSpecialCaseForMsconsWhereEdkinIsUsed runtime settings message = .ok special := by
  rw [useSpecialCaseForMsconsWhereEdkinIsUsed]
  split
  · exact ⟨true, rfl⟩
  · obtain ⟨avregn, avregnSame⟩ := andAlso_given (fun codes => codes.all fun value =>
      trimmedUpperCase runtime value ≠ trimmedUpperCase runtime message.productCode) given.avregn
    obtain ⟨timer, timerSame⟩ := andAlso_given (fun codes => codes.all fun value =>
      trimmedUpperCase runtime value ≠ trimmedUpperCase runtime message.productCode) given.timer
    obtain ⟨delfor, delforSame⟩ := andAlso_given (fun codes => codes.any fun value =>
      trimmedUpperCase runtime value = trimmedUpperCase runtime message.productCode) given.delfor
    rw [avregnSame, timerSame, delforSame]
    cases avregn with
    | true => exact ⟨true, rfl⟩
    | false =>
        cases timer with
        | true => exact ⟨true, rfl⟩
        | false => exact ⟨delfor, rfl⟩

theorem kinds_apart : text "AVREGNING" ≠ text "INNMATING" ∧ text "TIMER" ≠ text "INNMATING" ∧
    text "TRANS" ≠ text "INNMATING" ∧ text "TIMER" ≠ text "AVREGNING" ∧ text "TRANS" ≠ text "AVREGNING" ∧
    text "TRANS" ≠ text "TIMER" := by decide

theorem special_missing (missing : ¬CodesGiven runtime settings message) :
    useSpecialCaseForMsconsWhereEdkinIsUsed runtime settings message = .error .argumentNull := by
  obtain ⟨avregnInnmating, timerInnmating, transInnmating, timerAvregn, transAvregn, transTimer⟩ := kinds_apart
  have cases : (comparesCodes runtime message settings.tradeAvregnToEdkin settings.tradeStatnettAddress
        (text "AVREGNING") ∧ settings.tradeEdiimpProductCodes = none) ∨
      (comparesCodes runtime message settings.tradeTimerToEdkin settings.tradeStatnettAddress (text "TIMER") ∧
        settings.tradeEdiimpProductCodes = none) ∨
      (comparesCodes runtime message settings.tradeDelforToEdkin settings.tradeSvkAddress (text "TRANS") ∧
        settings.tradeEdkinProductCodes = none) := by
    by_contra none
    simp only [not_or, not_and] at none
    exact missing ⟨none.1, none.2.1, none.2.2⟩
  rw [useSpecialCaseForMsconsWhereEdkinIsUsed]
  rcases cases with ⟨avregn, noCodes⟩ | ⟨timer, noCodes⟩ | ⟨delfor, noCodes⟩
  · have kind : trimmedUpperCase runtime message.subAddress = text "AVREGNING" := avregn.2.2.2
    rw [if_neg (fun innmating => avregnInnmating (kind.symm.trans innmating.2)), andAlso_missing _ avregn noCodes]
    rfl
  · have kind : trimmedUpperCase runtime message.subAddress = text "TIMER" := timer.2.2.2
    have notAvregn : ¬comparesCodes runtime message settings.tradeAvregnToEdkin settings.tradeStatnettAddress
        (text "AVREGNING") := fun avregn => timerAvregn (kind.symm.trans avregn.2.2.2)
    rw [if_neg (fun innmating => timerInnmating (kind.symm.trans innmating.2)), andAlso_unmet _ notAvregn,
      andAlso_missing _ timer noCodes]
    rfl
  · have kind : trimmedUpperCase runtime message.subAddress = text "TRANS" := delfor.2.2.2
    have notAvregn : ¬comparesCodes runtime message settings.tradeAvregnToEdkin settings.tradeStatnettAddress
        (text "AVREGNING") := fun avregn => transAvregn (kind.symm.trans avregn.2.2.2)
    have notTimer : ¬comparesCodes runtime message settings.tradeTimerToEdkin settings.tradeStatnettAddress
        (text "TIMER") := fun timer => transTimer (kind.symm.trans timer.2.2.2)
    rw [if_neg (fun innmating => transInnmating (kind.symm.trans innmating.2)), andAlso_unmet _ notAvregn,
      andAlso_unmet _ notTimer, andAlso_missing _ delfor noCodes]
    rfl

theorem getApplicationType_consults (looked : consults runtime message = true) :
    ∃ otherwise, otherwise ≠ .ancitraQueue ∧
      getApplicationType runtime settings message = ancitraOr runtime settings otherwise message := by
  have groups : (trimmedUpperCase runtime message.protocol ∈ edkinProtocols ∨
      trimmedUpperCase runtime message.protocol ∈ utiltsProtocols) ∨
      trimmedUpperCase runtime message.protocol ∈ xmlElProtocols := by
    simpa only [consults, Bool.or_eq_true, List.contains_iff_mem] using looked
  simp only [getApplicationType, List.contains_iff_mem]
  rcases groups with (edkin | utilts) | xmlEl
  · rw [if_pos edkin]
    exact ⟨.edkIn, by decide, rfl⟩
  · have apart := utiltsProtocols_apart _ utilts
    rw [if_neg apart.1, if_neg apart.2, if_pos utilts]
    refine ⟨_, ?_, rfl⟩
    split <;> decide
  · have apart := xmlElProtocols_apart _ xmlEl
    rw [if_neg apart.1, if_neg apart.2.1, if_neg apart.2.2.1, if_neg apart.2.2.2, if_pos xmlEl]
    exact ⟨.xmlElImp, by decide, rfl⟩

theorem ancitraOr_unconfigured (unconfigured : configuredTypes settings = []) (otherwise : ImportApplicationType) :
    ancitraOr runtime settings otherwise message = .ok otherwise := by
  unfold configuredTypes at unconfigured
  unfold ancitraOr
  cases types : settings.ancitraMessageTypes with
  | none => rfl
  | some messageTypes =>
      rw [types, Option.getD_some] at unconfigured
      rw [unconfigured]
      rfl

theorem ancitraOr_configured (plainText : settings.ancitraMessageTypeUseRe = false)
    (configured : configuredTypes settings ≠ []) (otherwise : ImportApplicationType) :
    ancitraOr runtime settings otherwise message =
      match message.getMessageData with
      | .error exception => .error exception
      | .ok none => .error .argumentNull
      | .ok (some messageData) =>
          (scanLines runtime (configuredTypes settings) (lines messageData)).map fun found =>
            if found then .ancitraQueue else otherwise := by
  unfold configuredTypes at configured ⊢
  unfold ancitraOr
  cases types : settings.ancitraMessageTypes with
  | none =>
      rw [types] at configured
      exact absurd rfl configured
  | some messageTypes =>
      rw [types, Option.getD_some] at configured
      cases messageTypes with
      | nil => exact absurd rfl configured
      | cons messageType rest =>
          rw [Option.getD_some]
          cases message.getMessageData with
          | error exception => rfl
          | ok data =>
              cases data with
              | none => rfl
              | some messageData =>
                  change (isAncitraMessageType runtime settings (some messageData) (messageType :: rest) >>=
                    fun found =>
                    if found = true then pure ImportApplicationType.ancitraQueue else pure otherwise) = _
                  rw [isAncitraMessageType]
                  dsimp only
                  rw [plainText, if_neg Bool.false_ne_true]
                  cases scanLines runtime (messageType :: rest) (lines messageData) with
                  | error exception => rfl
                  | ok found => cases found <;> rfl

theorem map_error_iff {Value Result : Type} (change : Value → Result) (outcome : Except SystemException Value)
    (exception : SystemException) : outcome.map change = .error exception ↔ outcome = .error exception := by
  cases outcome with
  | error thrown =>
      constructor
      · intro same
        exact congrArg Except.error (Except.error.inj same)
      · intro same
        exact congrArg Except.error (Except.error.inj same)
  | ok value =>
      constructor
      · intro same
        cases same
      · intro same
        cases same

theorem map_queue_iff {otherwise : ImportApplicationType} (notQueue : otherwise ≠ .ancitraQueue)
    (outcome : Except SystemException Bool) :
    (outcome.map fun found => if found then .ancitraQueue else otherwise) = .ok .ancitraQueue ↔ outcome = .ok true := by
  cases outcome with
  | error thrown =>
      constructor
      · intro same
        cases same
      · intro same
        cases same
  | ok found =>
      cases found with
      | false =>
          constructor
          · intro same
            exact absurd (Except.ok.inj same) notQueue
          · intro same
            cases same
      | true =>
          constructor
          · intro _
            rfl
          · intro _
            rfl

end Protocols

theorem IsHandled.not_argumentNull : ¬IsHandled .argumentNull := by
  rintro (isClaim | ⟨id, isMetadata⟩)
  · cases isClaim
  · cases isMetadata

section Groups

variable {runtime settings message}

theorem routes_plain (plain : consults runtime message = false)
    (notEdi : trimmedUpperCase runtime message.protocol ∉ ediProtocols) :
    Routes runtime settings message ∧ Routable runtime settings message := by
  refine ⟨⟨?_, ?_⟩, ?_, fun edi => absurd edi notEdi⟩
  · intro exception thrown
    rcases @getApplicationType_plain runtime settings message plain notEdi with ⟨type, _, returned⟩ | unknown
    · rw [returned] at thrown
      cases thrown
    · rw [unknown] at thrown
      cases thrown
      exact Or.inr ⟨0, rfl⟩
  · intro consulted
    rw [plain] at consulted
    cases consulted
  · intro consulted
    rw [plain] at consulted
    cases consulted

theorem routes_edi (edi : trimmedUpperCase runtime message.protocol ∈ ediProtocols) :
    Routes runtime settings message ↔ Routable runtime settings message := by
  have plain := consults_edi edi
  have returned := @getApplicationType_edi runtime settings message edi
  constructor
  · intro routes
    constructor
    · intro consulted
      rw [plain] at consulted
      cases consulted
    · intro _
      by_contra missing
      rw [special_missing missing] at returned
      exact IsHandled.not_argumentNull (routes.total .argumentNull returned)
  · intro routable
    obtain ⟨special, same⟩ := special_given (routable.codes edi)
    rw [same] at returned
    constructor
    · intro exception thrown
      cases returned.symm.trans thrown
    · intro consulted
      rw [plain] at consulted
      cases consulted

theorem routes_unconfigured (looked : consults runtime message = true) (configured : configuredTypes settings = []) :
    Routes runtime settings message ∧ Routable runtime settings message := by
  obtain ⟨otherwise, notQueue, routed⟩ := @getApplicationType_consults runtime settings message looked
  have returned := routed.trans (ancitraOr_unconfigured configured otherwise)
  refine ⟨⟨?_, ?_⟩, fun _ notEmpty => absurd configured notEmpty, ?_⟩
  · intro exception thrown
    rw [returned] at thrown
    cases thrown
  · intro _ messageData _
    rw [returned, configured]
    constructor
    · intro same
      exact absurd (Except.ok.inj same) notQueue
    · rintro ⟨line, _, noType⟩
      exact absurd noType List.not_mem_nil
  · intro edi
    cases looked.symm.trans (consults_edi edi)

theorem routes_configured (plainText : settings.ancitraMessageTypeUseRe = false)
    (looked : consults runtime message = true) (configured : configuredTypes settings ≠ []) :
    Routes runtime settings message ↔ Routable runtime settings message := by
  obtain ⟨otherwise, notQueue, routed⟩ := @getApplicationType_consults runtime settings message looked
  have returned := routed.trans (ancitraOr_configured plainText configured otherwise)
  have notEdi : trimmedUpperCase runtime message.protocol ∈ ediProtocols → CodesGiven runtime settings message := by
    intro edi
    cases looked.symm.trans (consults_edi edi)
  cases read : message.getMessageData with
  | error exception =>
      rw [read] at returned
      constructor
      · intro routes
        refine ⟨fun _ _ => ?_, notEdi⟩
        rw [read]
        exact routes.total exception returned
      · intro routable
        have handled := routable.payload looked configured
        rw [read] at handled
        constructor
        · intro thrownException thrown
          cases returned.symm.trans thrown
          exact handled
        · intro _ messageData readable
          cases read.symm.trans readable
  | ok data =>
      cases data with
      | none =>
          rw [read] at returned
          constructor
          · intro routes
            exact absurd (routes.total .argumentNull returned) IsHandled.not_argumentNull
          · intro routable
            have impossible := routable.payload looked configured
            rw [read] at impossible
            exact impossible.elim
      | some messageData =>
          rw [read] at returned
          dsimp only at returned
          have scanned := @scanLines_iff runtime (configuredTypes settings) messageData
          constructor
          · intro routes
            refine ⟨fun _ _ => ?_, notEdi⟩
            rw [read]
            apply scanned.mp
            constructor
            · intro exception thrown
              exact routes.total exception (returned.trans ((map_error_iff _ _ exception).mpr thrown))
            · rw [← routes.queue looked messageData read, returned, map_queue_iff notQueue]
          · intro routable
            have readable := routable.payload looked configured
            rw [read] at readable
            have told := scanned.mpr readable
            constructor
            · intro exception thrown
              exact told.1 exception ((map_error_iff _ _ exception).mp (returned.symm.trans thrown))
            · intro _ otherData otherRead
              cases read.symm.trans otherRead
              rw [returned, map_queue_iff notQueue]
              exact told.2

end Groups

/-- Routing is total and finds the type of the first marked line exactly for messages whose payload
is not needed, or can be read and is readable, and whose product code has a list to be found in. -/
theorem routes_iff (plainText : settings.ancitraMessageTypeUseRe = false) :
    Routes runtime settings message ↔ Routable runtime settings message := by
  cases looked : consults runtime message with
  | false =>
      by_cases edi : trimmedUpperCase runtime message.protocol ∈ ediProtocols
      · exact routes_edi edi
      · have both := @routes_plain runtime settings message looked edi
        exact iff_of_true both.1 both.2
  | true =>
      by_cases configured : configuredTypes settings = []
      · have both := @routes_unconfigured runtime settings message looked configured
        exact iff_of_true both.1 both.2
      · exact routes_configured plainText looked configured

def ordinal : Runtime where
  isWhiteSpace c := c = 32 || (9 ≤ c && c ≤ 13)
  toUpper value := value.map fun c => if 97 ≤ c ∧ c ≤ 122 then c - 32 else c
  startsWith line value := value.isPrefixOf line
  isMatch pattern messageData :=
    .ok ((List.range (messageData.length + 1)).any fun start => pattern.isPrefixOf (messageData.drop start))

def prodatSettings : ImportSettings where
  tradeHandlesInnmating := false
  tradeAvregnToEdkin := false
  tradeTimerToEdkin := false
  tradeDelforToEdkin := false
  tradeStatnettAddress := none
  tradeSvkAddress := none
  tradeEdiimpProductCodes := some []
  tradeEdkinProductCodes := some []
  ancitraMessageTypes := some [text "Z18"]
  ancitraMessageTypeUseRe := false

def utilts (messageData : String) : ImportMessage where
  protocol := some (text "UTILTS")
  senderName := none
  subAddress := none
  productCode := none
  country := none
  getMessageData := .ok (some (text messageData))

theorem routes_marked : Routes ordinal prodatSettings (utilts "PD00 1\nPD01 Z18") :=
  (routes_iff ordinal prodatSettings (utilts "PD00 1\nPD01 Z18") rfl).mpr
    ⟨fun _ _ => show 8 ≤ (text "PD01 Z18").length by decide, fun edi => absurd edi (by decide)⟩

/-- A marked line that is too short stops the service, and a type behind an empty line is not found. -/
theorem routes_short :
    ¬Routes ordinal prodatSettings (utilts "PD01 Z1") ∧ ¬Routes ordinal prodatSettings (utilts "PD00\n\nPD01 Z18") := by
  constructor
  · intro routes
    rcases routes.total (.other "ArgumentOutOfRangeException") (by rfl) with isClaim | ⟨id, isMetadata⟩
    · cases isClaim
    · cases isMetadata
  · intro routes
    have queued := (routes.queue (by decide) _ rfl).mpr ⟨text "PD01 Z18", by decide, by decide⟩
    have imported : getApplicationType ordinal prodatSettings (utilts "PD00\n\nPD01 Z18") = .ok .utsImp := by rfl
    cases imported.symm.trans queued

end RunnerResolver

end ServiceHost.DataExchange
