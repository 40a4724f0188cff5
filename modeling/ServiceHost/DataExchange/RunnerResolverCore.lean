import ServiceHost.DataExchange.ImportServiceCore
import ServiceHost.Library.Utf16

/-!
`ImportApplicationRunnerResolver`: which application imports a message. Texts are sequences
of 16 bit units. What depends on the culture of the process, and the regular expressions of
the settings, are those of the runtime; what reading the payload comes to is given.
-/

namespace ServiceHost.DataExchange

open Library

namespace RunnerResolver

abbrev Text := List UInt16

def text (characters : String) : Text := Utf16.encode characters.toList

structure Runtime where
  isWhiteSpace : UInt16 → Bool
  toUpper : Text → Text
  /-- `line.StartsWith(value)` compares as the culture does. -/
  startsWith : Text → Text → Bool
  /-- `new Regex(pattern).IsMatch(messageData)`. -/
  isMatch : Text → Text → Except SystemException Bool

structure ImportSettings where
  tradeHandlesInnmating : Bool
  tradeAvregnToEdkin : Bool
  tradeTimerToEdkin : Bool
  tradeDelforToEdkin : Bool
  tradeStatnettAddress : Option Text
  tradeSvkAddress : Option Text
  tradeEdiimpProductCodes : Option (List (Option Text))
  tradeEdkinProductCodes : Option (List (Option Text))
  ancitraMessageTypes : Option (List Text)
  ancitraMessageTypeUseRe : Bool

structure ImportMessage where
  protocol : Option Text
  senderName : Option Text
  subAddress : Option Text
  productCode : Option Text
  country : Option Text
  getMessageData : Except SystemException (Option Text)

inductive ImportApplicationType
  | edkIn
  | ediImp
  | utsImp
  | gs2imp
  | xmlElImp
  | prodatImp
  | nppoload
  | serviceBus2Tss
  | ancitraQueue
deriving DecidableEq, Repr

variable (runtime : Runtime) (settings : ImportSettings)

/-- `Trim` of a text. -/
def trim (value : Text) : Text :=
  (((value.dropWhile runtime.isWhiteSpace).reverse).dropWhile runtime.isWhiteSpace).reverse

def trimmedUpperCase (value : Option Text) : Text :=
  match value with
  | some value => if value.all runtime.isWhiteSpace then [] else runtime.toUpper (trim runtime value)
  | none => []

/-- `All` and `Any` throw on a list that is missing. -/
def productCodes (codes : Option (List (Option Text))) : Except SystemException (List (Option Text)) :=
  match codes with
  | some codes => pure codes
  | none => throw .argumentNull

/-- `condition && outcome`. -/
def andAlso (condition : Bool) (outcome : Except SystemException Bool) : Except SystemException Bool :=
  if condition then outcome else pure false

def useSpecialCaseForMsconsWhereEdkinIsUsed (message : ImportMessage) : Except SystemException Bool :=
  let tradeStatnettAddress := trimmedUpperCase runtime settings.tradeStatnettAddress
  let tradeSvkAddress := trimmedUpperCase runtime settings.tradeSvkAddress
  let senderName := trimmedUpperCase runtime message.senderName
  let subAddress := trimmedUpperCase runtime message.subAddress
  let productCode := trimmedUpperCase runtime message.productCode
  if settings.tradeHandlesInnmating ∧ subAddress = text "INNMATING" then pure true
  else do
    if ← andAlso (settings.tradeAvregnToEdkin ∧ tradeStatnettAddress.length > 0 ∧ tradeStatnettAddress = senderName ∧
        subAddress = text "AVREGNING")
        ((productCodes settings.tradeEdiimpProductCodes).map fun codes =>
          codes.all fun value => trimmedUpperCase runtime value ≠ productCode) then pure true
    else if ← andAlso (settings.tradeTimerToEdkin ∧ tradeStatnettAddress.length > 0 ∧
        tradeStatnettAddress = senderName ∧ subAddress = text "TIMER")
        ((productCodes settings.tradeEdiimpProductCodes).map fun codes =>
          codes.all fun value => trimmedUpperCase runtime value ≠ productCode) then pure true
    else
      andAlso (settings.tradeDelforToEdkin ∧ tradeSvkAddress.length > 0 ∧ tradeSvkAddress = senderName ∧
        subAddress = text "TRANS")
        ((productCodes settings.tradeEdkinProductCodes).map fun codes =>
          codes.any fun value => trimmedUpperCase runtime value = productCode)

/-- The lines of a `StringReader`, given what is read of the current one. A carriage return, a
line feed or both of them end a line. -/
def readLines : Text → Text → List Text
  | current, [] => if current = [] then [] else [current]
  | current, [c] => if c = 10 ∨ c = 13 then [current] else [current ++ [c]]
  | current, c :: d :: rest =>
      if c = 10 then current :: readLines [] (d :: rest)
      else if c = 13 then if d = 10 then current :: readLines [] rest else current :: readLines [] (d :: rest)
      else readLines (current ++ [c]) (d :: rest)

def lines (messageData : Text) : List Text := readLines [] messageData

def messageTypeOf (line : Text) : Except SystemException Text :=
  if line.length < 8 then throw (.other "ArgumentOutOfRangeException") else pure ((line.drop 5).take 3)

/-- The loop over the lines. It also ends at the first empty line. -/
def scanLines (ancitraMessageTypes : List Text) : List Text → Except SystemException Bool
  | [] => pure false
  | line :: rest =>
      if line = [] then pure false
      else if runtime.startsWith line (text "PD01 ") then do
        let messageType ← messageTypeOf line
        pure (ancitraMessageTypes.contains messageType)
      else scanLines ancitraMessageTypes rest

def matchesAny (messageData : Text) : List Text → Except SystemException Bool
  | [] => pure false
  | pattern :: rest => do
      if ← runtime.isMatch pattern messageData then pure true else matchesAny messageData rest

def isAncitraMessageType (messageData : Option Text) (ancitraMessageTypes : List Text) : Except SystemException Bool :=
  match messageData with
  | none => throw .argumentNull
  | some messageData =>
      if settings.ancitraMessageTypeUseRe then matchesAny runtime messageData ancitraMessageTypes
      else scanLines runtime ancitraMessageTypes (lines messageData)

/-- The part that the three groups of protocols share: a configured type goes to the queue. -/
def ancitraOr (otherwise : ImportApplicationType) (message : ImportMessage) :
    Except SystemException ImportApplicationType := do
  match settings.ancitraMessageTypes with
  | some (messageType :: messageTypes) =>
      if ← isAncitraMessageType runtime settings (← message.getMessageData) (messageType :: messageTypes) then
        pure .ancitraQueue
      else pure otherwise
  | _ => pure otherwise

def utiltsApplicationType (message : ImportMessage) : Except SystemException ImportApplicationType :=
  ancitraOr runtime settings
    (if trimmedUpperCase runtime message.country = text "NOR" then .edkIn else .utsImp) message

def xmlElApplicationType (message : ImportMessage) : Except SystemException ImportApplicationType :=
  ancitraOr runtime settings .xmlElImp message

def edkinApplicationType (message : ImportMessage) : Except SystemException ImportApplicationType :=
  ancitraOr runtime settings .edkIn message

def edkinProtocols : List Text :=
  [text "EDIELAPERAK", text "AVRKVI", text "PROKVI", text "APLKVI", text "REQOTE", text "REQOTEFREQ",
    text "REQOTESEC", text "ANMOMR", text "SLSRPT", text "PRIMLD", text "EDK", text "UTILTS.S08",
    text "JSON.NPAUCTIONS", text "JSON.NPAUCTION", text "JSON.NPCONTRACTS", text "JSON.NPCONTRACT",
    text "JSON.NP_CURVE_ORDER", text "JSON.NP_BLOCK_ORDER", text "JSON.NP.AUCTION_ORDERS",
    text "JSON.NP.AUCTION_PORTFOLIO_VOLUMES", text "JSON.NP.AUCTION_PRICES", text "JSON.NP_ERROR_MESSAGE"]

def ediProtocols : List Text := [text "DELFOR", text "PROGNO", text "MSCONS", text "AVREGN", text "EDI"]

def utiltsProtocols : List Text := [text "UTILTSAPERAK", text "UTILTSERR", text "UTILTS", text "UTS"]

def gs2Protocols : List Text := [text "GS2", text "PVE", text "LINKCOM"]

def xmlElProtocols : List Text :=
  [text "EBIX", text "ENTSOE", text "ERRP", text "PARTICIPANT_MASTER_DATA", text "XMLEL"]

def nppoProtocols : List Text := [text "NPSDV24X7", text "NPPO"]

def getApplicationType (message : ImportMessage) : Except SystemException ImportApplicationType :=
  let protocol := trimmedUpperCase runtime message.protocol
  if edkinProtocols.contains protocol then edkinApplicationType runtime settings message
  else if ediProtocols.contains protocol then
    (useSpecialCaseForMsconsWhereEdkinIsUsed runtime settings message).map fun special =>
      if special then .edkIn else .ediImp
  else if utiltsProtocols.contains protocol then utiltsApplicationType runtime settings message
  else if gs2Protocols.contains protocol then pure .gs2imp
  else if xmlElProtocols.contains protocol then xmlElApplicationType runtime settings message
  else if protocol = text "PRODAT" then pure .prodatImp
  else if nppoProtocols.contains protocol then pure .nppoload
  else if protocol = text "JSON.TS" then pure .serviceBus2Tss
  else throw (.invalidMetadata 0)

end RunnerResolver

end ServiceHost.DataExchange
