import ServiceHost.Library.Utf16

/-!
The messages of the ECP modules: `MessageBuilder.CreateMessage` and
`MessageReaderExtensions.DecodeBodyAsString`. A text is a list of 16 bit units. What the
decoder puts in place of bytes that are no character is a parameter.
-/

namespace ServiceHost.DataExchange.EcpMessage

open Library

abbrev Text := List UInt16

/-- The body of a message, where objects of other classes have only a name. -/
inductive Body
  | bytes (bytes : List UInt8)
  | text (text : Text)
  | other (typeName : String)
deriving DecidableEq

structure Message where
  body : Body
  messageId : String
  contentType : String
  applicationProperties : List (String × String)
deriving DecidableEq

section Encoding

abbrev DecoderFallback := List UInt8 → Text × Nat

def utf8 (text : List Char) : List UInt8 := text.flatMap String.utf8EncodeChar

/-- `Encoding.UTF8.GetBytes`. -/
def getBytes (content : Text) : List UInt8 := utf8 (Utf16.decode content)

/-- The units of the first bytes, at most as many sequences as the fuel says. -/
def decodeFrom (fallback : DecoderFallback) : Nat → List UInt8 → Text
  | 0, _ => []
  | _ + 1, [] => []
  | fuel + 1, bytes =>
      match bytes.toByteArray.utf8DecodeChar? 0 with
      | some c => Utf16.encodeChar c ++ decodeFrom fallback fuel (bytes.drop c.utf8Size)
      | none => (fallback bytes).1 ++ decodeFrom fallback fuel (bytes.drop (max 1 (fallback bytes).2))

/-- `Decoder.Convert` into an array of characters, and whether everything was converted. -/
def convert (fallback : DecoderFallback) (bytes : List UInt8) (charCount : Nat) : Text × Bool :=
  let units := decodeFrom fallback bytes.length bytes
  (units.take charCount ++ List.replicate (charCount - units.length) 0, units.length ≤ charCount)

end Encoding

/-- `CreateMessage` of a body. -/
def createMessageOfBytes (newGuid businessType : String) (body : List UInt8) : Message where
  body := .bytes body
  messageId := newGuid
  contentType := "application/octetstream"
  applicationProperties := [("messageType", businessType), ("businessType", businessType)]

def createMessage (newGuid businessType : String) (content : Text) : Message :=
  createMessageOfBytes newGuid businessType (getBytes content)

def decodeBodyAsString (fallback : DecoderFallback) (message : Message) (defaultValue : Option Text) :
    Except String Text :=
  match message.body with
  | .bytes body =>
      let (content, completed) := convert fallback body body.length
      if completed then .ok content
      else
        match defaultValue with
        | some value => .ok value
        | none => .error "Conversion error: Wrong encoding"
  | .text text => .ok text
  | .other typeName => .error ("Expected byte array, got " ++ typeName)

end ServiceHost.DataExchange.EcpMessage
