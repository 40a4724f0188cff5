import ServiceHost.DataExchange.EcpMessageCore

/-!
What a text becomes on the wire. The reader has one unit for each byte of the body, and
those that the characters leave over stay behind the text as zeros.
-/

namespace ServiceHost.DataExchange.EcpMessage

open Library

section Encoding

theorem utf8_cons (c : Char) (text : List Char) : utf8 (c :: text) = String.utf8EncodeChar c ++ utf8 text :=
  List.flatMap_cons

theorem utf8_append (first second : List Char) : utf8 (first ++ second) = utf8 first ++ utf8 second :=
  List.flatMap_append

theorem utf8_zeros (count : Nat) : utf8 (List.replicate count (Char.ofNat 0)) = List.replicate count 0 := by
  induction count with
  | zero => rfl
  | succ count ih =>
      rw [List.replicate_succ, List.replicate_succ, utf8_cons, ih]
      rfl

theorem encode_zeros (count : Nat) :
    Utf16.encode (List.replicate count (Char.ofNat 0)) = List.replicate count 0 := by
  induction count with
  | zero => rfl
  | succ count ih =>
      rw [List.replicate_succ, List.replicate_succ, ← ih]
      rfl

theorem getBytes_encode (text : List Char) : getBytes (Utf16.encode text) = utf8 text := by
  have decoded := Utf16.decode_encode text []
  simp only [List.append_nil] at decoded
  rw [getBytes, decoded]
  simp [Utf16.decode]

theorem units_bytes (c : Char) :
    (Utf16.encodeChar c).length ≤ (String.utf8EncodeChar c).length ∧
      ((Utf16.encodeChar c).length = (String.utf8EncodeChar c).length ↔ c.toNat < 128) := by
  rw [Utf16.encodeChar_length]
  unfold String.utf8EncodeChar
  simp only [show c.val.toNat = c.toNat from rfl]
  by_cases one : c.toNat ≤ 0x7f
  · simp only [one, ↓reduceIte, List.length_singleton]
    split
    · omega
    · omega
  · by_cases two : c.toNat ≤ 0x7ff
    · simp only [one, two, ↓reduceIte, List.length_cons, List.length_nil]
      split
      · omega
      · omega
    · by_cases three : c.toNat ≤ 0xffff
      · simp only [one, two, three, ↓reduceIte, List.length_cons, List.length_nil]
        split
        · omega
        · omega
      · simp only [one, two, three, ↓reduceIte, List.length_cons, List.length_nil]
        split
        · omega
        · omega

theorem units_le_bytes (text : List Char) : (Utf16.encode text).length ≤ (utf8 text).length := by
  induction text with
  | nil => exact Nat.le_refl 0
  | cons c text ih =>
      have first := (units_bytes c).1
      rw [utf8_cons, Utf16.encode, List.flatMap_cons, List.length_append, List.length_append]
      rw [Utf16.encode] at ih
      omega

theorem units_eq_bytes_iff (text : List Char) :
    (Utf16.encode text).length = (utf8 text).length ↔ ∀ c ∈ text, c.toNat < 128 := by
  induction text with
  | nil => simp [Utf16.encode, utf8]
  | cons c text ih =>
      have first := units_bytes c
      have rest := units_le_bytes text
      rw [List.forall_mem_cons, ← ih, ← first.2, utf8_cons, Utf16.encode, List.flatMap_cons, List.length_append,
        List.length_append]
      rw [Utf16.encode] at rest ⊢
      omega

theorem first_byte_lt_iff (c : Char) :
    (∀ byte ∈ String.utf8EncodeChar c, byte.toNat < 128) ↔ c.toNat < 128 := by
  have bound : c.toNat < 0x110000 := by
    have valid := c.valid
    simp only [UInt32.isValidChar, Nat.isValidChar] at valid
    show c.val.toNat < _
    omega
  unfold String.utf8EncodeChar
  simp only [show c.val.toNat = c.toNat from rfl]
  by_cases one : c.toNat ≤ 0x7f
  · simp only [one, ↓reduceIte, List.mem_singleton, forall_eq, UInt8.toNat_ofNat']
    omega
  · by_cases two : c.toNat ≤ 0x7ff
    · simp only [one, two, ↓reduceIte, List.forall_mem_cons, UInt8.toNat_ofNat']
      omega
    · by_cases three : c.toNat ≤ 0xffff
      · simp only [one, two, three, ↓reduceIte, List.forall_mem_cons, UInt8.toNat_ofNat']
        omega
      · simp only [one, two, three, ↓reduceIte, List.forall_mem_cons, UInt8.toNat_ofNat']
        omega

theorem bytes_lt_iff (text : List Char) : (∀ byte ∈ utf8 text, byte.toNat < 128) ↔ ∀ c ∈ text, c.toNat < 128 := by
  induction text with
  | nil => simp [utf8]
  | cons c text ih =>
      rw [List.forall_mem_cons, utf8_cons, List.forall_mem_append, ih]
      exact and_congr_left fun _ => first_byte_lt_iff c

theorem decodeFrom_utf8 (fallback : DecoderFallback) (text : List Char) : ∀ fuel,
    (utf8 text).length ≤ fuel → decodeFrom fallback fuel (utf8 text) = Utf16.encode text := by
  induction text with
  | nil =>
      intro fuel _
      cases fuel <;> rfl
  | cons c text ih =>
      intro fuel enough
      have size : (String.utf8EncodeChar c).length = c.utf8Size := String.length_utf8EncodeChar c
      have positive := Char.utf8Size_pos c
      rw [utf8_cons, List.length_append] at enough
      have first : (utf8 (c :: text)).toByteArray.utf8DecodeChar? 0 = some c := by
        rw [utf8_cons, List.toByteArray_append, ByteArray.utf8DecodeChar?_utf8EncodeChar_append]
      have rest : (utf8 (c :: text)).drop c.utf8Size = utf8 text := by
        rw [utf8_cons, ← size, List.drop_left]
      cases fuel with
      | zero => omega
      | succ fuel =>
          cases bytes : utf8 (c :: text) with
          | nil =>
              rw [utf8_cons] at bytes
              have empty := congrArg List.length bytes
              rw [List.length_append] at empty
              simp only [List.length_nil] at empty
              omega
          | cons byte bytes' =>
              rw [bytes] at first rest
              simp only [decodeFrom, first, rest]
              rw [ih fuel (by omega)]
              rfl

end Encoding

section RoundTrip

variable (fallback : DecoderFallback) (newGuid businessType : String)

theorem decodeBodyAsString_utf8 {message : Message} {text : List Char} (body : message.body = .bytes (utf8 text))
    (defaultValue : Option Text) :
    decodeBodyAsString fallback message defaultValue =
      .ok (Utf16.encode (text ++ List.replicate ((utf8 text).length - (Utf16.encode text).length) (Char.ofNat 0))) := by
  have fits := units_le_bytes text
  have units := decodeFrom_utf8 fallback text (utf8 text).length (Nat.le_refl _)
  rw [Utf16.encode_append, encode_zeros]
  simp only [decodeBodyAsString, body, convert, units, fits, decide_true, ↓reduceIte, List.take_of_length_le]

theorem decodeBodyAsString_createMessage_iff (text : List Char) (defaultValue : Option Text) :
    decodeBodyAsString fallback (createMessage newGuid businessType (Utf16.encode text)) defaultValue =
        .ok (Utf16.encode text) ↔
      ∀ c ∈ text, c.toNat < 128 := by
  have body : (createMessage newGuid businessType (Utf16.encode text)).body = .bytes (utf8 text) := by
    rw [← getBytes_encode]
    rfl
  have fits := units_le_bytes text
  rw [decodeBodyAsString_utf8 fallback body, ← units_eq_bytes_iff, Except.ok.injEq]
  constructor
  · intro same
    have lengths := congrArg List.length (Utf16.encode_injective same)
    rw [List.length_append, List.length_replicate] at lengths
    omega
  · intro same
    rw [same, Nat.sub_self, List.replicate_zero, List.append_nil]

theorem createMessage_decodeBodyAsString_iff {message : Message} {bytes : List UInt8}
    (body : message.body = .bytes bytes) (valid : bytes.toByteArray.IsValidUTF8) (defaultValue : Option Text) :
    (decodeBodyAsString fallback message defaultValue).map (fun text => (createMessage newGuid businessType text).body) =
        .ok (.bytes bytes) ↔
      ∀ byte ∈ bytes, byte.toNat < 128 := by
  obtain ⟨text, encoded⟩ := valid
  have isUtf8 : bytes = utf8 text := by
    have data := congrArg (fun array => array.data.toList) encoded
    simp only [List.utf8Encode, List.toList_data_toByteArray] at data
    exact data
  subst isUtf8
  have fits := units_le_bytes text
  rw [decodeBodyAsString_utf8 fallback body, bytes_lt_iff, ← units_eq_bytes_iff]
  simp only [Except.map, createMessage, createMessageOfBytes, getBytes_encode, utf8_append, utf8_zeros, Except.ok.injEq,
    Body.bytes.injEq]
  constructor
  · intro same
    have lengths := congrArg List.length same
    rw [List.length_append, List.length_replicate] at lengths
    omega
  · intro same
    rw [same, Nat.sub_self, List.replicate_zero, List.append_nil]

/-- A text and a body survive the other end of the wire exactly when they are ASCII. -/
theorem message_roundTrip_iff (text : List Char) (defaultValue : Option Text) :
    (decodeBodyAsString fallback (createMessage newGuid businessType (Utf16.encode text)) defaultValue =
        .ok (Utf16.encode text) ↔ ∀ c ∈ text, c.toNat < 128) ∧
      ∀ (message : Message) (bytes : List UInt8), message.body = .bytes bytes → bytes.toByteArray.IsValidUTF8 →
        ((decodeBodyAsString fallback message defaultValue).map
            (fun text => (createMessage newGuid businessType text).body) = .ok (.bytes bytes) ↔
          ∀ byte ∈ bytes, byte.toNat < 128) := by
  refine ⟨decodeBodyAsString_createMessage_iff fallback newGuid businessType text defaultValue, ?_⟩
  intro message bytes body valid
  exact createMessage_decodeBodyAsString_iff fallback newGuid businessType body valid defaultValue

theorem message_roundTrip_letter :
    let message : Message := ⟨.bytes [104], "guid", "application/octetstream", []⟩
    (decodeBodyAsString (fun _ => ([], 1)) message none).map
        (fun text => (createMessage "guid" "B1" text).body) = .ok (.bytes [104]) ↔
      ∀ byte ∈ ([104] : List UInt8), byte.toNat < 128 :=
  (message_roundTrip_iff (fun _ => ([], 1)) "guid" "B1" [] none).2 _ [104] rfl ⟨['h'], rfl⟩

/-- The two bytes of the letter are read as two characters. -/
theorem decodeBodyAsString_letter : ¬ ∀ fallback newGuid businessType text,
    decodeBodyAsString fallback (createMessage newGuid businessType (Utf16.encode text)) none =
      .ok (Utf16.encode text) := by
  intro survives
  have read := survives (fun _ => ([], 1)) "guid" "B1" ['ø']
  have body : (createMessage "guid" "B1" (Utf16.encode ['ø'])).body = .bytes (utf8 ['ø']) := by decide
  rw [decodeBodyAsString_utf8 _ body, Except.ok.injEq] at read
  revert read
  decide

end RoundTrip

end ServiceHost.DataExchange.EcpMessage
