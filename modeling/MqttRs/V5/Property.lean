import MqttRs.Codec.FixedWidth
import MqttRs.Codec.Layout
import MqttRs.Codec.LengthPrefixed
import MqttRs.Codec.TopicFilter

namespace MqttRs.V5

inductive Property where
  | payloadFormatIndicator (value : UInt8)
  | messageExpiryInterval (value : UInt32)
  | contentType (text : String)
  | responseTopic (text : String)
  | correlationData (data : List UInt8)
  | subscriptionIdentifier (identifier : VariableByteInteger)
  | sessionExpiryInterval (value : UInt32)
  | assignedClientIdentifier (text : String)
  | serverKeepAlive (value : UInt16)
  | authenticationMethod (text : String)
  | authenticationData (data : List UInt8)
  | requestProblemInformation (value : UInt8)
  | willDelayInterval (value : UInt32)
  | requestResponseInformation (value : UInt8)
  | responseInformation (text : String)
  | serverReference (text : String)
  | reasonString (text : String)
  | receiveMaximum (value : UInt16)
  | topicAliasMaximum (value : UInt16)
  | topicAlias (value : UInt16)
  | maximumQos (value : UInt8)
  | retainAvailable (value : UInt8)
  | userProperty (key value : String)
  | maximumPacketSize (value : UInt32)
  | wildcardSubscriptionAvailable (value : UInt8)
  | subscriptionIdentifierAvailable (value : UInt8)
  | sharedSubscriptionAvailable (value : UInt8)
  deriving DecidableEq

def encodeUserProperty (key value : String) (buf : List UInt8) : Outcome EncodeError (List UInt8 × Nat) := do
  let needed ← Usize.add 2 (asBytes key).length
  let needed ← Usize.add needed 2
  let needed ← Usize.add needed (asBytes value).length
  if buf.length < needed then .error .bufferTooSmall
  else ((Utf8String.encoder key).followedBy (.slice (Utf8String.encoder value))).run buf

theorem encodeUserProperty_eq {key value : String} {buf : List UInt8}
    (room : ((Utf8String.encoder key).followedBy (.slice (Utf8String.encoder value))).size ≤ buf.length)
    (bound : ((Utf8String.encoder key).followedBy (.slice (Utf8String.encoder value))).size < 2 ^ 32) :
    encodeUserProperty key value buf =
      ((Utf8String.encoder key).followedBy (.slice (Utf8String.encoder value))).run buf := by
  simp only [SliceEncoder.size_followedBy, ByteWriter.size_slice, Utf8String.size_encoder] at room bound
  rw [encodeUserProperty, Usize.add_of_le (Usize.fits (by omega)), Outcome.ok_bind,
    Usize.add_of_le (Usize.fits (by omega)), Outcome.ok_bind, Usize.add_of_le (Usize.fits (by omega)), Outcome.ok_bind,
    if_neg (by omega)]

def userPropertyEncoder (key value : String) : SliceEncoder EncodeError :=
  { (Utf8String.encoder key).followedBy (.slice (Utf8String.encoder value)) with
    run := encodeUserProperty key value
    refines := fun room bound => (encodeUserProperty_eq room bound).trans (SliceEncoder.refines _ room bound) }

@[simp] theorem writes_userPropertyEncoder {key value : String} {written : List UInt8} :
    (userPropertyEncoder key value).Writes written ↔
      Utf8String.Encodable key ∧ Utf8String.Encodable value ∧
        written = Utf8String.bytes key ++ Utf8String.bytes value := by
  show ((Utf8String.encoder key).followedBy (.slice (Utf8String.encoder value))).Writes written ↔ _
  simp only [SliceEncoder.writes_followedBy, Utf8String.writes_encoder, ByteWriter.writes_slice]
  constructor
  · intro writes
    obtain ⟨_, _, ⟨keyEncodable, rfl⟩, ⟨valueEncodable, rfl⟩, same⟩ := writes
    exact ⟨keyEncodable, valueEncodable, same⟩
  · intro encoded
    obtain ⟨keyEncodable, valueEncodable, same⟩ := encoded
    exact ⟨_, _, ⟨keyEncodable, rfl⟩, ⟨valueEncodable, rfl⟩, same⟩

@[simp] theorem size_userPropertyEncoder (key value : String) :
    (userPropertyEncoder key value).size = 2 + (asBytes key).length + (2 + (asBytes value).length) := rfl

namespace Property

def identifier : Property → UInt8
  | payloadFormatIndicator _ => 0x01
  | messageExpiryInterval _ => 0x02
  | contentType _ => 0x03
  | responseTopic _ => 0x08
  | correlationData _ => 0x09
  | subscriptionIdentifier _ => 0x0B
  | sessionExpiryInterval _ => 0x11
  | assignedClientIdentifier _ => 0x12
  | serverKeepAlive _ => 0x13
  | authenticationMethod _ => 0x15
  | authenticationData _ => 0x16
  | requestProblemInformation _ => 0x17
  | willDelayInterval _ => 0x18
  | requestResponseInformation _ => 0x19
  | responseInformation _ => 0x1A
  | serverReference _ => 0x1C
  | reasonString _ => 0x1F
  | receiveMaximum _ => 0x21
  | topicAliasMaximum _ => 0x22
  | topicAlias _ => 0x23
  | maximumQos _ => 0x24
  | retainAvailable _ => 0x25
  | userProperty _ _ => 0x26
  | maximumPacketSize _ => 0x27
  | wildcardSubscriptionAvailable _ => 0x28
  | subscriptionIdentifierAvailable _ => 0x29
  | sharedSubscriptionAvailable _ => 0x2A

def valueLen : Property → Nat
  | payloadFormatIndicator _ | requestProblemInformation _ | requestResponseInformation _ | maximumQos _
  | retainAvailable _ | wildcardSubscriptionAvailable _ | subscriptionIdentifierAvailable _
  | sharedSubscriptionAvailable _ => 1
  | serverKeepAlive _ | receiveMaximum _ | topicAliasMaximum _ | topicAlias _ => 2
  | messageExpiryInterval _ | sessionExpiryInterval _ | willDelayInterval _ | maximumPacketSize _ => 4
  | contentType text | responseTopic text | assignedClientIdentifier text | authenticationMethod text
  | responseInformation text | serverReference text | reasonString text => Usize.saturatingAdd 2 (asBytes text).length
  | correlationData data | authenticationData data => Usize.saturatingAdd 2 data.length
  | subscriptionIdentifier identifier => identifier.encodedLen
  | userProperty key value =>
    Usize.saturatingAdd (Usize.saturatingAdd (Usize.saturatingAdd 2 (asBytes key).length) 2) (asBytes value).length

def encodedLen (property : Property) : Nat := Usize.saturatingAdd 1 property.valueLen

def validateValue : Property → Except EncodeError Unit
  | payloadFormatIndicator value | requestProblemInformation value | requestResponseInformation value
  | retainAvailable value | wildcardSubscriptionAvailable value | subscriptionIdentifierAvailable value
  | sharedSubscriptionAvailable value => refuseIf (1 < value) .invalidPropertyValue
  | maximumQos value => refuseIf (1 < value) .invalidPropertyValue
  | receiveMaximum value | topicAlias value => refuseIf (value == 0) .invalidPropertyValue
  | topicAliasMaximum _ => .ok ()
  | maximumPacketSize value => refuseIf (value == 0) .invalidPropertyValue
  | subscriptionIdentifier identifier => refuseIf (identifier.value == 0) .invalidPropertyValue
  | responseTopic topic => do
    refuseIf topic.isEmpty .emptyTopicName
    refuseIf (containsWildcard topic) .wildcardInTopicName
  | _ => .ok ()

/-- The identifier that `encode` writes and the encoder of the value behind it. -/
def encodeParts : Property → UInt8 × SliceEncoder EncodeError
  | payloadFormatIndicator value => (0x01, u8Encoder value)
  | messageExpiryInterval value => (0x02, u32Encoder value)
  | contentType text => (0x03, Utf8String.encoder text)
  | responseTopic text => (0x08, Utf8String.encoder text)
  | correlationData data => (0x09, BinaryData.encoder data)
  | subscriptionIdentifier identifier => (0x0B, identifier.encoder)
  | sessionExpiryInterval value => (0x11, u32Encoder value)
  | assignedClientIdentifier text => (0x12, Utf8String.encoder text)
  | serverKeepAlive value => (0x13, u16Encoder value)
  | authenticationMethod text => (0x15, Utf8String.encoder text)
  | authenticationData data => (0x16, BinaryData.encoder data)
  | requestProblemInformation value => (0x17, u8Encoder value)
  | willDelayInterval value => (0x18, u32Encoder value)
  | requestResponseInformation value => (0x19, u8Encoder value)
  | responseInformation text => (0x1A, Utf8String.encoder text)
  | serverReference text => (0x1C, Utf8String.encoder text)
  | reasonString text => (0x1F, Utf8String.encoder text)
  | receiveMaximum value => (0x21, u16Encoder value)
  | topicAliasMaximum value => (0x22, u16Encoder value)
  | topicAlias value => (0x23, u16Encoder value)
  | maximumQos value => (0x24, u8Encoder value)
  | retainAvailable value => (0x25, u8Encoder value)
  | userProperty key value => (0x26, userPropertyEncoder key value)
  | maximumPacketSize value => (0x27, u32Encoder value)
  | wildcardSubscriptionAvailable value => (0x28, u8Encoder value)
  | subscriptionIdentifierAvailable value => (0x29, u8Encoder value)
  | sharedSubscriptionAvailable value => (0x2A, u8Encoder value)

def encode (property : Property) (buf : List UInt8) : Outcome EncodeError (List UInt8 × Nat) := do
  let _ ← .ofExcept property.validateValue
  if buf.length < property.encodedLen then .error .bufferTooSmall
  else do
    let rest ← Slice.rangeFrom buf 1
    let (rest, written) ← property.encodeParts.2.run rest
    let buf ← Slice.set (buf.take 1 ++ rest) 0 property.encodeParts.1
    let total ← Usize.add 1 written
    .ok (buf, total)

def decodeAnyValue (identifier : UInt8) : SliceDecoder DecodeError Property :=
  match identifier with
  | 0x01 => payloadFormatIndicator <$> u8Decoder
  | 0x02 => messageExpiryInterval <$> u32Decoder
  | 0x03 => contentType <$> Utf8String.decoder
  | 0x08 => responseTopic <$> Utf8String.decoder
  | 0x09 => correlationData <$> BinaryData.decoder
  | 0x0B => subscriptionIdentifier <$> VariableByteInteger.decoder
  | 0x11 => sessionExpiryInterval <$> u32Decoder
  | 0x12 => assignedClientIdentifier <$> Utf8String.decoder
  | 0x13 => serverKeepAlive <$> u16Decoder
  | 0x15 => authenticationMethod <$> Utf8String.decoder
  | 0x16 => authenticationData <$> BinaryData.decoder
  | 0x17 => requestProblemInformation <$> u8Decoder
  | 0x18 => willDelayInterval <$> u32Decoder
  | 0x19 => requestResponseInformation <$> u8Decoder
  | 0x1A => responseInformation <$> Utf8String.decoder
  | 0x1C => serverReference <$> Utf8String.decoder
  | 0x1F => reasonString <$> Utf8String.decoder
  | 0x21 => receiveMaximum <$> u16Decoder
  | 0x22 => topicAliasMaximum <$> u16Decoder
  | 0x23 => topicAlias <$> u16Decoder
  | 0x24 => maximumQos <$> u8Decoder
  | 0x25 => retainAvailable <$> u8Decoder
  | 0x26 => do
    let key ← Utf8String.decoder
    let value ← Utf8String.decoder
    return userProperty key value
  | 0x27 => maximumPacketSize <$> u32Decoder
  | 0x28 => wildcardSubscriptionAvailable <$> u8Decoder
  | 0x29 => subscriptionIdentifierAvailable <$> u8Decoder
  | 0x2A => sharedSubscriptionAvailable <$> u8Decoder
  | _ => .fail .malformedPacket

def decodeValue (identifier : UInt8) : SliceDecoder DecodeError Property := do
  let property ← decodeAnyValue identifier
  if property.validateValue.isOk then return property else .fail .malformedPacket

def decoder : SliceDecoder DecodeError Property := do
  let identifier ← VariableByteInteger.decoder
  if 0x2A < identifier.value then .fail .malformedPacket else decodeValue (UInt8.ofNat identifier.value.toNat)

variable {bytes rest written : List UInt8} {property : Property}

theorem encodeParts_fst (property : Property) : property.encodeParts.1 = property.identifier := by
  cases property <;> rfl

theorem identifier_eq_sessionExpiryInterval :
    property.identifier = 0x11 ↔ ∃ interval, property = sessionExpiryInterval interval := by
  cases property <;> simp [identifier]

theorem identifier_eq_subscriptionIdentifier :
    property.identifier = 0x0B ↔ ∃ given, property = subscriptionIdentifier given := by
  cases property <;> simp [identifier]

theorem identifier_le (property : Property) : property.identifier.toNat ≤ 0x2A := by
  cases property <;> exact Nat.le_of_ble_eq_true rfl

/-- The announced length is the length, as far as a `usize` can hold it. -/
theorem encodedLen_eq (property : Property) : property.encodedLen = min (1 + property.encodeParts.2.size) Usize.max := by
  have inRange (n : Nat) (small : n ≤ 5) : min n Usize.max = n := by
    rw [Usize.max]
    omega
  cases property
  case subscriptionIdentifier identifier =>
    rfl
  all_goals
    simp only [encodedLen, valueLen, encodeParts, size_u8Encoder, size_u16Encoder, size_u32Encoder, Utf8String.size_encoder,
      BinaryData.size_encoder, size_userPropertyEncoder, Usize.saturatingAdd, Usize.max]
    try omega

/-- The bytes that `encode` writes: the identifier and the value, once the value is valid. -/
def encodedBytes (property : Property) : Except EncodeError (List UInt8) := do
  let _ ← property.validateValue
  let value ← property.encodeParts.2.bytes
  .ok (property.identifier :: value)

theorem length_encodedBytes {property : Property} {written : List UInt8}
    (writes : property.encodedBytes = .ok written) : written.length = 1 + property.encodeParts.2.size := by
  obtain ⟨_, _, writes⟩ := bind_eq_ok.mp writes
  obtain ⟨value, valueWrites, writes⟩ := bind_eq_ok.mp writes
  cases writes
  rw [List.length_cons, property.encodeParts.2.length_bytes valueWrites, Nat.add_comm]

theorem encode_eq_written {property : Property} {buf : List UInt8} (room : 1 + property.encodeParts.2.size ≤ buf.length)
    (bound : 1 + property.encodeParts.2.size < 2 ^ 32) :
    property.encode buf = Outcome.written buf 0 property.encodedBytes := by
  cases buf with
  | nil =>
    rw [List.length_nil] at room
    omega
  | cons first rest =>
    rw [List.length_cons] at room
    have notShort : ¬(first :: rest).length < property.encodedLen := by
      rw [encodedLen_eq, List.length_cons]
      omega
    rw [encode, encodedBytes]
    cases property.validateValue with
    | error reason => rfl
    | ok _ =>
      simp only [Outcome.ofExcept, Outcome.ok_bind, if_neg notShort, Slice.rangeFrom_one_cons]
      rw [property.encodeParts.2.refines (by omega) (by omega), encodeParts_fst]
      show _ = Outcome.written (first :: rest) 0 (do
        let value ← property.encodeParts.2.bytes
        .ok (property.identifier :: value))
      cases writes : property.encodeParts.2.bytes with
      | error reason => rfl
      | ok value =>
        have length := property.encodeParts.2.length_bytes writes
        have fits : 1 + (0 + value.length) ≤ Usize.max := by
          rw [Usize.max]
          omega
        simp only [Outcome.written, Outcome.ok_bind]
        rw [Slice.set_of_lt (by simp)]
        simp only [Outcome.ok_bind, Usize.add_of_le fits]
        show Outcome.ok _ = Outcome.ok _
        simp [Nat.add_comm]

def encoder (property : Property) : SliceEncoder EncodeError where
  run := property.encode
  bytes := property.encodedBytes
  size := 1 + property.encodeParts.2.size
  length_bytes := length_encodedBytes
  refines := encode_eq_written

theorem writes_encoder : property.encoder.Writes written ↔
    property.validateValue = .ok () ∧ ∃ value, property.encodeParts.2.Writes value ∧ written = property.identifier :: value := by
  show (do
    let _ ← property.validateValue
    let value ← property.encodeParts.2.bytes
    .ok (property.identifier :: value)) = Except.ok written ↔ _
  rw [bind_eq_ok]
  simp only [bind_eq_ok, Except.ok.injEq]
  constructor
  · intro writes
    obtain ⟨_, valid, value, valueWrites, rfl⟩ := writes
    exact ⟨valid, value, valueWrites, rfl⟩
  · intro writes
    obtain ⟨valid, value, valueWrites, rfl⟩ := writes
    exact ⟨(), valid, value, valueWrites, rfl⟩

theorem reads_decodeAnyValue {identifier : UInt8} :
    (decodeAnyValue identifier).Reads bytes property rest ↔
      property.identifier = identifier ∧ ∃ front, property.encodeParts.2.Writes front ∧ bytes = front ++ rest := by
  constructor
  · intro read
    rw [decodeAnyValue.eq_def] at read
    split at read
    case h_23 =>
      simp only [SliceDecoder.reads_bind, SliceDecoder.reads_pure, Utf8String.reads_decoder] at read
      obtain ⟨key, _, ⟨keyEncodable, rfl⟩, value, _, ⟨valueEncodable, rfl⟩, rfl, rfl⟩ := read
      simp [encodeParts, identifier, keyEncodable, valueEncodable]
    case h_28 => cases read
    all_goals
      obtain ⟨given, read, rfl⟩ := SliceDecoder.reads_map.mp read
      refine ⟨rfl, ?_⟩
      simpa [encodeParts, and_assoc] using read
  · intro written
    obtain ⟨rfl, front, writes, rfl⟩ := written
    cases property
    case userProperty key value => 
      simp only [encodeParts, writes_userPropertyEncoder] at writes
      obtain ⟨keyEncodable, valueEncodable, rfl⟩ := writes
      simp [decodeAnyValue, identifier, keyEncodable, valueEncodable]
    all_goals
      refine SliceDecoder.reads_map.mpr ⟨_, ?_, rfl⟩
      simp only [encodeParts, writes_u8Encoder, writes_u16Encoder, writes_u32Encoder, Utf8String.writes_encoder,
        BinaryData.writes_encoder, VariableByteInteger.writes_encoder] at writes
      simp [writes]

theorem reads_decodeValue {identifier : UInt8} :
    (decodeValue identifier).Reads bytes property rest ↔
      property.identifier = identifier ∧ property.validateValue = .ok () ∧
        ∃ front, property.encodeParts.2.Writes front ∧ bytes = front ++ rest := by
  simp only [decodeValue, SliceDecoder.reads_bind, SliceDecoder.reads_ite, SliceDecoder.reads_pure, SliceDecoder.reads_fail,
    reads_decodeAnyValue]
  constructor
  · intro read
    obtain ⟨given, middle, ⟨same, front, writes, rfl⟩, checked⟩ := read
    split at checked
    · rename_i valid
      obtain ⟨rfl, rfl⟩ := checked
      exact ⟨same, isOk_iff.mp valid, front, writes, rfl⟩
    · cases checked
  · intro written
    obtain ⟨same, valid, front, writes, rfl⟩ := written
    refine ⟨property, rest, ⟨same, front, writes, rfl⟩, ?_⟩
    rw [if_pos (isOk_iff.mpr valid)]
    exact ⟨rfl, rfl⟩

/-- Decoding takes exactly what encoding writes. -/
@[simp] theorem reads_decoder :
    decoder.Reads bytes property rest ↔ ∃ front, property.encoder.Writes front ∧ bytes = front ++ rest := by
  simp only [decoder, SliceDecoder.reads_bind, SliceDecoder.reads_ite, SliceDecoder.reads_fail,
    VariableByteInteger.reads_decoder, reads_decodeValue, writes_encoder]
  have oneByte {n : Nat} (small : n ≤ 0x2A) : VariableByteInteger.bytes n = [UInt8.ofNat n] :=
    VariableByteInteger.bytes_of_lt (by omega)
  constructor
  · intro read
    obtain ⟨given, middle, ⟨_, rfl⟩, read⟩ := read
    split at read
    · cases read
    · rename_i known
      obtain ⟨same, valid, value, writes, rfl⟩ := read
      have small : given.value.toNat ≤ 0x2A := Nat.le_of_not_lt known
      refine ⟨_, ⟨valid, value, writes, rfl⟩, ?_⟩
      rw [oneByte small, same]
      rfl
  · intro written
    obtain ⟨_, ⟨valid, value, writes, rfl⟩, rfl⟩ := written
    have small := identifier_le property
    have exactValue : (UInt32.ofNat property.identifier.toNat).toNat = property.identifier.toNat :=
      UInt32.toNat_ofNat_of_lt (show _ < 4294967296 by omega)
    refine ⟨⟨UInt32.ofNat property.identifier.toNat⟩, value ++ rest, ⟨?_, ?_⟩, ?_⟩
    · rw [exactValue, VariableByteInteger.max]
      omega
    · rw [exactValue, oneByte small, UInt8.ofNat_toNat]
      rfl
    · have known : ¬(0x2A : UInt32) < UInt32.ofNat property.identifier.toNat := by
        rw [UInt32.lt_iff_toNat_lt, exactValue]
        exact Nat.not_lt_of_le small
      rw [if_neg known, exactValue, UInt8.ofNat_toNat]
      exact ⟨rfl, valid, value, writes, rfl⟩

end Property

end MqttRs.V5
