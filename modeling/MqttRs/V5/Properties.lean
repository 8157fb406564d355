import MqttRs.Codec.Fields
import MqttRs.V5.Property

namespace MqttRs.V5

inductive PacketDirection where
  | clientToServer
  | serverToClient
  deriving DecidableEq

structure Properties where
  properties : List Property
  deriving DecidableEq

def writeProperty (property : Property) : ByteWriter EncodeError := .slice property.encoder

def readProperty : ByteReader DecodeError Property := .slice (Property.decoder.mapError malformedIfInsufficient)

theorem readProperty_inverts : readProperty.Inverts (fun _ => True) writeProperty := by
  intro bytes property rest
  simp [readProperty, writeProperty]

theorem readProperty_consumes : readProperty.Consumes := by
  apply readProperty_inverts.consumes
  intro property
  exact Nat.lt_of_lt_of_le Nat.zero_lt_one (Nat.le_add_right 1 _)

namespace Properties

def new : Properties := ⟨[]⟩

def hasIdentifier (properties : Properties) (identifier : UInt8) : Bool :=
  properties.properties.any (·.identifier == identifier)

def hasTopicAlias (properties : Properties) : Bool :=
  properties.properties.any fun
    | .topicAlias _ => true
    | _ => false

/-- Payload Format Indicator 1 says that the payload is UTF-8. -/
def saysUtf8 (properties : Properties) : Bool :=
  properties.properties.any fun
    | .payloadFormatIndicator 1 => true
    | _ => false

def propertyPayloadLen (properties : Properties) : Nat :=
  (properties.properties.map Property.encodedLen).foldl Usize.saturatingAdd 0

def encodedLen (properties : Properties) : Nat :=
  let propertiesLen := properties.propertyPayloadLen
  if VariableByteInteger.max < propertiesLen then Usize.max
  else Usize.saturatingAdd (VariableByteInteger.encodedLen ⟨UInt32.ofNat propertiesLen⟩) propertiesLen

def encode (properties : Properties) (buf : List UInt8) : Outcome EncodeError (List UInt8 × Nat) :=
  let propertiesLen := properties.propertyPayloadLen
  if VariableByteInteger.max < propertiesLen then .error (.packetTooLarge propertiesLen VariableByteInteger.max)
  else if buf.length < properties.encodedLen then .error .bufferTooSmall
  else
    ((VariableByteInteger.encoder ⟨UInt32.ofNat propertiesLen⟩).followedBy
      (.each writeProperty properties.properties)).run buf

/-- User properties may be repeated, and in a PUBLISH subscription identifiers too. -/
def isRepeatable (allowDuplicateSubscriptionId : Bool) (identifier : UInt8) : Bool :=
  identifier == 0x26 || (allowDuplicateSubscriptionId && identifier == 0x0B)

def validateDuplicatesFrom (allowDuplicateSubscriptionId : Bool) :
    List UInt8 → List Property → Except EncodeError Unit
  | _, [] => .ok ()
  | seenIdentifiers, property :: rest =>
    let identifier := property.identifier
    if isRepeatable allowDuplicateSubscriptionId identifier then
      validateDuplicatesFrom allowDuplicateSubscriptionId seenIdentifiers rest
    else if seenIdentifiers.contains identifier then .error (.invalidField .duplicatePropertyIdentifier)
    else validateDuplicatesFrom allowDuplicateSubscriptionId (identifier :: seenIdentifiers) rest

def validateDuplicateIdentifiers (properties : Properties) (allowDuplicateSubscriptionId : Bool) :
    Except EncodeError Unit :=
  validateDuplicatesFrom allowDuplicateSubscriptionId [] properties.properties

def decodeWithOptions (allowDuplicateSubscriptionId : Bool) (buf : List UInt8) :
    Outcome DecodeError (Properties × Nat) := do
  let (propertiesLen, vbiLen) ← (VariableByteInteger.decode buf).mapError malformedIfInsufficient
  let stop ← Usize.add vbiLen propertiesLen.value.toNat
  if buf.length < stop then .error .malformedPacket
  else do
    let (properties, offset) ← (ByteReader.untilEnd readProperty readProperty_consumes).run buf stop vbiLen
    let properties : Properties := ⟨properties⟩
    if (properties.validateDuplicateIdentifiers allowDuplicateSubscriptionId).isOk then .ok (properties, offset)
    else .error .malformedPacket

def decode (buf : List UInt8) : Outcome DecodeError (Properties × Nat) := decodeWithOptions false buf

variable {properties : Properties} {allow : Bool} {buf bytes rest written : List UInt8}

def writeBody (properties : Properties) : ByteWriter EncodeError := .each writeProperty properties.properties

/-- The announced length of the properties is their length, as far as a `usize` can hold it. -/
theorem propertyPayloadLen_eq (properties : Properties) :
    properties.propertyPayloadLen = min properties.writeBody.size Usize.max := by
  have summed (values : List Property) (start : Nat) :
      (values.map Property.encodedLen).foldl Usize.saturatingAdd (min start Usize.max) =
        min (start + (ByteWriter.each writeProperty values).size) Usize.max := by
    induction values generalizing start with
    | nil => rfl
    | cons value values ih =>
      have step : Usize.saturatingAdd (min start Usize.max) value.encodedLen =
          min (start + value.encoder.size) Usize.max := by
        rw [value.encodedLen_eq, Usize.saturatingAdd]
        show _ = min (start + (1 + value.encodeParts.2.size)) Usize.max
        omega
      have sizes : (ByteWriter.each writeProperty (value :: values)).size =
          value.encoder.size + (ByteWriter.each writeProperty values).size := rfl
      rw [List.map_cons, List.foldl_cons, step, ih, sizes, Nat.add_assoc]
  have total := summed properties.properties 0
  rw [Nat.zero_min, Nat.zero_add] at total
  exact total

theorem encodedLen_of_le (small : properties.writeBody.size ≤ VariableByteInteger.max) :
    properties.encodedLen =
      (VariableByteInteger.bytes properties.writeBody.size).length + properties.writeBody.size := by
  have exactLen : properties.propertyPayloadLen = properties.writeBody.size := by
    rw [propertyPayloadLen_eq, Usize.max]
    rw [VariableByteInteger.max] at small
    omega
  have vbiLen := VariableByteInteger.length_bytes_le properties.writeBody.size
  rw [encodedLen, exactLen, if_neg (Nat.not_lt_of_le small), (VariableByteInteger.encode_eq small (Nat.le_refl _)).2,
    Usize.saturatingAdd, Usize.max]
  rw [VariableByteInteger.max] at small
  omega

/-- The bytes that `encode` writes: the Property Length and the properties, when they are not too long for it. -/
def encodedBytes (properties : Properties) : Except EncodeError (List UInt8) :=
  if VariableByteInteger.max < properties.writeBody.size then
    .error (.packetTooLarge properties.writeBody.size VariableByteInteger.max)
  else do
    let content ← properties.writeBody.bytes
    .ok (VariableByteInteger.bytes properties.writeBody.size ++ content)

theorem length_encodedBytes {properties : Properties} {written : List UInt8}
    (writes : properties.encodedBytes = .ok written) :
    written.length = (VariableByteInteger.bytes properties.writeBody.size).length + properties.writeBody.size := by
  unfold encodedBytes at writes
  split at writes
  · cases writes
  · obtain ⟨content, contentWrites, writes⟩ := bind_eq_ok.mp writes
    cases writes
    rw [List.length_append, properties.writeBody.length_bytes contentWrites]

theorem encode_eq_written {properties : Properties} {buf : List UInt8}
    (room : (VariableByteInteger.bytes properties.writeBody.size).length + properties.writeBody.size ≤ buf.length)
    (bound : (VariableByteInteger.bytes properties.writeBody.size).length + properties.writeBody.size < 2 ^ 32) :
    properties.encode buf = Outcome.written buf 0 properties.encodedBytes := by
  have exactLen : properties.propertyPayloadLen = properties.writeBody.size := by
    rw [propertyPayloadLen_eq, Usize.max]
    omega
  rw [encode, encodedBytes, exactLen]
  split
  · rfl
  · rename_i notLarge
    have small := Nat.le_of_not_lt notLarge
    have vbiWrites : (VariableByteInteger.encoder ⟨UInt32.ofNat properties.writeBody.size⟩).Writes
        (VariableByteInteger.bytes properties.writeBody.size) := by
      rw [VariableByteInteger.writes_encoder, VariableByteInteger.toNat_ofNat small]
      exact ⟨small, rfl⟩
    have vbiSize := (VariableByteInteger.encoder ⟨UInt32.ofNat properties.writeBody.size⟩).length_bytes vbiWrites
    rw [if_neg (by rw [encodedLen_of_le small]; omega), SliceEncoder.refines]
    · show Outcome.written buf 0 (do
        let front ← (VariableByteInteger.encoder ⟨UInt32.ofNat properties.writeBody.size⟩).bytes
        let back ← properties.writeBody.bytes
        .ok (front ++ back)) = _
      rw [show (VariableByteInteger.encoder ⟨UInt32.ofNat properties.writeBody.size⟩).bytes = _ from vbiWrites]
      rfl
    · rw [SliceEncoder.size_followedBy, ← vbiSize]
      exact room
    · rw [SliceEncoder.size_followedBy, ← vbiSize]
      exact bound

def encoder (properties : Properties) : SliceEncoder EncodeError where
  run := properties.encode
  bytes := properties.encodedBytes
  size := (VariableByteInteger.bytes properties.writeBody.size).length + properties.writeBody.size
  length_bytes := length_encodedBytes
  refines := encode_eq_written

theorem encodedLen_announces (properties : Properties) : Announces properties.encodedLen properties.encoder.size := by
  by_cases small : properties.writeBody.size ≤ VariableByteInteger.max
  · exact .inl (encodedLen_of_le small)
  · have large : VariableByteInteger.max < properties.propertyPayloadLen := by
      rw [propertyPayloadLen_eq, Usize.max]
      rw [VariableByteInteger.max] at small ⊢
      omega
    refine .inr ⟨?_, ?_⟩
    · rw [encodedLen, if_pos large]
      decide
    · show _ < _ + properties.writeBody.size
      omega

theorem writes_encoder : properties.encoder.Writes written ↔
    ∃ content, properties.writeBody.Writes content ∧ content.length ≤ VariableByteInteger.max ∧
      written = VariableByteInteger.bytes content.length ++ content := by
  show (if VariableByteInteger.max < properties.writeBody.size then
      .error (.packetTooLarge properties.writeBody.size VariableByteInteger.max)
    else do
      let content ← properties.writeBody.bytes
      .ok (VariableByteInteger.bytes properties.writeBody.size ++ content)) = Except.ok written ↔ _
  constructor
  · intro writes
    split at writes
    · cases writes
    · rename_i notLarge
      obtain ⟨content, contentWrites, writes⟩ := bind_eq_ok.mp writes
      cases writes
      have length := properties.writeBody.length_bytes contentWrites
      exact ⟨content, contentWrites, by omega, by rw [length]⟩
  · intro writes
    obtain ⟨content, contentWrites, small, rfl⟩ := writes
    have length := properties.writeBody.length_bytes contentWrites
    rw [if_neg (by omega), show properties.writeBody.bytes = .ok content from contentWrites, length]
    rfl

def parseWithOptions (allow : Bool) (bytes : List UInt8) : Except DecodeError (Properties × List UInt8) :=
  match VariableByteInteger.parse bytes with
  | .error reason => .error (malformedIfInsufficient reason)
  | .ok (propertiesLen, after) =>
    if after.length < propertiesLen.value.toNat then .error .malformedPacket
    else
      match ByteReader.untilEndParse readProperty readProperty_consumes (after.take propertiesLen.value.toNat) with
      | .error reason => .error reason
      | .ok properties =>
        if (validateDuplicateIdentifiers ⟨properties⟩ allow).isOk then
          .ok (⟨properties⟩, after.drop propertiesLen.value.toNat)
        else .error .malformedPacket

theorem decodeWithOptions_eq (allow : Bool) (buf : List UInt8) :
    decodeWithOptions allow buf = .upTo buf.length (parseWithOptions allow buf) := by
  rw [decodeWithOptions, parseWithOptions, VariableByteInteger.decode_eq]
  cases read : VariableByteInteger.parse buf with
  | error reason => rfl
  | ok result =>
    obtain ⟨propertiesLen, after⟩ := result
    obtain ⟨small, rfl⟩ := VariableByteInteger.parse_eq_ok.mp read
    have vbiBound := VariableByteInteger.length_bytes_le propertiesLen.value.toNat
    rw [VariableByteInteger.max] at small
    have fits : (VariableByteInteger.bytes propertiesLen.value.toNat).length + propertiesLen.value.toNat ≤ Usize.max := by
      rw [Usize.max]
      omega
    simp only [Outcome.upTo, Outcome.mapError, Outcome.ok_bind, List.length_append, Nat.add_sub_cancel,
      Usize.add_of_le fits]
    by_cases short : after.length < propertiesLen.value.toNat
    · rw [if_pos (by omega), if_pos short]
    · have window : ((VariableByteInteger.bytes propertiesLen.value.toNat ++ after).take
          ((VariableByteInteger.bytes propertiesLen.value.toNat).length + propertiesLen.value.toNat)).drop
          (VariableByteInteger.bytes propertiesLen.value.toNat).length = after.take propertiesLen.value.toNat := by
        rw [List.take_length_add_append, List.drop_left]
      rw [if_neg (by omega), if_neg short, ByteReader.refines _ (Nat.le_add_right _ _) (by rw [List.length_append]; omega)
        (by omega), window]
      show (Outcome.upTo _ ((ByteReader.untilEndParse readProperty readProperty_consumes _).map (·, [])) >>= _) = _
      cases ByteReader.untilEndParse readProperty readProperty_consumes (after.take propertiesLen.value.toNat) with
      | error reason => rfl
      | ok properties =>
        have consumed : (VariableByteInteger.bytes propertiesLen.value.toNat).length + propertiesLen.value.toNat =
            (VariableByteInteger.bytes propertiesLen.value.toNat).length + after.length -
              (after.drop propertiesLen.value.toNat).length := by
          rw [List.length_drop]
          omega
        simp only [Except.map, Outcome.upTo, Outcome.ok_bind, List.length_nil, Nat.sub_zero]
        split
        · rw [consumed]
        · rfl

theorem parseWithOptions_eq_ok : parseWithOptions allow bytes = .ok (properties, rest) ↔
    properties.validateDuplicateIdentifiers allow = .ok () ∧
      ∃ front, properties.encoder.Writes front ∧ bytes = front ++ rest := by
  have readsAll {part : List UInt8} {values : List Property} :
      ByteReader.untilEndParse readProperty readProperty_consumes part = .ok values ↔
        (ByteWriter.each writeProperty values).Writes part := by
    rw [ByteReader.readsAll_iff, readProperty_inverts.readsAll_iff]
    simp only [implies_true, true_and]
  simp only [writes_encoder, parseWithOptions]
  constructor
  · intro parsed
    split at parsed
    · cases parsed
    · rename_i propertiesLen after read
      obtain ⟨small, rfl⟩ := VariableByteInteger.parse_eq_ok.mp read
      split at parsed
      · cases parsed
      · rename_i enough
        have length := List.length_take_of_le (Nat.le_of_not_lt enough)
        split at parsed
        · cases parsed
        · rename_i values readValues
          split at parsed
          · rename_i distinct
            cases parsed
            refine ⟨isOk_iff.mp distinct, _, ⟨_, readsAll.mp readValues, ?_, rfl⟩, ?_⟩
            · rw [length]
              exact small
            · rw [length, List.append_assoc, List.take_append_drop]
          · cases parsed
  · intro written
    obtain ⟨distinct, _, ⟨content, contentWrites, small, rfl⟩, rfl⟩ := written
    rw [List.append_assoc, VariableByteInteger.parse_bytes small]
    simp only [VariableByteInteger.toNat_ofNat small]
    rw [if_neg (by rw [List.length_append]; omega), List.take_left, List.drop_left, readsAll.mpr contentWrites]
    exact if_pos (isOk_iff.mpr distinct)

def decoder (allow : Bool) : SliceDecoder DecodeError Properties where
  run := decodeWithOptions allow
  parse := parseWithOptions allow
  suffix read := by
    obtain ⟨_, front, _, rfl⟩ := parseWithOptions_eq_ok.mp read
    exact List.suffix_append front _
  refines _ := decodeWithOptions_eq allow _

@[simp] theorem reads_decoder : (decoder allow).Reads bytes properties rest ↔
    properties.validateDuplicateIdentifiers allow = .ok () ∧
      ∃ front, properties.encoder.Writes front ∧ bytes = front ++ rest := parseWithOptions_eq_ok

def validateAgainst (allowed : List UInt8) (properties : Properties) : Except DecodeError Unit :=
  if properties.properties.all fun property => allowed.contains property.identifier then .ok ()
  else .error .malformedPacket

def allowedInConnect : List UInt8 := [0x11, 0x21, 0x27, 0x22, 0x19, 0x17, 0x26, 0x15, 0x16]

def validateForConnect (properties : Properties) : Except DecodeError Unit := do
  validateAgainst allowedInConnect properties
  if properties.hasIdentifier 0x16 && !properties.hasIdentifier 0x15 then .error .malformedPacket else .ok ()

def allowedInConnack : List UInt8 :=
  [0x11, 0x21, 0x24, 0x25, 0x27, 0x12, 0x22, 0x1F, 0x26, 0x28, 0x29, 0x2A, 0x13, 0x1A, 0x1C, 0x15, 0x16]

def validateForConnack (properties : Properties) : Except DecodeError Unit := validateAgainst allowedInConnack properties

def allowedInPublish : List UInt8 := [0x01, 0x02, 0x03, 0x08, 0x09, 0x0B, 0x23, 0x26]

def validateForPublish (properties : Properties) : Except DecodeError Unit := validateAgainst allowedInPublish properties

def validateForPublishWithDirection (direction : PacketDirection) (properties : Properties) : Except DecodeError Unit := do
  validateForPublish properties
  if direction = .clientToServer && properties.hasIdentifier 0x0B then .error .malformedPacket else .ok ()

/-- What PUBACK, PUBREC, PUBREL, PUBCOMP, SUBACK and UNSUBACK may carry. -/
def allowedInAck : List UInt8 := [0x1F, 0x26]

def validateForPuback (properties : Properties) : Except DecodeError Unit := validateAgainst allowedInAck properties

def validateForPubrec (properties : Properties) : Except DecodeError Unit := validateAgainst allowedInAck properties

def validateForPubrel (properties : Properties) : Except DecodeError Unit := validateAgainst allowedInAck properties

def validateForPubcomp (properties : Properties) : Except DecodeError Unit := validateAgainst allowedInAck properties

def allowedInSubscribe : List UInt8 := [0x0B, 0x26]

def validateForSubscribe (properties : Properties) : Except DecodeError Unit := validateAgainst allowedInSubscribe properties

def validateForSuback (properties : Properties) : Except DecodeError Unit := validateAgainst allowedInAck properties

def allowedInUnsubscribe : List UInt8 := [0x26]

def validateForUnsubscribe (properties : Properties) : Except DecodeError Unit :=
  validateAgainst allowedInUnsubscribe properties

def validateForUnsuback (properties : Properties) : Except DecodeError Unit := validateAgainst allowedInAck properties

def allowedInDisconnect : List UInt8 := [0x11, 0x1C, 0x1F, 0x26]

def validateForDisconnect (properties : Properties) : Except DecodeError Unit := validateAgainst allowedInDisconnect properties

def validateForDisconnectWithDirection (direction : PacketDirection) (properties : Properties) :
    Except DecodeError Unit := do
  validateForDisconnect properties
  if direction = .serverToClient && properties.hasIdentifier 0x11 then .error .malformedPacket else .ok ()

def allowedInAuth : List UInt8 := [0x15, 0x16, 0x1F, 0x26]

def validateForAuth (properties : Properties) : Except DecodeError Unit := do
  validateAgainst allowedInAuth properties
  if !properties.hasIdentifier 0x15 then .error .malformedPacket else .ok ()

def allowedInWill : List UInt8 := [0x18, 0x01, 0x02, 0x03, 0x08, 0x09, 0x26]

def validateForWill (properties : Properties) : Except DecodeError Unit := validateAgainst allowedInWill properties

theorem hasIdentifier_iff {identifier : UInt8} :
    properties.hasIdentifier identifier = true ↔ ∃ property ∈ properties.properties, property.identifier = identifier := by
  simp [hasIdentifier]

theorem malformedAfter_eq_ok {checks : Except DecodeError Unit} {condition : Bool} {done : Unit} :
    (do
      checks
      if condition then .error .malformedPacket else .ok ()) = Except.ok done ↔ checks = .ok () ∧ condition = false := by
  rw [bind_eq_ok]
  cases condition with
  | false => exact ⟨fun ⟨_, passed, _⟩ => ⟨passed, rfl⟩, fun ⟨passed, _⟩ => ⟨(), passed, rfl⟩⟩
  | true => simp

@[simp] theorem validateForPublishWithDirection_eq_ok {direction : PacketDirection} {done : Unit} :
    properties.validateForPublishWithDirection direction = .ok done ↔
      properties.validateForPublish = .ok () ∧ (direction = .clientToServer && properties.hasIdentifier 0x0B) = false :=
  malformedAfter_eq_ok

@[simp] theorem validateForDisconnectWithDirection_eq_ok {direction : PacketDirection} {done : Unit} :
    properties.validateForDisconnectWithDirection direction = .ok done ↔
      properties.validateForDisconnect = .ok () ∧ (direction = .serverToClient && properties.hasIdentifier 0x11) = false :=
  malformedAfter_eq_ok

theorem validateForAuth_eq_ok {done : Unit} : properties.validateForAuth = .ok done ↔
    properties.validateAgainst allowedInAuth = .ok () ∧ (!properties.hasIdentifier 0x15) = false := malformedAfter_eq_ok

@[simp] theorem validateAgainst_eq_ok {allowed : List UInt8} {done : Unit} :
    validateAgainst allowed properties = .ok done ↔ ∀ property ∈ properties.properties, property.identifier ∈ allowed := by
  rw [validateAgainst]
  split
  · rename_i all
    simpa using all
  · rename_i notAll
    simpa using notAll

/-- An identifier that may not be repeated stands for one property at most. -/
theorem validateDuplicatesFrom_eq_ok {seen : List UInt8} {values : List Property} {done : Unit} :
    validateDuplicatesFrom allow seen values = .ok done ↔
      ((values.map Property.identifier).filter (!isRepeatable allow ·)).Nodup ∧
        ∀ identifier ∈ (values.map Property.identifier).filter (!isRepeatable allow ·), identifier ∉ seen := by
  induction values generalizing seen with
  | nil => simp [validateDuplicatesFrom]
  | cons value values ih =>
    rw [validateDuplicatesFrom, List.map_cons]
    split
    · rename_i repeatable
      rw [List.filter_cons_of_neg (by simp [repeatable]), ih]
    · rename_i single
      rw [List.filter_cons_of_pos (by simp [single]), List.nodup_cons, List.forall_mem_cons]
      split
      · rename_i repeated
        simp [List.contains_iff_mem.mp repeated]
      · rename_i fresh
        have notSeen : value.identifier ∉ seen := fun member => fresh (List.contains_iff_mem.mpr member)
        rw [ih]
        constructor
        · intro both
          obtain ⟨distinct, unseen⟩ := both
          refine ⟨⟨fun member => unseen _ member List.mem_cons_self, distinct⟩, notSeen, ?_⟩
          intro identifier member seenBefore
          exact unseen identifier member (List.mem_cons_of_mem _ seenBefore)
        · intro both
          obtain ⟨⟨absent, distinct⟩, _, unseen⟩ := both
          refine ⟨distinct, ?_⟩
          intro identifier member seenNow
          rcases List.mem_cons.mp seenNow with rfl | seenBefore
          · exact absent member
          · exact unseen identifier member seenBefore

theorem validateDuplicateIdentifiers_eq_ok {done : Unit} : properties.validateDuplicateIdentifiers allow = .ok done ↔
    ((properties.properties.map Property.identifier).filter (!isRepeatable allow ·)).Nodup := by
  rw [validateDuplicateIdentifiers, validateDuplicatesFrom_eq_ok]
  simp

end Properties

/-- The checks of the properties in every `validate`. -/
def validateProperties (allowed : Properties → Except DecodeError Unit) (allowDuplicateSubscriptionId : Bool)
    (properties : Properties) : Except EncodeError Unit := do
  refuseIf (!(allowed properties).isOk) .propertyValidationFailed
  refuseIf (!(properties.validateDuplicateIdentifiers allowDuplicateSubscriptionId).isOk) .duplicatePropertyIdentifier

/-- The check of a payload against the properties next to it. -/
def validatePayload (properties : Properties) (payload : List UInt8) : Except EncodeError Unit :=
  refuseIf (properties.saysUtf8 && (fromUtf8 payload).isNone) .invalidPayloadUtf8

/-- The payload is said to be UTF-8 and is not. -/
def Mislabelled (properties : Properties) (payload : List UInt8) : Prop :=
  .payloadFormatIndicator 1 ∈ properties.properties ∧ ∀ text, payload ≠ asBytes text

def readProperties (allowDuplicateSubscriptionId : Bool) : ByteReader DecodeError Properties :=
  .slice (Properties.decoder allowDuplicateSubscriptionId)

def writeProperties (properties : Properties) : ByteWriter EncodeError := .slice properties.encoder

variable {allowed : Properties → Except DecodeError Unit} {allow : Bool} {properties : Properties} {done : Unit}
  {bytes rest written : List UInt8}

@[simp] theorem validateProperties_eq_ok : validateProperties allowed allow properties = .ok done ↔
    allowed properties = .ok () ∧ properties.validateDuplicateIdentifiers allow = .ok () := by
  simp [validateProperties, bind_eq_ok]

theorem Properties.saysUtf8_iff : properties.saysUtf8 = true ↔ .payloadFormatIndicator 1 ∈ properties.properties := by
  rw [saysUtf8, List.any_eq_true]
  constructor
  · intro given
    obtain ⟨property, member, holds⟩ := given
    split at holds
    · exact member
    · cases holds
  · intro member
    exact ⟨_, member, rfl⟩

@[simp] theorem validatePayload_eq_ok {payload : List UInt8} :
    validatePayload properties payload = .ok done ↔ ¬Mislabelled properties payload := by
  have notUtf8 : (fromUtf8 payload).isNone = true ↔ ∀ text, payload ≠ asBytes text := by
    simp only [Option.isNone_iff_eq_none, Option.eq_none_iff_forall_ne_some, ne_eq, fromUtf8_eq_some]
  rw [validatePayload, refuseIf_eq_ok, Mislabelled, ← Properties.saysUtf8_iff, ← notUtf8, ← Bool.and_eq_true, Bool.not_eq_true]

@[simp] theorem reads_readProperties : (readProperties allow).Reads bytes properties rest ↔
    properties.validateDuplicateIdentifiers allow = .ok () ∧
      ∃ front, (writeProperties properties).Writes front ∧ bytes = front ++ rest := Properties.reads_decoder

theorem Properties.writes_ne_nil (writes : (writeProperties properties).Writes written) : written ≠ [] := by
  obtain ⟨content, _, _, rfl⟩ := Properties.writes_encoder.mp writes
  exact List.append_ne_nil_of_left_ne_nil (Base128.digits_ne_nil 3 _) _

@[simp] theorem size_writeProperties : (writeProperties properties).size = properties.encoder.size := rfl

end MqttRs.V5
