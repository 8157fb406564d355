import MqttRs.Codec.Exactness
import MqttRs.V311.Packet
import MqttRs.V5.Packet

/-! What the encoders of all packet types write. -/

namespace MqttRs

namespace V5

section Properties

variable {properties : Properties} {property : Property}

theorem Property.validateValue_fits (property : Property) : property.validateValue ≠ .error .bufferTooSmall := by
  cases property <;> simp [validateValue, bind_eq_error]

theorem prefixed_fits (data : List UInt8) : (prefixedEncoder data).bytes ≠ .error .bufferTooSmall := refuses_writeBinary

theorem text_fits (text : String) : (Utf8String.encoder text).bytes ≠ .error .bufferTooSmall := refuses_writeString

theorem Property.encodeParts_fits (property : Property) : property.encodeParts.2.bytes ≠ .error .bufferTooSmall := by
  cases property
  case subscriptionIdentifier identifier =>
    show (if _ then _ else _) ≠ _
    split <;> rintro ⟨⟩
  case userProperty key value =>
    show ¬(writeString key ++ writeString value).Refuses .bufferTooSmall
    simp
  case correlationData data | authenticationData data => exact prefixed_fits data
  case contentType text | responseTopic text | assignedClientIdentifier text | authenticationMethod text |
      responseInformation text | serverReference text | reasonString text => exact text_fits text
  all_goals rintro ⟨⟩

@[simp] theorem refuses_writeProperty : ¬(writeProperty property).Refuses .bufferTooSmall := by
  show property.encodedBytes ≠ _
  simp [Property.encodedBytes, bind_eq_error, property.validateValue_fits, property.encodeParts_fits]

@[simp] theorem refuses_writeProperties : ¬(writeProperties properties).Refuses .bufferTooSmall := by
  show properties.encodedBytes ≠ _
  have body : ¬properties.writeBody.Refuses .bufferTooSmall := ByteWriter.refuses_each fun _ => refuses_writeProperty
  rw [Properties.encodedBytes]
  split
  · intro wrong
    cases wrong
  · rw [Ne, bind_eq_error]
    rintro (wrong | ⟨_, _, ⟨⟩⟩)
    exact body wrong

@[simp] theorem validateProperties_fits {allowed : Properties → Except DecodeError Unit} {allow : Bool} :
    validateProperties allowed allow properties ≠ .error .bufferTooSmall := by
  simp [validateProperties, bind_eq_error]

@[simp] theorem validatePayload_fits {payload : List UInt8} :
    validatePayload properties payload ≠ .error .bufferTooSmall := by
  simp [validatePayload]

end Properties

theorem Will.validateTopic_fits (will : Will) : will.validateTopic ≠ .error .bufferTooSmall := by
  simp [validateTopic, bind_eq_error]

theorem Will.validateProperties_fits (will : Will) : will.validateProperties ≠ .error .bufferTooSmall :=
  V5.validateProperties_fits

/-- A check of a will that may be there. -/
theorem Will.forM_fits {check : Will → Except EncodeError Unit} (checks : ∀ will, check will ≠ .error .bufferTooSmall)
    (will : Option Will) : forM will check ≠ .error .bufferTooSmall := by
  cases will with
  | none =>
    intro wrong
    cases wrong
  | some given => exact checks given

@[simp] theorem refuses_writeWill {will : Will} : ¬will.write.Refuses .bufferTooSmall := by
  simp [Will.write]

theorem Connect.exactEncoder (packet : Connect) : ExactEncoder packet.encodedLen packet.encode := by
  apply MqttRs.exactEncoder
  · intro _
    exact packet.encodedLen_announces
  · simp [validate, bind_eq_error, Will.forM_fits Will.validateTopic_fits, Will.forM_fits Will.validateProperties_fits,
      Will.forM_fits fun _ => validatePayload_fits]
  · simp [writeBody]

theorem ConnAck.exactEncoder (packet : ConnAck) : ExactEncoder packet.encodedLen packet.encode := by
  apply MqttRs.exactEncoder
  · intro _
    exact (Announces.of_sum rfl).add packet.properties.encodedLen_announces
  · simp [validate, bind_eq_error]
  · simp [writeBody]

theorem Publish.exactEncoder (packet : Publish) : ExactEncoder packet.encodedLen packet.encode := by
  apply MqttRs.exactEncoder
  · exact encodedLen_announces
  · simp [validate, bind_eq_error]
  · simp [writeBody]

section Acks

variable {packetType flags : UInt8} {checks : Except EncodeError Unit}

theorem ack_exactEncoder (packetId : UInt16) (reasonCode : UInt8) (properties : Properties)
    (checked : checks ≠ .error .bufferTooSmall) :
    ExactEncoder (reasonCodePacketEncodedLen properties) (fun buf => do
      let _ ← .ofExcept checks
      encodeReasonCodePacket packetType flags packetId reasonCode properties buf) := by
  apply MqttRs.exactEncoder _ checked
  · simp [writeReasonCodePacket]
  · intro _
    exact (Announces.of_sum rfl).add properties.encodedLen_announces

theorem PubAck.exactEncoder (packet : PubAck) : ExactEncoder (encodedLen packet) (encode packet) := by
  apply ack_exactEncoder
  simp [validate, bind_eq_error]

theorem PubRec.exactEncoder (packet : PubRec) : ExactEncoder (encodedLen packet) (encode packet) := by
  apply ack_exactEncoder
  simp [validate, bind_eq_error]

theorem PubRel.exactEncoder (packet : PubRel) : ExactEncoder (encodedLen packet) (encode packet) := by
  apply ack_exactEncoder
  simp [validate, bind_eq_error]

theorem PubComp.exactEncoder (packet : PubComp) : ExactEncoder (encodedLen packet) (encode packet) := by
  apply ack_exactEncoder
  simp [validate, bind_eq_error]

theorem reasonCodeOnly_exactEncoder (reasonCode : UInt8) (properties : Properties)
    (checked : checks ≠ .error .bufferTooSmall) :
    ExactEncoder (reasonCodeOnlyPacketEncodedLen properties) (fun buf => do
      let _ ← .ofExcept checks
      encodeReasonCodeOnlyPacket packetType flags reasonCode properties buf) := by
  apply MqttRs.exactEncoder _ checked
  · simp [writeReasonCodeOnlyPacket]
  · intro _
    exact (Announces.refl 1).add properties.encodedLen_announces

theorem Disconnect.exactEncoder (packet : Disconnect) : ExactEncoder packet.encodedLen packet.encode := by
  apply reasonCodeOnly_exactEncoder
  simp [validate, bind_eq_error]

theorem Auth.exactEncoder (packet : Auth) : ExactEncoder packet.encodedLen packet.encode := by
  apply reasonCodeOnly_exactEncoder
  simp [validate, bind_eq_error]

theorem empty_exactEncoder : ExactEncoder 0 (encodeEmpty packetType flags) :=
  @MqttRs.exactEncoder 0 (packetType ||| flags) .nothing (.ok ()) (fun _ => .refl 0) nofun ByteWriter.refuses_nothing

end Acks

theorem Subscription.validate_fits (subscription : Subscription) : subscription.validate ≠ .error .bufferTooSmall := by
  simp [validate, bind_eq_error]

@[simp] theorem refuses_writeSubscription {subscription : Subscription} :
    ¬subscription.write.Refuses .bufferTooSmall := by
  simp [Subscription.write]

theorem Subscribe.exactEncoder (packet : Subscribe) : ExactEncoder packet.encodedLen packet.encode := by
  apply MqttRs.exactEncoder
  · intro _
    exact packet.encodedLen_announces
  · simp [validate, bind_eq_error, forM_ne_error Subscription.validate_fits]
  · simp [writeBody]

theorem Unsubscribe.validateTopicFilter_fits (topicFilter : String) :
    validateTopicFilter topicFilter ≠ .error .bufferTooSmall := by
  simp [validateTopicFilter]

theorem Unsubscribe.exactEncoder (packet : Unsubscribe) : ExactEncoder packet.encodedLen packet.encode := by
  apply MqttRs.exactEncoder
  · intro _
    exact packet.encodedLen_announces
  · simp [validate, bind_eq_error, forM_ne_error validateTopicFilter_fits]
  · simp [writeBody]

theorem ReasonCodesPacket.exactEncoder {γ : Type} [ByteCode γ] {first : UInt8}
    {allowed : Properties → Except DecodeError Unit} (packet : ReasonCodesPacket γ) :
    ExactEncoder packet.encodedLen (fun buf => do
      let _ ← .ofExcept (packet.validate allowed)
      encodeFrame first packet.encodedLen packet.writeBody buf) := by
  apply MqttRs.exactEncoder
  · intro _
    exact packet.encodedLen_announces
  · simp [validate, bind_eq_error]
  · simp [writeBody]

theorem Packet.exactEncoder (packet : Packet) : ExactEncoder packet.encodedLen packet.encode := by
  cases packet with
  | connect packet => exact packet.exactEncoder
  | connAck packet => exact packet.exactEncoder
  | publish packet => exact packet.exactEncoder
  | pubAck packet => exact PubAck.exactEncoder packet
  | pubRec packet => exact PubRec.exactEncoder packet
  | pubRel packet => exact PubRel.exactEncoder packet
  | pubComp packet => exact PubComp.exactEncoder packet
  | subscribe packet => exact packet.exactEncoder
  | subAck packet => exact packet.exactEncoder
  | unsubscribe packet => exact packet.exactEncoder
  | unsubAck packet => exact packet.exactEncoder
  | pingReq packet => exact empty_exactEncoder
  | pingResp packet => exact empty_exactEncoder
  | disconnect packet => exact packet.exactEncoder
  | auth packet => exact packet.exactEncoder

end V5

namespace V311

variable {packetType flags : UInt8}

theorem empty_exactEncoder : ExactEncoder 0 (encodeEmpty packetType flags) :=
  @MqttRs.exactEncoder 0 (packetType ||| flags) .nothing (.ok ()) (fun _ => .refl 0) nofun ByteWriter.refuses_nothing

theorem simpleAck_exactEncoder (packetId : UInt16) : ExactEncoder 2 (encodeSimpleAck packetType flags packetId) := by
  apply MqttRs.exactEncoder
  · intro _
    exact .refl 2
  · simp
  · simp

theorem Connect.validateWill_fits (will : Option Will) : validateWill will ≠ .error .bufferTooSmall := by
  cases will <;> simp [validateWill, bind_eq_error]

theorem Connect.refuses_writeWill (will : Will) : ¬(writeWill will).Refuses .bufferTooSmall := by
  simp [writeWill]

theorem Connect.exactEncoder (packet : Connect) : ExactEncoder packet.encodedLen packet.encode := by
  apply MqttRs.exactEncoder
  · intro _
    exact packet.encodedLen_announces
  · simp [validate, bind_eq_error, validateWill_fits]
  · simp [writeBody, refuses_writeWill]

theorem ConnAck.exactEncoder (packet : ConnAck) : ExactEncoder packet.encodedLen packet.encode := by
  apply MqttRs.exactEncoder
  · intro _
    exact .refl 2
  · rw [validate]
    split <;> rintro ⟨⟩
  · simp [writeBody]

theorem Publish.refuses_writePacketId (packetId : Option UInt16) : ¬(writePacketId packetId).Refuses .bufferTooSmall := by
  cases packetId <;> simp [writePacketId]

theorem Publish.exactEncoder (packet : Publish) : ExactEncoder packet.encodedLen packet.encode := by
  apply MqttRs.exactEncoder
  · exact encodedLen_announces
  · simp [validate, bind_eq_error]
  · rw [writeBody]
    split <;> simp [refuses_writePacketId]

theorem Subscribe.refuses_writeSubscription (subscription : Subscription) :
    ¬(writeSubscription subscription).Refuses .bufferTooSmall := by
  simp [writeSubscription]

theorem Subscribe.exactEncoder (packet : Subscribe) : ExactEncoder packet.encodedLen packet.encode := by
  apply MqttRs.exactEncoder
  · intro _
    exact packet.encodedLen_announces
  · simp [validate, bind_eq_error]
  · simp [writeBody, refuses_writeSubscription]

theorem Unsubscribe.exactEncoder (packet : Unsubscribe) : ExactEncoder packet.encodedLen packet.encode := by
  apply MqttRs.exactEncoder
  · intro _
    exact packet.encodedLen_announces
  · simp [validate, bind_eq_error]
  · simp [writeBody]

theorem SubAck.exactEncoder (packet : SubAck) : ExactEncoder packet.encodedLen packet.encode := by
  apply MqttRs.exactEncoder
  · intro _
    exact packet.encodedLen_announces
  · simp [validate, bind_eq_error]
  · simp [writeBody]

theorem Packet.exactEncoder (packet : Packet) : ExactEncoder packet.encodedLen packet.encode := by
  cases packet with
  | connect packet => exact packet.exactEncoder
  | connAck packet => exact packet.exactEncoder
  | publish packet => exact packet.exactEncoder
  | pubAck packet | pubRec packet | pubRel packet | pubComp packet | unsubAck packet => exact simpleAck_exactEncoder _
  | subscribe packet => exact packet.exactEncoder
  | subAck packet => exact packet.exactEncoder
  | unsubscribe packet => exact packet.exactEncoder
  | pingReq packet | pingResp packet | disconnect packet => exact empty_exactEncoder

end V311

/-- Every encoder writes its frame, of the announced length, and nothing else, into every buffer with room for it, and
    `encode_to_vec` asks for just that room. -/
theorem encoders_exact :
    (∀ packet : V5.Packet, EncodesExactly packet.encodedLen packet.encode packet.encodeToVec) ∧
      ∀ packet : V311.Packet, EncodesExactly packet.encodedLen packet.encode packet.encodeToVec := by
  constructor
  · intro packet
    exact packet.exactEncoder
  · intro packet
    exact packet.exactEncoder

end MqttRs
