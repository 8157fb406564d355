import MqttRs.Codec.FlagBytes
import MqttRs.V5.Properties

namespace MqttRs.V5

structure Publish where
  dup : Bool
  qos : QoS
  retain : Bool
  topic : String
  packetId : Option UInt16
  properties : Properties
  payload : List UInt8
  deriving DecidableEq

namespace Publish

def packetType : UInt8 := 0x30

def encodedLen (packet : Publish) : Nat :=
  let len := Usize.saturatingAdd 2 (asBytes packet.topic).length
  let len := if packet.qos ≠ .atMostOnce then Usize.saturatingAdd len 2 else len
  let len := Usize.saturatingAdd len packet.properties.encodedLen
  Usize.saturatingAdd len packet.payload.length

def validate (packet : Publish) : Except EncodeError Unit := do
  refuseIf (packet.topic.isEmpty && !packet.properties.hasTopicAlias) .emptyTopicName
  refuseIf (containsWildcard packet.topic) .wildcardInTopicName
  refuseIf (packet.qos ≠ .atMostOnce && packet.packetId.isNone) .missingPacketId
  refuseIf (packet.qos = .atMostOnce && packet.packetId.isSome) .unexpectedPacketId
  refuseIf (packet.packetId = some 0) .zeroPacketId
  refuseIf (packet.qos = .atMostOnce && packet.dup) .dupWithQos0
  validateProperties (Properties.validateForPublishWithDirection .clientToServer) true packet.properties
  validatePayload packet.properties packet.payload

def flags (packet : Publish) : UInt8 :=
  let flags := ByteCode.asU8 packet.qos <<< 1
  let flags := if packet.dup then flags ||| 0x08 else flags
  if packet.retain then flags ||| 0x01 else flags

def writeBody (packet : Publish) : ByteWriter EncodeError :=
  writeString packet.topic ++ .ifSome writeU16 packet.packetId ++ writeProperties packet.properties ++ .copy packet.payload

def encode (packet : Publish) (buf : List UInt8) : Outcome EncodeError (List UInt8 × Nat) := do
  let _ ← .ofExcept packet.validate
  encodeFrame (packetType ||| packet.flags) packet.encodedLen packet.writeBody buf

def readBody (dup : Bool) (qos : QoS) (retain : Bool) : ByteReader DecodeError Publish := do
  let topic ← readString
  let packetId ← readIf (qos ≠ .atMostOnce) readPacketId
  let properties ← readProperties true
  malformedIf (topic.isEmpty && !properties.hasTopicAlias)
  malformedIf (containsWildcard topic)
  .ofExcept (properties.validateForPublishWithDirection .serverToClient)
  let payload ← .remaining
  return { dup, qos, retain, topic, packetId, properties, payload }

def decode (buf : List UInt8) : Outcome DecodeError (Publish × Nat) :=
  decodeFrame publishHeader (fun (dup, qos, retain) _ => readBody dup qos retain) buf

/-- The checks that both sides make. -/
structure Accepted (packet : Publish) : Prop where
  named : (packet.topic.isEmpty && !packet.properties.hasTopicAlias) = false
  plain : containsWildcard packet.topic = false
  identified : packet.packetId.isSome = decide (packet.qos ≠ .atMostOnce)
  nonzero : ∀ packetId ∈ packet.packetId, packetId ≠ 0
  dupAllowed : (packet.qos = .atMostOnce && packet.dup) = false
  allowed : packet.properties.validateForPublish = .ok ()
  distinct : packet.properties.validateDuplicateIdentifiers true = .ok ()

variable {packet : Publish}

/-- The encoder takes what the decoder takes, where there is no subscription identifier and no mislabelled payload. -/
theorem validate_eq_ok : packet.validate = .ok () ↔ packet.Accepted ∧ packet.properties.hasIdentifier 0x0B = false ∧
    ¬Mislabelled packet.properties packet.payload := by
  simp only [validate, bind_eq_ok, refuseIf_eq_ok, validateProperties_eq_ok, validatePayload_eq_ok,
    Properties.validateForPublishWithDirection_eq_ok, exists_const, decide_true, Bool.true_and]
  have identifier : ((packet.qos ≠ .atMostOnce && packet.packetId.isNone) = false ∧
      (packet.qos = .atMostOnce && packet.packetId.isSome) = false) ↔
      packet.packetId.isSome = decide (packet.qos ≠ .atMostOnce) := by
    by_cases zero : packet.qos = .atMostOnce <;> cases packet.packetId <;> simp [zero]
  have nonzero : decide (packet.packetId = some 0) = false ↔ ∀ packetId ∈ packet.packetId, packetId ≠ 0 := by
    cases packet.packetId <;> simp
  constructor
  · intro valid
    obtain ⟨named, plain, missing, unexpected, notZero, dupAllowed, ⟨⟨allowed, sendable⟩, distinct⟩, payload⟩ := valid
    exact ⟨⟨named, plain, identifier.mp ⟨missing, unexpected⟩, nonzero.mp notZero, dupAllowed, allowed, distinct⟩, sendable,
      payload⟩
  · intro valid
    obtain ⟨accepted, sendable, payload⟩ := valid
    obtain ⟨missing, unexpected⟩ := identifier.mpr accepted.identified
    exact ⟨accepted.named, accepted.plain, missing, unexpected, nonzero.mpr accepted.nonzero, accepted.dupAllowed,
      ⟨⟨accepted.allowed, sendable⟩, accepted.distinct⟩, payload⟩

theorem flags_eq (packet : Publish) : packet.flags = publishFlags packet.dup packet.qos packet.retain := by
  rw [flags]
  cases packet.dup <;> cases packet.qos <;> cases packet.retain <;> rfl

theorem encodedLen_announces (valid : packet.validate = .ok ()) : Announces packet.encodedLen packet.writeBody.size := by
  have asked := (validate_eq_ok.mp valid).1.identified
  have front : Announces
      (if packet.qos ≠ .atMostOnce then Usize.saturatingAdd (Usize.saturatingAdd 2 (asBytes packet.topic).length) 2
        else Usize.saturatingAdd 2 (asBytes packet.topic).length)
      ((writeString packet.topic).size + (ByteWriter.ifSome writeU16 packet.packetId : ByteWriter EncodeError).size) := by
    cases hasId : packet.packetId with
    | none =>
      have zero : packet.qos = .atMostOnce := by simpa [hasId] using asked
      rw [if_neg (not_not_intro zero)]
      exact .of_sum rfl
    | some packetId =>
      have charged : packet.qos ≠ .atMostOnce := by simpa [hasId] using asked
      rw [if_pos charged]
      exact (Announces.of_sum rfl).plus 2
  exact (front.add packet.properties.encodedLen_announces).plus packet.payload.length

theorem reads_readBody {content rest : List UInt8} {dup retain : Bool} {qos : QoS} :
    (readBody dup qos retain).Reads content packet rest ∧ (qos = .atMostOnce && dup) = false ↔
      (dup = packet.dup ∧ qos = packet.qos ∧ retain = packet.retain) ∧ packet.Accepted ∧
        packet.writeBody.Writes content ∧ rest = [] := by
  simp only [readBody, writeBody, ByteReader.reads_bind, reads_readString, reads_readIf readPacketId_inverts, reads_readProperties,
    reads_malformedIf, ByteReader.reads_ofExcept, Properties.validateForPublishWithDirection_eq_ok, ByteReader.reads_remaining, ByteReader.reads_pure,
    ByteWriter.writes_append, ByteWriter.writes_copy, writes_writeString]
  constructor
  · intro both
    obtain ⟨⟨topic, _, ⟨encodable, rfl⟩, packetId, _, ⟨asked, nonzero, idBytes, idWrites, rfl⟩, properties, _,
      ⟨distinct, propertyBytes, propertyWrites, rfl⟩, _, _, ⟨named, rfl⟩, _, _, ⟨plain, rfl⟩, _, _, ⟨⟨allowed, _⟩, rfl⟩,
      payload, _, ⟨rfl, rfl⟩, rfl, rfl⟩, dupAllowed⟩ := both
    refine ⟨⟨rfl, rfl, rfl⟩, ⟨named, plain, asked, nonzero, dupAllowed, allowed, distinct⟩, ?_, rfl⟩
    refine ⟨_, _, ⟨_, propertyBytes, ⟨_, idBytes, ⟨encodable, rfl⟩, idWrites, rfl⟩, propertyWrites, rfl⟩, rfl, ?_⟩
    simp only [List.append_assoc]
  · intro written
    obtain ⟨⟨rfl, rfl, rfl⟩, accepted, ⟨_, _, ⟨_, propertyBytes, ⟨_, idBytes, ⟨encodable, rfl⟩, idWrites, rfl⟩, propertyWrites,
      rfl⟩, rfl, rfl⟩, rfl⟩ := written
    refine ⟨⟨packet.topic, idBytes ++ (propertyBytes ++ packet.payload), ⟨encodable, ?_⟩, packet.packetId, _,
      ⟨accepted.identified, accepted.nonzero, idBytes, idWrites, rfl⟩, packet.properties, _,
      ⟨accepted.distinct, propertyBytes, propertyWrites, rfl⟩, (), _, ⟨accepted.named, rfl⟩, (), _, ⟨accepted.plain, rfl⟩,
      (), _, ⟨⟨accepted.allowed, rfl⟩, rfl⟩, packet.payload, [], ⟨rfl, rfl⟩, rfl, rfl⟩, accepted.dupAllowed⟩
    simp only [List.append_assoc]

theorem encodeToVec_eq_ok {written : List UInt8} :
    encodeToVec packet.encodedLen packet.encode = .ok written ↔
      packet.validate = .ok () ∧ Framed (packetType ||| packet.flags) packet.writeBody written :=
  MqttRs.encodeToVec_eq_ok encodedLen_announces

theorem decode_eq_ok {buf : List UInt8} {n : Nat} :
    decode buf = .ok (packet, n) ↔ packet.Accepted ∧ n ≤ buf.length ∧
      Framed (packetType ||| packet.flags) packet.writeBody (buf.take n) := by
  rw [flags_eq]
  exact decodeFrame_publish_iff reads_readBody

def layout (packet : Publish) : Layout :=
  .plain (packetType ||| packet.flags) packet.writeBody (packet.validate = .ok ()) packet.Accepted

theorem high_flags (packet : Publish) : (packetType ||| packet.flags) &&& 0xF0 = packetType := by
  rw [flags_eq]
  exact high_publishFlags packet.dup packet.qos packet.retain

theorem conforms : Conforms packetType layout decode encodedLen encode :=
  .plain high_flags (decodeFrame_returns _ _) decode_eq_ok encodeToVec_eq_ok

end Publish

end MqttRs.V5
