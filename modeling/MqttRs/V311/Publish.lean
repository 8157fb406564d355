import MqttRs.Codec.Fields
import MqttRs.Codec.FlagBytes
import MqttRs.Codec.TopicFilter

namespace MqttRs.V311

structure Publish where
  dup : Bool
  qos : QoS
  retain : Bool
  topic : String
  packetId : Option UInt16
  payload : List UInt8
  deriving DecidableEq

namespace Publish

def packetType : UInt8 := 0x30

def encodedLen (packet : Publish) : Nat :=
  let len := Usize.saturatingAdd 2 (asBytes packet.topic).length
  let len := if packet.qos ≠ .atMostOnce then Usize.saturatingAdd len 2 else len
  Usize.saturatingAdd len packet.payload.length

def validate (packet : Publish) : Except EncodeError Unit := do
  refuseIf packet.topic.isEmpty .emptyTopicName
  refuseIf (containsWildcard packet.topic) .wildcardInTopicName
  refuseIf (packet.qos ≠ .atMostOnce && packet.packetId = some 0) .zeroPacketId
  refuseIf (packet.qos ≠ .atMostOnce && packet.packetId = none) .missingPacketId
  refuseIf (packet.qos = .atMostOnce && packet.packetId.isSome) .unexpectedPacketId
  refuseIf (packet.qos = .atMostOnce && packet.dup) .dupWithQos0

def flags (packet : Publish) : UInt8 := publishFlags packet.dup packet.qos packet.retain

def writePacketId : Option UInt16 → ByteWriter EncodeError
  | some packetId => writeU16 packetId
  | none => .fail (.invalidField .missingPacketId)

def writeBody (packet : Publish) : ByteWriter EncodeError :=
  writeString packet.topic ++ (if packet.qos ≠ .atMostOnce then writePacketId packet.packetId else .nothing) ++
    .copy packet.payload

def encode (packet : Publish) (buf : List UInt8) : Outcome EncodeError (List UInt8 × Nat) := do
  let _ ← .ofExcept packet.validate
  encodeFrame (packetType ||| packet.flags) packet.encodedLen packet.writeBody buf

def readBody (dup : Bool) (qos : QoS) (retain : Bool) : ByteReader DecodeError Publish := do
  let topic ← readString
  malformedIf topic.isEmpty
  malformedIf (containsWildcard topic)
  let packetId ← readIf (qos ≠ .atMostOnce) readPacketId
  let payload ← .remaining
  return { dup, qos, retain, topic, packetId, payload }

def decode (buf : List UInt8) : Outcome DecodeError (Publish × Nat) :=
  decodeFrame publishHeader (fun (dup, qos, retain) _ => readBody dup qos retain) buf

/-- A valid packet has a packet identifier exactly when its QoS asks for one. -/
theorem validate_eq_ok {packet : Publish} :
    packet.validate = .ok () ↔ packet.topic ≠ "" ∧ containsWildcard packet.topic = false ∧
      packet.packetId.isSome = decide (packet.qos ≠ .atMostOnce) ∧ (∀ packetId ∈ packet.packetId, packetId ≠ 0) ∧
      (packet.qos = .atMostOnce && packet.dup) = false := by
  obtain ⟨dup, qos, retain, topic, packetId, payload⟩ := packet
  simp only [validate, bind_eq_ok, refuseIf_eq_ok]
  by_cases zero : qos = .atMostOnce <;> cases packetId <;> simp [zero]

/-- The packet identifier of a valid packet is written when it is there. -/
theorem writePacketId_eq {packet : Publish} (asked : packet.packetId.isSome = decide (packet.qos ≠ .atMostOnce)) :
    (if packet.qos ≠ .atMostOnce then writePacketId packet.packetId else .nothing) =
      ByteWriter.ifSome writeU16 packet.packetId := by
  cases hasId : packet.packetId with
  | none =>
    have zero : packet.qos = .atMostOnce := by simpa [hasId] using asked
    rw [if_neg (not_not_intro zero)]
    rfl
  | some packetId =>
    have charged : packet.qos ≠ .atMostOnce := by simpa [hasId] using asked
    rw [if_pos charged]
    rfl

theorem encodedLen_announces {packet : Publish} (valid : packet.validate = .ok ()) :
    Announces packet.encodedLen packet.writeBody.size := by
  have asked := (validate_eq_ok.mp valid).2.2.1
  rw [encodedLen, writeBody, writePacketId_eq asked]
  cases hasId : packet.packetId with
  | none =>
    have zero : packet.qos = .atMostOnce := by simpa [hasId] using asked
    simp only [zero, ne_eq, not_true_eq_false, if_false, Usize.saturatingAdd_assoc]
    apply Announces.of_sum
    simp only [ByteWriter.size_append, ByteWriter.ifSome, ByteWriter.size_nothing, ByteWriter.size_copy, size_writeString]
    omega
  | some packetId =>
    have charged : packet.qos ≠ .atMostOnce := by simpa [hasId] using asked
    simp only [if_pos charged, Usize.saturatingAdd_assoc]
    apply Announces.of_sum
    simp only [ByteWriter.size_append, ByteWriter.ifSome, size_writeU16, ByteWriter.size_copy, size_writeString]
    omega

theorem reads_readBody {content rest : List UInt8} {dup retain : Bool} {qos : QoS} {packet : Publish} :
    (readBody dup qos retain).Reads content packet rest ∧ (qos = .atMostOnce && dup) = false ↔
      (dup = packet.dup ∧ qos = packet.qos ∧ retain = packet.retain) ∧ packet.validate = .ok () ∧
        packet.writeBody.Writes content ∧ rest = [] := by
  rw [validate_eq_ok]
  constructor
  · intro read
    simp only [readBody, ne_eq, decide_not, ByteReader.reads_bind, reads_readString, reads_malformedIf,
      String.isEmpty_eq_false_iff, reads_readIf readPacketId_inverts, Option.mem_def, ByteReader.reads_remaining,
      ByteReader.reads_pure, exists_eq_right_right, ↓existsAndEq, true_and, and_true, exists_const,
      Bool.and_eq_false_imp, decide_eq_true_eq] at read
    obtain ⟨⟨topic, packetId, payload, idBytes, ⟨encodable, rfl⟩, nonempty, plain, ⟨asked, nonzero, idWrites⟩, rfl, rfl⟩,
      dupAllowed⟩ := read
    have asked : packetId.isSome = decide (qos ≠ .atMostOnce) := by simpa using asked
    refine ⟨⟨rfl, rfl, rfl⟩, ⟨nonempty, plain, asked, nonzero, by simpa using dupAllowed⟩, ?_, rfl⟩
    rw [writeBody, writePacketId_eq asked]
    simp [encodable, idWrites]
  · intro written
    obtain ⟨⟨rfl, rfl, rfl⟩, ⟨nonempty, plain, asked, nonzero, dupAllowed⟩, writes, rfl⟩ := written
    rw [writeBody, writePacketId_eq asked] at writes
    simp only [ByteWriter.writes_append, writes_writeString, exists_and_left, ↓existsAndEq, and_true,
      ByteWriter.writes_copy, true_and, List.append_assoc] at writes
    obtain ⟨idBytes, ⟨encodable, idWrites⟩, rfl⟩ := writes
    refine ⟨?_, dupAllowed⟩
    simp only [readBody, ne_eq, decide_not, ByteReader.reads_bind, reads_readString, reads_malformedIf,
      String.isEmpty_eq_false_iff, reads_readIf readPacketId_inverts, Option.mem_def, ByteReader.reads_remaining,
      ByteReader.reads_pure, exists_eq_right_right, and_true, exists_eq_left', ↓existsAndEq, exists_const]
    exact ⟨packet.topic, packet.packetId, packet.payload, idBytes, ⟨encodable, rfl⟩, nonempty, plain,
      ⟨by simpa using asked, nonzero, idWrites⟩, rfl⟩

theorem encodeToVec_eq_ok {packet : Publish} {written : List UInt8} :
    encodeToVec packet.encodedLen packet.encode = .ok written ↔
      packet.validate = .ok () ∧ Framed (packetType ||| packet.flags) packet.writeBody written :=
  MqttRs.encodeToVec_eq_ok encodedLen_announces

theorem decode_eq_ok {packet : Publish} {buf : List UInt8} {n : Nat} :
    decode buf = .ok (packet, n) ↔ packet.validate = .ok () ∧ n ≤ buf.length ∧
      Framed (packetType ||| packet.flags) packet.writeBody (buf.take n) :=
  decodeFrame_publish_iff reads_readBody

def layout (packet : Publish) : Layout := .exactly (packetType ||| packet.flags) packet.writeBody packet.validate

theorem conforms : Conforms packetType layout decode encodedLen encode :=
  .exactly (fun packet => high_publishFlags packet.dup packet.qos packet.retain) (decodeFrame_returns _ _) decode_eq_ok encodeToVec_eq_ok

end Publish

end MqttRs.V311
