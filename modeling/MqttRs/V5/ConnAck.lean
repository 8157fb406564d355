import MqttRs.Codec.FlagBytes
import MqttRs.V5.Properties
import MqttRs.V5.ReasonCodes

namespace MqttRs.V5

structure ConnAck where
  sessionPresent : Bool
  reasonCode : ConnectReasonCode
  properties : Properties
  deriving DecidableEq

namespace ConnAck

def packetType : UInt8 := 0x20

def encodedLen (packet : ConnAck) : Nat := Usize.saturatingAdd (Usize.saturatingAdd 1 1) packet.properties.encodedLen

def validate (packet : ConnAck) : Except EncodeError Unit := do
  refuseIf (packet.sessionPresent && packet.reasonCode ≠ .success) .sessionPresentWithNonSuccess
  validateProperties Properties.validateForConnack false packet.properties

def writeBody (packet : ConnAck) : ByteWriter EncodeError :=
  .byte (if packet.sessionPresent then 0x01 else 0x00) ++ writeCode packet.reasonCode ++ writeProperties packet.properties

def encode (packet : ConnAck) (buf : List UInt8) : Outcome EncodeError (List UInt8 × Nat) := do
  let _ ← .ofExcept packet.validate
  encodeFrame packetType packet.encodedLen packet.writeBody buf

def readBody : ByteReader DecodeError ConnAck := do
  let flags ← readByte
  malformedIf (flags &&& 0xFE ≠ 0)
  let sessionPresent := flags &&& 0x01 ≠ 0
  let reasonCode ← readCode
  let properties ← readProperties false
  .ofExcept properties.validateForConnack
  malformedIf (reasonCode ≠ .success && sessionPresent)
  endOfPacket
  return { sessionPresent, reasonCode, properties }

def decode (buf : List UInt8) : Outcome DecodeError (ConnAck × Nat) :=
  decodeFrame (expectHeader packetType 0) (fun _ _ => readBody) buf

theorem reads_readBody {content rest : List UInt8} {packet : ConnAck} :
    readBody.Reads content packet rest ↔ packet.validate = .ok () ∧ packet.writeBody.Writes content ∧ rest = [] := by
  simp only [readBody, validate, writeBody, bind_eq_ok]
  constructor
  · intro read
    simp only [ne_eq, decide_not, ByteReader.reads_bind, reads_readByte, reads_malformedIf, Bool.not_eq_eq_eq_not,
      Bool.not_false, decide_eq_true_eq, reads_readCode, reads_readProperties, ByteReader.reads_ofExcept,
      Bool.and_eq_false_imp, Bool.not_true, decide_eq_false_iff_not, reads_endOfPacket, ByteReader.reads_pure,
      exists_eq_right_right, exists_const, ↓existsAndEq, and_true, exists_and_right, List.append_nil,
      exists_eq_right', true_and] at read
    obtain ⟨flags, reasonCode, _, rfl, reserved, properties, ⟨distinct, writes⟩, ⟨_, valid⟩, allowed, rfl, rfl⟩ := read
    rcases flags_of_reserved flags reserved with rfl | rfl
    · simp [valid, distinct, writes]
    · simpa [valid, distinct, writes] using allowed
  · intro written
    obtain ⟨sessionPresent, reasonCode, properties⟩ := packet
    simp only [ne_eq, decide_not, refuseIf_eq_ok, Bool.and_eq_false_imp, Bool.not_eq_eq_eq_not, Bool.not_false,
      decide_eq_true_eq, validateProperties_eq_ok, exists_const, ByteWriter.writes_append, ByteWriter.writes_byte,
      writes_writeCode, exists_and_left, ↓existsAndEq, true_and, exists_eq_left, List.cons_append, List.nil_append]
      at written
    obtain ⟨⟨allowed, valid, distinct⟩, ⟨front, writes, rfl⟩, rfl⟩ := written
    cases sessionPresent with
    | false => simp [valid, distinct, writes]
    | true =>
      obtain rfl := allowed rfl
      have reserved : (1 : UInt8) &&& 0xFE = 0 := by decide
      simp [valid, distinct, writes, reserved]

theorem encodeToVec_eq_ok {packet : ConnAck} {written : List UInt8} :
    encodeToVec packet.encodedLen packet.encode = .ok written ↔
      packet.validate = .ok () ∧ Framed packetType packet.writeBody written :=
  MqttRs.encodeToVec_eq_ok fun _ => (Announces.of_sum rfl).add packet.properties.encodedLen_announces

theorem decode_eq_ok {packet : ConnAck} {buf : List UInt8} {n : Nat} :
    decode buf = .ok (packet, n) ↔
      packet.validate = .ok () ∧ n ≤ buf.length ∧ Framed packetType packet.writeBody (buf.take n) :=
  decodeFrame_expect_iff (by decide) (by decide) reads_readBody

def layout (packet : ConnAck) : Layout := .exactly packetType packet.writeBody packet.validate

theorem conforms : Conforms packetType layout decode encodedLen encode :=
  .exactly (fun _ => rfl) (decodeFrame_returns _ _) decode_eq_ok encodeToVec_eq_ok

end ConnAck

end MqttRs.V5
