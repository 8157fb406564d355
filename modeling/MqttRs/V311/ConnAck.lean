import MqttRs.Codec.Fields
import MqttRs.Codec.FlagBytes
import MqttRs.V311.ReturnCodes

namespace MqttRs.V311

structure ConnAck where
  sessionPresent : Bool
  returnCode : ConnectReturnCode
  deriving DecidableEq

namespace ConnAck

def packetType : UInt8 := 0x20

def encodedLen (_ : ConnAck) : Nat := 2

def validate (packet : ConnAck) : Except EncodeError Unit :=
  if packet.sessionPresent && packet.returnCode ≠ .accepted then .error (.invalidField .sessionPresentWithNonSuccess)
  else .ok ()

def writeBody (packet : ConnAck) : ByteWriter EncodeError :=
  .byte (if packet.sessionPresent then 0x01 else 0x00) ++ writeCode packet.returnCode

def encode (packet : ConnAck) (buf : List UInt8) : Outcome EncodeError (List UInt8 × Nat) := do
  let _ ← .ofExcept packet.validate
  encodeFrame packetType packet.encodedLen packet.writeBody buf

def readBody : ByteReader DecodeError ConnAck := do
  let flags ← readByte
  malformedIf (flags &&& 0xFE ≠ 0)
  let sessionPresent := flags &&& 0x01 ≠ 0
  let returnCode ← readCode
  malformedIf (returnCode ≠ .accepted && sessionPresent)
  endOfPacket
  return { sessionPresent, returnCode }

def decode (buf : List UInt8) : Outcome DecodeError (ConnAck × Nat) :=
  decodeFrame (expectHeader packetType 0) (fun _ _ => readBody) buf

theorem reads_readBody {content rest : List UInt8} {packet : ConnAck} :
    readBody.Reads content packet rest ↔ packet.validate = .ok () ∧ packet.writeBody.Writes content ∧ rest = [] := by
  simp only [readBody, validate, writeBody]
  constructor
  · intro read
    simp only [ne_eq, decide_not, ByteReader.reads_bind, reads_readByte, reads_malformedIf, Bool.not_eq_eq_eq_not,
      Bool.not_false, decide_eq_true_eq, reads_readCode, Bool.and_eq_false_imp, Bool.not_true,
      decide_eq_false_iff_not, reads_endOfPacket, ByteReader.reads_pure, exists_eq_right_right, exists_const,
      ↓existsAndEq, and_true, true_and] at read
    obtain ⟨flags, returnCode, rfl, reserved, allowed, rfl, rfl⟩ := read
    rcases flags_of_reserved flags reserved with rfl | rfl
    · simp
    · simpa using allowed
  · intro written
    obtain ⟨sessionPresent, returnCode⟩ := packet
    cases sessionPresent with
    | false =>
      simp only [ne_eq, decide_not, Bool.false_and, Bool.false_eq_true, ↓reduceIte, ByteWriter.writes_append,
        ByteWriter.writes_byte, writes_writeCode, exists_and_left, ↓existsAndEq, true_and, exists_eq_left,
        List.cons_append, List.nil_append] at written
      simp [written]
    | true =>
      simp only [ne_eq, decide_not, Bool.true_and, Bool.not_eq_eq_eq_not, Bool.not_true, decide_eq_false_iff_not,
        ite_not, ite_eq_left_iff, reduceCtorEq, imp_false, Decidable.not_not, ↓reduceIte, ByteWriter.writes_append,
        ByteWriter.writes_byte, writes_writeCode, exists_and_left, ↓existsAndEq, true_and, exists_eq_left,
        List.cons_append, List.nil_append] at written
      have reserved : (1 : UInt8) &&& 0xFE = 0 := by decide
      simp [written, reserved]

theorem encodeToVec_eq_ok {packet : ConnAck} {written : List UInt8} :
    encodeToVec packet.encodedLen packet.encode = .ok written ↔
      packet.validate = .ok () ∧ Framed packetType packet.writeBody written :=
  MqttRs.encodeToVec_eq_ok fun _ => .refl 2

theorem decode_eq_ok {packet : ConnAck} {buf : List UInt8} {n : Nat} :
    decode buf = .ok (packet, n) ↔
      packet.validate = .ok () ∧ n ≤ buf.length ∧ Framed packetType packet.writeBody (buf.take n) :=
  decodeFrame_expect_iff (by decide) (by decide) reads_readBody

def layout (packet : ConnAck) : Layout := .exactly packetType packet.writeBody packet.validate

theorem conforms : Conforms packetType layout decode encodedLen encode :=
  .exactly (fun _ => rfl) (decodeFrame_returns _ _) decode_eq_ok encodeToVec_eq_ok

end ConnAck

end MqttRs.V311
