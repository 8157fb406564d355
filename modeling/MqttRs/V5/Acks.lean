import MqttRs.V5.Properties
import MqttRs.V5.ReasonCodes

/-! The packets with an empty body, and those with a packet identifier, a reason code and properties. -/

namespace MqttRs.V5

def encodeEmpty (packetType flags : UInt8) (buf : List UInt8) : Outcome EncodeError (List UInt8 × Nat) :=
  encodeFrame (packetType ||| flags) 0 .nothing buf

def decodeEmpty (packetType flags : UInt8) (buf : List UInt8) : Outcome DecodeError (Unit × Nat) :=
  decodeFrame (expectHeader packetType flags) (fun _ remainingLen => malformedIf (remainingLen ≠ 0)) buf

theorem empty_conforms {α : Type} {packetType flags : UInt8} {only : α}
    (high : (packetType ||| flags) &&& 0xF0 = packetType) (low : (packetType ||| flags) &&& 0x0F = flags)
    (unique : ∀ packet, packet = only) :
    Conforms packetType (fun _ => .exactly (packetType ||| flags) .nothing (.ok ()))
      (fun buf => (decodeEmpty packetType flags buf).tagged fun _ => only) (fun _ => 0)
      (fun _ => encodeEmpty packetType flags) := by
  apply Conforms.exactly
  · intro _
    exact high
  · intro buf
    exact Outcome.tagged_returns.mpr (decodeFrame_returns _ _ buf)
  · intro buf packet n
    have decoded : decodeEmpty packetType flags buf = .ok ((), n) ↔
        True ∧ n ≤ buf.length ∧ Framed (packetType ||| flags) .nothing (buf.take n) := by
      refine @decodeFrame_iff_framed _ _ _ _ (fun _ => True) (fun _ => packetType ||| flags) (fun _ => .nothing) ?_ ?_ buf () n
      · intro first key bytes value rest _ read
        obtain ⟨empty, rfl⟩ := reads_malformedIf.mp read
        simpa using empty
      · intro byte content _
        simp [expectHeader_iff high low]
    rw [Outcome.tagged_eq_ok]
    simp only [unique packet, and_true, decoded, true_and]
    exact ⟨fun ⟨_, framed⟩ => framed, fun framed => ⟨(), framed⟩⟩
  · intro packet written
    have encoded := @encodeToVec_eq_ok (packetType ||| flags) 0 .nothing (.ok ()) (fun _ => Announces.refl 0) written
    exact encoded

structure PingReq where
  deriving DecidableEq

namespace PingReq

def packetType : UInt8 := 0xC0

def flags : UInt8 := 0

def encodedLen (_ : PingReq) : Nat := 0

def encode (_ : PingReq) : List UInt8 → Outcome EncodeError (List UInt8 × Nat) := encodeEmpty packetType flags

def decode (buf : List UInt8) : Outcome DecodeError (PingReq × Nat) :=
  (decodeEmpty packetType flags buf).tagged fun _ => ⟨⟩

def layout (_ : PingReq) : Layout := .exactly (packetType ||| flags) .nothing (.ok ())

theorem conforms : Conforms packetType layout decode encodedLen encode :=
  empty_conforms (by decide) (by decide) fun _ => rfl

end PingReq

structure PingResp where
  deriving DecidableEq

namespace PingResp

def packetType : UInt8 := 0xD0

def flags : UInt8 := 0

def encodedLen (_ : PingResp) : Nat := 0

def encode (_ : PingResp) : List UInt8 → Outcome EncodeError (List UInt8 × Nat) := encodeEmpty packetType flags

def decode (buf : List UInt8) : Outcome DecodeError (PingResp × Nat) :=
  (decodeEmpty packetType flags buf).tagged fun _ => ⟨⟩

def layout (_ : PingResp) : Layout := .exactly (packetType ||| flags) .nothing (.ok ())

theorem conforms : Conforms packetType layout decode encodedLen encode :=
  empty_conforms (by decide) (by decide) fun _ => rfl

end PingResp

def reasonCodePacketEncodedLen (properties : Properties) : Nat :=
  Usize.saturatingAdd (Usize.saturatingAdd 2 1) properties.encodedLen

def writeReasonCodePacket (packetId : UInt16) (reasonCode : UInt8) (properties : Properties) : ByteWriter EncodeError :=
  writeU16 packetId ++ .byte reasonCode ++ writeProperties properties

def encodeReasonCodePacket (packetType flags : UInt8) (packetId : UInt16) (reasonCode : UInt8) (properties : Properties)
    (buf : List UInt8) : Outcome EncodeError (List UInt8 × Nat) :=
  encodeFrame (packetType ||| flags) (reasonCodePacketEncodedLen properties)
    (writeReasonCodePacket packetId reasonCode properties) buf

/-- The properties of a packet that may end without the field for their length. -/
def readPropertiesUnless (ended : Bool) : ByteReader DecodeError Properties :=
  if ended then pure .new else readProperties false

def readReasonCode : ByteReader DecodeError (UInt8 × Properties) := do
  let reasonCode ← readByte
  let ended ← .atEnd
  let properties ← readPropertiesUnless ended
  return (reasonCode, properties)

def readReasonCodeUnless (short : Bool) (defaultReasonCode : UInt8) : ByteReader DecodeError (UInt8 × Properties) :=
  if short then pure (defaultReasonCode, .new) else readReasonCode

def readReasonCodePacket (defaultReasonCode : UInt8) (remainingLen : Nat) :
    ByteReader DecodeError (UInt16 × UInt8 × Properties) := do
  let packetId ← readPacketId
  let (reasonCode, properties) ← readReasonCodeUnless (remainingLen = 2) defaultReasonCode
  endOfPacket
  return (packetId, reasonCode, properties)

/-- The fields of PUBACK, PUBREC, PUBREL and PUBCOMP. -/
structure ReasonCodePacket (γ : Type) where
  packetId : UInt16
  reasonCode : γ
  properties : Properties
  deriving DecidableEq

section

variable {γ : Type} [ByteCode γ]

def readAck (success : γ) (allowed : Properties → Except DecodeError Unit) (remainingLen : Nat) :
    ByteReader DecodeError (ReasonCodePacket γ) := do
  let (packetId, reasonCode, properties) ← readReasonCodePacket (ByteCode.asU8 success) remainingLen
  .ofExcept (allowed properties)
  let reasonCode ← .okOr (ByteCode.fromU8 reasonCode) .malformedPacket
  return { packetId, reasonCode, properties }

def ackLayout (packetType flags : UInt8) (success : γ) (allowed : Properties → Except DecodeError Unit)
    (checks : Except EncodeError Unit) (packet : ReasonCodePacket γ) : Layout where
  first := packetType ||| flags
  body := writeReasonCodePacket packet.packetId (ByteCode.asU8 packet.reasonCode) packet.properties
  Sendable := checks = .ok ()
  Accepted := packet.packetId ≠ 0 ∧ validateProperties allowed false packet.properties = .ok ()
  Short content := packet.packetId ≠ 0 ∧ packet.properties = .new ∧
    (packet.reasonCode = success ∧ content = packet.packetId.toBeBytes ∨
      content = packet.packetId.toBeBytes ++ [ByteCode.asU8 packet.reasonCode])
  short_small {content} short := by
    have length : content.length ≤ 3 := by
      obtain ⟨_, _, ⟨_, rfl⟩ | rfl⟩ := short
      · exact Nat.le_succ 2
      · exact Nat.le_refl 3
    exact VariableByteInteger.few_le_max length

variable {packetType flags : UInt8} {success : γ} {allowed : Properties → Except DecodeError Unit}

theorem reads_readReasonCode {bytes rest : List UInt8} {reasonCode : UInt8} {properties : Properties} :
    readReasonCode.Reads bytes (reasonCode, properties) rest ↔
      (properties.validateDuplicateIdentifiers false = .ok () ∧
        ∃ front, (writeProperties properties).Writes front ∧ bytes = reasonCode :: (front ++ rest)) ∨
      properties = .new ∧ bytes = [reasonCode] ∧ rest = [] := by
  simp only [readReasonCode, ByteReader.reads_bind, reads_readByte, ByteReader.reads_atEnd, ByteReader.reads_pure]
  constructor
  · intro read
    obtain ⟨_, _, rfl, ended, _, ⟨isEnded, rfl⟩, _, _, read, same, rfl⟩ := read
    cases same
    cases ended with
    | true =>
      obtain ⟨rfl, rfl⟩ := ByteReader.reads_pure.mp read
      have empty := List.isEmpty_iff.mp isEnded
      exact .inr ⟨rfl, by rw [empty], empty⟩
    | false =>
      obtain ⟨distinct, front, writes, rfl⟩ := reads_readProperties.mp read
      exact .inl ⟨distinct, front, writes, rfl⟩
  · intro written
    rcases written with ⟨distinct, front, writes, rfl⟩ | ⟨rfl, rfl, rfl⟩
    · have nonempty : (front ++ rest).isEmpty = false := by
        rw [List.isEmpty_eq_false_iff, Ne, List.append_eq_nil_iff]
        exact fun both => Properties.writes_ne_nil writes both.1
      exact ⟨_, _, rfl, false, _, ⟨nonempty, rfl⟩, properties, rest,
        reads_readProperties.mpr ⟨distinct, front, writes, rfl⟩, rfl, rfl⟩
    · exact ⟨_, _, rfl, true, _, ⟨rfl, rfl⟩, _, _, ByteReader.reads_pure.mpr ⟨rfl, rfl⟩, rfl, rfl⟩

theorem reads_readAck (noneAllowed : allowed .new = .ok ()) {content rest : List UInt8} {packet : ReasonCodePacket γ}
    {checks : Except EncodeError Unit} :
    (readAck success allowed content.length).Reads content packet rest ↔
      ((ackLayout packetType flags success allowed checks packet).Accepted ∧
          (ackLayout packetType flags success allowed checks packet).body.Writes content ∨
        (ackLayout packetType flags success allowed checks packet).Short content) ∧ rest = [] := by
  obtain ⟨packetId, reasonCode, properties⟩ := packet
  simp only [readAck, readReasonCodePacket, ByteReader.reads_bind, reads_readPacketId, reads_endOfPacket, ByteReader.reads_pure,
    ByteReader.reads_ofExcept, ByteReader.reads_okOr, ByteCode.fromU8_eq_some, ReasonCodePacket.mk.injEq, Prod.exists, Prod.mk.injEq,
    ackLayout, writeReasonCodePacket, ByteWriter.writes_append, writes_writeU16, ByteWriter.writes_byte, validateProperties_eq_ok]
  constructor
  · intro read
    obtain ⟨_, _, _, _, ⟨_, after, ⟨nonzero, rfl⟩, code, _, _, read, _, _, ⟨rfl, rfl⟩, ⟨rfl, rfl, rfl⟩, rfl⟩, _, _, ⟨valid, rfl⟩,
      _, _, ⟨rfl, rfl⟩, ⟨rfl, rfl, rfl⟩, rfl⟩ := read
    refine ⟨?_, rfl⟩
    rw [readReasonCodeUnless] at read
    split at read
    · rename_i short
      obtain ⟨same, rfl⟩ := ByteReader.reads_pure.mp read
      obtain ⟨sameCode, rfl⟩ := Prod.mk.inj same
      exact .inr ⟨nonzero, rfl, .inl ⟨ByteCode.asU8_injective sameCode.symm, List.append_nil _⟩⟩
    · rcases reads_readReasonCode.mp read with ⟨distinct, front, writes, rfl⟩ | ⟨rfl, rfl, _⟩
      · refine .inl ⟨⟨nonzero, valid, distinct⟩, _, _, ⟨_, _, rfl, rfl, rfl⟩, writes, ?_⟩
        rw [List.append_nil, List.append_assoc]
        rfl
      · exact .inr ⟨nonzero, rfl, .inr rfl⟩
  · intro written
    obtain ⟨written, rfl⟩ := written
    suffices shape : ∃ after, packetId ≠ 0 ∧ content = packetId.toBeBytes ++ after ∧ allowed properties = .ok () ∧
        (readReasonCodeUnless (content.length = 2) (ByteCode.asU8 success)).Reads after
          (ByteCode.asU8 reasonCode, properties) [] by
      obtain ⟨after, nonzero, whole, valid, read⟩ := shape
      exact ⟨_, _, _, _, ⟨packetId, after, ⟨nonzero, whole⟩, _, properties, _, read, (), _, ⟨rfl, rfl⟩, ⟨rfl, rfl, rfl⟩, rfl⟩,
        (), _, ⟨valid, rfl⟩, reasonCode, _, ⟨rfl, rfl⟩, ⟨rfl, rfl, rfl⟩, rfl⟩
    rcases written with ⟨⟨nonzero, valid, distinct⟩, _, front, ⟨_, _, rfl, rfl, rfl⟩, writes, rfl⟩ | ⟨nonzero, rfl, short⟩
    · have nonempty : 0 < front.length := List.length_pos_iff.mpr (Properties.writes_ne_nil writes)
      refine ⟨ByteCode.asU8 reasonCode :: front, nonzero, by rw [List.append_assoc]; rfl, valid, ?_⟩
      rw [readReasonCodeUnless, if_neg]
      · exact reads_readReasonCode.mpr (.inl ⟨distinct, front, writes, by rw [List.append_nil]⟩)
      · simp only [List.length_append, UInt16.length_toBeBytes, List.length_singleton, decide_eq_true_eq]
        omega
    · rcases short with ⟨rfl, rfl⟩ | rfl
      · refine ⟨[], nonzero, (List.append_nil _).symm, noneAllowed, ?_⟩
        rw [readReasonCodeUnless, if_pos (by rfl)]
        exact ByteReader.reads_pure.mpr ⟨rfl, rfl⟩
      · refine ⟨[ByteCode.asU8 reasonCode], nonzero, rfl, noneAllowed, ?_⟩
        rw [readReasonCodeUnless, if_neg (by simp)]
        exact reads_readReasonCode.mpr (.inr ⟨rfl, rfl, rfl⟩)

theorem ack_conforms {checks : ReasonCodePacket γ → Except EncodeError Unit} (noneAllowed : allowed .new = .ok ())
    (high : (packetType ||| flags) &&& 0xF0 = packetType) (low : (packetType ||| flags) &&& 0x0F = flags) :
    Conforms packetType (fun packet => ackLayout packetType flags success allowed (checks packet) packet)
      (decodeFrame (expectHeader packetType flags) fun _ => readAck success allowed)
      (fun packet => reasonCodePacketEncodedLen packet.properties)
      (fun packet buf => do
        let _ ← .ofExcept (checks packet)
        encodeReasonCodePacket packetType flags packet.packetId (ByteCode.asU8 packet.reasonCode) packet.properties buf) := by
  apply Conforms.expecting high low
  · intro _
    rfl
  · intro packet content rest
    exact reads_readAck noneAllowed
  · intro packet written
    apply encodeToVec_eq_ok
    intro _
    exact (Announces.of_sum rfl).add packet.properties.encodedLen_announces

end

abbrev PubAck := ReasonCodePacket PubAckReasonCode

namespace PubAck

def packetType : UInt8 := 0x40

def flags : UInt8 := 0

def encodedLen (packet : PubAck) : Nat := reasonCodePacketEncodedLen packet.properties

def validate (packet : PubAck) : Except EncodeError Unit := do
  refuseIf (packet.packetId == 0) .zeroPacketId
  refuseIf (packet.reasonCode = .noMatchingSubscribers) .invalidReasonCode
  validateProperties Properties.validateForPuback false packet.properties

def encode (packet : PubAck) (buf : List UInt8) : Outcome EncodeError (List UInt8 × Nat) := do
  let _ ← .ofExcept (validate packet)
  encodeReasonCodePacket packetType flags packet.packetId (ByteCode.asU8 packet.reasonCode) packet.properties buf

def decode (buf : List UInt8) : Outcome DecodeError (PubAck × Nat) :=
  decodeFrame (expectHeader packetType flags) (fun _ => readAck .success Properties.validateForPuback) buf

def layout (packet : PubAck) : Layout :=
  ackLayout packetType flags .success Properties.validateForPuback (validate packet) packet

theorem conforms : Conforms packetType layout decode encodedLen encode := ack_conforms rfl (by decide) (by decide)

theorem validate_eq_ok {packet : PubAck} : validate packet = .ok () ↔
    packet.packetId ≠ 0 ∧ packet.reasonCode ≠ .noMatchingSubscribers ∧
    validateProperties Properties.validateForPuback false packet.properties = .ok () := by
  simp [validate, bind_eq_ok]

end PubAck

abbrev PubRec := ReasonCodePacket PubRecReasonCode

namespace PubRec

def packetType : UInt8 := 0x50

def flags : UInt8 := 0

def encodedLen (packet : PubRec) : Nat := reasonCodePacketEncodedLen packet.properties

def validate (packet : PubRec) : Except EncodeError Unit := do
  refuseIf (packet.packetId == 0) .zeroPacketId
  refuseIf (packet.reasonCode = .noMatchingSubscribers) .invalidReasonCode
  validateProperties Properties.validateForPubrec false packet.properties

def encode (packet : PubRec) (buf : List UInt8) : Outcome EncodeError (List UInt8 × Nat) := do
  let _ ← .ofExcept (validate packet)
  encodeReasonCodePacket packetType flags packet.packetId (ByteCode.asU8 packet.reasonCode) packet.properties buf

def decode (buf : List UInt8) : Outcome DecodeError (PubRec × Nat) :=
  decodeFrame (expectHeader packetType flags) (fun _ => readAck .success Properties.validateForPubrec) buf

def layout (packet : PubRec) : Layout :=
  ackLayout packetType flags .success Properties.validateForPubrec (validate packet) packet

theorem conforms : Conforms packetType layout decode encodedLen encode := ack_conforms rfl (by decide) (by decide)

theorem validate_eq_ok {packet : PubRec} : validate packet = .ok () ↔
    packet.packetId ≠ 0 ∧ packet.reasonCode ≠ .noMatchingSubscribers ∧
    validateProperties Properties.validateForPubrec false packet.properties = .ok () := by
  simp [validate, bind_eq_ok]

end PubRec

abbrev PubRel := ReasonCodePacket PubRelReasonCode

namespace PubRel

def packetType : UInt8 := 0x60

def flags : UInt8 := 0x02

def encodedLen (packet : PubRel) : Nat := reasonCodePacketEncodedLen packet.properties

def validate (packet : PubRel) : Except EncodeError Unit := do
  refuseIf (packet.packetId == 0) .zeroPacketId
  validateProperties Properties.validateForPubrel false packet.properties

def encode (packet : PubRel) (buf : List UInt8) : Outcome EncodeError (List UInt8 × Nat) := do
  let _ ← .ofExcept (validate packet)
  encodeReasonCodePacket packetType flags packet.packetId (ByteCode.asU8 packet.reasonCode) packet.properties buf

def decode (buf : List UInt8) : Outcome DecodeError (PubRel × Nat) :=
  decodeFrame (expectHeader packetType flags) (fun _ => readAck .success Properties.validateForPubrel) buf

def layout (packet : PubRel) : Layout :=
  ackLayout packetType flags .success Properties.validateForPubrel (validate packet) packet

theorem conforms : Conforms packetType layout decode encodedLen encode := ack_conforms rfl (by decide) (by decide)

theorem validate_eq_ok {packet : PubRel} : validate packet = .ok () ↔
    packet.packetId ≠ 0 ∧ validateProperties Properties.validateForPubrel false packet.properties = .ok () := by
  simp [validate, bind_eq_ok]

end PubRel

abbrev PubComp := ReasonCodePacket PubCompReasonCode

namespace PubComp

def packetType : UInt8 := 0x70

def flags : UInt8 := 0

def encodedLen (packet : PubComp) : Nat := reasonCodePacketEncodedLen packet.properties

def validate (packet : PubComp) : Except EncodeError Unit := do
  refuseIf (packet.packetId == 0) .zeroPacketId
  validateProperties Properties.validateForPubcomp false packet.properties

def encode (packet : PubComp) (buf : List UInt8) : Outcome EncodeError (List UInt8 × Nat) := do
  let _ ← .ofExcept (validate packet)
  encodeReasonCodePacket packetType flags packet.packetId (ByteCode.asU8 packet.reasonCode) packet.properties buf

def decode (buf : List UInt8) : Outcome DecodeError (PubComp × Nat) :=
  decodeFrame (expectHeader packetType flags) (fun _ => readAck .success Properties.validateForPubcomp) buf

def layout (packet : PubComp) : Layout :=
  ackLayout packetType flags .success Properties.validateForPubcomp (validate packet) packet

theorem conforms : Conforms packetType layout decode encodedLen encode := ack_conforms rfl (by decide) (by decide)

theorem validate_eq_ok {packet : PubComp} : validate packet = .ok () ↔
    packet.packetId ≠ 0 ∧ validateProperties Properties.validateForPubcomp false packet.properties = .ok () := by
  simp [validate, bind_eq_ok]

end PubComp

end MqttRs.V5
