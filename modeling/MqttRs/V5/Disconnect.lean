import MqttRs.V5.Acks

/-! The packets with a reason code and properties alone. -/

namespace MqttRs.V5

def reasonCodeOnlyPacketEncodedLen (properties : Properties) : Nat := Usize.saturatingAdd 1 properties.encodedLen

def writeReasonCodeOnlyPacket (reasonCode : UInt8) (properties : Properties) : ByteWriter EncodeError :=
  .byte reasonCode ++ writeProperties properties

def encodeReasonCodeOnlyPacket (packetType flags reasonCode : UInt8) (properties : Properties) (buf : List UInt8) :
    Outcome EncodeError (List UInt8 × Nat) :=
  encodeFrame (packetType ||| flags) (reasonCodeOnlyPacketEncodedLen properties)
    (writeReasonCodeOnlyPacket reasonCode properties) buf

theorem encodeToVec_reasonCodeOnlyPacket {packetType flags reasonCode : UInt8} {properties : Properties}
    {checks : Except EncodeError Unit} {written : List UInt8} :
    encodeToVec (reasonCodeOnlyPacketEncodedLen properties) (fun buf => do
      let _ ← .ofExcept checks
      encodeReasonCodeOnlyPacket packetType flags reasonCode properties buf) = .ok written ↔
      checks = .ok () ∧ Framed (packetType ||| flags) (writeReasonCodeOnlyPacket reasonCode properties) written :=
  encodeToVec_eq_ok fun _ => (Announces.refl 1).add properties.encodedLen_announces

def readReasonCodeOnlyPacket (remainingLen : Nat) : ByteReader DecodeError (UInt8 × Properties) := do
  let (reasonCode, properties) ← readReasonCodeUnless (remainingLen = 0) 0x00
  endOfPacket
  return (reasonCode, properties)

structure Disconnect where
  reasonCode : DisconnectReasonCode
  properties : Properties
  deriving DecidableEq

namespace Disconnect

def packetType : UInt8 := 0xE0

def flags : UInt8 := 0

def encodedLen (packet : Disconnect) : Nat := reasonCodeOnlyPacketEncodedLen packet.properties

def validate (packet : Disconnect) : Except EncodeError Unit := do
  refuseIf (!packet.reasonCode.isSentByClient) .invalidReasonCode
  validateProperties (Properties.validateForDisconnectWithDirection .clientToServer) false packet.properties

def encode (packet : Disconnect) (buf : List UInt8) : Outcome EncodeError (List UInt8 × Nat) := do
  let _ ← .ofExcept packet.validate
  encodeReasonCodeOnlyPacket packetType flags (ByteCode.asU8 packet.reasonCode) packet.properties buf

def readBody (remainingLen : Nat) : ByteReader DecodeError Disconnect := do
  let (reasonCode, properties) ← readReasonCodeOnlyPacket remainingLen
  let reasonCode ← .okOr (ByteCode.fromU8 reasonCode) .malformedPacket
  malformedIf !DisconnectReasonCode.isSentByServer reasonCode
  .ofExcept (properties.validateForDisconnectWithDirection .serverToClient)
  return { reasonCode, properties }

def decode (buf : List UInt8) : Outcome DecodeError (Disconnect × Nat) :=
  decodeFrame (expectHeader packetType flags) (fun _ => readBody) buf

def layout (packet : Disconnect) : Layout where
  first := packetType ||| flags
  body := writeReasonCodeOnlyPacket (ByteCode.asU8 packet.reasonCode) packet.properties
  Sendable := packet.validate = .ok ()
  Accepted := packet.reasonCode.isSentByServer = true ∧
    validateProperties (Properties.validateForDisconnectWithDirection .serverToClient) false packet.properties = .ok ()
  Short content := packet.reasonCode.isSentByServer = true ∧ packet.properties = .new ∧
    (packet.reasonCode = .normalDisconnection ∧ content = [] ∨ content = [ByteCode.asU8 packet.reasonCode])
  short_small {content} short := by
    have length : content.length ≤ 1 := by
      obtain ⟨_, _, ⟨_, rfl⟩ | rfl⟩ := short
      · exact Nat.le_succ 0
      · exact Nat.le_refl 1
    exact VariableByteInteger.few_le_max (Nat.le_trans length (by decide))

variable {packet : Disconnect} {content rest : List UInt8}

/-- Behind a reason code with properties, or with neither of them where the remaining length allows it, the body ends. -/
theorem reads_readReasonCodeOnlyPacket {reasonCode : DisconnectReasonCode} {properties : Properties} :
    (readReasonCodeOnlyPacket content.length).Reads content (ByteCode.asU8 reasonCode, properties) rest ↔
      (properties.validateDuplicateIdentifiers false = .ok () ∧
          (writeReasonCodeOnlyPacket (ByteCode.asU8 reasonCode) properties).Writes content ∨
        properties = .new ∧
          (reasonCode = .normalDisconnection ∧ content = [] ∨ content = [ByteCode.asU8 reasonCode])) ∧ rest = [] := by
  simp only [readReasonCodeOnlyPacket, ByteReader.reads_bind, reads_endOfPacket, ByteReader.reads_pure, Prod.exists, Prod.mk.injEq,
    writeReasonCodeOnlyPacket, ByteWriter.writes_append, ByteWriter.writes_byte]
  have normal : (0x00 : UInt8) = ByteCode.asU8 DisconnectReasonCode.normalDisconnection := rfl
  constructor
  · intro read
    obtain ⟨_, _, _, read, _, _, ⟨rfl, rfl⟩, ⟨rfl, rfl⟩, rfl⟩ := read
    refine ⟨?_, rfl⟩
    rw [readReasonCodeUnless] at read
    split at read
    · obtain ⟨same, rfl⟩ := ByteReader.reads_pure.mp read
      obtain ⟨sameCode, rfl⟩ := Prod.mk.inj same
      exact .inr ⟨rfl, .inl ⟨ByteCode.asU8_injective (sameCode.symm.trans normal), rfl⟩⟩
    · rcases reads_readReasonCode.mp read with ⟨distinct, front, writes, rfl⟩ | ⟨rfl, rfl, _⟩
      · exact .inl ⟨distinct, _, _, rfl, writes, by rw [List.append_nil]; rfl⟩
      · exact .inr ⟨rfl, .inr rfl⟩
  · intro written
    obtain ⟨written, rfl⟩ := written
    refine ⟨_, _, [], ?_, (), [], ⟨rfl, rfl⟩, ⟨rfl, rfl⟩, rfl⟩
    rcases written with ⟨distinct, _, front, rfl, writes, rfl⟩ | ⟨rfl, ⟨rfl, rfl⟩ | rfl⟩
    · rw [readReasonCodeUnless, if_neg (by simp)]
      exact reads_readReasonCode.mpr (.inl ⟨distinct, front, writes, by rw [List.append_nil]; rfl⟩)
    · rw [readReasonCodeUnless, if_pos (by rfl)]
      exact ByteReader.reads_pure.mpr ⟨rfl, rfl⟩
    · rw [readReasonCodeUnless, if_neg (by simp)]
      exact reads_readReasonCode.mpr (.inr ⟨rfl, rfl, rfl⟩)

theorem reads_readBody : (readBody content.length).Reads content packet rest ↔
    (packet.layout.Accepted ∧ packet.layout.body.Writes content ∨ packet.layout.Short content) ∧ rest = [] := by
  obtain ⟨reasonCode, properties⟩ := packet
  have noneAllowed : Properties.validateForDisconnectWithDirection .serverToClient .new = .ok () := rfl
  simp only [readBody, ByteReader.reads_bind, ByteReader.reads_okOr, ByteCode.fromU8_eq_some, reads_malformedIf,
    ByteReader.reads_ofExcept, ByteReader.reads_pure, Prod.exists, mk.injEq, layout, validateProperties_eq_ok, Bool.not_eq_false']
  constructor
  · intro read
    obtain ⟨_, _, _, read, code, _, ⟨rfl, rfl⟩, _, _, ⟨sent, rfl⟩, _, _, ⟨valid, rfl⟩, ⟨rfl, rfl⟩, rfl⟩ := read
    obtain ⟨⟨distinct, writes⟩ | ⟨rfl, short⟩, rfl⟩ := reads_readReasonCodeOnlyPacket.mp read
    · exact ⟨.inl ⟨⟨sent, valid, distinct⟩, writes⟩, rfl⟩
    · exact ⟨.inr ⟨sent, rfl, short⟩, rfl⟩
  · intro written
    obtain ⟨written, rfl⟩ := written
    suffices shape : reasonCode.isSentByServer = true ∧ properties.validateForDisconnectWithDirection .serverToClient = .ok () ∧
        (readReasonCodeOnlyPacket content.length).Reads content (ByteCode.asU8 reasonCode, properties) [] by
      obtain ⟨sent, valid, read⟩ := shape
      exact ⟨_, _, _, read, reasonCode, _, ⟨rfl, rfl⟩, (), _, ⟨sent, rfl⟩, (), _, ⟨valid, rfl⟩, ⟨rfl, rfl⟩, rfl⟩
    rcases written with ⟨⟨sent, valid, distinct⟩, writes⟩ | ⟨sent, rfl, short⟩
    · exact ⟨sent, valid, reads_readReasonCodeOnlyPacket.mpr ⟨.inl ⟨distinct, writes⟩, rfl⟩⟩
    · exact ⟨sent, noneAllowed, reads_readReasonCodeOnlyPacket.mpr ⟨.inr ⟨rfl, short⟩, rfl⟩⟩

theorem conforms : Conforms packetType layout decode encodedLen encode :=
  .expecting (by decide) (by decide) (fun _ => rfl) (fun _ => reads_readBody) fun _ => encodeToVec_reasonCodeOnlyPacket

end Disconnect

structure Auth where
  reasonCode : AuthReasonCode
  properties : Properties
  deriving DecidableEq

namespace Auth

def packetType : UInt8 := 0xF0

def flags : UInt8 := 0

def encodedLen (packet : Auth) : Nat := reasonCodeOnlyPacketEncodedLen packet.properties

def validate (packet : Auth) : Except EncodeError Unit := do
  refuseIf (!packet.reasonCode.isSentByClient) .invalidReasonCode
  validateProperties Properties.validateForAuth false packet.properties

def encode (packet : Auth) (buf : List UInt8) : Outcome EncodeError (List UInt8 × Nat) := do
  let _ ← .ofExcept packet.validate
  encodeReasonCodeOnlyPacket packetType flags (ByteCode.asU8 packet.reasonCode) packet.properties buf

/-- The part behind a Remaining Length above zero. -/
def readFrom (value : UInt8) : ByteReader DecodeError Auth := do
  let reasonCode ← .okOr (ByteCode.fromU8 value) .malformedPacket
  malformedIf !AuthReasonCode.isSentByServer reasonCode
  let ended ← .atEnd
  let properties ← readPropertiesUnless ended
  endOfPacket
  .ofExcept properties.validateForAuth
  return { reasonCode, properties }

def readBody : ByteReader DecodeError Auth := do
  let value ← .byteUnlessEnd
  match value with
  | none => return { reasonCode := .success, properties := .new }
  | some value => readFrom value

def decode (buf : List UInt8) : Outcome DecodeError (Auth × Nat) :=
  decodeFrame (expectHeader packetType flags) (fun _ _ => readBody) buf

def layout (packet : Auth) : Layout where
  first := packetType ||| flags
  body := writeReasonCodeOnlyPacket (ByteCode.asU8 packet.reasonCode) packet.properties
  Sendable := packet.validate = .ok ()
  Accepted := packet.reasonCode.isSentByServer = true ∧
    validateProperties Properties.validateForAuth false packet.properties = .ok ()
  Short content := packet.reasonCode = .success ∧ packet.properties = .new ∧ content = []
  short_small {content} short := by
    rw [short.2.2]
    exact Nat.zero_le _

variable {packet : Auth} {content rest : List UInt8}

theorem reads_readFrom {value : UInt8} {bytes : List UInt8} : (readFrom value).Reads bytes packet rest ↔
    packet.layout.Accepted ∧ packet.layout.body.Writes (value :: bytes) ∧ rest = [] := by
  obtain ⟨reasonCode, properties⟩ := packet
  simp only [readFrom, readPropertiesUnless, ByteReader.reads_bind, ByteReader.reads_okOr, ByteCode.fromU8_eq_some, reads_malformedIf,
    ByteReader.reads_atEnd, reads_endOfPacket, ByteReader.reads_ofExcept, ByteReader.reads_pure, mk.injEq, layout,
    validateProperties_eq_ok, Bool.not_eq_false', writeReasonCodeOnlyPacket, ByteWriter.writes_append, ByteWriter.writes_byte]
  constructor
  · intro read
    obtain ⟨_, _, ⟨rfl, rfl⟩, _, _, ⟨sent, rfl⟩, ended, _, ⟨isEnded, rfl⟩, _, _, read, _, _, ⟨rfl, rfl⟩, _, _, ⟨valid, rfl⟩,
      ⟨rfl, rfl⟩, rfl⟩ := read
    cases ended with
    | true =>
      -- A reason code without properties lacks the authentication method.
      obtain ⟨rfl, _⟩ := ByteReader.reads_pure.mp read
      cases valid
    | false =>
      obtain ⟨distinct, front, writes, rfl⟩ := reads_readProperties.mp read
      exact ⟨⟨sent, valid, distinct⟩, ⟨_, _, rfl, writes, by rw [List.append_nil]; rfl⟩, rfl⟩
  · intro written
    obtain ⟨⟨sent, valid, distinct⟩, ⟨_, front, rfl, writes, same⟩, rfl⟩ := written
    obtain ⟨rfl, rfl⟩ := List.cons.inj same
    have nonempty := List.isEmpty_eq_false_iff.mpr (Properties.writes_ne_nil writes)
    exact ⟨reasonCode, _, ⟨rfl, rfl⟩, (), _, ⟨sent, rfl⟩, false, _, ⟨nonempty, rfl⟩, properties, [],
      reads_readProperties.mpr ⟨distinct, _, writes, (List.append_nil _).symm⟩, (), _, ⟨rfl, rfl⟩, (), _, ⟨valid, rfl⟩,
      ⟨rfl, rfl⟩, rfl⟩

theorem reads_readBody : readBody.Reads content packet rest ↔
    (packet.layout.Accepted ∧ packet.layout.body.Writes content ∨ packet.layout.Short content) ∧ rest = [] := by
  simp only [readBody, ByteReader.reads_bind, ByteReader.reads_byteUnlessEnd]
  constructor
  · intro read
    obtain ⟨_, _, ⟨rfl, rfl, rfl⟩ | ⟨first, rfl, rfl⟩, read⟩ := read
    · obtain ⟨rfl, rfl⟩ := ByteReader.reads_pure.mp read
      exact ⟨.inr ⟨rfl, rfl, rfl⟩, rfl⟩
    · obtain ⟨accepted, writes, rfl⟩ := reads_readFrom.mp read
      exact ⟨.inl ⟨accepted, writes⟩, rfl⟩
  · intro written
    obtain ⟨⟨accepted, writes⟩ | ⟨success, empty, rfl⟩, rfl⟩ := written
    · have whole : ∃ tail, content = ByteCode.asU8 packet.reasonCode :: tail := by
        obtain ⟨_, tail, first, _, rfl⟩ := ByteWriter.writes_append.mp writes
        exact ⟨tail, by rw [ByteWriter.writes_byte.mp first]; rfl⟩
      obtain ⟨tail, rfl⟩ := whole
      exact ⟨some _, tail, .inr ⟨_, rfl, rfl⟩, reads_readFrom.mpr ⟨accepted, writes, rfl⟩⟩
    · refine ⟨none, [], .inl ⟨rfl, rfl, rfl⟩, ByteReader.reads_pure.mpr ⟨?_, rfl⟩⟩
      rw [← success, ← empty]

theorem conforms : Conforms packetType layout decode encodedLen encode :=
  @Conforms.expecting Auth packetType layout encodedLen encode flags (fun _ => readBody) (by decide) (by decide)
    (fun _ => rfl) (fun _ => reads_readBody) fun _ => encodeToVec_reasonCodeOnlyPacket

end Auth

end MqttRs.V5
