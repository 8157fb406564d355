import MqttRs.Codec.FlagBytes
import MqttRs.Codec.Fields
import MqttRs.Codec.TopicFilter

namespace MqttRs.V311

structure Will where
  topic : String
  payload : List UInt8
  qos : QoS
  retain : Bool
  deriving DecidableEq

structure Connect where
  clientId : String
  cleanSession : Bool
  keepAlive : UInt16
  will : Option Will
  username : Option String
  password : Option (List UInt8)
  deriving DecidableEq

namespace Connect

def packetType : UInt8 := 0x10

def encodedLen (packet : Connect) : Nat :=
  let len := 2 + 4 + 1 + 1 + 2
  let len := Usize.saturatingAdd (Usize.saturatingAdd len 2) (asBytes packet.clientId).length
  let len :=
    match packet.will with
    | some will =>
      let len := Usize.saturatingAdd (Usize.saturatingAdd len 2) (asBytes will.topic).length
      Usize.saturatingAdd (Usize.saturatingAdd len 2) will.payload.length
    | none => len
  let len :=
    match packet.username with
    | some username => Usize.saturatingAdd (Usize.saturatingAdd len 2) (asBytes username).length
    | none => len
  match packet.password with
  | some password => Usize.saturatingAdd (Usize.saturatingAdd len 2) password.length
  | none => len

def validateWill : Option Will → Except EncodeError Unit
  | some will => do
    refuseIf will.topic.isEmpty .emptyTopicName
    refuseIf (containsWildcard will.topic) .wildcardInTopicName
  | none => .ok ()

def validate (packet : Connect) : Except EncodeError Unit := do
  refuseIf (packet.password.isSome && packet.username.isNone) .passwordWithoutUsername
  refuseIf (packet.clientId.isEmpty && !packet.cleanSession) .emptyClientIdWithoutCleanSession
  validateWill packet.will

def flags (packet : Connect) : UInt8 :=
  connectFlags packet.cleanSession (packet.will.map fun will => (will.qos, will.retain)) packet.password.isSome
    packet.username.isSome

def writeWill (will : Will) : ByteWriter EncodeError := writeString will.topic ++ writeBinary will.payload

def writeBody (packet : Connect) : ByteWriter EncodeError :=
  writeString "MQTT" ++ .byte 0x04 ++ .byte packet.flags ++ writeU16 packet.keepAlive ++ writeString packet.clientId ++
    .ifSome writeWill packet.will ++ .ifSome writeString packet.username ++ .ifSome writeBinary packet.password

def encode (packet : Connect) (buf : List UInt8) : Outcome EncodeError (List UInt8 × Nat) := do
  let _ ← .ofExcept packet.validate
  encodeFrame packetType packet.encodedLen packet.writeBody buf

def readWill (flags : UInt8) : ByteReader DecodeError (Option Will) :=
  if flags &&& 0x04 ≠ 0 then do
    let topic ← readString
    malformedIf (containsWildcard topic)
    malformedIf topic.isEmpty
    let payload ← readBinary
    let qos ← .okOr (ByteCode.fromU8 ((flags >>> 3) &&& 0x03)) .malformedPacket
    return some { topic, payload, qos, retain := flags &&& 0x20 ≠ 0 }
  else return none

def readBody : ByteReader DecodeError Connect := do
  let protocolName ← readString
  malformedIf (protocolName ≠ "MQTT")
  let level ← readByte
  malformedIf (level ≠ 0x04)
  let flags ← readByte
  let keepAlive ← readU16
  let clientId ← readString
  malformedIf (flags &&& 0x01 ≠ 0)
  let will ← readWill flags
  let username ← readIf (flags &&& 0x80 ≠ 0) readString
  let password ← readIf (flags &&& 0x40 ≠ 0) readBinary
  malformedIf (password.isSome && username.isNone)
  malformedIf (will.isNone && flags &&& 0x38 ≠ 0)
  malformedIf (clientId.isEmpty && flags &&& 0x02 = 0)
  endOfPacket
  return { clientId, cleanSession := flags &&& 0x02 ≠ 0, keepAlive, will, username, password }

def decode (buf : List UInt8) : Outcome DecodeError (Connect × Nat) :=
  decodeFrame (expectHeader packetType 0) (fun _ _ => readBody) buf

theorem encodedLen_announces (packet : Connect) : Announces packet.encodedLen packet.writeBody.size := by
  obtain ⟨clientId, _, _, will, username, password⟩ := packet
  have protocolName : (asBytes "MQTT").length = 4 := rfl
  cases will <;> cases username <;> cases password <;>
    simp only [encodedLen, Usize.saturatingAdd_assoc] <;>
    apply Announces.of_sum <;>
    simp only [writeBody, writeWill, ByteWriter.ifSome, ByteWriter.size_append, ByteWriter.size_byte, ByteWriter.size_nothing,
      size_writeString, size_writeBinary, size_writeU16, protocolName] <;>
    omega

theorem reads_readWill {flags : UInt8} {bytes rest : List UInt8} {will : Option Will} :
    (readWill flags).Reads bytes will rest ↔
      (match will with
        | none => flags &&& 0x04 = 0
        | some will => WillFlags flags (some (will.qos, will.retain))) ∧
      validateWill will = .ok () ∧ ∃ front, (ByteWriter.ifSome writeWill will).Writes front ∧ bytes = front ++ rest := by
  cases will with
  | none =>
    by_cases present : flags &&& 0x04 = 0 <;> simp [readWill, validateWill, ByteWriter.ifSome, present]
  | some will =>
    obtain ⟨topic, payload, qos, retain⟩ := will
    have retainBit : decide (flags &&& 0x20 = 0) = !retain ↔ retain = !decide (flags &&& 0x20 = 0) := by
      cases retain <;> simp
    by_cases present : flags &&& 0x04 = 0 <;>
      simp [readWill, validateWill, ByteWriter.ifSome, writeWill, present, WillFlags, bind_eq_ok, retainBit]
    tauto

theorem reads_readBody {content rest : List UInt8} {packet : Connect} :
    readBody.Reads content packet rest ↔ packet.validate = .ok () ∧ packet.writeBody.Writes content ∧ rest = [] := by
  simp only [readBody, ne_eq, decide_not, ByteReader.reads_bind, reads_readString, reads_malformedIf,
    Bool.not_eq_eq_eq_not, Bool.not_false, decide_eq_true_eq, reads_readByte, reads_readU16, reads_readWill,
    reads_readIf readString_inverts, Option.mem_def, implies_true, true_and, reads_readIf readBinary_inverts,
    Bool.and_eq_false_imp, Option.isNone_eq_false_iff, Option.isNone_iff_eq_none, String.isEmpty_iff,
    decide_eq_false_iff_not, reads_endOfPacket, ByteReader.reads_pure, exists_eq_right_right, exists_const,
    ↓existsAndEq, and_true, List.append_nil, exists_eq_right', validate, bind_eq_ok, refuseIf_eq_ok, writeBody,
    ByteWriter.writes_append, writes_writeString, ByteWriter.writes_byte, exists_and_left, List.append_assoc,
    List.cons_append, List.nil_append, writes_writeU16]
  constructor
  · intro read
    obtain ⟨flags, keepAlive, clientId, will, username, passwordBytes, usernameBytes, willBytes, ⟨mqtt, rfl⟩,
      encodable, reserved, ⟨willBits, willValid, willWrites⟩, ⟨usernameBit, usernameWrites⟩, password,
      ⟨passwordBit, passwordWrites⟩, needsUsername, noWillBits, needsClean, rfl, rfl⟩ := read
    have same : flags = connectFlags (!decide (flags &&& 0x02 = 0)) (will.map fun will => (will.qos, will.retain))
        password.isSome username.isSome := by
      refine (eq_connectFlags_iff _ _ _ _ _).mpr ⟨reserved, by simp, ?_, by simpa using passwordBit, by simpa using usernameBit⟩
      cases will with
      | none => exact ⟨willBits, noWillBits rfl⟩
      | some will => exact willBits
    refine ⟨⟨needsUsername, by simpa using needsClean, willValid⟩, ⟨willBytes, usernameBytes,
      ⟨⟨⟨mqtt, encodable⟩, willWrites⟩, usernameWrites⟩, passwordBytes, passwordWrites, ?_⟩, rfl⟩
    rw [Connect.flags, ← same]
  · intro written
    obtain ⟨⟨needsUsername, needsClean, willValid⟩, ⟨willBytes, usernameBytes, ⟨⟨⟨mqtt, encodable⟩, willWrites⟩,
      usernameWrites⟩, passwordBytes, passwordWrites, rfl⟩, rfl⟩ := written
    obtain ⟨reserved, cleanBit, willBits, passwordBit, usernameBit⟩ :=
      (eq_connectFlags_iff packet.flags _ _ _ _).mp rfl
    generalize packet.flags = flags at reserved cleanBit willBits passwordBit usernameBit ⊢
    obtain ⟨clientId, cleanSession, keepAlive, will, username, password⟩ := packet
    refine ⟨flags, keepAlive, clientId, will, username, passwordBytes, usernameBytes, willBytes, ⟨mqtt, rfl⟩, encodable,
      reserved, ⟨?_, willValid, willWrites⟩, ⟨by simpa using usernameBit, usernameWrites⟩, password,
      ⟨by simpa using passwordBit, passwordWrites⟩, needsUsername, ?_, ?_, rfl, ?_⟩
    · cases will with
      | none => exact willBits.1
      | some will => exact willBits
    · intro none
      subst none
      exact willBits.2
    · intro empty
      have clean := cleanBit.symm.trans (needsClean empty)
      simpa using clean
    · simp only [show cleanSession = decide (flags &&& 0x02 ≠ 0) from cleanBit]
      simp

theorem encodeToVec_eq_ok {packet : Connect} {written : List UInt8} :
    encodeToVec packet.encodedLen packet.encode = .ok written ↔
      packet.validate = .ok () ∧ Framed packetType packet.writeBody written :=
  MqttRs.encodeToVec_eq_ok fun _ => packet.encodedLen_announces

theorem decode_eq_ok {packet : Connect} {buf : List UInt8} {n : Nat} :
    decode buf = .ok (packet, n) ↔
      packet.validate = .ok () ∧ n ≤ buf.length ∧ Framed packetType packet.writeBody (buf.take n) :=
  decodeFrame_expect_iff (by decide) (by decide) reads_readBody

def layout (packet : Connect) : Layout := .exactly packetType packet.writeBody packet.validate

theorem conforms : Conforms packetType layout decode encodedLen encode :=
  .exactly (fun _ => rfl) (decodeFrame_returns _ _) decode_eq_ok encodeToVec_eq_ok

end Connect

end MqttRs.V311
