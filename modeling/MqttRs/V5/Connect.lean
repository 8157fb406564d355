import MqttRs.Codec.FlagBytes
import MqttRs.V5.Properties

namespace MqttRs.V5

structure Will where
  topic : String
  payload : List UInt8
  qos : QoS
  retain : Bool
  properties : Properties
  deriving DecidableEq

namespace Will

def validateTopic (will : Will) : Except EncodeError Unit := do
  refuseIf will.topic.isEmpty .emptyTopicName
  refuseIf (containsWildcard will.topic) .wildcardInTopicName

def validateProperties (will : Will) : Except EncodeError Unit :=
  V5.validateProperties Properties.validateForWill false will.properties

def write (will : Will) : ByteWriter EncodeError :=
  writeProperties will.properties ++ writeString will.topic ++ writeBinary will.payload

def read (flags : UInt8) : ByteReader DecodeError Will := do
  let properties ← readProperties false
  .ofExcept properties.validateForWill
  let topic ← readString
  malformedIf (containsWildcard topic)
  malformedIf topic.isEmpty
  let payload ← readBinary
  let qos ← .okOr (ByteCode.fromU8 ((flags >>> 3) &&& 0x03)) .malformedPacket
  return { topic, payload, qos, retain := flags &&& 0x20 ≠ 0, properties }

/-- The checks that both sides make. -/
def Accepted (will : Will) : Prop := will.validateTopic = .ok () ∧ will.validateProperties = .ok ()

theorem read_inverts (flags : UInt8) : (read flags).Inverts
    (fun will => (ByteCode.fromU8 ((flags >>> 3) &&& 0x03) = some will.qos ∧ will.retain = decide (flags &&& 0x20 ≠ 0)) ∧
      will.Accepted) write := by
  intro bytes will rest
  simp only [read, write, Accepted, validateTopic, validateProperties, ByteReader.reads_bind, reads_readProperties,
    ByteReader.reads_ofExcept, reads_readString, reads_malformedIf, reads_readBinary, ByteReader.reads_okOr, ByteReader.reads_pure,
    bind_eq_ok, refuseIf_eq_ok, validateProperties_eq_ok, ByteWriter.writes_append, writes_writeString, writes_writeBinary]
  constructor
  · intro read
    obtain ⟨properties, _, ⟨distinct, front, writes, rfl⟩, _, _, ⟨allowed, rfl⟩, topic, _, ⟨encodable, rfl⟩, _, _,
      ⟨plain, rfl⟩, _, _, ⟨named, rfl⟩, payload, _, ⟨fits, rfl⟩, qos, _, ⟨known, rfl⟩, rfl, rfl⟩ := read
    refine ⟨⟨⟨known, rfl⟩, ⟨(), named, plain⟩, allowed, distinct⟩, _, ⟨_, _, ⟨front, _, writes, ⟨encodable, rfl⟩, rfl⟩,
      ⟨fits, rfl⟩, rfl⟩, ?_⟩
    simp only [List.append_assoc]
  · intro written
    obtain ⟨⟨⟨known, kept⟩, ⟨_, named, plain⟩, allowed, distinct⟩, _, ⟨_, _, ⟨front, _, writes, ⟨encodable, rfl⟩, rfl⟩,
      ⟨fits, rfl⟩, rfl⟩, rfl⟩ := written
    refine ⟨will.properties, Utf8String.bytes will.topic ++ (prefixed will.payload ++ rest), ⟨distinct, front, writes, ?_⟩,
      (), _, ⟨allowed, rfl⟩, will.topic, _, ⟨encodable, rfl⟩, (), _, ⟨plain, rfl⟩, (), _, ⟨named, rfl⟩, will.payload, rest,
      ⟨fits, rfl⟩, will.qos, rest, ⟨known, rfl⟩, ?_, rfl⟩
    · simp only [List.append_assoc]
    · rw [← kept]

theorem encodedLen_announces {announced size : Nat} (first : Announces announced size) (will : Will) :
    Announces
      (Usize.saturatingAdd (Usize.saturatingAdd (Usize.saturatingAdd (Usize.saturatingAdd
        (Usize.saturatingAdd announced will.properties.encodedLen) 2) (asBytes will.topic).length) 2) will.payload.length)
      (size + will.write.size) := by
  have whole := ((first.add will.properties.encodedLen_announces).withString will.topic).withBinary will.payload
  rwa [Nat.add_assoc, Nat.add_assoc, ← Nat.add_assoc will.properties.encoder.size] at whole

end Will

structure Connect where
  clientId : String
  cleanStart : Bool
  keepAlive : UInt16
  properties : Properties
  will : Option Will
  username : Option String
  password : Option (List UInt8)
  deriving DecidableEq

namespace Connect

def packetType : UInt8 := 0x10

def encodedLen (packet : Connect) : Nat :=
  let len := 2 + 4 + 1 + 1 + 2
  let len := Usize.saturatingAdd len packet.properties.encodedLen
  let len := Usize.saturatingAdd (Usize.saturatingAdd len 2) (asBytes packet.clientId).length
  let len :=
    match packet.will with
    | some will =>
      let len := Usize.saturatingAdd len will.properties.encodedLen
      let len := Usize.saturatingAdd (Usize.saturatingAdd len 2) (asBytes will.topic).length
      Usize.saturatingAdd (Usize.saturatingAdd len 2) will.payload.length
    | none => len
  let len :=
    match packet.username with
    | some username => Usize.saturatingAdd (Usize.saturatingAdd len 2) (asBytes username).length
    | none => len
  match packet.password with
  | some password => Usize.saturatingAdd (Usize.saturatingAdd len 2) password.length
  | none => len

def validate (packet : Connect) : Except EncodeError Unit := do
  packet.will.forM Will.validateTopic
  validateProperties Properties.validateForConnect false packet.properties
  packet.will.forM Will.validateProperties
  packet.will.forM fun will => validatePayload will.properties will.payload

def flags (packet : Connect) : UInt8 :=
  connectFlags packet.cleanStart (packet.will.map fun will => (will.qos, will.retain)) packet.password.isSome
    packet.username.isSome

def writeBody (packet : Connect) : ByteWriter EncodeError :=
  writeString "MQTT" ++ .byte 0x05 ++ .byte packet.flags ++ writeU16 packet.keepAlive ++ writeProperties packet.properties ++
    writeString packet.clientId ++ .ifSome Will.write packet.will ++ .ifSome writeString packet.username ++
    .ifSome writeBinary packet.password

def encode (packet : Connect) (buf : List UInt8) : Outcome EncodeError (List UInt8 × Nat) := do
  let _ ← .ofExcept packet.validate
  encodeFrame packetType packet.encodedLen packet.writeBody buf

def readBody : ByteReader DecodeError Connect := do
  let protocolName ← readString
  malformedIf (protocolName ≠ "MQTT")
  let level ← readByte
  malformedIf (level ≠ 0x05)
  let flags ← readByte
  let keepAlive ← readU16
  let properties ← readProperties false
  .ofExcept properties.validateForConnect
  let clientId ← readString
  let will ← readIf (flags &&& 0x04 ≠ 0) (Will.read flags)
  let username ← readIf (flags &&& 0x80 ≠ 0) readString
  let password ← readIf (flags &&& 0x40 ≠ 0) readBinary
  malformedIf (flags &&& 0x01 ≠ 0)
  malformedIf (will.isNone && flags &&& 0x38 ≠ 0)
  endOfPacket
  return { clientId, cleanStart := flags &&& 0x02 ≠ 0, keepAlive, properties, will, username, password }

def decode (buf : List UInt8) : Outcome DecodeError (Connect × Nat) :=
  decodeFrame (expectHeader packetType 0) (fun _ _ => readBody) buf

/-- The checks that both sides make. -/
structure Accepted (packet : Connect) : Prop where
  properties : validateProperties Properties.validateForConnect false packet.properties = .ok ()
  will : ∀ will ∈ packet.will, will.Accepted

variable {packet : Connect}

theorem forM_will_eq_ok {check : Will → Except EncodeError Unit} {will : Option Will} {done : Unit} :
    will.forM check = .ok done ↔ ∀ given ∈ will, check given = .ok () := by
  cases will with
  | none => exact ⟨fun _ _ member => (nomatch member), fun _ => rfl⟩
  | some given =>
    show check given = .ok done ↔ _
    simp

/-- The encoder takes what the decoder takes, where the will has no mislabelled payload. -/
theorem validate_eq_ok : packet.validate = .ok () ↔
    packet.Accepted ∧ ∀ will ∈ packet.will, ¬Mislabelled will.properties will.payload := by
  rw [validate, bind_eq_ok]
  simp only [bind_eq_ok, forM_will_eq_ok, validatePayload_eq_ok]
  constructor
  · intro valid
    obtain ⟨_, topic, _, properties, _, willProperties, payload⟩ := valid
    exact ⟨⟨properties, fun will member => ⟨topic will member, willProperties will member⟩⟩, payload⟩
  · intro valid
    obtain ⟨accepted, payload⟩ := valid
    exact ⟨(), fun will member => (accepted.will will member).1, (), accepted.properties, (),
      fun will member => (accepted.will will member).2, payload⟩

theorem encodedLen_announces (packet : Connect) : Announces packet.encodedLen packet.writeBody.size := by
  obtain ⟨clientId, cleanStart, keepAlive, properties, will, username, password⟩ := packet
  have protocol : Announces 10 ((writeString "MQTT").size + 1 + 1 + 2) := .inl rfl
  have upToClientId := (protocol.add properties.encodedLen_announces).withString clientId
  have upToWill := upToClientId.ifSome (Will.encodedLen_announces upToClientId) will
  have upToUsername := upToWill.ifSome upToWill.withString username
  have whole := upToUsername.ifSome upToUsername.withBinary password
  cases will <;> cases username <;> cases password <;> exact whole

/-- The will bits are right when the decoder's tests of them succeed. -/
theorem willFlags_iff {flags : UInt8} {will : Option Will} :
    WillFlags flags (will.map fun will => (will.qos, will.retain)) ↔
      will.isSome = !decide (flags &&& 0x04 = 0) ∧
        (∀ given, will = some given → ByteCode.fromU8 ((flags >>> 3) &&& 0x03) = some given.qos ∧
          given.retain = !decide (flags &&& 0x20 = 0)) ∧
        (will = none → flags &&& 0x38 = 0) := by
  cases will with
  | none => simp [WillFlags]
  | some given => simp [WillFlags]

theorem reads_readBody {content rest : List UInt8} :
    readBody.Reads content packet rest ↔ packet.Accepted ∧ packet.writeBody.Writes content ∧ rest = [] := by
  simp only [readBody, ne_eq, decide_not, ByteReader.reads_bind, reads_readString, reads_malformedIf,
    Bool.not_eq_eq_eq_not, Bool.not_false, decide_eq_true_eq, reads_readByte, reads_readU16, reads_readProperties,
    ByteReader.reads_ofExcept, reads_readIf (Will.read_inverts _), Option.mem_def, reads_readIf readString_inverts,
    implies_true, true_and, reads_readIf readBinary_inverts, Bool.and_eq_false_imp, Option.isNone_iff_eq_none,
    reads_endOfPacket, ByteReader.reads_pure, exists_eq_right_right, exists_const, ↓existsAndEq, and_true,
    List.append_nil, exists_eq_right', exists_and_right, writeBody, ByteWriter.writes_append, writes_writeString,
    ByteWriter.writes_byte, exists_and_left, List.append_assoc, List.cons_append, List.nil_append, writes_writeU16]
  constructor
  · intro read
    obtain ⟨flags, keepAlive, properties, clientId, will, username, passwordBytes, usernameBytes, willBytes, propertyBytes,
      ⟨mqtt, rfl⟩, ⟨distinct, propertyWrites⟩, ⟨_, allowed⟩, encodable, ⟨willBit, willGiven, willWrites⟩,
      ⟨usernameBit, usernameWrites⟩, password, ⟨passwordBit, passwordWrites⟩, reserved, noWillBits, rfl, rfl⟩ := read
    have same : flags = connectFlags (!decide (flags &&& 0x02 = 0)) (will.map fun will => (will.qos, will.retain))
        password.isSome username.isSome := by
      have willBits := willFlags_iff.mpr ⟨willBit, fun given member => (willGiven given member).1, noWillBits⟩
      exact (eq_connectFlags_iff _ _ _ _ _).mpr ⟨reserved, by simp, willBits, by simpa using passwordBit,
        by simpa using usernameBit⟩
    refine ⟨⟨validateProperties_eq_ok.mpr ⟨allowed, distinct⟩, fun given member => (willGiven given member).2⟩,
      ⟨propertyBytes, willBytes, usernameBytes, ⟨⟨⟨⟨mqtt, propertyWrites⟩, encodable⟩, willWrites⟩, usernameWrites⟩,
        passwordBytes, passwordWrites, ?_⟩, rfl⟩
    rw [Connect.flags, ← same]
  · intro written
    obtain ⟨accepted, ⟨propertyBytes, willBytes, usernameBytes, ⟨⟨⟨⟨mqtt, propertyWrites⟩, encodable⟩, willWrites⟩,
      usernameWrites⟩, passwordBytes, passwordWrites, rfl⟩, rfl⟩ := written
    obtain ⟨allowed, distinct⟩ := validateProperties_eq_ok.mp accepted.properties
    obtain ⟨reserved, cleanBit, willBits, passwordBit, usernameBit⟩ :=
      (eq_connectFlags_iff packet.flags _ _ _ _).mp rfl
    obtain ⟨willBit, willGiven, noWillBits⟩ := willFlags_iff.mp willBits
    refine ⟨packet.flags, packet.keepAlive, packet.properties, packet.clientId, packet.will, packet.username, passwordBytes,
      usernameBytes, willBytes, propertyBytes, ⟨mqtt, rfl⟩, ⟨distinct, propertyWrites⟩, ⟨(), allowed⟩, encodable,
      ⟨willBit, fun given member => ⟨willGiven given member, accepted.will given member⟩, willWrites⟩,
      ⟨by simpa using usernameBit, usernameWrites⟩, packet.password, ⟨by simpa using passwordBit, passwordWrites⟩, reserved,
      noWillBits, rfl, ?_⟩
    have clean : (!decide (packet.flags &&& 0x02 = 0)) = packet.cleanStart := by simpa using cleanBit.symm
    rw [clean]

theorem encodeToVec_eq_ok {written : List UInt8} :
    encodeToVec packet.encodedLen packet.encode = .ok written ↔
      packet.validate = .ok () ∧ Framed packetType packet.writeBody written :=
  MqttRs.encodeToVec_eq_ok fun _ => packet.encodedLen_announces

theorem decode_eq_ok {buf : List UInt8} {n : Nat} :
    decode buf = .ok (packet, n) ↔
      packet.Accepted ∧ n ≤ buf.length ∧ Framed packetType packet.writeBody (buf.take n) :=
  decodeFrame_expect_iff (by decide) (by decide) reads_readBody

def layout (packet : Connect) : Layout := .plain packetType packet.writeBody (packet.validate = .ok ()) packet.Accepted

theorem conforms : Conforms packetType layout decode encodedLen encode :=
  .plain (fun _ => rfl) (decodeFrame_returns _ _) decode_eq_ok encodeToVec_eq_ok

end Connect

end MqttRs.V5
