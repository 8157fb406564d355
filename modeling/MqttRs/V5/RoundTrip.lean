import MqttRs.V5.Packet

/-! What the encoder writes, the decoder reads, unless only a client may send it. -/

namespace MqttRs.V5

namespace Disconnect

/-- A client sends it and a server may not. -/
def ClientOnly (packet : Disconnect) : Prop :=
  packet.reasonCode = .disconnectWithWillMessage ∨ ∃ interval, .sessionExpiryInterval interval ∈ packet.properties.properties

variable {packet : Disconnect} {content written : List UInt8}

theorem hasSessionExpiry_iff : packet.properties.hasIdentifier 0x11 = true ↔
    ∃ interval, .sessionExpiryInterval interval ∈ packet.properties.properties := by
  simp only [Properties.hasIdentifier_iff, Property.identifier_eq_sessionExpiryInterval]
  constructor
  · intro given
    obtain ⟨property, member, interval, rfl⟩ := given
    exact ⟨interval, member⟩
  · intro given
    obtain ⟨interval, member⟩ := given
    exact ⟨_, member, interval, rfl⟩

theorem isSentByServer_iff {reasonCode : DisconnectReasonCode} :
    reasonCode.isSentByServer = true ↔ reasonCode ≠ .disconnectWithWillMessage := by
  cases reasonCode <;> simp [DisconnectReasonCode.isSentByServer]

theorem validate_eq_ok : packet.validate = .ok () ↔
    packet.reasonCode.isSentByClient = true ∧ packet.properties.validateForDisconnect = .ok () ∧
      packet.properties.validateDuplicateIdentifiers false = .ok () := by
  simp [validate, bind_eq_ok, Properties.validateForDisconnectWithDirection_eq_ok]

theorem accepted_of_sendable (valid : packet.validate = .ok ()) (both : ¬packet.ClientOnly) : packet.layout.Accepted := by
  obtain ⟨_, allowed, distinct⟩ := validate_eq_ok.mp valid
  have noExpiry : packet.properties.hasIdentifier 0x11 = false := by
    rw [← Bool.not_eq_true, hasSessionExpiry_iff]
    exact fun given => both (.inr given)
  refine ⟨isSentByServer_iff.mpr fun given => both (.inl given), validateProperties_eq_ok.mpr ⟨?_, distinct⟩⟩
  exact Properties.validateForDisconnectWithDirection_eq_ok.mpr ⟨allowed, noExpiry⟩

theorem refuses_readBody (valid : packet.validate = .ok ()) (clientOnly : packet.ClientOnly)
    (writes : packet.layout.body.Writes content) : (readBody content.length).Refuses content .malformedPacket := by
  obtain ⟨_, allowed, distinct⟩ := validate_eq_ok.mp valid
  have fields := reads_readReasonCodeOnlyPacket.mpr ⟨.inl ⟨distinct, writes⟩, rfl⟩
  have known : (ByteReader.okOr (ByteCode.fromU8 (ByteCode.asU8 packet.reasonCode)) DecodeError.malformedPacket).Reads []
      packet.reasonCode [] := ByteReader.reads_okOr.mpr ⟨(ByteCode.fromU8_eq_some ..).mpr rfl, rfl⟩
  refine .after fields (.after known ?_)
  by_cases sent : packet.reasonCode.isSentByServer = true
  · have expiry : packet.properties.hasIdentifier 0x11 = true :=
      hasSessionExpiry_iff.mpr (clientOnly.resolve_left (isSentByServer_iff.mp sent))
    have refused : packet.properties.validateForDisconnectWithDirection .serverToClient = .error .malformedPacket := by
      rw [Properties.validateForDisconnectWithDirection, allowed, expiry]
      rfl
    have passed : (malformedIf !packet.reasonCode.isSentByServer).Reads [] () [] := by
      rw [sent]
      rfl
    refine .after passed (.first ?_)
    rw [refused]
    rfl
  · refine .first ?_
    rw [Bool.not_eq_true] at sent
    rw [sent]
    rfl

theorem decode_refused (encodes : packet.layout.Encodes written) (clientOnly : packet.ClientOnly) (tail : List UInt8) :
    decode (written ++ tail) = .error .malformedPacket := by
  obtain ⟨valid, content, writes, small, rfl⟩ := encodes
  exact @decodeFrame_refused _ _ _ _ () (fun _ => readBody) _ _ ((expectHeader_iff (by decide) (by decide)).mpr rfl) small
    (refuses_readBody valid clientOnly writes) tail

end Disconnect

namespace Auth

/-- A client sends it and a server may not. -/
def ClientOnly (packet : Auth) : Prop := packet.reasonCode = .reAuthenticate

variable {packet : Auth} {content written : List UInt8}

theorem accepted_of_sendable (valid : packet.validate = .ok ()) (both : ¬packet.ClientOnly) : packet.layout.Accepted := by
  obtain ⟨_, sent, allowed⟩ := bind_eq_ok.mp valid
  refine ⟨?_, allowed⟩
  have others : packet.reasonCode ≠ .reAuthenticate := both
  revert others
  cases packet.reasonCode <;> decide

theorem refuses_readBody (clientOnly : packet.ClientOnly) (writes : packet.layout.body.Writes content) :
    readBody.Refuses content .malformedPacket := by
  obtain ⟨_, tail, first, _, rfl⟩ := ByteWriter.writes_append.mp writes
  obtain rfl := ByteWriter.writes_byte.mp first
  rw [show packet.reasonCode = .reAuthenticate from clientOnly]
  rfl

theorem decode_refused (encodes : packet.layout.Encodes written) (clientOnly : packet.ClientOnly) (tail : List UInt8) :
    decode (written ++ tail) = .error .malformedPacket := by
  obtain ⟨_, content, writes, small, rfl⟩ := encodes
  exact @decodeFrame_refused _ _ _ _ () (fun _ _ => readBody) _ _ ((expectHeader_iff (by decide) (by decide)).mpr rfl) small
    (refuses_readBody clientOnly writes) tail

end Auth

namespace Packet

/-- Not for a client to receive: DISCONNECT with reason code 0x04 or a session expiry interval, AUTH with 0x19. -/
def ClientOnly : Packet → Prop
  | disconnect packet => packet.ClientOnly
  | auth packet => packet.ClientOnly
  | _ => False

variable {packet : Packet} {written : List UInt8}

theorem accepted_of_sendable (sendable : packet.layout.Sendable) (both : ¬packet.ClientOnly) : packet.layout.Accepted := by
  cases packet with
  | connect packet => exact (Connect.validate_eq_ok.mp sendable).1
  | publish packet => exact (Publish.validate_eq_ok.mp sendable).1
  | disconnect packet => exact Disconnect.accepted_of_sendable sendable both
  | auth packet => exact Auth.accepted_of_sendable sendable both
  | pubAck packet =>
    obtain ⟨nonzero, _, allowed⟩ := PubAck.validate_eq_ok.mp sendable
    exact ⟨nonzero, allowed⟩
  | pubRec packet =>
    obtain ⟨nonzero, _, allowed⟩ := PubRec.validate_eq_ok.mp sendable
    exact ⟨nonzero, allowed⟩
  | pubRel packet => exact PubRel.validate_eq_ok.mp sendable
  | pubComp packet => exact PubComp.validate_eq_ok.mp sendable
  | connAck _ | subscribe _ | subAck _ | unsubscribe _ | unsubAck _ | pingReq _ | pingResp _ => exact sendable

theorem decode_encodeToVec (packet : Packet) (written tail : List UInt8) (encoded : packet.encodeToVec = .ok written) :
    (¬packet.ClientOnly → decode (written ++ tail) = .ok (packet, written.length)) ∧
      (packet.ClientOnly → decode (written ++ tail) = .error .malformedPacket) := by
  have encodes := encodeToVec_eq_ok.mp encoded
  constructor
  · intro both
    obtain ⟨inside, taken⟩ := take_eq_iff.mpr ⟨rfl, tail, (rfl : written ++ tail = written ++ tail)⟩
    rw [decode_eq_ok, taken]
    exact ⟨inside, .inl ⟨accepted_of_sendable encodes.1 both, encodes.2⟩⟩
  · intro clientOnly
    cases packet with
    | disconnect packet =>
      have ofType := encodes.ofType tail (Disconnect.conforms.high packet)
      exact dispatch_refused ofType rfl (Disconnect.decode_refused encodes clientOnly tail)
    | auth packet =>
      have ofType := encodes.ofType tail (Auth.conforms.high packet)
      exact dispatch_refused ofType rfl (Auth.decode_refused encodes clientOnly tail)
    | connect _ | connAck _ | publish _ | pubAck _ | pubRec _ | pubRel _ | pubComp _ | subscribe _ | subAck _
    | unsubscribe _ | unsubAck _ | pingReq _ | pingResp _ => exact clientOnly.elim

theorem sent_packets_decode :
    decode ([0x33, 20, 0, 3, 97, 47, 98, 0, 7, 10, 0x23, 0, 3, 0x26, 0, 1, 107, 0, 1, 118, 1, 2] ++ [0xC0, 0]) =
        .ok (.publish {
          dup := false, qos := .atLeastOnce, retain := true, topic := "a/b", packetId := some 7,
          properties := ⟨[.topicAlias 3, .userProperty "k" "v"]⟩, payload := [1, 2] }, 22) ∧
      decode ([0xE0, 7, 4, 5, 0x11, 0, 0, 0, 5] ++ [0xC0, 0]) = .error .malformedPacket := by
  constructor
  · exact (decode_encodeToVec (.publish _) _ _ (by decide)).1 id
  · have encoded : (disconnect ⟨.disconnectWithWillMessage, ⟨[.sessionExpiryInterval 5]⟩⟩).encodeToVec =
        .ok [0xE0, 7, 4, 5, 0x11, 0, 0, 0, 5] := by decide
    exact (decode_encodeToVec _ _ _ encoded).2 (.inl rfl)

end Packet

end MqttRs.V5
