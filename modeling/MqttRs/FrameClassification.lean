import MqttRs.Codec.Classification
import MqttRs.V311.Packet
import MqttRs.V5.Packet

/-! Which errors of the decoders of all packet types call for more bytes. -/

namespace MqttRs

variable {α β κ : Type}

/-- The beginnings of a packet that the encoder sends are too short for a decoder that takes its first byte. -/
theorem Layout.Encodes.waits {layout : Layout} {whole : List UInt8} {check : UInt8 → Except DecodeError κ}
    {body : κ → Nat → ByteReader DecodeError α} (encodes : layout.Encodes whole)
    (accepted : layout.Sendable → ∃ key, check layout.first = .ok key) : Waits (decodeFrame check body) whole := by
  obtain ⟨sendable, content, -, small, rfl⟩ := encodes
  obtain ⟨key, checked⟩ := accepted sendable
  exact decodeFrame_waits checked small

theorem Layout.Encodes.waits_expecting {layout : Layout} {whole : List UInt8} {packetType flags : UInt8}
    {body : Unit → Nat → ByteReader DecodeError α} (encodes : layout.Encodes whole)
    (first : layout.first = packetType ||| flags) (high : (packetType ||| flags) &&& 0xF0 = packetType)
    (low : (packetType ||| flags) &&& 0x0F = flags) : Waits (decodeFrame (expectHeader packetType flags) body) whole := by
  apply encodes.waits
  intro _
  exact ⟨(), (expectHeader_iff high low).mpr first⟩

/-- The decoder of the packet's type is the one that the first byte of the packet leads to. -/
theorem Conforms.dispatch_waits {packetType : UInt8} {layout : α → Layout}
    {decode : List UInt8 → Outcome DecodeError (α × Nat)} {encodedLen : α → Nat}
    {encode : α → List UInt8 → Outcome EncodeError (List UInt8 × Nat)} {whole : List UInt8} {tag : α → β}
    {byType : UInt8 → List UInt8 → Outcome DecodeError (β × Nat)}
    (conforms : Conforms packetType layout decode encodedLen encode) (packet : α)
    (chosen : ∀ buf, byType packetType buf = (decode buf).tagged tag) (encodes : (layout packet).Encodes whole)
    (waits : Waits decode whole) : Waits (dispatch byType) whole := by
  have ofType := encodes.ofType [] (conforms.high packet)
  rw [List.append_nil] at ofType
  exact MqttRs.dispatch_waits chosen ofType waits

namespace V5

section Fields

variable {bytes : List UInt8} {properties : Properties}

theorem Properties.parseWithOptions_ne (allow : Bool) (bytes : List UInt8) :
    parseWithOptions allow bytes ≠ .error .insufficientData := by
  have items (part : List UInt8) : ¬readProperty.Refuses part .insufficientData := by
    simp [readProperty, malformedIfInsufficient_ne]
  rw [parseWithOptions]
  split
  · exact fun same => malformedIfInsufficient_ne _ (Except.error.inj same)
  · split
    · intro wrong
      cases wrong
    · split
      · rename_i parsed
        intro wrong
        cases wrong
        obtain ⟨part, refused⟩ := ByteReader.Refuses.of_untilEndParse parsed
        exact items part refused
      · split <;> simp

@[simp] theorem refuses_readProperties {allow : Bool} : ¬(readProperties allow).Refuses bytes .insufficientData :=
  Properties.parseWithOptions_ne allow bytes

theorem Properties.validateAgainst_ne {allowed : List UInt8} :
    properties.validateAgainst allowed ≠ .error .insufficientData := by
  rw [validateAgainst]
  split <;> simp

theorem malformedAfter_ne {checks : Except DecodeError Unit} {condition : Bool}
    (first : checks ≠ .error .insufficientData) :
    (do
      checks
      if condition then .error .malformedPacket else .ok ()) ≠ Except.error DecodeError.insufficientData := by
  cases condition <;> simp [bind_eq_error, first]

theorem refuses_readReasonCodeUnless {short : Bool} {code : UInt8} :
    ¬(readReasonCodeUnless short code).Refuses bytes .insufficientData := by
  simp [readReasonCodeUnless, readReasonCode, readPropertiesUnless]

end Fields

theorem Will.refuses_read (flags : UInt8) (bytes : List UInt8) : ¬(read flags).Refuses bytes .insufficientData := by
  have allowed (properties : Properties) : properties.validateForWill ≠ .error .insufficientData :=
    Properties.validateAgainst_ne
  simp [read, allowed]

theorem Connect.settles : Settles Connect.decode := by
  apply decodeFrame_settles expectHeader_ne
  intro _ _ bytes
  have allowed (properties : Properties) : properties.validateForConnect ≠ .error .insufficientData :=
    malformedAfter_ne Properties.validateAgainst_ne
  simp [readBody, allowed, Will.refuses_read]

theorem ConnAck.settles : Settles ConnAck.decode := by
  apply decodeFrame_settles expectHeader_ne
  intro _ _ bytes
  have allowed (properties : Properties) : properties.validateForConnack ≠ .error .insufficientData :=
    Properties.validateAgainst_ne
  simp [readBody, allowed]

theorem Publish.settles : Settles Publish.decode := by
  apply decodeFrame_settles publishHeader_ne
  intro _ _ bytes
  have allowed (properties : Properties) :
      properties.validateForPublishWithDirection .serverToClient ≠ .error .insufficientData :=
    malformedAfter_ne Properties.validateAgainst_ne
  simp [readBody, allowed]

theorem ack_settles {γ : Type} [ByteCode γ] {packetType flags : UInt8} {success : γ} {allowed : List UInt8} :
    Settles (decodeFrame (expectHeader packetType flags) fun _ => readAck success (·.validateAgainst allowed)) := by
  apply decodeFrame_settles expectHeader_ne
  intro _ _ bytes
  simp [readAck, readReasonCodePacket, refuses_readReasonCodeUnless, Properties.validateAgainst_ne]

theorem Subscription.refuses_read (bytes : List UInt8) : ¬read.Refuses bytes .insufficientData := by
  simp [read]

theorem Subscribe.settles : Settles Subscribe.decode := by
  apply decodeFrame_settles expectHeader_ne
  intro _ _ bytes
  have allowed (properties : Properties) : properties.validateForSubscribe ≠ .error .insufficientData :=
    Properties.validateAgainst_ne
  simp [readBody, allowed, Subscription.refuses_read]

/-- The string behind a length that was checked is there. -/
theorem Unsubscribe.refuses_checked {bytes left : List UInt8} {done : Unit} (checked : checkFilterLen.Reads bytes done left) :
    ¬Utf8String.decoder.Refuses bytes .insufficientData := by
  simp only [checkFilterLen, ByteReader.reads_bind, reads_readU16, ByteReader.reads_room] at checked
  obtain ⟨filterLen, rest, rfl, enough, -⟩ := checked
  have word := UInt16.fromBeBytes_toBeBytes filterLen
  show parsePrefixed Utf8String.fromBytes (_ :: _ :: rest) ≠ _
  rw [parsePrefixed, word]
  simp only [if_neg (Nat.not_lt_of_le enough), Utf8String.fromBytes]
  split
  · intro wrong
    cases wrong
  · split <;> rintro ⟨⟩

theorem Unsubscribe.refuses_readTopicFilter (bytes : List UInt8) :
    ¬readTopicFilter.Refuses bytes .insufficientData := by
  have length (part : List UInt8) : ¬checkFilterLen.Refuses part .insufficientData := by
    simp [checkFilterLen]
  simp only [readTopicFilter, ByteReader.refuses_bind, ByteReader.refuses_peek, length, ByteReader.reads_peek,
    ByteReader.refuses_slice, refuses_malformedIf, ByteReader.refuses_pure, and_false, exists_false, or_false, false_or]
  rintro ⟨_, _, ⟨rfl, _, checked⟩, short⟩
  exact refuses_checked checked short

theorem Unsubscribe.settles : Settles Unsubscribe.decode := by
  apply decodeFrame_settles expectHeader_ne
  intro _ _ bytes
  have allowed (properties : Properties) : properties.validateForUnsubscribe ≠ .error .insufficientData :=
    Properties.validateAgainst_ne
  simp [readBody, allowed, refuses_readTopicFilter]

theorem reasonCodes_settles {γ : Type} [ByteCode γ] {packetType flags : UInt8} {allowed : List UInt8} :
    Settles (decodeFrame (expectHeader packetType flags) fun _ _ =>
      (ReasonCodesPacket.readBody (·.validateAgainst allowed) : ByteReader DecodeError (ReasonCodesPacket γ))) := by
  apply decodeFrame_settles expectHeader_ne
  intro _ _ bytes
  simp [ReasonCodesPacket.readBody, Properties.validateAgainst_ne]

theorem Disconnect.settles : Settles Disconnect.decode := by
  apply decodeFrame_settles expectHeader_ne
  intro _ _ bytes
  have allowed (properties : Properties) :
      properties.validateForDisconnectWithDirection .serverToClient ≠ .error .insufficientData :=
    malformedAfter_ne Properties.validateAgainst_ne
  simp [readBody, readReasonCodeOnlyPacket, refuses_readReasonCodeUnless, allowed]

theorem Auth.settles : Settles Auth.decode := by
  apply decodeFrame_settles expectHeader_ne
  intro _ _ bytes
  have allowed (properties : Properties) : properties.validateForAuth ≠ .error .insufficientData :=
    malformedAfter_ne Properties.validateAgainst_ne
  have behind (value : UInt8) (part : List UInt8) : ¬(readFrom value).Refuses part .insufficientData := by
    simp [readFrom, readPropertiesUnless, allowed]
  rw [readBody, ByteReader.refuses_bind]
  rintro (wrong | ⟨value, part, -, wrong⟩)
  · exact ByteReader.refuses_byteUnlessEnd wrong
  · cases value with
    | none => exact ByteReader.refuses_pure wrong
    | some value => exact behind value part wrong

theorem empty_settles {packetType flags : UInt8} {only : α} :
    Settles fun buf => (decodeEmpty packetType flags buf).tagged fun _ => only := by
  apply Settles.tagged
  apply decodeFrame_settles expectHeader_ne
  intro _ _ bytes
  simp

theorem Packet.decodeType_settles (packetType : UInt8) : Settles (decodeType packetType) := by
  intro buf n measured
  unfold decodeType
  split
  · exact Connect.settles.tagged buf n measured
  · exact ConnAck.settles.tagged buf n measured
  · exact Publish.settles.tagged buf n measured
  · exact Settles.tagged ack_settles buf n measured
  · exact Settles.tagged ack_settles buf n measured
  · exact Settles.tagged ack_settles buf n measured
  · exact Settles.tagged ack_settles buf n measured
  · exact Subscribe.settles.tagged buf n measured
  · exact Settles.tagged reasonCodes_settles buf n measured
  · exact Unsubscribe.settles.tagged buf n measured
  · exact Settles.tagged reasonCodes_settles buf n measured
  · exact Settles.tagged empty_settles buf n measured
  · exact Settles.tagged empty_settles buf n measured
  · exact Disconnect.settles.tagged buf n measured
  · exact Auth.settles.tagged buf n measured
  · refine ⟨?_, rfl⟩
    intro wrong
    cases wrong

theorem Packet.decode_waits {packet : Packet} {written : List UInt8} (encoded : packet.encodeToVec = .ok written) :
    Waits decode written := by
  have encodes := encodeToVec_eq_ok.mp encoded
  cases packet with
  | connect packet =>
    apply Connect.conforms.dispatch_waits packet (fun _ => rfl) encodes
    exact encodes.waits_expecting rfl (by decide) (by decide)
  | connAck packet =>
    apply ConnAck.conforms.dispatch_waits packet (fun _ => rfl) encodes
    exact encodes.waits_expecting rfl (by decide) (by decide)
  | publish packet =>
    apply Publish.conforms.dispatch_waits packet (fun _ => rfl) encodes
    apply encodes.waits
    intro valid
    have accepted := (Publish.validate_eq_ok.mp valid).1
    refine ⟨(packet.dup, packet.qos, packet.retain), (publishHeader_eq_ok ..).mpr ⟨?_, accepted.dupAllowed⟩⟩
    exact congrArg (0x30 ||| ·) packet.flags_eq
  | pubAck packet =>
    apply PubAck.conforms.dispatch_waits packet (fun _ => rfl) encodes
    exact encodes.waits_expecting rfl (by decide) (by decide)
  | pubRec packet =>
    apply PubRec.conforms.dispatch_waits packet (fun _ => rfl) encodes
    exact encodes.waits_expecting rfl (by decide) (by decide)
  | pubRel packet =>
    apply PubRel.conforms.dispatch_waits packet (fun _ => rfl) encodes
    exact encodes.waits_expecting rfl (by decide) (by decide)
  | pubComp packet =>
    apply PubComp.conforms.dispatch_waits packet (fun _ => rfl) encodes
    exact encodes.waits_expecting rfl (by decide) (by decide)
  | subscribe packet =>
    apply Subscribe.conforms.dispatch_waits packet (fun _ => rfl) encodes
    exact encodes.waits_expecting rfl (by decide) (by decide)
  | subAck packet =>
    apply SubAck.conforms.dispatch_waits packet (fun _ => rfl) encodes
    exact encodes.waits_expecting rfl (by decide) (by decide)
  | unsubscribe packet =>
    apply Unsubscribe.conforms.dispatch_waits packet (fun _ => rfl) encodes
    exact encodes.waits_expecting rfl (by decide) (by decide)
  | unsubAck packet =>
    apply UnsubAck.conforms.dispatch_waits packet (fun _ => rfl) encodes
    exact encodes.waits_expecting rfl (by decide) (by decide)
  | pingReq packet =>
    apply PingReq.conforms.dispatch_waits packet (fun _ => rfl) encodes
    exact (encodes.waits_expecting rfl (by decide) (by decide)).tagged
  | pingResp packet =>
    apply PingResp.conforms.dispatch_waits packet (fun _ => rfl) encodes
    exact (encodes.waits_expecting rfl (by decide) (by decide)).tagged
  | disconnect packet =>
    apply Disconnect.conforms.dispatch_waits packet (fun _ => rfl) encodes
    exact encodes.waits_expecting rfl (by decide) (by decide)
  | auth packet =>
    apply Auth.conforms.dispatch_waits packet (fun _ => rfl) encodes
    exact encodes.waits_expecting rfl (by decide) (by decide)

end V5

namespace V311

section Acks

variable {packetType flags : UInt8}

/-- Without content there is nothing behind the Remaining Length to wait for. -/
theorem decodeEmpty_waits {only : α} {whole : List UInt8} {layout : Layout} (nothing : layout.body = .nothing)
    (encodes : layout.Encodes whole) (accepted : expectHeader packetType flags layout.first = .ok ()) :
    Waits (fun buf => do
      let offset ← decodeEmpty packetType flags buf
      .ok (only, offset)) whole := by
  intro part starts strict
  obtain ⟨-, content, writes, small, rfl⟩ := encodes
  rw [nothing, ByteWriter.writes_nothing] at writes
  subst writes
  rcases beginning_cases starts strict with rfl | ⟨rest, more, rfl, same, left⟩
  · rfl
  · simp only [decodeEmpty_cons, accepted]
    rcases parse_beginning small same left with short | ⟨after, -, few⟩
    · rw [short]
      rfl
    · exact absurd few (Nat.not_lt_zero _)

theorem decodeEmpty_settles {only : α} :
    Settles (fun buf => do
      let offset ← decodeEmpty packetType flags buf
      .ok (only, offset)) := by
  apply settles_of_frames
  intro first content small
  have parsed (tail : List UInt8) : VariableByteInteger.parse (VariableByteInteger.bytes content.length ++ content ++ tail) =
      .ok (⟨UInt32.ofNat content.length⟩, content ++ tail) := by
    rw [List.append_assoc]
    exact VariableByteInteger.parse_bytes small _
  simp only [frame, List.cons_append, decodeEmpty_cons, parsed]
  cases checked : expectHeader packetType flags first with
  | error reason =>
    refine ⟨.error reason, ?_, fun _ => rfl⟩
    exact fun same => expectHeader_ne first (checked.trans (congrArg _ (Outcome.error.inj same)))
  | ok _ =>
    by_cases empty : (UInt32.ofNat content.length).toNat = 0
    · have offset (tail : List UInt8) : (VariableByteInteger.bytes content.length ++ content ++ tail).length -
          (content ++ tail).length = (VariableByteInteger.bytes content.length).length := by
        simp only [List.length_append]
        omega
      simp only [offset, if_neg (not_not.mpr empty)]
      refine ⟨.ok (only, 1 + (VariableByteInteger.bytes content.length).length), ?_, fun _ => rfl⟩
      intro wrong
      cases wrong
    · simp only [if_pos empty]
      refine ⟨.error .malformedPacket, ?_, fun _ => rfl⟩
      intro wrong
      cases wrong

theorem simpleAck_settles {wrap : UInt16 → α} : Settles fun buf => (decodeSimpleAck packetType flags buf).tagged wrap := by
  apply Settles.tagged
  apply decodeFrame_settles expectHeader_ne
  intro _ _ bytes
  simp [readSimpleAck]

end Acks

theorem Connect.settles : Settles Connect.decode := by
  apply decodeFrame_settles expectHeader_ne
  intro _ _ bytes
  have will (flags : UInt8) (part : List UInt8) : ¬(readWill flags).Refuses part .insufficientData := by
    simp [readWill]
  simp [readBody, will]

theorem ConnAck.settles : Settles ConnAck.decode := by
  apply decodeFrame_settles expectHeader_ne
  intro _ _ bytes
  simp [readBody]

theorem Publish.settles : Settles Publish.decode := by
  apply decodeFrame_settles publishHeader_ne
  intro _ _ bytes
  simp [readBody]

theorem expectFirst_ne {expected : UInt8} (first : UInt8) : expectFirst expected first ≠ .error .insufficientData := by
  rw [expectFirst]
  split <;> simp

theorem Subscribe.settles : Settles Subscribe.decode := by
  apply decodeFrame_settles expectFirst_ne
  intro _ _ bytes
  have items (part : List UInt8) : ¬readSubscription.Refuses part .insufficientData := by
    simp [readSubscription]
  simp [readBody, items]

theorem Unsubscribe.settles : Settles Unsubscribe.decode := by
  apply decodeFrame_settles expectFirst_ne
  intro _ _ bytes
  have items (part : List UInt8) : ¬readTopicFilter.Refuses part .insufficientData := by
    simp [readTopicFilter]
  simp [readBody, items]

theorem SubAck.settles : Settles SubAck.decode := by
  apply decodeFrame_settles expectHeader_ne
  intro _ _ bytes
  simp [readBody]

theorem Packet.decodeType_settles (packetType : UInt8) : Settles (decodeType packetType) := by
  intro buf n measured
  unfold decodeType
  split
  · exact Connect.settles.tagged buf n measured
  · exact ConnAck.settles.tagged buf n measured
  · exact Publish.settles.tagged buf n measured
  · exact Settles.tagged simpleAck_settles buf n measured
  · exact Settles.tagged simpleAck_settles buf n measured
  · exact Settles.tagged simpleAck_settles buf n measured
  · exact Settles.tagged simpleAck_settles buf n measured
  · exact Subscribe.settles.tagged buf n measured
  · exact SubAck.settles.tagged buf n measured
  · exact Unsubscribe.settles.tagged buf n measured
  · exact Settles.tagged simpleAck_settles buf n measured
  · exact Settles.tagged decodeEmpty_settles buf n measured
  · exact Settles.tagged decodeEmpty_settles buf n measured
  · exact Settles.tagged decodeEmpty_settles buf n measured
  · refine ⟨?_, rfl⟩
    intro wrong
    cases wrong

theorem Packet.decode_waits {packet : Packet} {written : List UInt8} (encoded : packet.encodeToVec = .ok written) :
    Waits decode written := by
  have encodes := encodeToVec_eq_ok.mp encoded
  cases packet with
  | connect packet =>
    apply Connect.conforms.dispatch_waits packet (fun _ => rfl) encodes
    exact encodes.waits_expecting rfl (by decide) (by decide)
  | connAck packet =>
    apply ConnAck.conforms.dispatch_waits packet (fun _ => rfl) encodes
    exact encodes.waits_expecting rfl (by decide) (by decide)
  | publish packet =>
    apply Publish.conforms.dispatch_waits packet (fun _ => rfl) encodes
    apply encodes.waits
    intro valid
    have dupAllowed := (Publish.validate_eq_ok.mp valid).2.2.2.2
    exact ⟨(packet.dup, packet.qos, packet.retain), (publishHeader_eq_ok ..).mpr ⟨rfl, dupAllowed⟩⟩
  | pubAck packet =>
    apply PubAck.conforms.dispatch_waits packet (fun _ => rfl) encodes
    exact (encodes.waits_expecting rfl (by decide) (by decide)).tagged
  | pubRec packet =>
    apply PubRec.conforms.dispatch_waits packet (fun _ => rfl) encodes
    exact (encodes.waits_expecting rfl (by decide) (by decide)).tagged
  | pubRel packet =>
    apply PubRel.conforms.dispatch_waits packet (fun _ => rfl) encodes
    exact (encodes.waits_expecting rfl (by decide) (by decide)).tagged
  | pubComp packet =>
    apply PubComp.conforms.dispatch_waits packet (fun _ => rfl) encodes
    exact (encodes.waits_expecting rfl (by decide) (by decide)).tagged
  | subscribe packet =>
    apply Subscribe.conforms.dispatch_waits packet (fun _ => rfl) encodes
    exact encodes.waits fun _ => ⟨(), expectFirst_eq_ok.mpr rfl⟩
  | subAck packet =>
    apply SubAck.conforms.dispatch_waits packet (fun _ => rfl) encodes
    exact encodes.waits_expecting rfl (by decide) (by decide)
  | unsubscribe packet =>
    apply Unsubscribe.conforms.dispatch_waits packet (fun _ => rfl) encodes
    exact encodes.waits fun _ => ⟨(), expectFirst_eq_ok.mpr rfl⟩
  | unsubAck packet =>
    apply UnsubAck.conforms.dispatch_waits packet (fun _ => rfl) encodes
    exact (encodes.waits_expecting rfl (by decide) (by decide)).tagged
  | pingReq packet =>
    apply PingReq.conforms.dispatch_waits packet (fun _ => rfl) encodes
    exact decodeEmpty_waits rfl encodes ((expectHeader_iff (by decide) (by decide)).mpr rfl)
  | pingResp packet =>
    apply PingResp.conforms.dispatch_waits packet (fun _ => rfl) encodes
    exact decodeEmpty_waits rfl encodes ((expectHeader_iff (by decide) (by decide)).mpr rfl)
  | disconnect packet =>
    apply Disconnect.conforms.dispatch_waits packet (fun _ => rfl) encodes
    exact decodeEmpty_waits rfl encodes ((expectHeader_iff (by decide) (by decide)).mpr rfl)

end V311

/-- Every strict beginning of a packet asks for more bytes, and no whole frame does, whose answer depends on its own
    bytes alone. -/
theorem frames_classified :
    ((∀ packet : V5.Packet, ∀ written, packet.encodeToVec = .ok written → Waits V5.Packet.decode written) ∧
        Settles V5.Packet.decode) ∧
      (∀ packet : V311.Packet, ∀ written, packet.encodeToVec = .ok written → Waits V311.Packet.decode written) ∧
        Settles V311.Packet.decode := by
  refine ⟨⟨?_, dispatch_settles V5.Packet.decodeType_settles⟩, ?_, dispatch_settles V311.Packet.decodeType_settles⟩
  · intro packet written encoded
    exact V5.Packet.decode_waits encoded
  · intro packet written encoded
    exact V311.Packet.decode_waits encoded

/-- An acknowledgement cut short waits, and one of packet id 0 with all its bytes there does not. -/
theorem pubAck_classified :
    V5.Packet.decode [0x40, 4, 0, 7, 0] = .error .insufficientData ∧
      V311.Packet.decode [0x40, 2, 0] = .error .insufficientData ∧
      V311.Packet.decode [0x40, 2, 0, 0, 0xC0] ≠ .error .insufficientData := by
  obtain ⟨⟨waitsV5, -⟩, waitsV311, settles⟩ := frames_classified
  refine ⟨?_, ?_, ?_⟩
  · exact waitsV5 (.pubAck ⟨7, .success, .new⟩) [0x40, 4, 0, 7, 0, 0] (by decide) _ ⟨[0], rfl⟩ (by decide)
  · exact waitsV311 (.pubAck ⟨7⟩) [0x40, 2, 0, 7] (by decide) _ ⟨[7], rfl⟩ (by decide)
  · exact (settles _ 4 ⟨by decide, ⟨2⟩, 1, by decide, by decide⟩).1

end MqttRs
