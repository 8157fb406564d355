import MqttRs.V5.RoundTrip

/-! What the decoder takes: one frame for each packet, up to the abbreviated forms, and what the encoder would take too,
    up to what only a server sends. -/

namespace MqttRs

namespace Layout

variable {layout : Layout} {first : UInt8} {body : ByteWriter EncodeError} {bytes other : List UInt8}

theorem framed_unique (framed : Framed first body bytes) (otherFramed : Framed first body other) : bytes = other := by
  obtain ⟨content, writes, _, rfl⟩ := framed
  obtain ⟨otherContent, otherWrites, _, rfl⟩ := otherFramed
  rw [ByteWriter.writes_unique writes otherWrites]

theorem writable_of_framed (framed : Framed first body bytes) : body.Writable := by
  obtain ⟨content, writes, _, _⟩ := framed
  exact ⟨content, writes⟩

theorem framed_of_writable (writable : body.Writable) (few : body.size ≤ 4) : ∃ written, Framed first body written := by
  obtain ⟨content, writes⟩ := writable
  have length := body.length_bytes writes
  have small : content.length ≤ VariableByteInteger.max := by
    rw [length, VariableByteInteger.max]
    omega
  exact ⟨_, content, writes, small, rfl⟩

end Layout

namespace V5

/-- The forms in which a packet may leave out what follows: PUBACK, PUBREC, PUBREL and PUBCOMP with a Remaining Length of
    2 or 3, and DISCONNECT with a Remaining Length of 0 or 1. -/
def Abbreviated (bytes : List UInt8) : Prop :=
  ∃ first content, bytes = frame first content ∧
    (first &&& 0xF0 ∈ [0x40, 0x50, 0x60, 0x70] ∧ content.length ∈ [2, 3] ∨
      first &&& 0xF0 = 0xE0 ∧ content.length ∈ [0, 1])

/-- The rules for the properties of a packet: the identifiers allowed in it, none of them twice, and the values. -/
structure Properties.Obeys (allowed : Properties → Except DecodeError Unit) (allowDuplicateSubscriptionId : Bool)
    (properties : Properties) : Prop where
  allowed : allowed properties = .ok ()
  distinct : properties.validateDuplicateIdentifiers allowDuplicateSubscriptionId = .ok ()
  valued : ∀ property ∈ properties.properties, property.validateValue = .ok ()

section Rules

variable {allowed : Properties → Except DecodeError Unit} {allow : Bool} {properties : Properties}

theorem Properties.valued_of_writable (writable : (writeProperties properties).Writable) :
    ∀ property ∈ properties.properties, property.validateValue = .ok () := by
  obtain ⟨written, writes⟩ := writable
  obtain ⟨content, contentWrites, _, _⟩ := Properties.writes_encoder.mp writes
  have each := ByteWriter.writable_each.mp ⟨content, contentWrites⟩
  intro property member
  obtain ⟨part, partWrites⟩ := each property member
  exact (Property.writes_encoder.mp partWrites).1

theorem Properties.obeys_of_writable (valid : validateProperties allowed allow properties = .ok ())
    (writable : (writeProperties properties).Writable) : properties.Obeys allowed allow := by
  obtain ⟨accepted, distinct⟩ := validateProperties_eq_ok.mp valid
  exact ⟨accepted, distinct, valued_of_writable writable⟩

theorem Properties.new_writable : (writeProperties .new).Writable := by
  have writes : Properties.new.encoder.Writes (VariableByteInteger.bytes 0 ++ []) :=
    Properties.writes_encoder.mpr ⟨[], rfl, Nat.zero_le _, rfl⟩
  exact ⟨_, writes⟩

end Rules

section Acks

variable {γ : Type} [ByteCode γ] {packetType flags : UInt8} {success : γ}
  {allowed : Properties → Except DecodeError Unit} {checks : Except EncodeError Unit} {packet : ReasonCodePacket γ}
  {bytes content : List UInt8}

theorem ackLayout_decodes (noneAllowed : allowed .new = .ok ())
    (decodes : (ackLayout packetType flags success allowed checks packet).Decodes bytes) :
    packet.packetId ≠ 0 ∧ validateProperties allowed false packet.properties = .ok () ∧
      (writeProperties packet.properties).Writable := by
  rcases decodes with ⟨⟨nonzero, valid⟩, framed⟩ | ⟨_, ⟨nonzero, empty, _⟩, _⟩
  · have writable := Layout.writable_of_framed framed
    exact ⟨nonzero, valid, (ByteWriter.writable_append.mp writable).2⟩
  · rw [empty]
    exact ⟨nonzero, validateProperties_eq_ok.mpr ⟨noneAllowed, rfl⟩, Properties.new_writable⟩

theorem ackLayout_framed (decodes : (ackLayout packetType flags success allowed checks packet).Decodes bytes) :
    ∃ written, Framed (ackLayout packetType flags success allowed checks packet).first
      (ackLayout packetType flags success allowed checks packet).body written := by
  rcases decodes with ⟨_, framed⟩ | ⟨_, ⟨_, empty, _⟩, _⟩
  · exact ⟨bytes, framed⟩
  · have front : (writeU16 packet.packetId ++ ByteWriter.byte (ByteCode.asU8 packet.reasonCode)).Writable :=
      ⟨_, ByteWriter.writes_append.mpr ⟨_, _, writes_writeU16.mpr rfl, ByteWriter.writes_byte.mpr rfl, rfl⟩⟩
    have writable : (writeReasonCodePacket packet.packetId (ByteCode.asU8 packet.reasonCode) .new).Writable :=
      ByteWriter.writable_append.mpr ⟨front, Properties.new_writable⟩
    rw [← empty] at writable
    apply Layout.framed_of_writable writable
    show (writeReasonCodePacket packet.packetId (ByteCode.asU8 packet.reasonCode) packet.properties).size ≤ 4
    rw [empty]
    exact Nat.le_refl 4

theorem ackLayout_abbreviated (type : (packetType ||| flags) &&& 0xF0 ∈ [0x40, 0x50, 0x60, 0x70])
    (short : (ackLayout packetType flags success allowed checks packet).Short content) :
    Abbreviated (frame (packetType ||| flags) content) := by
  obtain ⟨_, _, form⟩ := short
  refine ⟨_, content, rfl, .inl ⟨type, ?_⟩⟩
  rcases form with ⟨_, rfl⟩ | rfl
  · exact List.mem_cons_self
  · exact List.mem_cons_of_mem _ List.mem_cons_self

end Acks

namespace Disconnect

variable {packet : Disconnect} {bytes content : List UInt8}

theorem decodes_rules (decodes : packet.layout.Decodes bytes) :
    validateProperties (Properties.validateForDisconnectWithDirection .clientToServer) false packet.properties = .ok () ∧
      (writeProperties packet.properties).Writable := by
  rcases decodes with ⟨⟨_, valid⟩, framed⟩ | ⟨_, ⟨_, empty, _⟩, _⟩
  · obtain ⟨allowed, distinct⟩ := validateProperties_eq_ok.mp valid
    have sendable := (Properties.validateForDisconnectWithDirection_eq_ok.mp allowed).1
    have writable := Layout.writable_of_framed framed
    refine ⟨validateProperties_eq_ok.mpr ⟨?_, distinct⟩, (ByteWriter.writable_append.mp writable).2⟩
    exact Properties.validateForDisconnectWithDirection_eq_ok.mpr ⟨sendable, rfl⟩
  · rw [empty]
    exact ⟨rfl, Properties.new_writable⟩

theorem decodes_framed (decodes : packet.layout.Decodes bytes) :
    ∃ written, Framed packet.layout.first packet.layout.body written := by
  rcases decodes with ⟨_, framed⟩ | ⟨_, ⟨_, empty, _⟩, _⟩
  · exact ⟨bytes, framed⟩
  · have front : (ByteWriter.byte (ByteCode.asU8 packet.reasonCode) : ByteWriter EncodeError).Writable :=
      ⟨_, ByteWriter.writes_byte.mpr rfl⟩
    have writable : (writeReasonCodeOnlyPacket (ByteCode.asU8 packet.reasonCode) .new).Writable :=
      ByteWriter.writable_append.mpr ⟨front, Properties.new_writable⟩
    rw [← empty] at writable
    apply Layout.framed_of_writable writable
    show (writeReasonCodeOnlyPacket (ByteCode.asU8 packet.reasonCode) packet.properties).size ≤ 4
    rw [empty]
    show 2 ≤ 4
    decide

theorem abbreviated_of_short (short : packet.layout.Short content) : Abbreviated (frame packet.layout.first content) := by
  obtain ⟨_, _, form⟩ := short
  have type : (packetType ||| flags) &&& 0xF0 = 0xE0 := by decide
  refine ⟨_, content, rfl, .inr ⟨type, ?_⟩⟩
  rcases form with ⟨_, rfl⟩ | rfl
  · exact List.mem_cons_self
  · exact List.mem_cons_of_mem _ List.mem_cons_self

end Disconnect

namespace Auth

variable {packet : Auth} {bytes : List UInt8}

theorem isSentByClient_iff (accepted : packet.reasonCode.isSentByServer = true) :
    packet.reasonCode.isSentByClient = true ↔ packet.reasonCode ≠ .success := by
  revert accepted
  cases packet.reasonCode <;> decide

/-- Without a reason code there is no authentication method either, which every longer form has. -/
theorem not_accepted_of_short (success : packet.properties = .new) : ¬packet.layout.Accepted := by
  intro accepted
  obtain ⟨allowed, _⟩ := validateProperties_eq_ok.mp accepted.2
  rw [success] at allowed
  cases allowed

theorem decodes_unique {other : List UInt8} (decodes : packet.layout.Decodes bytes)
    (otherDecodes : packet.layout.Decodes other) : bytes = other := by
  rcases decodes with ⟨accepted, framed⟩ | ⟨_, ⟨_, empty, rfl⟩, rfl⟩
  · rcases otherDecodes with ⟨_, otherFramed⟩ | ⟨_, ⟨_, empty, _⟩, _⟩
    · exact Layout.framed_unique framed otherFramed
    · exact absurd accepted (not_accepted_of_short empty)
  · rcases otherDecodes with ⟨accepted, _⟩ | ⟨_, ⟨_, _, rfl⟩, rfl⟩
    · exact absurd accepted (not_accepted_of_short empty)
    · rfl

end Auth

namespace Packet

/-- For a client to receive and not to send: PUBLISH with a subscription identifier or with a payload that is said to be
    UTF-8 and is not, CONNECT with such a payload in its will, PUBACK and PUBREC with 0x10, DISCONNECT with a reason code
    that only a server may give, and AUTH with 0x00. -/
def ReceiveOnly : Packet → Prop
  | publish packet => (∃ given, .subscriptionIdentifier given ∈ packet.properties.properties) ∨
      Mislabelled packet.properties packet.payload
  | connect packet => ∃ will ∈ packet.will, Mislabelled will.properties will.payload
  | pubAck packet => packet.reasonCode = .noMatchingSubscribers
  | pubRec packet => packet.reasonCode = .noMatchingSubscribers
  | disconnect packet => packet.reasonCode.isSentByClient = false
  | auth packet => packet.reasonCode = .success
  | _ => False

/-- What the encoder enforces on identifiers, topics, allowed and repeated properties and values. -/
def Obeys : Packet → Prop
  | connect packet => packet.properties.Obeys Properties.validateForConnect false ∧
      ∀ will ∈ packet.will, will.validateTopic = .ok () ∧ will.properties.Obeys Properties.validateForWill false
  | connAck packet => packet.validate = .ok () ∧ packet.properties.Obeys Properties.validateForConnack false
  | publish packet => packet.Accepted ∧ packet.properties.Obeys Properties.validateForPublish true
  | pubAck packet => packet.packetId ≠ 0 ∧ packet.properties.Obeys Properties.validateForPuback false
  | pubRec packet => packet.packetId ≠ 0 ∧ packet.properties.Obeys Properties.validateForPubrec false
  | pubRel packet => packet.packetId ≠ 0 ∧ packet.properties.Obeys Properties.validateForPubrel false
  | pubComp packet => packet.packetId ≠ 0 ∧ packet.properties.Obeys Properties.validateForPubcomp false
  | subscribe packet => packet.validate = .ok () ∧ packet.properties.Obeys Properties.validateForSubscribe false
  | subAck packet => SubAck.validate packet = .ok () ∧ packet.properties.Obeys Properties.validateForSuback false
  | unsubscribe packet => packet.validate = .ok () ∧ packet.properties.Obeys Properties.validateForUnsubscribe false
  | unsubAck packet => UnsubAck.validate packet = .ok () ∧ packet.properties.Obeys Properties.validateForUnsuback false
  | pingReq _ => True
  | pingResp _ => True
  | disconnect packet =>
    packet.properties.Obeys (Properties.validateForDisconnectWithDirection .clientToServer) false
  | auth packet => packet.properties.Obeys (Properties.validateAgainst Properties.allowedInAuth) false

variable {packet : Packet} {buf bytes other : List UInt8} {n : Nat}

theorem hasSubscriptionIdentifier_iff {properties : Properties} : properties.hasIdentifier 0x0B = true ↔
    ∃ given, .subscriptionIdentifier given ∈ properties.properties := by
  simp only [Properties.hasIdentifier_iff, Property.identifier_eq_subscriptionIdentifier]
  constructor
  · intro given
    obtain ⟨property, member, identifier, rfl⟩ := given
    exact ⟨identifier, member⟩
  · intro given
    obtain ⟨identifier, member⟩ := given
    exact ⟨_, member, identifier, rfl⟩

theorem publish_sendable_iff {packet : Publish} (accepted : packet.Accepted) :
    packet.validate = .ok () ↔ ¬(publish packet).ReceiveOnly := by
  rw [Publish.validate_eq_ok, ← Bool.not_eq_true, hasSubscriptionIdentifier_iff, ReceiveOnly, not_or]
  exact and_iff_right accepted

theorem connect_sendable_iff {packet : Connect} (accepted : packet.Accepted) :
    packet.validate = .ok () ↔ ¬(connect packet).ReceiveOnly := by
  rw [Connect.validate_eq_ok, ReceiveOnly, and_iff_right accepted]
  simp only [not_exists, not_and]

theorem disconnect_sendable_iff {packet : Disconnect} (decodes : packet.layout.Decodes bytes) :
    packet.validate = .ok () ↔ ¬(disconnect packet).ReceiveOnly := by
  have valid := (Disconnect.decodes_rules decodes).1
  rw [ReceiveOnly, Bool.not_eq_false, Disconnect.validate, bind_eq_ok]
  simp [valid]

theorem auth_sendable_iff {packet : Auth} (decodes : packet.layout.Decodes bytes) :
    packet.validate = .ok () ↔ ¬(auth packet).ReceiveOnly := by
  rw [ReceiveOnly, Auth.validate, bind_eq_ok]
  rcases decodes with ⟨⟨sent, valid⟩, _⟩ | ⟨_, ⟨success, _, _⟩, _⟩
  · have codes := Auth.isSentByClient_iff sent
    simp [valid, codes]
  · simp [success, AuthReasonCode.isSentByClient]

theorem sendable_iff (decodes : packet.layout.Decodes bytes) : packet.layout.Sendable ↔ ¬packet.ReceiveOnly := by
  cases packet with
  | connect packet => exact connect_sendable_iff (Layout.plain_decodes.mp decodes).1
  | publish packet => exact publish_sendable_iff (Layout.plain_decodes.mp decodes).1
  | disconnect packet => exact disconnect_sendable_iff decodes
  | auth packet => exact auth_sendable_iff decodes
  | pubAck packet =>
    obtain ⟨nonzero, valid, _⟩ := ackLayout_decodes rfl decodes
    have checks := @PubAck.validate_eq_ok packet
    exact checks.trans ⟨fun all => all.2.1, fun known => ⟨nonzero, known, valid⟩⟩
  | pubRec packet =>
    obtain ⟨nonzero, valid, _⟩ := ackLayout_decodes rfl decodes
    have checks := @PubRec.validate_eq_ok packet
    exact checks.trans ⟨fun all => all.2.1, fun known => ⟨nonzero, known, valid⟩⟩
  | pubRel packet =>
    obtain ⟨nonzero, valid, _⟩ := ackLayout_decodes rfl decodes
    exact iff_of_true (PubRel.validate_eq_ok.mpr ⟨nonzero, valid⟩) id
  | pubComp packet =>
    obtain ⟨nonzero, valid, _⟩ := ackLayout_decodes rfl decodes
    exact iff_of_true (PubComp.validate_eq_ok.mpr ⟨nonzero, valid⟩) id
  | connAck _ | subscribe _ | subAck _ | unsubscribe _ | unsubAck _ | pingReq _ | pingResp _ =>
    exact iff_of_true (Layout.plain_decodes.mp decodes).1 id

theorem encodes_of_decodes (decodes : packet.layout.Decodes bytes) (sendable : packet.layout.Sendable) :
    ∃ written, packet.layout.Encodes written := by
  have framed : ∃ written, Framed packet.layout.first packet.layout.body written := by
    cases packet with
    | pubAck _ | pubRec _ | pubRel _ | pubComp _ => exact ackLayout_framed decodes
    | disconnect packet => exact Disconnect.decodes_framed decodes
    | auth packet =>
      have only : ¬packet.reasonCode = .success := (auth_sendable_iff decodes).mp sendable
      rcases decodes with ⟨_, framed⟩ | ⟨_, ⟨success, _, _⟩, _⟩
      · exact ⟨bytes, framed⟩
      · exact absurd success only
    | connect _ | connAck _ | publish _ | subscribe _ | subAck _ | unsubscribe _ | unsubAck _ | pingReq _
    | pingResp _ => exact ⟨bytes, (Layout.plain_decodes.mp decodes).2⟩
  obtain ⟨written, framed⟩ := framed
  exact ⟨written, sendable, framed⟩

theorem framed_or_abbreviated (decodes : packet.layout.Decodes bytes) (notAuth : ∀ given, packet ≠ auth given) :
    Framed packet.layout.first packet.layout.body bytes ∨ Abbreviated bytes := by
  rcases decodes with ⟨_, framed⟩ | ⟨content, short, rfl⟩
  · exact .inl framed
  · right
    cases packet with
    | pubAck packet => exact ackLayout_abbreviated (by decide) short
    | pubRec packet => exact ackLayout_abbreviated (by decide) short
    | pubRel packet => exact ackLayout_abbreviated (by decide) short
    | pubComp packet => exact ackLayout_abbreviated (by decide) short
    | disconnect packet => exact Disconnect.abbreviated_of_short short
    | auth packet => exact absurd rfl (notAuth packet)
    | connect _ | connAck _ | publish _ | subscribe _ | subAck _ | unsubscribe _ | unsubAck _ | pingReq _
    | pingResp _ => exact short.elim

/-- What the encoder writes for a packet is the frame that the packet came in, unless that was abbreviated. -/
theorem written_or_abbreviated {written : List UInt8} (decodes : packet.layout.Decodes bytes)
    (encodes : packet.layout.Encodes written) : written = bytes ∨ Abbreviated bytes := by
  by_cases isAuth : ∃ given, packet = auth given
  · obtain ⟨packet, rfl⟩ := isAuth
    have only : ¬packet.reasonCode = .success := (auth_sendable_iff decodes).mp encodes.1
    rcases decodes with ⟨_, framed⟩ | ⟨_, ⟨success, _, _⟩, _⟩
    · exact .inl (Layout.framed_unique encodes.2 framed)
    · exact absurd success only
  · rcases framed_or_abbreviated decodes (not_exists.mp isAuth) with framed | abbreviated
    · exact .inl (Layout.framed_unique encodes.2 framed)
    · exact .inr abbreviated

theorem eq_or_abbreviated (decodes : packet.layout.Decodes bytes) (otherDecodes : packet.layout.Decodes other) :
    other = bytes ∨ Abbreviated other ∨ Abbreviated bytes := by
  by_cases isAuth : ∃ given, packet = auth given
  · obtain ⟨packet, rfl⟩ := isAuth
    exact .inl (Auth.decodes_unique otherDecodes decodes)
  · rcases framed_or_abbreviated decodes (not_exists.mp isAuth) with framed | abbreviated
    · rcases framed_or_abbreviated otherDecodes (not_exists.mp isAuth) with otherFramed | otherAbbreviated
      · exact .inl (Layout.framed_unique otherFramed framed)
      · exact .inr (.inl otherAbbreviated)
    · exact .inr (.inr abbreviated)

theorem connect_obeys {packet : Connect} (decodes : packet.layout.Decodes bytes) : (connect packet).Obeys := by
  obtain ⟨accepted, framed⟩ := Layout.plain_decodes.mp decodes
  have writable := Layout.writable_of_framed framed
  simp only [Connect.writeBody, ByteWriter.writable_append, ByteWriter.writable_ifSome] at writable
  obtain ⟨⟨⟨⟨⟨_, propertiesWritable⟩, _⟩, willWritable⟩, _⟩, _⟩ := writable
  refine ⟨Properties.obeys_of_writable accepted.properties propertiesWritable, ?_⟩
  intro will member
  obtain ⟨topic, valid⟩ := accepted.will will member
  have parts := willWritable will member
  simp only [Will.write, ByteWriter.writable_append] at parts
  exact ⟨topic, Properties.obeys_of_writable valid parts.1.1⟩

theorem publish_obeys {packet : Publish} (decodes : packet.layout.Decodes bytes) : (publish packet).Obeys := by
  obtain ⟨accepted, framed⟩ := Layout.plain_decodes.mp decodes
  have writable := Layout.writable_of_framed framed
  simp only [Publish.writeBody, ByteWriter.writable_append] at writable
  have valid : validateProperties Properties.validateForPublish true packet.properties = .ok () :=
    validateProperties_eq_ok.mpr ⟨accepted.allowed, accepted.distinct⟩
  exact ⟨accepted, Properties.obeys_of_writable valid writable.1.2⟩

theorem connAck_obeys {packet : ConnAck} (decodes : packet.layout.Decodes bytes) : (connAck packet).Obeys := by
  obtain ⟨checked, framed⟩ := Layout.plain_decodes.mp decodes
  have writable := Layout.writable_of_framed framed
  obtain ⟨_, _, valid⟩ := bind_eq_ok.mp checked
  exact ⟨checked, Properties.obeys_of_writable valid (ByteWriter.writable_append.mp writable).2⟩

theorem subscribe_obeys {packet : Subscribe} (decodes : packet.layout.Decodes bytes) : (subscribe packet).Obeys := by
  obtain ⟨checked, framed⟩ := Layout.plain_decodes.mp decodes
  have writable := Layout.writable_of_framed framed
  simp only [Subscribe.writeBody, ByteWriter.writable_append] at writable
  obtain ⟨_, _, checks⟩ := bind_eq_ok.mp checked
  obtain ⟨_, _, checks⟩ := bind_eq_ok.mp checks
  obtain ⟨_, _, valid⟩ := bind_eq_ok.mp checks
  exact ⟨checked, Properties.obeys_of_writable valid writable.1.2⟩

theorem unsubscribe_obeys {packet : Unsubscribe} (decodes : packet.layout.Decodes bytes) :
    (unsubscribe packet).Obeys := by
  obtain ⟨checked, framed⟩ := Layout.plain_decodes.mp decodes
  have writable := Layout.writable_of_framed framed
  simp only [Unsubscribe.writeBody, ByteWriter.writable_append] at writable
  obtain ⟨_, _, checks⟩ := bind_eq_ok.mp checked
  obtain ⟨_, _, checks⟩ := bind_eq_ok.mp checks
  obtain ⟨_, _, valid⟩ := bind_eq_ok.mp checks
  exact ⟨checked, Properties.obeys_of_writable valid writable.1.2⟩

theorem reasonCodes_obeys {γ : Type} [ByteCode γ] {first : UInt8} {packet : ReasonCodesPacket γ}
    {allowed : Properties → Except DecodeError Unit} (checked : packet.validate allowed = .ok ())
    (framed : Framed first packet.writeBody bytes) : packet.properties.Obeys allowed false := by
  have writable := Layout.writable_of_framed framed
  simp only [ReasonCodesPacket.writeBody, ByteWriter.writable_append] at writable
  obtain ⟨_, _, checks⟩ := bind_eq_ok.mp checked
  obtain ⟨_, _, valid⟩ := bind_eq_ok.mp checks
  exact Properties.obeys_of_writable valid writable.1.2

theorem auth_obeys {packet : Auth} (decodes : packet.layout.Decodes bytes) : (auth packet).Obeys := by
  rcases decodes with ⟨⟨_, valid⟩, framed⟩ | ⟨_, ⟨_, empty, _⟩, _⟩
  · have writable := Layout.writable_of_framed framed
    have obeys := Properties.obeys_of_writable valid (ByteWriter.writable_append.mp writable).2
    exact ⟨(Properties.validateForAuth_eq_ok.mp obeys.allowed).1, obeys.distinct, obeys.valued⟩
  · show packet.properties.Obeys _ false
    rw [empty]
    exact Properties.obeys_of_writable rfl Properties.new_writable

theorem obeys_of_decodes (decodes : packet.layout.Decodes bytes) : packet.Obeys := by
  cases packet with
  | connect packet => exact connect_obeys decodes
  | connAck packet => exact connAck_obeys decodes
  | publish packet => exact publish_obeys decodes
  | subscribe packet => exact subscribe_obeys decodes
  | unsubscribe packet => exact unsubscribe_obeys decodes
  | auth packet => exact auth_obeys decodes
  | subAck packet =>
    obtain ⟨checked, framed⟩ := Layout.plain_decodes.mp decodes
    exact ⟨checked, reasonCodes_obeys checked framed⟩
  | unsubAck packet =>
    obtain ⟨checked, framed⟩ := Layout.plain_decodes.mp decodes
    exact ⟨checked, reasonCodes_obeys checked framed⟩
  | pubAck _ | pubRec _ | pubRel _ | pubComp _ =>
    obtain ⟨nonzero, valid, writable⟩ := ackLayout_decodes rfl decodes
    exact ⟨nonzero, Properties.obeys_of_writable valid writable⟩
  | disconnect packet =>
    obtain ⟨valid, writable⟩ := Disconnect.decodes_rules decodes
    exact Properties.obeys_of_writable valid writable
  | pingReq _ | pingResp _ => exact True.intro

theorem decoding_canonical (buf : List UInt8) (packet : Packet) (n : Nat) (decoded : decode buf = .ok (packet, n)) :
    ((∃ written, packet.encodeToVec = .ok written) ↔ ¬packet.ReceiveOnly) ∧
      (∀ written, packet.encodeToVec = .ok written → written = buf.take n ∨ Abbreviated (buf.take n)) ∧
      (∀ other m, decode other = .ok (packet, m) →
        other.take m = buf.take n ∨ Abbreviated (other.take m) ∨ Abbreviated (buf.take n)) ∧
      packet.Obeys := by
  obtain ⟨_, decodes⟩ := decode_eq_ok.mp decoded
  refine ⟨?_, ?_, ?_, obeys_of_decodes decodes⟩
  · rw [← sendable_iff decodes]
    constructor
    · intro encoded
      obtain ⟨written, encoded⟩ := encoded
      exact (encodeToVec_eq_ok.mp encoded).1
    · intro sendable
      obtain ⟨written, encodes⟩ := encodes_of_decodes decodes sendable
      exact ⟨written, encodeToVec_eq_ok.mpr encodes⟩
  · intro written encoded
    exact written_or_abbreviated decodes (encodeToVec_eq_ok.mp encoded)
  · intro other m otherDecoded
    exact eq_or_abbreviated decodes (decode_eq_ok.mp otherDecoded).2

theorem abbreviated_puback_canonical :
    decode [0x40, 2, 0, 7] = .ok (.pubAck ⟨7, .success, .new⟩, 4) ∧
      (pubAck ⟨7, .success, .new⟩).encodeToVec = .ok [0x40, 4, 0, 7, 0, 0] ∧
      ((∃ written, (pubAck ⟨7, .success, .new⟩).encodeToVec = .ok written) ↔
        ¬(pubAck ⟨7, .success, .new⟩).ReceiveOnly) ∧
      (pubAck ⟨7, .success, .new⟩).Obeys := by
  have decoded : decode [0x40, 2, 0, 7] = .ok (.pubAck ⟨7, .success, .new⟩, 4) := by decide
  obtain ⟨encodes, _, _, obeys⟩ := decoding_canonical _ _ _ decoded
  exact ⟨decoded, by decide, encodes, obeys⟩

end Packet

end V5

end MqttRs
