import MqttRs.Codec.Classification
import MqttRs.V311.Packet
import MqttRs.V5.RoundTrip

/-! The packets of one direction among those of both, and what a client makes of a packet of either direction. -/

namespace MqttRs

theorem tagged_tagged {ε α β γ σ : Type} (outcome : Outcome ε (α × σ)) (tag : α → β) (next : β → γ) :
    (outcome.tagged tag).tagged next = outcome.tagged (next ∘ tag) := by
  cases outcome <;> rfl

namespace V5

/-- The types that only a client sends. -/
def clientTypes : List UInt8 := [0x10, 0x80, 0xA0, 0xC0]

def IncomingPacket.toPacket : IncomingPacket → Packet
  | connAck packet => .connAck packet
  | publish packet => .publish packet
  | pubAck packet => .pubAck packet
  | pubRec packet => .pubRec packet
  | pubRel packet => .pubRel packet
  | pubComp packet => .pubComp packet
  | subAck packet => .subAck packet
  | unsubAck packet => .unsubAck packet
  | pingResp packet => .pingResp packet
  | disconnect packet => .disconnect packet
  | auth packet => .auth packet

def OutgoingPacket.toPacket : OutgoingPacket → Packet
  | connect packet => .connect packet
  | publish packet => .publish packet
  | pubAck packet => .pubAck packet
  | pubRec packet => .pubRec packet
  | pubRel packet => .pubRel packet
  | pubComp packet => .pubComp packet
  | subscribe packet => .subscribe packet
  | unsubscribe packet => .unsubscribe packet
  | pingReq packet => .pingReq packet
  | disconnect packet => .disconnect packet
  | auth packet => .auth packet

theorem OutgoingPacket.encodeToVec_eq (packet : OutgoingPacket) : packet.encodeToVec = packet.toPacket.encodeToVec := by
  cases packet <;> rfl

namespace IncomingPacket

variable {buf : List UInt8} {packetType : UInt8}

theorem decodeType_client (member : packetType ∈ clientTypes) (buf : List UInt8) :
    decodeType packetType buf = .error (.unexpectedPacket packetType) := by
  simp only [clientTypes, List.mem_cons, List.not_mem_nil, or_false] at member
  rcases member with rfl | rfl | rfl | rfl <;> rfl

theorem decodeType_server (other : packetType ∉ clientTypes) (buf : List UInt8) :
    (decodeType packetType buf).tagged toPacket = Packet.decodeType packetType buf := by
  rw [Packet.decodeType.eq_def]
  split
  case h_16 =>
    rw [decodeType.eq_def]
    split <;> first | contradiction | rfl
  case h_1 | h_8 | h_10 | h_12 => exact absurd (by decide) other
  all_goals exact tagged_tagged _ _ _

theorem decode_client (ofType : OfType packetType buf) (member : packetType ∈ clientTypes) :
    decode buf = .error (.unexpectedPacket packetType) := by
  rw [decode, dispatch_of_type ofType, decodeType_client member]

theorem decode_server (ofType : OfType packetType buf) (other : packetType ∉ clientTypes) :
    (decode buf).tagged toPacket = Packet.decode buf := by
  rw [decode, dispatch_of_type ofType, decodeType_server other, Packet.decode, dispatch_of_type ofType]

end IncomingPacket

instance (packet : Disconnect) : Decidable packet.ClientOnly :=
  decidable_of_iff (packet.reasonCode = .disconnectWithWillMessage ∨ packet.properties.hasIdentifier 0x11 = true)
    (or_congr_right Disconnect.hasSessionExpiry_iff)

instance (packet : Auth) : Decidable packet.ClientOnly := inferInstanceAs (Decidable (packet.reasonCode = .reAuthenticate))

namespace Packet

def packetType : Packet → UInt8
  | connect _ => 0x10
  | connAck _ => 0x20
  | publish _ => 0x30
  | pubAck _ => 0x40
  | pubRec _ => 0x50
  | pubRel _ => 0x60
  | pubComp _ => 0x70
  | subscribe _ => 0x80
  | subAck _ => 0x90
  | unsubscribe _ => 0xA0
  | unsubAck _ => 0xB0
  | pingReq _ => 0xC0
  | pingResp _ => 0xD0
  | disconnect _ => 0xE0
  | auth _ => 0xF0

/-- What a client makes of a packet that was encoded: what only a client may send is refused. -/
def received : Packet → Except DecodeError IncomingPacket
  | connect _ => .error (.unexpectedPacket 0x10)
  | connAck packet => .ok (.connAck packet)
  | publish packet => .ok (.publish packet)
  | pubAck packet => .ok (.pubAck packet)
  | pubRec packet => .ok (.pubRec packet)
  | pubRel packet => .ok (.pubRel packet)
  | pubComp packet => .ok (.pubComp packet)
  | subscribe _ => .error (.unexpectedPacket 0x80)
  | subAck packet => .ok (.subAck packet)
  | unsubscribe _ => .error (.unexpectedPacket 0xA0)
  | unsubAck packet => .ok (.unsubAck packet)
  | pingReq _ => .error (.unexpectedPacket 0xC0)
  | pingResp packet => .ok (.pingResp packet)
  | disconnect packet => if packet.ClientOnly then .error .malformedPacket else .ok (.disconnect packet)
  | auth packet => if packet.ClientOnly then .error .malformedPacket else .ok (.auth packet)

variable {packet : Packet} {written : List UInt8}

theorem ofType_of_encoded (encoded : packet.encodeToVec = .ok written) (tail : List UInt8) :
    OfType packet.packetType (written ++ tail) := by
  have encodes := encodeToVec_eq_ok.mp encoded
  cases packet with
  | connect packet => exact encodes.ofType tail (Connect.conforms.high packet)
  | connAck packet => exact encodes.ofType tail (ConnAck.conforms.high packet)
  | publish packet => exact encodes.ofType tail (Publish.conforms.high packet)
  | pubAck packet => exact encodes.ofType tail (PubAck.conforms.high packet)
  | pubRec packet => exact encodes.ofType tail (PubRec.conforms.high packet)
  | pubRel packet => exact encodes.ofType tail (PubRel.conforms.high packet)
  | pubComp packet => exact encodes.ofType tail (PubComp.conforms.high packet)
  | subscribe packet => exact encodes.ofType tail (Subscribe.conforms.high packet)
  | subAck packet => exact encodes.ofType tail (SubAck.conforms.high packet)
  | unsubscribe packet => exact encodes.ofType tail (Unsubscribe.conforms.high packet)
  | unsubAck packet => exact encodes.ofType tail (UnsubAck.conforms.high packet)
  | pingReq packet => exact encodes.ofType tail (PingReq.conforms.high packet)
  | pingResp packet => exact encodes.ofType tail (PingResp.conforms.high packet)
  | disconnect packet => exact encodes.ofType tail (Disconnect.conforms.high packet)
  | auth packet => exact encodes.ofType tail (Auth.conforms.high packet)

theorem received_final {reason : DecodeError} (refused : packet.received = .error reason) :
    malformedIfInsufficient reason = reason := by
  cases packet with
  | disconnect packet =>
    rw [received] at refused
    split at refused <;> cases refused
    rfl
  | auth packet =>
    rw [received] at refused
    split at refused <;> cases refused
    rfl
  | connect _ | subscribe _ | unsubscribe _ | pingReq _ =>
    cases refused
    rfl
  | _ => cases refused

end Packet

section Encoded

variable {packet : Packet} {written : List UInt8}

theorem Packet.decode_both (encoded : packet.encodeToVec = .ok written) (both : ¬packet.ClientOnly) (tail : List UInt8) :
    decode (written ++ tail) = .ok (packet, written.length) := by
  obtain ⟨sendable, framed⟩ := encodeToVec_eq_ok.mp encoded
  obtain ⟨inside, taken⟩ := take_eq_iff.mpr ⟨rfl, tail, (rfl : written ++ tail = written ++ tail)⟩
  rw [decode_eq_ok, taken]
  exact ⟨inside, .inl ⟨accepted_of_sendable sendable both, framed⟩⟩

theorem Packet.decode_clientOnly (encoded : packet.encodeToVec = .ok written) (clientOnly : packet.ClientOnly)
    (tail : List UInt8) : decode (written ++ tail) = .error .malformedPacket := by
  have encodes := encodeToVec_eq_ok.mp encoded
  have ofType := ofType_of_encoded encoded tail
  cases packet with
  | disconnect packet => exact dispatch_refused ofType rfl (Disconnect.decode_refused encodes clientOnly tail)
  | auth packet => exact dispatch_refused ofType rfl (Auth.decode_refused encodes clientOnly tail)
  | connect _ | connAck _ | publish _ | pubAck _ | pubRec _ | pubRel _ | pubComp _ | subscribe _ | subAck _
  | unsubscribe _ | unsubAck _ | pingReq _ | pingResp _ => exact clientOnly.elim

theorem IncomingPacket.received_toPacket {packet : IncomingPacket} (both : ¬packet.toPacket.ClientOnly) :
    packet.toPacket.received = .ok packet := by
  cases packet with
  | disconnect packet => exact if_neg both
  | auth packet => exact if_neg both
  | _ => rfl

theorem Packet.received_clientOnly (clientOnly : packet.ClientOnly) : packet.received = .error .malformedPacket := by
  cases packet with
  | disconnect packet => exact if_pos clientOnly
  | auth packet => exact if_pos clientOnly
  | _ => exact clientOnly.elim

theorem Packet.received_client (member : packet.packetType ∈ clientTypes) :
    packet.received = .error (.unexpectedPacket packet.packetType) := by
  cases packet with
  | connect _ | subscribe _ | unsubscribe _ | pingReq _ => rfl
  | _ => simp [packetType, clientTypes] at member

/-- A client takes an encoded packet as `received` says, whatever follows it. -/
theorem IncomingPacket.decode_encoded (encoded : packet.encodeToVec = .ok written) (tail : List UInt8) :
    decode (written ++ tail) = .ofExcept (packet.received.map (·, written.length)) := by
  have ofType := Packet.ofType_of_encoded encoded tail
  by_cases member : packet.packetType ∈ clientTypes
  · rw [decode_client ofType member, Packet.received_client member]
    rfl
  · have agree := decode_server ofType member
    by_cases clientOnly : packet.ClientOnly
    · rw [Packet.decode_clientOnly encoded clientOnly, tagged_eq_error] at agree
      rw [agree, Packet.received_clientOnly clientOnly]
      rfl
    · rw [Packet.decode_both encoded clientOnly, Outcome.tagged_eq_ok] at agree
      obtain ⟨given, decoded, rfl⟩ := agree
      rw [decoded, received_toPacket clientOnly]
      rfl

end Encoded

end V5

namespace V311

/-- The types that only a client sends. -/
def clientTypes : List UInt8 := [0x10, 0x80, 0xA0, 0xC0, 0xE0]

def IncomingPacket.toPacket : IncomingPacket → Packet
  | connAck packet => .connAck packet
  | publish packet => .publish packet
  | pubAck packet => .pubAck packet
  | pubRec packet => .pubRec packet
  | pubRel packet => .pubRel packet
  | pubComp packet => .pubComp packet
  | subAck packet => .subAck packet
  | unsubAck packet => .unsubAck packet
  | pingResp packet => .pingResp packet

def OutgoingPacket.toPacket : OutgoingPacket → Packet
  | connect packet => .connect packet
  | publish packet => .publish packet
  | pubAck packet => .pubAck packet
  | pubRec packet => .pubRec packet
  | pubRel packet => .pubRel packet
  | pubComp packet => .pubComp packet
  | subscribe packet => .subscribe packet
  | unsubscribe packet => .unsubscribe packet
  | pingReq packet => .pingReq packet
  | disconnect packet => .disconnect packet

theorem OutgoingPacket.encodeToVec_eq (packet : OutgoingPacket) : packet.encodeToVec = packet.toPacket.encodeToVec := by
  cases packet <;> rfl

namespace IncomingPacket

variable {buf : List UInt8} {packetType : UInt8}

theorem decodeType_client (member : packetType ∈ clientTypes) (buf : List UInt8) :
    decodeType packetType buf = .error (.unexpectedPacket packetType) := by
  simp only [clientTypes, List.mem_cons, List.not_mem_nil, or_false] at member
  rcases member with rfl | rfl | rfl | rfl | rfl <;> rfl

theorem decodeType_server (other : packetType ∉ clientTypes) (buf : List UInt8) :
    (decodeType packetType buf).tagged toPacket = Packet.decodeType packetType buf := by
  rw [Packet.decodeType.eq_def]
  split
  case h_15 =>
    rw [decodeType.eq_def]
    split <;> first | contradiction | rfl
  case h_1 | h_8 | h_10 | h_12 | h_14 => exact absurd (by decide) other
  all_goals exact tagged_tagged _ _ _

theorem decode_client (ofType : OfType packetType buf) (member : packetType ∈ clientTypes) :
    decode buf = .error (.unexpectedPacket packetType) := by
  rw [decode, dispatch_of_type ofType, decodeType_client member]

theorem decode_server (ofType : OfType packetType buf) (other : packetType ∉ clientTypes) :
    (decode buf).tagged toPacket = Packet.decode buf := by
  rw [decode, dispatch_of_type ofType, decodeType_server other, Packet.decode, dispatch_of_type ofType]

end IncomingPacket

namespace Packet

def packetType : Packet → UInt8
  | connect _ => 0x10
  | connAck _ => 0x20
  | publish _ => 0x30
  | pubAck _ => 0x40
  | pubRec _ => 0x50
  | pubRel _ => 0x60
  | pubComp _ => 0x70
  | subscribe _ => 0x80
  | subAck _ => 0x90
  | unsubscribe _ => 0xA0
  | unsubAck _ => 0xB0
  | pingReq _ => 0xC0
  | pingResp _ => 0xD0
  | disconnect _ => 0xE0

/-- What a client makes of a packet that was encoded: what only a client sends is refused. -/
def received : Packet → Except DecodeError IncomingPacket
  | connect _ => .error (.unexpectedPacket 0x10)
  | connAck packet => .ok (.connAck packet)
  | publish packet => .ok (.publish packet)
  | pubAck packet => .ok (.pubAck packet)
  | pubRec packet => .ok (.pubRec packet)
  | pubRel packet => .ok (.pubRel packet)
  | pubComp packet => .ok (.pubComp packet)
  | subscribe _ => .error (.unexpectedPacket 0x80)
  | subAck packet => .ok (.subAck packet)
  | unsubscribe _ => .error (.unexpectedPacket 0xA0)
  | unsubAck packet => .ok (.unsubAck packet)
  | pingReq _ => .error (.unexpectedPacket 0xC0)
  | pingResp packet => .ok (.pingResp packet)
  | disconnect _ => .error (.unexpectedPacket 0xE0)

variable {packet : Packet} {written : List UInt8}

theorem ofType_of_encoded (encoded : packet.encodeToVec = .ok written) (tail : List UInt8) :
    OfType packet.packetType (written ++ tail) := by
  have encodes := encodeToVec_eq_ok.mp encoded
  cases packet with
  | connect packet => exact encodes.ofType tail (Connect.conforms.high packet)
  | connAck packet => exact encodes.ofType tail (ConnAck.conforms.high packet)
  | publish packet => exact encodes.ofType tail (Publish.conforms.high packet)
  | pubAck packet => exact encodes.ofType tail (PubAck.conforms.high packet)
  | pubRec packet => exact encodes.ofType tail (PubRec.conforms.high packet)
  | pubRel packet => exact encodes.ofType tail (PubRel.conforms.high packet)
  | pubComp packet => exact encodes.ofType tail (PubComp.conforms.high packet)
  | subscribe packet => exact encodes.ofType tail (Subscribe.conforms.high packet)
  | subAck packet => exact encodes.ofType tail (SubAck.conforms.high packet)
  | unsubscribe packet => exact encodes.ofType tail (Unsubscribe.conforms.high packet)
  | unsubAck packet => exact encodes.ofType tail (UnsubAck.conforms.high packet)
  | pingReq packet => exact encodes.ofType tail (PingReq.conforms.high packet)
  | pingResp packet => exact encodes.ofType tail (PingResp.conforms.high packet)
  | disconnect packet => exact encodes.ofType tail (Disconnect.conforms.high packet)

theorem decode_written (encoded : packet.encodeToVec = .ok written) (tail : List UInt8) :
    decode (written ++ tail) = .ok (packet, written.length) := by
  obtain ⟨inside, taken⟩ := take_eq_iff.mpr ⟨rfl, tail, (rfl : written ++ tail = written ++ tail)⟩
  rw [decode_eq_ok, taken, decodes_iff_encodes]
  exact ⟨inside, encodeToVec_eq_ok.mp encoded⟩

theorem received_client (member : packet.packetType ∈ clientTypes) :
    packet.received = .error (.unexpectedPacket packet.packetType) := by
  cases packet with
  | connect _ | subscribe _ | unsubscribe _ | pingReq _ | disconnect _ => rfl
  | _ => simp [packetType, clientTypes] at member

theorem received_final {reason : DecodeError} (refused : packet.received = .error reason) :
    malformedIfInsufficient reason = reason := by
  cases packet with
  | connect _ | subscribe _ | unsubscribe _ | pingReq _ | disconnect _ =>
    cases refused
    rfl
  | _ => cases refused

end Packet

theorem IncomingPacket.received_toPacket (packet : IncomingPacket) : packet.toPacket.received = .ok packet := by
  cases packet <;> rfl

/-- A client takes an encoded packet as `received` says, whatever follows it. -/
theorem IncomingPacket.decode_encoded {packet : Packet} {written : List UInt8} (encoded : packet.encodeToVec = .ok written)
    (tail : List UInt8) : decode (written ++ tail) = .ofExcept (packet.received.map (·, written.length)) := by
  have ofType := Packet.ofType_of_encoded encoded tail
  by_cases member : packet.packetType ∈ clientTypes
  · rw [decode_client ofType member, Packet.received_client member]
    rfl
  · have agree := decode_server ofType member
    rw [Packet.decode_written encoded, Outcome.tagged_eq_ok] at agree
    obtain ⟨given, decoded, rfl⟩ := agree
    rw [decoded, received_toPacket]
    rfl

end V311

end MqttRs
