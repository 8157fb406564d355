import MqttRs.Connection

namespace MqttRs

namespace V5

section Acks

variable {γ : Type} [ByteCode γ] {packetType flags : UInt8} {success : γ}
  {allowed : Properties → Except DecodeError Unit} {checks : Except EncodeError Unit}

theorem ackLayout_encodes {packet : ReasonCodePacket γ} (plain : packet.properties = .new) (valid : checks = .ok ()) :
    ∃ written, (ackLayout packetType flags success allowed checks packet).Encodes written ∧ written.length = 6 := by
  have body : (writeReasonCodePacket packet.packetId (ByteCode.asU8 packet.reasonCode) packet.properties).Writes
      (packet.packetId.toBeBytes ++ [ByteCode.asU8 packet.reasonCode] ++ [0]) := by
    rw [plain, writeReasonCodePacket, ByteWriter.writes_append]
    refine ⟨_, _, ByteWriter.writes_append.mpr ⟨_, _, writes_writeU16.mpr rfl, ByteWriter.writes_byte.mpr rfl, rfl⟩, ?_, rfl⟩
    rfl
  have length : (packet.packetId.toBeBytes ++ [ByteCode.asU8 packet.reasonCode] ++ [0]).length = 4 := by
    simp
  refine ⟨_, ⟨valid, _, body, ?_, rfl⟩, ?_⟩
  · rw [length]
    decide
  · rw [Decoder.length_frame, length]
    rfl

end Acks

structure OutgoingPacket.Arrives (packet : OutgoingPacket) (incoming : IncomingPacket) (written : List UInt8) : Prop where
  encoded : packet.encodeToVec = .ok written
  received : packet.toPacket.received = .ok incoming

/-- The acknowledgements of a packet identifier, without properties. -/
inductive Acknowledges (packetId : UInt16) : OutgoingPacket → IncomingPacket → Prop
  | pubAck : Acknowledges packetId (.pubAck ⟨packetId, .success, .new⟩) (.pubAck ⟨packetId, .success, .new⟩)
  | pubRec : Acknowledges packetId (.pubRec ⟨packetId, .success, .new⟩) (.pubRec ⟨packetId, .success, .new⟩)
  | pubRel : Acknowledges packetId (.pubRel ⟨packetId, .success, .new⟩) (.pubRel ⟨packetId, .success, .new⟩)
  | pubComp : Acknowledges packetId (.pubComp ⟨packetId, .success, .new⟩) (.pubComp ⟨packetId, .success, .new⟩)

theorem Acknowledges.arrives {packetId : UInt16} {packet : OutgoingPacket} {incoming : IncomingPacket}
    (acknowledges : Acknowledges packetId packet incoming) (nonzero : packetId ≠ 0) :
    ∃ written, packet.Arrives incoming written ∧ written.length = 6 := by
  have encodes : ∃ written, packet.toPacket.layout.Encodes written ∧ written.length = 6 := by
    cases acknowledges with
    | pubAck =>
      have known : PubAckReasonCode.success ≠ .noMatchingSubscribers := by decide
      exact ackLayout_encodes rfl (PubAck.validate_eq_ok.mpr ⟨nonzero, known, rfl⟩)
    | pubRec =>
      have known : PubRecReasonCode.success ≠ .noMatchingSubscribers := by decide
      exact ackLayout_encodes rfl (PubRec.validate_eq_ok.mpr ⟨nonzero, known, rfl⟩)
    | pubRel => exact ackLayout_encodes rfl (PubRel.validate_eq_ok.mpr ⟨nonzero, rfl⟩)
    | pubComp => exact ackLayout_encodes rfl (PubComp.validate_eq_ok.mpr ⟨nonzero, rfl⟩)
  obtain ⟨written, encodes, length⟩ := encodes
  refine ⟨written, ⟨?_, ?_⟩, length⟩
  · rw [OutgoingPacket.encodeToVec_eq]
    exact Packet.encodeToVec_eq_ok.mpr encodes
  · cases acknowledges <;> rfl

inductive IncomingPacket.Exchanged : IncomingPacket → Prop
  | publish (packet : Publish) (identified : packet.packetId.isSome = decide (packet.qos ≠ .atMostOnce)) :
    Exchanged (.publish packet)
  | pubAck (packet : PubAck) : Exchanged (.pubAck packet)
  | pubRec (packet : PubRec) : Exchanged (.pubRec packet)
  | pubRel (packet : PubRel) : Exchanged (.pubRel packet)
  | pubComp (packet : PubComp) : Exchanged (.pubComp packet)

end V5

namespace Connection

variable {c d : Connection} {limits : Side → Limits} {queue : Side → List V5.IncomingPacket} {side : Side}

/-- The packets on their way from each side to the other, under the limits of the decoders. -/
structure Wired (c : Connection) (limits : Side → Limits) (queue : Side → List V5.IncomingPacket) : Prop where
  version : ∀ side, (c.lines side).decoder.version = .v5
  limits : ∀ side, (c.lines side).decoder.limits = limits side
  holds : ∀ side, (c.lines side).Holds ((queue side).map .v5)
  exchanged : ∀ side, ∀ packet ∈ queue side, packet.Exchanged

theorem Wired.change (wired : c.Wired limits queue) {line : Line} {packets : List V5.IncomingPacket}
    (lines : d.lines = Function.update c.lines side line) (same : (c.lines side).SameKind line)
    (holds : line.Holds (packets.map .v5)) (exchanged : ∀ packet ∈ packets, packet.Exchanged) :
    d.Wired limits (Function.update queue side packets) := by
  have each (other : Side) : (d.lines other).decoder.version = .v5 ∧
      (d.lines other).decoder.limits = limits other ∧
      (d.lines other).Holds ((Function.update queue side packets other).map .v5) ∧
      ∀ packet ∈ Function.update queue side packets other, packet.Exchanged := by
    rw [lines]
    by_cases here : other = side
    · subst here
      rw [Function.update_self, Function.update_self, same.version, same.limits]
      exact ⟨wired.version _, wired.limits _, holds, exchanged⟩
    · rw [Function.update_of_ne here, Function.update_of_ne here]
      exact ⟨wired.version _, wired.limits _, wired.holds _, wired.exchanged _⟩
  exact ⟨fun other => (each other).1, fun other => (each other).2.1, fun other => (each other).2.2.1,
    fun other => (each other).2.2.2⟩

theorem Wired.congr (wired : c.Wired limits queue) (lines : d.lines = c.lines) : d.Wired limits queue := by
  constructor <;> intro side
  · rw [lines]
    exact wired.version side
  · rw [lines]
    exact wired.limits side
  · rw [lines]
    exact wired.holds side
  · exact wired.exchanged side

theorem start_wired (users : Side → PacketIdUser) (limits : Side → Limits) :
    (start users limits).Wired limits fun _ => [] where
  version _ := rfl
  limits _ := rfl
  holds side := Line.idle_holds .v5 (limits side)
  exchanged _ _ member := by cases member

theorem sendPacket_arrives {packet : V5.OutgoingPacket} {incoming : V5.IncomingPacket} {written : List UInt8}
    (wired : c.Wired limits queue) (arrives : packet.Arrives incoming written) (exchanged : incoming.Exchanged)
    (fits : written.length ≤ (limits side).maxPacketSize) :
    ∃ lines, c.sendPacket side packet = { c with lines } ∧
      Wired { c with lines } limits (Function.update queue side (queue side ++ [incoming])) := by
  refine ⟨_, by rw [sendPacket, arrives.encoded], ?_⟩
  refine wired.change rfl (Line.write_sameKind _ _) ?_ ?_
  · have encoded := arrives.encoded
    rw [V5.OutgoingPacket.encodeToVec_eq] at encoded
    have received : @CodecPacket.received .v5 packet.toPacket = .ok (.v5 incoming) := by
      show packet.toPacket.received.map _ = _
      rw [arrives.received]
      rfl
    rw [← wired.limits] at fits
    rw [List.map_append]
    exact (wired.holds side).write (wired.version side) encoded received fits
  · intro other member
    rcases List.mem_append.mp member with earlier | last
    · exact wired.exchanged side other earlier
    · exact List.mem_singleton.mp last ▸ exchanged

theorem take_cases (wired : c.Wired limits queue) (side : Side) :
    ∃ lines, ((c.lines side.other).decoder.decode.1 = .ok none ∧ c.take side = { c with lines } ∧
        Wired { c with lines } limits queue) ∨
      ∃ packet rest, queue side.other = packet :: rest ∧ c.take side = { c with lines }.handleIncoming side packet ∧
        packet.Exchanged ∧ Wired { c with lines } limits (Function.update queue side.other rest) := by
  obtain ⟨decoder, same, ⟨result, holds, -, -⟩ | ⟨taken, others, whole, result, holds⟩⟩ :=
    (wired.holds side.other).decode
  · refine ⟨(c.setDecoder side decoder).lines, .inl ⟨by rw [result], by rw [take, result]; rfl, ?_⟩⟩
    have changed := wired.change (d := c.setDecoder side decoder) rfl same holds (wired.exchanged side.other)
    rwa [Function.update_eq_self] at changed
  · obtain ⟨packet, rest, queued, rfl, rfl⟩ := List.map_eq_cons_iff.mp whole
    have exchanged := wired.exchanged side.other
    rw [queued] at exchanged
    refine ⟨(c.setDecoder side decoder).lines,
      .inr ⟨packet, rest, queued, by rw [take, result]; rfl, exchanged packet (.head _), ?_⟩⟩
    exact wired.change (d := c.setDecoder side decoder) rfl same holds fun other member =>
      exchanged other (.tail _ member)

end Connection

end MqttRs
