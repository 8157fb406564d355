import MqttRs.Decoder.Fragmentation
import MqttRs.Directions

namespace MqttRs

def CodecPacket : MqttVersion → Type
  | .v5 => V5.Packet
  | .v311 => V311.Packet

namespace CodecPacket

def encodeToVec : {version : MqttVersion} → CodecPacket version → Outcome EncodeError (List UInt8)
  | .v5, packet => V5.Packet.encodeToVec packet
  | .v311, packet => V311.Packet.encodeToVec packet

/-- What a client makes of a packet that was encoded. -/
def received : {version : MqttVersion} → CodecPacket version → Except DecodeError VersionedIncomingPacket
  | .v5, packet => (V5.Packet.received packet).map .v5
  | .v311, packet => (V311.Packet.received packet).map .v311

variable {version : MqttVersion} {packet : CodecPacket version} {written : List UInt8}

theorem framed_of_encoded (encoded : packet.encodeToVec = .ok written) :
    ∃ first content, content.length ≤ VariableByteInteger.max ∧ written = frame first content := by
  cases version with
  | v5 =>
    obtain ⟨-, content, -, small, whole⟩ := V5.Packet.encodeToVec_eq_ok.mp encoded
    exact ⟨_, content, small, whole⟩
  | v311 =>
    obtain ⟨-, content, -, small, whole⟩ := V311.Packet.encodeToVec_eq_ok.mp encoded
    exact ⟨_, content, small, whole⟩

theorem decodePacket_encoded (encoded : packet.encodeToVec = .ok written) :
    Decoder.decodePacket version written = .ofExcept packet.received := by
  cases version with
  | v5 =>
    have decoded := V5.IncomingPacket.decode_encoded encoded []
    rw [List.append_nil] at decoded
    rw [Decoder.decodePacket, decoded, received]
    cases verdict : V5.Packet.received packet with
    | ok taken => rfl
    | error reason => exact congrArg Outcome.error (V5.Packet.received_final verdict)
  | v311 =>
    have decoded := V311.IncomingPacket.decode_encoded encoded []
    rw [List.append_nil] at decoded
    rw [Decoder.decodePacket, decoded, received]
    cases verdict : V311.Packet.received packet with
    | ok taken => rfl
    | error reason => exact congrArg Outcome.error (V311.Packet.received_final verdict)

end CodecPacket

namespace Decoder

variable {version : MqttVersion} {limits : Limits} {first : UInt8} {content part : List UInt8}

theorem length_frame (first : UInt8) (content : List UInt8) :
    (frame first content).length = 1 + (VariableByteInteger.bytes content.length).length + content.length := by
  rw [frame, List.length_cons, List.length_append]
  omega

theorem readHeader_whole (small : content.length ≤ VariableByteInteger.max) (more : List UInt8) :
    readHeader limits (frame first content ++ more) =
      if limits.maxPacketSize < (frame first content).length then
        .broken (.packetTooLarge (frame first content).length limits.maxPacketSize)
      else .frame (VariableByteInteger.bytes content.length).length content.length := by
  rw [length_frame, ← @readHeader_bytes _ _ first small (content ++ more), frame, List.cons_append, List.append_assoc]

theorem splitFront_part (small : content.length ≤ VariableByteInteger.max) (starts : part <+: frame first content)
    (strict : part ≠ frame first content) :
    splitFront version limits part = .incomplete ∨
      limits.maxPacketSize < (frame first content).length ∧
        splitFront version limits part =
          .broken (.error (.packetTooLarge (frame first content).length limits.maxPacketSize)) := by
  rcases beginning_cases starts strict with rfl | ⟨rest, more, rfl, whole, left⟩
  · exact .inl rfl
  · rcases parse_beginning small whole left with short | ⟨after, read, few⟩
    · left
      rw [splitFront, readHeader, short]
    · have header := @readHeader_bytes limits _ first small after
      obtain ⟨-, front⟩ := VariableByteInteger.parse_eq_ok.mp read
      rw [VariableByteInteger.toNat_ofNat small] at front
      rw [← front, ← length_frame first content] at header
      by_cases large : limits.maxPacketSize < (frame first content).length
      · rw [if_pos large] at header
        exact .inr ⟨large, splitFront_eq_broken.mpr ⟨_, header, rfl⟩⟩
      · rw [if_neg large] at header
        left
        rw [splitFront, header]
        apply if_pos
        rw [front, List.length_cons, List.length_append]
        omega

theorem frame_codeword (small : content.length ≤ VariableByteInteger.max)
    (fits : (frame first content).length ≤ limits.maxPacketSize) :
    (splitter version limits).Codeword (frame first content) (decodePacket version (frame first content)) where
  whole more := by
    refine splitFront_eq_frame.mpr ⟨(VariableByteInteger.bytes content.length).length, content.length, ?_, ?_, ?_, ?_⟩
    · rw [readHeader_whole small, if_neg (Nat.not_lt_of_le fits)]
    · rw [← length_frame first, List.length_append]
      exact Nat.le_add_right _ _
    · rw [← length_frame first, List.take_left]
    · rw [← length_frame first, List.drop_left]
  part starts strict := by
    rcases splitFront_part small starts strict with waits | ⟨large, -⟩
    · exact waits
    · exact absurd fits (Nat.not_le_of_lt large)

theorem frame_stopper (small : content.length ≤ VariableByteInteger.max)
    (large : limits.maxPacketSize < (frame first content).length) :
    (splitter version limits).Stopper (frame first content)
      (.error (.packetTooLarge (frame first content).length limits.maxPacketSize)) where
  whole more := splitFront_eq_broken.mpr ⟨_, by rw [readHeader_whole small, if_pos large], rfl⟩
  part {part} starts := by
    by_cases whole : part = frame first content
    · right
      have header := @readHeader_whole limits first _ small []
      rw [List.append_nil, if_pos large, ← whole] at header
      exact splitFront_eq_broken.mpr ⟨_, header, by rw [whole]⟩
    · exact (splitFront_part small starts whole).imp_right And.right

/-- The answers for packets that arrive in these frames: each packet as a client takes it, up to a frame over the limit. -/
def answers (limits : Limits) : List (CodecPacket version × List UInt8) →
    List (Outcome DecodeError VersionedIncomingPacket)
  | [] => []
  | (packet, written) :: rest =>
    if limits.maxPacketSize < written.length then [.error (.packetTooLarge written.length limits.maxPacketSize)]
    else .ofExcept packet.received :: answers limits rest

theorem carries_answers (limits : Limits) {sent : List (CodecPacket version × List UInt8)}
    (encoded : ∀ each ∈ sent, each.1.encodeToVec = .ok each.2) :
    (splitter version limits).Carries (sent.map Prod.snd) (answers limits sent) := by
  induction sent with
  | nil => exact .nil
  | cons each rest ih =>
    obtain ⟨packet, written⟩ := each
    have here := encoded _ (.head _)
    obtain ⟨first, content, small, rfl⟩ := CodecPacket.framed_of_encoded here
    rw [answers, List.map_cons]
    split
    · rename_i large
      exact .broken (frame_stopper small large)
    · rename_i fits
      rw [← CodecPacket.decodePacket_encoded here]
      exact .frame (frame_codeword small (Nat.le_of_not_lt fits)) (ih fun other member => encoded other (.tail _ member))

namespace Streamed

variable {s : Streamed}

theorem Follows.results_prefix (follows : s.Follows version limits) :
    s.results <+: (splitter version limits).results s.stream := by
  cases broken : s.broken with
  | true => exact (follows.ends broken).taken_eq ▸ List.prefix_refl _
  | false => exact Framer.Splits.taken_prefix (follows.splits broken)

theorem Follows.results_drained (follows : s.Follows version limits) (drained : s.drained = true) :
    s.results = (splitter version limits).results s.stream := by
  cases broken : s.broken with
  | true => exact (follows.ends broken).taken_eq
  | false => exact (follows.splits broken).taken_eq (follows.waits drained broken)

/-- Whatever a peer encodes one packet after another, and however it arrives, `decode` hands out the packets in order,
    each as `received` says, and holds none back that arrived whole. -/
theorem packets_delivered {sent : List (CodecPacket version × List UInt8)} {ops : List StreamOp}
    (encoded : ∀ each ∈ sent, each.1.encodeToVec = .ok each.2) (run : Run (Steps next) (start version limits) ops s)
    (starts : s.stream <+: (sent.map Prod.snd).flatten) :
    s.results <+: answers limits sent ∧
      (s.drained = true → ∀ arrived, ((sent.take arrived).map Prod.snd).flatten <+: s.stream →
        answers limits (sent.take arrived) <+: s.results) ∧ s.decoder.CallsReturn := by
  have follows := run.invariant next_follows (start_follows version limits)
  refine ⟨?_, ?_, follows.wellformed.callsReturn⟩
  · have carries := carries_answers limits encoded
    exact follows.results_prefix.trans (Framer.Carries.results_prefix carries rfl starts)
  · rintro drained arrived ⟨more, whole⟩
    have part : ∀ each ∈ sent.take arrived, each.1.encodeToVec = .ok each.2 := fun each member =>
      encoded each (List.mem_of_mem_take member)
    have carries := carries_answers limits part
    rw [follows.results_drained drained, ← whole]
    exact carries.prefix_results more

def mixedPackets : List (CodecPacket .v311 × List UInt8) :=
  [(V311.Packet.subscribe ⟨5, [⟨"a", .atMostOnce⟩]⟩, [0x82, 6, 0, 5, 0, 1, 97, 0]),
    (V311.Packet.pubAck ⟨7⟩, [0x40, 2, 0, 7]), (V311.Packet.pingResp ⟨⟩, [0xD0, 0])]

def mixedRun : List StreamOp :=
  [.feed [0x82, 6, 0], .decode, .feed [5, 0, 1, 97, 0, 0x40], .decode, .feed [2, 0, 7, 0xD0], .decode, .decode]

theorem mixedRun_delivered :
    ∃ s, Run (Steps next) (start .v311 .new) mixedRun s ∧
      s.results = [.error (.unexpectedPacket 0x80), .ok (.v311 (.pubAck ⟨7⟩))] ∧
      s.results <+: answers .new mixedPackets ∧
      (s.drained = true → ∀ arrived, ((mixedPackets.take arrived).map Prod.snd).flatten <+: s.stream →
        answers .new (mixedPackets.take arrived) <+: s.results) ∧ s.decoder.CallsReturn := by
  have completes : (runFrom next (start .v311 .new) mixedRun).any (fun s =>
      decide (s.results = [.error (.unexpectedPacket 0x80), .ok (.v311 (.pubAck ⟨7⟩))] ∧
        s.stream = [0x82, 6, 0, 5, 0, 1, 97, 0, 0x40, 2, 0, 7, 0xD0])) = true := by decide
  obtain ⟨s, ends, reached⟩ := (Option.any_eq_true _ _).mp completes
  obtain ⟨results, stream⟩ := of_decide_eq_true reached
  have run := run_of_runFrom ends
  refine ⟨s, run, results, packets_delivered ?_ run ?_⟩
  · intro each member
    simp only [mixedPackets, List.mem_cons, List.not_mem_nil, or_false] at member
    rcases member with rfl | rfl | rfl <;> decide
  · rw [stream]
    exact ⟨[0], rfl⟩

end Streamed

end Decoder

end MqttRs
