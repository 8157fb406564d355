import MqttRs.Decoder.Delivery
import MqttRs.Decoder.SizeLimit

namespace MqttRs

/-- One direction of a connection: the bytes on their way, and the decoder at their end. -/
structure Line where
  transit : List UInt8
  decoder : Decoder
  deriving DecidableEq

namespace Line

open Decoder (splitter splitFront)

def idle (version : MqttVersion) (limits : Limits) : Line where
  transit := []
  decoder := (Decoder.new version).withLimits limits

def write (l : Line) (bytes : List UInt8) : Line := { l with transit := l.transit ++ bytes }

def arrive (l : Line) (count : Nat) : Option Line :=
  match l.decoder.feed (l.transit.take count) with
  | (.ok _, decoder) => some { transit := l.transit.drop count, decoder }
  | (.error _, decoder) => some { l with decoder }
  | (.panic, _) | (.hang, _) => none

/-- The bytes that the decoder has and those on their way are these packets, one behind the other. -/
structure Holds (l : Line) (packets : List VersionedIncomingPacket) : Prop where
  wellformed : l.decoder.Wellformed
  current : l.decoder.CurrentHeader
  bytes : (splitter l.decoder.version l.decoder.limits).Holds (l.decoder.pending ++ l.transit)
    (packets.map Outcome.ok)

/-- Two lines to decoders of the same version, under the same limits. -/
structure SameKind (l m : Line) : Prop where
  version : m.decoder.version = l.decoder.version
  limits : m.decoder.limits = l.decoder.limits

variable {l m : Line} {packets : List VersionedIncomingPacket} {version : MqttVersion} {limits : Limits}

theorem idle_holds (version : MqttVersion) (limits : Limits) : (idle version limits).Holds [] where
  wellformed := Decoder.new_wellformed version limits
  current := rfl
  bytes := .nil

theorem write_sameKind (l : Line) (bytes : List UInt8) : SameKind l (l.write bytes) := ⟨rfl, rfl⟩

theorem Holds.write (holds : l.Holds packets) (same : l.decoder.version = version) {packet : CodecPacket version}
    {taken : VersionedIncomingPacket} {written : List UInt8} (encoded : packet.encodeToVec = .ok written)
    (received : packet.received = .ok taken) (fits : written.length ≤ l.decoder.limits.maxPacketSize) :
    (l.write written).Holds (packets ++ [taken]) where
  wellformed := holds.wellformed
  current := holds.current
  bytes := by
    obtain ⟨first, content, small, whole⟩ := CodecPacket.framed_of_encoded encoded
    have decoded := CodecPacket.decodePacket_encoded encoded
    rw [received] at decoded
    have last := @Decoder.frame_codeword version l.decoder.limits first content small (whole ▸ fits)
    rw [← whole, decoded, ← same] at last
    have longer := holds.bytes.snoc last
    rw [List.append_assoc] at longer
    rw [List.map_append]
    exact longer

theorem arrive_cases (arrives : l.arrive count = some m) :
    m = l ∨ l.decoder.buf.length + (l.transit.take count).length ≤ Isize.max ∧
      m = { transit := l.transit.drop count
            decoder := { l.decoder with buf := l.decoder.buf ++ l.transit.take count } } := by
  rcases l.decoder.feed_cases (l.transit.take count) with ⟨-, fits, result⟩ | ⟨-, reason, result⟩ | ⟨-, result⟩ <;>
    simp only [arrive, result] at arrives <;> cases arrives
  · exact .inr ⟨fits, rfl⟩
  · exact .inl rfl

theorem arrive_sameKind {count : Nat} (arrives : l.arrive count = some m) : SameKind l m := by
  rcases arrive_cases arrives with rfl | ⟨-, rfl⟩ <;> exact ⟨rfl, rfl⟩

theorem Holds.arrive {count : Nat} (holds : l.Holds packets) (arrives : l.arrive count = some m) :
    m.Holds packets := by
  rcases arrive_cases arrives with rfl | ⟨fits, rfl⟩
  · exact holds
  · refine ⟨holds.wellformed.append fits, holds.current.append holds.wellformed _, ?_⟩
    rw [Decoder.pending_append holds.wellformed, List.append_assoc, List.take_append_drop]
    exact holds.bytes

def Waits (d : Decoder) : Prop := splitFront d.version d.limits d.pending = .incomplete

theorem Holds.decode (holds : l.Holds packets) :
    ∃ decoder, SameKind l { l with decoder } ∧
      (l.decoder.decode = (.ok none, decoder) ∧ Holds { l with decoder } packets ∧
          Waits l.decoder ∧ (l.transit = [] → packets = []) ∨
        ∃ packet rest, packets = packet :: rest ∧ l.decoder.decode = (.ok (some packet), decoder) ∧
          Holds { l with decoder } rest) := by
  have kept := Decoder.decode_wellformed holds.wellformed
  have current := holds.current.decode holds.wellformed
  have queue := holds.bytes.front_cases rfl
  rcases Decoder.decode_front holds.wellformed holds.current with
    ⟨front, waiting, result⟩ | ⟨reason, front, -⟩ | ⟨answer, size, front, result⟩
  · rw [result] at kept current
    refine ⟨{ l.decoder with phase := waiting }, ⟨rfl, rfl⟩, .inl ⟨result, ⟨kept, current, holds.bytes⟩, front, ?_⟩⟩
    rcases queue with ⟨-, whole⟩ | ⟨item, left, rest, -, wrong, -⟩
    · exact fun empty => List.map_eq_nil_iff.mp (whole empty)
    · cases front.symm.trans wrong
  · rcases queue with ⟨wrong, -⟩ | ⟨item, left, rest, -, wrong, -⟩ <;> cases front.symm.trans wrong
  · rw [result] at kept current
    obtain ⟨sameVersion, sameLimits, -⟩ := l.decoder.consume_keeps size
    refine ⟨l.decoder.consume size, ⟨sameVersion, sameLimits⟩, .inr ?_⟩
    rcases queue with ⟨wrong, -⟩ | ⟨item, left, rest, whole, first, behind⟩
    · cases front.symm.trans wrong
    · obtain ⟨packet, others, rfl, rfl, rfl⟩ := List.map_eq_cons_iff.mp whole
      obtain ⟨answered, rfl⟩ := FrameFront.frame.inj (front.symm.trans first)
      obtain rfl := Outcome.ofExcept_eq_ok.mp answered
      refine ⟨packet, others, rfl, result, kept, current, ?_⟩
      show (splitter (l.decoder.consume size).version (l.decoder.consume size).limits).Holds _ _
      rw [sameVersion, sameLimits]
      exact behind

theorem room_of_waits {d : Decoder} (waits : Waits d) :
    d.pending.length < 2 ^ 32 ∧
      d.pending.length < Usize.saturatingAdd d.limits.maxPacketSize Decoder.maxPacketOverhead := by
  unfold Waits splitFront at waits
  cases read : Decoder.readHeader d.limits d.pending with
  | broken reason =>
    rw [read] at waits
    cases waits
  | incomplete =>
    have few := Decoder.readHeader_incomplete read
    have small : d.pending.length < 2 ^ 32 := by omega
    exact ⟨small, Decoder.room_of_few (.inl few) small⟩
  | frame rlenLen remainingLength =>
    rw [read] at waits
    dsimp only at waits
    split at waits
    · rename_i short
      obtain ⟨first, rest, -, shortest, small, fits⟩ := Decoder.readHeader_frame read
      have few := VariableByteInteger.length_bytes_le remainingLength
      have below : d.pending.length < 2 ^ 32 := by
        rw [VariableByteInteger.max] at small
        omega
      exact ⟨below, Decoder.room_of_few (.inr (Nat.lt_of_lt_of_le short fits)) below⟩
    · cases waits

theorem arrive_of_fed {byte : UInt8} {rest : List UInt8} (next : l.transit = byte :: rest)
    (fed : (l.decoder.feed [byte]).1 = .ok ()) : ∃ decoder, l.arrive 1 = some { transit := rest, decoder } := by
  unfold arrive
  rw [next, List.take_succ_cons, List.take_zero]
  cases result : l.decoder.feed [byte] with
  | mk outcome decoder =>
    rw [result] at fed
    obtain rfl : outcome = .ok () := fed
    exact ⟨decoder, rfl⟩

theorem Holds.advances {packet : VersionedIncomingPacket} (holds : l.Holds (packet :: packets)) :
    l.decoder.decode.1 = .ok (some packet) ∨
      ∃ byte rest decoder, l.transit = byte :: rest ∧ l.arrive 1 = some { transit := rest, decoder } := by
  obtain ⟨decoder, -, ⟨result, -, waits, whole⟩ | ⟨_, _, same, result, -⟩⟩ := holds.decode
  · right
    cases next : l.transit with
    | nil => cases whole next
    | cons byte rest =>
      obtain ⟨few, room⟩ := room_of_waits waits
      obtain ⟨decoder, arrives⟩ := arrive_of_fed next ((Decoder.feed_one_iff holds.wellformed few byte).mpr room)
      exact ⟨byte, rest, decoder, rfl, arrives⟩
  · left
    cases same
    rw [result]

end Line

end MqttRs
