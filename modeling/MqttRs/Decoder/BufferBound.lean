import MqttRs.Decoder.Fragmentation

namespace MqttRs

namespace Decoder

section Calls

variable {d : Decoder} {rlenLen remainingLength : Nat} {data : List UInt8}

def CachesHeader (d : Decoder) : Prop :=
  ∀ {rlenLen remainingLength}, d.phase = .payload rlenLen remainingLength →
    (∃ vbi, VariableByteInteger.decode (d.buf.drop (d.bufOffset + 1)) = .ok (vbi, rlenLen) ∧
      vbi.value.toNat = remainingLength) ∧ 1 + rlenLen + remainingLength ≤ d.limits.maxPacketSize

theorem CurrentHeader.caches (current : d.CurrentHeader) : d.CachesHeader := by
  intro rlenLen remainingLength phase
  have read : readHeader d.limits d.pending = .frame rlenLen remainingLength := by
    rw [← current, header, phase]
  obtain ⟨first, rest, front, shortest, small, fits⟩ := readHeader_frame read
  refine ⟨⟨⟨UInt32.ofNat remainingLength⟩, ?_, ?_⟩, fits⟩
  · have behind : d.buf.drop (d.bufOffset + 1) = VariableByteInteger.bytes remainingLength ++ rest := by
      rw [← List.drop_drop]
      exact congrArg (List.drop 1) front
    rw [behind, VariableByteInteger.decode_eq, VariableByteInteger.parse_bytes small]
    simp only [Outcome.upTo, List.length_append, Nat.add_sub_cancel, shortest]
  · exact VariableByteInteger.toNat_ofNat small

theorem decode_pending (wellformed : d.Wellformed) :
    d.decode.2.limits = d.limits ∧
      (d.breaksInHeader = true → d.decode.2.pending = []) ∧ d.decode.2.pending <:+ d.pending := by
  rcases decode_cases wellformed with
    ⟨front, waiting, -, result⟩ | ⟨reason, front, result⟩ | ⟨rlenLen, remainingLength, front, -, result⟩ |
    ⟨rlenLen, remainingLength, answer, front, -, -, result⟩ <;> rw [result]
  · refine ⟨rfl, ?_, List.suffix_refl _⟩
    rw [breaksInHeader, front]
    intro wrong
    cases wrong
  · exact ⟨rfl, fun _ => rfl, List.nil_suffix⟩
  · refine ⟨rfl, ?_, List.suffix_refl _⟩
    rw [breaksInHeader, front]
    intro wrong
    cases wrong
  · refine ⟨(d.consume_keeps _).2.1, ?_, ?_⟩
    · rw [breaksInHeader, front]
      intro wrong
      cases wrong
    · rw [pending_consume]
      exact List.drop_suffix _ _

theorem feed_rejected {reason : DecodeError} (rejected : (d.feed data).1 = .error reason) : (d.feed data).2 = d := by
  rcases d.feed_cases data with ⟨-, -, result⟩ | ⟨-, _, result⟩ | ⟨-, result⟩ <;> rw [result] at rejected ⊢
  cases rejected

theorem allowed_le (limits : Limits) :
    Usize.saturatingAdd limits.maxPacketSize maxPacketOverhead ≤ limits.maxPacketSize + 5 :=
  Nat.min_le_left _ _

end Calls

/-- A decoder together with the bytes that it accepted since the last error in a fixed header. -/
structure Buffered where
  decoder : Decoder
  accepted : List UInt8
  deriving DecidableEq

namespace Buffered

def start (version : MqttVersion) (limits : Limits) : Buffered where
  decoder := (new version).withLimits limits
  accepted := []

def next (b : Buffered) : StreamOp → Option Buffered
  | .feed data =>
    match b.decoder.feed data with
    | (.ok _, decoder) => some { decoder, accepted := b.accepted ++ data }
    | (.error _, decoder) => some { b with decoder }
    | (.panic, _) | (.hang, _) => none
  | .decode =>
    match b.decoder.decode with
    | (.ok _, decoder) => some { b with decoder }
    | (.error _, decoder) => some { decoder, accepted := if b.decoder.breaksInHeader then [] else b.accepted }
    | (.panic, _) | (.hang, _) => none

structure Held (limits : Limits) (b : Buffered) : Prop where
  wellformed : b.decoder.Wellformed
  sameLimits : b.decoder.limits = limits
  current : b.decoder.CurrentHeader
  few : b.decoder.pending.length ≤ limits.maxPacketSize + 5
  suffix : b.decoder.pending <:+ b.accepted

variable {version : MqttVersion} {limits : Limits} {b c : Buffered} {op : StreamOp}

theorem start_held (version : MqttVersion) (limits : Limits) : (start version limits).Held limits where
  wellformed := new_wellformed version limits
  sameLimits := rfl
  current := rfl
  few := Nat.zero_le _
  suffix := List.suffix_refl _

theorem Held.feed {data : List UInt8} (held : b.Held limits) (step : Steps next b (.feed data) c) : c.Held limits := by
  rcases b.decoder.feed_cases data with ⟨room, fits, result⟩ | ⟨-, reason, result⟩ | ⟨-, result⟩ <;>
    simp only [Steps, next, result] at step <;> cases step
  · have longer := pending_append held.wellformed data
    refine ⟨held.wellformed.append fits, held.sameLimits, held.current.append held.wellformed data, ?_, ?_⟩
    · rw [longer, List.length_append]
      exact held.sameLimits ▸ room.trans (allowed_le _)
    · obtain ⟨older, whole⟩ := held.suffix
      refine ⟨older, ?_⟩
      rw [longer, ← List.append_assoc, whole]
  · exact held

theorem Held.decode (held : b.Held limits) (step : Steps next b .decode c) : c.Held limits := by
  obtain ⟨sameLimits, emptied, behind⟩ := decode_pending held.wellformed
  have kept := decode_wellformed held.wellformed
  have current := held.current.decode held.wellformed
  have few := behind.length_le.trans held.few
  have suffix := behind.trans held.suffix
  simp only [Steps, next] at step
  split at step <;> rename_i result <;> cases step <;> rw [result] at sameLimits kept current few suffix emptied
  · exact ⟨kept, sameLimits.trans held.sameLimits, current, few, suffix⟩
  · refine ⟨kept, sameLimits.trans held.sameLimits, current, few, ?_⟩
    split
    · rename_i broken
      exact List.suffix_nil.mpr (emptied broken)
    · exact suffix

theorem next_held (held : b.Held limits) (step : Steps next b op c) : c.Held limits := by
  cases op with
  | feed data => exact held.feed step
  | decode => exact held.decode step

/-- The bounds of the buffer, what the decoder remembers about it, and that every call comes back. -/
structure Bounded (limits : Limits) (b : Buffered) : Prop where
  offset : b.decoder.bufOffset ≤ b.decoder.buf.length / 2
  unconsumed : b.decoder.buf.length - b.decoder.bufOffset ≤ limits.maxPacketSize + 5
  total : b.decoder.buf.length ≤ 2 * (limits.maxPacketSize + 5)
  sameLimits : b.decoder.limits = limits
  cached : b.decoder.CachesHeader
  suffix : b.decoder.buf.drop b.decoder.bufOffset <:+ b.accepted
  rejected : ∀ {data reason}, (b.decoder.feed data).1 = .error reason → (b.decoder.feed data).2 = b.decoder
  feeds : ∀ {data}, b.decoder.buf.length + data.length ≤ Isize.max → (b.decoder.feed data).1.Returns
  decodes : b.decoder.decode.1.Returns
  drains : ∀ {rlenLen remainingLength}, b.decoder.header = .frame rlenLen remainingLength →
    1 + rlenLen + remainingLength ≤ b.decoder.buf.length - b.decoder.bufOffset →
      b.decoder.bufOffset + (1 + rlenLen + remainingLength) ≤ b.decoder.buf.length

theorem Held.bounded (held : b.Held limits) : b.Bounded limits := by
  have half := held.wellformed.offset
  have few := held.few
  rw [length_pending] at few
  refine ⟨half, few, ?_, held.sameLimits, held.current.caches, held.suffix, feed_rejected, feed_returns,
    decode_returns held.wellformed, ?_⟩
  · omega
  · intro rlenLen remainingLength _ complete
    omega

/-- After every call of every run under fixed limits, the buffer is bounded by them and what the decoder remembers
    about it holds. -/
theorem buffer_bounded {ops : List StreamOp} (run : Run (Steps next) (start version limits) ops b) :
    b.Bounded limits := by
  have held := run.invariant next_held (start_held version limits)
  exact held.bounded

def brokenHeaderRun : List StreamOp :=
  [.feed [0xD0, 0x00, 0x30, 0x06, 0x00], .decode, .decode, .feed [0x00, 0x00, 0x00, 0x00, 0x00, 0x00, 0x00, 0x00, 0x00,
    0x00, 0x00], .feed [0x01, 0x61, 0x00, 0x00, 0x00, 0x30, 0xFF], .decode, .feed [0xFF, 0xFF, 0xFF], .decode,
    .feed [0x40]]

theorem brokenHeaderRun_bounded :
    ∃ b, Run (Steps next) (start .v5 { maxPacketSize := 8 }) brokenHeaderRun b ∧ b.accepted = [0x40] ∧
      b.Bounded { maxPacketSize := 8 } := by
  have completes : (runFrom next (start .v5 { maxPacketSize := 8 }) brokenHeaderRun).any (fun b =>
      decide (b.accepted = [0x40])) = true := by decide
  obtain ⟨b, ends, accepted⟩ := (Option.any_eq_true _ _).mp completes
  have run := run_of_runFrom ends
  exact ⟨b, run, of_decide_eq_true accepted, buffer_bounded run⟩

end Buffered

end Decoder

end MqttRs
