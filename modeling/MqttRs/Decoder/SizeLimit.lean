import MqttRs.Decoder

namespace MqttRs

namespace Decoder

section Sizes

variable {rlenLen remainingLength n m : Nat} {bytes : List UInt8}

theorem measured_unique (first : Measured bytes n) (second : Measured bytes m) : n = m := by
  obtain ⟨-, vbi, vbiLen, read, rfl⟩ := first
  obtain ⟨-, vbi', vbiLen', read', rfl⟩ := second
  rw [read] at read'
  cases read'
  rfl

theorem measured_of_front {first : UInt8} {rest : List UInt8}
    (front : bytes = first :: (VariableByteInteger.bytes remainingLength ++ rest))
    (shortest : rlenLen = (VariableByteInteger.bytes remainingLength).length)
    (small : remainingLength ≤ VariableByteInteger.max) (complete : 1 + rlenLen + remainingLength ≤ bytes.length) :
    Measured bytes (1 + rlenLen + remainingLength) := by
  refine ⟨complete, ⟨UInt32.ofNat remainingLength⟩, rlenLen, ?_, by rw [VariableByteInteger.toNat_ofNat small]⟩
  rw [front, List.drop_one, List.tail_cons, VariableByteInteger.decode_eq, VariableByteInteger.parse_bytes small]
  simp only [Outcome.upTo, List.length_append, Nat.add_sub_cancel, shortest]

end Sizes

/-- A decoder together with the bytes and the limit that each call which returned a packet found. -/
structure Observed where
  decoder : Decoder
  returned : List (List UInt8 × Limits)

namespace Observed

def returnedAfter (o : Observed) : DecoderOp → List (List UInt8 × Limits)
  | .decode =>
    match o.decoder.decode.1 with
    | .ok (some _) => (o.decoder.pending, o.decoder.limits) :: o.returned
    | _ => o.returned
  | _ => o.returned

def next (o : Observed) (op : DecoderOp) : Option Observed :=
  match o.decoder.next op with
  | some decoder => some { decoder, returned := o.returnedAfter op }
  | none => none

def WithinLimits (o : Observed) : Prop :=
  ∀ entry ∈ o.returned, ∃ n, Measured entry.1 n ∧ n ≤ entry.2.maxPacketSize

/-- No call decodes a complete frame whose header was read under a larger limit. -/
def ChecksInForce (o : Observed) (op : DecoderOp) : Prop :=
  match op, o.decoder.phase with
  | .decode, .payload rlenLen remainingLength =>
    1 + rlenLen + remainingLength ≤ o.decoder.pending.length →
      1 + rlenLen + remainingLength ≤ o.decoder.limits.maxPacketSize
  | _, _ => True

instance (o : Observed) (op : DecoderOp) : Decidable (ChecksInForce o op) := by
  unfold ChecksInForce
  split <;> infer_instance

variable {o p : Observed} {op : DecoderOp}

theorem decode_within (wellformed : o.decoder.Wellformed) (checked : o.ChecksInForce .decode)
    {packet : VersionedIncomingPacket} (returned : o.decoder.decode.1 = .ok (some packet)) :
    ∃ n, Measured o.decoder.pending n ∧ n ≤ o.decoder.limits.maxPacketSize := by
  rcases decode_cases wellformed with
    ⟨-, waiting, -, result⟩ | ⟨reason, -, result⟩ | ⟨rlenLen, remainingLength, -, -, result⟩ |
    ⟨rlenLen, remainingLength, answer, front, complete, -, -⟩
  · rw [result] at returned
    cases returned
  · rw [result] at returned
    cases returned
  · rw [result] at returned
    cases returned
  · obtain ⟨first, rest, bytes, shortest, small, limited⟩ := header_front wellformed front
    refine ⟨_, measured_of_front bytes shortest small complete, ?_⟩
    rcases limited with cached | fits
    · simp only [ChecksInForce, cached] at checked
      exact checked complete
    · exact fits

theorem next_within (holds : o.decoder.Wellformed ∧ o.WithinLimits)
    (step : Guarded ChecksInForce (Steps next) o op p) : p.decoder.Wellformed ∧ p.WithinLimits := by
  obtain ⟨wellformed, within⟩ := holds
  obtain ⟨checked, moved⟩ := step
  simp only [Steps, next] at moved
  split at moved
  · rename_i decoder after
    cases moved
    refine ⟨next_wellformed wellformed after, ?_⟩
    cases op with
    | feed data | setLimits limits => exact within
    | decode =>
      intro entry member
      simp only [returnedAfter] at member
      split at member
      · rename_i packet returned
        rcases List.mem_cons.mp member with rfl | earlier
        · exact decode_within wellformed checked returned
        · exact within entry earlier
      · exact within entry member
  · cases moved

def start (version : MqttVersion) (limits : Limits) : Observed :=
  { decoder := (new version).withLimits limits, returned := [] }

/-- Along every run in which no decode call finishes a frame that the limit in force no longer allows, every packet
    returned is within the limit in force. -/
theorem decoder_within_limits {version : MqttVersion} {limits : Limits} {ops : List DecoderOp} {o : Observed}
    (run : Run (Guarded ChecksInForce (Steps next)) (start version limits) ops o) : o.WithinLimits := by
  have begun : (start version limits).decoder.Wellformed ∧ (start version limits).WithinLimits :=
    ⟨new_wellformed version limits, nofun⟩
  exact (run.invariant next_within begun).2

def splitPubackRun : List DecoderOp := [.feed [0x40, 0x02], .decode, .feed [0x00, 0x01], .decode]

theorem splitPubackRun_within :
    ∃ o, Run (Guarded ChecksInForce (Steps next)) (start .v5 .new) splitPubackRun o ∧ o.WithinLimits := by
  have completes : (runFrom (fun o op => if ChecksInForce o op then next o op else none) (start .v5 .new)
      splitPubackRun).isSome = true := by decide
  obtain ⟨o, ends⟩ := Option.isSome_iff_exists.mp completes
  have run := run_guarded_of_runFrom ends
  exact ⟨o, run, decoder_within_limits run⟩

def loweredLimitRun : List DecoderOp :=
  [.feed [0x40, 0x02], .decode, .feed [0x00, 0x01], .setLimits { maxPacketSize := 3 }, .decode]

theorem decoder_exceeds_limit :
    ¬∀ version limits ops o, Run (Steps next) (start version limits) ops o → o.WithinLimits := by
  intro claim
  have completes : (runFrom next (start .v5 .new) loweredLimitRun).any (fun o =>
      decide (o.returned = [([0x40, 0x02, 0x00, 0x01], { maxPacketSize := 3 })])) = true := by decide
  obtain ⟨o, ends, returned⟩ := (Option.any_eq_true _ _).mp completes
  have within := claim .v5 .new loweredLimitRun o (run_of_runFrom ends)
  obtain ⟨n, measured, fits⟩ := within ([0x40, 0x02, 0x00, 0x01], { maxPacketSize := 3 })
    (by rw [of_decide_eq_true returned]; exact List.mem_singleton_self _)
  have four : Measured [0x40, 0x02, 0x00, 0x01] 4 := ⟨by decide, ⟨2⟩, 1, by decide, by decide⟩
  have same := measured_unique measured four
  simp only at fits
  omega

end Observed

/-- After a call for more bytes, any further byte is taken in. -/
def TakesOneMore (d : Decoder) : Prop :=
  d.decode.1 = .ok none → ∀ byte, (d.decode.2.feed [byte]).1 = .ok ()

/-- The bytes of an incomplete frame whose header was read before leave room below the limit in force. -/
def RoomForFrame (d : Decoder) : Prop :=
  match d.phase with
  | .payload rlenLen remainingLength =>
    d.pending.length < 1 + rlenLen + remainingLength →
      d.pending.length < Usize.saturatingAdd d.limits.maxPacketSize maxPacketOverhead
  | _ => True

section OneMore

variable {d : Decoder}

theorem length_buf_le (wellformed : d.Wellformed) : d.buf.length ≤ 2 * d.pending.length + 1 := by
  have half := wellformed.offset
  have length := d.length_pending
  omega

theorem feed_one_iff (wellformed : d.Wellformed) (few : d.pending.length < 2 ^ 32) (byte : UInt8) :
    (d.feed [byte]).1 = .ok () ↔
      d.pending.length < Usize.saturatingAdd d.limits.maxPacketSize maxPacketOverhead := by
  have length := length_buf_le wellformed
  rcases d.feed_cases [byte] with ⟨room, -, result⟩ | ⟨full, reason, result⟩ | ⟨large, result⟩
  · rw [result]
    simp only [List.length_singleton] at room
    exact ⟨fun _ => room, fun _ => rfl⟩
  · rw [result]
    simp only [List.length_singleton] at full
    exact ⟨nofun, fun room => absurd full (by omega)⟩
  · rw [Isize.max, List.length_singleton] at large
    omega

theorem readHeader_incomplete {limits : Limits} {bytes : List UInt8} (read : readHeader limits bytes = .incomplete) :
    bytes.length < 5 := by
  cases bytes with
  | nil => exact Nat.zero_lt_succ _
  | cons first rest =>
    simp only [readHeader] at read
    split at read
    · rename_i short
      rcases VariableByteInteger.parse_error short with ⟨-, early⟩ | ⟨wrong, -⟩
      · exact Nat.succ_lt_succ early
      · cases wrong
    · cases read
    · split at read <;> cases read

theorem header_incomplete (front : d.header = .incomplete) : d.pending.length < 5 := by
  rcases d.header_cases with ⟨_, _, -, cached⟩ | ⟨-, read⟩
  · rw [cached] at front
    cases front
  · exact readHeader_incomplete (read.symm.trans front)

theorem room_of_few {size limit : Nat} (few : size < maxPacketOverhead ∨ size < limit) (small : size < 2 ^ 32) :
    size < Usize.saturatingAdd limit maxPacketOverhead := by
  simp only [maxPacketOverhead, Usize.saturatingAdd, Usize.max] at few ⊢
  omega

theorem takesOneMore_iff_room {waiting : DecodePhase} (wellformed : d.Wellformed)
    (waits : d.decode = (.ok none, { d with phase := waiting })) (few : d.pending.length < 2 ^ 32) :
    d.TakesOneMore ↔ d.pending.length < Usize.saturatingAdd d.limits.maxPacketSize maxPacketOverhead := by
  have kept := decode_wellformed wellformed
  rw [waits] at kept
  have one := feed_one_iff kept few
  unfold TakesOneMore
  rw [waits]
  exact ⟨fun takes => (one 0).mp (takes rfl 0), fun room _ byte => (one byte).mpr room⟩

theorem takesOneMore_of_answers (answers : d.decode.1 ≠ .ok none) : d.TakesOneMore :=
  fun waits => absurd waits answers

theorem roomForFrame_of_room
    (room : d.pending.length < Usize.saturatingAdd d.limits.maxPacketSize maxPacketOverhead) : d.RoomForFrame := by
  unfold RoomForFrame
  split
  · exact fun _ => room
  · trivial

theorem roomForFrame_of_complete
    (complete : ∀ {rlenLen remainingLength}, d.header = .frame rlenLen remainingLength →
      1 + rlenLen + remainingLength ≤ d.pending.length) : d.RoomForFrame := by
  unfold RoomForFrame
  split
  · rename_i rlenLen remainingLength cached
    have front : d.header = .frame rlenLen remainingLength := by rw [header, cached]
    exact fun short => absurd short (Nat.not_lt_of_le (complete front))
  · trivial

theorem takesOneMore_iff (wellformed : d.Wellformed) : d.TakesOneMore ↔ d.RoomForFrame := by
  rcases decode_cases wellformed with
    ⟨front, waiting, -, result⟩ | ⟨reason, front, result⟩ | ⟨rlenLen, remainingLength, front, short, result⟩ |
    ⟨rlenLen, remainingLength, answer, front, complete, -, result⟩
  · -- the header itself is incomplete
    have few := header_incomplete front
    have room : d.pending.length < Usize.saturatingAdd d.limits.maxPacketSize maxPacketOverhead :=
      room_of_few (.inl few) (by omega)
    rw [takesOneMore_iff_room wellformed result (by omega)]
    exact ⟨roomForFrame_of_room, fun _ => room⟩
  · refine iff_of_true (takesOneMore_of_answers ?_) (roomForFrame_of_complete ?_)
    · rw [result]
      intro wrong
      cases wrong
    · intro _ _ frame
      rw [front] at frame
      cases frame
  · -- the frame is incomplete: its bytes wait
    obtain ⟨-, -, -, shortest, small, limited⟩ := header_front wellformed front
    have few := VariableByteInteger.length_bytes_le remainingLength
    have waiting : d.pending.length < 2 ^ 32 := by
      rw [VariableByteInteger.max] at small
      omega
    rw [takesOneMore_iff_room wellformed result waiting]
    refine ⟨roomForFrame_of_room, ?_⟩
    intro room
    rcases limited with cached | fits
    · simp only [RoomForFrame, cached] at room
      exact room short
    · exact room_of_few (.inr (Nat.lt_of_lt_of_le short fits)) waiting
  · refine iff_of_true (takesOneMore_of_answers ?_) (roomForFrame_of_complete ?_)
    · rw [result]
      intro wrong
      cases answer <;> cases wrong
    · intro _ _ frame
      rw [front] at frame
      cases frame
      exact complete

end OneMore

/-- In every state of every run, a call for more bytes is followed by room for one exactly when the limit leaves
    room for the incomplete frame. -/
theorem decoder_takes_one_more_iff {version : MqttVersion} {limits : Limits} {ops : List DecoderOp} {d : Decoder}
    (run : Run (Steps next) ((new version).withLimits limits) ops d) : d.TakesOneMore ↔ d.RoomForFrame := by
  have wellformed := run.invariant next_wellformed (new_wellformed version limits)
  exact takesOneMore_iff wellformed

def partialPublishRun : List DecoderOp := [.feed [0x30, 0x06, 0x00, 0x01, 0x61, 0x00], .decode]

theorem partialPublishRun_takes_one_more :
    ∃ d, Run (Steps next) ((new .v5).withLimits .new) partialPublishRun d ∧ (d.TakesOneMore ↔ d.RoomForFrame) := by
  have completes : (runFrom next ((new .v5).withLimits .new) partialPublishRun).isSome = true := by decide
  obtain ⟨d, ends⟩ := Option.isSome_iff_exists.mp completes
  have run := run_of_runFrom ends
  exact ⟨d, run, decoder_takes_one_more_iff run⟩

theorem decoder_wedges :
    ¬∀ version limits ops d, Run (Steps next) ((new version).withLimits limits) ops d → d.TakesOneMore := by
  intro claim
  have completes : (runFrom next ((new .v5).withLimits .new)
      (partialPublishRun ++ [.setLimits { maxPacketSize := 1 }])).any (fun d =>
        decide (d.decode.1 = .ok none ∧ (d.decode.2.feed [0x61]).1 = .error (.packetTooLarge 7 6))) = true := by
    decide
  obtain ⟨d, ends, wedged⟩ := (Option.any_eq_true _ _).mp completes
  obtain ⟨waits, refused⟩ := of_decide_eq_true wedged
  have taken := claim .v5 .new _ d (run_of_runFrom ends) waits 0x61
  rw [refused] at taken
  cases taken

end Decoder

end MqttRs
