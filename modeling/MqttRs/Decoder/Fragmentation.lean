import MqttRs.Decoder
import MqttRs.Library.Framing

namespace MqttRs

namespace Decoder

section Header

variable {limits : Limits} {stream : List UInt8} {rlenLen remainingLength : Nat} {reason : DecodeError}

theorem readHeader_bytes {first : UInt8} (small : remainingLength ≤ VariableByteInteger.max) (rest : List UInt8) :
    readHeader limits (first :: (VariableByteInteger.bytes remainingLength ++ rest)) =
      if limits.maxPacketSize < 1 + (VariableByteInteger.bytes remainingLength).length + remainingLength then
        .broken (.packetTooLarge (1 + (VariableByteInteger.bytes remainingLength).length + remainingLength)
          limits.maxPacketSize)
      else .frame (VariableByteInteger.bytes remainingLength).length remainingLength := by
  simp only [readHeader, VariableByteInteger.parse_bytes small, VariableByteInteger.toNat_ofNat small,
    List.length_append, Nat.add_sub_cancel]

theorem readHeader_frame_append (read : readHeader limits stream = .frame rlenLen remainingLength)
    (more : List UInt8) : readHeader limits (stream ++ more) = .frame rlenLen remainingLength := by
  obtain ⟨first, rest, rfl, rfl, small, fits⟩ := readHeader_frame read
  rw [List.cons_append, List.append_assoc, readHeader_bytes small, if_neg (Nat.not_lt_of_le fits)]

theorem readHeader_broken_append (read : readHeader limits stream = .broken reason) (more : List UInt8) :
    readHeader limits (stream ++ more) = .broken reason := by
  cases stream with
  | nil => cases read
  | cons first rest =>
    cases parsed : VariableByteInteger.parse rest with
    | error failure =>
      simp only [readHeader, parsed] at read
      rcases VariableByteInteger.parse_error parsed with ⟨rfl, -⟩ | ⟨rfl, stays⟩
      · cases read
      · rw [List.cons_append, readHeader, stays more]
        exact read
    | ok result =>
      obtain ⟨vbi, after⟩ := result
      obtain ⟨small, rfl⟩ := VariableByteInteger.parse_eq_ok.mp parsed
      rw [readHeader_bytes small] at read
      rw [List.cons_append, List.append_assoc, readHeader_bytes small]
      exact read

end Header

/-- The reference: the fixed header at the front of the stream, and `decode_packet` of the frame that it announces. -/
def splitFront (version : MqttVersion) (limits : Limits) (stream : List UInt8) :
    FrameFront UInt8 (Outcome DecodeError VersionedIncomingPacket) :=
  match readHeader limits stream with
  | .incomplete => .incomplete
  | .broken reason => .broken (.error reason)
  | .frame rlenLen remainingLength =>
    if stream.length < 1 + rlenLen + remainingLength then .incomplete
    else .frame (decodePacket version (stream.take (1 + rlenLen + remainingLength)))
      (stream.drop (1 + rlenLen + remainingLength))

section Front

variable {version : MqttVersion} {limits : Limits} {stream rest : List UInt8}
  {item last : Outcome DecodeError VersionedIncomingPacket}

theorem splitFront_eq_frame : splitFront version limits stream = .frame item rest ↔
    ∃ rlenLen remainingLength, readHeader limits stream = .frame rlenLen remainingLength ∧
      1 + rlenLen + remainingLength ≤ stream.length ∧
      item = decodePacket version (stream.take (1 + rlenLen + remainingLength)) ∧
      rest = stream.drop (1 + rlenLen + remainingLength) := by
  unfold splitFront
  cases readHeader limits stream with
  | incomplete => simp
  | broken reason => simp
  | frame rlenLen remainingLength =>
    simp only [Header.frame.injEq]
    constructor
    · intro front
      split at front
      · cases front
      · rename_i complete
        cases front
        exact ⟨_, _, ⟨rfl, rfl⟩, Nat.le_of_not_lt complete, rfl, rfl⟩
    · intro front
      obtain ⟨_, _, ⟨rfl, rfl⟩, complete, rfl, rfl⟩ := front
      exact if_neg (Nat.not_lt_of_le complete)

theorem splitFront_eq_broken : splitFront version limits stream = .broken last ↔
    ∃ reason, readHeader limits stream = .broken reason ∧ last = .error reason := by
  unfold splitFront
  cases readHeader limits stream with
  | incomplete => simp
  | broken reason => simp [eq_comm]
  | frame rlenLen remainingLength =>
    simp only [reduceCtorEq, false_and, exists_false, iff_false]
    split <;> exact (nomatch ·)

theorem splitFront_shrinks (front : splitFront version limits stream = .frame item rest) :
    rest.length < stream.length := by
  obtain ⟨rlenLen, remainingLength, -, complete, -, rfl⟩ := splitFront_eq_frame.mp front
  rw [List.length_drop]
  omega

theorem splitFront_frame_append (front : splitFront version limits stream = .frame item rest) (more : List UInt8) :
    splitFront version limits (stream ++ more) = .frame item (rest ++ more) := by
  obtain ⟨rlenLen, remainingLength, read, complete, rfl, rfl⟩ := splitFront_eq_frame.mp front
  refine splitFront_eq_frame.mpr ⟨rlenLen, remainingLength, readHeader_frame_append read more, ?_, ?_, ?_⟩
  · rw [List.length_append]
    exact Nat.le_trans complete (Nat.le_add_right _ _)
  · rw [List.take_append_of_le_length complete]
  · rw [List.drop_append_of_le_length complete]

theorem splitFront_broken_append (front : splitFront version limits stream = .broken last) (more : List UInt8) :
    splitFront version limits (stream ++ more) = .broken last := by
  obtain ⟨reason, read, rfl⟩ := splitFront_eq_broken.mp front
  exact splitFront_eq_broken.mpr ⟨reason, readHeader_broken_append read more, rfl⟩

end Front

def splitter (version : MqttVersion) (limits : Limits) :
    Framer UInt8 (Outcome DecodeError VersionedIncomingPacket) where
  front := splitFront version limits
  shrinks := splitFront_shrinks
  frame_append := splitFront_frame_append
  broken_append := splitFront_broken_append

section Current

variable {d : Decoder}

theorem consume_keeps (d : Decoder) (size : Nat) : (d.consume size).version = d.version ∧
    (d.consume size).limits = d.limits ∧ (d.consume size).phase = .fixedHeader := by
  unfold consume maybeCompact
  split <;> exact ⟨rfl, rfl, rfl⟩

/-- The header in use is the one at the front of the bytes. -/
def CurrentHeader (d : Decoder) : Prop := d.header = readHeader d.limits d.pending

theorem currentHeader_of_not_payload (reading : d.phase = .fixedHeader ∨ d.phase = .remainingLength) :
    d.CurrentHeader := by
  unfold CurrentHeader header
  rcases reading with phase | phase <;> rw [phase]

theorem CurrentHeader.append (wellformed : d.Wellformed) (current : d.CurrentHeader)
    (data : List UInt8) : CurrentHeader { d with buf := d.buf ++ data } := by
  cases phase : d.phase with
  | fixedHeader => exact currentHeader_of_not_payload (.inl rfl)
  | remainingLength => exact currentHeader_of_not_payload (.inr rfl)
  | payload rlenLen remainingLength =>
    have cached : d.header = .frame rlenLen remainingLength := by rw [header, phase]
    have read : readHeader d.limits d.pending = .frame rlenLen remainingLength := current ▸ cached
    have stays := readHeader_frame_append read data
    rw [← pending_append wellformed] at stays
    exact stays.symm

theorem CurrentHeader.decode (wellformed : d.Wellformed) (current : d.CurrentHeader) : d.decode.2.CurrentHeader := by
  rcases decode_cases wellformed with
    ⟨-, waiting, known, result⟩ | ⟨reason, -, result⟩ | ⟨rlenLen, remainingLength, front, -, result⟩ |
    ⟨rlenLen, remainingLength, answer, -, -, -, result⟩ <;> rw [result]
  · exact currentHeader_of_not_payload known
  · exact currentHeader_of_not_payload (.inl rfl)
  · show _ = readHeader d.limits d.pending
    rw [← current, front]
    rfl
  · exact currentHeader_of_not_payload (.inl (d.consume_keeps _).2.2)

theorem decode_front (wellformed : d.Wellformed) (current : d.CurrentHeader) :
    (splitFront d.version d.limits d.pending = .incomplete ∧
      ∃ waiting, d.decode = (.ok none, { d with phase := waiting })) ∨
    (∃ reason, splitFront d.version d.limits d.pending = .broken (.error reason) ∧
      d.decode = (.error reason, d.reset)) ∨
    ∃ result size, splitFront d.version d.limits d.pending = .frame (.ofExcept result) (d.consume size).pending ∧
      d.decode = (.ofExcept (result.map some), d.consume size) := by
  rcases decode_cases wellformed with
    ⟨front, waiting, -, result⟩ | ⟨reason, front, result⟩ | ⟨rlenLen, remainingLength, front, short, result⟩ |
    ⟨rlenLen, remainingLength, answer, front, complete, answered, result⟩ <;> rw [current] at front
  · refine .inl ⟨?_, waiting, result⟩
    rw [splitFront, front]
  · exact .inr (.inl ⟨reason, splitFront_eq_broken.mpr ⟨reason, front, rfl⟩, result⟩)
  · refine .inl ⟨?_, _, result⟩
    rw [splitFront, front]
    exact if_pos short
  · refine .inr (.inr ⟨answer, _, ?_, result⟩)
    exact splitFront_eq_frame.mpr ⟨rlenLen, remainingLength, front, complete, answered.symm, d.pending_consume _⟩

end Current

inductive StreamOp where
  | feed (data : List UInt8)
  | decode

/-- A decoder together with the bytes that it accepted and the results of `decode` other than `Ok(None)`, up to and
    including the first error in a fixed header. -/
structure Streamed where
  decoder : Decoder
  stream : List UInt8
  results : List (Outcome DecodeError VersionedIncomingPacket)
  /-- An error in a fixed header is among the results. -/
  broken : Bool
  /-- Since the last accepted bytes, `decode` returned `Ok(None)`. -/
  drained : Bool
  deriving DecidableEq

def breaksInHeader (d : Decoder) : Bool :=
  match d.header with
  | .broken _ => true
  | _ => false

namespace Streamed

def start (version : MqttVersion) (limits : Limits) : Streamed where
  decoder := (new version).withLimits limits
  stream := []
  results := []
  broken := false
  drained := false

def record (s : Streamed) (result : Outcome DecodeError VersionedIncomingPacket) (decoder : Decoder) : Streamed :=
  if s.broken then { s with decoder, drained := false }
  else
    { s with
      decoder
      results := s.results ++ [result]
      broken := s.decoder.breaksInHeader
      drained := false }

def next (s : Streamed) : StreamOp → Option Streamed
  | .feed data =>
    match s.decoder.feed data with
    | (.ok _, decoder) => some { s with decoder, stream := s.stream ++ data, drained := false }
    | (.error _, decoder) => some { s with decoder }
    | (.panic, _) | (.hang, _) => none
  | .decode =>
    match s.decoder.decode with
    | (.ok none, decoder) => some { s with decoder, drained := true }
    | (.ok (some packet), decoder) => some (s.record (.ok packet) decoder)
    | (.error reason, decoder) => some (s.record (.error reason) decoder)
    | (.panic, _) | (.hang, _) => none

/-- The results so far and the bytes that wait make up the frames of the stream. -/
structure Follows (version : MqttVersion) (limits : Limits) (s : Streamed) : Prop where
  wellformed : s.decoder.Wellformed
  sameVersion : s.decoder.version = version
  sameLimits : s.decoder.limits = limits
  current : s.decoder.CurrentHeader
  splits : s.broken = false → (splitter version limits).Splits s.stream s.results s.decoder.pending
  ends : s.broken = true → (splitter version limits).Ends s.stream s.results
  waits : s.drained = true → s.broken = false → splitFront version limits s.decoder.pending = .incomplete

variable {version : MqttVersion} {limits : Limits} {s t : Streamed} {op : StreamOp}

theorem start_follows (version : MqttVersion) (limits : Limits) : (start version limits).Follows version limits where
  wellformed := new_wellformed version limits
  sameVersion := rfl
  sameLimits := rfl
  current := rfl
  splits _ := .refl _ []
  ends wrong := by cases wrong
  waits wrong := by cases wrong

theorem Follows.feed {d : Decoder} {data : List UInt8} (follows : s.Follows version limits)
    (fits : s.decoder.buf.length + data.length ≤ Isize.max)
    (fed : d = { s.decoder with buf := s.decoder.buf ++ data }) :
    Follows version limits { s with decoder := d, stream := s.stream ++ data, drained := false } := by
  subst fed
  refine ⟨follows.wellformed.append fits, follows.sameVersion, follows.sameLimits, ?_, ?_, ?_, ?_⟩
  · exact follows.current.append follows.wellformed data
  · intro unbroken
    have longer := (follows.splits unbroken).append data
    rw [← pending_append follows.wellformed] at longer
    exact longer
  · intro broken
    exact (follows.ends broken).append data
  · intro wrong
    cases wrong

theorem Follows.wait {d : Decoder} (follows : s.Follows version limits) (wellformed : d.Wellformed)
    (sameVersion : d.version = s.decoder.version) (sameLimits : d.limits = s.decoder.limits)
    (current : d.CurrentHeader) (samePending : d.pending = s.decoder.pending)
    (incomplete : splitFront version limits s.decoder.pending = .incomplete) :
    Follows version limits { s with decoder := d, drained := true } := by
  refine ⟨wellformed, sameVersion.trans follows.sameVersion, sameLimits.trans follows.sameLimits, current, ?_, ?_, ?_⟩
  · intro unbroken
    rw [samePending]
    exact follows.splits unbroken
  · exact follows.ends
  · intro _ _
    rw [samePending]
    exact incomplete

theorem Follows.record {d : Decoder} {result : Outcome DecodeError VersionedIncomingPacket}
    (follows : s.Follows version limits) (wellformed : d.Wellformed) (sameVersion : d.version = s.decoder.version)
    (sameLimits : d.limits = s.decoder.limits) (reading : d.phase = .fixedHeader)
    (frame : s.decoder.breaksInHeader = false →
      splitFront version limits s.decoder.pending = .frame result d.pending)
    (breaks : s.decoder.breaksInHeader = true → splitFront version limits s.decoder.pending = .broken result) :
    (s.record result d).Follows version limits := by
  have current : d.CurrentHeader := currentHeader_of_not_payload (.inl reading)
  unfold Streamed.record
  split
  · rename_i broken
    refine ⟨wellformed, sameVersion.trans follows.sameVersion, sameLimits.trans follows.sameLimits, current, ?_, ?_, ?_⟩
    · intro unbroken
      rw [broken] at unbroken
      cases unbroken
    · exact follows.ends
    · intro wrong
      cases wrong
  · rename_i unbroken
    have splits := follows.splits (Bool.eq_false_iff.mpr unbroken)
    refine ⟨wellformed, sameVersion.trans follows.sameVersion, sameLimits.trans follows.sameLimits, current, ?_, ?_, ?_⟩
    · intro going
      exact splits.frame (frame going)
    · intro broken
      exact splits.broken (breaks broken)
    · intro wrong
      cases wrong

theorem Follows.decode (follows : s.Follows version limits) (step : Steps next s .decode t) :
    t.Follows version limits := by
  have wellformed := follows.wellformed
  have kept := decode_wellformed wellformed
  have current := follows.current.decode wellformed
  have read : readHeader limits s.decoder.pending = s.decoder.header := by
    rw [follows.current, follows.sameLimits]
  simp only [Steps, next] at step
  rcases decode_cases wellformed with
    ⟨front, waiting, -, result⟩ | ⟨reason, front, result⟩ | ⟨rlenLen, remainingLength, front, short, result⟩ |
    ⟨rlenLen, remainingLength, answer, front, complete, answered, result⟩
  · rw [result] at step kept current
    cases step
    refine follows.wait kept rfl rfl current rfl ?_
    rw [splitFront, read, front]
  · rw [result] at step kept
    cases step
    have breaks : s.decoder.breaksInHeader = true := by rw [breaksInHeader, front]
    refine follows.record kept rfl rfl rfl ?_ ?_
    · intro wrong
      rw [breaks] at wrong
      cases wrong
    · intro _
      exact splitFront_eq_broken.mpr ⟨reason, read.trans front, rfl⟩
  · rw [result] at step kept current
    cases step
    refine follows.wait kept rfl rfl current rfl ?_
    rw [splitFront, read, front]
    exact if_pos short
  · have going : s.decoder.breaksInHeader = false := by rw [breaksInHeader, front]
    obtain ⟨sameVersion, sameLimits, reading⟩ := s.decoder.consume_keeps (1 + rlenLen + remainingLength)
    have frame : splitFront version limits s.decoder.pending =
        .frame (.ofExcept answer) (s.decoder.consume (1 + rlenLen + remainingLength)).pending := by
      rw [follows.sameVersion] at answered
      refine splitFront_eq_frame.mpr ⟨rlenLen, remainingLength, read.trans front, complete, answered.symm, ?_⟩
      exact s.decoder.pending_consume _
    have recorded : (s.record (.ofExcept answer) (s.decoder.consume (1 + rlenLen + remainingLength))).Follows
        version limits := by
      rw [result] at kept
      refine follows.record kept sameVersion sameLimits reading (fun _ => frame) ?_
      intro wrong
      rw [going] at wrong
      cases wrong
    rw [result] at step
    cases answer with
    | ok packet =>
      cases step
      exact recorded
    | error reason =>
      cases step
      exact recorded

theorem next_follows (follows : s.Follows version limits) (step : Steps next s op t) : t.Follows version limits := by
  cases op with
  | feed data =>
    rcases s.decoder.feed_cases data with ⟨-, fits, result⟩ | ⟨-, reason, result⟩ | ⟨-, result⟩ <;>
      simp only [Steps, next, result] at step <;> cases step
    · exact follows.feed fits rfl
    · exact follows
  | decode => exact follows.decode step

/-- However the stream arrives and whenever `decode` is called, the results are the first ones of the frames of the
    whole stream, and all of them once `decode` asks for more bytes, which it always comes back to do or to answer. -/
theorem decoder_fragmentation_independent {ops : List StreamOp}
    (run : Run (Steps next) (start version limits) ops s) :
    s.results <+: (splitter version limits).results s.stream ∧
      (s.drained = true → s.results = (splitter version limits).results s.stream) ∧ s.decoder.CallsReturn := by
  have follows := run.invariant next_follows (start_follows version limits)
  have returns := follows.wellformed.callsReturn
  cases broken : s.broken with
  | true =>
    have whole := (follows.ends broken).taken_eq
    refine ⟨?_, fun _ => whole, returns⟩
    exact whole ▸ List.prefix_refl _
  | false =>
    have splits := follows.splits broken
    refine ⟨splits.taken_prefix, ?_, returns⟩
    intro drained
    exact splits.taken_eq (follows.waits drained broken)

def brokenFrameRun : List StreamOp := [.feed [0x00], .decode, .feed [0x00, 0xD0], .decode, .decode]

theorem brokenFrameRun_independent :
    ∃ s, Run (Steps next) (start .v5 .new) brokenFrameRun s ∧ s.results = [.error .invalidPacketType] ∧
      s.results <+: (splitter .v5 .new).results s.stream ∧
      (s.drained = true → s.results = (splitter .v5 .new).results s.stream) ∧ s.decoder.CallsReturn := by
  have completes : (runFrom next (start .v5 .new) brokenFrameRun).any (fun s =>
      decide (s.results = [.error .invalidPacketType])) = true := by decide
  obtain ⟨s, ends, refused⟩ := (Option.any_eq_true _ _).mp completes
  have run := run_of_runFrom ends
  exact ⟨s, run, of_decide_eq_true refused, decoder_fragmentation_independent run⟩

end Streamed

end Decoder

end MqttRs
