import MqttRs.Library.Runs
import MqttRs.V311.Packet
import MqttRs.V5.Packet

namespace MqttRs

inductive VersionedIncomingPacket where
  | v5 (packet : V5.IncomingPacket)
  | v311 (packet : V311.IncomingPacket)
  deriving DecidableEq

inductive DecodePhase where
  | fixedHeader
  | remainingLength
  | payload (rlenLen remainingLength : Nat)
  deriving DecidableEq

structure Decoder where
  version : MqttVersion
  limits : Limits
  buf : List UInt8
  bufOffset : Nat
  phase : DecodePhase
  deriving DecidableEq

namespace Decoder

def maxPacketOverhead : Nat := 1 + 4

def new (version : MqttVersion) : Decoder where
  version := version
  limits := .new
  buf := []
  bufOffset := 0
  phase := .fixedHeader

def withLimits (d : Decoder) (limits : Limits) : Decoder := { d with limits }

def setLimits (d : Decoder) (limits : Limits) : Decoder := { d with limits }

def feed (d : Decoder) (data : List UInt8) : Outcome DecodeError Unit × Decoder :=
  let pendingLen := d.buf.length - d.bufOffset
  match Usize.checkedAdd pendingLen data.length with
  | none => (.error (.packetTooLarge Usize.max d.limits.maxPacketSize), d)
  | some accumulatedSize =>
    let allowedSize := Usize.saturatingAdd d.limits.maxPacketSize maxPacketOverhead
    if allowedSize < accumulatedSize then (.error (.packetTooLarge accumulatedSize allowedSize), d)
    else match Slice.extend d.buf data with
      | .ok buf => (.ok (), { d with buf })
      | .error reason => (.error reason, d)
      | .panic => (.panic, d)
      | .hang => (.hang, d)

def reset (d : Decoder) : Decoder := { d with buf := [], bufOffset := 0, phase := .fixedHeader }

-- `drain` stays inside the buffer: the offset was the end of a slice of it.
def maybeCompact (d : Decoder) : Decoder :=
  if d.buf.length / 2 < d.bufOffset then { d with buf := d.buf.drop d.bufOffset, bufOffset := 0 } else d

def decodePacket (version : MqttVersion) (buf : List UInt8) : Outcome DecodeError VersionedIncomingPacket :=
  match version with
  | .v5 => do
    let (packet, _) ← (V5.IncomingPacket.decode buf).mapError malformedIfInsufficient
    .ok (.v5 packet)
  | .v311 => do
    let (packet, _) ← (V311.IncomingPacket.decode buf).mapError malformedIfInsufficient
    .ok (.v311 packet)

/-- `1usize.checked_add(rlen_len).and_then(|x| x.checked_add(remaining_length))` -/
def packetLen (rlenLen remainingLength : Nat) : Option Nat := do
  let x ← Usize.checkedAdd 1 rlenLen
  Usize.checkedAdd x remainingLength

/-- The loop of `try_decode`. Every turn returns or moves on to the next of the three phases. -/
def tryDecodeLoop : Nat → Decoder → Outcome DecodeError VersionedIncomingPacket × Decoder
  | 0, d => (.hang, d)
  | turns + 1, d =>
    match d.phase with
    | .fixedHeader =>
      if d.buf.length ≤ d.bufOffset then (.error .insufficientData, d)
      else tryDecodeLoop turns { d with phase := .remainingLength }
    | .remainingLength =>
      if d.buf.length - d.bufOffset < 2 then (.error .insufficientData, d)
      else
        let read : Outcome DecodeError (VariableByteInteger × Nat) := do
          let start ← Usize.add d.bufOffset 1
          let rest ← Slice.rangeFrom d.buf start
          VariableByteInteger.decode rest
        match read with
        | .error .insufficientData => (.error .insufficientData, d)
        | .error reason => (.error reason, d.reset)
        | .panic => (.panic, d)
        | .hang => (.hang, d)
        | .ok (vbi, rlenLen) =>
          let remainingLength := vbi.value.toNat
          match packetLen rlenLen remainingLength with
          | none => (.error .malformedPacket, d)
          | some totalSize =>
            if d.limits.maxPacketSize < totalSize then
              (.error (.packetTooLarge totalSize d.limits.maxPacketSize), d.reset)
            else tryDecodeLoop turns { d with phase := .payload rlenLen remainingLength }
    | .payload rlenLen remainingLength =>
      match packetLen rlenLen remainingLength with
      | none => (.error .malformedPacket, d)
      | some packetLen =>
        let available := d.buf.length - d.bufOffset
        if available < packetLen then (.error .insufficientData, d)
        else match Usize.checkedAdd d.bufOffset packetLen with
          | none => (.error .malformedPacket, d)
          | some stop =>
            let result := Slice.range d.buf d.bufOffset stop >>= decodePacket d.version
            (result, ({ d with bufOffset := stop, phase := .fixedHeader } : Decoder).maybeCompact)

def tryDecode (d : Decoder) : Outcome DecodeError VersionedIncomingPacket × Decoder := tryDecodeLoop 3 d

def decode (d : Decoder) : Outcome DecodeError (Option VersionedIncomingPacket) × Decoder :=
  match d.tryDecode with
  | (.ok packet, d) => (.ok (some packet), d)
  | (.error .insufficientData, d) => (.ok none, d)
  | (.error reason, d) => (.error reason, d)
  | (.panic, d) => (.panic, d)
  | (.hang, d) => (.hang, d)

/-- What a fixed header says: more bytes are needed, the stream is broken, or a frame of so many bytes for its
    Remaining Length field and its content follows. -/
inductive Header where
  | incomplete
  | broken (reason : DecodeError)
  | frame (rlenLen remainingLength : Nat)
  deriving DecidableEq

def readHeader (limits : Limits) : List UInt8 → Header
  | [] => .incomplete
  | _ :: rest =>
    match VariableByteInteger.parse rest with
    | .error .insufficientData => .incomplete
    | .error reason => .broken reason
    | .ok (vbi, after) =>
      let rlenLen := rest.length - after.length
      let size := 1 + rlenLen + vbi.value.toNat
      if limits.maxPacketSize < size then .broken (.packetTooLarge size limits.maxPacketSize)
      else .frame rlenLen vbi.value.toNat

/-- The bytes that are fed and not consumed yet. -/
def pending (d : Decoder) : List UInt8 := d.buf.drop d.bufOffset

/-- The header that the next turn works with: the one read before, or the one at the front of the bytes. -/
def header (d : Decoder) : Header :=
  match d.phase with
  | .payload rlenLen remainingLength => .frame rlenLen remainingLength
  | _ => readHeader d.limits d.pending

def consume (d : Decoder) (size : Nat) : Decoder :=
  ({ d with bufOffset := d.bufOffset + size, phase := .fixedHeader } : Decoder).maybeCompact

/-- The buffer is a vector, at most half of it is consumed, and a header that was read is still at the front. -/
structure Wellformed (d : Decoder) : Prop where
  offset : d.bufOffset ≤ d.buf.length / 2
  capacity : d.buf.length ≤ Isize.max
  cached : ∀ {rlenLen remainingLength}, d.phase = .payload rlenLen remainingLength →
    ∃ first rest, d.pending = first :: (VariableByteInteger.bytes remainingLength ++ rest) ∧
      rlenLen = (VariableByteInteger.bytes remainingLength).length ∧ remainingLength ≤ VariableByteInteger.max

section Turns

variable {d : Decoder} {rlenLen remainingLength turns : Nat}

theorem header_cases (d : Decoder) :
    (∃ rlenLen remainingLength, d.phase = .payload rlenLen remainingLength ∧
        d.header = .frame rlenLen remainingLength) ∨
      ((d.phase = .fixedHeader ∨ d.phase = .remainingLength) ∧ d.header = readHeader d.limits d.pending) := by
  unfold header
  cases d.phase with
  | fixedHeader => exact .inr ⟨.inl rfl, rfl⟩
  | remainingLength => exact .inr ⟨.inr rfl, rfl⟩
  | payload rlenLen remainingLength => exact .inl ⟨rlenLen, remainingLength, rfl, rfl⟩

theorem length_pending (d : Decoder) : d.pending.length = d.buf.length - d.bufOffset := List.length_drop

theorem packetLen_of_le (few : rlenLen ≤ 4) (small : remainingLength ≤ VariableByteInteger.max) :
    packetLen rlenLen remainingLength = some (1 + rlenLen + remainingLength) := by
  rw [VariableByteInteger.max] at small
  have first : Usize.checkedAdd 1 rlenLen = some (1 + rlenLen) := Usize.checkedAdd_of_le (by rw [Usize.max]; omega)
  have second : Usize.checkedAdd (1 + rlenLen) remainingLength = some (1 + rlenLen + remainingLength) :=
    Usize.checkedAdd_of_le (by rw [Usize.max]; omega)
  rw [packetLen, first]
  exact second

theorem readHeader_frame {limits : Limits} {bytes : List UInt8}
    (read : readHeader limits bytes = .frame rlenLen remainingLength) :
    ∃ first rest, bytes = first :: (VariableByteInteger.bytes remainingLength ++ rest) ∧
      rlenLen = (VariableByteInteger.bytes remainingLength).length ∧ remainingLength ≤ VariableByteInteger.max ∧
      1 + rlenLen + remainingLength ≤ limits.maxPacketSize := by
  cases bytes with
  | nil => cases read
  | cons first rest =>
    simp only [readHeader] at read
    split at read
    · cases read
    · cases read
    · rename_i vbi after parsed
      split at read
      · cases read
      · rename_i fits
        cases read
        obtain ⟨small, rfl⟩ := VariableByteInteger.parse_eq_ok.mp parsed
        simp only [List.length_append, Nat.add_sub_cancel] at fits ⊢
        exact ⟨first, after, rfl, trivial, small, Nat.le_of_not_lt fits⟩

theorem tryDecodeLoop_payload (wellformed : d.Wellformed) (phase : d.phase = .payload rlenLen remainingLength) :
    tryDecodeLoop (turns + 1) d =
      if d.pending.length < 1 + rlenLen + remainingLength then (.error .insufficientData, d)
      else (decodePacket d.version (d.pending.take (1 + rlenLen + remainingLength)),
        d.consume (1 + rlenLen + remainingLength)) := by
  obtain ⟨first, rest, -, shortest, small⟩ := wellformed.cached phase
  have few : rlenLen ≤ 4 := shortest ▸ VariableByteInteger.length_bytes_le remainingLength
  have half := wellformed.offset
  have fits := wellformed.capacity
  rw [tryDecodeLoop, phase]
  simp only [packetLen_of_le few small, length_pending]
  split
  · rfl
  · rename_i complete
    have inside : d.bufOffset + (1 + rlenLen + remainingLength) ≤ d.buf.length := by omega
    have stop : Usize.checkedAdd d.bufOffset (1 + rlenLen + remainingLength) =
        some (d.bufOffset + (1 + rlenLen + remainingLength)) := by
      apply Usize.checkedAdd_of_le
      rw [Isize.max] at fits
      rw [Usize.max]
      omega
    have frame : (Slice.range d.buf d.bufOffset (d.bufOffset + (1 + rlenLen + remainingLength)) :
        Outcome DecodeError (List UInt8)) = .ok (d.pending.take (1 + rlenLen + remainingLength)) :=
      Slice.range_prefix inside
    simp only [stop, frame, Outcome.ok_bind]
    rfl

theorem tryDecodeLoop_remainingLength (wellformed : d.Wellformed) (phase : d.phase = .remainingLength) :
    tryDecodeLoop (turns + 1) d =
      match readHeader d.limits d.pending with
      | .incomplete => (.error .insufficientData, d)
      | .broken reason => (.error reason, d.reset)
      | .frame rlenLen remainingLength =>
        tryDecodeLoop turns { d with phase := .payload rlenLen remainingLength } := by
  have half := wellformed.offset
  have fits := wellformed.capacity
  have length := d.length_pending
  rw [tryDecodeLoop, phase]
  dsimp only
  rcases front : d.pending with _ | ⟨first, rest⟩
  · rw [front] at length
    simp only [List.length_nil] at length
    rw [if_pos (by omega)]
    rfl
  · rw [front, List.length_cons] at length
    have start : (Usize.add d.bufOffset 1 : Outcome DecodeError Nat) = .ok (d.bufOffset + 1) := by
      apply Usize.add_of_le
      rw [Isize.max] at fits
      rw [Usize.max]
      omega
    have behind : (Slice.rangeFrom d.buf (d.bufOffset + 1) : Outcome DecodeError (List UInt8)) = .ok rest := by
      rw [Slice.rangeFrom_of_le (by omega), ← List.drop_drop]
      have shifted : (d.buf.drop d.bufOffset).drop 1 = rest := by
        rw [show d.buf.drop d.bufOffset = first :: rest from front]
        rfl
      rw [shifted]
    simp only [start, behind, Outcome.ok_bind, VariableByteInteger.decode_eq, readHeader]
    split
    · rename_i short
      obtain rfl : rest = [] := List.length_eq_zero_iff.mp (by omega)
      rfl
    · cases parsed : VariableByteInteger.parse rest with
      | error reason =>
        simp only [Outcome.upTo]
        cases reason <;> rfl
      | ok read =>
        obtain ⟨vbi, after⟩ := read
        obtain ⟨small, rfl⟩ := VariableByteInteger.parse_eq_ok.mp parsed
        have few := VariableByteInteger.length_bytes_le vbi.value.toNat
        simp only [Outcome.upTo, List.length_append, Nat.add_sub_cancel, packetLen_of_le few small]
        split <;> rfl

theorem tryDecodeLoop_fixedHeader (phase : d.phase = .fixedHeader) :
    tryDecodeLoop (turns + 1) d =
      if d.pending = [] then (.error .insufficientData, d)
      else tryDecodeLoop turns { d with phase := .remainingLength } := by
  have length := d.length_pending
  rw [tryDecodeLoop, phase]
  simp only [← List.length_eq_zero_iff, length, Nat.sub_eq_zero_iff_le]

theorem Wellformed.reading (wellformed : d.Wellformed) : Wellformed { d with phase := .remainingLength } :=
  ⟨wellformed.offset, wellformed.capacity, nofun⟩

theorem Wellformed.headerRead (wellformed : d.Wellformed)
    (read : readHeader d.limits d.pending = .frame rlenLen remainingLength) :
    Wellformed { d with phase := .payload rlenLen remainingLength } := by
  refine ⟨wellformed.offset, wellformed.capacity, ?_⟩
  rintro _ _ ⟨⟩
  obtain ⟨first, rest, front, shortest, small, -⟩ := readHeader_frame read
  exact ⟨first, rest, front, shortest, small⟩

theorem header_front (wellformed : d.Wellformed) (front : d.header = .frame rlenLen remainingLength) :
    ∃ first rest, d.pending = first :: (VariableByteInteger.bytes remainingLength ++ rest) ∧
      rlenLen = (VariableByteInteger.bytes remainingLength).length ∧ remainingLength ≤ VariableByteInteger.max ∧
      (d.phase = .payload rlenLen remainingLength ∨ 1 + rlenLen + remainingLength ≤ d.limits.maxPacketSize) := by
  rcases d.header_cases with ⟨rlenLen', remainingLength', phase, cached⟩ | ⟨-, read⟩
  · rw [cached] at front
    cases front
    obtain ⟨first, rest, bytes, shortest, small⟩ := wellformed.cached phase
    exact ⟨first, rest, bytes, shortest, small, .inl phase⟩
  · rw [read] at front
    obtain ⟨first, rest, bytes, shortest, small, fits⟩ := readHeader_frame front
    exact ⟨first, rest, bytes, shortest, small, .inr fits⟩

/-- What the loop does with a header: wait for more bytes in some phase, give up on the stream, or decode and
    consume one frame. -/
def proceed (d : Decoder) (waiting : DecodePhase) : Header → Outcome DecodeError VersionedIncomingPacket × Decoder
  | .incomplete => (.error .insufficientData, { d with phase := waiting })
  | .broken reason => (.error reason, d.reset)
  | .frame rlenLen remainingLength =>
    if d.pending.length < 1 + rlenLen + remainingLength then
      (.error .insufficientData, { d with phase := .payload rlenLen remainingLength })
    else (decodePacket d.version (d.pending.take (1 + rlenLen + remainingLength)),
      d.consume (1 + rlenLen + remainingLength))

theorem tryDecodeLoop_reading (wellformed : d.Wellformed) :
    tryDecodeLoop (turns + 2) { d with phase := .remainingLength } =
      d.proceed .remainingLength (readHeader d.limits d.pending) := by
  rw [tryDecodeLoop_remainingLength wellformed.reading rfl]
  show (match readHeader d.limits d.pending with | .incomplete => _ | .broken reason => _ | .frame _ _ => _) = _
  cases read : readHeader d.limits d.pending with
  | incomplete | broken reason => rfl
  | frame rlenLen remainingLength => exact tryDecodeLoop_payload (wellformed.headerRead read) rfl

theorem tryDecode_eq (wellformed : d.Wellformed) :
    d.tryDecode = d.proceed (if d.pending = [] then d.phase else .remainingLength) d.header := by
  cases phase : d.phase with
  | fixedHeader =>
    rw [tryDecode, tryDecodeLoop_fixedHeader phase, header, phase]
    by_cases empty : d.pending = []
    · simp only [empty, ↓reduceIte, readHeader, proceed]
      rw [← phase]
    · simp only [empty, ↓reduceIte]
      exact tryDecodeLoop_reading wellformed
  | remainingLength =>
    have same : d = { d with phase := .remainingLength } := by rw [← phase]
    have read : tryDecodeLoop (1 + 2) { d with phase := .remainingLength } = _ := tryDecodeLoop_reading wellformed
    rw [← same] at read
    rw [tryDecode, header, phase, ite_self]
    exact read
  | payload rlenLen remainingLength =>
    rw [tryDecode, tryDecodeLoop_payload wellformed phase, header, phase]
    simp only [proceed]
    rw [← phase]

theorem readHeader_broken {limits : Limits} {bytes : List UInt8} {reason : DecodeError}
    (read : readHeader limits bytes = .broken reason) : reason ≠ .insufficientData := by
  cases bytes with
  | nil => cases read
  | cons first rest =>
    simp only [readHeader] at read
    split at read
    · cases read
    · rename_i other _
      cases read
      exact other
    · split at read <;> cases read
      intro same
      cases same

theorem answer_of_returns {α : Type} {outcome : Outcome DecodeError (α × Nat)} (returns : outcome.Returns)
    (tag : α → VersionedIncomingPacket) :
    ∃ result : Except DecodeError VersionedIncomingPacket,
      (do
        let (packet, _) ← outcome.mapError malformedIfInsufficient
        .ok (tag packet)) = Outcome.ofExcept result ∧ result ≠ .error .insufficientData := by
  obtain ⟨result, rfl⟩ := Outcome.returns_iff.mp returns
  cases result with
  | ok read => exact ⟨.ok (tag read.1), rfl, nofun⟩
  | error reason =>
    refine ⟨.error (malformedIfInsufficient reason), rfl, ?_⟩
    exact fun same => malformedIfInsufficient_ne reason (Except.error.inj same)

theorem decodePacket_returns (version : MqttVersion) (buf : List UInt8) :
    ∃ result, decodePacket version buf = .ofExcept result ∧ result ≠ .error .insufficientData := by
  cases version with
  | v5 => exact answer_of_returns (V5.IncomingPacket.decode_measures buf).returns .v5
  | v311 => exact answer_of_returns (V311.IncomingPacket.decode_measures buf).returns .v311

theorem decode_cases (wellformed : d.Wellformed) :
    (d.header = .incomplete ∧ ∃ waiting, (waiting = .fixedHeader ∨ waiting = .remainingLength) ∧
      d.decode = (.ok none, { d with phase := waiting })) ∨
    (∃ reason, d.header = .broken reason ∧ d.decode = (.error reason, d.reset)) ∨
    (∃ rlenLen remainingLength, d.header = .frame rlenLen remainingLength ∧
      d.pending.length < 1 + rlenLen + remainingLength ∧
      d.decode = (.ok none, { d with phase := .payload rlenLen remainingLength })) ∨
    (∃ rlenLen remainingLength result, d.header = .frame rlenLen remainingLength ∧
      1 + rlenLen + remainingLength ≤ d.pending.length ∧
      decodePacket d.version (d.pending.take (1 + rlenLen + remainingLength)) = .ofExcept result ∧
      d.decode = (.ofExcept (result.map some), d.consume (1 + rlenLen + remainingLength))) := by
  unfold decode
  rw [tryDecode_eq wellformed]
  cases front : d.header with
  | incomplete =>
    refine .inl ⟨rfl, _, ?_, rfl⟩
    split
    · rcases d.header_cases with ⟨_, _, -, cached⟩ | ⟨unread, -⟩
      · rw [cached] at front
        cases front
      · exact unread
    · exact .inr rfl
  | broken reason =>
    refine .inr (.inl ⟨reason, rfl, ?_⟩)
    have other : reason ≠ .insufficientData := by
      rcases d.header_cases with ⟨_, _, -, cached⟩ | ⟨-, read⟩
      · rw [cached] at front
        cases front
      · exact readHeader_broken (read.symm.trans front)
    cases reason <;> first | rfl | exact absurd rfl other
  | frame rlenLen remainingLength =>
    by_cases short : d.pending.length < 1 + rlenLen + remainingLength
    · refine .inr (.inr (.inl ⟨rlenLen, remainingLength, rfl, short, ?_⟩))
      rw [proceed, if_pos short]
    · obtain ⟨result, answered, other⟩ :=
        decodePacket_returns d.version (d.pending.take (1 + rlenLen + remainingLength))
      refine .inr (.inr (.inr ⟨rlenLen, remainingLength, result, rfl, Nat.le_of_not_lt short, answered, ?_⟩))
      rw [proceed, if_neg short, answered]
      cases result with
      | ok packet => rfl
      | error reason => cases reason <;> first | rfl | exact absurd rfl other

theorem pending_consume (d : Decoder) (size : Nat) : (d.consume size).pending = d.pending.drop size := by
  rw [pending, pending, List.drop_drop, consume, maybeCompact]
  split <;> rfl

theorem Wellformed.consume {size : Nat} (wellformed : d.Wellformed) : (d.consume size).Wellformed := by
  have fits := wellformed.capacity
  unfold Decoder.consume maybeCompact
  split
  · refine ⟨Nat.zero_le _, ?_, nofun⟩
    simp only [List.length_drop]
    omega
  · rename_i half
    exact ⟨Nat.le_of_not_lt half, fits, nofun⟩

theorem reset_wellformed (d : Decoder) : d.reset.Wellformed :=
  ⟨Nat.zero_le _, Nat.zero_le _, nofun⟩

theorem Wellformed.setLimits (wellformed : d.Wellformed) (limits : Limits) : (d.setLimits limits).Wellformed :=
  ⟨wellformed.offset, wellformed.capacity, wellformed.cached⟩

theorem pending_append (wellformed : d.Wellformed) (data : List UInt8) :
    pending { d with buf := d.buf ++ data } = d.pending ++ data := by
  have half := wellformed.offset
  have inside : d.bufOffset ≤ d.buf.length := by omega
  exact List.drop_append_of_le_length inside

theorem Wellformed.append {data : List UInt8} (wellformed : d.Wellformed)
    (fits : d.buf.length + data.length ≤ Isize.max) : Wellformed { d with buf := d.buf ++ data } := by
  have half := wellformed.offset
  refine ⟨?_, ?_, ?_⟩
  · show d.bufOffset ≤ (d.buf ++ data).length / 2
    rw [List.length_append]
    omega
  · show (d.buf ++ data).length ≤ Isize.max
    rw [List.length_append]
    exact fits
  · intro rlenLen remainingLength phase
    obtain ⟨first, rest, front, shortest, small⟩ := wellformed.cached phase
    refine ⟨first, rest ++ data, ?_, shortest, small⟩
    rw [pending_append wellformed, front, List.cons_append, List.append_assoc]

theorem feed_cases (d : Decoder) (data : List UInt8) :
    (d.pending.length + data.length ≤ Usize.saturatingAdd d.limits.maxPacketSize maxPacketOverhead ∧
      d.buf.length + data.length ≤ Isize.max ∧ d.feed data = (.ok (), { d with buf := d.buf ++ data })) ∨
    (Usize.saturatingAdd d.limits.maxPacketSize maxPacketOverhead < d.pending.length + data.length ∧
      ∃ reason, d.feed data = (.error reason, d)) ∨
    (Isize.max < d.buf.length + data.length ∧ d.feed data = (.panic, d)) := by
  have bound : Usize.saturatingAdd d.limits.maxPacketSize maxPacketOverhead ≤ Usize.max := Nat.min_le_right _ _
  rw [length_pending]
  unfold feed Usize.checkedAdd
  by_cases overflow : d.buf.length - d.bufOffset + data.length ≤ Usize.max
  · by_cases large : Usize.saturatingAdd d.limits.maxPacketSize maxPacketOverhead <
        d.buf.length - d.bufOffset + data.length
    · exact .inr (.inl ⟨large, _, by simp only [if_pos overflow, if_pos large]; rfl⟩)
    · by_cases fits : d.buf.length + data.length ≤ Isize.max
      · refine .inl ⟨Nat.le_of_not_lt large, fits, ?_⟩
        simp only [if_pos overflow, if_neg large, Slice.extend_of_le fits]
      · refine .inr (.inr ⟨Nat.lt_of_not_le fits, ?_⟩)
        simp only [if_pos overflow, if_neg large, Slice.extend, if_neg fits]
  · refine .inr (.inl ⟨by omega, .packetTooLarge Usize.max d.limits.maxPacketSize, ?_⟩)
    simp only [if_neg overflow]

theorem decode_returns (wellformed : d.Wellformed) : d.decode.1.Returns := by
  rcases decode_cases wellformed with
    ⟨-, waiting, -, result⟩ | ⟨reason, -, result⟩ | ⟨rlenLen, remainingLength, -, -, result⟩ |
    ⟨rlenLen, remainingLength, answer, -, -, -, result⟩ <;> rw [result]
  · trivial
  · trivial
  · trivial
  · cases answer <;> trivial

theorem feed_returns {data : List UInt8} (fits : d.buf.length + data.length ≤ Isize.max) : (d.feed data).1.Returns := by
  rcases d.feed_cases data with ⟨-, -, result⟩ | ⟨-, _, result⟩ | ⟨large, -⟩
  · rw [result]
    trivial
  · rw [result]
    trivial
  · exact absurd fits (Nat.not_le_of_lt large)

/-- Both calls come back, `feed` as long as a vector can hold the bytes. -/
def CallsReturn (d : Decoder) : Prop :=
  d.decode.1.Returns ∧ ∀ data : List UInt8, d.buf.length + data.length ≤ Isize.max → (d.feed data).1.Returns

theorem Wellformed.callsReturn (wellformed : d.Wellformed) : d.CallsReturn :=
  ⟨decode_returns wellformed, fun _ => feed_returns⟩

end Turns

section Runs

inductive DecoderOp where
  | feed (data : List UInt8)
  | decode
  | setLimits (limits : Limits)

/-- The decoder after a call that comes back. -/
def next (d : Decoder) : DecoderOp → Option Decoder
  | .feed data =>
    match d.feed data with
    | (.ok _, d) | (.error _, d) => some d
    | (.panic, _) | (.hang, _) => none
  | .decode =>
    match d.decode with
    | (.ok _, d) | (.error _, d) => some d
    | (.panic, _) | (.hang, _) => none
  | .setLimits limits => some (d.setLimits limits)

variable {d e : Decoder} {op : DecoderOp}

theorem new_wellformed (version : MqttVersion) (limits : Limits) : ((new version).withLimits limits).Wellformed :=
  ⟨Nat.zero_le _, Nat.zero_le _, nofun⟩

theorem decode_wellformed (wellformed : d.Wellformed) : d.decode.2.Wellformed := by
  rcases decode_cases wellformed with
    ⟨-, waiting, known, result⟩ | ⟨reason, -, result⟩ | ⟨rlenLen, remainingLength, front, -, result⟩ |
    ⟨rlenLen, remainingLength, answer, -, -, -, result⟩ <;> rw [result]
  · refine ⟨wellformed.offset, wellformed.capacity, ?_⟩
    rintro _ _ ⟨⟩
    rcases known with wrong | wrong <;> cases wrong
  · exact d.reset_wellformed
  · rcases d.header_cases with ⟨rlenLen', remainingLength', phase, cached⟩ | ⟨-, read⟩
    · have same : d = { d with phase := .payload rlenLen' remainingLength' } := by rw [← phase]
      rw [cached] at front
      cases front
      rw [← same]
      exact wellformed
    · exact wellformed.headerRead (read.symm.trans front)
  · exact wellformed.consume

theorem next_wellformed (wellformed : d.Wellformed) (step : Steps next d op e) : e.Wellformed := by
  cases op with
  | feed data =>
    rcases d.feed_cases data with ⟨-, fits, result⟩ | ⟨-, reason, result⟩ | ⟨-, result⟩ <;>
      simp only [Steps, next, result] at step <;> cases step
    · exact wellformed.append fits
    · exact wellformed
  | decode =>
    have kept := decode_wellformed wellformed
    simp only [Steps, next] at step
    split at step <;> rename_i result <;> cases step <;> rw [result] at kept <;> exact kept
  | setLimits limits =>
    cases step
    exact wellformed.setLimits limits

end Runs

end Decoder

end MqttRs
