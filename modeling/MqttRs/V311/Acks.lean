import MqttRs.Codec.Fields

/-! The packets whose body is empty or a packet identifier alone. -/

namespace MqttRs.V311

def encodeEmpty (packetType flags : UInt8) (buf : List UInt8) : Outcome EncodeError (List UInt8 × Nat) :=
  encodeFrame (packetType ||| flags) 0 .nothing buf

def decodeEmpty (packetType flags : UInt8) (buf : List UInt8) : Outcome DecodeError Nat :=
  if buf.isEmpty then .error .insufficientData
  else do
    let first ← Slice.index buf 0
    let _ ← .ofExcept (expectHeader packetType flags first)
    let rest ← Slice.rangeFrom buf 1
    let (remainingLen, vbiLen) ← VariableByteInteger.decode rest
    if remainingLen.value.toNat ≠ 0 then .error .malformedPacket
    else Usize.add 1 vbiLen

def encodeSimpleAck (packetType flags : UInt8) (packetId : UInt16) (buf : List UInt8) :
    Outcome EncodeError (List UInt8 × Nat) := do
  let _ ← .ofExcept (refuseIf (packetId == 0) .zeroPacketId)
  encodeFrame (packetType ||| flags) 2 (writeU16 packetId) buf

def readSimpleAck : ByteReader DecodeError UInt16 := do
  let packetId ← readPacketId
  endOfPacket
  return packetId

def decodeSimpleAck (packetType flags : UInt8) (buf : List UInt8) : Outcome DecodeError (UInt16 × Nat) :=
  decodeFrame (expectHeader packetType flags) (fun _ _ => readSimpleAck) buf

section

variable {packetType flags : UInt8} {buf written : List UInt8} {n : Nat}

theorem decodeEmpty_cons (first : UInt8) (rest : List UInt8) :
    decodeEmpty packetType flags (first :: rest) =
      match expectHeader packetType flags first with
      | .error reason => .error reason
      | .ok _ =>
        match VariableByteInteger.parse rest with
        | .error reason => .error reason
        | .ok (remainingLen, after) =>
          if remainingLen.value.toNat ≠ 0 then .error .malformedPacket else .ok (1 + (rest.length - after.length)) := by
  rw [decodeEmpty, Slice.index_zero_cons, Slice.rangeFrom_one_cons]
  simp only [Outcome.ok_bind, VariableByteInteger.decode_eq]
  show (do
    let _ ← Outcome.ofExcept (expectHeader packetType flags first)
    _) = _
  cases expectHeader packetType flags first with
  | error reason => rfl
  | ok _ =>
    cases read : VariableByteInteger.parse rest with
    | error reason => rfl
    | ok result =>
      obtain ⟨remainingLen, after⟩ := result
      obtain ⟨_, rfl⟩ := VariableByteInteger.parse_eq_ok.mp read
      have vbiLen := VariableByteInteger.length_bytes_le remainingLen.value.toNat
      have fits : 1 + (VariableByteInteger.bytes remainingLen.value.toNat).length ≤ Usize.max := by
        rw [Usize.max]
        omega
      simp only [Outcome.ofExcept, Outcome.upTo, Outcome.ok_bind, List.length_append, Nat.add_sub_cancel,
        Usize.add_of_le fits]

theorem decodeEmpty_returns : (decodeEmpty packetType flags buf).Returns := by
  cases buf with
  | nil => exact True.intro
  | cons first rest =>
    rw [decodeEmpty_cons]
    cases expectHeader packetType flags first with
    | error reason => exact True.intro
    | ok _ =>
      cases VariableByteInteger.parse rest with
      | error reason => exact True.intro
      | ok result =>
        show (if _ then _ else _ : Outcome DecodeError Nat).Returns
        split <;> exact True.intro

theorem framed_nothing_iff {first : UInt8} : Framed first .nothing written ↔ written = [first, 0] := by
  simp only [Framed, ByteWriter.writes_nothing, exists_eq_left, List.length_nil]
  exact ⟨And.right, fun same => ⟨Nat.zero_le _, same⟩⟩

theorem decodeEmpty_eq_ok (high : (packetType ||| flags) &&& 0xF0 = packetType)
    (low : (packetType ||| flags) &&& 0x0F = flags) :
    decodeEmpty packetType flags buf = .ok n ↔ n ≤ buf.length ∧ Framed (packetType ||| flags) .nothing (buf.take n) := by
  rw [framed_nothing_iff, take_eq_iff]
  constructor
  · intro decoded
    cases buf with
    | nil => cases decoded
    | cons first rest =>
      rw [decodeEmpty_cons] at decoded
      split at decoded
      · cases decoded
      · rename_i accepted
        obtain rfl := (expectHeader_iff high low).mp accepted
        split at decoded
        · cases decoded
        · rename_i remainingLen after read
          obtain ⟨_, rfl⟩ := VariableByteInteger.parse_eq_ok.mp read
          split at decoded
          · cases decoded
          · rename_i zero
            rw [not_not] at zero
            rw [zero] at decoded ⊢
            cases decoded
            refine ⟨?_, after, rfl⟩
            rw [List.length_append, Nat.add_sub_cancel]
            rfl
  · intro framed
    obtain ⟨rfl, tail, rfl⟩ := framed
    have parsed : VariableByteInteger.parse (0 :: tail) = .ok (⟨0⟩, tail) :=
      @VariableByteInteger.parse_bytes 0 (Nat.zero_le _) tail
    rw [List.cons_append, decodeEmpty_cons, (@expectHeader_iff packetType flags _ () high low).mpr rfl]
    simp only [List.cons_append, List.nil_append, parsed, List.length_cons, Nat.add_sub_cancel_left]
    rfl

theorem encodeToVec_empty :
    encodeToVec 0 (encodeEmpty packetType flags) = .ok written ↔ Framed (packetType ||| flags) .nothing written := by
  have encoded := @encodeToVec_eq_ok (packetType ||| flags) 0 .nothing (.ok ()) (fun _ => Announces.refl 0) written
  simp only [true_and] at encoded
  exact encoded

theorem decodeSimpleAck_eq_ok (high : (packetType ||| flags) &&& 0xF0 = packetType)
    (low : (packetType ||| flags) &&& 0x0F = flags) {packetId : UInt16} :
    decodeSimpleAck packetType flags buf = .ok (packetId, n) ↔
      packetId ≠ 0 ∧ n ≤ buf.length ∧ Framed (packetType ||| flags) (writeU16 packetId) (buf.take n) := by
  apply decodeFrame_expect_iff high low
  intro content value rest
  simp only [readSimpleAck, ByteReader.reads_bind, reads_readPacketId, reads_endOfPacket, ByteReader.reads_pure, writes_writeU16]
  constructor
  · intro read
    obtain ⟨_, _, ⟨nonzero, rfl⟩, _, _, ⟨rfl, rfl⟩, rfl, rfl⟩ := read
    exact ⟨nonzero, List.append_nil _, rfl⟩
  · intro written
    obtain ⟨nonzero, rfl, rfl⟩ := written
    exact ⟨value, [], ⟨nonzero, (List.append_nil _).symm⟩, (), [], ⟨rfl, rfl⟩, rfl, rfl⟩

theorem encodeToVec_simpleAck {packetId : UInt16} :
    encodeToVec 2 (encodeSimpleAck packetType flags packetId) = .ok written ↔
      packetId ≠ 0 ∧ Framed (packetType ||| flags) (writeU16 packetId) written := by
  have encoded := @encodeToVec_eq_ok (packetType ||| flags) 2 (writeU16 packetId) (refuseIf (packetId == 0) .zeroPacketId)
    (fun _ => Announces.refl 2) written
  rw [refuseIf_eq_ok, beq_eq_false_iff_ne] at encoded
  exact encoded

def simpleAckLayout (packetType flags : UInt8) (packetId : UInt16) : Layout :=
  .exactly (packetType ||| flags) (writeU16 packetId) (refuseIf (packetId == 0) .zeroPacketId)

theorem simpleAck_conforms {α : Type} {wrap : UInt16 → α} {packetId : α → UInt16}
    (high : (packetType ||| flags) &&& 0xF0 = packetType) (low : (packetType ||| flags) &&& 0x0F = flags)
    (wrapped : ∀ given packet, (wrap given = packet) = (given = packetId packet)) :
    Conforms packetType (fun packet => simpleAckLayout packetType flags (packetId packet))
      (fun buf => (decodeSimpleAck packetType flags buf).tagged wrap) (fun _ => 2)
      (fun packet => encodeSimpleAck packetType flags (packetId packet)) := by
  apply Conforms.exactly
  · intro _
    exact high
  · intro buf
    exact Outcome.tagged_returns.mpr (decodeFrame_returns _ _ buf)
  · intro buf packet n
    rw [Outcome.tagged_eq_ok, refuseIf_eq_ok, beq_eq_false_iff_ne, ← decodeSimpleAck_eq_ok high low]
    simp only [wrapped, exists_eq_right]
  · intro packet written
    rw [refuseIf_eq_ok, beq_eq_false_iff_ne]
    exact encodeToVec_simpleAck

theorem empty_conforms {α : Type} {only : α} (high : (packetType ||| flags) &&& 0xF0 = packetType)
    (low : (packetType ||| flags) &&& 0x0F = flags) (unique : ∀ packet, packet = only) :
    Conforms packetType (fun _ => .exactly (packetType ||| flags) .nothing (.ok ()))
      (fun buf => do
        let offset ← decodeEmpty packetType flags buf
        .ok (only, offset)) (fun _ => 0)
      (fun _ => encodeEmpty packetType flags) := by
  apply Conforms.exactly
  · intro _
    exact high
  · intro buf
    cases decoded : decodeEmpty packetType flags buf with
    | ok offset => exact True.intro
    | error reason => exact True.intro
    | panic => exact (decoded ▸ decodeEmpty_returns : (Outcome.panic : Outcome DecodeError Nat).Returns).elim
    | hang => exact (decoded ▸ decodeEmpty_returns : (Outcome.hang : Outcome DecodeError Nat).Returns).elim
  · intro buf packet n
    rw [Outcome.beside_eq_ok (unique packet).symm, decodeEmpty_eq_ok high low]
    simp only [true_and]
  · intro packet written
    rw [encodeToVec_empty]
    simp only [true_and]

end

structure PubAck where
  packetId : UInt16
  deriving DecidableEq

namespace PubAck

def packetType : UInt8 := 0x40

def flags : UInt8 := 0

def encodedLen (_ : PubAck) : Nat := 2

def encode (packet : PubAck) : List UInt8 → Outcome EncodeError (List UInt8 × Nat) :=
  encodeSimpleAck packetType flags packet.packetId

def decode (buf : List UInt8) : Outcome DecodeError (PubAck × Nat) := (decodeSimpleAck packetType flags buf).tagged mk

def layout (packet : PubAck) : Layout := simpleAckLayout packetType flags packet.packetId

theorem conforms : Conforms packetType layout decode encodedLen encode :=
  simpleAck_conforms (by decide) (by decide) fun _ _ => mk.injEq ..

end PubAck

structure PubRec where
  packetId : UInt16
  deriving DecidableEq

namespace PubRec

def packetType : UInt8 := 0x50

def flags : UInt8 := 0

def encodedLen (_ : PubRec) : Nat := 2

def encode (packet : PubRec) : List UInt8 → Outcome EncodeError (List UInt8 × Nat) :=
  encodeSimpleAck packetType flags packet.packetId

def decode (buf : List UInt8) : Outcome DecodeError (PubRec × Nat) := (decodeSimpleAck packetType flags buf).tagged mk

def layout (packet : PubRec) : Layout := simpleAckLayout packetType flags packet.packetId

theorem conforms : Conforms packetType layout decode encodedLen encode :=
  simpleAck_conforms (by decide) (by decide) fun _ _ => mk.injEq ..

end PubRec

structure PubRel where
  packetId : UInt16
  deriving DecidableEq

namespace PubRel

def packetType : UInt8 := 0x60

def flags : UInt8 := 0x02

def encodedLen (_ : PubRel) : Nat := 2

def encode (packet : PubRel) : List UInt8 → Outcome EncodeError (List UInt8 × Nat) :=
  encodeSimpleAck packetType flags packet.packetId

def decode (buf : List UInt8) : Outcome DecodeError (PubRel × Nat) := (decodeSimpleAck packetType flags buf).tagged mk

def layout (packet : PubRel) : Layout := simpleAckLayout packetType flags packet.packetId

theorem conforms : Conforms packetType layout decode encodedLen encode :=
  simpleAck_conforms (by decide) (by decide) fun _ _ => mk.injEq ..

end PubRel

structure PubComp where
  packetId : UInt16
  deriving DecidableEq

namespace PubComp

def packetType : UInt8 := 0x70

def flags : UInt8 := 0

def encodedLen (_ : PubComp) : Nat := 2

def encode (packet : PubComp) : List UInt8 → Outcome EncodeError (List UInt8 × Nat) :=
  encodeSimpleAck packetType flags packet.packetId

def decode (buf : List UInt8) : Outcome DecodeError (PubComp × Nat) := (decodeSimpleAck packetType flags buf).tagged mk

def layout (packet : PubComp) : Layout := simpleAckLayout packetType flags packet.packetId

theorem conforms : Conforms packetType layout decode encodedLen encode :=
  simpleAck_conforms (by decide) (by decide) fun _ _ => mk.injEq ..

end PubComp

structure UnsubAck where
  packetId : UInt16
  deriving DecidableEq

namespace UnsubAck

def packetType : UInt8 := 0xB0

def flags : UInt8 := 0

def encodedLen (_ : UnsubAck) : Nat := 2

def encode (packet : UnsubAck) : List UInt8 → Outcome EncodeError (List UInt8 × Nat) :=
  encodeSimpleAck packetType flags packet.packetId

def decode (buf : List UInt8) : Outcome DecodeError (UnsubAck × Nat) :=
  (decodeSimpleAck packetType flags buf).tagged mk

def layout (packet : UnsubAck) : Layout := simpleAckLayout packetType flags packet.packetId

theorem conforms : Conforms packetType layout decode encodedLen encode :=
  simpleAck_conforms (by decide) (by decide) fun _ _ => mk.injEq ..

end UnsubAck

structure PingReq where
  deriving DecidableEq

namespace PingReq

def packetType : UInt8 := 0xC0

def flags : UInt8 := 0

def encodedLen (_ : PingReq) : Nat := 0

def encode (_ : PingReq) : List UInt8 → Outcome EncodeError (List UInt8 × Nat) := encodeEmpty packetType flags

def decode (buf : List UInt8) : Outcome DecodeError (PingReq × Nat) := do
  let offset ← decodeEmpty packetType flags buf
  .ok (⟨⟩, offset)

def layout (_ : PingReq) : Layout := .exactly (packetType ||| flags) .nothing (.ok ())

theorem conforms : Conforms packetType layout decode encodedLen encode :=
  empty_conforms (by decide) (by decide) fun _ => rfl

end PingReq

structure PingResp where
  deriving DecidableEq

namespace PingResp

def packetType : UInt8 := 0xD0

def flags : UInt8 := 0

def encodedLen (_ : PingResp) : Nat := 0

def encode (_ : PingResp) : List UInt8 → Outcome EncodeError (List UInt8 × Nat) := encodeEmpty packetType flags

def decode (buf : List UInt8) : Outcome DecodeError (PingResp × Nat) := do
  let offset ← decodeEmpty packetType flags buf
  .ok (⟨⟩, offset)

def layout (_ : PingResp) : Layout := .exactly (packetType ||| flags) .nothing (.ok ())

theorem conforms : Conforms packetType layout decode encodedLen encode :=
  empty_conforms (by decide) (by decide) fun _ => rfl

end PingResp

structure Disconnect where
  deriving DecidableEq

namespace Disconnect

def packetType : UInt8 := 0xE0

def flags : UInt8 := 0

def encodedLen (_ : Disconnect) : Nat := 0

def encode (_ : Disconnect) : List UInt8 → Outcome EncodeError (List UInt8 × Nat) := encodeEmpty packetType flags

def decode (buf : List UInt8) : Outcome DecodeError (Disconnect × Nat) := do
  let offset ← decodeEmpty packetType flags buf
  .ok (⟨⟩, offset)

def layout (_ : Disconnect) : Layout := .exactly (packetType ||| flags) .nothing (.ok ())

theorem conforms : Conforms packetType layout decode encodedLen encode :=
  empty_conforms (by decide) (by decide) fun _ => rfl

end Disconnect

end MqttRs.V311
