import MqttRs.Codec.Fields
import MqttRs.Codec.FlagBytes
import MqttRs.Library.Refusals

/-! Which bytes the decoders call insufficient: the beginning of a frame, and never a whole one. -/

namespace MqttRs

variable {α β κ : Type}

/-- Every beginning of `whole` is too short. -/
def Waits (decode : List UInt8 → Outcome DecodeError (α × Nat)) (whole : List UInt8) : Prop :=
  ∀ part, part <+: whole → part ≠ whole → decode part = .error .insufficientData

/-- On a whole frame the answer never asks for more bytes, and does not depend on the bytes behind it. -/
def Settles (decode : List UInt8 → Outcome DecodeError (α × Nat)) : Prop :=
  ∀ buf n, Measured buf n → decode buf ≠ .error .insufficientData ∧ decode (buf.take n) = decode buf

section Header

variable {check : UInt8 → Except DecodeError κ} {body : κ → Nat → ByteReader DecodeError α} {first : UInt8} {key : κ}
  {content part : List UInt8}

/-- What stands in front of the rest of a frame is not enough for its Remaining Length, or for the content behind it. -/
theorem parse_beginning {rest more : List UInt8} (small : content.length ≤ VariableByteInteger.max)
    (whole : rest ++ more = VariableByteInteger.bytes content.length ++ content) (left : more ≠ []) :
    VariableByteInteger.parse rest = .error .insufficientData ∨
      ∃ after, VariableByteInteger.parse rest = .ok (⟨UInt32.ofNat content.length⟩, after) ∧
        after.length < content.length := by
  have parsedWhole := VariableByteInteger.parse_bytes small content
  rw [← whole] at parsedWhole
  cases parsed : VariableByteInteger.parse rest with
  | error reason =>
    rcases VariableByteInteger.parse_error parsed with ⟨rfl, -⟩ | ⟨-, stays⟩
    · exact .inl rfl
    · rw [stays more] at parsedWhole
      cases parsedWhole
  | ok read =>
    obtain ⟨remainingLen, after⟩ := read
    have longer := VariableByteInteger.parse_append parsed more
    rw [parsedWhole] at longer
    obtain ⟨rfl, rest⟩ := Prod.mk.inj (Except.ok.inj longer)
    have length := congrArg List.length rest
    have positive := List.length_pos_iff.mpr left
    rw [List.length_append] at length
    exact .inr ⟨after, rfl, by omega⟩

/-- A beginning of a frame is empty, or has its first byte and lacks something behind it. -/
theorem beginning_cases (starts : part <+: frame first content) (strict : part ≠ frame first content) :
    part = [] ∨ ∃ rest more, part = first :: rest ∧
      rest ++ more = VariableByteInteger.bytes content.length ++ content ∧ more ≠ [] := by
  obtain ⟨more, whole⟩ := starts
  cases part with
  | nil => exact .inl rfl
  | cons byte rest =>
    obtain ⟨rfl, behind⟩ := List.cons.inj whole
    refine .inr ⟨rest, more, rfl, behind, ?_⟩
    rintro rfl
    rw [List.append_nil] at whole
    exact strict whole

theorem decodeFrame_waits (accepted : check first = .ok key) (small : content.length ≤ VariableByteInteger.max) :
    Waits (decodeFrame check body) (frame first content) := by
  intro part starts strict
  apply decodeFrame_of_error
  rcases beginning_cases starts strict with rfl | ⟨rest, more, rfl, whole, left⟩
  · rfl
  · rw [decodeFixedHeader_cons, accepted]
    rcases parse_beginning small whole left with short | ⟨after, read, few⟩
    · rw [short]
    · rw [read]
      exact if_pos (by rwa [VariableByteInteger.toNat_ofNat small])

theorem Measured.frame {buf : List UInt8} {n : Nat} (measured : Measured buf n) :
    ∃ first content tail, content.length ≤ VariableByteInteger.max ∧ buf = MqttRs.frame first content ++ tail ∧
      n = (MqttRs.frame first content).length := by
  obtain ⟨inside, remainingLen, vbiLen, decoded, rfl⟩ := measured
  cases buf with
  | nil => cases decoded
  | cons first rest =>
    rw [List.drop_one, List.tail_cons, VariableByteInteger.decode_eq] at decoded
    cases parsed : VariableByteInteger.parse rest with
    | error reason =>
      rw [parsed] at decoded
      cases decoded
    | ok read =>
      obtain ⟨given, after⟩ := read
      rw [parsed] at decoded
      obtain ⟨small, rfl⟩ := VariableByteInteger.parse_eq_ok.mp parsed
      cases decoded
      rw [List.length_append, Nat.add_sub_cancel, List.length_cons, List.length_append] at inside
      have length : (after.take remainingLen.value.toNat).length = remainingLen.value.toNat :=
        List.length_take_of_le (by omega)
      refine ⟨first, after.take remainingLen.value.toNat, after.drop remainingLen.value.toNat, ?_, ?_, ?_⟩
      · rw [length]
        exact small
      · rw [MqttRs.frame, length, List.cons_append, List.append_assoc, List.take_append_drop]
      · rw [MqttRs.frame, length, List.length_append, Nat.add_sub_cancel, List.length_cons, List.length_append, length]
        omega

theorem settles_of_frames {decode : List UInt8 → Outcome DecodeError (α × Nat)}
    (answers : ∀ first content, content.length ≤ VariableByteInteger.max →
      ∃ answer, answer ≠ .error .insufficientData ∧ ∀ tail, decode (frame first content ++ tail) = answer) :
    Settles decode := by
  intro buf n measured
  obtain ⟨first, content, tail, small, rfl, rfl⟩ := measured.frame
  obtain ⟨answer, other, same⟩ := answers first content small
  have alone := same []
  rw [List.append_nil] at alone
  rw [List.take_left, alone, same tail]
  exact ⟨other, rfl⟩

theorem decodeFrame_settles (checks : ∀ first, check first ≠ .error .insufficientData)
    (reads : ∀ key n bytes, ¬(body key n).Refuses bytes .insufficientData) : Settles (decodeFrame check body) := by
  apply settles_of_frames
  intro first content small
  cases accepted : check first with
  | error reason =>
    refine ⟨.error reason, ?_, ?_⟩
    · exact fun same => checks first (accepted.trans (congrArg _ (Outcome.error.inj same)))
    · intro tail
      apply decodeFrame_of_error
      rw [frame, List.cons_append, decodeFixedHeader_cons, accepted]
  | ok key =>
    refine ⟨_, ?_, decodeFrame_frame accepted body small⟩
    cases parsed : (body key content.length).parse content with
    | error reason =>
      exact fun same => reads key _ content (parsed.trans (congrArg _ (Outcome.error.inj same)))
    | ok read =>
      intro wrong
      cases wrong

theorem expectHeader_ne {packetType flags : UInt8} (first : UInt8) :
    expectHeader packetType flags first ≠ .error .insufficientData := by
  rw [expectHeader]
  split_ifs <;> simp

theorem publishHeader_ne (first : UInt8) : publishHeader first ≠ .error .insufficientData := by
  rw [publishHeader]
  split
  · intro wrong
    cases wrong
  · dsimp only
    split
    · intro wrong
      cases wrong
    · split <;> simp

end Header

section Tags

variable {decode : List UInt8 → Outcome DecodeError (α × Nat)} {whole : List UInt8} {tag : α → β}

theorem tagged_eq_error {outcome : Outcome DecodeError (α × Nat)} {reason : DecodeError} :
    outcome.tagged tag = .error reason ↔ outcome = .error reason := by
  cases outcome <;> simp [Outcome.tagged]

theorem Waits.tagged (waits : Waits decode whole) : Waits (fun buf => (decode buf).tagged tag) whole :=
  fun part starts strict => tagged_eq_error.mpr (waits part starts strict)

theorem Settles.tagged (settles : Settles decode) : Settles (fun buf => (decode buf).tagged tag) := by
  intro buf n measured
  obtain ⟨other, same⟩ := settles buf n measured
  refine ⟨fun wrong => other (tagged_eq_error.mp wrong), ?_⟩
  show (decode (buf.take n)).tagged tag = _
  rw [same]

theorem dispatch_waits {byType : UInt8 → List UInt8 → Outcome DecodeError (β × Nat)} {packetType : UInt8}
    (chosen : ∀ buf, byType packetType buf = (decode buf).tagged tag) (ofType : OfType packetType whole)
    (waits : Waits decode whole) : Waits (dispatch byType) whole := by
  intro part starts strict
  obtain ⟨first, rest, rfl, high⟩ := ofType
  cases part with
  | nil => rfl
  | cons byte front =>
    obtain ⟨more, same⟩ := starts
    obtain ⟨rfl, -⟩ := List.cons.inj same
    rw [dispatch_of_type ⟨byte, front, rfl, high⟩, chosen]
    exact tagged_eq_error.mpr (waits _ ⟨more, same⟩ strict)

theorem dispatch_settles {byType : UInt8 → List UInt8 → Outcome DecodeError (α × Nat)}
    (settles : ∀ packetType, Settles (byType packetType)) : Settles (dispatch byType) := by
  intro buf n measured
  have given := measured
  obtain ⟨first, content, tail, -, rfl, rfl⟩ := measured.frame
  obtain ⟨other, same⟩ := settles (first &&& 0xF0) _ _ given
  have whole : OfType (first &&& 0xF0) (frame first content ++ tail) := ⟨first, _, rfl, rfl⟩
  have alone : OfType (first &&& 0xF0) ((frame first content ++ tail).take (frame first content).length) := by
    rw [List.take_left]
    exact ⟨first, _, rfl, rfl⟩
  rw [dispatch_of_type whole, dispatch_of_type alone]
  exact ⟨other, same⟩

end Tags

section Fields

variable {γ : Type} [ByteCode γ] {bytes : List UInt8}

@[simp] theorem refuses_malformedIf {condition : Bool} : ¬(malformedIf condition).Refuses bytes .insufficientData := by
  simp [malformedIf]

@[simp] theorem refuses_readByte : ¬readByte.Refuses bytes .insufficientData := by
  simp [readByte]

@[simp] theorem refuses_readU16 : ¬readU16.Refuses bytes .insufficientData := by
  simp [readU16]

@[simp] theorem refuses_readString : ¬readString.Refuses bytes .insufficientData := by
  simp [readString, malformedIfInsufficient_ne]

@[simp] theorem refuses_readBinary : ¬readBinary.Refuses bytes .insufficientData := by
  simp [readBinary, malformedIfInsufficient_ne]

@[simp] theorem refuses_readCode : ¬(readCode : ByteReader DecodeError γ).Refuses bytes .insufficientData := by
  simp [readCode]

@[simp] theorem refuses_readPacketId : ¬readPacketId.Refuses bytes .insufficientData := by
  simp [readPacketId]

@[simp] theorem refuses_endOfPacket : ¬endOfPacket.Refuses bytes .insufficientData := by
  simp [endOfPacket]

@[simp] theorem refuses_readIf {present : Bool} {field : ByteReader DecodeError α}
    (fields : ∀ part, ¬field.Refuses part .insufficientData) : ¬(readIf present field).Refuses bytes .insufficientData := by
  cases present with
  | false => simp [readIf]
  | true => simpa [readIf] using fields bytes

end Fields

end MqttRs
