import MqttRs.V311.Packet
import MqttRs.V5.Packet

/-! What the decoders do with the bytes of a hostile peer. -/

namespace MqttRs

namespace V5.Properties

/-- `n` is what the Property Length field and the properties it announces take up. -/
def MeasuredBlock (buf : List UInt8) (n : Nat) : Prop :=
  n ≤ buf.length ∧ ∃ propertiesLen vbiLen, VariableByteInteger.decode buf = .ok (propertiesLen, vbiLen) ∧
    n = vbiLen + propertiesLen.value.toNat

def TurnsForward (buf : List UInt8) : Prop :=
  ∀ propertiesLen vbiLen, VariableByteInteger.decode buf = .ok (propertiesLen, vbiLen) →
    vbiLen + propertiesLen.value.toNat ≤ buf.length →
    ∀ offset property next, offset < vbiLen + propertiesLen.value.toNat →
      readProperty.run buf (vbiLen + propertiesLen.value.toNat) offset = .ok (property, next) →
      offset < next ∧ next ≤ vbiLen + propertiesLen.value.toNat

structure DecodesSafely (buf : List UInt8) : Prop where
  returns : (decode buf).Returns
  measured : ∀ {properties n}, decode buf = .ok (properties, n) → MeasuredBlock buf n
  turns : TurnsForward buf

variable {buf : List UInt8} {propertiesLen : VariableByteInteger} {vbiLen : Nat}

theorem announced_lt (decoded : VariableByteInteger.decode buf = .ok (propertiesLen, vbiLen)) :
    vbiLen + propertiesLen.value.toNat < 2 ^ 32 := by
  rw [VariableByteInteger.decode_eq] at decoded
  cases read : VariableByteInteger.parse buf with
  | error reason =>
    rw [read] at decoded
    cases decoded
  | ok result =>
    obtain ⟨given, rest⟩ := result
    rw [read] at decoded
    obtain ⟨small, rfl⟩ := VariableByteInteger.parse_eq_ok.mp read
    have vbiBound := VariableByteInteger.length_bytes_le given.value.toNat
    rw [VariableByteInteger.max] at small
    cases decoded
    rw [List.length_append, Nat.add_sub_cancel]
    omega

theorem turnsForward (buf : List UInt8) : TurnsForward buf := by
  intro propertiesLen vbiLen decoded inside offset property next below turned
  have window : ((buf.take (vbiLen + propertiesLen.value.toNat)).drop offset).length =
      vbiLen + propertiesLen.value.toNat - offset := ByteReader.length_window inside
  rw [readProperty.refines (Nat.le_of_lt below) inside (announced_lt decoded)] at turned
  cases read : readProperty.parse ((buf.take (vbiLen + propertiesLen.value.toNat)).drop offset) with
  | error reason =>
    rw [read] at turned
    cases turned
  | ok result =>
    obtain ⟨given, rest⟩ := result
    have shorter := readProperty_consumes _ _ _ read
    rw [read] at turned
    cases turned
    omega

theorem decode_returns (buf : List UInt8) : (decode buf).Returns := by
  rw [decode, decodeWithOptions_eq]
  cases parseWithOptions false buf <;> exact True.intro

theorem decode_measured {properties : Properties} {n : Nat} (decoded : decode buf = .ok (properties, n)) :
    MeasuredBlock buf n := by
  rw [decode, decodeWithOptions_eq] at decoded
  cases parsed : parseWithOptions false buf with
  | error reason =>
    rw [parsed] at decoded
    cases decoded
  | ok result =>
    obtain ⟨given, rest⟩ := result
    rw [parsed] at decoded
    cases decoded
    obtain ⟨_, front, writes, rfl⟩ := parseWithOptions_eq_ok.mp parsed
    obtain ⟨content, _, small, rfl⟩ := writes_encoder.mp writes
    refine ⟨Nat.sub_le _ _, ⟨UInt32.ofNat content.length⟩, (VariableByteInteger.bytes content.length).length, ?_, ?_⟩
    · rw [List.append_assoc, VariableByteInteger.decode_eq, VariableByteInteger.parse_bytes small, Outcome.upTo,
        List.length_append, Nat.add_sub_cancel]
    · rw [VariableByteInteger.toNat_ofNat small, List.length_append, Nat.add_sub_cancel, List.length_append]

theorem decodesSafely (buf : List UInt8) : DecodesSafely buf where
  returns := decode_returns buf
  measured := decode_measured
  turns := turnsForward buf

end V5.Properties

/-- Every decoder comes back from every slice, with as many bytes as the slice announces if it comes back with a value. -/
theorem decoders_safe (buf : List UInt8) :
    Measures buf (V5.Packet.decode buf) ∧ Measures buf (V5.IncomingPacket.decode buf) ∧
      Measures buf (V311.Packet.decode buf) ∧ Measures buf (V311.IncomingPacket.decode buf) ∧
      V5.Properties.DecodesSafely buf := by
  refine ⟨V5.Packet.decode_measures buf, V5.IncomingPacket.decode_measures buf, V311.Packet.decode_measures buf,
    V311.IncomingPacket.decode_measures buf, ?_⟩
  exact V5.Properties.decodesSafely buf

end MqttRs
