import MqttRs.Codec.Layout
import MqttRs.Codec.LengthPrefixed
import MqttRs.Library.ByteCode
import MqttRs.Library.Exact

/-! The fields of a packet body, where running out of bytes means a malformed packet. -/

namespace MqttRs

variable {γ : Type} [ByteCode γ]

def malformedIf (condition : Bool) : ByteReader DecodeError Unit := .failIf condition .malformedPacket

def readByte : ByteReader DecodeError UInt8 := .byte .malformedPacket

def readU16 : ByteReader DecodeError UInt16 := .u16 .malformedPacket

def readString : ByteReader DecodeError String := .slice (Utf8String.decoder.mapError malformedIfInsufficient)

def readBinary : ByteReader DecodeError (List UInt8) := .slice (BinaryData.decoder.mapError malformedIfInsufficient)

def readCode : ByteReader DecodeError γ := do
  let value ← readByte
  .okOr (ByteCode.fromU8 value) .malformedPacket

def readPacketId : ByteReader DecodeError UInt16 := do
  let packetId ← readU16
  malformedIf (packetId == 0)
  return packetId

def endOfPacket : ByteReader DecodeError Unit := .finish .malformedPacket

def writeString (text : String) : ByteWriter EncodeError := .slice (Utf8String.encoder text)

def writeBinary (data : List UInt8) : ByteWriter EncodeError := .slice (BinaryData.encoder data)

def writeU16 (value : UInt16) : ByteWriter EncodeError := .copy value.toBeBytes

def writeCode (code : γ) : ByteWriter EncodeError := .byte (ByteCode.asU8 code)

variable {bytes rest written data : List UInt8} {text : String}

@[simp] theorem reads_malformedIf {condition : Bool} {done : Unit} :
    (malformedIf condition).Reads bytes done rest ↔ condition = false ∧ bytes = rest := ByteReader.reads_failIf

@[simp] theorem reads_readByte {value : UInt8} : readByte.Reads bytes value rest ↔ bytes = value :: rest :=
  ByteReader.reads_byte

@[simp] theorem reads_readU16 {value : UInt16} : readU16.Reads bytes value rest ↔ bytes = value.toBeBytes ++ rest :=
  ByteReader.reads_u16

@[simp] theorem reads_readString :
    readString.Reads bytes text rest ↔ Utf8String.Encodable text ∧ bytes = Utf8String.bytes text ++ rest := by
  simp only [readString, ByteReader.reads_slice, SliceDecoder.reads_mapError, Utf8String.reads_decoder]

@[simp] theorem reads_readBinary :
    readBinary.Reads bytes data rest ↔ BinaryData.Encodable data ∧ bytes = prefixed data ++ rest := by
  simp only [readBinary, ByteReader.reads_slice, SliceDecoder.reads_mapError, BinaryData.reads_decoder]

@[simp] theorem reads_readCode {code : γ} : readCode.Reads bytes code rest ↔ bytes = ByteCode.asU8 code :: rest := by
  simp [readCode, ByteCode.fromU8_eq_some]

@[simp] theorem reads_readPacketId {packetId : UInt16} :
    readPacketId.Reads bytes packetId rest ↔ packetId ≠ 0 ∧ bytes = packetId.toBeBytes ++ rest := by
  simp [readPacketId, and_comm]

@[simp] theorem reads_endOfPacket {done : Unit} : endOfPacket.Reads bytes done rest ↔ bytes = [] ∧ rest = [] :=
  ByteReader.reads_finish

@[simp] theorem writes_writeString :
    (writeString text).Writes written ↔ Utf8String.Encodable text ∧ written = Utf8String.bytes text :=
  Utf8String.writes_encoder

@[simp] theorem writes_writeBinary :
    (writeBinary data).Writes written ↔ BinaryData.Encodable data ∧ written = prefixed data := BinaryData.writes_encoder

@[simp] theorem writes_writeU16 {value : UInt16} : (writeU16 value).Writes written ↔ written = value.toBeBytes :=
  ByteWriter.writes_copy

@[simp] theorem writes_writeCode {code : γ} : (writeCode code).Writes written ↔ written = [ByteCode.asU8 code] :=
  ByteWriter.writes_byte

@[simp] theorem size_writeString (text : String) : (writeString text).size = 2 + (asBytes text).length := rfl

@[simp] theorem size_writeBinary (data : List UInt8) : (writeBinary data).size = 2 + data.length := rfl

@[simp] theorem size_writeU16 (value : UInt16) : (writeU16 value).size = 2 := rfl

@[simp] theorem size_writeCode (code : γ) : (writeCode code).size = 1 := rfl

namespace Announces

variable {announced size : Nat}

theorem withString (first : Announces announced size) (text : String) :
    Announces (Usize.saturatingAdd (Usize.saturatingAdd announced 2) (asBytes text).length)
      (size + (writeString text).size) := by
  rw [Usize.saturatingAdd_assoc]
  exact first.plus _

theorem withBinary (first : Announces announced size) (data : List UInt8) :
    Announces (Usize.saturatingAdd (Usize.saturatingAdd announced 2) data.length) (size + (writeBinary data).size) := by
  rw [Usize.saturatingAdd_assoc]
  exact first.plus _

end Announces

theorem readString_inverts : readString.Inverts (fun _ => True) writeString := by
  intro bytes text rest
  simp only [reads_readString, writes_writeString, true_and]
  constructor
  · intro read
    exact ⟨_, ⟨read.1, rfl⟩, read.2⟩
  · intro written
    obtain ⟨front, ⟨encodable, rfl⟩, same⟩ := written
    exact ⟨encodable, same⟩

theorem readBinary_inverts : readBinary.Inverts (fun _ => True) writeBinary := by
  intro bytes data rest
  simp only [reads_readBinary, writes_writeBinary, true_and]
  constructor
  · intro read
    exact ⟨_, ⟨read.1, rfl⟩, read.2⟩
  · intro written
    obtain ⟨front, ⟨encodable, rfl⟩, same⟩ := written
    exact ⟨encodable, same⟩

theorem readPacketId_inverts : readPacketId.Inverts (· ≠ 0) writeU16 := by
  intro bytes packetId rest
  simp

/-- A field that is there when its flag is set. -/
def readIf {α : Type} (present : Bool) (field : ByteReader DecodeError α) : ByteReader DecodeError (Option α) :=
  if present then some <$> field else return none

theorem reads_readIf {α : Type} {present : Bool} {field : ByteReader DecodeError α} {accepts : α → Prop}
    {writer : α → ByteWriter EncodeError} (inverts : field.Inverts accepts writer) {option : Option α} :
    (readIf present field).Reads bytes option rest ↔
      option.isSome = present ∧ (∀ value ∈ option, accepts value) ∧
        ∃ front, (ByteWriter.ifSome writer option).Writes front ∧ bytes = front ++ rest := by
  cases present with
  | false =>
    cases option with
    | none => simp [readIf, ByteWriter.ifSome]
    | some value => simp [readIf]
  | true =>
    cases option with
    | none => simp [readIf]
    | some value => simp [readIf, ByteWriter.ifSome, inverts _ _ _]

theorem readCode_inverts : (readCode : ByteReader DecodeError γ).Inverts (fun _ => True) writeCode := by
  intro bytes code rest
  simp

theorem readCode_consumes : (readCode : ByteReader DecodeError γ).Consumes :=
  readCode_inverts.consumes fun _ => Nat.zero_lt_one

theorem size_each_writeCode (codes : List γ) :
    (ByteWriter.each writeCode codes : ByteWriter EncodeError).size = codes.length := by
  induction codes with
  | nil => rfl
  | cons code codes ih =>
    rw [ByteWriter.each, ByteWriter.size_append, size_writeCode, ih, List.length_cons, Nat.add_comm]

end MqttRs
