import MqttRs.Codec.Error
import MqttRs.Library.Reader
import MqttRs.Library.Writer

/-! Numbers of one, two and four bytes at the front of a slice. -/

namespace MqttRs

def encodeU8 (value : UInt8) (buf : List UInt8) : Outcome EncodeError (List UInt8 × Nat) :=
  if buf.isEmpty then .error .bufferTooSmall
  else do
    let buf ← Slice.set buf 0 value
    .ok (buf, 1)

/-- `encode_u16` and `encode_u32`, which differ in the width alone. -/
def encodeWord (word buf : List UInt8) : Outcome EncodeError (List UInt8 × Nat) :=
  if buf.length < word.length then .error .bufferTooSmall
  else do
    let buf ← Slice.copyFrom buf 0 word
    .ok (buf, word.length)

def encodeU16 (value : UInt16) (buf : List UInt8) : Outcome EncodeError (List UInt8 × Nat) :=
  encodeWord value.toBeBytes buf

def encodeU32 (value : UInt32) (buf : List UInt8) : Outcome EncodeError (List UInt8 × Nat) :=
  encodeWord value.toBeBytes buf

def decodeU8 (buf : List UInt8) : Outcome DecodeError (UInt8 × Nat) :=
  if buf.isEmpty then .error .insufficientData
  else do
    let value ← Slice.index buf 0
    .ok (value, 1)

def decodeU16 (buf : List UInt8) : Outcome DecodeError (UInt16 × Nat) :=
  if buf.length < 2 then .error .insufficientData
  else do
    let high ← Slice.index buf 0
    let low ← Slice.index buf 1
    .ok (UInt16.fromBeBytes high low, 2)

def decodeU32 (buf : List UInt8) : Outcome DecodeError (UInt32 × Nat) :=
  if buf.length < 4 then .error .insufficientData
  else do
    let a ← Slice.index buf 0
    let b ← Slice.index buf 1
    let c ← Slice.index buf 2
    let d ← Slice.index buf 3
    .ok (UInt32.fromBeBytes a b c d, 4)

def wordEncoder (word : List UInt8) : SliceEncoder EncodeError where
  run := encodeWord word
  bytes := .ok word
  size := word.length
  length_bytes written := by
    cases written
    rfl
  refines {buf} room bound := by
    have start : 0 + word.length ≤ buf.length := by
      rw [Nat.zero_add]
      exact room
    rw [encodeWord, if_neg (Nat.not_lt_of_le room), Slice.copyFrom_of_le start]
    simp only [Outcome.ok_bind, Outcome.written, Nat.zero_add]

def u8Encoder (value : UInt8) : SliceEncoder EncodeError where
  run := encodeU8 value
  bytes := .ok [value]
  size := 1
  length_bytes written := by
    cases written
    rfl
  refines {buf} room bound := by
    cases buf with
    | nil => cases room
    | cons first rest =>
      rw [encodeU8, Slice.set_of_lt (Nat.zero_lt_succ _)]
      rfl

def u16Encoder (value : UInt16) : SliceEncoder EncodeError :=
  { wordEncoder value.toBeBytes with run := encodeU16 value }

def u32Encoder (value : UInt32) : SliceEncoder EncodeError :=
  { wordEncoder value.toBeBytes with run := encodeU32 value }

def u8Decoder : SliceDecoder DecodeError UInt8 where
  run := decodeU8
  parse
    | [] => .error .insufficientData
    | value :: rest => .ok (value, rest)
  suffix {bytes value rest} read := by
    cases bytes with
    | nil => cases read
    | cons first tail =>
      cases read
      exact List.suffix_cons _ _
  refines {bytes} _ := by
    cases bytes with
    | nil => rfl
    | cons first tail =>
      rw [decodeU8, Slice.index_zero_cons, Outcome.upTo, List.length_cons, Nat.add_sub_cancel_left]
      rfl

def u16Decoder : SliceDecoder DecodeError UInt16 where
  run := decodeU16
  parse
    | high :: low :: rest => .ok (UInt16.fromBeBytes high low, rest)
    | _ => .error .insufficientData
  suffix {bytes value rest} read := by
    split at read
    · cases read
      exact ⟨[_, _], rfl⟩
    · cases read
  refines {bytes} _ := by
    match bytes with
    | [] => rfl
    | [_] => rfl
    | high :: low :: rest =>
      have length : (high :: low :: rest).length = 2 + rest.length := Nat.add_comm rest.length 2
      rw [decodeU16, Outcome.upTo, length, if_neg (Nat.not_lt_of_le (Nat.le_add_right 2 _)), Nat.add_sub_cancel]
      rfl

def u32Decoder : SliceDecoder DecodeError UInt32 where
  run := decodeU32
  parse
    | a :: b :: c :: d :: rest => .ok (UInt32.fromBeBytes a b c d, rest)
    | _ => .error .insufficientData
  suffix {bytes value rest} read := by
    split at read
    · cases read
      exact ⟨[_, _, _, _], rfl⟩
    · cases read
  refines {bytes} _ := by
    match bytes with
    | [] => rfl
    | [_] => rfl
    | [_, _] => rfl
    | [_, _, _] => rfl
    | a :: b :: c :: d :: rest =>
      have length : (a :: b :: c :: d :: rest).length = 4 + rest.length := Nat.add_comm rest.length 4
      rw [decodeU32, Outcome.upTo, length, if_neg (Nat.not_lt_of_le (Nat.le_add_right 4 _)), Nat.add_sub_cancel]
      rfl

variable {bytes rest written : List UInt8}

@[simp] theorem writes_u8Encoder {value : UInt8} : (u8Encoder value).Writes written ↔ written = [value] := by
  rw [SliceEncoder.Writes, u8Encoder, Except.ok.injEq, eq_comm]

@[simp] theorem writes_u16Encoder {value : UInt16} :
    (u16Encoder value).Writes written ↔ written = value.toBeBytes := by
  show Except.ok value.toBeBytes = Except.ok written ↔ _
  rw [Except.ok.injEq, eq_comm]

@[simp] theorem writes_u32Encoder {value : UInt32} :
    (u32Encoder value).Writes written ↔ written = value.toBeBytes := by
  show Except.ok value.toBeBytes = Except.ok written ↔ _
  rw [Except.ok.injEq, eq_comm]

@[simp] theorem size_u8Encoder (value : UInt8) : (u8Encoder value).size = 1 := rfl

@[simp] theorem size_u16Encoder (value : UInt16) : (u16Encoder value).size = 2 := rfl

@[simp] theorem size_u32Encoder (value : UInt32) : (u32Encoder value).size = 4 := rfl

@[simp] theorem reads_u8Decoder {value : UInt8} : u8Decoder.Reads bytes value rest ↔ bytes = value :: rest :=
  @ByteReader.reads_byte DecodeError bytes rest .insufficientData value

@[simp] theorem reads_u16Decoder {value : UInt16} :
    u16Decoder.Reads bytes value rest ↔ bytes = value.toBeBytes ++ rest :=
  @ByteReader.reads_u16 DecodeError bytes rest .insufficientData value

@[simp] theorem reads_u32Decoder {value : UInt32} :
    u32Decoder.Reads bytes value rest ↔ bytes = value.toBeBytes ++ rest := by
  match bytes with
  | [] => exact ⟨(nomatch ·), (nomatch ·)⟩
  | [_] => exact ⟨(nomatch ·), (nomatch ·)⟩
  | [_, _] => exact ⟨(nomatch ·), (nomatch ·)⟩
  | [_, _, _] => exact ⟨(nomatch ·), (nomatch ·)⟩
  | a :: b :: c :: d :: tail =>
    show Except.ok (UInt32.fromBeBytes a b c d, tail) = Except.ok (value, rest) ↔ [a, b, c, d] ++ tail = _
    rw [Except.ok.injEq, Prod.mk.injEq, UInt32.fromBeBytes_eq_iff]
    constructor
    · intro both
      rw [both.1, both.2]
    · intro same
      exact List.append_inj same rfl

end MqttRs
