import MqttRs.Codec.Error
import MqttRs.Library.Reader
import MqttRs.Library.Writer

/-! Byte strings behind a length of two bytes: UTF-8 strings and binary data. -/

namespace MqttRs

/-- `text.as_bytes()` -/
def asBytes (text : String) : List UInt8 := text.toByteArray.data.toList

/-- `String::from_utf8` and `core::str::from_utf8` -/
def fromUtf8 (bytes : List UInt8) : Option String := String.fromUTF8? ⟨bytes.toArray⟩

theorem fromUtf8_eq_some {bytes : List UInt8} {text : String} : fromUtf8 bytes = some text ↔ bytes = asBytes text := by
  rw [fromUtf8, String.fromUTF8?, asBytes]
  constructor
  · intro decoded
    split at decoded
    · cases decoded
      rfl
    · cases decoded
  · intro same
    have array : (⟨bytes.toArray⟩ : ByteArray) = text.toByteArray := by
      rw [same, Array.toArray_toList]
    rw [array, dif_pos text.isValidUTF8]
    rfl

def containsNull (text : String) : Bool := text.toList.contains (Char.ofNat 0)

def prefixed (content : List UInt8) : List UInt8 := (UInt16.ofNat content.length).toBeBytes ++ content

theorem length_prefixed (content : List UInt8) : (prefixed content).length = 2 + content.length := by
  rw [prefixed, List.length_append, UInt16.length_toBeBytes]

def decodePrefixed {α : Type} (convert : List UInt8 → Except DecodeError α) (buf : List UInt8) :
    Outcome DecodeError (α × Nat) :=
  if buf.length < 2 then .error .insufficientData
  else do
    let high ← Slice.index buf 0
    let low ← Slice.index buf 1
    let len := (UInt16.fromBeBytes high low).toNat
    let stop ← Usize.add 2 len
    if buf.length < stop then .error .insufficientData
    else do
      let content ← Slice.range buf 2 stop
      let value ← .ofExcept (convert content)
      .ok (value, stop)

def parsePrefixed {α : Type} (convert : List UInt8 → Except DecodeError α) :
    List UInt8 → Except DecodeError (α × List UInt8)
  | high :: low :: rest =>
    let len := (UInt16.fromBeBytes high low).toNat
    if rest.length < len then .error .insufficientData
    else (convert (rest.take len)).map fun value => (value, rest.drop len)
  | _ => .error .insufficientData

theorem decodePrefixed_eq {α : Type} (convert : List UInt8 → Except DecodeError α) (buf : List UInt8) :
    decodePrefixed convert buf = .upTo buf.length (parsePrefixed convert buf) := by
  match buf with
  | [] => rfl
  | [_] => rfl
  | high :: low :: rest =>
    have lenBound := (UInt16.fromBeBytes high low).toNat_lt
    have fits : 2 + (UInt16.fromBeBytes high low).toNat ≤ Usize.max := by
      rw [Usize.max]
      omega
    have length : (high :: low :: rest).length = rest.length + 2 := rfl
    rw [decodePrefixed, parsePrefixed, if_neg (by omega)]
    show (do
      let stop ← Usize.add 2 (UInt16.fromBeBytes high low).toNat
      _) = _
    rw [Usize.add_of_le fits, Outcome.ok_bind]
    by_cases short : rest.length < (UInt16.fromBeBytes high low).toNat
    · rw [if_pos (by omega)]
      simp only [if_pos short]
      rfl
    · have content : ((high :: low :: rest).take (2 + (UInt16.fromBeBytes high low).toNat)).drop 2 =
          rest.take (UInt16.fromBeBytes high low).toNat := by
        rw [Nat.add_comm]
        rfl
      rw [if_neg (by omega), Slice.range_of_le (by omega) (by omega), content]
      simp only [if_neg short, Outcome.ok_bind]
      cases convert (rest.take (UInt16.fromBeBytes high low).toNat) with
      | error reason => rfl
      | ok value =>
        have consumed : 2 + (UInt16.fromBeBytes high low).toNat =
            rest.length + 2 - (rest.drop (UInt16.fromBeBytes high low).toNat).length := by
          rw [List.length_drop]
          omega
        simp only [Outcome.ofExcept, Outcome.ok_bind, Except.map, Outcome.upTo, length, ← consumed]

theorem parsePrefixed_eq_ok {α : Type} {convert : List UInt8 → Except DecodeError α} {buf rest : List UInt8}
    {value : α} :
    parsePrefixed convert buf = .ok (value, rest) ↔
      ∃ content, content.length ≤ 65535 ∧ convert content = .ok value ∧ buf = prefixed content ++ rest := by
  constructor
  · intro read
    rw [parsePrefixed.eq_def] at read
    split at read
    · rename_i high low tail
      have lenBound := (UInt16.fromBeBytes high low).toNat_lt
      simp only at read
      split at read
      · cases read
      · rename_i enough
        cases converted : convert (tail.take (UInt16.fromBeBytes high low).toNat) with
        | error reason =>
          rw [converted] at read
          cases read
        | ok given =>
          rw [converted] at read
          cases read
          have taken : (tail.take (UInt16.fromBeBytes high low).toNat).length = (UInt16.fromBeBytes high low).toNat :=
            List.length_take_of_le (by omega)
          refine ⟨_, by omega, converted, ?_⟩
          rw [prefixed, taken, UInt16.ofNat_toNat, UInt16.toBeBytes_fromBeBytes, List.append_assoc,
            List.take_append_drop]
          rfl
    · cases read
  · intro exists_content
    obtain ⟨content, bound, converted, rfl⟩ := exists_content
    have word := UInt16.fromBeBytes_toBeBytes (UInt16.ofNat content.length)
    have len : (UInt16.ofNat content.length).toNat = content.length :=
      UInt16.toNat_ofNat_of_lt (show _ < 65536 by omega)
    show parsePrefixed convert (_ :: _ :: (content ++ rest)) = _
    rw [parsePrefixed, word, len]
    simp only [List.length_append, if_neg (show ¬content.length + rest.length < content.length by omega),
      List.take_left, List.drop_left, converted, Except.map]

def prefixedDecoder {α : Type} (convert : List UInt8 → Except DecodeError α) : SliceDecoder DecodeError α where
  run := decodePrefixed convert
  parse := parsePrefixed convert
  suffix read := by
    obtain ⟨content, _, _, rfl⟩ := parsePrefixed_eq_ok.mp read
    exact List.suffix_append _ _
  refines _ := decodePrefixed_eq convert _

def encodePrefixed (value buf : List UInt8) : Outcome EncodeError (List UInt8 × Nat) :=
  if 65535 < value.length then .error (.packetTooLarge value.length 65535)
  else do
    let needed ← Usize.add 2 value.length
    if buf.length < needed then .error .bufferTooSmall
    else do
      let buf ← Slice.copyFrom buf 0 (UInt16.ofNat value.length).toBeBytes
      let buf ← Slice.copyFrom buf 2 value
      .ok (buf, needed)

theorem encodePrefixed_eq_written {value buf : List UInt8} (room : 2 + value.length ≤ buf.length)
    (bound : 2 + value.length < 2 ^ 32) :
    encodePrefixed value buf = Outcome.written buf 0
      (if 65535 < value.length then .error (.packetTooLarge value.length 65535) else .ok (prefixed value)) := by
  rw [encodePrefixed]
  split
  · rfl
  · have length := UInt16.length_toBeBytes (UInt16.ofNat value.length)
    have start : ((UInt16.ofNat value.length).toBeBytes ++ buf.drop 2).length = buf.length := by
      rw [List.length_append, length, List.length_drop]
      omega
    rw [Usize.add_of_le (Usize.fits bound), Outcome.ok_bind, if_neg (by omega), Slice.copyFrom_of_le (by omega), length]
    show (do
      let buf ← Slice.copyFrom ((UInt16.ofNat value.length).toBeBytes ++ buf.drop 2) 2 value
      _) = _
    rw [Slice.copyFrom_of_le (by omega), List.take_left' length, ← List.drop_drop, List.drop_left' length,
      List.drop_drop]
    simp only [Outcome.ok_bind, Outcome.written, prefixed, Nat.zero_add, List.take_zero, List.nil_append,
      List.length_append, length]

def prefixedEncoder (value : List UInt8) : SliceEncoder EncodeError where
  run := encodePrefixed value
  bytes := if 65535 < value.length then .error (.packetTooLarge value.length 65535) else .ok (prefixed value)
  size := 2 + value.length
  length_bytes written := by
    split at written
    · cases written
    · cases written
      exact length_prefixed value
  refines := encodePrefixed_eq_written

namespace Utf8String

def fromBytes (bytes : List UInt8) : Except DecodeError String :=
  match fromUtf8 bytes with
  | none => .error .invalidUtf8
  | some text => if containsNull text then .error .malformedPacket else .ok text

def encodeStr (value : String) (buf : List UInt8) : Outcome EncodeError (List UInt8 × Nat) :=
  if containsNull value then .error (.invalidField .nullInUtf8String) else encodePrefixed (asBytes value) buf

/-- The strings that both directions accept. -/
def Encodable (text : String) : Prop := containsNull text = false ∧ (asBytes text).length ≤ 65535

def bytes (text : String) : List UInt8 := prefixed (asBytes text)

theorem fromBytes_eq_ok {content : List UInt8} {text : String} :
    fromBytes content = .ok text ↔ containsNull text = false ∧ content = asBytes text := by
  rw [← fromUtf8_eq_some, fromBytes]
  cases fromUtf8 content with
  | none => simp
  | some given =>
    by_cases null : containsNull given
    · simp only [if_pos null, reduceCtorEq, Option.some.injEq, false_iff, not_and]
      intro noNull same
      rw [same, noNull] at null
      cases null
    · simp only [if_neg null, Except.ok.injEq, Option.some.injEq, iff_and_self]
      intro same
      rwa [← same, ← Bool.not_eq_true]

def decoder : SliceDecoder DecodeError String := prefixedDecoder fromBytes

@[simp] theorem reads_decoder {buf rest : List UInt8} {text : String} :
    decoder.Reads buf text rest ↔ Encodable text ∧ buf = bytes text ++ rest := by
  show parsePrefixed fromBytes buf = _ ↔ _
  rw [parsePrefixed_eq_ok, Encodable, bytes]
  constructor
  · intro read
    obtain ⟨content, bound, converted, same⟩ := read
    obtain ⟨noNull, rfl⟩ := fromBytes_eq_ok.mp converted
    exact ⟨⟨noNull, bound⟩, same⟩
  · intro encoded
    obtain ⟨⟨noNull, bound⟩, same⟩ := encoded
    exact ⟨asBytes text, bound, fromBytes_eq_ok.mpr ⟨noNull, rfl⟩, same⟩

def encoder (value : String) : SliceEncoder EncodeError where
  run := encodeStr value
  bytes :=
    if containsNull value then .error (.invalidField .nullInUtf8String) else (prefixedEncoder (asBytes value)).bytes
  size := 2 + (asBytes value).length
  length_bytes written := by
    split at written
    · cases written
    · exact (prefixedEncoder (asBytes value)).length_bytes written
  refines room bound := by
    rw [encodeStr]
    split
    · rfl
    · exact (prefixedEncoder (asBytes value)).refines room bound

@[simp] theorem size_encoder (value : String) : (encoder value).size = 2 + (asBytes value).length := rfl

@[simp] theorem writes_encoder {text : String} {written : List UInt8} :
    (encoder text).Writes written ↔ Encodable text ∧ written = bytes text := by
  rw [SliceEncoder.Writes, encoder, Encodable]
  show (if _ then _ else if _ then _ else _) = _ ↔ _
  split
  · simp [*]
  · split
    · rename_i long
      simp [Nat.not_le_of_lt long]
    · rename_i noNull short
      simp [noNull, Nat.le_of_not_lt short, bytes, eq_comm]

end Utf8String

namespace BinaryData

def Encodable (data : List UInt8) : Prop := data.length ≤ 65535

def decoder : SliceDecoder DecodeError (List UInt8) := prefixedDecoder .ok

@[simp] theorem reads_decoder {buf rest data : List UInt8} :
    decoder.Reads buf data rest ↔ Encodable data ∧ buf = prefixed data ++ rest := by
  show parsePrefixed _ buf = _ ↔ _
  rw [parsePrefixed_eq_ok, Encodable]
  constructor
  · intro read
    obtain ⟨content, bound, converted, same⟩ := read
    cases converted
    exact ⟨bound, same⟩
  · intro encoded
    obtain ⟨bound, same⟩ := encoded
    exact ⟨data, bound, rfl, same⟩

def encoder (value : List UInt8) : SliceEncoder EncodeError := prefixedEncoder value

@[simp] theorem size_encoder (value : List UInt8) : (encoder value).size = 2 + value.length := rfl

@[simp] theorem writes_encoder {data written : List UInt8} :
    (encoder data).Writes written ↔ Encodable data ∧ written = prefixed data := by
  rw [SliceEncoder.Writes, encoder, Encodable]
  show (if _ then _ else _) = _ ↔ _
  split
  · rename_i long
    simp [Nat.not_le_of_lt long]
  · rename_i short
    simp [Nat.le_of_not_lt short, eq_comm]

end BinaryData

end MqttRs
