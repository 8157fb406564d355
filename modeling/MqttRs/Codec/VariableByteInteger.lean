import MqttRs.Codec.Error
import MqttRs.Library.Base128
import MqttRs.Library.ByteCode
import MqttRs.Library.Reader
import MqttRs.Library.Writer
import Mathlib.Tactic.Ring

namespace MqttRs

structure VariableByteInteger where
  value : UInt32
  deriving DecidableEq

namespace VariableByteInteger

def max : Nat := 268435455

theorem toNat_ofNat {value : Nat} (small : value ≤ max) : (UInt32.ofNat value).toNat = value := by
  rw [max] at small
  exact UInt32.toNat_ofNat_of_lt (show _ < 4294967296 by omega)

theorem few_le_max {n : Nat} (few : n ≤ 3) : n ≤ max := by
  rw [max]
  omega

def encodedLen (vbi : VariableByteInteger) : Nat :=
  if vbi.value.toNat ≤ 127 then 1
  else if vbi.value.toNat ≤ 16383 then 2
  else if vbi.value.toNat ≤ 2097151 then 3
  else 4

/-- The loop of `encode`, which turns once for each digit. -/
def encodeLoop : Nat → List UInt8 → Nat → Nat → Outcome EncodeError (List UInt8 × Nat)
  | 0, _, _, _ => .hang
  | turns + 1, buf, i, value =>
    if buf.length ≤ i then .error .bufferTooSmall
    else do
      let byte := UInt8.ofNat (value % 128)
      let value := value / 128
      let byte := if 0 < value then byte ||| 0x80 else byte
      let buf ← Slice.set buf i byte
      let i ← Usize.add i 1
      if value = 0 then .ok (buf, i) else encodeLoop turns buf i value

def encode (vbi : VariableByteInteger) (buf : List UInt8) : Outcome EncodeError (List UInt8 × Nat) :=
  if max < vbi.value.toNat then .error (.packetTooLarge vbi.value.toNat max)
  else encodeLoop 5 buf 0 vbi.value.toNat

/-- The loop of `decode`, which turns at most five times. -/
def decodeLoop : Nat → List UInt8 → Nat → Nat → Nat → Outcome DecodeError (Nat × Nat)
  | 0, _, _, _, _ => .hang
  | turns + 1, buf, i, value, multiplier =>
    if 4 ≤ i then .error .malformedPacket
    else if buf.length ≤ i then .error .insufficientData
    else do
      let byte ← Slice.index buf i
      let term ← U32.mul (byte &&& 0x7F).toNat multiplier
      let value ← .okOr (U32.checkedAdd value term) .malformedPacket
      let i ← Usize.add i 1
      if byte &&& 0x80 = 0 then .ok (value, i)
      else do
        let multiplier ← .okOr (U32.checkedMul multiplier 128) .malformedPacket
        decodeLoop turns buf i value multiplier

def decode (buf : List UInt8) : Outcome DecodeError (VariableByteInteger × Nat) := do
  let (value, i) ← decodeLoop 5 buf 0 0 1
  if max < value then .error .malformedPacket
  else if i ≠ encodedLen ⟨UInt32.ofNat value⟩ then .error .malformedPacket
  else .ok (⟨UInt32.ofNat value⟩, i)

/-- The bytes of a value up to `max`. -/
def bytes (value : Nat) : List UInt8 := Base128.digits 4 value

theorem bytes_of_lt {value : Nat} (small : value < 128) : bytes value = [UInt8.ofNat value] := if_pos small

theorem length_bytes_le (value : Nat) : (bytes value).length ≤ 4 := Base128.length_digits_le 4 value

theorem length_bytes {vbi : VariableByteInteger} (small : vbi.value.toNat ≤ max) :
    (bytes vbi.value.toNat).length = vbi.encodedLen := by
  rw [max] at small
  simp only [bytes, Base128.digits, encodedLen]
  split_ifs <;> first | rfl | omega

theorem and_seven_bits (byte : UInt8) : (byte &&& 0x7F).toNat = byte.toNat % 128 := by
  rw [UInt8.toNat_and]
  exact Nat.and_two_pow_sub_one_eq_mod byte.toNat 7

theorem and_top_bit (byte : UInt8) : byte &&& 0x80 = 0 ↔ byte.toNat < 128 := by
  revert byte
  exact UInt8.forall_of_ofNat (by decide +kernel)

theorem or_top_bit {digit : Nat} (small : digit < 128) : UInt8.ofNat digit ||| 0x80 = UInt8.ofNat (digit + 128) := by
  have allDigits : ∀ n < 128, UInt8.ofNat n ||| 0x80 = UInt8.ofNat (n + 128) := by decide +kernel
  exact allDigits digit small

theorem encodeLoop_last {turns value i : Nat} {buf : List UInt8} (small : value < 128) (inside : i < buf.length)
    (low : i < 2 ^ 32) : encodeLoop (turns + 1) buf i value = .written buf i (.ok [UInt8.ofNat value]) := by
  have fits : i + 1 ≤ Usize.max := by
    rw [Usize.max]
    omega
  have quotient : value / 128 = 0 := Nat.div_eq_of_lt small
  have remainder : value % 128 = value := Nat.mod_eq_of_lt small
  rw [encodeLoop, if_neg (Nat.not_le_of_lt inside), quotient, remainder]
  simp only [Slice.set_of_lt inside, Usize.add_of_le fits, Outcome.ok_bind, Nat.lt_irrefl, if_true, if_false]
  rfl

theorem encodeLoop_more {turns value i : Nat} {buf : List UInt8} (large : 128 ≤ value) (inside : i < buf.length)
    (low : i < 2 ^ 32) :
    encodeLoop (turns + 1) buf i value =
      encodeLoop turns (buf.take i ++ [UInt8.ofNat (value % 128 + 128)] ++ buf.drop (i + 1)) (i + 1) (value / 128) := by
  have fits : i + 1 ≤ Usize.max := by
    rw [Usize.max]
    omega
  have positive : 0 < value / 128 := Nat.div_pos large (by decide)
  rw [encodeLoop, if_neg (Nat.not_le_of_lt inside)]
  simp only [if_pos positive, or_top_bit (Nat.mod_lt value (show 0 < 128 by decide)), Slice.set_of_lt inside,
    Usize.add_of_le fits, Outcome.ok_bind, if_neg (Nat.ne_of_gt positive)]

theorem encodeLoop_eq {limit turns value i : Nat} {buf : List UInt8} (bound : value < 128 ^ (limit + 1))
    (enough : limit ≤ turns) (room : i + (Base128.digits (limit + 1) value).length ≤ buf.length)
    (low : i + limit < 2 ^ 32) :
    encodeLoop (turns + 1) buf i value = .written buf i (.ok (Base128.digits (limit + 1) value)) := by
  induction limit generalizing turns value i buf with
  | zero =>
    have small : value < 128 := by omega
    rw [Base128.digits, if_pos small] at room ⊢
    exact encodeLoop_last small room (by omega)
  | succ limit ih =>
    rw [Base128.digits] at room ⊢
    split at room
    · rename_i small
      rw [if_pos small]
      exact encodeLoop_last small room (by omega)
    · rename_i large
      obtain ⟨turns, rfl⟩ : ∃ fewer, turns = fewer + 1 := ⟨turns - 1, by omega⟩
      have high := Base128.quotient_lt bound
      rw [List.length_cons] at room
      have kept := Slice.length_replaced (UInt8.ofNat (value % 128 + 128)) (show i < buf.length by omega)
      rw [if_neg large, encodeLoop_more (Nat.le_of_not_lt large) (by omega) (by omega),
        ih high (by omega) (by omega) (by omega)]
      exact Outcome.written_append (by simp only [List.length_singleton]; omega)

/-- One turn: the digit goes in at the multiplier, which then moves up, and nothing overflows. -/
theorem decodeLoop_step {turns i value : Nat} {buf : List UInt8} (early : i < 4) (inside : i < buf.length)
    (small : value < 128 ^ i) :
    decodeLoop (turns + 1) buf i value (128 ^ i) =
      if buf[i].toNat < 128 then .ok (value + buf[i].toNat * 128 ^ i, i + 1)
      else decodeLoop turns buf (i + 1) (value + buf[i].toNat % 128 * 128 ^ i) (128 ^ (i + 1)) := by
  have powerBound : 128 ^ i ≤ 128 ^ 3 := Nat.pow_le_pow_right (by decide) (by omega)
  have digitBound := Nat.mod_lt buf[i].toNat (show 0 < 128 by decide)
  have termBound : buf[i].toNat % 128 * 128 ^ i ≤ 127 * 128 ^ i := Nat.mul_le_mul_right _ (by omega)
  have fits : i + 1 ≤ Usize.max := by
    rw [Usize.max]
    omega
  have term : (U32.mul (buf[i].toNat % 128) (128 ^ i) : Outcome DecodeError Nat) = .ok (buf[i].toNat % 128 * 128 ^ i) :=
    if_pos (by omega)
  have sum : U32.checkedAdd value (buf[i].toNat % 128 * 128 ^ i) = some (value + buf[i].toNat % 128 * 128 ^ i) :=
    if_pos (by omega)
  have product : U32.checkedMul (128 ^ i) 128 = some (128 ^ (i + 1)) := by
    rw [Nat.pow_succ]
    exact if_pos (by omega)
  rw [decodeLoop, if_neg (by omega), if_neg (by omega), Slice.index_of_lt inside]
  simp only [Outcome.ok_bind, and_seven_bits, term, sum, product, Outcome.okOr, Usize.add_of_le fits, and_top_bit]
  split
  · rename_i unmarked
    rw [Nat.mod_eq_of_lt unmarked]
  · rfl

theorem decodeLoop_eq {left value : Nat} {buf : List UInt8} (few : left ≤ 4) (small : value < 128 ^ (4 - left)) :
    decodeLoop (left + 1) buf (4 - left) value (128 ^ (4 - left)) =
      .upTo buf.length ((Base128.parse .insufficientData .malformedPacket left (buf.drop (4 - left))).map
        fun read => (value + 128 ^ (4 - left) * read.1, read.2)) := by
  induction left generalizing value with
  | zero => rfl
  | succ left ih =>
    have next : 4 - left = 4 - (left + 1) + 1 := by omega
    by_cases inside : 4 - (left + 1) < buf.length
    · have digitBound := Nat.mod_lt buf[4 - (left + 1)].toNat (show 0 < 128 by decide)
      rw [decodeLoop_step (by omega) inside small, List.drop_eq_getElem_cons inside, Base128.parse]
      split
      · show _ = Outcome.ok (_, buf.length - (buf.drop _).length)
        rw [List.length_drop, Nat.sub_sub_self inside, Nat.mul_comm]
      · have power : 128 ^ (4 - left) = 128 * 128 ^ (4 - (left + 1)) := by rw [next, Nat.pow_succ']
        have termBound : buf[4 - (left + 1)].toNat % 128 * 128 ^ (4 - (left + 1)) ≤ 127 * 128 ^ (4 - (left + 1)) :=
          Nat.mul_le_mul_right _ (by omega)
        rw [← next, ih (by omega) (by omega)]
        cases Base128.parse DecodeError.insufficientData .malformedPacket left (buf.drop (4 - left)) with
        | error reason => rfl
        | ok read =>
          have total : value + buf[4 - (left + 1)].toNat % 128 * 128 ^ (4 - (left + 1)) + 128 ^ (4 - left) * read.1 =
              value + 128 ^ (4 - (left + 1)) * (buf[4 - (left + 1)].toNat % 128 + 128 * read.1) := by
            rw [power]
            ring
          simp only [Except.map, Outcome.upTo, total]
    · rw [decodeLoop, if_neg (by omega), if_pos (by omega), List.drop_eq_nil_of_le (by omega)]
      rfl

def parse (buf : List UInt8) : Except DecodeError (VariableByteInteger × List UInt8) :=
  match Base128.parse .insufficientData .malformedPacket 4 buf with
  | .ok (value, rest) =>
    if buf.length = (bytes value).length + rest.length then .ok (⟨UInt32.ofNat value⟩, rest)
    else .error .malformedPacket
  | .error reason => .error reason

theorem decode_eq (buf : List UInt8) : decode buf = .upTo buf.length (parse buf) := by
  have loop := @decodeLoop_eq 4 0 buf (by decide) (by decide)
  rw [Nat.sub_self, Nat.pow_zero, List.drop_zero] at loop
  rw [decode, loop, parse]
  cases read : Base128.parse DecodeError.insufficientData .malformedPacket 4 buf with
  | error reason => rfl
  | ok result =>
    obtain ⟨value, rest⟩ := result
    have bound := Base128.parse_lt read
    have small : value ≤ max := by
      rw [max]
      omega
    obtain ⟨front, whole, _, _⟩ := Base128.parse_suffix read
    have length := @length_bytes ⟨UInt32.ofNat value⟩ (by rw [toNat_ofNat small]; exact small)
    rw [toNat_ofNat small] at length
    have lengths : buf.length = front.length + rest.length := by rw [whole, List.length_append]
    simp only [Except.map, Outcome.upTo, Outcome.ok_bind, Nat.zero_add, Nat.one_mul,
      if_neg (Nat.not_lt_of_le small), ← length]
    split
    · rw [if_neg (by omega)]
    · rw [if_pos (by omega)]

theorem parse_eq_ok {buf rest : List UInt8} {vbi : VariableByteInteger} :
    parse buf = .ok (vbi, rest) ↔ vbi.value.toNat ≤ max ∧ buf = bytes vbi.value.toNat ++ rest := by
  rw [parse]
  constructor
  · intro read
    split at read
    · rename_i value left parsed
      have bound := Base128.parse_lt parsed
      have small : value ≤ max := by
        rw [max]
        omega
      split at read
      · rename_i shortest
        cases read
        rw [toNat_ofNat small]
        exact ⟨small, Base128.bytes_of_shortest parsed shortest⟩
      · cases read
    · cases read
  · intro both
    obtain ⟨small, rfl⟩ := both
    rw [max] at small
    rw [bytes, Base128.parse_digits _ _ (show vbi.value.toNat < 128 ^ 4 by omega)]
    show (if _ then _ else _) = _
    rw [if_pos (by rw [List.length_append, bytes]), UInt32.ofNat_toNat]

theorem parse_bytes {value : Nat} (small : value ≤ max) (rest : List UInt8) :
    parse (bytes value ++ rest) = .ok (⟨UInt32.ofNat value⟩, rest) := by
  apply parse_eq_ok.mpr
  rw [toNat_ofNat small]
  exact ⟨small, rfl⟩

theorem parse_append {buf rest : List UInt8} {vbi : VariableByteInteger} (read : parse buf = .ok (vbi, rest))
    (more : List UInt8) : parse (buf ++ more) = .ok (vbi, rest ++ more) := by
  obtain ⟨small, rfl⟩ := parse_eq_ok.mp read
  exact parse_eq_ok.mpr ⟨small, List.append_assoc _ _ _⟩

/-- Bytes are insufficient only below four of them, and any other failure stays when more bytes arrive. -/
theorem parse_error {buf : List UInt8} {reason : DecodeError} (failed : parse buf = .error reason) :
    (reason = .insufficientData ∧ buf.length < 4) ∨
      (reason = .malformedPacket ∧ ∀ more, parse (buf ++ more) = .error .malformedPacket) := by
  rw [parse] at failed
  split at failed
  · rename_i value rest read
    split at failed
    · cases failed
    · rename_i notShortest
      cases failed
      refine .inr ⟨rfl, fun more => ?_⟩
      rw [parse, Base128.parse_append read more]
      simp only [List.length_append]
      rw [if_neg (by omega)]
  · rename_i given parsed
    cases failed
    rcases Base128.parse_error parsed with ⟨short, early⟩ | ⟨long, stays⟩
    · exact .inl ⟨short, early⟩
    · refine .inr ⟨long, fun more => ?_⟩
      rw [parse, stays more]

def decoder : SliceDecoder DecodeError VariableByteInteger where
  run := decode
  parse := parse
  suffix read := by
    obtain ⟨_, rfl⟩ := parse_eq_ok.mp read
    exact List.suffix_append _ _
  refines _ := decode_eq _

@[simp] theorem reads_decoder {buf rest : List UInt8} {vbi : VariableByteInteger} :
    decoder.Reads buf vbi rest ↔ vbi.value.toNat ≤ max ∧ buf = bytes vbi.value.toNat ++ rest := parse_eq_ok

theorem encode_of_le {vbi : VariableByteInteger} {buf : List UInt8} (small : vbi.value.toNat ≤ max)
    (room : (bytes vbi.value.toNat).length ≤ buf.length) :
    vbi.encode buf = .written buf 0 (.ok (bytes vbi.value.toNat)) := by
  have enough : 0 + (bytes vbi.value.toNat).length ≤ buf.length := by
    rw [Nat.zero_add]
    exact room
  rw [encode, if_neg (Nat.not_lt_of_le small)]
  rw [max] at small
  exact @encodeLoop_eq 3 _ _ _ _ (by omega) (by decide) enough (by decide)

def encoder (vbi : VariableByteInteger) : SliceEncoder EncodeError where
  run := vbi.encode
  bytes :=
    if max < vbi.value.toNat then .error (.packetTooLarge vbi.value.toNat max) else .ok (bytes vbi.value.toNat)
  size := vbi.encodedLen
  length_bytes written := by
    split at written
    · cases written
    · cases written
      exact length_bytes (Nat.le_of_not_lt (by assumption))
  refines {buf} room bound := by
    split
    · rename_i large
      rw [encode, if_pos large]
      rfl
    · rename_i small
      have length := length_bytes (Nat.le_of_not_lt small)
      rw [← length] at room
      exact encode_of_le (Nat.le_of_not_lt small) room

/-- Inside its range a value is written to any slice with room for it. -/
theorem encode_eq {value : Nat} {buf : List UInt8} (small : value ≤ max) (room : (bytes value).length ≤ buf.length) :
    encode ⟨UInt32.ofNat value⟩ buf = .written buf 0 (.ok (bytes value)) ∧
      encodedLen ⟨UInt32.ofNat value⟩ = (bytes value).length := by
  have written := @encode_of_le ⟨UInt32.ofNat value⟩ buf
  have length := @length_bytes ⟨UInt32.ofNat value⟩
  simp only [toNat_ofNat small] at written length
  exact ⟨written small room, (length small).symm⟩

@[simp] theorem writes_encoder {vbi : VariableByteInteger} {written : List UInt8} :
    vbi.encoder.Writes written ↔ vbi.value.toNat ≤ max ∧ written = bytes vbi.value.toNat := by
  rw [SliceEncoder.Writes, encoder]
  show (if _ then _ else _) = _ ↔ _
  split
  · rename_i large
    exact ⟨(nomatch ·), fun both => absurd both.1 (Nat.not_le_of_lt large)⟩
  · rename_i small
    rw [Except.ok.injEq, @eq_comm _ _ written]
    exact ⟨fun same => ⟨Nat.le_of_not_lt small, same⟩, And.right⟩

example : decode [0xFF, 0xFF, 0xFF, 0x7F, 0x00] = .ok (⟨268435455⟩, 4) := by decide

example : decode [0x80, 0x00] = .error .malformedPacket := by decide

end VariableByteInteger

end MqttRs
