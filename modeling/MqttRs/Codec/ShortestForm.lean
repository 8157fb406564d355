import MqttRs.Codec.VariableByteInteger

/-! Variable Byte Integers are read from their encodings alone, and within 32 bits. -/

namespace MqttRs

namespace VariableByteInteger

def Encodes (vbi : VariableByteInteger) (written : List UInt8) : Prop :=
  ∀ buf, written.length ≤ buf.length → vbi.encode buf = .ok (written ++ buf.drop written.length, written.length)

/-- The results of the `u32` multiplications and additions of the loop of `decode`, without a bound on them. -/
def loopResults : Nat → List UInt8 → Nat → Nat → Nat → List Nat
  | 0, _, _, _, _ => []
  | turns + 1, buf, i, value, multiplier =>
    if 4 ≤ i then []
    else
      match buf[i]? with
      | none => []
      | some byte =>
        let term := (byte &&& 0x7F).toNat * multiplier
        let value := value + term
        if byte &&& 0x80 = 0 then [term, value]
        else term :: value :: multiplier * 128 :: loopResults turns buf (i + 1) value (multiplier * 128)

def decodeResults (buf : List UInt8) : List Nat := loopResults 5 buf 0 0 1

section Encoding

variable {vbi : VariableByteInteger} {buf written after : List UInt8} {n : Nat}

theorem encodes_bytes (small : vbi.value.toNat ≤ max) : vbi.Encodes (bytes vbi.value.toNat) := by
  intro buf room
  rw [encode_of_le small room, Outcome.written, List.take_zero, List.nil_append, Nat.zero_add]

theorem encodes_iff (small : vbi.value.toNat ≤ max) : vbi.Encodes written ↔ written = bytes vbi.value.toNat := by
  constructor
  · intro encodes
    let zeros := List.replicate (written.length + (bytes vbi.value.toNat).length) (0 : UInt8)
    have size : zeros.length = written.length + (bytes vbi.value.toNat).length := List.length_replicate
    have first := encodes zeros (by omega)
    rw [encodes_bytes small zeros (by omega)] at first
    obtain ⟨same, length⟩ := Prod.mk.inj (Outcome.ok.inj first)
    exact (List.append_inj_left same length).symm
  · intro same
    rw [same]
    exact encodes_bytes small

theorem encodeLoop_short {limit turns value i : Nat} {buf : List UInt8} (bound : value < 128 ^ (limit + 1))
    (enough : limit ≤ turns) (short : buf.length < i + (Base128.digits (limit + 1) value).length)
    (low : i + limit < 2 ^ 32) : encodeLoop (turns + 1) buf i value = .error .bufferTooSmall := by
  induction limit generalizing turns value i buf with
  | zero =>
    have small : value < 128 := by omega
    rw [Base128.digits, if_pos small, List.length_singleton] at short
    rw [encodeLoop, if_pos (by omega)]
  | succ limit ih =>
    by_cases inside : i < buf.length
    · rw [Base128.digits] at short
      split at short
      · rw [List.length_singleton] at short
        omega
      · rename_i large
        obtain ⟨turns, rfl⟩ : ∃ fewer, turns = fewer + 1 := ⟨turns - 1, by omega⟩
        have high := Base128.quotient_lt bound
        rw [List.length_cons] at short
        have kept := Slice.length_replaced (UInt8.ofNat (value % 128 + 128)) inside
        rw [encodeLoop_more (Nat.le_of_not_lt large) inside (by omega)]
        exact ih high (by omega) (by omega) (by omega)
    · rw [encodeLoop, if_pos (Nat.le_of_not_lt inside)]

theorem encode_short (small : vbi.value.toNat ≤ max) (short : buf.length < vbi.encodedLen) :
    vbi.encode buf = .error .bufferTooSmall := by
  rw [← length_bytes small] at short
  rw [encode, if_neg (Nat.not_lt_of_le small)]
  rw [max] at small
  exact @encodeLoop_short 3 _ _ _ _ (by omega) (by decide) (by rw [Nat.zero_add]; exact short) (by decide)

theorem encode_eq_ok (small : vbi.value.toNat ≤ max) :
    (∃ after, vbi.encode buf = .ok (after, n)) ↔ n = vbi.encodedLen ∧ n ≤ buf.length := by
  have length := length_bytes small
  by_cases short : buf.length < vbi.encodedLen
  · rw [encode_short small short]
    simp only [reduceCtorEq, exists_false, false_iff]
    omega
  · rw [encodes_bytes small buf (by omega)]
    simp only [Outcome.ok.injEq, Prod.mk.injEq, length]
    constructor
    · intro written
      obtain ⟨after, -, rfl⟩ := written
      exact ⟨rfl, Nat.le_of_not_lt short⟩
    · intro both
      exact ⟨_, rfl, both.1.symm⟩

theorem decode_eq_ok :
    decode buf = .ok (vbi, n) ↔ vbi.value.toNat ≤ max ∧ n ≤ buf.length ∧ buf.take n = bytes vbi.value.toNat := by
  rw [decode_eq]
  constructor
  · intro decoded
    cases parsed : parse buf with
    | error reason =>
      rw [parsed] at decoded
      cases decoded
    | ok read =>
      obtain ⟨given, rest⟩ := read
      rw [parsed] at decoded
      cases decoded
      obtain ⟨small, rfl⟩ := parse_eq_ok.mp parsed
      rw [List.length_append, Nat.add_sub_cancel]
      exact ⟨small, Nat.le_add_right _ _, List.take_left⟩
  · intro front
    obtain ⟨small, inside, encoded⟩ := front
    have parsed : parse buf = .ok (vbi, buf.drop n) := by
      rw [parse_eq_ok, ← encoded, List.take_append_drop]
      exact ⟨small, rfl⟩
    rw [parsed, Outcome.upTo, List.length_drop, Nat.sub_sub_self inside]

theorem upTo_eq_error {ε α : Type} {stop : Nat} {read : Except ε (α × List UInt8)} {reason : ε} :
    Outcome.upTo stop read = .error reason ↔ read = .error reason := by
  cases read <;> simp [Outcome.upTo]

theorem marked_iff (byte : UInt8) : byte &&& 0x80 ≠ 0 ↔ 128 ≤ byte.toNat := by
  rw [ne_eq, and_top_bit, Nat.not_lt]

theorem decode_insufficient :
    decode buf = .error .insufficientData ↔ buf.length < 4 ∧ ∀ byte ∈ buf, byte &&& 0x80 ≠ 0 := by
  simp only [marked_iff]
  have short := @Base128.parse_eq_short DecodeError .insufficientData .malformedPacket (by decide) 4 buf
  rw [decode_eq, upTo_eq_error, ← short, parse]
  cases Base128.parse DecodeError.insufficientData .malformedPacket 4 buf with
  | error reason => simp
  | ok read =>
    dsimp only
    split <;> simp

theorem decode_append (enough : decode buf ≠ .error .insufficientData) (more : List UInt8) :
    decode (buf ++ more) = decode buf := by
  rw [decode_eq, ne_eq, upTo_eq_error] at enough
  rw [decode_eq, decode_eq]
  cases parsed : parse buf with
  | error reason =>
    rcases parse_error parsed with ⟨rfl, -⟩ | ⟨rfl, stays⟩
    · exact absurd parsed enough
    · rw [stays more]
      rfl
  | ok read =>
    obtain ⟨given, rest⟩ := read
    have length := congrArg List.length (parse_eq_ok.mp parsed).2
    rw [List.length_append] at length
    rw [parse_append parsed more]
    simp only [Outcome.upTo, List.length_append, Nat.add_sub_add_right]

/-- While the listed results fit, they are what the operations of the loop return. -/
theorem decodeLoop_computes {turns i value multiplier : Nat} (early : i < 4) (inside : i < buf.length)
    (fits : ∀ result ∈ loopResults (turns + 1) buf i value multiplier, result < 2 ^ 32) :
    ∃ term sum rest, loopResults (turns + 1) buf i value multiplier = term :: sum :: rest ∧
      (U32.mul (buf[i] &&& 0x7F).toNat multiplier : Outcome DecodeError Nat) = .ok term ∧
      U32.checkedAdd value term = some sum ∧
      if buf[i] &&& 0x80 = 0 then rest = [] ∧ decodeLoop (turns + 1) buf i value multiplier = .ok (sum, i + 1)
      else ∃ product, U32.checkedMul multiplier 128 = some product ∧
        rest = product :: loopResults turns buf (i + 1) sum product ∧
        decodeLoop (turns + 1) buf i value multiplier = decodeLoop turns buf (i + 1) sum product := by
  have results : loopResults (turns + 1) buf i value multiplier =
      (buf[i] &&& 0x7F).toNat * multiplier :: (value + (buf[i] &&& 0x7F).toNat * multiplier) ::
        if buf[i] &&& 0x80 = 0 then []
        else multiplier * 128 ::
          loopResults turns buf (i + 1) (value + (buf[i] &&& 0x7F).toNat * multiplier) (multiplier * 128) := by
    simp only [loopResults, if_neg (Nat.not_le.mpr early), List.getElem?_eq_getElem inside]
    split <;> rfl
  rw [results] at fits ⊢
  have term : (U32.mul (buf[i] &&& 0x7F).toNat multiplier : Outcome DecodeError Nat) = .ok _ :=
    if_pos (fits _ (.head _))
  have sum : U32.checkedAdd value ((buf[i] &&& 0x7F).toNat * multiplier) = some _ :=
    if_pos (fits _ (.tail _ (.head _)))
  have index : i + 1 ≤ Usize.max := by
    rw [Usize.max]
    omega
  refine ⟨_, _, _, rfl, term, sum, ?_⟩
  simp only [decodeLoop, if_neg (Nat.not_le.mpr early), if_neg (Nat.not_le.mpr inside), Slice.index_of_lt inside,
    Outcome.ok_bind, term, sum, Outcome.okOr, Usize.add_of_le index]
  split
  · exact ⟨rfl, rfl⟩
  · rename_i marked
    rw [if_neg marked] at fits
    have product : U32.checkedMul multiplier 128 = some _ := if_pos (fits _ (.tail _ (.tail _ (.head _))))
    refine ⟨_, product, rfl, ?_⟩
    simp only [product, Outcome.ok_bind]

theorem loopResults_le {turns i value : Nat} (few : i ≤ 4) (small : value < 128 ^ i) :
    ∀ result ∈ loopResults turns buf i value (128 ^ i), result ≤ 128 ^ 4 := by
  induction turns generalizing i value with
  | zero =>
    intro result member
    cases member
  | succ turns ih =>
    rw [loopResults]
    split
    · intro result member
      cases member
    · rename_i early
      cases buf[i]? with
      | none =>
        intro result member
        cases member
      | some byte =>
        have digit := Nat.mod_lt byte.toNat (show 0 < 128 by decide)
        have term : byte.toNat % 128 * 128 ^ i ≤ 127 * 128 ^ i := Nat.mul_le_mul_right _ (by omega)
        have power : 128 ^ (i + 1) = 128 ^ i * 128 := Nat.pow_succ 128 i
        have bound : 128 ^ (i + 1) ≤ 128 ^ 4 := Nat.pow_le_pow_right (by decide) (by omega)
        have sum : value + byte.toNat % 128 * 128 ^ i < 128 ^ (i + 1) := by omega
        have later := ih (show i + 1 ≤ 4 by omega) sum
        have termFits : byte.toNat % 128 * 128 ^ i ≤ 128 ^ 4 := by omega
        have sumFits : value + byte.toNat % 128 * 128 ^ i ≤ 128 ^ 4 := by omega
        simp only [and_seven_bits, ← power]
        split
        · rw [List.forall_mem_cons, List.forall_mem_singleton]
          exact ⟨termFits, sumFits⟩
        · simp only [List.forall_mem_cons]
          exact ⟨termFits, sumFits, bound, later⟩

end Encoding

/-- The codec in both directions: what is accepted, what is called insufficient, what more bytes can change, how many
    bytes are written, and what the arithmetic comes to. -/
theorem codec_exact (buf : List UInt8) :
    (∀ vbi n, decode buf = .ok (vbi, n) ↔
      vbi.value.toNat ≤ max ∧ n ≤ buf.length ∧ vbi.Encodes (buf.take n)) ∧
    (decode buf = .error .insufficientData ↔ buf.length < 4 ∧ ∀ byte ∈ buf, byte &&& 0x80 ≠ 0) ∧
    (decode buf ≠ .error .insufficientData → ∀ more, decode (buf ++ more) = decode buf) ∧
    (∀ vbi : VariableByteInteger, vbi.value.toNat ≤ max →
      ∀ n, (∃ after, vbi.encode buf = .ok (after, n)) ↔ n = vbi.encodedLen ∧ n ≤ buf.length) ∧
    (decode buf).Returns ∧ ∀ result ∈ decodeResults buf, result < 2 ^ 32 := by
  refine ⟨?_, decode_insufficient, decode_append, ?_, ?_, ?_⟩
  · intro vbi n
    rw [decode_eq_ok]
    refine and_congr_right fun small => and_congr_right fun _ => ?_
    exact (encodes_iff small).symm
  · intro vbi small n
    exact encode_eq_ok small
  · rw [decode_eq]
    cases parse buf <;> trivial
  · intro result member
    have bound := @loopResults_le buf 5 0 0 (by decide) (by decide) result member
    omega

end VariableByteInteger

end MqttRs
