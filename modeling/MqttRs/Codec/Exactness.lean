import MqttRs.Codec.Fields
import MqttRs.Library.Refusals

/-! What encoders write into a buffer, and that the buffer they ask for is never too small. -/

namespace MqttRs

def frameLen (encodedLen : Nat) : Nat :=
  1 + VariableByteInteger.encodedLen ⟨UInt32.ofNat encodedLen⟩ + encodedLen

/-- `encode` writes a frame of the announced length, the same into every buffer that holds it, and `encode_to_vec` gives
    that frame. -/
structure EncodesExactly (encodedLen : Nat) (encode : List UInt8 → Outcome EncodeError (List UInt8 × Nat))
    (encodeToVec : Outcome EncodeError (List UInt8)) : Prop where
  returns : ∀ buf, (encode buf).Returns
  length : ∀ {buf after n}, encode buf = .ok (after, n) → n = frameLen encodedLen ∧ n ≤ buf.length
  untouched : ∀ {buf after n}, encode buf = .ok (after, n) → after.length = buf.length ∧ after.drop n = buf.drop n
  same : ∀ {buf after n}, encode buf = .ok (after, n) → ∀ other, n ≤ other.length →
    ∃ otherAfter, encode other = .ok (otherAfter, n) ∧ otherAfter.take n = after.take n
  short : ∀ {buf}, buf.length < frameLen encodedLen → ∃ reason, encode buf = .error reason
  vecReturns : encodeToVec.Returns
  vecFits : encodeToVec ≠ .error .bufferTooSmall
  vec : ∀ {written}, encodeToVec = .ok written → ∀ buf, written.length ≤ buf.length →
    ∃ after, encode buf = .ok (after, written.length) ∧ after.take written.length = written

abbrev ExactEncoder (encodedLen : Nat) (encode : List UInt8 → Outcome EncodeError (List UInt8 × Nat)) : Prop :=
  EncodesExactly encodedLen encode (encodeToVec encodedLen encode)

variable {encode : List UInt8 → Outcome EncodeError (List UInt8 × Nat)} {encodedLen : Nat} {whole : List UInt8}

/-- The encoder writes `whole` in front of what the buffer holds behind it. -/
def Fills (encode : List UInt8 → Outcome EncodeError (List UInt8 × Nat)) (whole : List UInt8) : Prop :=
  ∀ buf, encode buf =
    if buf.length < whole.length then .error .bufferTooSmall else .ok (whole ++ buf.drop whole.length, whole.length)

/-- The encoder refuses every buffer, for its length only below the announced one. -/
def RefusesAll (encode : List UInt8 → Outcome EncodeError (List UInt8 × Nat)) (encodedLen : Nat) : Prop :=
  ∀ buf, ∃ reason, encode buf = .error reason ∧ (reason = .bufferTooSmall → buf.length < frameLen encodedLen)

theorem frameLen_eq (small : encodedLen ≤ VariableByteInteger.max) :
    frameLen encodedLen = 1 + (VariableByteInteger.bytes encodedLen).length + encodedLen := by
  rw [frameLen, (VariableByteInteger.encode_eq small (Nat.le_refl _)).2]

theorem totalLen_of_le (small : encodedLen ≤ VariableByteInteger.max) : totalLen encodedLen = some (frameLen encodedLen) := by
  rw [totalLen_eq small, frameLen_eq small]

theorem Fills.eq_ok {buf after : List UInt8} {n : Nat} (fills : Fills encode whole)
    (written : encode buf = .ok (after, n)) :
    whole.length ≤ buf.length ∧ after = whole ++ buf.drop whole.length ∧ n = whole.length := by
  rw [fills buf] at written
  split at written
  · cases written
  · rename_i room
    cases written
    exact ⟨Nat.le_of_not_lt room, rfl, rfl⟩

theorem Fills.of_le {buf : List UInt8} (fills : Fills encode whole) (room : whole.length ≤ buf.length) :
    encode buf = .ok (whole ++ buf.drop whole.length, whole.length) := by
  rw [fills buf, if_neg (Nat.not_lt_of_le room)]

theorem Fills.encodeToVec_eq (fills : Fills encode whole) (length : whole.length = frameLen encodedLen)
    (small : encodedLen ≤ VariableByteInteger.max) : encodeToVec encodedLen encode = .ok whole := by
  have room : whole.length ≤ (List.replicate (frameLen encodedLen) (0 : UInt8)).length := by
    rw [List.length_replicate, length]
  have nothingLeft : (List.replicate (frameLen encodedLen) (0 : UInt8)).drop whole.length = [] :=
    List.drop_eq_nil_of_le (by rw [List.length_replicate, length])
  rw [encodeToVec, if_neg (Nat.not_lt_of_le small), totalLen_of_le small, Outcome.okOr, Outcome.ok_bind, fills.of_le room,
    nothingLeft, List.append_nil]
  rfl

theorem Fills.exactEncoder (fills : Fills encode whole) (length : whole.length = frameLen encodedLen)
    (small : encodedLen ≤ VariableByteInteger.max) : ExactEncoder encodedLen encode := by
  have toVec := fills.encodeToVec_eq length small
  constructor
  case returns =>
    intro buf
    rw [fills buf]
    split <;> trivial
  case length =>
    intro buf after n written
    obtain ⟨room, -, rfl⟩ := fills.eq_ok written
    exact ⟨length, room⟩
  case untouched =>
    intro buf after n written
    obtain ⟨room, rfl, rfl⟩ := fills.eq_ok written
    refine ⟨?_, List.drop_left⟩
    rw [List.length_append, List.length_drop, Nat.add_sub_cancel' room]
  case same =>
    intro buf after n written other otherRoom
    obtain ⟨-, rfl, rfl⟩ := fills.eq_ok written
    refine ⟨_, fills.of_le otherRoom, ?_⟩
    rw [List.take_left, List.take_left]
  case short =>
    intro buf few
    exact ⟨.bufferTooSmall, by rw [fills buf, if_pos (length ▸ few)]⟩
  case vecReturns =>
    rw [toVec]
    trivial
  case vecFits =>
    rw [toVec]
    intro wrong
    cases wrong
  case vec =>
    intro written given buf room
    rw [toVec] at given
    cases given
    exact ⟨_, fills.of_le room, List.take_left⟩

theorem RefusesAll.encodeToVec_eq (refuses : RefusesAll encode encodedLen) :
    ∃ reason, encodeToVec encodedLen encode = .error reason ∧ reason ≠ .bufferTooSmall := by
  rw [encodeToVec]
  split
  · refine ⟨_, rfl, ?_⟩
    intro wrong
    cases wrong
  · rename_i notLarge
    rw [totalLen_of_le (Nat.le_of_not_lt notLarge), Outcome.okOr, Outcome.ok_bind]
    obtain ⟨reason, refused, early⟩ := refuses (List.replicate (frameLen encodedLen) 0)
    rw [List.length_replicate] at early
    rw [refused]
    exact ⟨reason, rfl, fun same => Nat.lt_irrefl _ (early same)⟩

theorem RefusesAll.exactEncoder (refuses : RefusesAll encode encodedLen) : ExactEncoder encodedLen encode := by
  obtain ⟨vecReason, vecRefused, other⟩ := refuses.encodeToVec_eq
  have never {buf after n} : encode buf ≠ .ok (after, n) := by
    obtain ⟨reason, refused, -⟩ := refuses buf
    rw [refused]
    intro wrong
    cases wrong
  constructor
  case returns =>
    intro buf
    obtain ⟨reason, refused, -⟩ := refuses buf
    rw [refused]
    trivial
  case length => exact fun written => absurd written never
  case untouched => exact fun written => absurd written never
  case same => exact fun written => absurd written never
  case short =>
    intro buf _
    obtain ⟨reason, refused, -⟩ := refuses buf
    exact ⟨reason, refused⟩
  case vecReturns =>
    rw [vecRefused]
    trivial
  case vecFits =>
    rw [vecRefused]
    exact fun same => other (Outcome.error.inj same)
  case vec =>
    intro written given
    rw [vecRefused] at given
    cases given

theorem exactEncoder {first : UInt8} {body : ByteWriter EncodeError} {checks : Except EncodeError Unit}
    (same : checks = .ok () → Announces encodedLen body.size) (checked : checks ≠ .error .bufferTooSmall)
    (avoids : ¬body.Refuses .bufferTooSmall) :
    ExactEncoder encodedLen (fun buf => do
      let _ ← .ofExcept checks
      encodeFrame first encodedLen body buf) := by
  cases passed : checks with
  | error reason =>
    apply RefusesAll.exactEncoder
    intro buf
    exact ⟨reason, rfl, fun wrong => absurd (passed.trans (congrArg _ wrong)) checked⟩
  | ok _ =>
    have announced := same passed
    by_cases small : encodedLen ≤ VariableByteInteger.max
    · cases written : body.bytes with
      | error reason =>
        apply RefusesAll.exactEncoder
        intro buf
        simp only [Outcome.ofExcept, Outcome.ok_bind, encodeFrame_eq announced, if_neg (Nat.not_lt_of_le small), written]
        split
        · rename_i few
          exact ⟨_, rfl, fun _ => by rwa [frameLen_eq small]⟩
        · exact ⟨reason, rfl, fun wrong => absurd (written.trans (congrArg _ wrong)) avoids⟩
      | ok content =>
        have sizes := announced.eq_of_le (announced.le_iff.mp small)
        have contentLength := body.length_bytes written
        have length : (frame first content).length = frameLen encodedLen := by
          rw [frameLen_eq small, frame, contentLength, ← sizes, List.length_cons, List.length_append, contentLength, ← sizes]
          omega
        refine Fills.exactEncoder ?_ length small
        intro buf
        simp only [Outcome.ofExcept, Outcome.ok_bind, encodeFrame_eq announced, if_neg (Nat.not_lt_of_le small), written,
          ← frameLen_eq small, ← length, Except.map, Outcome.written, List.take_zero, List.nil_append, Nat.zero_add]
    · apply RefusesAll.exactEncoder
      intro buf
      refine ⟨.packetTooLarge encodedLen VariableByteInteger.max, ?_, ?_⟩
      · simp only [Outcome.ofExcept, Outcome.ok_bind, encodeFrame_eq announced, if_pos (Nat.lt_of_not_le small)]
      · intro wrong
        cases wrong

@[simp] theorem refuses_writeString {text : String} : ¬(writeString text).Refuses .bufferTooSmall := by
  show (if _ then _ else if _ then _ else _) ≠ _
  split_ifs <;> rintro ⟨⟩

@[simp] theorem refuses_writeBinary {data : List UInt8} : ¬(writeBinary data).Refuses .bufferTooSmall := by
  show (if _ then _ else _) ≠ _
  split_ifs <;> rintro ⟨⟩

@[simp] theorem refuses_writeU16 {value : UInt16} {reason : EncodeError} : ¬(writeU16 value).Refuses reason := nofun

@[simp] theorem refuses_writeCode {γ : Type} [ByteCode γ] {code : γ} {reason : EncodeError} :
    ¬(writeCode code).Refuses reason := nofun

end MqttRs
