import MqttRs.Codec.VariableByteInteger

/-! The fixed header in front of every packet: the type byte and the Remaining Length. -/

namespace MqttRs

variable {κ α : Type}

/-- The bytes of a packet with a given first byte and content. -/
def frame (first : UInt8) (content : List UInt8) : List UInt8 :=
  first :: (VariableByteInteger.bytes content.length ++ content)

def expectHeader (packetType flags first : UInt8) : Except DecodeError Unit :=
  if first &&& 0xF0 ≠ packetType then .error .invalidPacketType
  else if first &&& 0x0F ≠ flags then .error .invalidPacketFlags
  else .ok ()

/-- What `check` makes of the first byte, with `remaining_len`, `header_len` and `end`. -/
def decodeFixedHeader (check : UInt8 → Except DecodeError κ) (buf : List UInt8) :
    Outcome DecodeError (κ × Nat × Nat × Nat) :=
  if buf.isEmpty then .error .insufficientData
  else do
    let first ← Slice.index buf 0
    let key ← .ofExcept (check first)
    let rest ← Slice.rangeFrom buf 1
    let (remainingLen, vbiLen) ← VariableByteInteger.decode rest
    let remainingLen := remainingLen.value.toNat
    let headerLen ← Usize.add 1 vbiLen
    let stop ← Usize.add headerLen remainingLen
    if buf.length < stop then .error .insufficientData
    else .ok (key, remainingLen, headerLen, stop)

def decodeFrame (check : UInt8 → Except DecodeError κ) (body : κ → Nat → ByteReader DecodeError α) (buf : List UInt8) :
    Outcome DecodeError (α × Nat) := do
  let (key, remainingLen, headerLen, stop) ← decodeFixedHeader check buf
  (body key remainingLen).run buf stop headerLen

def totalLen (remainingLen : Nat) : Option Nat :=
  (Usize.checkedAdd 1 (VariableByteInteger.encodedLen ⟨UInt32.ofNat remainingLen⟩)).bind
    (Usize.checkedAdd · remainingLen)

/-- The beginning of every `encode`. Version 3.1.1 adds without `checked_add`; below `VariableByteInteger::MAX`
    neither way of adding fails. -/
def encodeFixedHeader (first : UInt8) (remainingLen : Nat) (buf : List UInt8) :
    Outcome EncodeError (List UInt8 × Nat) :=
  if VariableByteInteger.max < remainingLen then .error (.packetTooLarge remainingLen VariableByteInteger.max)
  else do
    let totalLen ← .okOr (totalLen remainingLen) (.packetTooLarge remainingLen VariableByteInteger.max)
    if buf.length < totalLen then .error .bufferTooSmall
    else do
      let buf ← Slice.set buf 0 first
      let rest ← Slice.rangeFrom buf 1
      let (rest, n) ← VariableByteInteger.encode ⟨UInt32.ofNat remainingLen⟩ rest
      let offset ← Usize.add 1 n
      .ok (buf.take 1 ++ rest, offset)

def encodeFrame (first : UInt8) (remainingLen : Nat) (body : ByteWriter EncodeError) (buf : List UInt8) :
    Outcome EncodeError (List UInt8 × Nat) := do
  let (buf, offset) ← encodeFixedHeader first remainingLen buf
  body.run buf offset

def encodeToVec (remainingLen : Nat) (encode : List UInt8 → Outcome EncodeError (List UInt8 × Nat)) :
    Outcome EncodeError (List UInt8) :=
  if VariableByteInteger.max < remainingLen then .error (.packetTooLarge remainingLen VariableByteInteger.max)
  else do
    let totalLen ← .okOr (totalLen remainingLen) (.packetTooLarge Usize.max Usize.max)
    let (buf, _) ← encode (List.replicate totalLen 0)
    .ok buf

theorem decodeFixedHeader_cons (check : UInt8 → Except DecodeError κ) (first : UInt8) (rest : List UInt8) :
    decodeFixedHeader check (first :: rest) =
      match check first with
      | .error reason => .error reason
      | .ok key =>
        match VariableByteInteger.parse rest with
        | .error reason => .error reason
        | .ok (remainingLen, after) =>
          if after.length < remainingLen.value.toNat then .error .insufficientData
          else .ok (key, remainingLen.value.toNat, 1 + (rest.length - after.length),
            1 + (rest.length - after.length) + remainingLen.value.toNat) := by
  rw [decodeFixedHeader, Slice.index_zero_cons, Slice.rangeFrom_one_cons]
  simp only [Outcome.ok_bind, VariableByteInteger.decode_eq]
  show (do
    let key ← Outcome.ofExcept (check first)
    _) = _
  cases check first with
  | error reason => rfl
  | ok key =>
    cases read : VariableByteInteger.parse rest with
    | error reason => rfl
    | ok result =>
      obtain ⟨remainingLen, after⟩ := result
      obtain ⟨small, rfl⟩ := VariableByteInteger.parse_eq_ok.mp read
      have vbiLen := VariableByteInteger.length_bytes_le remainingLen.value.toNat
      rw [VariableByteInteger.max] at small
      have header : 1 + (VariableByteInteger.bytes remainingLen.value.toNat).length ≤ Usize.max := by
        rw [Usize.max]
        omega
      have whole : 1 + (VariableByteInteger.bytes remainingLen.value.toNat).length + remainingLen.value.toNat ≤ Usize.max := by
        rw [Usize.max]
        omega
      simp only [Outcome.ofExcept, Outcome.upTo, Outcome.ok_bind, List.length_append, Nat.add_sub_cancel,
        Usize.add_of_le header, Usize.add_of_le whole, List.length_cons]
      split
      · rw [if_pos (by omega)]
      · rw [if_neg (by omega)]

theorem decodeFrame_frame {check : UInt8 → Except DecodeError κ} {first : UInt8} {key : κ}
    (accepted : check first = .ok key) (body : κ → Nat → ByteReader DecodeError α) {content : List UInt8}
    (small : content.length ≤ VariableByteInteger.max) (tail : List UInt8) :
    decodeFrame check body (frame first content ++ tail) =
      .upTo (frame first content).length ((body key content.length).parse content) := by
  have vbiLen := VariableByteInteger.length_bytes_le content.length
  show decodeFrame check body (first :: (VariableByteInteger.bytes content.length ++ content ++ tail)) = _
  rw [decodeFrame, decodeFixedHeader_cons, List.append_assoc, VariableByteInteger.parse_bytes small, accepted]
  simp only [VariableByteInteger.toNat_ofNat small, List.length_append, Nat.add_sub_cancel]
  rw [if_neg (by omega), Outcome.ok_bind]
  have start : (first :: VariableByteInteger.bytes content.length).length =
      1 + (VariableByteInteger.bytes content.length).length := by
    rw [List.length_cons, Nat.add_comm]
  have frameLength : (frame first content).length =
      1 + (VariableByteInteger.bytes content.length).length + content.length := by
    rw [frame, ← List.cons_append, List.length_append, start]
  have whole : first :: (VariableByteInteger.bytes content.length ++ (content ++ tail)) = frame first content ++ tail := by
    rw [frame, List.cons_append, List.append_assoc]
  have window : ((frame first content ++ tail).take (frame first content).length).drop
      (1 + (VariableByteInteger.bytes content.length).length) = content := by
    rw [List.take_left, frame, ← List.cons_append, List.drop_left' start]
  have bound : (frame first content).length < 2 ^ 32 := by
    rw [VariableByteInteger.max] at small
    omega
  rw [whole, ← frameLength]
  show (body key content.length).run _ (frame first content).length
    (1 + (VariableByteInteger.bytes content.length).length) = _
  rw [ByteReader.refines _ (by omega) (by rw [List.length_append]; omega) bound, window]

theorem decodeFrame_refused {check : UInt8 → Except DecodeError κ} {first : UInt8} {key : κ}
    {body : κ → Nat → ByteReader DecodeError α} {content : List UInt8} {reason : DecodeError} (accepted : check first = .ok key)
    (small : content.length ≤ VariableByteInteger.max) (refuses : (body key content.length).Refuses content reason)
    (tail : List UInt8) : decodeFrame check body (frame first content ++ tail) = .error reason := by
  rw [decodeFrame_frame accepted body small, show (body key content.length).parse content = .error reason from refuses]
  rfl

theorem frame_or_error (check : UInt8 → Except DecodeError κ) (buf : List UInt8) :
    (∃ first content tail key, content.length ≤ VariableByteInteger.max ∧ buf = frame first content ++ tail ∧
      check first = .ok key) ∨ ∃ reason, decodeFixedHeader check buf = .error reason := by
  cases buf with
  | nil => exact .inr ⟨_, rfl⟩
  | cons first rest =>
    rw [decodeFixedHeader_cons]
    cases accepted : check first with
    | error reason => exact .inr ⟨reason, rfl⟩
    | ok key =>
      cases read : VariableByteInteger.parse rest with
      | error reason => exact .inr ⟨reason, rfl⟩
      | ok result =>
        obtain ⟨remainingLen, after⟩ := result
        obtain ⟨small, rfl⟩ := VariableByteInteger.parse_eq_ok.mp read
        by_cases short : after.length < remainingLen.value.toNat
        · exact .inr ⟨.insufficientData, if_pos short⟩
        · have length : (after.take remainingLen.value.toNat).length = remainingLen.value.toNat :=
            List.length_take_of_le (Nat.le_of_not_lt short)
          refine .inl ⟨first, after.take remainingLen.value.toNat, after.drop remainingLen.value.toNat, key, ?_, ?_, accepted⟩
          · rw [length]
            exact small
          · rw [frame, length, List.cons_append, List.append_assoc, List.take_append_drop]

theorem decodeFrame_of_error {check : UInt8 → Except DecodeError κ} {body : κ → Nat → ByteReader DecodeError α}
    {buf : List UInt8} {reason : DecodeError} (refused : decodeFixedHeader check buf = .error reason) :
    decodeFrame check body buf = .error reason := by
  rw [decodeFrame, refused, Outcome.error_bind]

/-- The body of a frame is read to its end. -/
def ReadsToEnd (check : UInt8 → Except DecodeError κ) (body : κ → Nat → ByteReader DecodeError α) : Prop :=
  ∀ {first key bytes value rest}, check first = .ok key → (body key bytes.length).Reads bytes value rest → rest = []

theorem decodeFrame_eq_ok {check : UInt8 → Except DecodeError κ} {body : κ → Nat → ByteReader DecodeError α}
    (toEnd : ReadsToEnd check body) {buf : List UInt8} {value : α} {n : Nat} :
    decodeFrame check body buf = .ok (value, n) ↔
      ∃ first content tail key, content.length ≤ VariableByteInteger.max ∧ buf = frame first content ++ tail ∧
        check first = .ok key ∧ (body key content.length).Reads content value [] ∧ n = (frame first content).length := by
  constructor
  · intro decoded
    rcases frame_or_error check buf with framed | refused
    · obtain ⟨first, content, tail, key, small, rfl, accepted⟩ := framed
      rw [decodeFrame_frame accepted body small] at decoded
      cases parsed : (body key content.length).parse content with
      | error reason =>
        rw [parsed] at decoded
        cases decoded
      | ok result =>
        obtain ⟨given, rest⟩ := result
        obtain rfl := toEnd accepted parsed
        rw [parsed] at decoded
        cases decoded
        exact ⟨first, content, tail, key, small, rfl, accepted, parsed, rfl⟩
    · obtain ⟨reason, refused⟩ := refused
      rw [decodeFrame_of_error refused] at decoded
      cases decoded
  · intro framed
    obtain ⟨first, content, tail, key, small, rfl, accepted, parsed, rfl⟩ := framed
    rw [decodeFrame_frame accepted body small]
    show Outcome.upTo _ ((body key content.length).parse content) = _
    rw [show (body key content.length).parse content = .ok (value, []) from parsed]
    rfl

theorem take_eq_iff {α : Type} {buf front : List α} {n : Nat} :
    n ≤ buf.length ∧ buf.take n = front ↔ n = front.length ∧ ∃ tail, buf = front ++ tail := by
  constructor
  · intro both
    obtain ⟨inside, rfl⟩ := both
    rw [List.length_take_of_le inside]
    exact ⟨rfl, buf.drop n, (List.take_append_drop n buf).symm⟩
  · intro both
    obtain ⟨rfl, tail, rfl⟩ := both
    rw [List.length_append, List.take_left]
    exact ⟨Nat.le_add_right _ _, rfl⟩

theorem decodeFrame_returns (check : UInt8 → Except DecodeError κ) (body : κ → Nat → ByteReader DecodeError α)
    (buf : List UInt8) : (decodeFrame check body buf).Returns := by
  rcases frame_or_error check buf with framed | refused
  · obtain ⟨first, content, tail, key, small, rfl, accepted⟩ := framed
    rw [decodeFrame_frame accepted body small]
    cases (body key content.length).parse content <;> exact True.intro
  · obtain ⟨reason, refused⟩ := refused
    rw [decodeFrame_of_error refused]
    exact True.intro

theorem expectHeader_eq_ok {packetType flags first : UInt8} {key : Unit} :
    expectHeader packetType flags first = .ok key ↔ first &&& 0xF0 = packetType ∧ first &&& 0x0F = flags := by
  rw [expectHeader]
  split
  · simp [*]
  · split <;> simp_all

theorem first_of_halves (first : UInt8) : first = (first &&& 0xF0) ||| (first &&& 0x0F) := by
  revert first
  exact UInt8.forall_of_ofNat (by decide +kernel)

theorem expectHeader_iff {packetType flags first : UInt8} {key : Unit}
    (high : (packetType ||| flags) &&& 0xF0 = packetType) (low : (packetType ||| flags) &&& 0x0F = flags) :
    expectHeader packetType flags first = .ok key ↔ first = packetType ||| flags := by
  rw [expectHeader_eq_ok]
  constructor
  · intro halves
    rw [first_of_halves first, halves.1, halves.2]
  · intro same
    rw [same]
    exact ⟨high, low⟩

/-- `announced` stands for `size`, or both are beyond what a frame can hold. -/
def Announces (announced size : Nat) : Prop :=
  announced = size ∨ VariableByteInteger.max < announced ∧ VariableByteInteger.max < size

namespace Announces

variable {announced size more moreSize : Nat}

theorem refl (size : Nat) : Announces size size := .inl rfl

theorem add (first : Announces announced size) (second : Announces more moreSize) :
    Announces (Usize.saturatingAdd announced more) (size + moreSize) := by
  rw [Announces, Usize.saturatingAdd, Usize.max, VariableByteInteger.max] at *
  omega

theorem plus (first : Announces announced size) (n : Nat) :
    Announces (Usize.saturatingAdd announced n) (size + n) := first.add (.refl n)

theorem of_sum {a n : Nat} (sum : a + n = size) : Announces (Usize.saturatingAdd a n) size := by
  rw [← sum]
  exact (refl a).plus n

theorem foldl {β : Type} {step : Nat → β → Nat} {item : β → ByteWriter EncodeError}
    (step_announces : ∀ {announced size} value, Announces announced size →
      Announces (step announced value) (size + (item value).size))
    (first : Announces announced size) (values : List β) :
    Announces (values.foldl step announced) (size + (ByteWriter.each item values).size) := by
  induction values generalizing announced size with
  | nil => exact first
  | cons value values ih =>
    have rest := ih (step_announces value first)
    rw [Nat.add_assoc] at rest
    exact rest

theorem ifSome {β : Type} {item : β → ByteWriter EncodeError} {more : β → Nat} (first : Announces announced size)
    (given : ∀ value, Announces (more value) (size + (item value).size)) (option : Option β) :
    Announces
      (match option with
        | some value => more value
        | none => announced)
      (size + (ByteWriter.ifSome item option).size) := by
  cases option with
  | none => exact first
  | some value => exact given value

theorem le_iff (same : Announces announced size) :
    announced ≤ VariableByteInteger.max ↔ size ≤ VariableByteInteger.max := by
  rw [Announces] at same
  omega

theorem eq_of_le (same : Announces announced size) (small : size ≤ VariableByteInteger.max) : announced = size := by
  rw [Announces] at same
  omega

end Announces

theorem totalLen_eq {remainingLen : Nat} (small : remainingLen ≤ VariableByteInteger.max) :
    totalLen remainingLen = some (1 + (VariableByteInteger.bytes remainingLen).length + remainingLen) := by
  have bound := VariableByteInteger.length_bytes_le remainingLen
  rw [totalLen, (VariableByteInteger.encode_eq small (Nat.le_refl _)).2]
  rw [VariableByteInteger.max] at small
  have first : 1 + (VariableByteInteger.bytes remainingLen).length ≤ Usize.max := by
    rw [Usize.max]
    omega
  have second : 1 + (VariableByteInteger.bytes remainingLen).length + remainingLen ≤ Usize.max := by
    rw [Usize.max]
    omega
  rw [Usize.checkedAdd_of_le first, Option.bind_some, Usize.checkedAdd_of_le second]

theorem encodeFixedHeader_eq {first : UInt8} {remainingLen : Nat} {buf : List UInt8}
    (small : remainingLen ≤ VariableByteInteger.max)
    (room : 1 + (VariableByteInteger.bytes remainingLen).length + remainingLen ≤ buf.length) :
    encodeFixedHeader first remainingLen buf =
      .written buf 0 (.ok (first :: VariableByteInteger.bytes remainingLen)) := by
  have bound := VariableByteInteger.length_bytes_le remainingLen
  match buf, room with
  | [], room => exact absurd room (by rw [List.length_nil]; omega)
  | old :: rest, room =>
    rw [List.length_cons] at room
    have fits : 1 + (VariableByteInteger.bytes remainingLen).length ≤ Usize.max := by
      rw [Usize.max]
      omega
    rw [encodeFixedHeader, if_neg (Nat.not_lt_of_le small), totalLen_eq small, Outcome.okOr, Outcome.ok_bind,
      if_neg (by rw [List.length_cons]; omega), Slice.set_of_lt (Nat.succ_pos _)]
    show (do
      let rest ← Slice.rangeFrom (first :: rest) 1
      let (rest, n) ← VariableByteInteger.encode _ rest
      let offset ← Usize.add 1 n
      .ok ([first] ++ rest, offset)) = _
    rw [Slice.rangeFrom_one_cons, Outcome.ok_bind, (VariableByteInteger.encode_eq small (by omega)).1]
    simp only [Outcome.written, Outcome.ok_bind, Nat.zero_add, Usize.add_of_le fits, List.take_zero, List.nil_append,
      List.length_cons, Nat.add_comm _ 1]
    rw [Nat.add_comm 1, List.drop_succ_cons]
    rfl

theorem encodeFrame_eq {first : UInt8} {remainingLen : Nat} {body : ByteWriter EncodeError} {buf : List UInt8}
    (same : Announces remainingLen body.size) :
    encodeFrame first remainingLen body buf =
      if VariableByteInteger.max < remainingLen then .error (.packetTooLarge remainingLen VariableByteInteger.max)
      else if buf.length < 1 + (VariableByteInteger.bytes remainingLen).length + remainingLen then .error .bufferTooSmall
      else .written buf 0 (body.bytes.map (frame first)) := by
  split
  · rename_i large
    rw [encodeFrame, encodeFixedHeader, if_pos large, Outcome.error_bind]
  · rename_i notLarge
    have small := Nat.le_of_not_lt notLarge
    obtain rfl := same.eq_of_le (same.le_iff.mp small)
    split
    · rename_i short
      rw [encodeFrame, encodeFixedHeader, if_neg notLarge, totalLen_eq small, Outcome.okOr, Outcome.ok_bind, if_pos short,
        Outcome.error_bind]
    · rename_i room
      have bound := VariableByteInteger.length_bytes_le body.size
      have header : (first :: VariableByteInteger.bytes body.size).length =
          1 + (VariableByteInteger.bytes body.size).length := by
        rw [List.length_cons, Nat.add_comm]
      have fits : 1 + (VariableByteInteger.bytes body.size).length + body.size < 2 ^ 32 := by
        rw [VariableByteInteger.max] at small
        omega
      rw [encodeFrame, encodeFixedHeader_eq small (by omega)]
      simp only [Outcome.written, Outcome.ok_bind, List.take_zero, List.nil_append, Nat.zero_add]
      have kept : (first :: VariableByteInteger.bytes body.size ++
          buf.drop (first :: VariableByteInteger.bytes body.size).length).length = buf.length := by
        rw [List.length_append, List.length_drop]
        omega
      rw [body.refines (by omega) (by omega)]
      cases content : body.bytes with
      | error reason => rfl
      | ok bytes =>
        have joined := @Outcome.written_append EncodeError buf (first :: VariableByteInteger.bytes body.size) bytes 0 (by omega)
        simp only [List.take_zero, List.nil_append, Nat.zero_add] at joined
        rw [joined, Except.map, frame, body.length_bytes content]
        simp only [Outcome.written, List.take_zero, List.nil_append, Nat.zero_add, List.cons_append]

/-- `bytes` is the packet with the given first byte whose content the writer writes. -/
def Framed (first : UInt8) (body : ByteWriter EncodeError) (bytes : List UInt8) : Prop :=
  ∃ content, body.Writes content ∧ content.length ≤ VariableByteInteger.max ∧ bytes = frame first content

theorem encodeToVec_eq_ok {first : UInt8} {remainingLen : Nat} {body : ByteWriter EncodeError} {checks : Except EncodeError Unit}
    (same : checks = .ok () → Announces remainingLen body.size) {written : List UInt8} :
    encodeToVec remainingLen (fun buf => do
      let _ ← .ofExcept checks
      encodeFrame first remainingLen body buf) = .ok written ↔
      checks = .ok () ∧ Framed first body written := by
  rw [encodeToVec, Framed]
  cases checks with
  | error reason =>
    simp only [Outcome.ofExcept, Outcome.error_bind, reduceCtorEq, false_and, iff_false]
    intro wrong
    split at wrong
    · cases wrong
    · cases total : Outcome.okOr (totalLen remainingLen) (EncodeError.packetTooLarge Usize.max Usize.max) <;>
        rw [total] at wrong <;> cases wrong
  | ok _ =>
    specialize same rfl
    simp only [Outcome.ofExcept, Outcome.ok_bind, true_and]
    split
    · rename_i large
      constructor
      · intro wrong
        cases wrong
      · intro encoded
        obtain ⟨content, writes, small, _⟩ := encoded
        rw [body.length_bytes writes] at small
        exact absurd (same.le_iff.mpr small) (Nat.not_le_of_lt large)
    · rename_i notLarge
      have small := Nat.le_of_not_lt notLarge
      obtain rfl := same.eq_of_le (same.le_iff.mp small)
      simp only [totalLen_eq small, Outcome.okOr, Outcome.ok_bind, encodeFrame_eq same, if_neg notLarge,
        List.length_replicate, Nat.lt_irrefl, if_false, ByteWriter.Writes]
      cases writes : body.bytes with
      | error reason =>
        constructor
        · intro wrong
          cases wrong
        · intro encoded
          obtain ⟨_, wrong, _⟩ := encoded
          cases wrong
      | ok content =>
        have contentLength := body.length_bytes writes
        have frameLength : (frame first content).length =
            1 + (VariableByteInteger.bytes body.size).length + body.size := by
          rw [frame, contentLength, List.length_cons, List.length_append, contentLength]
          omega
        have nothingLeft : (List.replicate (1 + (VariableByteInteger.bytes body.size).length + body.size) (0 : UInt8)).drop
            (frame first content).length = [] := by
          rw [frameLength, List.drop_eq_nil_of_le (by rw [List.length_replicate])]
        simp only [Except.map, Outcome.written, Outcome.ok_bind, List.take_zero, List.nil_append, Nat.zero_add, nothingLeft,
          List.append_nil, Outcome.ok.injEq, Except.ok.injEq, exists_eq_left']
        constructor
        · intro same
          exact ⟨by omega, same.symm⟩
        · intro both
          exact both.2.symm

theorem decodeFrame_iff_framed {check : UInt8 → Except DecodeError κ} {body : κ → Nat → ByteReader DecodeError α}
    {accepts : α → Prop} {first : α → UInt8} {writer : α → ByteWriter EncodeError} (toEnd : ReadsToEnd check body)
    (inverts : ∀ {byte content value}, (∃ key, check byte = .ok key ∧ (body key content.length).Reads content value []) ↔
      accepts value ∧ byte = first value ∧ (writer value).Writes content)
    {buf : List UInt8} {value : α} {n : Nat} :
    decodeFrame check body buf = .ok (value, n) ↔
      accepts value ∧ n ≤ buf.length ∧ Framed (first value) (writer value) (buf.take n) := by
  rw [decodeFrame_eq_ok toEnd]
  constructor
  · intro decoded
    obtain ⟨byte, content, tail, key, small, whole, accepted, read, length⟩ := decoded
    obtain ⟨valid, rfl, writes⟩ := inverts.mp ⟨key, accepted, read⟩
    obtain ⟨inside, taken⟩ := take_eq_iff.mpr ⟨length, tail, whole⟩
    exact ⟨valid, inside, content, writes, small, taken⟩
  · intro framed
    obtain ⟨valid, inside, content, writes, small, taken⟩ := framed
    obtain ⟨length, tail, whole⟩ := take_eq_iff.mp ⟨inside, taken⟩
    obtain ⟨key, accepted, read⟩ := inverts.mpr ⟨valid, rfl, writes⟩
    exact ⟨first value, content, tail, key, small, whole, accepted, read, length⟩

theorem decodeFrame_fixed_iff {check : UInt8 → Except DecodeError Unit} {expected : UInt8}
    (expects : ∀ {first key}, check first = .ok key ↔ first = expected) {body : ByteReader DecodeError α}
    {accepts : α → Prop} {writer : α → ByteWriter EncodeError}
    (inverts : ∀ {content value rest}, body.Reads content value rest ↔
      accepts value ∧ (writer value).Writes content ∧ rest = [])
    {buf : List UInt8} {value : α} {n : Nat} :
    decodeFrame check (fun _ _ => body) buf = .ok (value, n) ↔
      accepts value ∧ n ≤ buf.length ∧ Framed expected (writer value) (buf.take n) := by
  refine @decodeFrame_iff_framed _ _ check (fun _ _ => body) accepts (fun _ => expected) writer ?_ ?_ buf value n
  · intro _ _ _ _ _ _ read
    exact (inverts.mp read).2.2
  · intro byte content value
    simp only [expects, inverts, and_true, exists_const]
    exact and_left_comm

theorem decodeFrame_expect_iff {packetType flags : UInt8} (high : (packetType ||| flags) &&& 0xF0 = packetType)
    (low : (packetType ||| flags) &&& 0x0F = flags) {body : ByteReader DecodeError α} {accepts : α → Prop}
    {writer : α → ByteWriter EncodeError}
    (inverts : ∀ {content value rest}, body.Reads content value rest ↔
      accepts value ∧ (writer value).Writes content ∧ rest = [])
    {buf : List UInt8} {value : α} {n : Nat} :
    decodeFrame (expectHeader packetType flags) (fun _ _ => body) buf = .ok (value, n) ↔
      accepts value ∧ n ≤ buf.length ∧ Framed (packetType ||| flags) (writer value) (buf.take n) :=
  decodeFrame_fixed_iff (expectHeader_iff high low) inverts

end MqttRs
