import MqttRs.Library.Reader
import MqttRs.Library.Writer

/-! With which errors readers and writers fail. -/

namespace ByteWriter

variable {ε α : Type} {reason : ε}

/-- The writer fails with the given error. -/
def Refuses (writer : ByteWriter ε) (reason : ε) : Prop := writer.bytes = .error reason

@[simp] theorem refuses_nothing : ¬(nothing : ByteWriter ε).Refuses reason := nofun

@[simp] theorem refuses_fail {other : ε} : (fail other).Refuses reason ↔ other = reason := by
  rw [Refuses, fail, Except.error.injEq]

@[simp] theorem refuses_byte {value : UInt8} : ¬(byte value : ByteWriter ε).Refuses reason := nofun

@[simp] theorem refuses_copy {values : List UInt8} : ¬(copy values : ByteWriter ε).Refuses reason := nofun

@[simp] theorem refuses_append {first second : ByteWriter ε} :
    (first ++ second).Refuses reason ↔ first.Refuses reason ∨ first.Writable ∧ second.Refuses reason := by
  show (do
    let front ← first.bytes
    let back ← second.bytes
    .ok (front ++ back)) = Except.error reason ↔ first.bytes = _ ∨ (∃ written, first.bytes = _) ∧ second.bytes = _
  cases first.bytes with
  | error other =>
    show Except.error other = _ ↔ _
    simp
  | ok front =>
    cases second.bytes with
    | error other =>
      show Except.error other = _ ↔ _
      simp
    | ok back =>
      show Except.ok (front ++ back) = _ ↔ _
      simp

@[simp] theorem refuses_each {item : α → ByteWriter ε} {values : List α} (items : ∀ value, ¬(item value).Refuses reason) :
    ¬(each item values).Refuses reason := by
  induction values with
  | nil => exact refuses_nothing
  | cons value values ih =>
    rw [each, refuses_append]
    rintro (here | ⟨-, later⟩)
    · exact items value here
    · exact ih later

@[simp] theorem refuses_ifSome {item : α → ByteWriter ε} {option : Option α} :
    (ifSome item option).Refuses reason ↔ ∃ value ∈ option, (item value).Refuses reason := by
  cases option with
  | none => simp [ifSome]
  | some value => simp [ifSome]

end ByteWriter

namespace SliceDecoder

variable {ε α : Type} {bytes : List UInt8} {reason : ε}

def Refuses (decoder : SliceDecoder ε α) (bytes : List UInt8) (reason : ε) : Prop := decoder.parse bytes = .error reason

@[simp] theorem refuses_mapError {change : ε → ε} {decoder : SliceDecoder ε α} :
    (decoder.mapError change).Refuses bytes reason ↔ ∃ other, decoder.Refuses bytes other ∧ change other = reason := by
  simp only [Refuses, mapError]
  cases decoder.parse bytes <;> simp

end SliceDecoder

namespace ByteReader

variable {ε α β : Type} {bytes : List UInt8} {reason short other : ε}

@[simp] theorem refuses_pure {value : α} : ¬(pure value : ByteReader ε α).Refuses bytes reason := nofun

@[simp] theorem refuses_fail : (fail other : ByteReader ε α).Refuses bytes reason ↔ other = reason := by
  rw [Refuses, fail, Except.error.injEq]

@[simp] theorem refuses_bind {first : ByteReader ε β} {next : β → ByteReader ε α} :
    (first >>= next).Refuses bytes reason ↔ first.Refuses bytes reason ∨
      ∃ between middle, first.Reads bytes between middle ∧ (next between).Refuses middle reason := by
  cases parsed : first.parse bytes with
  | error other =>
    have whole : (first >>= next).parse bytes = .error other := Refuses.first parsed
    simp [Refuses, Reads, whole, parsed]
  | ok read =>
    obtain ⟨between, middle⟩ := read
    have whole : (first >>= next).parse bytes = (next between).parse middle := parse_bind parsed
    simp [Refuses, Reads, whole, parsed]

@[simp] theorem refuses_map {first : ByteReader ε β} {change : β → α} :
    (change <$> first).Refuses bytes reason ↔ first.Refuses bytes reason := by
  show (first >>= fun given => pure (change given)).Refuses bytes reason ↔ _
  simp

@[simp] theorem refuses_ite {condition : Prop} [Decidable condition] {yes no : ByteReader ε α} :
    (if condition then yes else no).Refuses bytes reason ↔
      if condition then yes.Refuses bytes reason else no.Refuses bytes reason := by
  split <;> rfl

@[simp] theorem refuses_failIf {condition : Bool} :
    (failIf condition other).Refuses bytes reason ↔ condition = true ∧ other = reason := by
  cases condition <;> simp [failIf]

@[simp] theorem refuses_okOr {option : Option α} :
    (okOr option other).Refuses bytes reason ↔ option = none ∧ other = reason := by
  cases option <;> simp [okOr]

@[simp] theorem refuses_ofExcept {result : Except ε α} :
    (ofExcept result).Refuses bytes reason ↔ result = .error reason := by
  cases result <;> simp [ofExcept]

@[simp] theorem refuses_byte : (byte short).Refuses bytes reason ↔ bytes = [] ∧ short = reason := by
  cases bytes with
  | nil =>
    show Except.error short = Except.error reason ↔ _
    simp
  | cons first rest =>
    show Except.ok (first, rest) = _ ↔ _
    simp

@[simp] theorem refuses_byteUnlessEnd : ¬(byteUnlessEnd : ByteReader ε (Option UInt8)).Refuses bytes reason := by
  cases bytes with
  | nil =>
    intro wrong
    cases wrong
  | cons first rest =>
    intro wrong
    cases wrong

@[simp] theorem refuses_u16 : (u16 short).Refuses bytes reason ↔ bytes.length < 2 ∧ short = reason := by
  match bytes with
  | [] | [_] =>
    show Except.error short = Except.error reason ↔ _
    simp
  | first :: second :: rest =>
    have enough : ¬(first :: second :: rest).length < 2 := Nat.not_lt_of_le (Nat.le_add_left 2 rest.length)
    show Except.ok _ = _ ↔ _
    simp only [reduceCtorEq, enough, false_and]

@[simp] theorem refuses_peek {reader : ByteReader ε α} :
    (peek reader).Refuses bytes reason ↔ reader.Refuses bytes reason := by
  simp only [Refuses, peek]
  cases reader.parse bytes <;> simp

@[simp] theorem refuses_room {n : UInt16} : (room n short).Refuses bytes reason ↔ bytes.length < n.toNat ∧ short = reason := by
  show (if bytes.length < n.toNat then .error short else .ok ((), bytes)) = Except.error reason ↔ _
  split
  · rename_i few
    simp [few]
  · rename_i enough
    simp [enough]

@[simp] theorem refuses_slice {decoder : SliceDecoder ε α} :
    (slice decoder).Refuses bytes reason ↔ decoder.Refuses bytes reason := Iff.rfl

@[simp] theorem refuses_remaining : ¬(remaining : ByteReader ε (List UInt8)).Refuses bytes reason := nofun

@[simp] theorem refuses_atEnd : ¬(atEnd : ByteReader ε Bool).Refuses bytes reason := nofun

@[simp] theorem refuses_finish : (finish other).Refuses bytes reason ↔ bytes ≠ [] ∧ other = reason := by
  simp [finish]

/-- A loop fails as one of its items does. -/
theorem Refuses.of_untilEndParse {item : ByteReader ε α} {consumes : item.Consumes}
    (refuses : untilEndParse item consumes bytes = .error reason) : ∃ part, item.Refuses part reason := by
  induction length : bytes.length using Nat.strongRecOn generalizing bytes with
  | _ n ih =>
    cases bytes with
    | nil =>
      rw [untilEndParse_nil] at refuses
      cases refuses
    | cons first tail =>
      rw [untilEndParse_cons] at refuses
      cases read : item.parse (first :: tail) with
      | error other =>
        rw [read] at refuses
        cases refuses
        exact ⟨first :: tail, read⟩
      | ok result =>
        have shorter := consumes _ _ _ read
        rw [read] at refuses
        cases parsed : untilEndParse item consumes result.2 with
        | error other =>
          simp only [parsed] at refuses
          cases refuses
          exact ih _ (length ▸ shorter) parsed rfl
        | ok values =>
          simp only [parsed] at refuses
          cases refuses

@[simp] theorem refuses_untilEnd {item : ByteReader ε α} {consumes : item.Consumes}
    (items : ∀ part, ¬item.Refuses part reason) : ¬(untilEnd item consumes).Refuses bytes reason := by
  intro refuses
  change (untilEndParse item consumes bytes).map _ = _ at refuses
  cases parsed : untilEndParse item consumes bytes with
  | error other =>
    rw [parsed] at refuses
    cases refuses
    obtain ⟨part, refused⟩ := Refuses.of_untilEndParse parsed
    exact items part refused
  | ok values =>
    rw [parsed] at refuses
    cases refuses

end ByteReader
