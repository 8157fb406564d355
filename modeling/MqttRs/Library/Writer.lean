import MqttRs.Library.Slice

/-! Encoders that fill a buffer, each carrying the bytes that it amounts to. -/

/-- The buffer and the offset after `bytes` have gone in at `offset`. -/
def Outcome.written {ε : Type} (buf : List UInt8) (offset : Nat) :
    Except ε (List UInt8) → Outcome ε (List UInt8 × Nat)
  | .ok bytes => .ok (buf.take offset ++ bytes ++ buf.drop (offset + bytes.length), offset + bytes.length)
  | .error reason => .error reason

theorem Outcome.written_append {ε : Type} {buf front back : List UInt8} {offset : Nat}
    (room : offset + front.length ≤ buf.length) :
    (Outcome.written (buf.take offset ++ front ++ buf.drop (offset + front.length)) (offset + front.length) (.ok back) :
      Outcome ε (List UInt8 × Nat)) = .written buf offset (.ok (front ++ back)) := by
  have start : (buf.take offset ++ front).length = offset + front.length := by
    rw [List.length_append, List.length_take_of_le (by omega)]
  have kept : (buf.take offset ++ front ++ buf.drop (offset + front.length)).take (offset + front.length) =
      buf.take offset ++ front := List.take_left' start
  have untouched : (buf.take offset ++ front ++ buf.drop (offset + front.length)).drop
      (offset + front.length + back.length) = buf.drop (offset + (front.length + back.length)) := by
    rw [← List.drop_drop, List.drop_left' start, List.drop_drop, Nat.add_assoc]
  show Outcome.ok _ = Outcome.ok _
  rw [kept, untouched, List.append_assoc (buf.take offset), List.length_append, Nat.add_assoc]

/-- A function that writes to the front of a slice and returns the number of bytes written. -/
structure SliceEncoder (ε : Type) where
  run : List UInt8 → Outcome ε (List UInt8 × Nat)
  bytes : Except ε (List UInt8)
  size : Nat
  length_bytes : ∀ {written}, bytes = .ok written → written.length = size
  refines : ∀ {buf}, size ≤ buf.length → size < 2 ^ 32 → run buf = .written buf 0 bytes

/-- A function that writes at an offset of a buffer and moves the offset behind what it wrote. -/
structure ByteWriter (ε : Type) where
  run : List UInt8 → Nat → Outcome ε (List UInt8 × Nat)
  bytes : Except ε (List UInt8)
  size : Nat
  length_bytes : ∀ {written}, bytes = .ok written → written.length = size
  refines : ∀ {buf offset}, offset + size ≤ buf.length → offset + size < 2 ^ 32 →
    run buf offset = .written buf offset bytes

namespace ByteWriter

variable {ε α : Type}

theorem length_of_ok {values written : List UInt8} (same : (.ok values : Except ε (List UInt8)) = .ok written) :
    written.length = values.length := by
  cases same
  rfl

def nothing : ByteWriter ε where
  run buf offset := .ok (buf, offset)
  bytes := .ok []
  size := 0
  length_bytes := length_of_ok
  refines {buf offset} _ _ := by
    show _ = Outcome.ok (buf.take offset ++ [] ++ buf.drop offset, offset)
    rw [List.append_nil, List.take_append_drop]

def fail (reason : ε) : ByteWriter ε where
  run _ _ := .error reason
  bytes := .error reason
  size := 0
  length_bytes written := nomatch written
  refines _ _ := rfl

def byte (value : UInt8) : ByteWriter ε where
  run buf offset := do
    let buf ← Slice.set buf offset value
    let offset ← Usize.add offset 1
    .ok (buf, offset)
  bytes := .ok [value]
  size := 1
  length_bytes := length_of_ok
  refines {buf offset} room bound := by
    rw [Slice.set_of_lt room, Usize.add_of_le (Usize.fits bound)]
    rfl

/-- `buf[offset..offset + values.len()].copy_from_slice(values)`, then `offset += values.len()` -/
def copy (values : List UInt8) : ByteWriter ε where
  run buf offset := do
    let after ← Usize.add offset values.length
    let buf ← Slice.copyFrom buf offset values
    .ok (buf, after)
  bytes := .ok values
  size := values.length
  length_bytes := length_of_ok
  refines {buf offset} room bound := by
    rw [Slice.copyFrom_of_le room, Usize.add_of_le (Usize.fits bound)]
    rfl

def slice (encoder : SliceEncoder ε) : ByteWriter ε where
  run buf offset := do
    let part ← Slice.rangeFrom buf offset
    let (part, n) ← encoder.run part
    let after ← Usize.add offset n
    .ok (buf.take offset ++ part, after)
  bytes := encoder.bytes
  size := encoder.size
  length_bytes := encoder.length_bytes
  refines {buf offset} room bound := by
    have partRoom : encoder.size ≤ (buf.drop offset).length := by
      rw [List.length_drop]
      exact Nat.le_sub_of_add_le' room
    have partBound : encoder.size < 2 ^ 32 := Nat.lt_of_le_of_lt (Nat.le_add_left _ _) bound
    rw [Slice.rangeFrom_of_le (Nat.le_of_add_right_le room), Outcome.ok_bind, encoder.refines partRoom partBound]
    cases written : encoder.bytes with
    | error reason => rfl
    | ok bytes =>
      have length := encoder.length_bytes written
      have fits : offset + bytes.length ≤ Usize.max := by
        rw [length]
        exact Usize.fits bound
      simp [Outcome.written, Usize.add_of_le fits, List.drop_drop]

theorem run_both {first second : ByteWriter ε} {buf : List UInt8} {offset : Nat}
    (room : offset + (first.size + second.size) ≤ buf.length) (bound : offset + (first.size + second.size) < 2 ^ 32) :
    (do
      let (buf, offset) ← first.run buf offset
      second.run buf offset) =
    Outcome.written buf offset (do
      let front ← first.bytes
      let back ← second.bytes
      .ok (front ++ back)) := by
  rw [first.refines (by omega) (by omega)]
  cases front : first.bytes with
  | error reason => rfl
  | ok frontBytes =>
    have frontLength := first.length_bytes front
    have whole : (buf.take offset ++ frontBytes ++ buf.drop (offset + frontBytes.length)).length = buf.length := by
      rw [List.length_append, List.length_append, List.length_take_of_le (by omega), List.length_drop]
      omega
    simp only [Outcome.written, Outcome.ok_bind]
    rw [second.refines (by omega) (by omega)]
    cases back : second.bytes with
    | error reason => rfl
    | ok backBytes => exact Outcome.written_append (by omega)

instance : Append (ByteWriter ε) where
  append first second :=
    { run := fun buf offset => do
        let (buf, offset) ← first.run buf offset
        second.run buf offset
      bytes := do
        let front ← first.bytes
        let back ← second.bytes
        .ok (front ++ back)
      size := first.size + second.size
      length_bytes := by
        intro written both
        cases front : first.bytes with
        | error reason =>
          rw [front] at both
          cases both
        | ok frontBytes =>
          cases back : second.bytes with
          | error reason =>
            rw [front, back] at both
            cases both
          | ok backBytes =>
            rw [front, back] at both
            cases both
            rw [List.length_append, first.length_bytes front, second.length_bytes back]
      refines := run_both }

def each (item : α → ByteWriter ε) : List α → ByteWriter ε
  | [] => nothing
  | value :: values => item value ++ each item values

def ifSome (item : α → ByteWriter ε) : Option α → ByteWriter ε
  | none => nothing
  | some value => item value

/-- The bytes that go in are `written`. -/
def Writes (writer : ByteWriter ε) (written : List UInt8) : Prop := writer.bytes = .ok written

variable {written : List UInt8}

@[simp] theorem writes_nothing : (nothing : ByteWriter ε).Writes written ↔ written = [] := by
  rw [Writes, nothing, Except.ok.injEq, eq_comm]

@[simp] theorem writes_fail {reason : ε} : ¬(fail reason).Writes written := fun writes => nomatch writes

@[simp] theorem writes_byte {value : UInt8} : (byte value : ByteWriter ε).Writes written ↔ written = [value] := by
  rw [Writes, byte, Except.ok.injEq, eq_comm]

@[simp] theorem writes_copy {values : List UInt8} : (copy values : ByteWriter ε).Writes written ↔ written = values := by
  rw [Writes, copy, Except.ok.injEq, eq_comm]

@[simp] theorem writes_append {first second : ByteWriter ε} :
    (first ++ second).Writes written ↔ ∃ front back, first.Writes front ∧ second.Writes back ∧ written = front ++ back := by
  show (do
    let front ← first.bytes
    let back ← second.bytes
    .ok (front ++ back)) = Except.ok written ↔ ∃ front back, first.bytes = _ ∧ second.bytes = _ ∧ _
  cases first.bytes with
  | error reason => exact ⟨(nomatch ·), fun ⟨_, _, wrong, _⟩ => nomatch wrong⟩
  | ok front =>
    cases second.bytes with
    | error reason => exact ⟨(nomatch ·), fun ⟨_, _, _, wrong, _⟩ => nomatch wrong⟩
    | ok back =>
      show Except.ok (front ++ back) = Except.ok written ↔ _
      simp [eq_comm]

def Writable (writer : ByteWriter ε) : Prop := ∃ written, writer.Writes written

theorem writes_unique {writer : ByteWriter ε} {other : List UInt8} (writes : writer.Writes written)
    (otherWrites : writer.Writes other) : written = other := by
  have same := writes.symm.trans otherWrites
  exact Except.ok.inj same

theorem writable_append {first second : ByteWriter ε} :
    (first ++ second).Writable ↔ first.Writable ∧ second.Writable := by
  constructor
  · intro both
    obtain ⟨_, writes⟩ := both
    obtain ⟨front, back, frontWrites, backWrites, _⟩ := writes_append.mp writes
    exact ⟨⟨front, frontWrites⟩, ⟨back, backWrites⟩⟩
  · intro both
    obtain ⟨⟨front, frontWrites⟩, ⟨back, backWrites⟩⟩ := both
    exact ⟨front ++ back, writes_append.mpr ⟨front, back, frontWrites, backWrites, rfl⟩⟩

theorem writable_each {item : α → ByteWriter ε} {values : List α} :
    (each item values).Writable ↔ ∀ value ∈ values, (item value).Writable := by
  induction values with
  | nil =>
    constructor
    · intro _ value member
      cases member
    · intro _
      exact ⟨[], rfl⟩
  | cons value values ih =>
    rw [each, writable_append, ih, List.forall_mem_cons]

theorem writable_ifSome {item : α → ByteWriter ε} {option : Option α} :
    (ifSome item option).Writable ↔ ∀ value ∈ option, (item value).Writable := by
  cases option with
  | none =>
    constructor
    · intro _ value member
      cases member
    · intro _
      exact ⟨[], rfl⟩
  | some value => simp [ifSome]

@[simp] theorem size_nothing : (nothing : ByteWriter ε).size = 0 := rfl

@[simp] theorem size_byte (value : UInt8) : (byte value : ByteWriter ε).size = 1 := rfl

@[simp] theorem size_copy (values : List UInt8) : (copy values : ByteWriter ε).size = values.length := rfl

@[simp] theorem size_slice (encoder : SliceEncoder ε) : (slice encoder).size = encoder.size := rfl

@[simp] theorem size_append (first second : ByteWriter ε) : (first ++ second).size = first.size + second.size := rfl

end ByteWriter

namespace SliceEncoder

variable {ε : Type} {written : List UInt8}

def Writes (encoder : SliceEncoder ε) (written : List UInt8) : Prop := encoder.bytes = .ok written

theorem run_followedBy {first : SliceEncoder ε} {second : ByteWriter ε} {buf : List UInt8}
    (room : first.size + second.size ≤ buf.length) (bound : first.size + second.size < 2 ^ 32) :
    (do
      let (buf, offset) ← first.run buf
      second.run buf offset) = Outcome.written buf 0 (ByteWriter.slice first ++ second).bytes := by
  have atStart : first.run buf = (ByteWriter.slice first).run buf 0 := by
    rw [first.refines (by omega) (by omega)]
    exact ((ByteWriter.slice first).refines (by rw [ByteWriter.size_slice]; omega) (by rw [ByteWriter.size_slice]; omega)).symm
  rw [atStart]
  exact (ByteWriter.slice first ++ second).refines (by rw [ByteWriter.size_append, ByteWriter.size_slice]; omega)
    (by rw [ByteWriter.size_append, ByteWriter.size_slice]; omega)

/-- `let mut offset = first(buf)?`, then a writer at that offset -/
def followedBy (first : SliceEncoder ε) (second : ByteWriter ε) : SliceEncoder ε where
  run buf := do
    let (buf, offset) ← first.run buf
    second.run buf offset
  bytes := (ByteWriter.slice first ++ second).bytes
  size := first.size + second.size
  length_bytes := (ByteWriter.slice first ++ second).length_bytes
  refines := run_followedBy

@[simp] theorem size_followedBy (first : SliceEncoder ε) (second : ByteWriter ε) :
    (first.followedBy second).size = first.size + second.size := rfl

end SliceEncoder

@[simp] theorem ByteWriter.writes_slice {ε : Type} {encoder : SliceEncoder ε} {written : List UInt8} :
    (ByteWriter.slice encoder).Writes written ↔ encoder.Writes written := Iff.rfl

@[simp] theorem SliceEncoder.writes_followedBy {ε : Type} {first : SliceEncoder ε} {second : ByteWriter ε}
    {written : List UInt8} :
    (first.followedBy second).Writes written ↔
      ∃ front back, first.Writes front ∧ second.Writes back ∧ written = front ++ back := ByteWriter.writes_append
