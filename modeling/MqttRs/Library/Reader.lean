import MqttRs.Library.BigEndian
import MqttRs.Library.Slice

/-! Decoders that walk a slice with an offset, each carrying the list parser that it amounts to. -/

/-- What a parse of a window ending at `stop` leaves of it, as an offset. -/
def Outcome.upTo {ε α : Type} (stop : Nat) : Except ε (α × List UInt8) → Outcome ε (α × Nat)
  | .ok (value, rest) => .ok (value, stop - rest.length)
  | .error reason => .error reason

theorem List.drop_of_suffix {α : Type} {part whole : List α} (suffix : part <:+ whole) :
    whole.drop (whole.length - part.length) = part := (List.suffix_iff_eq_drop.mp suffix).symm

theorem Except.andThen_eq_ok {ε α β : Type} {first : Except ε (β × List UInt8)}
    {next : β → List UInt8 → Except ε (α × List UInt8)} {read : α × List UInt8} :
    (match first with
      | .ok (between, middle) => next between middle
      | .error reason => .error reason) = .ok read ↔
      ∃ between middle, first = .ok (between, middle) ∧ next between middle = .ok read := by
  cases first with
  | error reason => simp
  | ok result =>
    obtain ⟨between, middle⟩ := result
    simp

/-- A function from a slice to a value and the number of bytes the value took. -/
structure SliceDecoder (ε α : Type) where
  run : List UInt8 → Outcome ε (α × Nat)
  parse : List UInt8 → Except ε (α × List UInt8)
  suffix : ∀ {bytes value rest}, parse bytes = .ok (value, rest) → rest <:+ bytes
  refines : ∀ {bytes}, bytes.length < 2 ^ 32 → run bytes = .upTo bytes.length (parse bytes)

namespace SliceDecoder

variable {ε α β : Type}

def fail (reason : ε) : SliceDecoder ε α where
  run _ := .error reason
  parse _ := .error reason
  suffix read := nomatch read
  refines _ := rfl

def mapError (change : ε → ε) (decoder : SliceDecoder ε α) : SliceDecoder ε α where
  run bytes := (decoder.run bytes).mapError change
  parse bytes :=
    match decoder.parse bytes with
    | .ok result => .ok result
    | .error reason => .error (change reason)
  suffix read := by
    split at read
    · cases read
      exact decoder.suffix (by assumption)
    · cases read
  refines := by
    intro bytes bound
    rw [decoder.refines bound]
    cases decoder.parse bytes <;> rfl

instance : Monad (SliceDecoder ε) where
  pure value :=
    { run := fun _ => .ok (value, 0)
      parse := fun bytes => .ok (value, bytes)
      suffix := by
        intro bytes value rest read
        cases read
        exact List.suffix_refl bytes
      refines := by
        intro bytes _
        show _ = Outcome.ok (value, bytes.length - bytes.length)
        rw [Nat.sub_self] }
  bind first next :=
    { run := fun bytes => do
        let (value, n) ← first.run bytes
        let rest ← Slice.rangeFrom bytes n
        let (value, m) ← (next value).run rest
        let consumed ← Usize.add n m
        .ok (value, consumed)
      parse := fun bytes =>
        match first.parse bytes with
        | .ok (value, rest) => (next value).parse rest
        | .error reason => .error reason
      suffix := by
        intro bytes value rest read
        split at read
        · rename_i middle parsed
          exact ((next _).suffix read).trans (first.suffix parsed)
        · cases read
      refines := by
        intro bytes bound
        rw [first.refines bound]
        cases parsed : first.parse bytes with
        | error reason => rfl
        | ok result =>
          obtain ⟨value, middle⟩ := result
          have middleSuffix := first.suffix parsed
          have middleLength := middleSuffix.length_le
          have sliced : (Slice.rangeFrom bytes (bytes.length - middle.length) : Outcome ε (List UInt8)) = .ok middle := by
            rw [Slice.rangeFrom_of_le (Nat.sub_le _ _), List.drop_of_suffix middleSuffix]
          simp only [Outcome.upTo, Outcome.ok_bind, sliced, (next value).refines (Nat.lt_of_le_of_lt middleLength bound)]
          cases parsedNext : (next value).parse middle with
          | error reason => rfl
          | ok result =>
            obtain ⟨last, rest⟩ := result
            have restLength := ((next value).suffix parsedNext).length_le
            have total : bytes.length - middle.length + (middle.length - rest.length) = bytes.length - rest.length :=
              Nat.sub_add_sub_cancel middleLength restLength
            have fits : bytes.length - middle.length + (middle.length - rest.length) ≤ Usize.max := by
              rw [total]
              exact Usize.fits (Nat.lt_of_le_of_lt (Nat.sub_le _ _) bound)
            simp only [Outcome.ok_bind, Usize.add_of_le fits, total] }

/-- The decoder takes `value` off the front of `bytes` and leaves `rest`. -/
def Reads (decoder : SliceDecoder ε α) (bytes : List UInt8) (value : α) (rest : List UInt8) : Prop :=
  decoder.parse bytes = .ok (value, rest)

variable {bytes rest : List UInt8} {value : α}

@[simp] theorem reads_fail {reason : ε} : ¬(fail reason : SliceDecoder ε α).Reads bytes value rest :=
  fun read => nomatch read

@[simp] theorem reads_mapError {change : ε → ε} {decoder : SliceDecoder ε α} :
    (decoder.mapError change).Reads bytes value rest ↔ decoder.Reads bytes value rest := by
  show (match decoder.parse bytes with
    | .ok result => .ok result
    | .error reason => .error (change reason)) = Except.ok (value, rest) ↔ decoder.parse bytes = .ok (value, rest)
  cases decoder.parse bytes <;> simp

@[simp] theorem reads_pure {given : α} :
    (pure given : SliceDecoder ε α).Reads bytes value rest ↔ given = value ∧ bytes = rest := by
  show Except.ok (given, bytes) = Except.ok (value, rest) ↔ _
  rw [Except.ok.injEq, Prod.mk.injEq]

@[simp] theorem reads_bind {first : SliceDecoder ε β} {next : β → SliceDecoder ε α} :
    (first >>= next).Reads bytes value rest ↔
      ∃ between middle, first.Reads bytes between middle ∧ (next between).Reads middle value rest := by
  exact Except.andThen_eq_ok

@[simp] theorem reads_map {first : SliceDecoder ε β} {change : β → α} :
    (change <$> first).Reads bytes value rest ↔ ∃ given, first.Reads bytes given rest ∧ change given = value := by
  show (first >>= fun given => pure (change given)).Reads bytes value rest ↔ _
  simp only [reads_bind, reads_pure, exists_eq_right_right]

@[simp] theorem reads_ite {condition : Prop} [Decidable condition] {yes no : SliceDecoder ε α} :
    (if condition then yes else no).Reads bytes value rest ↔
      if condition then yes.Reads bytes value rest else no.Reads bytes value rest := by
  split <;> rfl

end SliceDecoder

/-- A function from a buffer, the end of the part it may read and an offset to a value and the offset after it. -/
structure ByteReader (ε α : Type) where
  run : List UInt8 → Nat → Nat → Outcome ε (α × Nat)
  parse : List UInt8 → Except ε (α × List UInt8)
  suffix : ∀ {bytes value rest}, parse bytes = .ok (value, rest) → rest <:+ bytes
  refines : ∀ {buf stop offset}, offset ≤ stop → stop ≤ buf.length → stop < 2 ^ 32 →
    run buf stop offset = .upTo stop (parse ((buf.take stop).drop offset))

namespace ByteReader

variable {ε α β : Type}

theorem length_window {buf : List UInt8} {stop offset : Nat} (inside : stop ≤ buf.length) :
    ((buf.take stop).drop offset).length = stop - offset := by
  rw [List.length_drop, List.length_take, Nat.min_eq_left inside]

theorem window_of_suffix {buf rest : List UInt8} {stop offset : Nat} (inside : stop ≤ buf.length)
    (left : rest <:+ (buf.take stop).drop offset) : (buf.take stop).drop (stop - rest.length) = rest := by
  have whole := List.drop_of_suffix (left.trans (List.drop_suffix offset (buf.take stop)))
  rwa [List.length_take, Nat.min_eq_left inside] at whole

theorem window_cons {buf : List UInt8} {stop offset : Nat} (before : offset < stop) (inside : stop ≤ buf.length) :
    (buf.take stop).drop offset = buf[offset] :: (buf.take stop).drop (offset + 1) := by
  have bound : offset < (buf.take stop).length := by
    rw [List.length_take, Nat.min_eq_left inside]
    exact before
  rw [List.drop_eq_getElem_cons bound, List.getElem_take]

def fail (reason : ε) : ByteReader ε α where
  run _ _ _ := .error reason
  parse _ := .error reason
  suffix read := nomatch read
  refines _ _ _ := rfl

instance : Monad (ByteReader ε) where
  pure value :=
    { run := fun _ _ offset => .ok (value, offset)
      parse := fun bytes => .ok (value, bytes)
      suffix := by
        intro bytes value rest read
        cases read
        exact List.suffix_refl bytes
      refines := by
        intro buf stop offset before inside _
        show _ = Outcome.ok (value, stop - ((buf.take stop).drop offset).length)
        rw [length_window inside, Nat.sub_sub_self before] }
  bind first next :=
    { run := fun buf stop offset => do
        let (value, offset) ← first.run buf stop offset
        (next value).run buf stop offset
      parse := fun bytes =>
        match first.parse bytes with
        | .ok (value, rest) => (next value).parse rest
        | .error reason => .error reason
      suffix := by
        intro bytes value rest read
        split at read
        · rename_i middle parsed
          exact ((next _).suffix read).trans (first.suffix parsed)
        · cases read
      refines := by
        intro buf stop offset before inside bound
        rw [first.refines before inside bound]
        cases parsed : first.parse ((buf.take stop).drop offset) with
        | error reason => rfl
        | ok result =>
          obtain ⟨value, middle⟩ := result
          have window := window_of_suffix inside (first.suffix parsed)
          show (next value).run buf stop (stop - middle.length) = _
          rw [(next value).refines (Nat.sub_le _ _) inside bound, window] }

/-- The reader takes `value` off the front of `bytes` and leaves `rest`. -/
def Reads (reader : ByteReader ε α) (bytes : List UInt8) (value : α) (rest : List UInt8) : Prop :=
  reader.parse bytes = .ok (value, rest)

variable {bytes rest : List UInt8} {value : α}

/-- The reader refuses `bytes` with the given error. -/
def Refuses (reader : ByteReader ε α) (bytes : List UInt8) (reason : ε) : Prop := reader.parse bytes = .error reason

theorem parse_bind {first : ByteReader ε β} {next : β → ByteReader ε α} {between : β} {middle : List UInt8}
    (read : first.Reads bytes between middle) : (first >>= next).parse bytes = (next between).parse middle := by
  show (match first.parse bytes with
    | .ok (between, middle) => (next between).parse middle
    | .error reason => .error reason) = _
  rw [Reads] at read
  rw [read]

theorem Refuses.after {first : ByteReader ε β} {next : β → ByteReader ε α} {between : β} {middle : List UInt8} {reason : ε}
    (read : first.Reads bytes between middle) (refuses : (next between).Refuses middle reason) :
    (first >>= next).Refuses bytes reason := (parse_bind read).trans refuses

theorem Refuses.first {first : ByteReader ε β} {next : β → ByteReader ε α} {reason : ε} (refuses : first.Refuses bytes reason) :
    (first >>= next).Refuses bytes reason := by
  show (match first.parse bytes with
    | .ok (between, middle) => (next between).parse middle
    | .error reason => .error reason) = _
  rw [Refuses] at refuses
  rw [refuses]

@[simp] theorem reads_fail {reason : ε} : ¬(fail reason : ByteReader ε α).Reads bytes value rest :=
  fun read => nomatch read

@[simp] theorem reads_pure {given : α} :
    (pure given : ByteReader ε α).Reads bytes value rest ↔ given = value ∧ bytes = rest := by
  show Except.ok (given, bytes) = Except.ok (value, rest) ↔ _
  rw [Except.ok.injEq, Prod.mk.injEq]

@[simp] theorem reads_bind {first : ByteReader ε β} {next : β → ByteReader ε α} :
    (first >>= next).Reads bytes value rest ↔
      ∃ between middle, first.Reads bytes between middle ∧ (next between).Reads middle value rest := by
  exact Except.andThen_eq_ok

@[simp] theorem reads_map {first : ByteReader ε β} {change : β → α} :
    (change <$> first).Reads bytes value rest ↔ ∃ given, first.Reads bytes given rest ∧ change given = value := by
  show (first >>= fun given => pure (change given)).Reads bytes value rest ↔ _
  simp only [reads_bind, reads_pure, exists_eq_right_right]

@[simp] theorem reads_ite {condition : Prop} [Decidable condition] {yes no : ByteReader ε α} :
    (if condition then yes else no).Reads bytes value rest ↔
      if condition then yes.Reads bytes value rest else no.Reads bytes value rest := by
  split <;> rfl

def failIf (condition : Bool) (reason : ε) : ByteReader ε Unit := if condition then fail reason else pure ()

@[simp] theorem reads_failIf {condition : Bool} {reason : ε} {done : Unit} :
    (failIf condition reason).Reads bytes done rest ↔ condition = false ∧ bytes = rest := by
  cases condition <;> simp [failIf]

def okOr (option : Option α) (reason : ε) : ByteReader ε α :=
  match option with
  | some value => pure value
  | none => fail reason

@[simp] theorem reads_okOr {option : Option α} {reason : ε} :
    (okOr option reason).Reads bytes value rest ↔ option = some value ∧ bytes = rest := by
  cases option <;> simp [okOr]

def ofExcept (result : Except ε α) : ByteReader ε α :=
  match result with
  | .ok value => pure value
  | .error reason => fail reason

@[simp] theorem reads_ofExcept {result : Except ε α} :
    (ofExcept result).Reads bytes value rest ↔ result = .ok value ∧ bytes = rest := by
  cases result <;> simp [ofExcept]

/-- `if offset >= end { return Err(short) }`, then `buf[offset]` and `offset += 1` -/
def byte (short : ε) : ByteReader ε UInt8 where
  run buf stop offset :=
    if stop ≤ offset then .error short
    else do
      let value ← Slice.index buf offset
      let offset ← Usize.add offset 1
      .ok (value, offset)
  parse
    | [] => .error short
    | value :: rest => .ok (value, rest)
  suffix {bytes value rest} read := by
    cases bytes with
    | nil => cases read
    | cons first tail =>
      cases read
      exact List.suffix_cons _ _
  refines {buf stop offset} before inside bound := by
    split
    · rename_i ended
      obtain rfl := Nat.le_antisymm before ended
      have empty : (buf.take offset).drop offset = [] := List.drop_eq_nil_of_le (List.length_take_le _ _)
      rw [empty]
      rfl
    · rename_i more
      have below : offset < stop := Nat.lt_of_not_le more
      have fits : offset + 1 ≤ Usize.max := Usize.fits (Nat.lt_of_le_of_lt below bound)
      rw [Slice.index_of_lt (Nat.lt_of_lt_of_le below inside), Usize.add_of_le fits, window_cons below inside]
      show _ = Outcome.ok (buf[offset], stop - ((buf.take stop).drop (offset + 1)).length)
      rw [length_window inside, Nat.sub_sub_self below]
      rfl

@[simp] theorem reads_byte {short : ε} {value : UInt8} :
    (byte short).Reads bytes value rest ↔ bytes = value :: rest := by
  cases bytes with
  | nil => exact ⟨(nomatch ·), (nomatch ·)⟩
  | cons first tail =>
    show Except.ok (first, tail) = Except.ok (value, rest) ↔ _
    rw [Except.ok.injEq, Prod.mk.injEq, List.cons.injEq]

/-- `if offset == end { None } else { Some(buf[offset]) }`, where the index has no check of its own -/
def byteUnlessEnd : ByteReader ε (Option UInt8) where
  run buf stop offset :=
    if stop ≤ offset then .ok (none, offset)
    else do
      let value ← Slice.index buf offset
      let offset ← Usize.add offset 1
      .ok (some value, offset)
  parse
    | [] => .ok (none, [])
    | value :: rest => .ok (some value, rest)
  suffix {bytes value rest} read := by
    cases bytes with
    | nil =>
      cases read
      exact List.suffix_refl _
    | cons first tail =>
      cases read
      exact List.suffix_cons _ _
  refines {buf stop offset} before inside bound := by
    split
    · rename_i ended
      obtain rfl := Nat.le_antisymm before ended
      have empty : (buf.take offset).drop offset = [] := List.drop_eq_nil_of_le (List.length_take_le _ _)
      rw [empty]
      rfl
    · rename_i more
      have below : offset < stop := Nat.lt_of_not_le more
      have fits : offset + 1 ≤ Usize.max := Usize.fits (Nat.lt_of_le_of_lt below bound)
      rw [Slice.index_of_lt (Nat.lt_of_lt_of_le below inside), Usize.add_of_le fits, window_cons below inside]
      show _ = Outcome.ok (some buf[offset], stop - ((buf.take stop).drop (offset + 1)).length)
      rw [length_window inside, Nat.sub_sub_self below]
      rfl

@[simp] theorem reads_byteUnlessEnd {value : Option UInt8} :
    (byteUnlessEnd : ByteReader ε (Option UInt8)).Reads bytes value rest ↔
      value = none ∧ bytes = [] ∧ rest = [] ∨ ∃ first, value = some first ∧ bytes = first :: rest := by
  cases bytes with
  | nil =>
    show Except.ok (none, []) = Except.ok (value, rest) ↔ _
    simp [eq_comm]
  | cons first tail =>
    show Except.ok (some first, tail) = Except.ok (value, rest) ↔ _
    simp [eq_comm]

/-- `if offset + 2 > end { return Err(short) }`, then the word at `buf[offset]` and `offset += 2` -/
def u16 (short : ε) : ByteReader ε UInt16 where
  run buf stop offset := do
    let after ← Usize.add offset 2
    if stop < after then .error short
    else do
      let high ← Slice.index buf offset
      let second ← Usize.add offset 1
      let low ← Slice.index buf second
      let offset ← Usize.add offset 2
      .ok (UInt16.fromBeBytes high low, offset)
  parse
    | high :: low :: rest => .ok (UInt16.fromBeBytes high low, rest)
    | _ => .error short
  suffix {bytes value rest} read := by
    split at read
    · cases read
      exact (List.suffix_cons _ _).trans (List.suffix_cons _ _)
    · cases read
  refines {buf stop offset} before inside bound := by
    have small := Nat.lt_of_le_of_lt before bound
    rw [Usize.add_of_le (Usize.sum_fits small (by decide)), Usize.add_of_le (Usize.sum_fits small (by decide)),
      Outcome.ok_bind]
    split
    · rename_i short
      have length : ((buf.take stop).drop offset).length < 2 := by
        rw [length_window inside]
        exact Nat.sub_lt_left_of_lt_add before short
      match (buf.take stop).drop offset, length with
      | [], _ => rfl
      | [_], _ => rfl
    · rename_i room
      have secondInside : offset + 1 < stop := Nat.le_of_not_lt room
      have firstInside : offset < stop := Nat.lt_of_succ_lt secondInside
      rw [Slice.index_of_lt (Nat.lt_of_lt_of_le firstInside inside), window_cons firstInside inside,
        window_cons secondInside inside]
      simp only [Outcome.ok_bind, Slice.index_of_lt (Nat.lt_of_lt_of_le secondInside inside)]
      show _ = Outcome.ok (UInt16.fromBeBytes buf[offset] buf[offset + 1], stop - ((buf.take stop).drop (offset + 2)).length)
      rw [length_window inside, Nat.sub_sub_self (Nat.le_of_not_lt room)]

@[simp] theorem reads_u16 {short : ε} {value : UInt16} :
    (u16 short).Reads bytes value rest ↔ bytes = value.toBeBytes ++ rest := by
  match bytes with
  | [] => exact ⟨(nomatch ·), (nomatch ·)⟩
  | [_] => exact ⟨(nomatch ·), (nomatch ·)⟩
  | high :: low :: tail =>
    show Except.ok (UInt16.fromBeBytes high low, tail) = Except.ok (value, rest) ↔ [high, low] ++ tail = _
    rw [Except.ok.injEq, Prod.mk.injEq, UInt16.fromBeBytes_eq_iff]
    constructor
    · intro both
      rw [both.1, both.2]
    · intro same
      exact List.append_inj same rfl

/-- A look at what comes next, without moving the offset. -/
def peek (reader : ByteReader ε α) : ByteReader ε α where
  run buf stop offset := do
    let (value, _) ← reader.run buf stop offset
    .ok (value, offset)
  parse bytes :=
    match reader.parse bytes with
    | .ok (value, _) => .ok (value, bytes)
    | .error reason => .error reason
  suffix {bytes value rest} read := by
    split at read
    · cases read
      exact List.suffix_refl _
    · cases read
  refines {buf stop offset} before inside bound := by
    rw [reader.refines before inside bound]
    cases reader.parse ((buf.take stop).drop offset) with
    | error reason => rfl
    | ok result =>
      show Outcome.ok (_, offset) = Outcome.ok (_, stop - ((buf.take stop).drop offset).length)
      rw [length_window inside, Nat.sub_sub_self before]

@[simp] theorem reads_peek {reader : ByteReader ε α} :
    (peek reader).Reads bytes value rest ↔ bytes = rest ∧ ∃ left, reader.Reads bytes value left := by
  simp only [Reads]
  show (match reader.parse bytes with
    | .ok (value, _) => .ok (value, bytes)
    | .error reason => .error reason) = Except.ok (value, rest) ↔ _
  cases reader.parse bytes with
  | error reason => simp
  | ok result =>
    obtain ⟨given, left⟩ := result
    simp [and_comm]

def room (n : UInt16) (short : ε) : ByteReader ε Unit where
  run _ stop offset := do
    let after ← Usize.add offset n.toNat
    if stop < after then .error short else .ok ((), offset)
  parse bytes := if bytes.length < n.toNat then .error short else .ok ((), bytes)
  suffix {bytes value rest} read := by
    split at read
    · cases read
    · cases read
      exact List.suffix_refl _
  refines {buf stop offset} before inside bound := by
    have fits : offset + n.toNat ≤ Usize.max :=
      Usize.sum_fits (Nat.lt_of_le_of_lt before bound) (Nat.lt_trans n.toNat_lt (by decide))
    rw [Usize.add_of_le fits, Outcome.ok_bind, length_window inside]
    split
    · rename_i few
      rw [if_pos (Nat.sub_lt_left_of_lt_add before few)]
      rfl
    · rename_i enough
      have left : n.toNat ≤ stop - offset := Nat.le_sub_of_add_le' (Nat.le_of_not_lt enough)
      rw [if_neg (Nat.not_lt_of_le left), Outcome.upTo, length_window inside, Nat.sub_sub_self before]

@[simp] theorem reads_room {n : UInt16} {short : ε} {done : Unit} :
    (room n short).Reads bytes done rest ↔ n.toNat ≤ bytes.length ∧ bytes = rest := by
  show (if bytes.length < n.toNat then .error short else .ok ((), bytes)) = Except.ok (done, rest) ↔ _
  split
  · rename_i few
    exact ⟨(nomatch ·), fun both => absurd both.1 (Nat.not_le_of_lt few)⟩
  · rename_i enough
    simp [Nat.le_of_not_lt enough]

def slice (decoder : SliceDecoder ε α) : ByteReader ε α where
  run buf stop offset := do
    let part ← Slice.range buf offset stop
    let (value, n) ← decoder.run part
    let offset ← Usize.add offset n
    .ok (value, offset)
  parse := decoder.parse
  suffix := decoder.suffix
  refines {buf stop offset} before inside bound := by
    have partLength : ((buf.take stop).drop offset).length = stop - offset := length_window inside
    have partBound : ((buf.take stop).drop offset).length < 2 ^ 32 := by
      rw [partLength]
      exact Nat.lt_of_le_of_lt (Nat.sub_le _ _) bound
    rw [Slice.range_of_le before inside, Outcome.ok_bind, decoder.refines partBound]
    cases parsed : decoder.parse ((buf.take stop).drop offset) with
    | error reason => rfl
    | ok result =>
      obtain ⟨value, rest⟩ := result
      have restLength := (decoder.suffix parsed).length_le
      have total : offset + (((buf.take stop).drop offset).length - rest.length) = stop - rest.length := by
        rw [← Nat.add_sub_assoc restLength, partLength, Nat.add_sub_cancel' before]
      have fits : offset + (((buf.take stop).drop offset).length - rest.length) ≤ Usize.max := by
        rw [total]
        exact Usize.fits (Nat.lt_of_le_of_lt (Nat.sub_le _ _) bound)
      simp only [Outcome.upTo, Outcome.ok_bind, Usize.add_of_le fits, total]

@[simp] theorem reads_slice {decoder : SliceDecoder ε α} :
    (slice decoder).Reads bytes value rest ↔ decoder.Reads bytes value rest := Iff.rfl

def remaining : ByteReader ε (List UInt8) where
  run buf stop offset := do
    let part ← Slice.range buf offset stop
    .ok (part, stop)
  parse bytes := .ok (bytes, [])
  suffix read := by
    cases read
    exact List.nil_suffix
  refines before inside _ := by
    rw [Slice.range_of_le before inside]
    rfl

@[simp] theorem reads_remaining {value : List UInt8} :
    (remaining : ByteReader ε (List UInt8)).Reads bytes value rest ↔ bytes = value ∧ rest = [] := by
  show Except.ok (bytes, []) = Except.ok (value, rest) ↔ _
  rw [Except.ok.injEq, Prod.mk.injEq, @eq_comm _ rest]

def atEnd : ByteReader ε Bool where
  run _ stop offset := .ok (decide (stop ≤ offset), offset)
  parse bytes := .ok (bytes.isEmpty, bytes)
  suffix read := by
    cases read
    exact List.suffix_refl _
  refines {buf stop offset} before inside _ := by
    have length : ((buf.take stop).drop offset).length = stop - offset := length_window inside
    have same : ((buf.take stop).drop offset).isEmpty = decide (stop ≤ offset) := by
      rw [Bool.eq_iff_iff, List.isEmpty_iff, ← List.length_eq_zero_iff, length, decide_eq_true_eq]
      exact Nat.sub_eq_zero_iff_le
    show _ = Outcome.ok (_, stop - ((buf.take stop).drop offset).length)
    rw [same, length, Nat.sub_sub_self before]

@[simp] theorem reads_atEnd {answer : Bool} :
    (atEnd : ByteReader ε Bool).Reads bytes answer rest ↔ bytes.isEmpty = answer ∧ bytes = rest := by
  show Except.ok (bytes.isEmpty, bytes) = Except.ok (answer, rest) ↔ _
  rw [Except.ok.injEq, Prod.mk.injEq]

def finish (reason : ε) : ByteReader ε Unit := do
  let ended ← atEnd
  failIf (!ended) reason

@[simp] theorem reads_finish {reason : ε} {done : Unit} :
    (finish reason).Reads bytes done rest ↔ bytes = [] ∧ rest = [] := by
  simp only [finish, reads_bind, reads_atEnd, reads_failIf, Bool.not_eq_eq_eq_not, Bool.not_false]
  constructor
  · intro read
    obtain ⟨_, _, ⟨rfl, rfl⟩, empty, rfl⟩ := read
    exact ⟨List.isEmpty_iff.mp empty, List.isEmpty_iff.mp empty⟩
  · intro both
    obtain ⟨rfl, rfl⟩ := both
    exact ⟨true, [], ⟨rfl, rfl⟩, rfl, rfl⟩

def Consumes (item : ByteReader ε α) : Prop :=
  ∀ bytes value rest, item.Reads bytes value rest → rest.length < bytes.length

/-- `while offset < end { values.push(item) }` with a bound on the number of turns. -/
def untilEndRun (item : ByteReader ε α) : Nat → List UInt8 → Nat → Nat → Outcome ε (List α × Nat)
  | turns, buf, stop, offset =>
    if stop ≤ offset then .ok ([], offset)
    else
      match turns with
      | 0 => .hang
      | turns + 1 => do
        let (value, offset) ← item.run buf stop offset
        let (values, offset) ← untilEndRun item turns buf stop offset
        .ok (value :: values, offset)

def untilEndParse (item : ByteReader ε α) (consumes : item.Consumes) (bytes : List UInt8) : Except ε (List α) :=
  match bytes with
  | [] => .ok []
  | first :: tail =>
    match _read : item.parse (first :: tail) with
    | .error reason => .error reason
    | .ok (value, rest) =>
      match untilEndParse item consumes rest with
      | .error reason => .error reason
      | .ok values => .ok (value :: values)
termination_by bytes.length
decreasing_by exact consumes _ _ _ _read

theorem untilEndParse_nil (item : ByteReader ε α) (consumes : item.Consumes) :
    untilEndParse item consumes [] = .ok [] := by
  rw [untilEndParse.eq_def]

theorem untilEndParse_cons (item : ByteReader ε α) (consumes : item.Consumes) (first : UInt8) (tail : List UInt8) :
    untilEndParse item consumes (first :: tail) =
      match item.parse (first :: tail) with
      | .error reason => .error reason
      | .ok (value, rest) => (untilEndParse item consumes rest).map (value :: ·) := by
  rw [untilEndParse.eq_def]
  split
  · rename_i same
    cases same
  · rename_i same
    cases same
    split
    · rename_i read
      rw [read]
    · rename_i read
      rw [read]
      show _ = (untilEndParse item consumes _).map _
      split <;> rename_i same <;> rw [same] <;> rfl

theorem untilEndRun_eq {item : ByteReader ε α} (consumes : item.Consumes) {buf : List UInt8} {stop turns offset : Nat}
    (before : offset ≤ stop) (inside : stop ≤ buf.length) (bound : stop < 2 ^ 32) (enough : stop - offset ≤ turns) :
    untilEndRun item turns buf stop offset =
      .upTo stop ((untilEndParse item consumes ((buf.take stop).drop offset)).map (·, [])) := by
  induction turns generalizing offset with
  | zero =>
    obtain rfl : offset = stop := by omega
    have empty : (buf.take offset).drop offset = [] := List.drop_eq_nil_of_le (List.length_take_le _ _)
    rw [untilEndRun, if_pos (Nat.le_refl _), empty, untilEndParse_nil]
    rfl
  | succ turns ih =>
    rw [untilEndRun]
    split
    · rename_i ended
      obtain rfl := Nat.le_antisymm before ended
      have empty : (buf.take offset).drop offset = [] := List.drop_eq_nil_of_le (List.length_take_le _ _)
      rw [empty, untilEndParse_nil]
      rfl
    · rename_i more
      have below : offset < stop := Nat.lt_of_not_le more
      have window : ((buf.take stop).drop offset).length = stop - offset := length_window inside
      have split := untilEndParse_cons item consumes buf[offset] ((buf.take stop).drop (offset + 1))
      rw [← window_cons below inside] at split
      rw [item.refines before inside bound, split]
      cases read : item.parse ((buf.take stop).drop offset) with
      | error reason => rfl
      | ok result =>
        obtain ⟨value, rest⟩ := result
        have shorter := consumes _ _ _ read
        have turn := @ih (stop - rest.length) (Nat.sub_le _ _) (by omega)
        rw [window_of_suffix inside (item.suffix read)] at turn
        simp only [Outcome.upTo, Outcome.ok_bind, turn]
        cases untilEndParse item consumes rest <;> rfl

def untilEnd (item : ByteReader ε α) (consumes : item.Consumes) : ByteReader ε (List α) where
  run buf stop offset := untilEndRun item (stop - offset) buf stop offset
  parse bytes := (untilEndParse item consumes bytes).map (·, [])
  suffix {bytes values rest} read := by
    cases parsed : untilEndParse item consumes bytes with
    | error reason =>
      rw [parsed] at read
      cases read
    | ok given =>
      rw [parsed] at read
      cases read
      exact List.nil_suffix
  refines before inside bound := untilEndRun_eq consumes before inside bound (Nat.le_refl _)

def ReadsAll (item : ByteReader ε α) : List UInt8 → List α → Prop
  | bytes, [] => bytes = []
  | bytes, value :: values => ∃ rest, item.Reads bytes value rest ∧ ReadsAll item rest values

theorem readsAll_iff {item : ByteReader ε α} (consumes : item.Consumes) {values : List α} :
    untilEndParse item consumes bytes = .ok values ↔ item.ReadsAll bytes values := by
  induction values generalizing bytes with
  | nil =>
    rw [ReadsAll]
    cases bytes with
    | nil => simp [untilEndParse_nil]
    | cons first tail =>
      rw [untilEndParse_cons]
      cases item.parse (first :: tail) with
      | error reason => simp
      | ok result =>
        show (untilEndParse item consumes result.2).map _ = _ ↔ _
        cases untilEndParse item consumes result.2 <;> simp [Except.map]
  | cons value values ih =>
    rw [ReadsAll]
    cases bytes with
    | nil =>
      constructor
      · intro parsed
        rw [untilEndParse_nil] at parsed
        cases parsed
      · intro parsed
        obtain ⟨rest, read, _⟩ := parsed
        exact absurd (consumes _ _ _ read) (Nat.not_lt_zero _)
    | cons first tail =>
      rw [untilEndParse_cons]
      simp only [Reads]
      cases item.parse (first :: tail) with
      | error reason => simp
      | ok result =>
        obtain ⟨given, middle⟩ := result
        simp only [Except.ok.injEq, Prod.mk.injEq]
        constructor
        · intro parsed
          cases tailParsed : untilEndParse item consumes middle with
          | error reason =>
            rw [tailParsed] at parsed
            cases parsed
          | ok more =>
            rw [tailParsed] at parsed
            cases parsed
            exact ⟨middle, ⟨rfl, rfl⟩, ih.mp tailParsed⟩
        · intro parsed
          obtain ⟨_, ⟨rfl, rfl⟩, more⟩ := parsed
          rw [ih.mpr more]
          rfl

@[simp] theorem reads_untilEnd {item : ByteReader ε α} {consumes : item.Consumes} {values : List α} :
    (untilEnd item consumes).Reads bytes values rest ↔ item.ReadsAll bytes values ∧ rest = [] := by
  rw [← readsAll_iff consumes]
  show (untilEndParse item consumes bytes).map (·, []) = Except.ok (values, rest) ↔ _
  cases untilEndParse item consumes bytes with
  | error reason => exact ⟨(nomatch ·), (nomatch ·.1)⟩
  | ok given =>
    show Except.ok (given, []) = Except.ok (values, rest) ↔ _
    rw [Except.ok.injEq, Prod.mk.injEq, Except.ok.injEq, @eq_comm _ rest]

end ByteReader
