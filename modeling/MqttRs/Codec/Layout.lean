import MqttRs.Codec.Frame

/-! How the packets of all types are laid out, and the choice between their decoders. -/

namespace MqttRs

variable {α β κ : Type}

/-- `match buf[0] & 0xF0 { ... }` over the decoders of the packet types -/
def dispatch (byType : UInt8 → List UInt8 → Outcome DecodeError α) (buf : List UInt8) : Outcome DecodeError α :=
  if buf.isEmpty then .error .insufficientData
  else do
    let first ← Slice.index buf 0
    byType (first &&& 0xF0) buf

def OfType (packetType : UInt8) (buf : List UInt8) : Prop :=
  ∃ first rest, buf = first :: rest ∧ first &&& 0xF0 = packetType

theorem dispatch_of_type {byType : UInt8 → List UInt8 → Outcome DecodeError α} {packetType : UInt8} {buf : List UInt8}
    (ofType : OfType packetType buf) : dispatch byType buf = byType packetType buf := by
  obtain ⟨first, rest, rfl, rfl⟩ := ofType
  rw [dispatch, Slice.index_zero_cons]
  rfl

theorem dispatch_refused {byType : UInt8 → List UInt8 → Outcome DecodeError (β × Nat)} {tag : α → β} {packetType : UInt8}
    {buf : List UInt8} {given : Outcome DecodeError (α × Nat)} {reason : DecodeError} (ofType : OfType packetType buf)
    (chosen : byType packetType buf = given.tagged tag) (refused : given = .error reason) :
    dispatch byType buf = .error reason := by
  rw [dispatch_of_type ofType, chosen, refused]
  rfl

theorem dispatch_eq_ok {byType : UInt8 → List UInt8 → Outcome DecodeError α} {buf : List UInt8} {value : α}
    (decoded : dispatch byType buf = .ok value) : ∃ packetType, OfType packetType buf ∧ byType packetType buf = .ok value := by
  cases buf with
  | nil => cases decoded
  | cons first rest =>
    have ofType : OfType (first &&& 0xF0) (first :: rest) := ⟨first, rest, rfl, rfl⟩
    rw [dispatch_of_type ofType] at decoded
    exact ⟨_, ofType, decoded⟩

def Measured (buf : List UInt8) (n : Nat) : Prop :=
  n ≤ buf.length ∧ ∃ remainingLen vbiLen, VariableByteInteger.decode (buf.drop 1) = .ok (remainingLen, vbiLen) ∧
    n = 1 + vbiLen + remainingLen.value.toNat

/-- A decoder comes back, and with as many bytes as the packet measures if it comes back with a packet. -/
structure Measures (buf : List UInt8) (outcome : Outcome DecodeError (α × Nat)) : Prop where
  returns : outcome.Returns
  measured : ∀ {value n}, outcome = .ok (value, n) → Measured buf n

theorem measured_frame {first : UInt8} {content : List UInt8} (small : content.length ≤ VariableByteInteger.max)
    (tail : List UInt8) : Measured (frame first content ++ tail) (frame first content).length := by
  constructor
  · rw [List.length_append]
    omega
  · refine ⟨⟨UInt32.ofNat content.length⟩, (VariableByteInteger.bytes content.length).length, ?_, ?_⟩
    · show VariableByteInteger.decode (VariableByteInteger.bytes content.length ++ content ++ tail) = _
      rw [List.append_assoc, VariableByteInteger.decode_eq, VariableByteInteger.parse_bytes small, Outcome.upTo,
        List.length_append, Nat.add_sub_cancel]
    · rw [VariableByteInteger.toNat_ofNat small, frame, List.length_cons, List.length_append]
      omega

theorem Measures.error {buf : List UInt8} {reason : DecodeError} :
    Measures buf (.error reason : Outcome DecodeError (α × Nat)) := ⟨True.intro, (nomatch ·)⟩

theorem Measures.tagged {buf : List UInt8} {outcome : Outcome DecodeError (α × Nat)} (measures : Measures buf outcome)
    (tag : α → β) : Measures buf (outcome.tagged tag) where
  returns := Outcome.tagged_returns.mpr measures.returns
  measured tagged := by
    obtain ⟨given, decoded, _⟩ := Outcome.tagged_eq_ok.mp tagged
    exact measures.measured decoded

theorem dispatch_measures {byType : UInt8 → List UInt8 → Outcome DecodeError (α × Nat)} {buf : List UInt8}
    (measures : ∀ packetType, Measures buf (byType packetType buf)) : Measures buf (dispatch byType buf) := by
  cases buf with
  | nil => exact .error
  | cons first rest =>
    rw [dispatch_of_type ⟨first, rest, rfl, rfl⟩]
    exact measures _

/-- How a packet is laid out: the frame that both sides write it as, and the contents that are short for it. -/
structure Layout where
  first : UInt8
  body : ByteWriter EncodeError
  /-- The encoder takes the packet. -/
  Sendable : Prop
  /-- The decoder takes the frame of the packet. -/
  Accepted : Prop
  /-- The decoder takes the content for the packet, although the encoder never writes it. -/
  Short : List UInt8 → Prop
  short_small : ∀ {content}, Short content → content.length ≤ VariableByteInteger.max

namespace Layout

def Encodes (layout : Layout) (bytes : List UInt8) : Prop := layout.Sendable ∧ Framed layout.first layout.body bytes

def Decodes (layout : Layout) (bytes : List UInt8) : Prop :=
  layout.Accepted ∧ Framed layout.first layout.body bytes ∨
    ∃ content, layout.Short content ∧ bytes = frame layout.first content

def plain (first : UInt8) (body : ByteWriter EncodeError) (Sendable Accepted : Prop) : Layout where
  first := first
  body := body
  Sendable := Sendable
  Accepted := Accepted
  Short _ := False
  short_small := False.elim

def exactly (first : UInt8) (body : ByteWriter EncodeError) (checks : Except EncodeError Unit) : Layout :=
  plain first body (checks = .ok ()) (checks = .ok ())

variable {layout : Layout} {first : UInt8} {body : ByteWriter EncodeError} {checks : Except EncodeError Unit}
  {Sendable Accepted : Prop} {buf bytes : List UInt8} {n : Nat}

theorem plain_decodes : (plain first body Sendable Accepted).Decodes bytes ↔ Accepted ∧ Framed first body bytes := by
  simp [Decodes, plain]

theorem exactly_decodes : (exactly first body checks).Decodes bytes ↔ (exactly first body checks).Encodes bytes :=
  plain_decodes

theorem Decodes.framed (decodes : layout.Decodes bytes) :
    ∃ content, content.length ≤ VariableByteInteger.max ∧ bytes = frame layout.first content := by
  rcases decodes with ⟨_, content, _, small, whole⟩ | ⟨content, short, whole⟩
  · exact ⟨content, small, whole⟩
  · exact ⟨content, layout.short_small short, whole⟩

theorem Decodes.measured (inside : n ≤ buf.length) (decodes : layout.Decodes (buf.take n)) : Measured buf n := by
  obtain ⟨content, small, whole⟩ := decodes.framed
  obtain ⟨rfl, tail, rfl⟩ := take_eq_iff.mp ⟨inside, whole⟩
  exact measured_frame small tail

theorem Decodes.ofType {packetType : UInt8} (inside : n ≤ buf.length) (decodes : layout.Decodes (buf.take n))
    (high : layout.first &&& 0xF0 = packetType) : OfType packetType buf := by
  obtain ⟨content, _, whole⟩ := decodes.framed
  obtain ⟨_, tail, rfl⟩ := take_eq_iff.mp ⟨inside, whole⟩
  exact ⟨layout.first, _, rfl, high⟩

theorem Encodes.ofType {packetType : UInt8} (encodes : layout.Encodes bytes) (tail : List UInt8)
    (high : layout.first &&& 0xF0 = packetType) : OfType packetType (bytes ++ tail) := by
  obtain ⟨_, content, _, _, rfl⟩ := encodes
  exact ⟨layout.first, _, rfl, high⟩

end Layout

/-- The codec of a packet type reads and writes its packets as they are laid out. -/
structure Conforms (packetType : UInt8) (layout : α → Layout) (decode : List UInt8 → Outcome DecodeError (α × Nat))
    (encodedLen : α → Nat) (encode : α → List UInt8 → Outcome EncodeError (List UInt8 × Nat)) : Prop where
  high : ∀ packet, (layout packet).first &&& 0xF0 = packetType
  returns : ∀ buf, (decode buf).Returns
  decodes : ∀ packet {buf n}, decode buf = .ok (packet, n) ↔ n ≤ buf.length ∧ (layout packet).Decodes (buf.take n)
  encodes : ∀ packet {written}, encodeToVec (encodedLen packet) (encode packet) = .ok written ↔
    (layout packet).Encodes written

namespace Conforms

variable {packetType : UInt8} {layout : α → Layout} {decode : List UInt8 → Outcome DecodeError (α × Nat)}
  {encodedLen : α → Nat} {encode : α → List UInt8 → Outcome EncodeError (List UInt8 × Nat)}

theorem decodeFrame_iff {κ : Type} {check : UInt8 → Except DecodeError κ} {readBody : κ → Nat → ByteReader DecodeError α}
    (toEnd : ReadsToEnd check readBody)
    (reads : ∀ {byte content packet}, (∃ key, check byte = .ok key ∧ (readBody key content.length).Reads content packet []) ↔
      byte = (layout packet).first ∧
        ((layout packet).Accepted ∧ (layout packet).body.Writes content ∨ (layout packet).Short content))
    {buf : List UInt8} {packet : α} {n : Nat} :
    decodeFrame check readBody buf = .ok (packet, n) ↔ n ≤ buf.length ∧ (layout packet).Decodes (buf.take n) := by
  rw [decodeFrame_eq_ok toEnd]
  constructor
  · intro decoded
    obtain ⟨byte, content, tail, key, small, whole, accepted, read, length⟩ := decoded
    obtain ⟨rfl, valid | short⟩ := reads.mp ⟨key, accepted, read⟩
    · obtain ⟨inside, taken⟩ := take_eq_iff.mpr ⟨length, tail, whole⟩
      exact ⟨inside, .inl ⟨valid.1, content, valid.2, small, taken⟩⟩
    · obtain ⟨inside, taken⟩ := take_eq_iff.mpr ⟨length, tail, whole⟩
      exact ⟨inside, .inr ⟨content, short, taken⟩⟩
  · intro framed
    obtain ⟨inside, ⟨valid, content, writes, small, taken⟩ | ⟨content, short, taken⟩⟩ := framed
    · obtain ⟨length, tail, whole⟩ := take_eq_iff.mp ⟨inside, taken⟩
      obtain ⟨key, accepted, read⟩ := reads.mpr ⟨rfl, .inl ⟨valid, writes⟩⟩
      exact ⟨_, content, tail, key, small, whole, accepted, read, length⟩
    · obtain ⟨length, tail, whole⟩ := take_eq_iff.mp ⟨inside, taken⟩
      obtain ⟨key, accepted, read⟩ := reads.mpr ⟨rfl, .inr short⟩
      exact ⟨_, content, tail, key, (layout packet).short_small short, whole, accepted, read, length⟩

theorem expecting {flags : UInt8} {readBody : Nat → ByteReader DecodeError α}
    (high : (packetType ||| flags) &&& 0xF0 = packetType) (low : (packetType ||| flags) &&& 0x0F = flags)
    (first : ∀ packet, (layout packet).first = packetType ||| flags)
    (reads : ∀ packet {content rest}, (readBody content.length).Reads content packet rest ↔
      ((layout packet).Accepted ∧ (layout packet).body.Writes content ∨ (layout packet).Short content) ∧ rest = [])
    (encodes : ∀ packet {written}, encodeToVec (encodedLen packet) (encode packet) = .ok written ↔
      (layout packet).Encodes written) :
    Conforms packetType layout (decodeFrame (expectHeader packetType flags) fun _ => readBody) encodedLen encode where
  high packet := by
    rw [first]
    exact high
  returns := decodeFrame_returns _ _
  decodes packet {buf n} := by
    apply decodeFrame_iff
    · intro byte key bytes value rest _ read
      exact ((reads value).mp read).2
    · intro byte content packet
      simp only [expectHeader_iff high low, exists_and_left, exists_const, reads packet, and_true, first]
  encodes := encodes

theorem plain {first : α → UInt8} {body : α → ByteWriter EncodeError} {Sendable Accepted : α → Prop}
    (high : ∀ packet, first packet &&& 0xF0 = packetType) (returns : ∀ buf, (decode buf).Returns)
    (decodes : ∀ {buf packet n}, decode buf = .ok (packet, n) ↔
      Accepted packet ∧ n ≤ buf.length ∧ Framed (first packet) (body packet) (buf.take n))
    (encodes : ∀ {packet written}, encodeToVec (encodedLen packet) (encode packet) = .ok written ↔
      Sendable packet ∧ Framed (first packet) (body packet) written) :
    Conforms packetType (fun packet => .plain (first packet) (body packet) (Sendable packet) (Accepted packet)) decode
      encodedLen encode where
  high := high
  returns := returns
  decodes := by
    intro packet buf n
    rw [decodes, Layout.plain_decodes]
    exact and_left_comm
  encodes _ := encodes

theorem exactly {first : α → UInt8} {body : α → ByteWriter EncodeError} {checks : α → Except EncodeError Unit}
    (high : ∀ packet, first packet &&& 0xF0 = packetType) (returns : ∀ buf, (decode buf).Returns)
    (decodes : ∀ {buf packet n}, decode buf = .ok (packet, n) ↔
      checks packet = .ok () ∧ n ≤ buf.length ∧ Framed (first packet) (body packet) (buf.take n))
    (encodes : ∀ {packet written}, encodeToVec (encodedLen packet) (encode packet) = .ok written ↔
      checks packet = .ok () ∧ Framed (first packet) (body packet) written) :
    Conforms packetType (fun packet => .exactly (first packet) (body packet) (checks packet)) decode encodedLen encode :=
  plain high returns decodes encodes

theorem measures (conforms : Conforms packetType layout decode encodedLen encode) (buf : List UInt8) :
    Measures buf (decode buf) where
  returns := conforms.returns buf
  measured decoded := by
    obtain ⟨inside, decodes⟩ := (conforms.decodes _).mp decoded
    exact decodes.measured inside

theorem dispatch_eq (conforms : Conforms packetType layout decode encodedLen encode) {tag : α → β}
    {byType : UInt8 → List UInt8 → Outcome DecodeError (β × Nat)} {buf : List UInt8} {packet : α} {n : Nat}
    (chosen : byType packetType buf = (decode buf).tagged tag) (inside : n ≤ buf.length)
    (decodes : (layout packet).Decodes (buf.take n)) : dispatch byType buf = .ok (tag packet, n) := by
  rw [dispatch_of_type (decodes.ofType inside (conforms.high packet)), chosen]
  exact Outcome.tagged_eq_ok.mpr ⟨packet, (conforms.decodes packet).mpr ⟨inside, decodes⟩, rfl⟩

end Conforms

/-- What a decoder of all packets does with one type: it has the codec of that type decode, or refuses the type. -/
inductive Serves (layoutOf : β → Layout) (buf : List UInt8) : Outcome DecodeError (β × Nat) → Prop
  | packet {α : Type} {packetType : UInt8} {layout : α → Layout} {decode : List UInt8 → Outcome DecodeError (α × Nat)}
      {encodedLen : α → Nat} {encode : α → List UInt8 → Outcome EncodeError (List UInt8 × Nat)}
      (conforms : Conforms packetType layout decode encodedLen encode) (tag : α → β)
      (same : ∀ packet, layoutOf (tag packet) = layout packet) : Serves layoutOf buf ((decode buf).tagged tag)
  | refuses (reason : DecodeError) : Serves layoutOf buf (.error reason)

namespace Serves

variable {layoutOf : β → Layout} {buf : List UInt8} {outcome : Outcome DecodeError (β × Nat)}

theorem decodes (serves : Serves layoutOf buf outcome) {packet : β} {n : Nat} (decoded : outcome = .ok (packet, n)) :
    n ≤ buf.length ∧ (layoutOf packet).Decodes (buf.take n) := by
  cases serves with
  | packet conforms tag same =>
    obtain ⟨given, member, rfl⟩ := Outcome.tagged_eq_ok.mp decoded
    rw [same]
    exact (conforms.decodes given).mp member
  | refuses reason => cases decoded

theorem measures (serves : Serves layoutOf buf outcome) : Measures buf outcome := by
  cases serves with
  | packet conforms tag same => exact (conforms.measures buf).tagged tag
  | refuses reason => exact .error

end Serves

end MqttRs
