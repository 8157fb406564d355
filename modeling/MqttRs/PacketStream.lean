import MqttRs.Directions
import MqttRs.FrameClassification
import MqttRs.Library.Framing

/-! Packets one after another, taken off a growing buffer by the decoders of both directions. -/

namespace MqttRs

variable {α β κ : Type}

/-- An answer other than the call for more bytes stays the same whatever bytes follow. -/
def Stable (decode : List UInt8 → Outcome DecodeError (α × Nat)) : Prop :=
  ∀ buf, decode buf ≠ .error .insufficientData → ∀ more, decode (buf ++ more) = decode buf

theorem Settles.append {decode : List UInt8 → Outcome DecodeError (α × Nat)} (settles : Settles decode) {first : UInt8}
    {content tail : List UInt8} (small : content.length ≤ VariableByteInteger.max) (more : List UInt8) :
    decode (frame first content ++ tail ++ more) = decode (frame first content ++ tail) := by
  have alone (behind : List UInt8) : decode (frame first content ++ behind) = decode (frame first content) := by
    have settled := (settles _ _ (@measured_frame first _ small behind)).2
    rw [List.take_left] at settled
    exact settled.symm
  rw [List.append_assoc, alone, alone]

theorem decodeFixedHeader_append {check : UInt8 → Except DecodeError κ} {buf : List UInt8} {reason : DecodeError}
    (refused : decodeFixedHeader check buf = .error reason) (final : reason ≠ .insufficientData) (more : List UInt8) :
    decodeFixedHeader check (buf ++ more) = .error reason := by
  cases buf with
  | nil =>
    cases refused
    exact absurd rfl final
  | cons first rest =>
    rw [decodeFixedHeader_cons] at refused
    rw [List.cons_append, decodeFixedHeader_cons]
    cases accepted : check first with
    | error reason =>
      rw [accepted] at refused
      exact refused
    | ok key =>
      rw [accepted] at refused
      cases parsed : VariableByteInteger.parse rest with
      | error failure =>
        rw [parsed] at refused
        cases refused
        rcases VariableByteInteger.parse_error parsed with ⟨rfl, -⟩ | ⟨rfl, stays⟩
        · exact absurd rfl final
        · rw [stays more]
      | ok read =>
        rw [parsed] at refused
        dsimp only at refused
        split at refused <;> cases refused
        exact absurd rfl final

theorem decodeFrame_stable {check : UInt8 → Except DecodeError κ} {body : κ → Nat → ByteReader DecodeError α}
    (settles : Settles (decodeFrame check body)) : Stable (decodeFrame check body) := by
  intro buf answered more
  rcases frame_or_error check buf with ⟨first, content, tail, key, small, rfl, accepted⟩ | ⟨reason, refused⟩
  · exact settles.append small more
  · have failed : decodeFrame check body buf = .error reason := decodeFrame_of_error refused
    rw [failed] at answered ⊢
    have final : reason ≠ .insufficientData := fun same => answered (congrArg Outcome.error same)
    exact decodeFrame_of_error (decodeFixedHeader_append refused final more)

theorem Stable.tagged {decode : List UInt8 → Outcome DecodeError (α × Nat)} {tag : α → β} (stable : Stable decode) :
    Stable (fun buf => (decode buf).tagged tag) := by
  intro buf answered more
  show (decode (buf ++ more)).tagged tag = _
  rw [stable buf (fun same => answered (tagged_eq_error.mpr same)) more]

theorem dispatch_stable {byType : UInt8 → List UInt8 → Outcome DecodeError (α × Nat)}
    (stable : ∀ packetType, Stable (byType packetType)) : Stable (dispatch byType) := by
  intro buf answered more
  cases buf with
  | nil => exact absurd rfl answered
  | cons first rest =>
    have here : OfType (first &&& 0xF0) (first :: rest) := ⟨first, rest, rfl, rfl⟩
    have there : OfType (first &&& 0xF0) (first :: rest ++ more) := ⟨first, rest ++ more, rfl, rfl⟩
    rw [dispatch_of_type here] at answered ⊢
    rw [dispatch_of_type there]
    exact stable _ _ answered more

namespace V5

theorem decodeEmpty_stable {packetType flags : UInt8} {only : α} :
    Stable fun buf => (decodeEmpty packetType flags buf).tagged fun _ => only := by
  apply Stable.tagged
  apply decodeFrame_stable
  apply decodeFrame_settles expectHeader_ne
  intro _ _ bytes
  simp

theorem Packet.decode_stable : Stable Packet.decode := by
  apply dispatch_stable
  intro packetType buf
  unfold decodeType
  split
  · exact (decodeFrame_stable Connect.settles).tagged buf
  · exact (decodeFrame_stable ConnAck.settles).tagged buf
  · exact (decodeFrame_stable Publish.settles).tagged buf
  · exact (decodeFrame_stable ack_settles).tagged buf
  · exact (decodeFrame_stable ack_settles).tagged buf
  · exact (decodeFrame_stable ack_settles).tagged buf
  · exact (decodeFrame_stable ack_settles).tagged buf
  · exact (decodeFrame_stable Subscribe.settles).tagged buf
  · exact (decodeFrame_stable reasonCodes_settles).tagged buf
  · exact (decodeFrame_stable Unsubscribe.settles).tagged buf
  · exact (decodeFrame_stable reasonCodes_settles).tagged buf
  · exact decodeEmpty_stable.tagged buf
  · exact decodeEmpty_stable.tagged buf
  · exact (decodeFrame_stable Disconnect.settles).tagged buf
  · exact (decodeFrame_stable Auth.settles).tagged buf
  · exact fun _ _ => rfl

end V5

namespace V311

theorem decodeEmpty_stable {packetType flags : UInt8} {only : α} :
    Stable (fun buf => do
      let offset ← decodeEmpty packetType flags buf
      .ok (only, offset)) := by
  intro buf answered more
  cases buf with
  | nil => exact absurd rfl answered
  | cons first rest =>
    simp only [List.cons_append, decodeEmpty_cons] at answered ⊢
    cases checked : expectHeader packetType flags first with
    | error reason => rfl
    | ok _ =>
      cases parsed : VariableByteInteger.parse rest with
      | error failure =>
        rcases VariableByteInteger.parse_error parsed with ⟨rfl, -⟩ | ⟨rfl, stays⟩
        · rw [checked, parsed] at answered
          exact absurd rfl answered
        · rw [stays more]
      | ok read =>
        obtain ⟨remainingLen, after⟩ := read
        rw [VariableByteInteger.parse_append parsed more]
        have shorter : after.length ≤ rest.length := by
          obtain ⟨-, rfl⟩ := VariableByteInteger.parse_eq_ok.mp parsed
          rw [List.length_append]
          omega
        have same : (rest ++ more).length - (after ++ more).length = rest.length - after.length := by
          simp only [List.length_append]
          omega
        simp only [same]

theorem decodeSimpleAck_stable {packetType flags : UInt8} : Stable (decodeSimpleAck packetType flags) := by
  apply decodeFrame_stable
  apply decodeFrame_settles expectHeader_ne
  intro _ _ bytes
  simp [readSimpleAck]

theorem Packet.decode_stable : Stable Packet.decode := by
  apply dispatch_stable
  intro packetType buf
  unfold decodeType
  split
  · exact (decodeFrame_stable Connect.settles).tagged buf
  · exact (decodeFrame_stable ConnAck.settles).tagged buf
  · exact (decodeFrame_stable Publish.settles).tagged buf
  · exact decodeSimpleAck_stable.tagged.tagged buf
  · exact decodeSimpleAck_stable.tagged.tagged buf
  · exact decodeSimpleAck_stable.tagged.tagged buf
  · exact decodeSimpleAck_stable.tagged.tagged buf
  · exact (decodeFrame_stable Subscribe.settles).tagged buf
  · exact (decodeFrame_stable SubAck.settles).tagged buf
  · exact (decodeFrame_stable Unsubscribe.settles).tagged buf
  · exact decodeSimpleAck_stable.tagged.tagged buf
  · exact decodeEmpty_stable.tagged buf
  · exact decodeEmpty_stable.tagged buf
  · exact decodeEmpty_stable.tagged buf
  · exact fun _ _ => rfl

end V311

section Stream

variable {decode : List UInt8 → Outcome DecodeError (α × Nat)}

def packetFront (decode : List UInt8 → Outcome DecodeError (α × Nat)) (buf : List UInt8) :
    FrameFront UInt8 (Except DecodeError α) :=
  match decode buf with
  | .ok (packet, n) => .frame (.ok packet) (buf.drop n)
  | .error .insufficientData => .incomplete
  | .error reason => .broken (.error reason)
  | .panic | .hang => .incomplete

theorem Measured.shrinks {buf : List UInt8} {n : Nat} (measured : Measured buf n) : (buf.drop n).length < buf.length := by
  obtain ⟨inside, remainingLen, vbiLen, -, rfl⟩ := measured
  rw [List.length_drop]
  omega

theorem packetFront_eq_frame {buf rest : List UInt8} {item : Except DecodeError α} :
    packetFront decode buf = .frame item rest ↔ ∃ packet n, decode buf = .ok (packet, n) ∧ .ok packet = item ∧ buf.drop n = rest := by
  rw [packetFront]
  cases decode buf with
  | ok read =>
    obtain ⟨packet, n⟩ := read
    simp
  | error reason => cases reason <;> simp
  | panic => simp
  | hang => simp

theorem packetFront_eq_broken {buf : List UInt8} {last : Except DecodeError α} :
    packetFront decode buf = .broken last ↔ ∃ reason, decode buf = .error reason ∧ reason ≠ .insufficientData ∧ .error reason = last := by
  rw [packetFront]
  cases decode buf with
  | ok read => simp
  | error reason => cases reason <;> simp
  | panic => simp
  | hang => simp

theorem packetFront_incomplete {buf : List UInt8} (short : decode buf = .error .insufficientData) :
    packetFront decode buf = .incomplete := by
  rw [packetFront, short]

def packets (decode : List UInt8 → Outcome DecodeError (α × Nat)) (measures : ∀ buf, Measures buf (decode buf))
    (stable : Stable decode) : Framer UInt8 (Except DecodeError α) where
  front := packetFront decode
  shrinks front := by
    obtain ⟨packet, n, decoded, -, rfl⟩ := packetFront_eq_frame.mp front
    exact Measured.shrinks ((measures _).measured decoded)
  frame_append {stream item rest} front more := by
    obtain ⟨packet, n, decoded, rfl, rfl⟩ := packetFront_eq_frame.mp front
    have longer := stable stream (by rw [decoded]; exact nofun) more
    obtain ⟨inside, -⟩ := (measures _).measured decoded
    exact packetFront_eq_frame.mpr ⟨packet, n, longer.trans decoded, rfl, List.drop_append_of_le_length inside⟩
  broken_append {stream last} front more := by
    obtain ⟨reason, refused, final, rfl⟩ := packetFront_eq_broken.mp front
    have longer := stable stream (by rw [refused]; exact fun same => final (Outcome.error.inj same)) more
    exact packetFront_eq_broken.mpr ⟨reason, longer.trans refused, final, rfl⟩

/-- The decoder answers for a written packet alike whatever follows it, and waits for the rest of it before. -/
structure Transmits (decode : List UInt8 → Outcome DecodeError (α × Nat)) (answer : Except DecodeError α)
    (written : List UInt8) : Prop where
  waits : Waits decode written
  answers : ∀ more, decode (written ++ more) = .ofExcept (answer.map (·, written.length))
  final : answer ≠ .error .insufficientData

def untilError : List (Except DecodeError α) → List (Except DecodeError α)
  | [] => []
  | .ok packet :: rest => .ok packet :: untilError rest
  | .error reason :: _ => [.error reason]

variable {measures : ∀ buf, Measures buf (decode buf)} {stable : Stable decode}

/-- The packets that have arrived whole. -/
def arrived {γ : Type} : List (γ × List UInt8) → List UInt8 → List γ
  | [], _ => []
  | (packet, written) :: rest, stream =>
    if written <+: stream then packet :: arrived rest (stream.drop written.length) else []

theorem Transmits.frame {packet : α} {written : List UInt8} (transmits : Transmits decode (.ok packet) written)
    (more : List UInt8) : packetFront decode (written ++ more) = .frame (.ok packet) more :=
  packetFront_eq_frame.mpr ⟨packet, written.length, transmits.answers more, rfl, List.drop_left⟩

theorem Transmits.broken {reason : DecodeError} {written : List UInt8} (transmits : Transmits decode (.error reason) written)
    (more : List UInt8) : packetFront decode (written ++ more) = .broken (.error reason) :=
  packetFront_eq_broken.mpr ⟨reason, transmits.answers more, fun same => transmits.final (same ▸ rfl), rfl⟩

/-- A stream of encoded requests is read back packet by packet, as far as they have arrived whole and up to one that
    the decoder refuses. -/
def ReadsBack {γ : Type} (encode : γ → Outcome EncodeError (List UInt8)) (answer : γ → Except DecodeError α)
    (reader : Framer UInt8 (Except DecodeError α)) : Prop :=
  ∀ sent : List (γ × List UInt8), (∀ each ∈ sent, encode each.1 = .ok each.2) →
    ∀ stream, stream <+: (sent.map Prod.snd).flatten →
      reader.results stream = untilError ((arrived sent stream).map answer)

theorem readsBack {γ : Type} {encode : γ → Outcome EncodeError (List UInt8)} {answer : γ → Except DecodeError α}
    (nothing : decode [] = .error .insufficientData)
    (transmits : ∀ {packet written}, encode packet = .ok written → Transmits decode (answer packet) written) :
    ReadsBack encode answer (packets decode measures stable) := by
  intro sent encoded stream starts
  induction sent generalizing stream with
  | nil =>
    obtain rfl := List.prefix_nil.mp starts
    exact Framer.results_incomplete (packetFront_incomplete nothing)
  | cons each rest ih =>
    obtain ⟨packet, written⟩ := each
    have first : Transmits decode (answer packet) written := transmits (encoded (packet, written) (.head _))
    have behind := ih fun other member => encoded other (.tail _ member)
    rw [List.map_cons, List.flatten_cons] at starts
    by_cases whole : written <+: stream
    · obtain ⟨more, rfl⟩ := whole
      rw [arrived, if_pos (List.prefix_append _ _), List.drop_left, List.map_cons]
      cases answered : answer packet with
      | ok given =>
        rw [answered] at first
        rw [Framer.results_frame (first.frame more), behind more ((List.prefix_append_right_inj written).mp starts)]
        rfl
      | error reason =>
        rw [answered] at first
        exact Framer.results_broken (first.broken more)
    · have short : stream <+: written := by
        rcases List.prefix_or_prefix_of_prefix (List.prefix_append written _) starts with complete | short
        · exact absurd complete whole
        · exact short
      have strict : stream ≠ written := fun same => whole (same ▸ List.prefix_refl _)
      rw [arrived, if_neg whole]
      exact Framer.results_incomplete (packetFront_incomplete (first.waits _ short strict))

end Stream

namespace V5

instance (packet : Packet) : Decidable packet.ClientOnly :=
  match packet with
  | .disconnect packet => inferInstanceAs (Decidable packet.ClientOnly)
  | .auth packet => inferInstanceAs (Decidable packet.ClientOnly)
  | .connect _ | .connAck _ | .publish _ | .pubAck _ | .pubRec _ | .pubRel _ | .pubComp _ | .subscribe _ | .subAck _
  | .unsubscribe _ | .unsubAck _ | .pingReq _ | .pingResp _ => inferInstanceAs (Decidable False)

def Packet.readBack (packet : Packet) : Except DecodeError Packet :=
  if packet.ClientOnly then .error .malformedPacket else .ok packet

theorem Packet.transmits {packet : Packet} {written : List UInt8} (encoded : packet.encodeToVec = .ok written) :
    Transmits decode packet.readBack written := by
  refine ⟨decode_waits encoded, ?_, ?_⟩
  · intro more
    rw [readBack]
    split
    · rename_i clientOnly
      exact decode_clientOnly encoded clientOnly more
    · rename_i both
      exact decode_both encoded both more
  · rw [readBack]
    split <;> exact nofun

end V5

theorem V311.Packet.transmits {packet : Packet} {written : List UInt8} (encoded : packet.encodeToVec = .ok written) :
    Transmits decode (.ok packet) written :=
  ⟨decode_waits encoded, decode_written encoded, nofun⟩

/-- What a client sends, cut anywhere, a reader of `codec::Packet::decode` takes apart into the requests that have arrived
    whole, up to one that the codec of version 5 takes for a packet of a server. -/
theorem requests_read_back :
    ReadsBack V5.OutgoingPacket.encodeToVec (fun packet => packet.toPacket.readBack)
        (packets V5.Packet.decode V5.Packet.decode_measures V5.Packet.decode_stable) ∧
      ReadsBack V311.OutgoingPacket.encodeToVec (fun packet => .ok packet.toPacket)
        (packets V311.Packet.decode V311.Packet.decode_measures V311.Packet.decode_stable) := by
  constructor
  · apply readsBack rfl
    intro packet written encoded
    rw [V5.OutgoingPacket.encodeToVec_eq] at encoded
    exact V5.Packet.transmits encoded
  · apply readsBack rfl
    intro packet written encoded
    rw [V311.OutgoingPacket.encodeToVec_eq] at encoded
    exact V311.Packet.transmits encoded

theorem pingStream_read_back :
    (packets V5.Packet.decode V5.Packet.decode_measures V5.Packet.decode_stable).results [0xC0, 0, 0xE0, 2, 4, 0, 0xC0] =
      [.ok (.pingReq ⟨⟩), .error .malformedPacket] := by
  have encoded : ∀ each ∈ [(V5.OutgoingPacket.pingReq ⟨⟩, [0xC0, 0]),
      (.disconnect ⟨.disconnectWithWillMessage, .new⟩, [0xE0, 2, 4, 0]), (.pingReq ⟨⟩, [0xC0, 0])],
      V5.OutgoingPacket.encodeToVec each.1 = .ok each.2 := by decide
  rw [requests_read_back.1 _ encoded _ (by decide)]
  rfl

end MqttRs
