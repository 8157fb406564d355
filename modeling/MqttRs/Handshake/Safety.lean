import MqttRs.Codec.Classification
import MqttRs.Decoder.Delivery
import MqttRs.Decoder.SizeLimit
import MqttRs.Handshake.Settings
import MqttRs.Library.Runs

namespace MqttRs

namespace V5.ConnAck

variable {connack : ConnAck} {buf : List UInt8} {n : Nat}

theorem decode_of_handed (handed : Decoder.decodePacket .v5 buf = .ok (.v5 (.connAck connack))) :
    ∃ n, ConnAck.decode buf = .ok (connack, n) := by
  obtain ⟨⟨packet, n⟩, decoded, same⟩ := Outcome.bind_eq_ok.mp handed
  cases same
  rw [Outcome.mapError_eq_ok] at decoded
  obtain ⟨packetType, -, member⟩ := dispatch_eq_ok decoded
  rw [IncomingPacket.decodeType.eq_def] at member
  split at member
  case h_1 =>
    obtain ⟨given, read, same⟩ := Outcome.tagged_eq_ok.mp member
    cases same
    exact ⟨n, read⟩
  all_goals first
    | cases member
    | obtain ⟨given, -, other⟩ := Outcome.tagged_eq_ok.mp member
      cases other

theorem handed_of_decode (decoded : ConnAck.decode buf = .ok (connack, n)) :
    Decoder.decodePacket .v5 buf = .ok (.v5 (.connAck connack)) := by
  obtain ⟨inside, decodes⟩ := (conforms.decodes connack).mp decoded
  have ofType : OfType 0x20 buf := decodes.ofType inside (conforms.high connack)
  have read : IncomingPacket.decode buf = .ok (.connAck connack, n) := by
    rw [IncomingPacket.decode, dispatch_of_type ofType]
    exact Outcome.tagged_eq_ok.mpr ⟨connack, decoded, rfl⟩
  rw [Decoder.decodePacket, read]
  rfl

theorem obeys_of_decode (decoded : ConnAck.decode buf = .ok (connack, n)) : connack.Obeys :=
  (Packet.connAck_obeys ((conforms.decodes connack).mp decoded).2).2

end V5.ConnAck

namespace Decoder

theorem splitFront_of_measured {version : MqttVersion} {limits : Limits} {bytes : List UInt8} {n : Nat}
    (measured : Measured bytes n) : splitFront version limits bytes ≠ .incomplete := by
  obtain ⟨first, content, tail, small, rfl, -⟩ := measured.frame
  by_cases fits : (frame first content).length ≤ limits.maxPacketSize
  · have whole := (@frame_codeword version limits first content small fits).whole tail
    intro waits
    cases waits.symm.trans whole
  · have whole := (@frame_stopper version limits first content small (Nat.lt_of_not_le fits)).whole tail
    intro waits
    cases waits.symm.trans whole

end Decoder

namespace Handshake

variable {h g : Handshake} {session : Session} {limits : Limits} {op : HandshakeOp} {connack : V5.ConnAck}
  {bytes rest : List UInt8}

/-- A well-formed CONNACK within the limit, in front of the rest. -/
def Fronts (limits : Limits) (bytes : List UInt8) (connack : V5.ConnAck) (rest : List UInt8) : Prop :=
  ∃ frame, bytes = frame ++ rest ∧ frame.length ≤ limits.maxPacketSize ∧
    V5.ConnAck.decode frame = .ok (connack, frame.length)

theorem fronts_iff : Fronts limits bytes connack rest ↔
    Decoder.splitFront .v5 limits bytes = .frame (.ok (.v5 (.connAck connack))) rest := by
  constructor
  · rintro ⟨whole, rfl, fits, decoded⟩
    obtain ⟨first, content, tail, small, same, length⟩ := ((V5.ConnAck.conforms.measures whole).measured decoded).frame
    obtain rfl : tail = [] := by simpa [same] using length
    rw [List.append_nil] at same
    subst same
    have front := (@Decoder.frame_codeword .v5 limits first content small fits).whole rest
    rwa [V5.ConnAck.handed_of_decode decoded] at front
  · intro front
    obtain ⟨rlenLen, remainingLength, read, complete, handed, rfl⟩ := Decoder.splitFront_eq_frame.mp front
    obtain ⟨n, decoded⟩ := V5.ConnAck.decode_of_handed handed.symm
    obtain ⟨first, behind, whole, shortest, small, fits⟩ := Decoder.readHeader_frame read
    obtain ⟨first, content, tail, few, same, length⟩ :=
      (Decoder.measured_of_front whole shortest small complete).frame
    refine ⟨bytes.take (1 + rlenLen + remainingLength), (List.take_append_drop _ _).symm, ?_, ?_⟩
    · rwa [List.length_take_of_le complete]
    · have measured : Measured (bytes.take (1 + rlenLen + remainingLength))
          (bytes.take (1 + rlenLen + remainingLength)).length := by
        rw [length, same, List.take_left]
        simpa using measured_frame few []
      rwa [Decoder.measured_unique measured ((V5.ConnAck.conforms.measures _).measured decoded)]

/-- How the attempt has ended: for want of room, or for what stands in front of the bytes. Only a CONNACK changes the
    session. -/
inductive Concluded (limits : Limits) (session : Session) (h : Handshake) : Outcome ConnectError Unit → Prop
  | overflow (reason : DecodeError)
    (exceeded : Usize.saturatingAdd limits.maxPacketSize Decoder.maxPacketOverhead < h.received.length)
    (kept : h.session = session) : Concluded limits session h (.error (.decode reason))
  | exhausted (exceeded : Isize.max < h.received.length) (kept : h.session = session) : Concluded limits session h .panic
  | refused (reason : DecodeError)
    (front : Decoder.splitFront .v5 limits h.received = .broken (.error reason) ∨
      ∃ rest, Decoder.splitFront .v5 limits h.received = .frame (.error reason) rest)
    (kept : h.session = session) : Concluded limits session h (.error (.decode reason))
  | unexpected (packet : VersionedIncomingPacket) (rest : List UInt8)
    (front : Decoder.splitFront .v5 limits h.received = .frame (.ok packet) rest)
    (other : ∀ connack, packet ≠ .v5 (.connAck connack)) (kept : h.session = session) :
    Concluded limits session h (.error .unexpectedPacket)
  | answered (connack : V5.ConnAck) (result : Outcome ConnectError Unit)
    (front : Fronts limits h.received connack h.decoder.pending) (answers : session.Answers connack result h.session) :
    Concluded limits session h result

/-- While it waits for the answer, the client holds all the bytes that it has received. -/
structure Waiting (limits : Limits) (session : Session) (h : Handshake) : Prop where
  session : h.session = session
  version : h.decoder.version = .v5
  limits : h.decoder.limits = limits
  wellformed : h.decoder.Wellformed
  current : h.decoder.CurrentHeader
  pending : h.decoder.pending = h.received
  whole : h.decoder.bufOffset = 0

structure Sound (limits : Limits) (session : Session) (h : Handshake) : Prop where
  waiting : h.outcome = none → h.Waiting limits session
  ended : ∀ result, h.outcome = some result → h.Concluded limits session result

theorem start_sound (session : Session) (limits : Limits) : (start session limits).Sound limits session where
  waiting _ := ⟨rfl, rfl, rfl, Decoder.new_wellformed .v5 limits, rfl, rfl, rfl⟩
  ended _ wrong := by cases wrong

theorem sound_of_waiting (waiting : h.Waiting limits session) (open' : h.outcome = none) : h.Sound limits session where
  waiting _ := waiting
  ended result ended := by rw [open'] at ended; cases ended

theorem sound_of_concluded {result : Outcome ConnectError Unit}
    (concluded : (h.finish result).Concluded limits session result) : (h.finish result).Sound limits session where
  waiting wrong := by cases wrong
  ended other same := by
    cases same
    exact concluded

theorem feed_sound (waiting : h.Waiting limits session) (open' : h.outcome = none) (data : List UInt8) :
    (h.feed data).Sound limits session := by
  have length : (h.received ++ data).length = h.decoder.pending.length + data.length := by
    rw [List.length_append, waiting.pending]
  rcases h.decoder.feed_cases data with ⟨-, fits, result⟩ | ⟨exceeded, reason, result⟩ | ⟨exceeded, result⟩ <;>
    simp only [feed, result]
  · refine sound_of_waiting ⟨waiting.session, waiting.version, waiting.limits, waiting.wellformed.append fits, ?_, ?_,
      waiting.whole⟩ open'
    · exact waiting.current.append waiting.wellformed data
    · exact (Decoder.pending_append waiting.wellformed data).trans (congrArg (· ++ data) waiting.pending)
  · rw [waiting.limits, ← length] at exceeded
    exact sound_of_concluded (.overflow reason exceeded waiting.session)
  · have held : h.decoder.buf.length = h.decoder.pending.length := by
      rw [Decoder.length_pending, waiting.whole, Nat.sub_zero]
    rw [held, ← length] at exceeded
    exact sound_of_concluded (.exhausted exceeded waiting.session)

theorem answer_sound (same : h.session = session) (front : Fronts limits h.received connack h.decoder.pending) :
    (h.answer connack).Sound limits session := by
  have read := front
  obtain ⟨frame, -, -, decoded⟩ := read
  have answers := Session.answered_answers (s := session) (V5.ConnAck.obeys_of_decode decoded)
  unfold answer
  rw [same]
  generalize session.answered connack = answered at answers
  obtain ⟨result, t⟩ := answered
  split
  · rename_i done _ ok
    cases ok
    exact sound_of_concluded (.answered connack _ front answers)
  · rename_i refused _ _ same
    cases same
    exact sound_of_concluded (.answered connack _ front answers)

theorem receive_sound (waiting : h.Waiting limits session) (open' : h.outcome = none) :
    h.receive.Sound limits session := by
  have wellformed := Decoder.decode_wellformed waiting.wellformed
  have current := waiting.current.decode waiting.wellformed
  unfold receive
  rcases Decoder.decode_front waiting.wellformed waiting.current with
    ⟨-, phase, result⟩ | ⟨reason, front, result⟩ | ⟨answer, size, front, result⟩
  · rw [result] at wellformed current ⊢
    exact sound_of_waiting ⟨waiting.session, waiting.version, waiting.limits, wellformed, current, waiting.pending,
      waiting.whole⟩ open'
  · rw [waiting.version, waiting.limits, waiting.pending] at front
    rw [result]
    exact sound_of_concluded (.refused reason (.inl front) waiting.session)
  · rw [waiting.version, waiting.limits, waiting.pending] at front
    rw [result]
    cases answer with
    | error reason => exact sound_of_concluded (.refused reason (.inr ⟨_, front⟩) waiting.session)
    | ok packet =>
      simp only [Except.map, Outcome.ofExcept]
      split
      case h_2 =>
        rename_i same
        cases same
        exact answer_sound waiting.session (fronts_iff.mpr front)
      case h_3 =>
        rename_i other same
        cases same
        refine sound_of_concluded (.unexpected packet _ front (fun connack same => ?_) waiting.session)
        subst same
        exact other connack rfl
      all_goals
        rename_i wrong
        cases wrong

theorem next_sound (sound : h.Sound limits session) (step : Steps next h op g) : g.Sound limits session := by
  simp only [Steps, next] at step
  cases open' : h.outcome with
  | some result => simp [open'] at step
  | none =>
    have waiting := sound.waiting open'
    simp only [open', Option.isSome_none, Bool.false_eq_true, ↓reduceIte] at step
    cases op with
    | feed data =>
      cases step
      exact feed_sound waiting open' data
    | receive =>
      cases step
      exact receive_sound waiting open'

theorem receive_ends (waiting : h.Waiting limits session) {n : Nat} (measured : Measured h.received n) :
    h.receive.outcome ≠ none := by
  have read := Decoder.decode_front waiting.wellformed waiting.current
  rw [← waiting.pending] at measured
  unfold receive
  rcases read with ⟨waits, -⟩ | ⟨reason, -, result⟩ | ⟨answer, size, -, result⟩
  · exact absurd waits (Decoder.splitFront_of_measured measured)
  · rw [result]
    exact Option.some_ne_none _
  · rw [result]
    cases answer with
    | error reason => exact Option.some_ne_none _
    | ok packet =>
      simp only [Except.map, Outcome.ofExcept]
      split
      case h_2 =>
        unfold Handshake.answer
        split <;> exact Option.some_ne_none _
      case h_1 =>
        rename_i wrong
        cases wrong
      all_goals exact Option.some_ne_none _

theorem Concluded.ok_iff {result : Outcome ConnectError Unit} (concluded : h.Concluded limits session result)
    (room : h.received.length ≤ Usize.saturatingAdd limits.maxPacketSize Decoder.maxPacketOverhead)
    (held : h.received.length ≤ Isize.max) :
    result = .ok () ↔ ∃ connack rest, Fronts limits h.received connack rest ∧ session.Welcomes connack := by
  cases concluded with
  | overflow reason exceeded => exact absurd exceeded (Nat.not_lt_of_le room)
  | exhausted exceeded => exact absurd exceeded (Nat.not_lt_of_le held)
  | refused reason front =>
    refine ⟨nofun, ?_⟩
    rintro ⟨connack, rest, other, -⟩
    rcases front with front | ⟨_, front⟩ <;> cases front.symm.trans (fronts_iff.mp other)
  | unexpected packet rest front other =>
    refine ⟨nofun, ?_⟩
    rintro ⟨connack, rest, first, -⟩
    cases front.symm.trans (fronts_iff.mp first)
    exact absurd rfl (other connack)
  | answered connack result front answers =>
    rw [answers.accepted_iff]
    constructor
    · exact fun welcomes => ⟨connack, _, front, welcomes⟩
    · rintro ⟨other, rest, first, welcomes⟩
      cases (fronts_iff.mp front).symm.trans (fronts_iff.mp first)
      exact welcomes

/-- What a client makes of the bytes of a server: it holds on to them until a packet is complete, and ends with the
    answer to it. -/
structure Negotiates (limits : Limits) (session : Session) (h : Handshake) : Prop where
  waiting : h.outcome = none → h.session = session ∧ h.decoder.pending = h.received
  prompt : h.outcome = none → ∀ n, Measured h.received n → h.receive.outcome ≠ none
  ended : ∀ result, h.outcome = some result → h.Concluded limits session result
  opened : ∀ result, h.outcome = some result →
    h.received.length ≤ Usize.saturatingAdd limits.maxPacketSize Decoder.maxPacketOverhead →
    h.received.length ≤ Isize.max →
    (result = .ok () ↔ ∃ connack rest, Fronts limits h.received connack rest ∧ session.Welcomes connack)

/-- Whatever a server sends and however it arrives, a connection is opened by nothing but a CONNACK that the session
    welcomes, by each such CONNACK, and goes by its properties. -/
theorem handshake_negotiates {ops : List HandshakeOp} (run : Run (Steps next) (start session limits) ops h) :
    h.Negotiates limits session := by
  have sound := run.invariant next_sound (start_sound session limits)
  refine ⟨?_, ?_, sound.ended, ?_⟩
  · intro open'
    have waiting := sound.waiting open'
    exact ⟨waiting.session, waiting.pending⟩
  · intro open' n measured
    exact receive_ends (sound.waiting open') measured
  · exact fun result ended => (sound.ended result ended).ok_iff

def connecting : Session := ((Session.initial .v5 "client" true).configureForConnect 60 0 0 65535 0).2.connectSent

def splitConnack : List HandshakeOp :=
  [.feed [0x20, 0x08, 0x00], .receive, .feed [0x00, 0x05, 0x21, 0x00, 0x0A, 0x25, 0x00, 0xD0, 0x00], .receive]

theorem splitConnack_negotiates :
    ∃ h, Run (Steps next) (start connecting .new) splitConnack h ∧ h.outcome = some (.ok ()) ∧
      h.session.flowControl.receiveMaximum = 10 ∧ h.decoder.pending = [0xD0, 0x00] ∧
      h.Negotiates .new connecting := by
  have completes : (runFrom next (start connecting .new) splitConnack).any (fun h =>
      decide (h.outcome = some (.ok ()) ∧ h.session.flowControl.receiveMaximum = 10 ∧
        h.decoder.pending = [0xD0, 0x00])) = true := by decide
  obtain ⟨h, ends, reached⟩ := (Option.any_eq_true _ _).mp completes
  obtain ⟨opened, receiveMaximum, left⟩ := of_decide_eq_true reached
  have run := run_of_runFrom ends
  exact ⟨h, run, opened, receiveMaximum, left, handshake_negotiates run⟩

end Handshake

end MqttRs
