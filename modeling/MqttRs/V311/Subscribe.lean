import MqttRs.Codec.Fields
import MqttRs.Codec.QoS
import MqttRs.Codec.TopicFilter
import MqttRs.V311.ReturnCodes

namespace MqttRs.V311

/-- The check of SUBSCRIBE and UNSUBSCRIBE, which take the whole first byte for flags. -/
def expectFirst (expected first : UInt8) : Except DecodeError Unit :=
  if first ≠ expected then .error .invalidPacketFlags else .ok ()

theorem expectFirst_eq_ok {expected first : UInt8} {key : Unit} :
    expectFirst expected first = .ok key ↔ first = expected := by
  rw [expectFirst]
  split <;> simp_all

/-- A packet id and a list of items up to the end of the frame, as the packets of this module have them. -/
theorem reads_listBody {β γ : Type} {item : ByteReader DecodeError β} {Valid : β → Prop} {write : β → ByteWriter EncodeError}
    (inverts : item.Inverts Valid write) {consumes : item.Consumes} {make : UInt16 → List β → γ}
    (injective : ∀ {id items id' items'}, make id items = make id' items' → id = id' ∧ items = items')
    {content rest : List UInt8} {packetId : UInt16} {items : List β} :
    ByteReader.Reads (do
        let packetId ← readPacketId
        let items ← .untilEnd item consumes
        malformedIf items.isEmpty
        return make packetId items) content (make packetId items) rest ↔
      (packetId ≠ 0 ∧ items ≠ [] ∧ ∀ item ∈ items, Valid item) ∧
        (writeU16 packetId ++ .each write items).Writes content ∧ rest = [] := by
  simp only [ByteReader.reads_bind, reads_readPacketId, ByteReader.reads_untilEnd, inverts.readsAll_iff,
    reads_malformedIf, List.isEmpty_eq_false_iff, ByteReader.reads_pure, ByteWriter.writes_append, writes_writeU16]
  constructor
  · intro read
    obtain ⟨_, listBytes, ⟨nonzero, rfl⟩, _, _, ⟨⟨valid, writes⟩, rfl⟩, _, _, ⟨nonempty, rfl⟩, same, rfl⟩ := read
    obtain ⟨rfl, rfl⟩ := injective same
    exact ⟨⟨nonzero, nonempty, valid⟩, ⟨_, listBytes, rfl, writes, rfl⟩, rfl⟩
  · intro written
    obtain ⟨⟨nonzero, nonempty, valid⟩, ⟨_, listBytes, rfl, writes, rfl⟩, rfl⟩ := written
    exact ⟨packetId, listBytes, ⟨nonzero, rfl⟩, items, [], ⟨⟨valid, writes⟩, rfl⟩, (), [], ⟨nonempty, rfl⟩, rfl, rfl⟩

structure Subscription where
  topicFilter : String
  qos : QoS
  deriving DecidableEq

structure Subscribe where
  packetId : UInt16
  topicFilters : List Subscription
  deriving DecidableEq

namespace Subscribe

def packetType : UInt8 := 0x80

def flags : UInt8 := 0x02

def encodedLen (packet : Subscribe) : Nat :=
  packet.topicFilters.foldl
    (fun len subscription =>
      Usize.saturatingAdd (Usize.saturatingAdd (Usize.saturatingAdd len 2) (asBytes subscription.topicFilter).length) 1)
    2

def validate (packet : Subscribe) : Except EncodeError Unit := do
  refuseIf (packet.packetId == 0) .zeroPacketId
  refuseIf packet.topicFilters.isEmpty .emptyTopicFilters
  refuseIf (packet.topicFilters.any fun subscription => !isValidTopicFilter subscription.topicFilter) .invalidTopicFilter

def writeSubscription (subscription : Subscription) : ByteWriter EncodeError :=
  writeString subscription.topicFilter ++ writeCode subscription.qos

def writeBody (packet : Subscribe) : ByteWriter EncodeError :=
  writeU16 packet.packetId ++ .each writeSubscription packet.topicFilters

def encode (packet : Subscribe) (buf : List UInt8) : Outcome EncodeError (List UInt8 × Nat) := do
  let _ ← .ofExcept packet.validate
  encodeFrame (packetType ||| flags) packet.encodedLen packet.writeBody buf

def readSubscription : ByteReader DecodeError Subscription := do
  let topicFilter ← readString
  malformedIf !isValidTopicFilter topicFilter
  let options ← readByte
  let qos ← .okOr (ByteCode.fromU8 (options &&& 0x03)) .malformedPacket
  malformedIf (options &&& 0xFC ≠ 0)
  return { topicFilter, qos }

theorem options_eq_iff (options : UInt8) (qos : QoS) :
    ByteCode.fromU8 (options &&& 0x03) = some qos ∧ options &&& 0xFC = 0 ↔ options = ByteCode.asU8 qos := by
  revert options
  cases qos <;> exact UInt8.forall_of_ofNat (by decide +kernel)

theorem readSubscription_inverts :
    readSubscription.Inverts (fun subscription => isValidTopicFilter subscription.topicFilter = true) writeSubscription := by
  intro bytes subscription rest
  constructor
  · intro read
    simp only [readSubscription, ne_eq, decide_not, ByteReader.reads_bind, reads_readString, reads_malformedIf,
      Bool.not_eq_eq_eq_not, Bool.not_false, reads_readByte, ByteReader.reads_okOr, decide_eq_true_eq,
      ByteReader.reads_pure, exists_eq_right_right, exists_const, ↓existsAndEq, and_true, exists_and_left, true_and]
      at read
    obtain ⟨topicFilter, options, ⟨encodable, rfl⟩, valid, qos, known, reserved, rfl⟩ := read
    obtain rfl := (options_eq_iff options qos).mp ⟨known, reserved⟩
    simp [writeSubscription, encodable, valid]
  · intro written
    simp only [writeSubscription, ByteWriter.writes_append, writes_writeString, writes_writeCode, exists_and_left,
      ↓existsAndEq, true_and, and_true, List.append_assoc, List.cons_append, List.nil_append] at written
    obtain ⟨valid, encodable, rfl⟩ := written
    obtain ⟨known, reserved⟩ := (options_eq_iff (ByteCode.asU8 subscription.qos) subscription.qos).mpr rfl
    simp only [readSubscription, ne_eq, decide_not, ByteReader.reads_bind, reads_readString, reads_malformedIf,
      Bool.not_eq_eq_eq_not, Bool.not_false, reads_readByte, ByteReader.reads_okOr, decide_eq_true_eq,
      ByteReader.reads_pure, exists_eq_right_right, exists_const, ↓existsAndEq, and_true, exists_and_left, true_and]
    exact ⟨_, _, ⟨encodable, rfl⟩, valid, _, known, reserved, rfl⟩

theorem readSubscription_consumes : readSubscription.Consumes := readSubscription_inverts.consumes fun subscription => by
  show 0 < _ + 1
  omega

def readBody : ByteReader DecodeError Subscribe := do
  let packetId ← readPacketId
  let topicFilters ← .untilEnd readSubscription readSubscription_consumes
  malformedIf topicFilters.isEmpty
  return { packetId, topicFilters }

def decode (buf : List UInt8) : Outcome DecodeError (Subscribe × Nat) :=
  decodeFrame (expectFirst (packetType ||| flags)) (fun _ _ => readBody) buf

theorem encodedLen_announces (packet : Subscribe) : Announces packet.encodedLen packet.writeBody.size :=
  (Announces.refl 2).foldl (fun subscription same => by
    rw [Usize.saturatingAdd_assoc, Usize.saturatingAdd_assoc]
    exact same.plus _) _

theorem reads_readBody {content rest : List UInt8} {packet : Subscribe} :
    readBody.Reads content packet rest ↔ packet.validate = .ok () ∧ packet.writeBody.Writes content ∧ rest = [] := by
  obtain ⟨packetId, topicFilters⟩ := packet
  refine (reads_listBody readSubscription_inverts Subscribe.mk.inj).trans (and_congr_left' ?_)
  simp only [validate, bind_eq_ok, exists_const, refuseIf_eq_ok, beq_eq_false_iff_ne, List.isEmpty_eq_false_iff,
    List.any_eq_false, Bool.not_eq_true', Bool.not_eq_false]

theorem encodeToVec_eq_ok {packet : Subscribe} {written : List UInt8} :
    encodeToVec packet.encodedLen packet.encode = .ok written ↔
      packet.validate = .ok () ∧ Framed (packetType ||| flags) packet.writeBody written :=
  MqttRs.encodeToVec_eq_ok fun _ => packet.encodedLen_announces

theorem decode_eq_ok {packet : Subscribe} {buf : List UInt8} {n : Nat} :
    decode buf = .ok (packet, n) ↔
      packet.validate = .ok () ∧ n ≤ buf.length ∧ Framed (packetType ||| flags) packet.writeBody (buf.take n) :=
  decodeFrame_fixed_iff expectFirst_eq_ok reads_readBody

def layout (packet : Subscribe) : Layout := .exactly (packetType ||| flags) packet.writeBody packet.validate

theorem conforms : Conforms packetType layout decode encodedLen encode :=
  .exactly (fun _ => rfl) (decodeFrame_returns _ _) decode_eq_ok encodeToVec_eq_ok

end Subscribe

structure Unsubscribe where
  packetId : UInt16
  topicFilters : List String
  deriving DecidableEq

namespace Unsubscribe

def packetType : UInt8 := 0xA0

def flags : UInt8 := 0x02

def encodedLen (packet : Unsubscribe) : Nat :=
  packet.topicFilters.foldl
    (fun len topicFilter => Usize.saturatingAdd (Usize.saturatingAdd len 2) (asBytes topicFilter).length) 2

def validate (packet : Unsubscribe) : Except EncodeError Unit := do
  refuseIf (packet.packetId == 0) .zeroPacketId
  refuseIf packet.topicFilters.isEmpty .emptyTopicFilters
  refuseIf (packet.topicFilters.any fun topicFilter => !isValidTopicFilter topicFilter) .invalidTopicFilter

def writeBody (packet : Unsubscribe) : ByteWriter EncodeError :=
  writeU16 packet.packetId ++ .each writeString packet.topicFilters

def encode (packet : Unsubscribe) (buf : List UInt8) : Outcome EncodeError (List UInt8 × Nat) := do
  let _ ← .ofExcept packet.validate
  encodeFrame (packetType ||| flags) packet.encodedLen packet.writeBody buf

def readTopicFilter : ByteReader DecodeError String := do
  let topicFilter ← readString
  malformedIf !isValidTopicFilter topicFilter
  return topicFilter

theorem readTopicFilter_inverts :
    readTopicFilter.Inverts (fun topicFilter => isValidTopicFilter topicFilter = true) writeString := by
  intro bytes topicFilter rest
  simp only [readTopicFilter, ByteReader.reads_bind, reads_readString, reads_malformedIf, Bool.not_eq_eq_eq_not,
    Bool.not_false, ByteReader.reads_pure, exists_eq_right_right, exists_const, ↓existsAndEq, and_true,
    writes_writeString]
  tauto

theorem readTopicFilter_consumes : readTopicFilter.Consumes := readTopicFilter_inverts.consumes fun topicFilter => by
  rw [size_writeString]
  omega

def readBody : ByteReader DecodeError Unsubscribe := do
  let packetId ← readPacketId
  let topicFilters ← .untilEnd readTopicFilter readTopicFilter_consumes
  malformedIf topicFilters.isEmpty
  return { packetId, topicFilters }

def decode (buf : List UInt8) : Outcome DecodeError (Unsubscribe × Nat) :=
  decodeFrame (expectFirst (packetType ||| flags)) (fun _ _ => readBody) buf

theorem encodedLen_announces (packet : Unsubscribe) : Announces packet.encodedLen packet.writeBody.size :=
  (Announces.refl 2).foldl (fun topicFilter same => by
    rw [Usize.saturatingAdd_assoc]
    exact same.plus _) _

theorem reads_readBody {content rest : List UInt8} {packet : Unsubscribe} :
    readBody.Reads content packet rest ↔ packet.validate = .ok () ∧ packet.writeBody.Writes content ∧ rest = [] := by
  obtain ⟨packetId, topicFilters⟩ := packet
  refine (reads_listBody readTopicFilter_inverts Unsubscribe.mk.inj).trans (and_congr_left' ?_)
  simp only [validate, bind_eq_ok, exists_const, refuseIf_eq_ok, beq_eq_false_iff_ne, List.isEmpty_eq_false_iff,
    List.any_eq_false, Bool.not_eq_true', Bool.not_eq_false]

theorem encodeToVec_eq_ok {packet : Unsubscribe} {written : List UInt8} :
    encodeToVec packet.encodedLen packet.encode = .ok written ↔
      packet.validate = .ok () ∧ Framed (packetType ||| flags) packet.writeBody written :=
  MqttRs.encodeToVec_eq_ok fun _ => packet.encodedLen_announces

theorem decode_eq_ok {packet : Unsubscribe} {buf : List UInt8} {n : Nat} :
    decode buf = .ok (packet, n) ↔
      packet.validate = .ok () ∧ n ≤ buf.length ∧ Framed (packetType ||| flags) packet.writeBody (buf.take n) :=
  decodeFrame_fixed_iff expectFirst_eq_ok reads_readBody

def layout (packet : Unsubscribe) : Layout := .exactly (packetType ||| flags) packet.writeBody packet.validate

theorem conforms : Conforms packetType layout decode encodedLen encode :=
  .exactly (fun _ => rfl) (decodeFrame_returns _ _) decode_eq_ok encodeToVec_eq_ok

end Unsubscribe

structure SubAck where
  packetId : UInt16
  returnCodes : List SubscribeReturnCode
  deriving DecidableEq

namespace SubAck

def packetType : UInt8 := 0x90

def encodedLen (packet : SubAck) : Nat := 2 + packet.returnCodes.length

def validate (packet : SubAck) : Except EncodeError Unit := do
  refuseIf (packet.packetId == 0) .zeroPacketId
  refuseIf packet.returnCodes.isEmpty .emptyReturnCodes

def writeBody (packet : SubAck) : ByteWriter EncodeError :=
  writeU16 packet.packetId ++ .each writeCode packet.returnCodes

def encode (packet : SubAck) (buf : List UInt8) : Outcome EncodeError (List UInt8 × Nat) := do
  let _ ← .ofExcept packet.validate
  encodeFrame packetType packet.encodedLen packet.writeBody buf

def readBody : ByteReader DecodeError SubAck := do
  let packetId ← readPacketId
  let returnCodes ← .untilEnd readCode readCode_consumes
  malformedIf returnCodes.isEmpty
  return { packetId, returnCodes }

def decode (buf : List UInt8) : Outcome DecodeError (SubAck × Nat) :=
  decodeFrame (expectHeader packetType 0) (fun _ _ => readBody) buf

theorem encodedLen_announces (packet : SubAck) : Announces packet.encodedLen packet.writeBody.size := by
  show Announces _ (2 + (ByteWriter.each writeCode packet.returnCodes).size)
  rw [size_each_writeCode]
  exact .refl _

theorem reads_readBody {content rest : List UInt8} {packet : SubAck} :
    readBody.Reads content packet rest ↔ packet.validate = .ok () ∧ packet.writeBody.Writes content ∧ rest = [] := by
  obtain ⟨packetId, returnCodes⟩ := packet
  refine (reads_listBody readCode_inverts SubAck.mk.inj).trans (and_congr_left' ?_)
  simp only [validate, bind_eq_ok, exists_const, refuseIf_eq_ok, beq_eq_false_iff_ne, List.isEmpty_eq_false_iff,
    implies_true, and_true]

theorem encodeToVec_eq_ok {packet : SubAck} {written : List UInt8} :
    encodeToVec packet.encodedLen packet.encode = .ok written ↔
      packet.validate = .ok () ∧ Framed packetType packet.writeBody written :=
  MqttRs.encodeToVec_eq_ok fun _ => packet.encodedLen_announces

theorem decode_eq_ok {packet : SubAck} {buf : List UInt8} {n : Nat} :
    decode buf = .ok (packet, n) ↔
      packet.validate = .ok () ∧ n ≤ buf.length ∧ Framed packetType packet.writeBody (buf.take n) :=
  decodeFrame_expect_iff (by decide) (by decide) reads_readBody

def layout (packet : SubAck) : Layout := .exactly packetType packet.writeBody packet.validate

theorem conforms : Conforms packetType layout decode encodedLen encode :=
  .exactly (fun _ => rfl) (decodeFrame_returns _ _) decode_eq_ok encodeToVec_eq_ok

end SubAck

end MqttRs.V311
