import MqttRs.Codec.QoS
import MqttRs.V5.Properties
import MqttRs.V5.ReasonCodes

namespace MqttRs.V5

/-- A packet id, properties and a list of items up to the end of the frame, as the packets of this module have them. -/
theorem reads_listBody {β γ : Type} {item : ByteReader DecodeError β} {Valid : β → Prop} {write : β → ByteWriter EncodeError}
    (inverts : item.Inverts Valid write) {consumes : item.Consumes} {allowed : Properties → Except DecodeError Unit}
    {make : UInt16 → List β → Properties → γ}
    (injective : ∀ {id items properties id' items' properties'},
      make id items properties = make id' items' properties' → id = id' ∧ items = items' ∧ properties = properties')
    {content rest : List UInt8} {packetId : UInt16} {items : List β} {properties : Properties} :
    ByteReader.Reads (do
        let packetId ← readPacketId
        let properties ← readProperties false
        .ofExcept (allowed properties)
        let items ← .untilEnd item consumes
        malformedIf items.isEmpty
        return make packetId items properties) content (make packetId items properties) rest ↔
      (packetId ≠ 0 ∧ items ≠ [] ∧ (∀ item ∈ items, Valid item) ∧ validateProperties allowed false properties = .ok ()) ∧
        (writeU16 packetId ++ writeProperties properties ++ .each write items).Writes content ∧ rest = [] := by
  simp only [ByteReader.reads_bind, reads_readPacketId, reads_readProperties, ByteReader.reads_ofExcept,
    ByteReader.reads_untilEnd, inverts.readsAll_iff, reads_malformedIf, List.isEmpty_eq_false_iff,
    ByteReader.reads_pure, validateProperties_eq_ok, ByteWriter.writes_append, writes_writeU16]
  constructor
  · intro read
    obtain ⟨_, _, ⟨nonzero, rfl⟩, _, _, ⟨distinct, front, writes, rfl⟩, _, _, ⟨known, rfl⟩, _, _, ⟨⟨valid, listWrites⟩, rfl⟩,
      _, _, ⟨nonempty, rfl⟩, same, rfl⟩ := read
    obtain ⟨rfl, rfl, rfl⟩ := injective same
    exact ⟨⟨nonzero, nonempty, valid, known, distinct⟩,
      ⟨_, _, ⟨_, _, rfl, writes, rfl⟩, listWrites, (List.append_assoc ..).symm⟩, rfl⟩
  · intro written
    obtain ⟨⟨nonzero, nonempty, valid, known, distinct⟩, ⟨_, listBytes, ⟨_, front, rfl, writes, rfl⟩, listWrites, rfl⟩, rfl⟩ :=
      written
    exact ⟨packetId, front ++ listBytes, ⟨nonzero, List.append_assoc ..⟩, properties, listBytes,
      ⟨distinct, front, writes, rfl⟩, (), listBytes, ⟨known, rfl⟩, items, [], ⟨⟨valid, listWrites⟩, rfl⟩,
      (), [], ⟨nonempty, rfl⟩, rfl, rfl⟩

structure Subscription where
  topicFilter : String
  qos : QoS
  noLocal : Bool
  retainAsPublished : Bool
  retainHandling : RetainHandling
  deriving DecidableEq

namespace Subscription

def optionsOf (qos : QoS) (noLocal retainAsPublished : Bool) (retainHandling : RetainHandling) : UInt8 :=
  let options := ByteCode.asU8 qos
  let options := if noLocal then options ||| 0x04 else options
  let options := if retainAsPublished then options ||| 0x08 else options
  options ||| (ByteCode.asU8 retainHandling <<< 4)

def optionsByte (subscription : Subscription) : UInt8 :=
  optionsOf subscription.qos subscription.noLocal subscription.retainAsPublished subscription.retainHandling

theorem optionsOf_fields (qos : QoS) (noLocal retainAsPublished : Bool) (retainHandling : RetainHandling) :
    let options := optionsOf qos noLocal retainAsPublished retainHandling
    ByteCode.fromU8 (options &&& 0x03) = some qos ∧ decide (options &&& 0x04 ≠ 0) = noLocal ∧
      decide (options &&& 0x08 ≠ 0) = retainAsPublished ∧
      ByteCode.fromU8 ((options >>> 4) &&& 0x03) = some retainHandling ∧ options &&& 0xC0 = 0 := by
  revert noLocal retainAsPublished
  cases qos <;> cases retainHandling <;> decide

theorem eq_optionsOf : ∀ options : UInt8, options &&& 0xC0 = 0 →
    ∀ qos ∈ (ByteCode.fromU8 (options &&& 0x03) : Option QoS),
      ∀ retainHandling ∈ (ByteCode.fromU8 ((options >>> 4) &&& 0x03) : Option RetainHandling),
        options = optionsOf qos (decide (options &&& 0x04 ≠ 0)) (decide (options &&& 0x08 ≠ 0)) retainHandling :=
  UInt8.forall_of_ofNat (by decide +kernel)

theorem optionsOf_eq_iff (options : UInt8) (qos : QoS) (noLocal retainAsPublished : Bool) (retainHandling : RetainHandling) :
    ByteCode.fromU8 (options &&& 0x03) = some qos ∧ decide (options &&& 0x04 ≠ 0) = noLocal ∧
        decide (options &&& 0x08 ≠ 0) = retainAsPublished ∧
        ByteCode.fromU8 ((options >>> 4) &&& 0x03) = some retainHandling ∧ options &&& 0xC0 = 0 ↔
      options = optionsOf qos noLocal retainAsPublished retainHandling := by
  constructor
  · rintro ⟨knownQos, rfl, rfl, knownHandling, reserved⟩
    exact eq_optionsOf options reserved qos knownQos retainHandling knownHandling
  · rintro rfl
    exact optionsOf_fields qos noLocal retainAsPublished retainHandling

def validate (subscription : Subscription) : Except EncodeError Unit := do
  refuseIf (!isValidV5TopicFilter subscription.topicFilter) .invalidTopicFilter
  refuseIf (subscription.noLocal && startsWithShare subscription.topicFilter) .sharedSubscriptionNoLocal

def write (subscription : Subscription) : ByteWriter EncodeError :=
  writeString subscription.topicFilter ++ .byte subscription.optionsByte

def read : ByteReader DecodeError Subscription := do
  let topicFilter ← readString
  malformedIf !isValidV5TopicFilter topicFilter
  let options ← readByte
  let qos ← .okOr (ByteCode.fromU8 (options &&& 0x03)) .malformedPacket
  let noLocal := options &&& 0x04 ≠ 0
  let retainAsPublished := options &&& 0x08 ≠ 0
  let retainHandling ← .okOr (ByteCode.fromU8 ((options >>> 4) &&& 0x03)) .malformedPacket
  malformedIf (options &&& 0xC0 ≠ 0)
  malformedIf (noLocal && startsWithShare topicFilter)
  return { topicFilter, qos, noLocal, retainAsPublished, retainHandling }

theorem read_inverts : read.Inverts (·.validate = .ok ()) write := by
  intro bytes subscription rest
  obtain ⟨topicFilter, qos, noLocal, retainAsPublished, retainHandling⟩ := subscription
  simp only [read, validate, write, bind_eq_ok, optionsByte, ByteReader.reads_bind, reads_readString, reads_malformedIf,
    reads_readByte, ByteReader.reads_okOr, ByteReader.reads_pure, mk.injEq, ByteWriter.writes_append, writes_writeString,
    ByteWriter.writes_byte, refuseIf_eq_ok]
  constructor
  · intro read
    obtain ⟨_, _, ⟨encodable, rfl⟩, _, _, ⟨valid, rfl⟩, options, _, rfl, _, _, ⟨knownQos, rfl⟩, _, _, ⟨knownHandling, rfl⟩, _,
      _, ⟨reserved, rfl⟩, _, _, ⟨notShared, rfl⟩, ⟨rfl, rfl, rfl, rfl, rfl⟩, rfl⟩ := read
    have whole := (optionsOf_eq_iff options _ _ _ _).mp
      ⟨knownQos, rfl, rfl, knownHandling, by simpa using reserved⟩
    exact ⟨⟨(), valid, notShared⟩, _, ⟨_, _, ⟨encodable, rfl⟩, rfl, rfl⟩, by rw [← whole, List.append_assoc]; rfl⟩
  · intro written
    obtain ⟨⟨_, valid, notShared⟩, _, ⟨_, _, ⟨encodable, rfl⟩, rfl, rfl⟩, rfl⟩ := written
    obtain ⟨knownQos, localBit, publishedBit, knownHandling, reserved⟩ :=
      (optionsOf_eq_iff _ qos noLocal retainAsPublished retainHandling).mpr rfl
    refine ⟨topicFilter, _, ⟨encodable, List.append_assoc ..⟩, (), _, ⟨valid, rfl⟩, _, rest, rfl, qos, _, ⟨knownQos, rfl⟩,
      retainHandling, _, ⟨knownHandling, rfl⟩, (), _, ⟨by simpa using reserved, rfl⟩, (), _, ⟨?_, rfl⟩,
      ⟨rfl, rfl, localBit, publishedBit, rfl⟩, rfl⟩
    rw [localBit]
    exact notShared

theorem read_consumes : read.Consumes := read_inverts.consumes fun subscription => by
  show 0 < _ + 1
  omega

end Subscription

structure Subscribe where
  packetId : UInt16
  subscriptions : List Subscription
  properties : Properties
  deriving DecidableEq

namespace Subscribe

def packetType : UInt8 := 0x80

def flags : UInt8 := 0x02

def encodedLen (packet : Subscribe) : Nat :=
  packet.subscriptions.foldl
    (fun len subscription =>
      Usize.saturatingAdd (Usize.saturatingAdd (Usize.saturatingAdd len 2) (asBytes subscription.topicFilter).length) 1)
    (Usize.saturatingAdd 2 packet.properties.encodedLen)

def validate (packet : Subscribe) : Except EncodeError Unit := do
  refuseIf (packet.packetId == 0) .zeroPacketId
  refuseIf packet.subscriptions.isEmpty .emptySubscriptions
  forM packet.subscriptions Subscription.validate
  validateProperties Properties.validateForSubscribe false packet.properties

def writeBody (packet : Subscribe) : ByteWriter EncodeError :=
  writeU16 packet.packetId ++ writeProperties packet.properties ++ .each Subscription.write packet.subscriptions

def encode (packet : Subscribe) (buf : List UInt8) : Outcome EncodeError (List UInt8 × Nat) := do
  let _ ← .ofExcept packet.validate
  encodeFrame (packetType ||| flags) packet.encodedLen packet.writeBody buf

def readBody : ByteReader DecodeError Subscribe := do
  let packetId ← readPacketId
  let properties ← readProperties false
  .ofExcept properties.validateForSubscribe
  let subscriptions ← .untilEnd Subscription.read Subscription.read_consumes
  malformedIf subscriptions.isEmpty
  return { packetId, subscriptions, properties }

def decode (buf : List UInt8) : Outcome DecodeError (Subscribe × Nat) :=
  decodeFrame (expectHeader packetType flags) (fun _ _ => readBody) buf

theorem encodedLen_announces (packet : Subscribe) : Announces packet.encodedLen packet.writeBody.size :=
  ((Announces.refl 2).add packet.properties.encodedLen_announces).foldl (fun subscription same => by
    rw [Usize.saturatingAdd_assoc, Usize.saturatingAdd_assoc]
    exact same.plus _) _

theorem reads_readBody {content rest : List UInt8} {packet : Subscribe} :
    readBody.Reads content packet rest ↔ packet.validate = .ok () ∧ packet.writeBody.Writes content ∧ rest = [] := by
  obtain ⟨packetId, subscriptions, properties⟩ := packet
  refine (reads_listBody Subscription.read_inverts Subscribe.mk.inj).trans (and_congr_left' ?_)
  simp only [validate, bind_eq_ok, exists_const, refuseIf_eq_ok, beq_eq_false_iff_ne, List.isEmpty_eq_false_iff,
    forM_eq_ok]

theorem encodeToVec_eq_ok {packet : Subscribe} {written : List UInt8} :
    encodeToVec packet.encodedLen packet.encode = .ok written ↔
      packet.validate = .ok () ∧ Framed (packetType ||| flags) packet.writeBody written :=
  MqttRs.encodeToVec_eq_ok fun _ => packet.encodedLen_announces

theorem decode_eq_ok {packet : Subscribe} {buf : List UInt8} {n : Nat} :
    decode buf = .ok (packet, n) ↔
      packet.validate = .ok () ∧ n ≤ buf.length ∧ Framed (packetType ||| flags) packet.writeBody (buf.take n) :=
  decodeFrame_expect_iff (by decide) (by decide) reads_readBody

def layout (packet : Subscribe) : Layout := .exactly (packetType ||| flags) packet.writeBody packet.validate

theorem conforms : Conforms packetType layout decode encodedLen encode :=
  .exactly (fun _ => rfl) (decodeFrame_returns _ _) decode_eq_ok encodeToVec_eq_ok

end Subscribe

structure Unsubscribe where
  packetId : UInt16
  topicFilters : List String
  properties : Properties
  deriving DecidableEq

namespace Unsubscribe

def packetType : UInt8 := 0xA0

def flags : UInt8 := 0x02

def encodedLen (packet : Unsubscribe) : Nat :=
  packet.topicFilters.foldl
    (fun len topicFilter => Usize.saturatingAdd (Usize.saturatingAdd len 2) (asBytes topicFilter).length)
    (Usize.saturatingAdd 2 packet.properties.encodedLen)

def validateTopicFilter (topicFilter : String) : Except EncodeError Unit :=
  refuseIf (!isValidV5TopicFilter topicFilter) .invalidTopicFilter

def validate (packet : Unsubscribe) : Except EncodeError Unit := do
  refuseIf (packet.packetId == 0) .zeroPacketId
  refuseIf packet.topicFilters.isEmpty .emptyTopicFilters
  forM packet.topicFilters validateTopicFilter
  validateProperties Properties.validateForUnsubscribe false packet.properties

def writeBody (packet : Unsubscribe) : ByteWriter EncodeError :=
  writeU16 packet.packetId ++ writeProperties packet.properties ++ .each writeString packet.topicFilters

def encode (packet : Unsubscribe) (buf : List UInt8) : Outcome EncodeError (List UInt8 × Nat) := do
  let _ ← .ofExcept packet.validate
  encodeFrame (packetType ||| flags) packet.encodedLen packet.writeBody buf

/-- The length in front of a topic filter and the bytes behind it are inside the frame. -/
def checkFilterLen : ByteReader DecodeError Unit := do
  let filterLen ← readU16
  .room filterLen .malformedPacket

def readTopicFilter : ByteReader DecodeError String := do
  .peek checkFilterLen
  let topicFilter ← .slice Utf8String.decoder
  malformedIf !isValidV5TopicFilter topicFilter
  return topicFilter

theorem reads_checkFilterLen {text : String} {rest : List UInt8} (encodable : Utf8String.Encodable text) :
    checkFilterLen.Reads (Utf8String.bytes text ++ rest) () (asBytes text ++ rest) := by
  simp only [checkFilterLen, ByteReader.reads_bind, reads_readU16, ByteReader.reads_room, Utf8String.bytes, prefixed]
  have len : (UInt16.ofNat (asBytes text).length).toNat = (asBytes text).length :=
    UInt16.toNat_ofNat_of_lt (show _ < 65536 by have short := encodable.2; omega)
  refine ⟨_, _, List.append_assoc .., ?_, rfl⟩
  rw [len, List.length_append]
  omega

theorem readTopicFilter_inverts :
    readTopicFilter.Inverts (fun topicFilter => isValidV5TopicFilter topicFilter = true) writeString := by
  intro bytes topicFilter rest
  simp only [readTopicFilter, ByteReader.reads_bind, ByteReader.reads_peek, ByteReader.reads_slice, Utf8String.reads_decoder,
    reads_malformedIf, ByteReader.reads_pure, writes_writeString, Bool.not_eq_false']
  constructor
  · intro read
    obtain ⟨_, _, ⟨rfl, _⟩, _, _, ⟨encodable, rfl⟩, _, _, ⟨valid, rfl⟩, rfl, rfl⟩ := read
    exact ⟨valid, _, ⟨encodable, rfl⟩, rfl⟩
  · intro written
    obtain ⟨valid, _, ⟨encodable, rfl⟩, rfl⟩ := written
    exact ⟨(), _, ⟨rfl, _, reads_checkFilterLen encodable⟩, topicFilter, rest, ⟨encodable, rfl⟩, (), _, ⟨valid, rfl⟩, rfl, rfl⟩

theorem readTopicFilter_consumes : readTopicFilter.Consumes := readTopicFilter_inverts.consumes fun topicFilter => by
  rw [size_writeString]
  omega

def readBody : ByteReader DecodeError Unsubscribe := do
  let packetId ← readPacketId
  let properties ← readProperties false
  .ofExcept properties.validateForUnsubscribe
  let topicFilters ← .untilEnd readTopicFilter readTopicFilter_consumes
  malformedIf topicFilters.isEmpty
  return { packetId, topicFilters, properties }

def decode (buf : List UInt8) : Outcome DecodeError (Unsubscribe × Nat) :=
  decodeFrame (expectHeader packetType flags) (fun _ _ => readBody) buf

theorem encodedLen_announces (packet : Unsubscribe) : Announces packet.encodedLen packet.writeBody.size :=
  ((Announces.refl 2).add packet.properties.encodedLen_announces).foldl (fun topicFilter same => by
    rw [Usize.saturatingAdd_assoc]
    exact same.plus _) _

theorem reads_readBody {content rest : List UInt8} {packet : Unsubscribe} :
    readBody.Reads content packet rest ↔ packet.validate = .ok () ∧ packet.writeBody.Writes content ∧ rest = [] := by
  obtain ⟨packetId, topicFilters, properties⟩ := packet
  refine (reads_listBody readTopicFilter_inverts Unsubscribe.mk.inj).trans (and_congr_left' ?_)
  simp only [validate, bind_eq_ok, exists_const, refuseIf_eq_ok, beq_eq_false_iff_ne, List.isEmpty_eq_false_iff,
    forM_eq_ok, validateTopicFilter, Bool.not_eq_false']

theorem encodeToVec_eq_ok {packet : Unsubscribe} {written : List UInt8} :
    encodeToVec packet.encodedLen packet.encode = .ok written ↔
      packet.validate = .ok () ∧ Framed (packetType ||| flags) packet.writeBody written :=
  MqttRs.encodeToVec_eq_ok fun _ => packet.encodedLen_announces

theorem decode_eq_ok {packet : Unsubscribe} {buf : List UInt8} {n : Nat} :
    decode buf = .ok (packet, n) ↔
      packet.validate = .ok () ∧ n ≤ buf.length ∧ Framed (packetType ||| flags) packet.writeBody (buf.take n) :=
  decodeFrame_expect_iff (by decide) (by decide) reads_readBody

def layout (packet : Unsubscribe) : Layout := .exactly (packetType ||| flags) packet.writeBody packet.validate

theorem conforms : Conforms packetType layout decode encodedLen encode :=
  .exactly (fun _ => rfl) (decodeFrame_returns _ _) decode_eq_ok encodeToVec_eq_ok

end Unsubscribe

/-- The fields of SUBACK and UNSUBACK. -/
structure ReasonCodesPacket (γ : Type) where
  packetId : UInt16
  reasonCodes : List γ
  properties : Properties
  deriving DecidableEq

namespace ReasonCodesPacket

variable {γ : Type} [ByteCode γ]

def encodedLen (packet : ReasonCodesPacket γ) : Nat :=
  Usize.saturatingAdd (Usize.saturatingAdd 2 packet.properties.encodedLen) packet.reasonCodes.length

def validate (allowed : Properties → Except DecodeError Unit) (packet : ReasonCodesPacket γ) : Except EncodeError Unit := do
  refuseIf (packet.packetId == 0) .zeroPacketId
  refuseIf packet.reasonCodes.isEmpty .emptyReasonCodes
  validateProperties allowed false packet.properties

def writeBody (packet : ReasonCodesPacket γ) : ByteWriter EncodeError :=
  writeU16 packet.packetId ++ writeProperties packet.properties ++ .each writeCode packet.reasonCodes

def readBody (allowed : Properties → Except DecodeError Unit) : ByteReader DecodeError (ReasonCodesPacket γ) := do
  let packetId ← readPacketId
  let properties ← readProperties false
  .ofExcept (allowed properties)
  let reasonCodes ← .untilEnd readCode readCode_consumes
  malformedIf reasonCodes.isEmpty
  return { packetId, reasonCodes, properties }

variable {packetType : UInt8} {allowed : Properties → Except DecodeError Unit}

theorem encodedLen_announces (packet : ReasonCodesPacket γ) : Announces packet.encodedLen packet.writeBody.size := by
  have sum := ((Announces.refl 2).add packet.properties.encodedLen_announces).plus packet.reasonCodes.length
  rw [← size_each_writeCode] at sum
  rw [encodedLen, ← size_each_writeCode]
  exact sum

theorem reads_readBody {content rest : List UInt8} {packet : ReasonCodesPacket γ} :
    (readBody allowed).Reads content packet rest ↔
      packet.validate allowed = .ok () ∧ packet.writeBody.Writes content ∧ rest = [] := by
  obtain ⟨packetId, reasonCodes, properties⟩ := packet
  refine (reads_listBody readCode_inverts ReasonCodesPacket.mk.inj).trans (and_congr_left' ?_)
  simp only [validate, bind_eq_ok, exists_const, refuseIf_eq_ok, beq_eq_false_iff_ne, List.isEmpty_eq_false_iff,
    implies_true, true_and]

theorem conforms (high : (packetType ||| 0) &&& 0xF0 = packetType) (low : (packetType ||| 0) &&& 0x0F = 0) :
    Conforms packetType (fun packet : ReasonCodesPacket γ => .exactly (packetType ||| 0) packet.writeBody (packet.validate allowed))
      (decodeFrame (expectHeader packetType 0) fun _ _ => readBody allowed) encodedLen
      (fun packet buf => do
        let _ ← .ofExcept (packet.validate allowed)
        encodeFrame (packetType ||| 0) packet.encodedLen packet.writeBody buf) :=
  .exactly (fun _ => high) (decodeFrame_returns _ _) (decodeFrame_expect_iff high low reads_readBody)
    (encodeToVec_eq_ok fun _ => encodedLen_announces _)

end ReasonCodesPacket

abbrev SubAck := ReasonCodesPacket SubAckReasonCode

namespace SubAck

def packetType : UInt8 := 0x90

def validate (packet : SubAck) : Except EncodeError Unit := ReasonCodesPacket.validate Properties.validateForSuback packet

def encode (packet : SubAck) (buf : List UInt8) : Outcome EncodeError (List UInt8 × Nat) := do
  let _ ← .ofExcept (validate packet)
  encodeFrame packetType packet.encodedLen packet.writeBody buf

def decode (buf : List UInt8) : Outcome DecodeError (SubAck × Nat) :=
  decodeFrame (expectHeader packetType 0) (fun _ _ => ReasonCodesPacket.readBody Properties.validateForSuback) buf

def layout (packet : SubAck) : Layout := .exactly packetType packet.writeBody (validate packet)

theorem conforms : Conforms packetType layout decode ReasonCodesPacket.encodedLen encode :=
  ReasonCodesPacket.conforms (by decide) (by decide)

end SubAck

abbrev UnsubAck := ReasonCodesPacket UnsubAckReasonCode

namespace UnsubAck

def packetType : UInt8 := 0xB0

def validate (packet : UnsubAck) : Except EncodeError Unit := ReasonCodesPacket.validate Properties.validateForUnsuback packet

def encode (packet : UnsubAck) (buf : List UInt8) : Outcome EncodeError (List UInt8 × Nat) := do
  let _ ← .ofExcept (validate packet)
  encodeFrame packetType packet.encodedLen packet.writeBody buf

def decode (buf : List UInt8) : Outcome DecodeError (UnsubAck × Nat) :=
  decodeFrame (expectHeader packetType 0) (fun _ _ => ReasonCodesPacket.readBody Properties.validateForUnsuback) buf

def layout (packet : UnsubAck) : Layout := .exactly packetType packet.writeBody (validate packet)

theorem conforms : Conforms packetType layout decode ReasonCodesPacket.encodedLen encode :=
  ReasonCodesPacket.conforms (by decide) (by decide)

end UnsubAck

end MqttRs.V5
