import MqttRs.Codec.Frame
import MqttRs.Codec.QoS

/-! The bytes of CONNECT, CONNACK and PUBLISH that pack several fields. -/

namespace MqttRs

/-- The Connect Flags byte, from the flag for a clean session or start, the QoS and retain flag of a will and
    whether there is a password and a user name. -/
def connectFlags (clean : Bool) (will : Option (QoS × Bool)) (hasPassword hasUsername : Bool) : UInt8 :=
  let flags : UInt8 := 0
  let flags := if clean then flags ||| 0x02 else flags
  let flags :=
    match will with
    | some (qos, retain) =>
      let flags := flags ||| 0x04
      let flags := flags ||| (ByteCode.asU8 qos <<< 3)
      if retain then flags ||| 0x20 else flags
    | none => flags
  let flags := if hasPassword then flags ||| 0x40 else flags
  if hasUsername then flags ||| 0x80 else flags

/-- The will bits of a flags byte stand for the given will. -/
def WillFlags (flags : UInt8) : Option (QoS × Bool) → Prop
  | none => flags &&& 0x04 = 0 ∧ flags &&& 0x38 = 0
  | some (qos, retain) =>
    flags &&& 0x04 ≠ 0 ∧ ByteCode.fromU8 ((flags >>> 3) &&& 0x03) = some qos ∧ retain = decide (flags &&& 0x20 ≠ 0)

instance (flags : UInt8) (will : Option (QoS × Bool)) : Decidable (WillFlags flags will) :=
  match will with
  | none => inferInstanceAs (Decidable (_ ∧ _))
  | some (_, _) => inferInstanceAs (Decidable (_ ∧ _ ∧ _))

theorem connectFlags_fields (clean : Bool) (will : Option (QoS × Bool)) (hasPassword hasUsername : Bool) :
    let flags := connectFlags clean will hasPassword hasUsername
    flags &&& 0x01 = 0 ∧ clean = decide (flags &&& 0x02 ≠ 0) ∧ WillFlags flags will ∧
      hasPassword = decide (flags &&& 0x40 ≠ 0) ∧ hasUsername = decide (flags &&& 0x80 ≠ 0) := by
  revert clean hasPassword hasUsername
  cases will with
  | none => decide
  | some given =>
    obtain ⟨qos, retain⟩ := given
    cases qos <;> cases retain <;> decide

theorem eq_connectFlags_of_none : ∀ flags : UInt8, flags &&& 0x01 = 0 → WillFlags flags none →
    flags = connectFlags (decide (flags &&& 0x02 ≠ 0)) none (decide (flags &&& 0x40 ≠ 0))
      (decide (flags &&& 0x80 ≠ 0)) :=
  UInt8.forall_of_ofNat (by decide +kernel)

theorem eq_connectFlags_of_some : ∀ flags : UInt8, flags &&& 0x01 = 0 → flags &&& 0x04 ≠ 0 →
    ∀ qos ∈ (ByteCode.fromU8 ((flags >>> 3) &&& 0x03) : Option QoS),
      flags = connectFlags (decide (flags &&& 0x02 ≠ 0)) (some (qos, decide (flags &&& 0x20 ≠ 0)))
        (decide (flags &&& 0x40 ≠ 0)) (decide (flags &&& 0x80 ≠ 0)) :=
  UInt8.forall_of_ofNat (by decide +kernel)

theorem eq_connectFlags_iff (flags : UInt8) (clean : Bool) (will : Option (QoS × Bool)) (hasPassword hasUsername : Bool) :
    flags = connectFlags clean will hasPassword hasUsername ↔
      flags &&& 0x01 = 0 ∧ clean = decide (flags &&& 0x02 ≠ 0) ∧ WillFlags flags will ∧
        hasPassword = decide (flags &&& 0x40 ≠ 0) ∧ hasUsername = decide (flags &&& 0x80 ≠ 0) := by
  constructor
  · rintro rfl
    exact connectFlags_fields clean will hasPassword hasUsername
  · rintro ⟨reserved, rfl, fields, rfl, rfl⟩
    cases will with
    | none => exact eq_connectFlags_of_none flags reserved fields
    | some given =>
      obtain ⟨qos, retain⟩ := given
      obtain ⟨present, known, rfl⟩ := fields
      exact eq_connectFlags_of_some flags reserved present qos known

theorem flags_of_reserved (flags : UInt8) : flags &&& 0xFE = 0 → flags = 0x00 ∨ flags = 0x01 := by
  revert flags
  exact UInt8.forall_of_ofNat (by decide +kernel)

def publishFlags (dup : Bool) (qos : QoS) (retain : Bool) : UInt8 :=
  let flags : UInt8 := 0
  let flags := if dup then flags ||| 0x08 else flags
  let flags := flags ||| (ByteCode.asU8 qos <<< 1)
  if retain then flags ||| 0x01 else flags

theorem high_publishFlags (dup : Bool) (qos : QoS) (retain : Bool) : (0x30 ||| publishFlags dup qos retain) &&& 0xF0 = 0x30 := by
  cases dup <;> cases qos <;> cases retain <;> rfl

/-- `dup`, `qos` and `retain` from the first byte of a PUBLISH. -/
def publishHeader (first : UInt8) : Except DecodeError (Bool × QoS × Bool) :=
  if first &&& 0xF0 ≠ 0x30 then .error .invalidPacketType
  else
    let flags := first &&& 0x0F
    match (ByteCode.fromU8 ((flags >>> 1) &&& 0x03) : Option QoS) with
    | none => .error .invalidPacketFlags
    | some qos =>
      let dup := decide (flags &&& 0x08 ≠ 0)
      let retain := decide (flags &&& 0x01 ≠ 0)
      if qos = .atMostOnce && dup then .error .invalidPacketFlags else .ok (dup, qos, retain)

theorem publishHeader_publishFlags (dup : Bool) (qos : QoS) (retain : Bool) :
    (qos = .atMostOnce && dup) = false →
      publishHeader (0x30 ||| publishFlags dup qos retain) = .ok (dup, qos, retain) := by
  cases dup <;> cases qos <;> cases retain <;> decide

theorem eq_publishFlags_of_toOption : ∀ first : UInt8, ∀ fields ∈ (publishHeader first).toOption,
    first = 0x30 ||| publishFlags fields.1 fields.2.1 fields.2.2 ∧ (fields.2.1 = .atMostOnce && fields.1) = false :=
  UInt8.forall_of_ofNat (by decide +kernel)

theorem publishHeader_eq_ok (first : UInt8) (dup : Bool) (qos : QoS) (retain : Bool) :
    publishHeader first = .ok (dup, qos, retain) ↔
      first = 0x30 ||| publishFlags dup qos retain ∧ (qos = .atMostOnce && dup) = false := by
  constructor
  · intro known
    exact eq_publishFlags_of_toOption first (dup, qos, retain) (by rw [known]; rfl)
  · rintro ⟨rfl, allowed⟩
    exact publishHeader_publishFlags dup qos retain allowed

theorem decodeFrame_publish_iff {α : Type} {readBody : Bool → QoS → Bool → ByteReader DecodeError α} {accepts : α → Prop}
    {dup retain : α → Bool} {qos : α → QoS} {writer : α → ByteWriter EncodeError}
    (reads : ∀ {givenDup givenQos givenRetain content value rest},
      (readBody givenDup givenQos givenRetain).Reads content value rest ∧ (givenQos = .atMostOnce && givenDup) = false ↔
        (givenDup = dup value ∧ givenQos = qos value ∧ givenRetain = retain value) ∧ accepts value ∧
          (writer value).Writes content ∧ rest = [])
    {buf : List UInt8} {value : α} {n : Nat} :
    decodeFrame publishHeader (fun (dup, qos, retain) _ => readBody dup qos retain) buf = .ok (value, n) ↔
      accepts value ∧ n ≤ buf.length ∧
        Framed (0x30 ||| publishFlags (dup value) (qos value) (retain value)) (writer value) (buf.take n) := by
  refine @decodeFrame_iff_framed _ _ publishHeader _ accepts
    (fun value => 0x30 ||| publishFlags (dup value) (qos value) (retain value)) writer ?_ ?_ buf value n
  · intro byte key bytes value rest accepted read
    obtain ⟨givenDup, givenQos, givenRetain⟩ := key
    exact (reads.mp ⟨read, ((publishHeader_eq_ok ..).mp accepted).2⟩).2.2.2
  · intro byte content value
    constructor
    · intro read
      obtain ⟨⟨givenDup, givenQos, givenRetain⟩, accepted, read⟩ := read
      obtain ⟨rfl, dupAllowed⟩ := (publishHeader_eq_ok ..).mp accepted
      obtain ⟨⟨rfl, rfl, rfl⟩, valid, writes, _⟩ := reads.mp ⟨read, dupAllowed⟩
      exact ⟨valid, rfl, writes⟩
    · intro written
      obtain ⟨valid, rfl, writes⟩ := written
      obtain ⟨read, dupAllowed⟩ := reads.mpr ⟨⟨rfl, rfl, rfl⟩, valid, writes, rfl⟩
      exact ⟨(dup value, qos value, retain value), (publishHeader_eq_ok ..).mpr ⟨rfl, dupAllowed⟩, read⟩

end MqttRs
