import Mathlib.Tactic.Common

namespace MqttRs

inductive DecodeError where
  | insufficientData
  | malformedPacket
  | invalidPacketType
  | unexpectedPacket (packetType : UInt8)
  | invalidPacketFlags
  | invalidUtf8
  | packetTooLarge (size limit : Nat)
  deriving DecidableEq

def malformedIfInsufficient : DecodeError → DecodeError
  | .insufficientData => .malformedPacket
  | other => other

theorem malformedIfInsufficient_ne (reason : DecodeError) : malformedIfInsufficient reason ≠ .insufficientData := by
  cases reason <;> nofun

inductive EncodeInvalidField where
  | emptyTopicName
  | wildcardInTopicName
  | missingPacketId
  | unexpectedPacketId
  | zeroPacketId
  | dupWithQos0
  | emptySubscriptions
  | emptyTopicFilters
  | emptyReasonCodes
  | emptyReturnCodes
  | invalidTopicFilter
  | sharedSubscriptionNoLocal
  | propertyValidationFailed
  | duplicatePropertyIdentifier
  | invalidPropertyValue
  | invalidPayloadUtf8
  | invalidReasonCode
  | sessionPresentWithNonSuccess
  | nullInUtf8String
  | passwordWithoutUsername
  | emptyClientIdWithoutCleanSession
  deriving DecidableEq

inductive EncodeError where
  | bufferTooSmall
  | packetTooLarge (size limit : Nat)
  | invalidField (reason : EncodeInvalidField)
  deriving DecidableEq

/-- `if condition { return Err(EncodeError::InvalidField { reason }) }` -/
def refuseIf (condition : Bool) (reason : EncodeInvalidField) : Except EncodeError Unit :=
  if condition then .error (.invalidField reason) else .ok ()

@[simp] theorem refuseIf_eq_ok {condition : Bool} {reason : EncodeInvalidField} {done : Unit} :
    refuseIf condition reason = .ok done ↔ condition = false := by
  cases condition <;> simp [refuseIf]

@[simp] theorem isOk_iff {ε : Type} {checks : Except ε Unit} : checks.isOk = true ↔ checks = .ok () := by
  cases checks with
  | error reason => exact ⟨(nomatch ·), (nomatch ·)⟩
  | ok done => exact ⟨fun _ => rfl, fun _ => rfl⟩

theorem bind_eq_ok {ε α β : Type} {first : Except ε α} {next : α → Except ε β} {value : β} :
    (first >>= next) = .ok value ↔ ∃ given, first = .ok given ∧ next given = .ok value := by
  cases first with
  | error reason => exact ⟨(nomatch ·), fun ⟨_, wrong, _⟩ => nomatch wrong⟩
  | ok given =>
    show next given = _ ↔ _
    simp

theorem bind_eq_error {ε α β : Type} {first : Except ε α} {next : α → Except ε β} {reason : ε} :
    (first >>= next) = .error reason ↔ first = .error reason ∨ ∃ given, first = .ok given ∧ next given = .error reason := by
  cases first with
  | error other =>
    show Except.error other = _ ↔ _
    simp
  | ok given =>
    show next given = _ ↔ _
    simp

@[simp] theorem refuseIf_eq_error {condition : Bool} {reason : EncodeInvalidField} {other : EncodeError} :
    refuseIf condition reason = .error other ↔ condition = true ∧ .invalidField reason = other := by
  cases condition <;> simp [refuseIf]

theorem forM_eq_ok {ε α : Type} {check : α → Except ε Unit} {values : List α} {done : Unit} :
    forM values check = .ok done ↔ ∀ value ∈ values, check value = .ok () := by
  induction values with
  | nil =>
    constructor
    · intro _ value member
      cases member
    · intro _
      rfl
  | cons value values ih =>
    rw [List.forall_mem_cons, ← ih]
    rw [List.forM_cons, bind_eq_ok]
    constructor
    · intro both
      obtain ⟨_, first, rest⟩ := both
      exact ⟨first, rest⟩
    · intro both
      exact ⟨(), both.1, both.2⟩

/-- A loop of checks fails as one of them does. -/
theorem forM_ne_error {ε α : Type} {reason : ε} {check : α → Except ε Unit} (checks : ∀ value, check value ≠ .error reason)
    (values : List α) : forM values check ≠ .error reason := by
  induction values with
  | nil => exact nofun
  | cons value values ih =>
    rw [List.forM_cons, Ne, bind_eq_error]
    rintro (here | ⟨_, -, later⟩)
    · exact checks value here
    · exact ih later

end MqttRs
