import MqttRs.Library.ByteCode

namespace MqttRs.V311

inductive ConnectReturnCode where
  | accepted
  | unacceptableProtocolVersion
  | identifierRejected
  | serverUnavailable
  | badUserNameOrPassword
  | notAuthorized
  deriving DecidableEq

instance : ByteCode ConnectReturnCode where
  fromU8
    | 0x00 => some .accepted
    | 0x01 => some .unacceptableProtocolVersion
    | 0x02 => some .identifierRejected
    | 0x03 => some .serverUnavailable
    | 0x04 => some .badUserNameOrPassword
    | 0x05 => some .notAuthorized
    | _ => none
  asU8
    | .accepted => 0x00
    | .unacceptableProtocolVersion => 0x01
    | .identifierRejected => 0x02
    | .serverUnavailable => 0x03
    | .badUserNameOrPassword => 0x04
    | .notAuthorized => 0x05
  fromU8_eq_some value code := by
    constructor
    · intro decoded
      split at decoded <;> cases decoded <;> rfl
    · rintro rfl
      cases code <;> rfl

inductive SubscribeReturnCode where
  | successQoS0
  | successQoS1
  | successQoS2
  | failure
  deriving DecidableEq

instance : ByteCode SubscribeReturnCode where
  fromU8
    | 0x00 => some .successQoS0
    | 0x01 => some .successQoS1
    | 0x02 => some .successQoS2
    | 0x80 => some .failure
    | _ => none
  asU8
    | .successQoS0 => 0x00
    | .successQoS1 => 0x01
    | .successQoS2 => 0x02
    | .failure => 0x80
  fromU8_eq_some value code := by
    constructor
    · intro decoded
      split at decoded <;> cases decoded <;> rfl
    · rintro rfl
      cases code <;> rfl

end MqttRs.V311
