import MqttRs.Library.ByteCode

namespace MqttRs

inductive MqttVersion where
  | v5
  | v311
  deriving DecidableEq

inductive QoS where
  | atMostOnce
  | atLeastOnce
  | exactlyOnce
  deriving DecidableEq

instance : ByteCode QoS where
  fromU8
    | 0 => some .atMostOnce
    | 1 => some .atLeastOnce
    | 2 => some .exactlyOnce
    | _ => none
  asU8
    | .atMostOnce => 0
    | .atLeastOnce => 1
    | .exactlyOnce => 2
  fromU8_eq_some value code := by
    constructor
    · intro decoded
      split at decoded <;> cases decoded <;> rfl
    · rintro rfl
      cases code <;> rfl

structure Limits where
  maxPacketSize : Nat
  deriving DecidableEq

def Limits.new : Limits := { maxPacketSize := 256 * 1024 * 1024 }

def Limits.withMaxPacketSize (limits : Limits) (size : Nat) : Limits := { limits with maxPacketSize := size }

end MqttRs
