import MqttRs.Library.MachineInt

namespace MqttRs

/-- Milliseconds of a monotonic clock that the caller injects. -/
abbrev Timestamp := UInt64

structure KeepAlive where
  keepAliveSecs : UInt16
  lastActivity : Timestamp
  pingreqSentAt : Option Timestamp
  deriving DecidableEq

namespace KeepAlive

def new (keepAliveSecs : UInt16) : KeepAlive := { keepAliveSecs, lastActivity := 0, pingreqSentAt := none }

def setKeepAlive (k : KeepAlive) (secs : UInt16) : KeepAlive := { k with keepAliveSecs := secs }

def activity (k : KeepAlive) (now : Timestamp) : KeepAlive := { k with lastActivity := now }

def pingreqSent (k : KeepAlive) (now : Timestamp) : KeepAlive :=
  { k with pingreqSentAt := some now, lastActivity := now }

def pingrespReceived (k : KeepAlive) : KeepAlive := { k with pingreqSentAt := none }

def isAwaitingPingresp (k : KeepAlive) : Bool := k.pingreqSentAt.isSome

/-- Milliseconds from `earlier` to `now`, zero when `earlier` is later. -/
def elapsed (now earlier : Timestamp) : Nat := now.toNat - earlier.toNat

def shouldSendPingreq (k : KeepAlive) (now : Timestamp) : Bool :=
  if k.keepAliveSecs = 0 then false
  else decide (k.keepAliveSecs.toNat * 1000 ≤ elapsed now k.lastActivity)

def hasTimedOut (k : KeepAlive) (now : Timestamp) : Bool :=
  if k.keepAliveSecs = 0 then false
  else match k.pingreqSentAt with
    | none => false
    | some sentAt => decide (k.keepAliveSecs.toNat * 1000 ≤ elapsed now sentAt)

def reset (_ : KeepAlive) : KeepAlive := { keepAliveSecs := 0, lastActivity := 0, pingreqSentAt := none }

end KeepAlive

end MqttRs
