import MqttRs.Library.MachineInt

namespace MqttRs

inductive FlowControlError where
  | receiveMaximumExceeded
  | invalidReceiveMaximum
  | invalidQoS
  | invalidPacketId
  deriving DecidableEq

structure FlowControl where
  receiveMaximum : UInt16
  outstandingCount : UInt16
  initialized : Bool
  ownReceiveMaximum : UInt16
  incomingCount : UInt16
  deriving DecidableEq

namespace FlowControl

def new : FlowControl where
  receiveMaximum := 65535
  outstandingCount := 0
  initialized := false
  ownReceiveMaximum := 65535
  incomingCount := 0

def setReceiveMaximum (f : FlowControl) (max : UInt16) : Except FlowControlError Unit × FlowControl :=
  if max = 0 then (.error .invalidReceiveMaximum, f)
  else (.ok (), { f with receiveMaximum := max, initialized := true })

def setOwnReceiveMaximum (f : FlowControl) (max : UInt16) : Except FlowControlError Unit × FlowControl :=
  if max = 0 then (.error .invalidReceiveMaximum, f)
  else (.ok (), { f with ownReceiveMaximum := max })

def canSend (f : FlowControl) : Bool := decide (f.outstandingCount < f.receiveMaximum)

def available (f : FlowControl) : UInt16 := f.receiveMaximum.saturatingSub f.outstandingCount

def publishSent (f : FlowControl) : Except FlowControlError Unit × FlowControl :=
  if !f.canSend then (.error .receiveMaximumExceeded, f)
  else (.ok (), { f with outstandingCount := f.outstandingCount.saturatingAdd 1 })

def publishAcked (f : FlowControl) : FlowControl :=
  { f with outstandingCount := f.outstandingCount.saturatingSub 1 }

def canReceive (f : FlowControl) : Bool := decide (f.incomingCount < f.ownReceiveMaximum)

def publishReceived (f : FlowControl) : Except FlowControlError Unit × FlowControl :=
  if !f.canReceive then (.error .receiveMaximumExceeded, f)
  else (.ok (), { f with incomingCount := f.incomingCount.saturatingAdd 1 })

def publishAckSent (f : FlowControl) : FlowControl :=
  { f with incomingCount := f.incomingCount.saturatingSub 1 }

def reset (f : FlowControl) (keepOwnReceiveMaximum : Bool) : FlowControl where
  receiveMaximum := 65535
  outstandingCount := 0
  initialized := false
  ownReceiveMaximum := if keepOwnReceiveMaximum then f.ownReceiveMaximum else 65535
  incomingCount := 0

theorem publishSent_cases (f : FlowControl) :
    (f.outstandingCount < f.receiveMaximum ∧
      f.publishSent = (.ok (), { f with outstandingCount := f.outstandingCount.saturatingAdd 1 })) ∨
    (f.receiveMaximum ≤ f.outstandingCount ∧ f.publishSent = (.error .receiveMaximumExceeded, f)) := by
  by_cases room : f.outstandingCount < f.receiveMaximum
  · exact .inl ⟨room, by simp [publishSent, canSend, room]⟩
  · exact .inr ⟨not_lt.mp room, by simp [publishSent, canSend, room]⟩

theorem publishReceived_cases (f : FlowControl) :
    (f.incomingCount < f.ownReceiveMaximum ∧
      f.publishReceived = (.ok (), { f with incomingCount := f.incomingCount.saturatingAdd 1 })) ∨
    (f.ownReceiveMaximum ≤ f.incomingCount ∧ f.publishReceived = (.error .receiveMaximumExceeded, f)) := by
  by_cases room : f.incomingCount < f.ownReceiveMaximum
  · exact .inl ⟨room, by simp [publishReceived, canReceive, room]⟩
  · exact .inr ⟨not_lt.mp room, by simp [publishReceived, canReceive, room]⟩

end FlowControl

end MqttRs
