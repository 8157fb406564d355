import MqttRs.Codec.TopicFilter
import MqttRs.State.Subscribe

namespace MqttRs

structure ServerCapabilities where
  maximumPacketSize : Option UInt32
  maximumQos : QoS
  retainAvailable : Bool
  wildcardSubscriptionAvailable : Bool
  subscriptionIdentifiersAvailable : Bool
  sharedSubscriptionAvailable : Bool
  deriving DecidableEq

inductive ServerCapabilityError where
  | maximumQoSExceeded
  | retainNotAvailable
  | maximumPacketSizeExceeded (size limit : UInt32)
  | wildcardSubscriptionNotAvailable
  | subscriptionIdentifierNotAvailable
  | sharedSubscriptionNotAvailable
  deriving DecidableEq

namespace ServerCapabilities

def new : ServerCapabilities where
  maximumPacketSize := none
  maximumQos := .exactlyOnce
  retainAvailable := true
  wildcardSubscriptionAvailable := true
  subscriptionIdentifiersAvailable := true
  sharedSubscriptionAvailable := true

def validatePublish (c : ServerCapabilities) (qos : QoS) (retain : Bool) (packetSize : Nat) :
    Except ServerCapabilityError Unit :=
  if ByteCode.asU8 c.maximumQos < ByteCode.asU8 qos then .error .maximumQoSExceeded
  else if retain && !c.retainAvailable then .error .retainNotAvailable
  else match c.maximumPacketSize with
    | some limit =>
      if limit.toNat < packetSize then .error (.maximumPacketSizeExceeded (UInt32.ofNat packetSize) limit)
      else .ok ()
    | none => .ok ()

def validateEntry (c : ServerCapabilities) (entry : SubscriptionEntry) : Except ServerCapabilityError Unit :=
  if !c.wildcardSubscriptionAvailable && containsWildcard entry.topicFilter then
    .error .wildcardSubscriptionNotAvailable
  else if !c.subscriptionIdentifiersAvailable && entry.subscriptionIdentifier.isSome then
    .error .subscriptionIdentifierNotAvailable
  else if !c.sharedSubscriptionAvailable && startsWithShare entry.topicFilter then
    .error .sharedSubscriptionNotAvailable
  else .ok ()

def validateSubscribe (c : ServerCapabilities) : List SubscriptionEntry → Except ServerCapabilityError Unit
  | [] => .ok ()
  | entry :: rest =>
    match c.validateEntry entry with
    | .ok () => c.validateSubscribe rest
    | .error reason => .error reason

end ServerCapabilities

end MqttRs
