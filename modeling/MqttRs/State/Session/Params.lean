import MqttRs.Codec.QoS
import MqttRs.V311.ReturnCodes
import MqttRs.V5.ReasonCodes

namespace MqttRs

inductive ConnackError where
  | connectionRefused
  | sessionPresentProtocolError
  | invalidReceiveMaximum
  | invalidMaximumPacketSize
  | invalidMaximumQoS
  | assignedClientIdentifierMissing
  | authenticationMethodMissing
  | authenticationMethodMismatch
  | unexpectedAuthenticationMethod
  | invalidConnectionState
  | versionMismatch
  | v5OnlyParameters
  deriving DecidableEq

inductive ConnackReason where
  | v5 (code : V5.ConnectReasonCode)
  | v311 (code : V311.ConnectReturnCode)
  deriving DecidableEq

def ConnackReason.isSuccess : ConnackReason → Bool
  | .v5 code => code = .success
  | .v311 code => code = .accepted

structure ConnackParams where
  sessionPresent : Bool
  reasonCode : ConnackReason
  sessionExpiryInterval : Option UInt32
  receiveMaximum : Option UInt16
  topicAliasMaximum : Option UInt16
  serverKeepAlive : Option UInt16
  maximumPacketSize : Option UInt32
  maximumQos : Option QoS
  retainAvailable : Option Bool
  wildcardSubscriptionAvailable : Option Bool
  subscriptionIdentifiersAvailable : Option Bool
  sharedSubscriptionAvailable : Option Bool
  assignedClientIdentifier : Option String
  authenticationMethod : Option String
  deriving DecidableEq

def ConnackParams.hasV5OnlyFields (p : ConnackParams) : Bool :=
  p.sessionExpiryInterval.isSome ||
  p.receiveMaximum.isSome ||
  p.topicAliasMaximum.isSome ||
  p.serverKeepAlive.isSome ||
  p.maximumPacketSize.isSome ||
  p.maximumQos.isSome ||
  p.retainAvailable.isSome ||
  p.wildcardSubscriptionAvailable.isSome ||
  p.subscriptionIdentifiersAvailable.isSome ||
  p.sharedSubscriptionAvailable.isSome ||
  p.assignedClientIdentifier.isSome ||
  p.authenticationMethod.isSome

/-- A successful CONNACK of v5.0 with no property except a Receive Maximum. -/
def ConnackParams.successV5 (sessionPresent : Bool) (receiveMaximum : Option UInt16) : ConnackParams where
  sessionPresent := sessionPresent
  reasonCode := .v5 .success
  sessionExpiryInterval := none
  receiveMaximum := receiveMaximum
  topicAliasMaximum := none
  serverKeepAlive := none
  maximumPacketSize := none
  maximumQos := none
  retainAvailable := none
  wildcardSubscriptionAvailable := none
  subscriptionIdentifiersAvailable := none
  sharedSubscriptionAvailable := none
  assignedClientIdentifier := none
  authenticationMethod := none

end MqttRs
