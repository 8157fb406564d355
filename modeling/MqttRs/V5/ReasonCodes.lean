import MqttRs.Library.ByteCode

namespace MqttRs.V5

inductive ConnectReasonCode where
  | success
  | unspecifiedError
  | malformedPacket
  | protocolError
  | implementationSpecificError
  | unsupportedProtocolVersion
  | clientIdentifierNotValid
  | badUserNameOrPassword
  | notAuthorized
  | serverUnavailable
  | serverBusy
  | banned
  | badAuthenticationMethod
  | topicNameInvalid
  | packetTooLarge
  | quotaExceeded
  | payloadFormatInvalid
  | retainNotSupported
  | qosNotSupported
  | useAnotherServer
  | serverMoved
  | connectionRateExceeded
  deriving DecidableEq

instance : ByteCode ConnectReasonCode where
  fromU8
    | 0x00 => some .success
    | 0x80 => some .unspecifiedError
    | 0x81 => some .malformedPacket
    | 0x82 => some .protocolError
    | 0x83 => some .implementationSpecificError
    | 0x84 => some .unsupportedProtocolVersion
    | 0x85 => some .clientIdentifierNotValid
    | 0x86 => some .badUserNameOrPassword
    | 0x87 => some .notAuthorized
    | 0x88 => some .serverUnavailable
    | 0x89 => some .serverBusy
    | 0x8A => some .banned
    | 0x8C => some .badAuthenticationMethod
    | 0x90 => some .topicNameInvalid
    | 0x95 => some .packetTooLarge
    | 0x97 => some .quotaExceeded
    | 0x99 => some .payloadFormatInvalid
    | 0x9A => some .retainNotSupported
    | 0x9B => some .qosNotSupported
    | 0x9C => some .useAnotherServer
    | 0x9D => some .serverMoved
    | 0x9F => some .connectionRateExceeded
    | _ => none
  asU8
    | .success => 0x00
    | .unspecifiedError => 0x80
    | .malformedPacket => 0x81
    | .protocolError => 0x82
    | .implementationSpecificError => 0x83
    | .unsupportedProtocolVersion => 0x84
    | .clientIdentifierNotValid => 0x85
    | .badUserNameOrPassword => 0x86
    | .notAuthorized => 0x87
    | .serverUnavailable => 0x88
    | .serverBusy => 0x89
    | .banned => 0x8A
    | .badAuthenticationMethod => 0x8C
    | .topicNameInvalid => 0x90
    | .packetTooLarge => 0x95
    | .quotaExceeded => 0x97
    | .payloadFormatInvalid => 0x99
    | .retainNotSupported => 0x9A
    | .qosNotSupported => 0x9B
    | .useAnotherServer => 0x9C
    | .serverMoved => 0x9D
    | .connectionRateExceeded => 0x9F
  fromU8_eq_some value code := by
    constructor
    · intro decoded
      split at decoded <;> cases decoded <;> rfl
    · rintro rfl
      cases code <;> rfl

inductive PubAckReasonCode where
  | success
  | noMatchingSubscribers
  | unspecifiedError
  | implementationSpecificError
  | notAuthorized
  | topicNameInvalid
  | packetIdentifierInUse
  | quotaExceeded
  | payloadFormatInvalid
  deriving DecidableEq

instance : ByteCode PubAckReasonCode where
  fromU8
    | 0x00 => some .success
    | 0x10 => some .noMatchingSubscribers
    | 0x80 => some .unspecifiedError
    | 0x83 => some .implementationSpecificError
    | 0x87 => some .notAuthorized
    | 0x90 => some .topicNameInvalid
    | 0x91 => some .packetIdentifierInUse
    | 0x97 => some .quotaExceeded
    | 0x99 => some .payloadFormatInvalid
    | _ => none
  asU8
    | .success => 0x00
    | .noMatchingSubscribers => 0x10
    | .unspecifiedError => 0x80
    | .implementationSpecificError => 0x83
    | .notAuthorized => 0x87
    | .topicNameInvalid => 0x90
    | .packetIdentifierInUse => 0x91
    | .quotaExceeded => 0x97
    | .payloadFormatInvalid => 0x99
  fromU8_eq_some value code := by
    constructor
    · intro decoded
      split at decoded <;> cases decoded <;> rfl
    · rintro rfl
      cases code <;> rfl

inductive PubRecReasonCode where
  | success
  | noMatchingSubscribers
  | unspecifiedError
  | implementationSpecificError
  | notAuthorized
  | topicNameInvalid
  | packetIdentifierInUse
  | quotaExceeded
  | payloadFormatInvalid
  deriving DecidableEq

instance : ByteCode PubRecReasonCode where
  fromU8
    | 0x00 => some .success
    | 0x10 => some .noMatchingSubscribers
    | 0x80 => some .unspecifiedError
    | 0x83 => some .implementationSpecificError
    | 0x87 => some .notAuthorized
    | 0x90 => some .topicNameInvalid
    | 0x91 => some .packetIdentifierInUse
    | 0x97 => some .quotaExceeded
    | 0x99 => some .payloadFormatInvalid
    | _ => none
  asU8
    | .success => 0x00
    | .noMatchingSubscribers => 0x10
    | .unspecifiedError => 0x80
    | .implementationSpecificError => 0x83
    | .notAuthorized => 0x87
    | .topicNameInvalid => 0x90
    | .packetIdentifierInUse => 0x91
    | .quotaExceeded => 0x97
    | .payloadFormatInvalid => 0x99
  fromU8_eq_some value code := by
    constructor
    · intro decoded
      split at decoded <;> cases decoded <;> rfl
    · rintro rfl
      cases code <;> rfl

inductive PubRelReasonCode where
  | success
  | packetIdentifierNotFound
  deriving DecidableEq

instance : ByteCode PubRelReasonCode where
  fromU8
    | 0x00 => some .success
    | 0x92 => some .packetIdentifierNotFound
    | _ => none
  asU8
    | .success => 0x00
    | .packetIdentifierNotFound => 0x92
  fromU8_eq_some value code := by
    constructor
    · intro decoded
      split at decoded <;> cases decoded <;> rfl
    · rintro rfl
      cases code <;> rfl

inductive PubCompReasonCode where
  | success
  | packetIdentifierNotFound
  deriving DecidableEq

instance : ByteCode PubCompReasonCode where
  fromU8
    | 0x00 => some .success
    | 0x92 => some .packetIdentifierNotFound
    | _ => none
  asU8
    | .success => 0x00
    | .packetIdentifierNotFound => 0x92
  fromU8_eq_some value code := by
    constructor
    · intro decoded
      split at decoded <;> cases decoded <;> rfl
    · rintro rfl
      cases code <;> rfl

inductive RetainHandling where
  | sendRetained
  | sendRetainedIfNotExists
  | doNotSendRetained
  deriving DecidableEq

instance : ByteCode RetainHandling where
  fromU8
    | 0 => some .sendRetained
    | 1 => some .sendRetainedIfNotExists
    | 2 => some .doNotSendRetained
    | _ => none
  asU8
    | .sendRetained => 0
    | .sendRetainedIfNotExists => 1
    | .doNotSendRetained => 2
  fromU8_eq_some value code := by
    constructor
    · intro decoded
      split at decoded <;> cases decoded <;> rfl
    · rintro rfl
      cases code <;> rfl

inductive SubAckReasonCode where
  | grantedQoS0
  | grantedQoS1
  | grantedQoS2
  | unspecifiedError
  | implementationSpecificError
  | notAuthorized
  | topicFilterInvalid
  | packetIdentifierInUse
  | quotaExceeded
  | sharedSubscriptionsNotSupported
  | subscriptionIdentifiersNotSupported
  | wildcardSubscriptionsNotSupported
  deriving DecidableEq

instance : ByteCode SubAckReasonCode where
  fromU8
    | 0x00 => some .grantedQoS0
    | 0x01 => some .grantedQoS1
    | 0x02 => some .grantedQoS2
    | 0x80 => some .unspecifiedError
    | 0x83 => some .implementationSpecificError
    | 0x87 => some .notAuthorized
    | 0x8F => some .topicFilterInvalid
    | 0x91 => some .packetIdentifierInUse
    | 0x97 => some .quotaExceeded
    | 0x9E => some .sharedSubscriptionsNotSupported
    | 0xA1 => some .subscriptionIdentifiersNotSupported
    | 0xA2 => some .wildcardSubscriptionsNotSupported
    | _ => none
  asU8
    | .grantedQoS0 => 0x00
    | .grantedQoS1 => 0x01
    | .grantedQoS2 => 0x02
    | .unspecifiedError => 0x80
    | .implementationSpecificError => 0x83
    | .notAuthorized => 0x87
    | .topicFilterInvalid => 0x8F
    | .packetIdentifierInUse => 0x91
    | .quotaExceeded => 0x97
    | .sharedSubscriptionsNotSupported => 0x9E
    | .subscriptionIdentifiersNotSupported => 0xA1
    | .wildcardSubscriptionsNotSupported => 0xA2
  fromU8_eq_some value code := by
    constructor
    · intro decoded
      split at decoded <;> cases decoded <;> rfl
    · rintro rfl
      cases code <;> rfl

inductive UnsubAckReasonCode where
  | success
  | noSubscriptionExisted
  | unspecifiedError
  | implementationSpecificError
  | notAuthorized
  | topicFilterInvalid
  | packetIdentifierInUse
  deriving DecidableEq

instance : ByteCode UnsubAckReasonCode where
  fromU8
    | 0x00 => some .success
    | 0x11 => some .noSubscriptionExisted
    | 0x80 => some .unspecifiedError
    | 0x83 => some .implementationSpecificError
    | 0x87 => some .notAuthorized
    | 0x8F => some .topicFilterInvalid
    | 0x91 => some .packetIdentifierInUse
    | _ => none
  asU8
    | .success => 0x00
    | .noSubscriptionExisted => 0x11
    | .unspecifiedError => 0x80
    | .implementationSpecificError => 0x83
    | .notAuthorized => 0x87
    | .topicFilterInvalid => 0x8F
    | .packetIdentifierInUse => 0x91
  fromU8_eq_some value code := by
    constructor
    · intro decoded
      split at decoded <;> cases decoded <;> rfl
    · rintro rfl
      cases code <;> rfl

inductive DisconnectReasonCode where
  | normalDisconnection
  | disconnectWithWillMessage
  | unspecifiedError
  | malformedPacket
  | protocolError
  | implementationSpecificError
  | notAuthorized
  | serverBusy
  | serverShuttingDown
  | badAuthenticationMethod
  | keepAliveTimeout
  | sessionTakenOver
  | topicFilterInvalid
  | topicNameInvalid
  | receiveMaximumExceeded
  | topicAliasInvalid
  | packetTooLarge
  | messageRateTooHigh
  | quotaExceeded
  | administrativeAction
  | payloadFormatInvalid
  | retainNotSupported
  | qosNotSupported
  | useAnotherServer
  | serverMoved
  | sharedSubscriptionsNotSupported
  | connectionRateExceeded
  | maximumConnectTime
  | subscriptionIdentifiersNotSupported
  | wildcardSubscriptionsNotSupported
  deriving DecidableEq

instance : ByteCode DisconnectReasonCode where
  fromU8
    | 0x00 => some .normalDisconnection
    | 0x04 => some .disconnectWithWillMessage
    | 0x80 => some .unspecifiedError
    | 0x81 => some .malformedPacket
    | 0x82 => some .protocolError
    | 0x83 => some .implementationSpecificError
    | 0x87 => some .notAuthorized
    | 0x89 => some .serverBusy
    | 0x8B => some .serverShuttingDown
    | 0x8C => some .badAuthenticationMethod
    | 0x8D => some .keepAliveTimeout
    | 0x8E => some .sessionTakenOver
    | 0x8F => some .topicFilterInvalid
    | 0x90 => some .topicNameInvalid
    | 0x93 => some .receiveMaximumExceeded
    | 0x94 => some .topicAliasInvalid
    | 0x95 => some .packetTooLarge
    | 0x96 => some .messageRateTooHigh
    | 0x97 => some .quotaExceeded
    | 0x98 => some .administrativeAction
    | 0x99 => some .payloadFormatInvalid
    | 0x9A => some .retainNotSupported
    | 0x9B => some .qosNotSupported
    | 0x9C => some .useAnotherServer
    | 0x9D => some .serverMoved
    | 0x9E => some .sharedSubscriptionsNotSupported
    | 0x9F => some .connectionRateExceeded
    | 0xA0 => some .maximumConnectTime
    | 0xA1 => some .subscriptionIdentifiersNotSupported
    | 0xA2 => some .wildcardSubscriptionsNotSupported
    | _ => none
  asU8
    | .normalDisconnection => 0x00
    | .disconnectWithWillMessage => 0x04
    | .unspecifiedError => 0x80
    | .malformedPacket => 0x81
    | .protocolError => 0x82
    | .implementationSpecificError => 0x83
    | .notAuthorized => 0x87
    | .serverBusy => 0x89
    | .serverShuttingDown => 0x8B
    | .badAuthenticationMethod => 0x8C
    | .keepAliveTimeout => 0x8D
    | .sessionTakenOver => 0x8E
    | .topicFilterInvalid => 0x8F
    | .topicNameInvalid => 0x90
    | .receiveMaximumExceeded => 0x93
    | .topicAliasInvalid => 0x94
    | .packetTooLarge => 0x95
    | .messageRateTooHigh => 0x96
    | .quotaExceeded => 0x97
    | .administrativeAction => 0x98
    | .payloadFormatInvalid => 0x99
    | .retainNotSupported => 0x9A
    | .qosNotSupported => 0x9B
    | .useAnotherServer => 0x9C
    | .serverMoved => 0x9D
    | .sharedSubscriptionsNotSupported => 0x9E
    | .connectionRateExceeded => 0x9F
    | .maximumConnectTime => 0xA0
    | .subscriptionIdentifiersNotSupported => 0xA1
    | .wildcardSubscriptionsNotSupported => 0xA2
  fromU8_eq_some value code := by
    constructor
    · intro decoded
      split at decoded <;> cases decoded <;> rfl
    · rintro rfl
      cases code <;> rfl

inductive AuthReasonCode where
  | success
  | continueAuthentication
  | reAuthenticate
  deriving DecidableEq

instance : ByteCode AuthReasonCode where
  fromU8
    | 0x00 => some .success
    | 0x18 => some .continueAuthentication
    | 0x19 => some .reAuthenticate
    | _ => none
  asU8
    | .success => 0x00
    | .continueAuthentication => 0x18
    | .reAuthenticate => 0x19
  fromU8_eq_some value code := by
    constructor
    · intro decoded
      split at decoded <;> cases decoded <;> rfl
    · rintro rfl
      cases code <;> rfl

namespace DisconnectReasonCode

def isSentByClient : DisconnectReasonCode → Bool
  | .normalDisconnection
  | .disconnectWithWillMessage
  | .unspecifiedError
  | .malformedPacket
  | .protocolError
  | .implementationSpecificError
  | .badAuthenticationMethod
  | .topicNameInvalid
  | .receiveMaximumExceeded
  | .topicAliasInvalid
  | .packetTooLarge
  | .messageRateTooHigh
  | .quotaExceeded
  | .administrativeAction
  | .payloadFormatInvalid => true
  | _ => false

def isSentByServer : DisconnectReasonCode → Bool
  | .disconnectWithWillMessage => false
  | _ => true

end DisconnectReasonCode

namespace AuthReasonCode

def isSentByClient : AuthReasonCode → Bool
  | .continueAuthentication | .reAuthenticate => true
  | .success => false

def isSentByServer : AuthReasonCode → Bool
  | .success | .continueAuthentication => true
  | .reAuthenticate => false

end AuthReasonCode

end MqttRs.V5
