import MqttRs.State.Auth
import MqttRs.State.FlowControl
import MqttRs.State.KeepAlive
import MqttRs.State.PacketId
import MqttRs.State.QosFlow
import MqttRs.State.Session.Capabilities
import MqttRs.State.Session.Params
import MqttRs.State.TopicAlias

namespace MqttRs

inductive SessionError where
  | invalidClientId
  deriving DecidableEq

inductive HandleSubackError where
  | pendingNotFound
  deriving DecidableEq

inductive HandleUnsubackError where
  | pendingNotFound
  deriving DecidableEq

inductive ConnectionState where
  | disconnected
  | connecting
  | connected
  | disconnecting
  deriving DecidableEq

structure Session where
  protocolVersion : MqttVersion
  connectionState : ConnectionState
  clientId : String
  cleanStart : Bool
  sessionExpiryInterval : UInt32
  packetIdManager : PacketIdManager
  qosFlow : QosFlowManager
  flowControl : FlowControl
  subscriptionManager : SubscriptionManager
  topicAliasManager : TopicAliasManager
  keepAlive : KeepAlive
  authState : AuthStateMachine
  serverCapabilities : ServerCapabilities
  limits : Limits
  deriving DecidableEq

namespace Session

def initial (protocolVersion : MqttVersion) (clientId : String) (cleanStart : Bool) : Session where
  protocolVersion := protocolVersion
  connectionState := .disconnected
  clientId := clientId
  cleanStart := cleanStart
  sessionExpiryInterval := 0
  packetIdManager := .new
  qosFlow := .new
  flowControl := .new
  subscriptionManager := .new
  topicAliasManager := .new
  keepAlive := .new 0
  authState := .new
  serverCapabilities := .new
  limits := .new

def new (protocolVersion : MqttVersion) (clientId : String) (cleanStart : Bool) : Except SessionError Session :=
  if protocolVersion = .v311 && clientId.isEmpty && !cleanStart then .error .invalidClientId
  else .ok (initial protocolVersion clientId cleanStart)

def isV5 (s : Session) : Bool := s.protocolVersion = .v5

def isV311 (s : Session) : Bool := s.protocolVersion = .v311

def setSessionExpiryInterval (s : Session) (interval : UInt32) : Session :=
  { s with sessionExpiryInterval := interval }

-- The first three settings stay when the Receive Maximum is refused.
def configureForConnect (s : Session) (keepAliveSecs : UInt16) (sessionExpiryInterval : UInt32)
    (topicAliasMaximum receiveMaximum : UInt16) (maximumPacketSize : UInt32) :
    Except FlowControlError Unit × Session :=
  let s := { s with
    keepAlive := s.keepAlive.setKeepAlive keepAliveSecs
    sessionExpiryInterval := sessionExpiryInterval
    topicAliasManager := s.topicAliasManager.setOwnMaximum topicAliasMaximum }
  match s.flowControl.setOwnReceiveMaximum receiveMaximum with
  | (.error reason, flowControl) => (.error reason, { s with flowControl })
  | (.ok (), flowControl) =>
    let s := { s with flowControl }
    if 0 < maximumPacketSize then
      (.ok (), { s with limits := Limits.new.withMaxPacketSize maximumPacketSize.toNat })
    else (.ok (), s)

def resetSessionState (s : Session) : Session :=
  { s with
    packetIdManager := s.packetIdManager.reset
    qosFlow := s.qosFlow.reset
    subscriptionManager := s.subscriptionManager.reset }

def resetConnectionState (s : Session) : Session :=
  { s with
    flowControl := s.flowControl.reset true
    qosFlow := s.qosFlow.clearQuotaCharges
    topicAliasManager := s.topicAliasManager.resetMappings.setPeerMaximum 0
    authState := s.authState.reset
    serverCapabilities := .new
    keepAlive := s.keepAlive.pingrespReceived }

def reset (s : Session) : Session :=
  { s with
    connectionState := .disconnected
    sessionExpiryInterval := 0
    packetIdManager := s.packetIdManager.reset
    qosFlow := s.qosFlow.reset
    flowControl := s.flowControl.reset false
    subscriptionManager := s.subscriptionManager.reset
    topicAliasManager := s.topicAliasManager.reset
    keepAlive := s.keepAlive.reset
    authState := s.authState.reset
    serverCapabilities := .new }

def connectSent (s : Session) : Session := resetConnectionState { s with connectionState := .connecting }

def connectSentWithAuth (s : Session) (authenticationMethod : String) : Except AuthError Unit × Session :=
  if !s.isV5 then (.error .v5OnlyOperation, s)
  else
    let s := s.connectSent
    (.ok (), { s with authState := s.authState.connectWithAuth authenticationMethod })

def connected (s : Session) (sessionPresent : Bool) : Session :=
  let s := { s with connectionState := .connected }
  if s.cleanStart || !sessionPresent then s.resetSessionState else s

def disconnectSent (s : Session) : Session := { s with connectionState := .disconnecting }

def disconnectReceived (s : Session) : Session := { s with connectionState := .disconnected }

def disconnected (s : Session) : Session := { s with connectionState := .disconnected }

def isConnected (s : Session) : Bool := s.connectionState = .connected

def isActive (s : Session) : Bool := s.connectionState = .connected || s.connectionState = .connecting

/-- The checks of `apply_connack` up to the Authentication Method, in source order. -/
def checkConnack (s : Session) (params : ConnackParams) : Except ConnackError Unit :=
  let versionMatches := match params.reasonCode with
    | .v5 _ => s.isV5
    | .v311 _ => s.isV311
  if s.connectionState ≠ .connecting then .error .invalidConnectionState
  else if !versionMatches then .error .versionMismatch
  else if s.isV311 && params.hasV5OnlyFields then .error .v5OnlyParameters
  else if !params.reasonCode.isSuccess then .error .connectionRefused
  else if params.sessionPresent && s.cleanStart then .error .sessionPresentProtocolError
  else if s.isV5 && s.clientId.isEmpty && params.assignedClientIdentifier.all (·.isEmpty) then
    .error .assignedClientIdentifierMissing
  else if params.receiveMaximum = some 0 then .error .invalidReceiveMaximum
  else if params.maximumPacketSize = some 0 then .error .invalidMaximumPacketSize
  else if params.maximumQos = some .exactlyOnce then .error .invalidMaximumQoS
  else .ok ()

def methodError : AuthMethodError → ConnackError
  | .missing => .authenticationMethodMissing
  | .mismatch => .authenticationMethodMismatch
  | .unexpected => .unexpectedAuthenticationMethod

/-- The Authentication Method check of `apply_connack`, which also completes the initial authentication. -/
def checkMethod (s : Session) (params : ConnackParams) : Outcome ConnackError Unit × Session :=
  if s.isV5 then
    match s.authState.connackReceived params.authenticationMethod with
    | (.ok (), authState) => (.ok (), { s with authState })
    | (.error reason, authState) => (.error (methodError reason), { s with authState })
    | (.panic, authState) => (.panic, { s with authState })
    | (.hang, authState) => (.hang, { s with authState })
  else (.ok (), s)

/-- The parameters that `apply_connack` copies after Receive Maximum. -/
def applyParams (s : Session) (params : ConnackParams) : Session :=
  { s with
    sessionExpiryInterval := params.sessionExpiryInterval.getD s.sessionExpiryInterval
    topicAliasManager := match params.topicAliasMaximum with
      | some max => s.topicAliasManager.setPeerMaximum max
      | none => s.topicAliasManager
    keepAlive := match params.serverKeepAlive with
      | some secs => s.keepAlive.setKeepAlive secs
      | none => s.keepAlive
    serverCapabilities :=
      { maximumPacketSize := match params.maximumPacketSize with
          | some size => some size
          | none => s.serverCapabilities.maximumPacketSize
        maximumQos := params.maximumQos.getD s.serverCapabilities.maximumQos
        retainAvailable := params.retainAvailable.getD s.serverCapabilities.retainAvailable
        wildcardSubscriptionAvailable :=
          params.wildcardSubscriptionAvailable.getD s.serverCapabilities.wildcardSubscriptionAvailable
        subscriptionIdentifiersAvailable :=
          params.subscriptionIdentifiersAvailable.getD s.serverCapabilities.subscriptionIdentifiersAvailable
        sharedSubscriptionAvailable :=
          params.sharedSubscriptionAvailable.getD s.serverCapabilities.sharedSubscriptionAvailable }
    clientId := match params.assignedClientIdentifier with
      | some assigned => if s.clientId.isEmpty then assigned else s.clientId
      | none => s.clientId }

def applyConnack (s : Session) (params : ConnackParams) : Outcome ConnackError Unit × Session :=
  match s.checkConnack params with
  | .error reason => (.error reason, s)
  | .ok () =>
    match s.checkMethod params with
    | (.ok (), s) =>
      let s := s.connected params.sessionPresent
      match params.receiveMaximum with
      | none => (.ok (), s.applyParams params)
      | some max =>
        match s.flowControl.setReceiveMaximum max with
        | (.ok (), flowControl) => (.ok (), { s with flowControl }.applyParams params)
        | (.error _, flowControl) => (.panic, { s with flowControl })
    | refused => refused

def pingrespReceived (s : Session) : Session := { s with keepAlive := s.keepAlive.pingrespReceived }

def pingreqSent (s : Session) (now : Timestamp) : Session := { s with keepAlive := s.keepAlive.pingreqSent now }

def activity (s : Session) (now : Timestamp) : Session := { s with keepAlive := s.keepAlive.activity now }

def authReceived (s : Session) (reasonCode : UInt8) (authenticationMethod : Option String) :
    Outcome Empty AuthAction × Session :=
  let (action, authState) := s.authState.authReceived reasonCode authenticationMethod
  (action, { s with authState })

def reauthenticateSent (s : Session) : Except AuthError Unit × Session :=
  let (result, authState) := s.authState.reauthenticateSent
  (result, { s with authState })

/-- The send quota and the packet identifier that a finished outgoing flow gives back. -/
def flowFinished (s : Session) (packetId : UInt16) : Session :=
  { s with
    flowControl := s.flowControl.publishAcked
    packetIdManager := s.packetIdManager.release packetId }

def handlePuback (s : Session) (packetId : UInt16) : Except FlowError (Option Action) × Session :=
  match s.qosFlow.pubackReceived packetId with
  | (.error reason, qosFlow) => (.error reason, { s with qosFlow })
  | (.ok (some action), qosFlow) => (.ok (some action), { s with qosFlow }.flowFinished packetId)
  | (.ok none, qosFlow) => (.ok none, { s with qosFlow })

def handlePubrec (s : Session) (packetId : UInt16) (reasonCode : UInt8) :
    Except FlowError (Option Action) × Session :=
  match s.qosFlow.pubrecReceived packetId reasonCode with
  | (.error reason, qosFlow) => (.error reason, { s with qosFlow })
  | (.ok (some (.aborted id)), qosFlow) => (.ok (some (.aborted id)), { s with qosFlow }.flowFinished packetId)
  | (.ok action, qosFlow) => (.ok action, { s with qosFlow })

def handlePubrel (s : Session) (packetId : UInt16) : Except FlowError (Option Action) × Session :=
  let (result, qosFlow) := s.qosFlow.pubrelReceived packetId
  (result, { s with qosFlow })

def handlePubcomp (s : Session) (packetId : UInt16) : Except FlowError (Option Action) × Session :=
  match s.qosFlow.pubcompReceived packetId with
  | (.error reason, qosFlow) => (.error reason, { s with qosFlow })
  | (.ok (some action), qosFlow) => (.ok (some action), { s with qosFlow }.flowFinished packetId)
  | (.ok none, qosFlow) => (.ok none, { s with qosFlow })

/-- `if !has_incoming_flow(packet_id) { flow_control.publish_received()? }` -/
def countIncoming (s : Session) (packetId : UInt16) : Except FlowControlError Unit × Session :=
  if !s.qosFlow.hasIncomingFlow packetId then
    let (result, flowControl) := s.flowControl.publishReceived
    (result, { s with flowControl })
  else (.ok (), s)

def handlePublishQos1 (s : Session) (packetId : UInt16) : Except FlowControlError Action × Session :=
  match s.countIncoming packetId with
  | (.error reason, s) => (.error reason, s)
  | (.ok (), s) =>
    let (action, qosFlow) := s.qosFlow.publishReceivedQos1 packetId
    (.ok action, { s with qosFlow })

def handlePublishQos2 (s : Session) (packetId : UInt16) : Except FlowControlError Action × Session :=
  match s.countIncoming packetId with
  | (.error reason, s) => (.error reason, s)
  | (.ok (), s) =>
    let (action, qosFlow) := s.qosFlow.publishReceivedQos2 packetId
    (.ok action, { s with qosFlow })

def pubackSent (s : Session) (packetId : UInt16) : Session :=
  { s with
    qosFlow := s.qosFlow.pubackSent packetId
    flowControl := s.flowControl.publishAckSent }

def pubrecSent (s : Session) (reasonCode : UInt8) : Session :=
  if 0x80 ≤ reasonCode then { s with flowControl := s.flowControl.publishAckSent } else s

def pubcompSent (s : Session) : Session := { s with flowControl := s.flowControl.publishAckSent }

def pendingRetransmissions (s : Session) : List (UInt16 × Action) :=
  s.qosFlow.pendingPacketIds.filterMap (fun id =>
    (s.qosFlow.needsRetransmission id).map (fun action => (id, action)))

def resendPublish (s : Session) (packetId : UInt16) : Except FlowControlError (Option Action) × Session :=
  match s.qosFlow.needsRetransmission packetId with
  | some (.resendPublish id) =>
    if s.qosFlow.isQuotaCharged packetId then
      if s.isV5 then (.ok none, s) else (.ok (some (.resendPublish id)), s)
    else match s.flowControl.publishSent with
      | (.error reason, flowControl) => (.error reason, { s with flowControl })
      | (.ok (), flowControl) =>
        (.ok (some (.resendPublish id)),
          { s with flowControl, qosFlow := s.qosFlow.markQuotaCharged packetId })
  | _ => (.ok none, s)

def resendPubrel (s : Session) (packetId : UInt16) : Option Action :=
  match s.qosFlow.needsRetransmission packetId with
  | some (.resendPubrel id) => some (.resendPubrel id)
  | _ => none

def allocatePacketId (s : Session) : Option UInt16 × Session :=
  let (id, packetIdManager) := s.packetIdManager.allocate
  (id, { s with packetIdManager })

def publishSent (s : Session) (qos : QoS) (packetId : UInt16) : Outcome FlowControlError Unit × Session :=
  if qos = .atMostOnce then (.error .invalidQoS, s)
  else if packetId = 0 then (.error .invalidPacketId, s)
  else match s.flowControl.publishSent with
    | (.error reason, flowControl) => (.error reason, { s with flowControl })
    | (.ok (), flowControl) =>
      let s := { s with flowControl }
      match qos with
      | .atLeastOnce => (.ok (), { s with qosFlow := s.qosFlow.publishSentQos1 packetId })
      | .exactlyOnce => (.ok (), { s with qosFlow := s.qosFlow.publishSentQos2 packetId })
      | .atMostOnce => (.panic, s)

def abortPublish (s : Session) (packetId : UInt16) : Session :=
  { s with
    flowControl := if s.qosFlow.isActive packetId then s.flowControl.publishAcked else s.flowControl
    qosFlow := s.qosFlow.release packetId
    packetIdManager := s.packetIdManager.release packetId }

def releasePacketId (s : Session) (packetId : UInt16) : Session :=
  { s with packetIdManager := s.packetIdManager.release packetId }

def subscribeSent (s : Session) (packetId : UInt16) (subscriptions : List SubscriptionEntry) : Session :=
  { s with subscriptionManager := s.subscriptionManager.subscribeSent packetId subscriptions }

def unsubscribeSent (s : Session) (packetId : UInt16) (topicFilters : List String) : Session :=
  { s with subscriptionManager := s.subscriptionManager.unsubscribeSent packetId topicFilters }

def abortSubscribe (s : Session) (packetId : UInt16) : Session :=
  { s with
    subscriptionManager := (s.subscriptionManager.dropPendingSubscribe packetId).2
    packetIdManager := s.packetIdManager.release packetId }

def abortUnsubscribe (s : Session) (packetId : UInt16) : Session :=
  { s with
    subscriptionManager := (s.subscriptionManager.dropPendingUnsubscribe packetId).2
    packetIdManager := s.packetIdManager.release packetId }

def handleSuback (s : Session) (packetId : UInt16) (reasonCodes : List UInt8) :
    Except HandleSubackError (List SubscriptionEntry) × Session :=
  let (confirmed, subscriptionManager) := s.subscriptionManager.subackReceived packetId reasonCodes
  let s := { s with subscriptionManager, packetIdManager := s.packetIdManager.release packetId }
  match confirmed with
  | some entries => (.ok entries, s)
  | none => (.error .pendingNotFound, s)

def handleUnsuback (s : Session) (packetId : UInt16) (reasonCodes : List UInt8) :
    Except HandleUnsubackError (List String) × Session :=
  let (unsubscribed, subscriptionManager) := s.subscriptionManager.unsubackReceived packetId reasonCodes
  let s := { s with subscriptionManager, packetIdManager := s.packetIdManager.release packetId }
  match unsubscribed with
  | some filters => (.ok filters, s)
  | none => (.error .pendingNotFound, s)

def validateOutgoingPublish (s : Session) (qos : QoS) (retain : Bool) (packetSize : Nat) :
    Except ServerCapabilityError Unit := s.serverCapabilities.validatePublish qos retain packetSize

def validateOutgoingSubscribe (s : Session) (entries : List SubscriptionEntry) : Except ServerCapabilityError Unit :=
  s.serverCapabilities.validateSubscribe entries

end Session

end MqttRs
