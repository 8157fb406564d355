import MqttRs.State.Session.Connack
import MqttRs.State.Session.Ops

namespace MqttRs

namespace Session

def keepsConnection : SessionOp → Bool
  | .applyConnack _ | .connectSent | .connectSentWithAuth _ | .connected _ => false
  | .disconnectSent | .disconnectReceived | .disconnected | .reset => false
  | .authReceived _ _ | .reauthenticateSent => false
  | _ => true

/-- Two sessions on the same connection: same version, connection state and authentication. -/
structure SameConnection (s t : Session) : Prop where
  protocolVersion : t.protocolVersion = s.protocolVersion
  connectionState : t.connectionState = s.connectionState
  authState : t.authState = s.authState

theorem SameConnection.refl (s : Session) : SameConnection s s := ⟨rfl, rfl, rfl⟩

/-- On the same connection, for the same client and server. -/
structure Untouched (s t : Session) : Prop extends SameConnection s t where
  clientId : t.clientId = s.clientId
  cleanStart : t.cleanStart = s.cleanStart
  serverCapabilities : t.serverCapabilities = s.serverCapabilities

theorem Untouched.refl (s : Session) : Untouched s s := ⟨.refl s, rfl, rfl, rfl⟩

/-- The same version and clean start, and the same client if it had a name. -/
structure SameClient (s t : Session) : Prop where
  protocolVersion : t.protocolVersion = s.protocolVersion
  cleanStart : t.cleanStart = s.cleanStart
  clientId : s.clientId.isEmpty = false → t.clientId = s.clientId

theorem Untouched.sameClient {s t : Session} (untouched : Untouched s t) : SameClient s t :=
  ⟨untouched.protocolVersion, untouched.cleanStart, fun _ => untouched.clientId⟩

section Frame

variable (s : Session)

theorem configureForConnect_untouched (keepAlive : UInt16) (expiry : UInt32) (aliases receive : UInt16)
    (size : UInt32) : Untouched s (s.configureForConnect keepAlive expiry aliases receive size).2 := by
  simp only [configureForConnect]
  split
  · exact ⟨⟨rfl, rfl, rfl⟩, rfl, rfl, rfl⟩
  · split <;> exact ⟨⟨rfl, rfl, rfl⟩, rfl, rfl, rfl⟩

theorem handleFinalAck_untouched (expected : FlowState) (packetId : UInt16) :
    Untouched s (s.handleFinalAck expected packetId).2 := by
  rcases s.handleFinalAck_cases expected packetId with ⟨flow, -, -, result⟩ | result | result <;> rw [result] <;>
    exact ⟨⟨rfl, rfl, rfl⟩, rfl, rfl, rfl⟩

theorem handlePubrec_untouched (packetId : UInt16) (reasonCode : UInt8) :
    Untouched s (s.handlePubrec packetId reasonCode).2 := by
  rcases s.handlePubrec_cases packetId reasonCode with
    ⟨flow, -, -, -, result⟩ | ⟨flow, -, -, -, result⟩ | result | result | result <;> rw [result] <;>
    exact ⟨⟨rfl, rfl, rfl⟩, rfl, rfl, rfl⟩

theorem countIncoming_untouched (packetId : UInt16) : Untouched s (s.countIncoming packetId).2 := by
  simp only [countIncoming]
  split <;> exact ⟨⟨rfl, rfl, rfl⟩, rfl, rfl, rfl⟩

theorem handlePublish_untouched (received : QosFlowManager → UInt16 → Action × QosFlowManager) (packetId : UInt16) :
    Untouched s (s.handlePublish received packetId).2 := by
  have counted := s.countIncoming_untouched packetId
  simp only [handlePublish]
  split <;> rename_i result <;> rw [result] at counted <;>
    exact ⟨⟨counted.1.1, counted.1.2, counted.1.3⟩, counted.2, counted.3, counted.4⟩

theorem resendPublish_untouched (packetId : UInt16) : Untouched s (s.resendPublish packetId).2 := by
  rcases s.resendPublish_cases packetId with ⟨flow, -, -, -, sent⟩ | same
  · rw [sent]
    exact ⟨⟨rfl, rfl, rfl⟩, rfl, rfl, rfl⟩
  · rw [same]
    exact .refl s

theorem publishSent_untouched (qos : QoS) (packetId : UInt16) :
    Untouched s (s.publishSent qos packetId).2 := by
  rcases s.publishSent_cases qos packetId with ⟨-, -, -, sent⟩ | ⟨reason, refused⟩
  · rw [sent]
    exact ⟨⟨rfl, rfl, rfl⟩, rfl, rfl, rfl⟩
  · rw [refused]
    exact .refl s

theorem perform_untouched {op : SessionOp} (keeps : keepsConnection op = true) :
    Untouched s (s.perform op) := by
  cases op
  case configureForConnect => exact s.configureForConnect_untouched ..
  case handlePuback => exact s.handleFinalAck_untouched .awaitingPuback _
  case handlePubrec => exact s.handlePubrec_untouched _ _
  case handlePubcomp => exact s.handleFinalAck_untouched .awaitingPubcomp _
  case handlePublishQos1 => exact s.handlePublish_untouched QosFlowManager.publishReceivedQos1 _
  case handlePublishQos2 => exact s.handlePublish_untouched QosFlowManager.publishReceivedQos2 _
  case resendPublish => exact s.resendPublish_untouched _
  case publishSent => exact s.publishSent_untouched _ _
  case pubrecSent =>
    simp only [perform, pubrecSent]
    split <;> exact ⟨⟨rfl, rfl, rfl⟩, rfl, rfl, rfl⟩
  case handleSuback =>
    simp only [perform, handleSuback]
    split <;> exact ⟨⟨rfl, rfl, rfl⟩, rfl, rfl, rfl⟩
  case handleUnsuback =>
    simp only [perform, handleUnsuback]
    split <;> exact ⟨⟨rfl, rfl, rfl⟩, rfl, rfl, rfl⟩
  case applyConnack | connectSent | connectSentWithAuth | connected | disconnectSent | disconnectReceived |
    disconnected | reset | authReceived | reauthenticateSent => cases keeps
  all_goals exact ⟨⟨rfl, rfl, rfl⟩, rfl, rfl, rfl⟩

theorem perform_sameConnection {op : SessionOp} (keeps : keepsConnection op = true) :
    SameConnection s (s.perform op) := (s.perform_untouched keeps).toSameConnection

theorem acceptConnack_sameClient (params : ConnackParams) : SameClient s (s.acceptConnack params) := by
  rw [acceptConnack_eq]
  refine ⟨rfl, rfl, fun named => ?_⟩
  cases known : params.assignedClientIdentifier <;> simp [applyParams, known, named]

theorem perform_sameClient (op : SessionOp) : SameClient s (s.perform op) := by
  cases kept : keepsConnection op with
  | true => exact (s.perform_untouched kept).sameClient
  | false =>
    cases op
    case applyConnack params =>
      rcases s.applyConnack_cases params with ⟨-, -, accepted⟩ | ⟨-, same⟩
      · simp only [perform, accepted]
        exact s.acceptConnack_sameClient params
      · simp only [perform, same]
        exact ⟨rfl, rfl, fun _ => rfl⟩
    case connectSentWithAuth method =>
      simp only [perform, connectSentWithAuth]
      split <;> exact ⟨rfl, rfl, fun _ => rfl⟩
    case connected sessionPresent =>
      simp only [perform, connected]
      split <;> exact ⟨rfl, rfl, fun _ => rfl⟩
    case connectSent | disconnectSent | disconnectReceived | disconnected | reset | authReceived |
      reauthenticateSent => exact ⟨rfl, rfl, fun _ => rfl⟩
    all_goals cases kept

theorem perform_protocolVersion (op : SessionOp) : (s.perform op).protocolVersion = s.protocolVersion :=
  (s.perform_sameClient op).protocolVersion

end Frame

/-- Two sessions with the same PUBLISH packets in flight and the same send quota. -/
structure SameSending (s t : Session) : Prop where
  outgoing : t.qosFlow.outgoing = s.qosFlow.outgoing
  outstandingCount : t.flowControl.outstandingCount = s.flowControl.outstandingCount
  receiveMaximum : t.flowControl.receiveMaximum = s.flowControl.receiveMaximum

def keepsSending : SessionOp → Bool
  | .applyConnack _ | .connectSent | .connectSentWithAuth _ | .connected _ | .reset => false
  | .publishSent _ _ | .resendPublish _ | .abortPublish _ => false
  | .handlePuback _ | .handlePubrec _ _ | .handlePubcomp _ => false
  | _ => true

section Sending

theorem SameSending.refl (s : Session) : SameSending s s := ⟨rfl, rfl, rfl⟩

theorem countIncoming_sameSending (s : Session) (packetId : UInt16) :
    SameSending s (s.countIncoming packetId).2 := by
  rcases s.countIncoming_cases packetId with ⟨-, result⟩ | ⟨-, -, result⟩ | ⟨-, -, result⟩ <;>
    rw [result] <;> exact ⟨rfl, rfl, rfl⟩

theorem handlePublish_sameSending (s : Session) (packetId : UInt16) :
    SameSending s (s.handlePublishQos1 packetId).2 ∧ SameSending s (s.handlePublishQos2 packetId).2 := by
  have counted := s.countIncoming_sameSending packetId
  unfold handlePublishQos1 handlePublishQos2
  split <;> rename_i result <;> rw [result] at counted
  · exact ⟨counted, counted⟩
  · constructor <;> exact ⟨counted.outgoing, counted.outstandingCount, counted.receiveMaximum⟩

theorem configureForConnect_sameSending (s : Session) (keepAlive : UInt16) (expiry : UInt32)
    (aliases receive : UInt16) (size : UInt32) :
    SameSending s (s.configureForConnect keepAlive expiry aliases receive size).2 := by
  have control : (s.flowControl.setOwnReceiveMaximum receive).2.outstandingCount = s.flowControl.outstandingCount ∧
      (s.flowControl.setOwnReceiveMaximum receive).2.receiveMaximum = s.flowControl.receiveMaximum := by
    unfold FlowControl.setOwnReceiveMaximum
    split <;> exact ⟨rfl, rfl⟩
  unfold configureForConnect
  dsimp only
  split <;> rename_i result <;> rw [result] at control
  · exact ⟨rfl, control.1, control.2⟩
  · split <;> exact ⟨rfl, control.1, control.2⟩

theorem perform_sameSending (s : Session) {op : SessionOp} (keeps : keepsSending op = true) :
    SameSending s (s.perform op) := by
  cases op
  case configureForConnect => exact s.configureForConnect_sameSending ..
  case handlePublishQos1 id => exact (s.handlePublish_sameSending id).1
  case handlePublishQos2 id => exact (s.handlePublish_sameSending id).2
  case handlePubrel id => exact ⟨s.qosFlow.pubrelReceived_outgoing id, rfl, rfl⟩
  case pubackSent id => exact ⟨s.qosFlow.pubackSent_outgoing id, rfl, rfl⟩
  case pubrecSent =>
    simp only [perform, pubrecSent]
    split <;> exact ⟨rfl, rfl, rfl⟩
  case handleSuback =>
    simp only [perform, handleSuback]
    split <;> exact ⟨rfl, rfl, rfl⟩
  case handleUnsuback =>
    simp only [perform, handleUnsuback]
    split <;> exact ⟨rfl, rfl, rfl⟩
  case applyConnack | connectSent | connectSentWithAuth | connected | reset | publishSent | resendPublish |
    abortPublish | handlePuback | handlePubrec | handlePubcomp => cases keeps
  all_goals exact ⟨rfl, rfl, rfl⟩

end Sending

/-- Two sessions with the same PUBLISH packets received and the same receive quota. -/
structure SameReceiving (s t : Session) : Prop where
  incoming : t.qosFlow.incoming = s.qosFlow.incoming
  incomingCount : t.flowControl.incomingCount = s.flowControl.incomingCount
  ownReceiveMaximum : t.flowControl.ownReceiveMaximum = s.flowControl.ownReceiveMaximum

def keepsReceiving : SessionOp → Bool
  | .handlePublishQos1 _ | .handlePublishQos2 _ | .handlePubrel _ => false
  | .pubackSent _ | .pubrecSent _ | .pubcompSent | .abortPublish _ => false
  | .applyConnack _ | .connectSent | .connectSentWithAuth _ | .connected _ | .configureForConnect .. | .reset => false
  | _ => true

theorem SameReceiving.refl (s : Session) : SameReceiving s s := ⟨rfl, rfl, rfl⟩

theorem perform_sameReceiving (s : Session) {op : SessionOp} (keeps : keepsReceiving op = true) :
    SameReceiving s (s.perform op) := by
  cases op
  case handlePuback id =>
    rcases s.handlePuback_cases id with ⟨flow, -, -, result⟩ | result | result <;> rw [perform, result] <;>
      exact ⟨rfl, rfl, rfl⟩
  case handlePubcomp id =>
    rcases s.handlePubcomp_cases id with ⟨flow, -, -, result⟩ | result | result <;> rw [perform, result] <;>
      exact ⟨rfl, rfl, rfl⟩
  case handlePubrec id reasonCode =>
    rcases s.handlePubrec_cases id reasonCode with
      ⟨flow, -, -, -, result⟩ | ⟨flow, -, -, -, result⟩ | result | result | result <;> rw [perform, result] <;>
      exact ⟨rfl, rfl, rfl⟩
  case resendPublish id =>
    rcases s.resendPublish_cases id with ⟨flow, -, -, -, sent⟩ | same
    · rw [perform, sent]
      exact ⟨rfl, rfl, rfl⟩
    · rw [perform, same]
      exact .refl s
  case publishSent qos id =>
    rcases s.publishSent_cases qos id with ⟨-, -, -, sent⟩ | ⟨reason, refused⟩
    · rw [perform, sent]
      refine ⟨?_, rfl, rfl⟩
      simp only [QosFlowManager.publishSent]
      split <;> rfl
    · rw [perform, refused]
      exact .refl s
  case handleSuback =>
    simp only [perform, handleSuback]
    split <;> exact ⟨rfl, rfl, rfl⟩
  case handleUnsuback =>
    simp only [perform, handleUnsuback]
    split <;> exact ⟨rfl, rfl, rfl⟩
  case handlePublishQos1 | handlePublishQos2 | handlePubrel | pubackSent | pubrecSent | pubcompSent | abortPublish |
    applyConnack | connectSent | connectSentWithAuth | connected | configureForConnect | reset => cases keeps
  all_goals exact ⟨rfl, rfl, rfl⟩

def keepsSubscriptions : SessionOp → Bool
  | .applyConnack _ | .connected _ | .reset => false
  | .subscribeSent _ _ | .unsubscribeSent _ _ | .abortSubscribe _ | .abortUnsubscribe _ => false
  | .handleSuback _ _ | .handleUnsuback _ _ => false
  | _ => true

theorem handlePublish_subscriptions (s : Session) (received : QosFlowManager → UInt16 → Action × QosFlowManager)
    (packetId : UInt16) : (s.handlePublish received packetId).2.subscriptionManager = s.subscriptionManager := by
  have counted : (s.countIncoming packetId).2.subscriptionManager = s.subscriptionManager := by
    rcases s.countIncoming_cases packetId with ⟨-, result⟩ | ⟨-, -, result⟩ | ⟨-, -, result⟩ <;> rw [result]
  unfold handlePublish
  split <;> rename_i result <;> rw [result] at counted <;> exact counted

theorem perform_subscriptions (s : Session) {op : SessionOp} (keeps : keepsSubscriptions op = true) :
    (s.perform op).subscriptionManager = s.subscriptionManager := by
  cases op
  case configureForConnect =>
    simp only [perform, configureForConnect]
    split
    · rfl
    · split <;> rfl
  case connectSentWithAuth =>
    simp only [perform, connectSentWithAuth]
    split <;> rfl
  case handlePuback id =>
    rcases s.handlePuback_cases id with ⟨flow, -, -, result⟩ | result | result <;> rw [perform, result]
    rfl
  case handlePubcomp id =>
    rcases s.handlePubcomp_cases id with ⟨flow, -, -, result⟩ | result | result <;> rw [perform, result]
    rfl
  case handlePubrec id reasonCode =>
    rcases s.handlePubrec_cases id reasonCode with
      ⟨flow, -, -, -, result⟩ | ⟨flow, -, -, -, result⟩ | result | result | result <;>
      rw [perform, result] <;> rfl
  case handlePublishQos1 id => exact s.handlePublish_subscriptions QosFlowManager.publishReceivedQos1 id
  case handlePublishQos2 id => exact s.handlePublish_subscriptions QosFlowManager.publishReceivedQos2 id
  case resendPublish id =>
    rcases s.resendPublish_cases id with ⟨flow, -, -, -, sent⟩ | same
    · rw [perform, sent]
    · rw [perform, same]
  case publishSent qos id =>
    rcases s.publishSent_cases qos id with ⟨-, -, -, sent⟩ | ⟨reason, refused⟩
    · rw [perform, sent]
    · rw [perform, refused]
  case pubrecSent =>
    simp only [perform, pubrecSent]
    split <;> rfl
  case applyConnack | connected | reset | subscribeSent | unsubscribeSent | abortSubscribe | abortUnsubscribe |
    handleSuback | handleUnsuback => cases keeps
  all_goals rfl

end Session

end MqttRs
