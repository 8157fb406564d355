import MqttRs.Library.Runs
import MqttRs.State.Session

namespace MqttRs

/-- The calls that change a session, with their arguments. -/
inductive SessionOp where
  | setSessionExpiryInterval (interval : UInt32)
  | configureForConnect (keepAliveSecs : UInt16) (sessionExpiryInterval : UInt32)
      (topicAliasMaximum receiveMaximum : UInt16) (maximumPacketSize : UInt32)
  | applyConnack (params : ConnackParams)
  | connectSent
  | connectSentWithAuth (authenticationMethod : String)
  | connected (sessionPresent : Bool)
  | disconnectSent
  | disconnectReceived
  | disconnected
  | pingrespReceived
  | pingreqSent (now : Timestamp)
  | activity (now : Timestamp)
  | authReceived (reasonCode : UInt8) (authenticationMethod : Option String)
  | reauthenticateSent
  | handlePuback (packetId : UInt16)
  | handlePubrec (packetId : UInt16) (reasonCode : UInt8)
  | handlePubrel (packetId : UInt16)
  | handlePubcomp (packetId : UInt16)
  | handlePublishQos1 (packetId : UInt16)
  | handlePublishQos2 (packetId : UInt16)
  | pubackSent (packetId : UInt16)
  | pubrecSent (reasonCode : UInt8)
  | pubcompSent
  | resendPublish (packetId : UInt16)
  | resendPubrel (packetId : UInt16)
  | allocatePacketId
  | publishSent (qos : QoS) (packetId : UInt16)
  | abortPublish (packetId : UInt16)
  | releasePacketId (packetId : UInt16)
  | subscribeSent (packetId : UInt16) (subscriptions : List SubscriptionEntry)
  | unsubscribeSent (packetId : UInt16) (topicFilters : List String)
  | abortSubscribe (packetId : UInt16)
  | abortUnsubscribe (packetId : UInt16)
  | handleSuback (packetId : UInt16) (reasonCodes : List UInt8)
  | handleUnsuback (packetId : UInt16) (reasonCodes : List UInt8)
  | reset

namespace Session

def perform (s : Session) : SessionOp → Session
  | .setSessionExpiryInterval interval => s.setSessionExpiryInterval interval
  | .configureForConnect keepAlive expiry aliases receive size =>
    (s.configureForConnect keepAlive expiry aliases receive size).2
  | .applyConnack params => (s.applyConnack params).2
  | .connectSent => s.connectSent
  | .connectSentWithAuth method => (s.connectSentWithAuth method).2
  | .connected sessionPresent => s.connected sessionPresent
  | .disconnectSent => s.disconnectSent
  | .disconnectReceived => s.disconnectReceived
  | .disconnected => s.disconnected
  | .pingrespReceived => s.pingrespReceived
  | .pingreqSent now => s.pingreqSent now
  | .activity now => s.activity now
  | .authReceived reasonCode method => (s.authReceived reasonCode method).2
  | .reauthenticateSent => s.reauthenticateSent.2
  | .handlePuback id => (s.handlePuback id).2
  | .handlePubrec id reasonCode => (s.handlePubrec id reasonCode).2
  | .handlePubrel id => (s.handlePubrel id).2
  | .handlePubcomp id => (s.handlePubcomp id).2
  | .handlePublishQos1 id => (s.handlePublishQos1 id).2
  | .handlePublishQos2 id => (s.handlePublishQos2 id).2
  | .pubackSent id => s.pubackSent id
  | .pubrecSent reasonCode => s.pubrecSent reasonCode
  | .pubcompSent => s.pubcompSent
  | .resendPublish id => (s.resendPublish id).2
  | .resendPubrel _ => s
  | .allocatePacketId => s.allocatePacketId.2
  | .publishSent qos id => (s.publishSent qos id).2
  | .abortPublish id => s.abortPublish id
  | .releasePacketId id => s.releasePacketId id
  | .subscribeSent id subscriptions => s.subscribeSent id subscriptions
  | .unsubscribeSent id filters => s.unsubscribeSent id filters
  | .abortSubscribe id => s.abortSubscribe id
  | .abortUnsubscribe id => s.abortUnsubscribe id
  | .handleSuback id codes => (s.handleSuback id codes).2
  | .handleUnsuback id codes => (s.handleUnsuback id codes).2
  | .reset => s.reset

/-- Sessions that some sequence of calls on a newly created session leads to. -/
def Reachable (s : Session) : Prop :=
  ∃ version clientId cleanStart fresh ops, Session.new version clientId cleanStart = .ok fresh ∧
    Run (fun s op t => t = perform s op) fresh ops s

theorem new_eq_ok {version : MqttVersion} {clientId : String} {cleanStart : Bool} {s : Session}
    (created : Session.new version clientId cleanStart = .ok s) : s = initial version clientId cleanStart := by
  simp only [Session.new] at created
  split at created
  · cases created
  · cases created
    rfl

section Outgoing

variable {s : Session} {packetId : UInt16} {reasonCode : UInt8} {flow : OutgoingFlow}

def finishOutgoing (s : Session) (packetId : UInt16) : Session :=
  { s with
    qosFlow := { s.qosFlow with outgoing := s.qosFlow.outgoing.erase packetId }
    flowControl := s.flowControl.publishAcked
    packetIdManager := s.packetIdManager.release packetId }

/-- What `handle_puback` and `handle_pubcomp` have in common, with the flow state that each of them ends. -/
def handleFinalAck (s : Session) (expected : FlowState) (packetId : UInt16) :
    Except FlowError (Option Action) × Session :=
  match s.qosFlow.finalAckReceived expected packetId with
  | (.error reason, qosFlow) => (.error reason, { s with qosFlow })
  | (.ok (some action), qosFlow) => (.ok (some action), { s with qosFlow }.flowFinished packetId)
  | (.ok none, qosFlow) => (.ok none, { s with qosFlow })

theorem handlePuback_eq (s : Session) (packetId : UInt16) :
    s.handlePuback packetId = s.handleFinalAck .awaitingPuback packetId := rfl

theorem handlePubcomp_eq (s : Session) (packetId : UInt16) :
    s.handlePubcomp packetId = s.handleFinalAck .awaitingPubcomp packetId := rfl

theorem handleFinalAck_cases (s : Session) (expected : FlowState) (packetId : UInt16) :
    (∃ flow, s.qosFlow.outgoing.get? packetId = some flow ∧ flow.state = expected ∧
      s.handleFinalAck expected packetId = (.ok (some (.complete packetId)), s.finishOutgoing packetId)) ∨
    s.handleFinalAck expected packetId = (.ok none, s) ∨
    s.handleFinalAck expected packetId = (.error .stateMismatch, s) := by
  rcases s.qosFlow.finalAckReceived_cases expected packetId with
    ⟨flow, present, waiting, result⟩ | result | result
  · exact .inl ⟨flow, present, waiting, by simp only [handleFinalAck, result]; rfl⟩
  · exact .inr (.inl (by simp [handleFinalAck, result]))
  · exact .inr (.inr (by simp [handleFinalAck, result]))

theorem handlePuback_cases (s : Session) (packetId : UInt16) :
    (∃ flow, s.qosFlow.outgoing.get? packetId = some flow ∧ flow.state = .awaitingPuback ∧
      s.handlePuback packetId = (.ok (some (.complete packetId)), s.finishOutgoing packetId)) ∨
    s.handlePuback packetId = (.ok none, s) ∨
    s.handlePuback packetId = (.error .stateMismatch, s) := s.handleFinalAck_cases .awaitingPuback packetId

theorem handlePubcomp_cases (s : Session) (packetId : UInt16) :
    (∃ flow, s.qosFlow.outgoing.get? packetId = some flow ∧ flow.state = .awaitingPubcomp ∧
      s.handlePubcomp packetId = (.ok (some (.complete packetId)), s.finishOutgoing packetId)) ∨
    s.handlePubcomp packetId = (.ok none, s) ∨
    s.handlePubcomp packetId = (.error .stateMismatch, s) := s.handleFinalAck_cases .awaitingPubcomp packetId

def advanceOutgoing (s : Session) (packetId : UInt16) (flow : OutgoingFlow) : Session :=
  { s with qosFlow := { s.qosFlow with
      outgoing := s.qosFlow.outgoing.insert packetId
        { seq := s.qosFlow.nextSeq, state := .awaitingPubcomp, quotaCharged := flow.quotaCharged }
      nextSeq := s.qosFlow.nextSeq + 1 } }

section Answered

variable {s : Session} {packetId : UInt16} {flow : OutgoingFlow}

theorem handleFinalAck_finished (present : s.qosFlow.outgoing.get? packetId = some flow) :
    s.handleFinalAck flow.state packetId = (.ok (some (.complete packetId)), s.finishOutgoing packetId) := by
  simp only [handleFinalAck, QosFlowManager.finalAckReceived_finished present rfl]
  rfl

theorem handlePuback_finished (present : s.qosFlow.outgoing.get? packetId = some flow)
    (waiting : flow.state = .awaitingPuback) :
    s.handlePuback packetId = (.ok (some (.complete packetId)), s.finishOutgoing packetId) := by
  rw [handlePuback_eq, ← waiting, handleFinalAck_finished present]

theorem handlePubcomp_finished (present : s.qosFlow.outgoing.get? packetId = some flow)
    (waiting : flow.state = .awaitingPubcomp) :
    s.handlePubcomp packetId = (.ok (some (.complete packetId)), s.finishOutgoing packetId) := by
  rw [handlePubcomp_eq, ← waiting, handleFinalAck_finished present]

theorem handlePubrec_advanced {reasonCode : UInt8} (success : ¬0x80 ≤ reasonCode)
    (present : s.qosFlow.outgoing.get? packetId = some flow) (waiting : flow.state = .awaitingPubrec) :
    s.handlePubrec packetId reasonCode = (.ok (some (.sendPubrel packetId)), s.advanceOutgoing packetId flow) := by
  simp only [handlePubrec, QosFlowManager.pubrecReceived_first success present waiting]
  rfl

end Answered

theorem handlePubrec_cases (s : Session) (packetId : UInt16) (reasonCode : UInt8) :
    (∃ flow, s.qosFlow.outgoing.get? packetId = some flow ∧ flow.state = .awaitingPubrec ∧ 0x80 ≤ reasonCode ∧
      s.handlePubrec packetId reasonCode = (.ok (some (.aborted packetId)), s.finishOutgoing packetId)) ∨
    (∃ flow, s.qosFlow.outgoing.get? packetId = some flow ∧ flow.state = .awaitingPubrec ∧ ¬0x80 ≤ reasonCode ∧
      s.handlePubrec packetId reasonCode = (.ok (some (.sendPubrel packetId)), s.advanceOutgoing packetId flow)) ∨
    s.handlePubrec packetId reasonCode = (.ok (some (.sendPubrel packetId)), s) ∨
    s.handlePubrec packetId reasonCode = (.ok none, s) ∨
    s.handlePubrec packetId reasonCode = (.error .stateMismatch, s) := by
  rcases s.qosFlow.pubrecReceived_cases packetId reasonCode with
    ⟨flow, present, waiting, failure, result⟩ | ⟨flow, present, waiting, success, result⟩ |
    result | result | result
  · exact .inl ⟨flow, present, waiting, failure, by simp only [handlePubrec, result]; rfl⟩
  · exact .inr (.inl ⟨flow, present, waiting, success, by simp only [handlePubrec, result]; rfl⟩)
  · exact .inr (.inr (.inl (by simp [handlePubrec, result])))
  · exact .inr (.inr (.inr (.inl (by simp [handlePubrec, result]))))
  · exact .inr (.inr (.inr (.inr (by simp [handlePubrec, result]))))

theorem needsRetransmission_eq_resendPublish {m : QosFlowManager} {id : UInt16} :
    m.needsRetransmission packetId = some (.resendPublish id) ↔
      id = packetId ∧ ∃ flow, m.outgoing.get? packetId = some flow ∧
        (flow.state = .awaitingPuback ∨ flow.state = .awaitingPubrec) := by
  unfold QosFlowManager.needsRetransmission
  cases present : m.outgoing.get? packetId with
  | none => simp
  | some flow => cases known : flow.state <;> simp [known, eq_comm]

theorem resendPublish_cases (s : Session) (packetId : UInt16) :
    (∃ flow, s.qosFlow.outgoing.get? packetId = some flow ∧ flow.quotaCharged = false ∧
      s.flowControl.outstandingCount < s.flowControl.receiveMaximum ∧
      s.resendPublish packetId =
        (.ok (some (.resendPublish packetId)),
          { s with
            flowControl := { s.flowControl with
              outstandingCount := s.flowControl.outstandingCount.saturatingAdd 1 }
            qosFlow := { s.qosFlow with
              outgoing := s.qosFlow.outgoing.insert packetId { flow with quotaCharged := true } } })) ∨
    (s.resendPublish packetId).2 = s := by
  unfold resendPublish
  split
  · rename_i id asked
    obtain ⟨rfl, flow, present, -⟩ := needsRetransmission_eq_resendPublish.mp asked
    by_cases charged : flow.quotaCharged = true
    · right
      simp only [QosFlowManager.isQuotaCharged, present, Option.any_some, charged, ↓reduceIte]
      split <;> rfl
    · have uncharged : flow.quotaCharged = false := by simpa using charged
      rcases s.flowControl.publishSent_cases with ⟨room, sent⟩ | ⟨-, refused⟩
      · left
        refine ⟨flow, present, uncharged, room, ?_⟩
        simp [QosFlowManager.isQuotaCharged, present, uncharged, sent,
          QosFlowManager.markQuotaCharged_present present]
      · right
        simp [QosFlowManager.isQuotaCharged, present, uncharged, refused]
  · exact .inr rfl

def openingState : QoS → FlowState
  | .exactlyOnce => .awaitingPubrec
  | _ => .awaitingPuback

theorem publishSent_cases (s : Session) (qos : QoS) (packetId : UInt16) :
    (qos ≠ .atMostOnce ∧ packetId ≠ 0 ∧ s.flowControl.outstandingCount < s.flowControl.receiveMaximum ∧
      s.publishSent qos packetId =
        (.ok (),
          { s with
            flowControl := { s.flowControl with
              outstandingCount := s.flowControl.outstandingCount.saturatingAdd 1 }
            qosFlow := s.qosFlow.publishSent (openingState qos) packetId })) ∨
    (∃ reason, s.publishSent qos packetId = (.error reason, s)) := by
  unfold publishSent
  by_cases atMostOnce : qos = .atMostOnce
  · exact .inr ⟨.invalidQoS, by simp [atMostOnce]⟩
  by_cases zero : packetId = 0
  · exact .inr ⟨.invalidPacketId, by simp [atMostOnce, zero]⟩
  rcases s.flowControl.publishSent_cases with ⟨room, sent⟩ | ⟨-, refused⟩
  · refine .inl ⟨atMostOnce, zero, room, ?_⟩
    simp only [atMostOnce, zero, ↓reduceIte, sent]
    cases qos with
    | atMostOnce => exact absurd rfl atMostOnce
    | atLeastOnce => rfl
    | exactlyOnce => rfl
  · exact .inr ⟨.receiveMaximumExceeded, by simp [atMostOnce, zero, refused]⟩

theorem publishSent_ok_iff {s : Session} {qos : QoS} {packetId : UInt16} :
    (s.publishSent qos packetId).1 = .ok () ↔
      qos ≠ .atMostOnce ∧ packetId ≠ 0 ∧ s.flowControl.outstandingCount < s.flowControl.receiveMaximum := by
  constructor
  · intro accepted
    rcases s.publishSent_cases qos packetId with ⟨real, nonzero, room, -⟩ | ⟨reason, refused⟩
    · exact ⟨real, nonzero, room⟩
    · rw [refused] at accepted
      cases accepted
  · rintro ⟨real, nonzero, room⟩
    rcases s.flowControl.publishSent_cases with ⟨-, sent⟩ | ⟨full, -⟩
    · simp only [publishSent, real, nonzero, ↓reduceIte, sent]
      cases qos with
      | atMostOnce => exact absurd rfl real
      | atLeastOnce | exactlyOnce => rfl
    · exact absurd room (not_lt.mpr full)

end Outgoing

theorem countIncoming_cases (s : Session) (packetId : UInt16) :
    (s.qosFlow.hasIncomingFlow packetId = true ∧ s.countIncoming packetId = (.ok (), s)) ∨
    (s.qosFlow.hasIncomingFlow packetId = false ∧ s.flowControl.incomingCount < s.flowControl.ownReceiveMaximum ∧
      s.countIncoming packetId = (.ok (),
        { s with flowControl := { s.flowControl with
            incomingCount := s.flowControl.incomingCount.saturatingAdd 1 } })) ∨
    (s.qosFlow.hasIncomingFlow packetId = false ∧ s.flowControl.ownReceiveMaximum ≤ s.flowControl.incomingCount ∧
      s.countIncoming packetId = (.error .receiveMaximumExceeded, s)) := by
  cases known : s.qosFlow.hasIncomingFlow packetId with
  | true => exact .inl ⟨rfl, by simp [countIncoming, known]⟩
  | false =>
    rcases s.flowControl.publishReceived_cases with ⟨room, received⟩ | ⟨full, refused⟩
    · exact .inr (.inl ⟨rfl, room, by simp [countIncoming, known, received]⟩)
    · exact .inr (.inr ⟨rfl, full, by simp [countIncoming, known, refused]⟩)

theorem countIncoming_refused {s t : Session} {packetId : UInt16} {reason : FlowControlError}
    (refused : s.countIncoming packetId = (.error reason, t)) : t = s := by
  rcases s.countIncoming_cases packetId with ⟨-, counted⟩ | ⟨-, -, counted⟩ | ⟨-, -, counted⟩
  · cases counted.symm.trans refused
  · cases counted.symm.trans refused
  · exact (congrArg Prod.snd (counted.symm.trans refused)).symm

/-- What `handle_publish_qos1` and `handle_publish_qos2` have in common, with what the flows make of the PUBLISH. -/
def handlePublish (s : Session) (received : QosFlowManager → UInt16 → Action × QosFlowManager) (packetId : UInt16) :
    Except FlowControlError Action × Session :=
  match s.countIncoming packetId with
  | (.error reason, s) => (.error reason, s)
  | (.ok (), s) =>
    let (action, qosFlow) := received s.qosFlow packetId
    (.ok action, { s with qosFlow })

end Session

end MqttRs
