import MqttRs.State.ReceiveQuota

namespace MqttRs

namespace Session

/-- A QoS 2 PUBLISH of a new message was let in under the identifier. -/
def TakesNewMessage (s : Session) (packetId : UInt16) : Prop :=
  (s.handlePublishQos2 packetId).1 = .ok (.sendPubrec packetId false)

def answeredPubrec (s : Session) (packetId : UInt16) (reasonCode : UInt8) : Session :=
  (s.handlePublishQos2 packetId).2.pubrecSent reasonCode

def deliveredQos2 (s : Session) (packetId : UInt16) : Session :=
  ((s.answeredPubrec packetId 0).handlePubrel packetId).2.pubcompSent

/-- What the error PUBREC of a new message is for: its flow is over and its slot is free, and the identifier
    carries the next message from its PUBLISH to its PUBCOMP. -/
structure ErrorPubrecEndsFlow (s : Session) (packetId : UInt16) (reasonCode : UInt8) : Prop where
  noFlow : (s.answeredPubrec packetId reasonCode).qosFlow.hasIncomingFlow packetId = false
  slotFreed : (s.answeredPubrec packetId reasonCode).flowControl.incomingCount = s.flowControl.incomingCount
  nextIsNew : (s.answeredPubrec packetId reasonCode).TakesNewMessage packetId
  nextCounted :
    ((s.answeredPubrec packetId reasonCode).handlePublishQos2 packetId).2.flowControl.incomingCount.toNat =
      s.flowControl.incomingCount.toNat + 1
  nextFreed : ((s.answeredPubrec packetId reasonCode).deliveredQos2 packetId).flowControl.incomingCount =
    s.flowControl.incomingCount

section Effect

variable {s : Session} {packetId : UInt16} {reasonCode : UInt8}

theorem handlePublishQos2_new (new : s.TakesNewMessage packetId) :
    s.flowControl.incomingCount < s.flowControl.ownReceiveMaximum ∧
      (s.handlePublishQos2 packetId).2 =
        { s with
          qosFlow := { s.qosFlow with incoming := s.qosFlow.incoming.insert packetId .awaitingPubrel }
          flowControl := { s.flowControl with
            incomingCount := s.flowControl.incomingCount.saturatingAdd 1 } } := by
  unfold TakesNewMessage at new
  rcases s.countIncoming_cases packetId with ⟨known, same⟩ | ⟨-, room, counts⟩ | ⟨-, -, refused⟩
  · rw [Subscriber.handlePublishQos2_counted same] at new
    simp only [QosFlowManager.hasIncomingFlow] at known
    simp [known] at new
  · rw [Subscriber.handlePublishQos2_counted counts]
    exact ⟨room, rfl⟩
  · rw [(Subscriber.handlePublish_refused refused).2] at new
    cases new

theorem answeredPubrec_eq (new : s.TakesNewMessage packetId) (failure : 0x80 ≤ reasonCode) :
    s.answeredPubrec packetId reasonCode =
      { s with qosFlow := { s.qosFlow with incoming := s.qosFlow.incoming.insert packetId .awaitingPubrel } } := by
  obtain ⟨room, taken⟩ := handlePublishQos2_new new
  have raised := UInt16.saturatingAdd_one_of_lt room
  have restored : (s.flowControl.incomingCount.saturatingAdd 1).saturatingSub 1 = s.flowControl.incomingCount := by
    apply UInt16.toNat_inj.mp
    simp only [UInt16.toNat_saturatingSub, raised, UInt16.reduceToNat, Nat.add_sub_cancel]
  simp only [answeredPubrec, taken, pubrecSent, failure, ↓reduceIte, FlowControl.publishAckSent, restored]

theorem answeredPubrec_next (new : s.TakesNewMessage packetId) (failure : 0x80 ≤ reasonCode) :
    ((s.answeredPubrec packetId reasonCode).handlePublishQos2 packetId).1 =
      .ok (.sendPubrec packetId true) := by
  have open' : (s.answeredPubrec packetId reasonCode).qosFlow.hasIncomingFlow packetId = true := by
    rw [answeredPubrec_eq new failure]
    simp [QosFlowManager.hasIncomingFlow, OrderedMap.contains]
  have counted : (s.answeredPubrec packetId reasonCode).countIncoming packetId =
      (.ok (), s.answeredPubrec packetId reasonCode) := by
    simp [countIncoming, open']
  rw [Subscriber.handlePublishQos2_counted counted]
  simp only [QosFlowManager.hasIncomingFlow] at open'
  rw [open']

end Effect

/-- No error PUBREC ends the flow of the message it refuses: the next message under the identifier is
    reported as a repetition, whatever the session. -/
theorem error_pubrec_never_ends_flow {s : Session} {packetId : UInt16} {reasonCode : UInt8}
    (new : s.TakesNewMessage packetId) (failure : 0x80 ≤ reasonCode) :
    ¬s.ErrorPubrecEndsFlow packetId reasonCode := by
  intro ends
  have next := answeredPubrec_next new failure
  rw [ends.nextIsNew] at next
  cases next

def acceptedSession : Session :=
  ((initial .v5 "client" false).connectSent.applyConnack (.successV5 false none)).2

theorem acceptedSession_error_pubrec :
    acceptedSession.TakesNewMessage 1 ∧ ¬acceptedSession.ErrorPubrecEndsFlow 1 0x80 := by
  have new : acceptedSession.TakesNewMessage 1 := rfl
  exact ⟨new, error_pubrec_never_ends_flow new (by decide)⟩

theorem error_pubrec_keeps_flow :
    ¬∀ s packetId reasonCode, Reachable s → s.TakesNewMessage packetId → 0x80 ≤ reasonCode →
      s.ErrorPubrecEndsFlow packetId reasonCode := by
  intro claim
  have run : Run (fun s op t => t = perform s op) (initial .v5 "client" false)
      [.connectSent, .applyConnack (.successV5 false none)] acceptedSession :=
    .cons rfl (.cons rfl (.nil _))
  have ends := claim acceptedSession 1 0x80 ⟨.v5, "client", false, _, _, rfl, run⟩ rfl (by decide)
  have stays : (acceptedSession.answeredPubrec 1 0x80).qosFlow.hasIncomingFlow 1 = true := by decide
  exact absurd ends.noFlow (by rw [stays]; decide)

end Session

end MqttRs
