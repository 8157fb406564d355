import MqttRs.State.Session.Frame

namespace MqttRs

namespace Session

/-- The call is a CONNECT, which takes effect when the session can send it. -/
def Connects (s : Session) : SessionOp → Prop
  | .connectSent => True
  | .connectSentWithAuth method => (s.connectSentWithAuth method).1 = .ok ()
  | _ => False

/-- How a call came to leave an outgoing flow open under an identifier. -/
inductive FlowEffect (s : Session) (op : SessionOp) (id : UInt16) (flow : OutgoingFlow) : Prop
  | kept (before : s.qosFlow.outgoing.get? id = some flow)
  | opened (qos : QoS) (sent : op = .publishSent qos id) (ok : (s.publishSent qos id).1 = .ok ())
      (fresh : s.qosFlow.outgoing.get? id = none) (state : flow.state = openingState qos)
      (charged : flow.quotaCharged = true)
  | resent (earlier : OutgoingFlow) (asked : op = .resendPublish id)
      (ok : (s.resendPublish id).1 = .ok (some (.resendPublish id)))
      (before : s.qosFlow.outgoing.get? id = some earlier) (uncharged : earlier.quotaCharged = false)
      (now : flow = { earlier with quotaCharged := true })
  | advanced (earlier : OutgoingFlow) (reasonCode : UInt8) (received : op = .handlePubrec id reasonCode)
      (success : ¬0x80 ≤ reasonCode) (before : s.qosFlow.outgoing.get? id = some earlier)
      (waiting : earlier.state = .awaitingPubrec) (state : flow.state = .awaitingPubcomp)
      (charge : flow.quotaCharged = earlier.quotaCharged)
  | restarted (earlier : OutgoingFlow) (connects : s.Connects op)
      (before : s.qosFlow.outgoing.get? id = some earlier) (now : flow = { earlier with quotaCharged := false })

section Effects

variable {s : Session} {id : UInt16} {flow : OutgoingFlow} {op : SessionOp}

theorem finishOutgoing_flow {packetId : UInt16}
    (after : (s.finishOutgoing packetId).qosFlow.outgoing.get? id = some flow) :
    s.qosFlow.outgoing.get? id = some flow := by
  simp only [finishOutgoing, OrderedMap.get?_erase] at after
  split at after
  · cases after
  · exact after

theorem connectSent_flow (after : s.connectSent.qosFlow.outgoing.get? id = some flow) :
    ∃ earlier, s.qosFlow.outgoing.get? id = some earlier ∧ flow = { earlier with quotaCharged := false } := by
  have cleared : (s.qosFlow.outgoing.mapValues fun flow => { flow with quotaCharged := false }).get? id = some flow :=
    after
  rw [OrderedMap.get?_mapValues] at cleared
  obtain ⟨earlier, before, now⟩ := Option.map_eq_some_iff.mp cleared
  exact ⟨earlier, before, now.symm⟩

theorem publishSent_flow {qos : QoS} {packetId : UInt16}
    (after : (s.publishSent qos packetId).2.qosFlow.outgoing.get? id = some flow) :
    FlowEffect s (.publishSent qos packetId) id flow := by
  rcases s.publishSent_cases qos packetId with ⟨-, nonzero, -, sent⟩ | ⟨reason, refused⟩
  · have ok : (s.publishSent qos packetId).1 = .ok () := by rw [sent]
    rw [sent] at after
    cases before : s.qosFlow.outgoing.get? packetId with
    | none =>
      simp only [QosFlowManager.publishSent_new nonzero before, OrderedMap.get?_insert] at after
      split at after
      · rename_i same
        subst same
        cases after
        exact .opened qos rfl ok before rfl rfl
      · exact .kept after
    | some present =>
      simp only [QosFlowManager.publishSent_present before] at after
      exact .kept after
  · rw [refused] at after
    exact .kept after

theorem resendPublish_flow {packetId : UInt16}
    (after : (s.resendPublish packetId).2.qosFlow.outgoing.get? id = some flow) :
    FlowEffect s (.resendPublish packetId) id flow := by
  rcases s.resendPublish_cases packetId with ⟨earlier, before, uncharged, -, sent⟩ | same
  · have ok : (s.resendPublish packetId).1 = .ok (some (.resendPublish packetId)) := by rw [sent]
    rw [sent] at after
    simp only [OrderedMap.get?_insert] at after
    split at after
    · rename_i same
      subst same
      cases after
      exact .resent earlier rfl ok before uncharged rfl
    · exact .kept after
  · rw [same] at after
    exact .kept after

theorem handlePubrec_flow {packetId : UInt16} {reasonCode : UInt8}
    (after : (s.handlePubrec packetId reasonCode).2.qosFlow.outgoing.get? id = some flow) :
    FlowEffect s (.handlePubrec packetId reasonCode) id flow := by
  rcases s.handlePubrec_cases packetId reasonCode with
    ⟨ended, -, -, -, result⟩ | ⟨earlier, before, waiting, success, result⟩ | result | result | result <;>
    rw [result] at after
  · exact .kept (finishOutgoing_flow after)
  · simp only [advanceOutgoing, OrderedMap.get?_insert] at after
    split at after
    · rename_i same
      subst same
      cases after
      exact .advanced earlier reasonCode rfl success before waiting rfl rfl
    · exact .kept after
  all_goals exact .kept after

theorem applyConnack_flow {params : ConnackParams}
    (after : (s.applyConnack params).2.qosFlow.outgoing.get? id = some flow) :
    s.qosFlow.outgoing.get? id = some flow := by
  rcases s.applyConnack_cases params with ⟨-, -, accepted⟩ | ⟨-, same⟩
  · rw [accepted] at after
    simp only [acceptConnack_qosFlow] at after
    split at after
    · cases after
    · exact after
  · rw [same] at after
    exact after

theorem perform_flow (after : (s.perform op).qosFlow.outgoing.get? id = some flow) : FlowEffect s op id flow := by
  cases kept : keepsSending op with
  | true =>
    rw [(s.perform_sameSending kept).outgoing] at after
    exact .kept after
  | false =>
    cases op
    case applyConnack => exact .kept (applyConnack_flow after)
    case publishSent => exact publishSent_flow after
    case resendPublish => exact resendPublish_flow after
    case handlePubrec => exact handlePubrec_flow after
    case connectSent =>
      obtain ⟨earlier, before, now⟩ := connectSent_flow after
      exact .restarted earlier trivial before now
    case connectSentWithAuth method =>
      cases v5 : s.isV5 with
      | true =>
        have ok : (s.connectSentWithAuth method).1 = .ok () := by simp [connectSentWithAuth, v5]
        simp only [perform, connectSentWithAuth, v5] at after
        obtain ⟨earlier, before, now⟩ := connectSent_flow after
        exact .restarted earlier ok before now
      | false =>
        simp only [perform, connectSentWithAuth, v5] at after
        exact .kept after
    case connected sessionPresent =>
      simp only [perform, connected] at after
      split at after
      · cases after
      · exact .kept after
    case reset => cases after
    case abortPublish packetId =>
      simp only [perform, abortPublish, QosFlowManager.release, OrderedMap.get?_erase] at after
      split at after
      · cases after
      · exact .kept after
    case handlePuback packetId =>
      rcases s.handlePuback_cases packetId with ⟨ended, -, -, result⟩ | result | result <;>
        simp only [perform, result] at after
      · exact .kept (finishOutgoing_flow after)
      all_goals exact .kept after
    case handlePubcomp packetId =>
      rcases s.handlePubcomp_cases packetId with ⟨ended, -, -, result⟩ | result | result <;>
        simp only [perform, result] at after
      · exact .kept (finishOutgoing_flow after)
      all_goals exact .kept after
    all_goals cases kept

end Effects

end Session

end MqttRs
