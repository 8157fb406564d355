import MqttRs.State.QosFlow

namespace MqttRs

/-- The calls on the receiving side of the flow manager. -/
inductive ReceivingOp where
  | publishReceivedQos1 (packetId : UInt16)
  | publishReceivedQos2 (packetId : UInt16)
  | pubackSent (packetId : UInt16)
  | pubrelReceived (packetId : UInt16)

/-- The calls on the sending side of the flow manager. -/
inductive SendingOp where
  | publishSentQos1 (packetId : UInt16)
  | publishSentQos2 (packetId : UInt16)
  | pubackReceived (packetId : UInt16)
  | pubrecReceived (packetId : UInt16) (reasonCode : UInt8)
  | pubcompReceived (packetId : UInt16)
  | needsRetransmission (packetId : UInt16)
  | pendingPacketIds

/-- What a call returns. -/
inductive OpResult where
  | done
  | action (action : Action)
  | handled (result : Except FlowError (Option Action))
  | retransmission (action : Option Action)
  | packetIds (ids : List UInt16)

namespace QosFlowManager

def receive (m : QosFlowManager) : ReceivingOp → OpResult × QosFlowManager
  | .publishReceivedQos1 id => (.action (m.publishReceivedQos1 id).1, (m.publishReceivedQos1 id).2)
  | .publishReceivedQos2 id => (.action (m.publishReceivedQos2 id).1, (m.publishReceivedQos2 id).2)
  | .pubackSent id => (.done, m.pubackSent id)
  | .pubrelReceived id => (.handled (m.pubrelReceived id).1, (m.pubrelReceived id).2)

def send (m : QosFlowManager) : SendingOp → OpResult × QosFlowManager
  | .publishSentQos1 id => (.done, m.publishSentQos1 id)
  | .publishSentQos2 id => (.done, m.publishSentQos2 id)
  | .pubackReceived id => (.handled (m.pubackReceived id).1, (m.pubackReceived id).2)
  | .pubrecReceived id reasonCode =>
    (.handled (m.pubrecReceived id reasonCode).1, (m.pubrecReceived id reasonCode).2)
  | .pubcompReceived id => (.handled (m.pubcompReceived id).1, (m.pubcompReceived id).2)
  | .needsRetransmission id => (.retransmission (m.needsRetransmission id), m)
  | .pendingPacketIds => (.packetIds m.pendingPacketIds, m)

def strayPubrel (m : QosFlowManager) : ReceivingOp → Option UInt16
  | .pubrelReceived id => if m.incoming.contains id then none else some id
  | _ => none

def strayAck (m : QosFlowManager) : SendingOp → Option UInt16
  | .pubackReceived id | .pubrecReceived id _ | .pubcompReceived id =>
    if m.outgoing.contains id then none else some id
  | _ => none

section TwoStates

variable {m n : QosFlowManager} {packetId : UInt16} {reasonCode : UInt8} {expected : FlowState}

theorem pubrelReceived_stray (stray : m.incoming.contains packetId = false) :
    (m.pubrelReceived packetId).1 =
      if m.outgoing.contains packetId then .error .stateMismatch else .ok (some (.resendPubcomp packetId)) := by
  rw [pubrelReceived_absent (OrderedMap.contains_false_iff.mp stray)]

theorem finalAckReceived_stray (stray : m.outgoing.contains packetId = false) :
    (m.finalAckReceived expected packetId).1 =
      if m.incoming.contains packetId then .error .stateMismatch else .ok none := by
  rw [finalAckReceived_absent (OrderedMap.contains_false_iff.mp stray)]

theorem pubrecReceived_stray (stray : m.outgoing.contains packetId = false) :
    (m.pubrecReceived packetId reasonCode).1 =
      if m.incoming.contains packetId then .error .stateMismatch else .ok none := by
  have absent := OrderedMap.contains_false_iff.mp stray
  by_cases failure : 0x80 ≤ reasonCode <;> cases other : m.incoming.contains packetId <;>
    simp [pubrecReceived, failure, absent, other]

theorem pubrelReceived_known (same : m.incoming = n.incoming) (known : m.incoming.contains packetId = true) :
    (m.pubrelReceived packetId).1 = (n.pubrelReceived packetId).1 := by
  obtain ⟨state, present⟩ := OrderedMap.contains_iff.mp known
  unfold pubrelReceived
  rw [← same, present]
  cases state <;> rfl

theorem finalAckReceived_known (same : m.outgoing = n.outgoing) (known : m.outgoing.contains packetId = true) :
    (m.finalAckReceived expected packetId).1 = (n.finalAckReceived expected packetId).1 := by
  obtain ⟨flow, present⟩ := OrderedMap.contains_iff.mp known
  unfold finalAckReceived
  rw [← same, present]
  dsimp only
  split <;> rfl

theorem pubrecReceived_known (same : m.outgoing = n.outgoing) (known : m.outgoing.contains packetId = true) :
    (m.pubrecReceived packetId reasonCode).1 = (n.pubrecReceived packetId reasonCode).1 := by
  obtain ⟨flow, present⟩ := OrderedMap.contains_iff.mp known
  unfold pubrecReceived
  rw [← same, present]
  dsimp only
  split <;> cases flow.state <;> rfl

theorem receive_incoming (same : m.incoming = n.incoming) (op : ReceivingOp) :
    (m.receive op).2.incoming = (n.receive op).2.incoming := by
  cases op with
  | publishReceivedQos1 id => exact congrArg (fun flows => flows.insert id .incomingAwaitingPuback) same
  | publishReceivedQos2 id => exact congrArg (fun flows => flows.insert id .awaitingPubrel) same
  | pubackSent id =>
    show (m.pubackSent id).incoming = (n.pubackSent id).incoming
    unfold pubackSent
    rw [same]
    cases n.incoming.get? id with
    | none => exact same
    | some state => cases state <;> rfl
  | pubrelReceived id =>
    show (m.pubrelReceived id).2.incoming = (n.pubrelReceived id).2.incoming
    unfold pubrelReceived
    rw [same]
    cases n.incoming.get? id with
    | none => dsimp only; split <;> split <;> exact same
    | some state => cases state <;> rfl

theorem finalAckReceived_outgoing (same : m.outgoing = n.outgoing) (seq : m.nextSeq = n.nextSeq) :
    (m.finalAckReceived expected packetId).2.outgoing = (n.finalAckReceived expected packetId).2.outgoing ∧
      (m.finalAckReceived expected packetId).2.nextSeq = (n.finalAckReceived expected packetId).2.nextSeq := by
  unfold finalAckReceived
  rw [same]
  cases n.outgoing.get? packetId with
  | none => dsimp only; split <;> split <;> exact ⟨same, seq⟩
  | some flow => dsimp only; split <;> exact ⟨rfl, seq⟩

theorem pubrecReceived_outgoing (same : m.outgoing = n.outgoing) (seq : m.nextSeq = n.nextSeq) :
    (m.pubrecReceived packetId reasonCode).2.outgoing = (n.pubrecReceived packetId reasonCode).2.outgoing ∧
      (m.pubrecReceived packetId reasonCode).2.nextSeq = (n.pubrecReceived packetId reasonCode).2.nextSeq := by
  unfold pubrecReceived
  rw [same]
  cases n.outgoing.get? packetId with
  | none => dsimp only; split <;> split <;> split <;> exact ⟨same, seq⟩
  | some flow =>
    dsimp only [allocateSeq]
    rw [seq]
    split <;> cases flow.state <;> exact ⟨by first | rfl | exact same, by first | rfl | exact seq⟩

theorem publishSent_outgoing (same : m.outgoing = n.outgoing) (seq : m.nextSeq = n.nextSeq) (state : FlowState) :
    (m.publishSent state packetId).outgoing = (n.publishSent state packetId).outgoing ∧
      (m.publishSent state packetId).nextSeq = (n.publishSent state packetId).nextSeq := by
  unfold publishSent allocateSeq
  rw [same, seq]
  split
  · exact ⟨same, seq⟩
  · exact ⟨rfl, rfl⟩

theorem send_outgoing (same : m.outgoing = n.outgoing) (seq : m.nextSeq = n.nextSeq) (op : SendingOp) :
    (m.send op).2.outgoing = (n.send op).2.outgoing ∧ (m.send op).2.nextSeq = (n.send op).2.nextSeq := by
  cases op with
  | publishSentQos1 id | publishSentQos2 id => exact publishSent_outgoing same seq _
  | pubackReceived id | pubcompReceived id => exact finalAckReceived_outgoing same seq
  | pubrecReceived id reasonCode => exact pubrecReceived_outgoing same seq
  | needsRetransmission id | pendingPacketIds => exact ⟨same, seq⟩

theorem answer_eq_iff {a b : Bool} {action : Option Action} :
    OpResult.handled (if a then .error .stateMismatch else .ok action) =
      .handled (if b then .error .stateMismatch else .ok action) ↔ a = b := by
  cases a <;> cases b <;> simp

theorem receive_result_iff (same : m.incoming = n.incoming) (op : ReceivingOp) :
    (m.receive op).1 = (n.receive op).1 ↔
      ∀ id ∈ m.strayPubrel op, m.outgoing.contains id = n.outgoing.contains id := by
  cases op with
  | publishReceivedQos1 id | pubackSent id => simp [receive, publishReceivedQos1, strayPubrel]
  | publishReceivedQos2 id => simp [receive, publishReceivedQos2, strayPubrel, same]
  | pubrelReceived id =>
    cases known : m.incoming.contains id with
    | true => simp [receive, strayPubrel, known, pubrelReceived_known same known]
    | false =>
      simp only [receive, pubrelReceived_stray known, pubrelReceived_stray (same ▸ known)]
      rw [answer_eq_iff]
      simp [strayPubrel, known]

theorem send_result_iff (same : m.outgoing = n.outgoing) (op : SendingOp) :
    (m.send op).1 = (n.send op).1 ↔
      ∀ id ∈ m.strayAck op, m.incoming.contains id = n.incoming.contains id := by
  cases op with
  | publishSentQos1 id | publishSentQos2 id => simp [send, strayAck]
  | needsRetransmission id => simp [send, strayAck, QosFlowManager.needsRetransmission, same]
  | pendingPacketIds => simp [send, strayAck, QosFlowManager.pendingPacketIds, same]
  | pubackReceived id | pubcompReceived id =>
    cases known : m.outgoing.contains id with
    | true =>
      simp [send, strayAck, known, pubackReceived, pubcompReceived, finalAckReceived_known same known]
    | false =>
      simp only [send, pubackReceived, pubcompReceived, finalAckReceived_stray known,
        finalAckReceived_stray (same ▸ known)]
      rw [answer_eq_iff]
      simp [strayAck, known]
  | pubrecReceived id reasonCode =>
    cases known : m.outgoing.contains id with
    | true => simp [send, strayAck, known, pubrecReceived_known same known]
    | false =>
      simp only [send, pubrecReceived_stray known, pubrecReceived_stray (same ▸ known)]
      rw [answer_eq_iff]
      simp [strayAck, known]

end TwoStates

/-- Each side keeps its own flows whatever the other side holds, and what it returns differs only for a PUBREL or
    an acknowledgement that answers no flow of its side while just one of the two states has a flow of the other
    direction under that identifier: such a packet is a state mismatch instead of a stray one. -/
theorem identifier_spaces_independent :
    (∀ (m n : QosFlowManager) op, m.incoming = n.incoming → (m.receive op).2.incoming = (n.receive op).2.incoming ∧
      ((m.receive op).1 = (n.receive op).1 ↔
        ∀ id ∈ m.strayPubrel op, m.outgoing.contains id = n.outgoing.contains id)) ∧
    (∀ (m n : QosFlowManager) op, m.outgoing = n.outgoing → m.nextSeq = n.nextSeq →
      ((m.send op).2.outgoing = (n.send op).2.outgoing ∧ (m.send op).2.nextSeq = (n.send op).2.nextSeq) ∧
      ((m.send op).1 = (n.send op).1 ↔
        ∀ id ∈ m.strayAck op, m.incoming.contains id = n.incoming.contains id)) ∧
    (∀ (m : QosFlowManager) id, m.incoming.contains id = false →
      (m.pubrelReceived id).1 =
        if m.outgoing.contains id then .error .stateMismatch else .ok (some (.resendPubcomp id))) := by
  refine ⟨?_, ?_, ?_⟩
  · intro m n op same
    exact ⟨receive_incoming same op, receive_result_iff same op⟩
  · intro m n op same seq
    exact ⟨send_outgoing same seq op, send_result_iff same op⟩
  · intro m id stray
    exact pubrelReceived_stray stray

theorem identifier_spaces_dependent :
    ¬((∀ (m n : QosFlowManager) op, m.incoming = n.incoming →
        (m.receive op).1 = (n.receive op).1 ∧ (m.receive op).2.incoming = (n.receive op).2.incoming) ∧
      (∀ (m n : QosFlowManager) op, m.outgoing = n.outgoing → m.nextSeq = n.nextSeq →
        (m.send op).1 = (n.send op).1 ∧ (m.send op).2.outgoing = (n.send op).2.outgoing) ∧
      ∀ (m : QosFlowManager) id, m.incoming.contains id = false →
        (m.pubrelReceived id).1 = .ok (some (.resendPubcomp id))) := by
  rintro ⟨-, -, answered⟩
  have refused : ((new.publishSentQos1 1).pubrelReceived 1).1 = .error .stateMismatch := rfl
  rw [answered (new.publishSentQos1 1) 1 rfl] at refused
  cases refused

end QosFlowManager

end MqttRs
