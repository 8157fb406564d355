import MqttRs.State.Session.Ops

namespace MqttRs

/-- A session together with the actions it has returned and that are not answered yet. -/
structure Subscriber where
  session : Session
  pubacks : List UInt16
  pubrecs : Nat
  pubcomps : Nat

namespace Subscriber

/-- The packets of a peer that keeps one QoS per open flow, and the answers to the actions returned. -/
def allowed (r : Subscriber) : SessionOp → Bool
  | .handlePublishQos1 id => r.session.qosFlow.incoming.get? id ≠ some .awaitingPubrel
  | .handlePublishQos2 id => r.session.qosFlow.incoming.get? id ≠ some .incomingAwaitingPuback
  | .handlePubrel _ => true
  | .pubackSent id => r.pubacks.contains id
  | .pubrecSent reasonCode => decide (0 < r.pubrecs) && decide (reasonCode < 0x80)
  | .pubcompSent => decide (0 < r.pubcomps)
  | _ => false

def performed (r : Subscriber) (op : SessionOp) : Subscriber :=
  let r' := { r with session := r.session.perform op }
  match op with
  | .handlePublishQos1 id =>
    match (r.session.handlePublishQos1 id).1 with
    | .ok (.sendPuback id) => { r' with pubacks := id :: r.pubacks }
    | _ => r'
  | .handlePublishQos2 id =>
    match (r.session.handlePublishQos2 id).1 with
    | .ok (.sendPubrec _ _) => { r' with pubrecs := r.pubrecs + 1 }
    | _ => r'
  | .handlePubrel id =>
    match (r.session.handlePubrel id).1 with
    | .ok (some (.sendPubcomp _)) => { r' with pubcomps := r.pubcomps + 1 }
    | _ => r'
  | .pubackSent id => { r' with pubacks := r.pubacks.erase id }
  | .pubrecSent _ => { r' with pubrecs := r.pubrecs - 1 }
  | .pubcompSent => { r' with pubcomps := r.pubcomps - 1 }
  | _ => r'

def next (r : Subscriber) (op : SessionOp) : Option Subscriber :=
  if r.allowed op then some (r.performed op) else none

def incomingCount (r : Subscriber) : Nat := r.session.flowControl.incomingCount.toNat

def ownReceiveMaximum (r : Subscriber) : Nat := r.session.flowControl.ownReceiveMaximum.toNat

/-- PUBLISH packets received and not finished: open flows and PUBCOMPs still to be sent. -/
def unfinished (r : Subscriber) : Nat := r.session.qosFlow.incoming.size + r.pubcomps

def RefusesExactlyAtLimit (r : Subscriber) (result : UInt16 → Except FlowControlError Action) : Prop :=
  ∀ id, result id = .error .receiveMaximumExceeded ↔
    r.session.qosFlow.hasIncomingFlow id = false ∧ r.unfinished = r.ownReceiveMaximum

/-- The counter is the number of unfinished PUBLISH packets, and only a new one at the limit is refused. -/
structure Accounted (r : Subscriber) : Prop where
  counted : r.incomingCount = r.unfinished
  qos1 : r.RefusesExactlyAtLimit fun id => (r.session.handlePublishQos1 id).1
  qos2 : r.RefusesExactlyAtLimit fun id => (r.session.handlePublishQos2 id).1

def AnswersOpenFlow (r : Subscriber) : SessionOp → Prop
  | .pubackSent id =>
    r.session.qosFlow.incoming.get? id = some .incomingAwaitingPuback ∨ r.incomingCount = 0
  | _ => True

instance (r : Subscriber) (op : SessionOp) : Decidable (AnswersOpenFlow r op) := by
  unfold AnswersOpenFlow
  split <;> infer_instance

def Balanced (r : Subscriber) : Prop := r.incomingCount = r.unfinished ∧ r.incomingCount ≤ r.ownReceiveMaximum

section Counting

variable {s : Session} {packetId : UInt16}

def opened (s : Session) (packetId : UInt16) (state : FlowState) : Session :=
  { s with qosFlow := { s.qosFlow with incoming := s.qosFlow.incoming.insert packetId state } }

theorem handlePublishQos1_counted {t : Session} (counted : s.countIncoming packetId = (.ok (), t)) :
    s.handlePublishQos1 packetId = (.ok (.sendPuback packetId), opened t packetId .incomingAwaitingPuback) := by
  simp only [Session.handlePublishQos1, counted]
  rfl

theorem handlePublishQos2_counted {t : Session} (counted : s.countIncoming packetId = (.ok (), t)) :
    s.handlePublishQos2 packetId =
      (.ok (.sendPubrec packetId (t.qosFlow.incoming.contains packetId)), opened t packetId .awaitingPubrel) := by
  simp only [Session.handlePublishQos2, counted]
  rfl

theorem handlePublish_refused {reason : FlowControlError} {t : Session}
    (refused : s.countIncoming packetId = (.error reason, t)) :
    s.handlePublishQos1 packetId = (.error reason, s) ∧ s.handlePublishQos2 packetId = (.error reason, s) := by
  obtain rfl := Session.countIncoming_refused refused
  simp [Session.handlePublishQos1, Session.handlePublishQos2, refused]

end Counting

variable {r : Subscriber} {op : SessionOp} {packetId : UInt16} {state : FlowState}

theorem refuses_iff (balanced : r.Balanced) {result : UInt16 → Except FlowControlError Action}
    (accepts : ∀ id t, r.session.countIncoming id = (.ok (), t) → ∃ action, result id = .ok action)
    (refuses : ∀ id reason t, r.session.countIncoming id = (.error reason, t) → result id = .error reason) :
    r.RefusesExactlyAtLimit result := by
  obtain ⟨counted, within⟩ := balanced
  intro id
  rcases r.session.countIncoming_cases id with ⟨known, same⟩ | ⟨new, room, counts⟩ | ⟨new, full, refused⟩
  · obtain ⟨action, accepted⟩ := accepts id _ same
    simp [accepted, known]
  · obtain ⟨action, accepted⟩ := accepts id _ counts
    have below := UInt16.lt_iff_toNat_lt.mp room
    simp only [accepted, reduceCtorEq, new, true_and, false_iff]
    simp only [incomingCount, ownReceiveMaximum] at *
    omega
  · have above := UInt16.le_iff_toNat_le.mp full
    simp only [refuses id _ _ refused, new, true_and, true_iff]
    simp only [incomingCount, ownReceiveMaximum] at *
    omega

theorem accounted_of_balanced (balanced : r.Balanced) : r.Accounted := by
  refine ⟨balanced.1, refuses_iff balanced ?_ ?_, refuses_iff balanced ?_ ?_⟩
  · exact fun id t counted => ⟨_, congrArg Prod.fst (handlePublishQos1_counted counted)⟩
  · exact fun id reason t refused => congrArg Prod.fst (handlePublish_refused refused).1
  · exact fun id t counted => ⟨_, congrArg Prod.fst (handlePublishQos2_counted counted)⟩
  · exact fun id reason t refused => congrArg Prod.fst (handlePublish_refused refused).2

theorem opened_balanced (balanced : r.Balanced) (state : FlowState) {t : Session}
    (counted : r.session.countIncoming packetId = (.ok (), t)) (pubacks : List UInt16) (pubrecs : Nat) :
    Balanced { session := opened t packetId state, pubacks, pubrecs, pubcomps := r.pubcomps } := by
  obtain ⟨even, within⟩ := balanced
  rcases r.session.countIncoming_cases packetId with ⟨known, same⟩ | ⟨new, room, counts⟩ | ⟨-, -, refused⟩
  · rw [same] at counted
    cases counted
    obtain ⟨old, present⟩ := OrderedMap.contains_iff.mp known
    have size := r.session.qosFlow.incoming.size_insert_present state present
    simp only [Balanced, incomingCount, unfinished, ownReceiveMaximum, opened] at *
    omega
  · rw [counts] at counted
    cases counted
    have absent := OrderedMap.contains_false_iff.mp new
    have size := r.session.qosFlow.incoming.size_insert_new state absent
    have below := UInt16.lt_iff_toNat_lt.mp room
    have raised := UInt16.saturatingAdd_one_of_lt room
    simp only [Balanced, incomingCount, unfinished, ownReceiveMaximum, opened] at *
    omega
  · rw [refused] at counted
    cases counted

theorem handlePublishQos1_balanced (balanced : r.Balanced) : Balanced (r.performed (.handlePublishQos1 packetId)) := by
  rcases known : r.session.countIncoming packetId with ⟨result, t⟩
  cases result with
  | ok done =>
    simp only [performed, Session.perform, handlePublishQos1_counted known]
    exact opened_balanced balanced _ known _ _
  | error reason =>
    simp only [performed, Session.perform, (handlePublish_refused known).1]
    exact balanced

theorem handlePublishQos2_balanced (balanced : r.Balanced) : Balanced (r.performed (.handlePublishQos2 packetId)) := by
  rcases known : r.session.countIncoming packetId with ⟨result, t⟩
  cases result with
  | ok done =>
    simp only [performed, Session.perform, handlePublishQos2_counted known]
    exact opened_balanced balanced _ known _ _
  | error reason =>
    simp only [performed, Session.perform, (handlePublish_refused known).2]
    exact balanced

theorem handlePubrel_balanced (balanced : r.Balanced) : Balanced (r.performed (.handlePubrel packetId)) := by
  obtain ⟨even, within⟩ := balanced
  cases present : r.session.qosFlow.incoming.get? packetId with
  | none =>
    simp only [performed, Session.perform, Session.handlePubrel, QosFlowManager.pubrelReceived_absent present]
    cases r.session.qosFlow.outgoing.contains packetId <;> exact ⟨even, within⟩
  | some state =>
    by_cases waiting : state = .awaitingPubrel
    · subst waiting
      have size := r.session.qosFlow.incoming.size_erase_present present
      simp only [performed, Session.perform, Session.handlePubrel,
        QosFlowManager.pubrelReceived_finished present]
      simp only [Balanced, incomingCount, unfinished, ownReceiveMaximum] at *
      omega
    · simp only [performed, Session.perform, Session.handlePubrel,
        QosFlowManager.pubrelReceived_mismatch present waiting]
      exact ⟨even, within⟩

theorem pubackSent_balanced (balanced : r.Balanced) (answers : r.AnswersOpenFlow (.pubackSent packetId)) :
    Balanced (r.performed (.pubackSent packetId)) := by
  obtain ⟨even, within⟩ := balanced
  have lowered : (r.session.flowControl.publishAckSent).incomingCount.toNat = r.incomingCount - 1 := by
    simp [FlowControl.publishAckSent, incomingCount]
  by_cases present : r.session.qosFlow.incoming.get? packetId = some .incomingAwaitingPuback
  · have size := r.session.qosFlow.incoming.size_erase_present present
    simp only [performed, Session.perform, Session.pubackSent, QosFlowManager.pubackSent_finished present]
    simp only [Balanced, incomingCount, unfinished, ownReceiveMaximum, lowered] at *
    exact ⟨by omega, by simp only [FlowControl.publishAckSent]; omega⟩
  · have none : r.incomingCount = 0 := answers.resolve_left present
    simp only [performed, Session.perform, Session.pubackSent, QosFlowManager.pubackSent_other present]
    simp only [Balanced, incomingCount, unfinished, ownReceiveMaximum, lowered] at *
    exact ⟨by omega, by simp only [FlowControl.publishAckSent]; omega⟩

theorem pubcompSent_balanced (balanced : r.Balanced) (pending : 0 < r.pubcomps) :
    Balanced (r.performed .pubcompSent) := by
  obtain ⟨even, within⟩ := balanced
  have lowered : (r.session.flowControl.publishAckSent).incomingCount.toNat = r.incomingCount - 1 := by
    simp [FlowControl.publishAckSent, incomingCount]
  simp only [performed, Session.perform, Session.pubcompSent]
  simp only [Balanced, incomingCount, unfinished, ownReceiveMaximum, lowered] at *
  exact ⟨by omega, by simp only [FlowControl.publishAckSent]; omega⟩

theorem performed_balanced (balanced : r.Balanced) (answers : r.AnswersOpenFlow op)
    (permitted : r.allowed op = true) : (r.performed op).Balanced := by
  cases op
  case handlePublishQos1 => exact handlePublishQos1_balanced balanced
  case handlePublishQos2 => exact handlePublishQos2_balanced balanced
  case handlePubrel => exact handlePubrel_balanced balanced
  case pubackSent => exact pubackSent_balanced balanced answers
  case pubrecSent reasonCode =>
    have success : ¬0x80 ≤ reasonCode := by
      simp only [allowed, Bool.and_eq_true, decide_eq_true_eq] at permitted
      exact UInt8.not_le.mpr permitted.2
    simp only [performed, Session.perform, Session.pubrecSent, success, ↓reduceIte]
    exact balanced
  case pubcompSent => exact pubcompSent_balanced balanced (by simpa [allowed] using permitted)
  all_goals exact absurd permitted (by simp [allowed])

theorem next_balanced {r r' : Subscriber} {op : SessionOp} (balanced : r.Balanced)
    (step : Guarded AnswersOpenFlow (Steps next) r op r') : r'.Balanced := by
  obtain ⟨answers, moved⟩ := step
  simp only [Steps, next] at moved
  split at moved
  · rename_i permitted
    cases moved
    exact performed_balanced balanced answers permitted
  · cases moved

def start (connected : Session) : Subscriber := { session := connected, pubacks := [], pubrecs := 0, pubcomps := 0 }

/-- Along every run that records each PUBACK for an open flow, the receive quota is accounted exactly. -/
theorem receive_quota_accounted {connected : Session} {ops : List SessionOp} {r : Subscriber}
    (noFlows : connected.qosFlow.incoming = .empty) (noCount : connected.flowControl.incomingCount = 0)
    (run : Run (Guarded AnswersOpenFlow (Steps next)) (start connected) ops r) : r.Accounted := by
  have balanced : (start connected).Balanced := by
    simp [Balanced, start, incomingCount, unfinished, noFlows, noCount]
  exact accounted_of_balanced (run.invariant next_balanced balanced)

def connectedSession : Session :=
  ((((Session.initial .v5 "client" true).configureForConnect 0 0 0 2 0).2.connectSent).applyConnack
    (.successV5 false none)).2

def answeredRun : List SessionOp :=
  [.handlePublishQos1 1, .handlePublishQos2 2, .pubackSent 1, .pubrecSent 0, .handlePublishQos2 2, .handlePubrel 2]

theorem answeredRun_accounted :
    ∃ r, Run (Guarded AnswersOpenFlow (Steps next)) (start connectedSession) answeredRun r ∧ r.Accounted := by
  have completes : (runFrom (fun r op => if AnswersOpenFlow r op then next r op else none)
      (start connectedSession) answeredRun).isSome = true := by decide
  obtain ⟨r, ends⟩ := Option.isSome_iff_exists.mp completes
  have run := run_guarded_of_runFrom ends
  exact ⟨r, run, receive_quota_accounted (by decide) (by decide) run⟩

def repeatedPublishRun : List SessionOp :=
  [.handlePublishQos1 1, .handlePublishQos1 1, .handlePublishQos2 2, .pubackSent 1, .pubackSent 1]

theorem receive_quota_drifts :
    ¬∀ (before : Session) params connected ops r, before.applyConnack params = (.ok (), connected) →
      connected.qosFlow.incoming = .empty → connected.flowControl.incomingCount = 0 →
      Run (Steps next) (start connected) ops r → r.Accounted := by
  intro claim
  have completes : (runFrom next (start connectedSession) repeatedPublishRun).any (fun r =>
      decide (r.incomingCount = 0 ∧ r.unfinished = 1)) = true := by decide
  obtain ⟨r, ends, drifted⟩ := (Option.any_eq_true _ _).mp completes
  obtain ⟨count, unfinished⟩ := of_decide_eq_true drifted
  have accounted := claim ((Session.initial .v5 "client" true).configureForConnect 0 0 0 2 0).2.connectSent
    (.successV5 false none) connectedSession repeatedPublishRun r rfl (by decide) (by decide) (run_of_runFrom ends)
  have counted := accounted.counted
  omega

end Subscriber

end MqttRs
