import MqttRs.State.Session.Connack
import MqttRs.State.Session.Ops

namespace MqttRs

namespace Session

/-- PUBLISH packets sent or resent on the current connection and still unacknowledged. -/
def chargedFlows (s : Session) : Nat := s.qosFlow.outgoing.count (fun flow => flow.quotaCharged)

def outstanding (s : Session) : Nat := s.flowControl.outstandingCount.toNat

def sendLimit (s : Session) : Nat := s.flowControl.receiveMaximum.toNat

end Session

/-- A session together with the identifiers that its user holds and has not published with. -/
structure Publisher where
  session : Session
  held : List UInt16

namespace Publisher

def allowed (p : Publisher) : SessionOp → Bool
  | .connectSent | .applyConnack _ | .disconnected | .allocatePacketId => true
  | .resendPublish _ | .resendPubrel _ => true
  | .handlePuback _ | .handlePubrec _ _ | .handlePubcomp _ => true
  | .publishSent _ id => p.session.isConnected && p.held.contains id
  | .abortPublish id => p.session.qosFlow.outgoing.contains id
  | _ => false

def heldAfter (p : Publisher) : SessionOp → List UInt16
  | .allocatePacketId => p.session.allocatePacketId.1.toList ++ p.held
  | .publishSent _ id => p.held.erase id
  | _ => p.held

def next (p : Publisher) (op : SessionOp) : Option Publisher :=
  if p.allowed op then some { session := p.session.perform op, held := p.heldAfter op } else none

/-- No more unacknowledged PUBLISH packets than are counted, nor than the receiver accepts. -/
def QuotaSafe (p : Publisher) : Prop :=
  p.session.chargedFlows ≤ p.session.outstanding ∧ p.session.chargedFlows ≤ p.session.sendLimit

def ChargesWithinLimit (p : Publisher) (op : SessionOp) : Prop :=
  p.session.chargedFlows < (p.session.perform op).chargedFlows → p.session.chargedFlows < p.session.sendLimit

def finishedFlow (p : Publisher) : SessionOp → Option OutgoingFlow
  | .handlePuback id => (p.session.qosFlow.outgoing.get? id).filter (fun flow => flow.state = .awaitingPuback)
  | .handlePubcomp id => (p.session.qosFlow.outgoing.get? id).filter (fun flow => flow.state = .awaitingPubcomp)
  | .handlePubrec id reasonCode =>
    if 0x80 ≤ reasonCode then
      (p.session.qosFlow.outgoing.get? id).filter (fun flow => flow.state = .awaitingPubrec)
    else none
  | .abortPublish id => p.session.qosFlow.outgoing.get? id
  | _ => none

def connackOf : SessionOp → Option ConnackParams
  | .applyConnack params => some params
  | _ => none

/-- A flow carried over from an earlier connection ends only while the charged flows leave the counter some
    slack, and a resumed session is not told a Receive Maximum below what it has already resent. -/
def KeepsQuota (p : Publisher) (op : SessionOp) : Prop :=
  (∀ flow ∈ p.finishedFlow op, flow.quotaCharged = false →
    p.session.chargedFlows = 0 ∨ p.session.chargedFlows < p.session.outstanding) ∧
  (∀ params ∈ connackOf op, (p.session.applyConnack params).1 = .ok () → params.sessionPresent = true →
    ∀ max ∈ params.receiveMaximum, p.session.chargedFlows ≤ max.toNat)

-- Decided by looking into the option, never by going through all 65536 limits.
instance (p : Publisher) (op : SessionOp) : Decidable (KeepsQuota p op) :=
  haveI (params : ConnackParams) :
      Decidable (∀ max ∈ params.receiveMaximum, p.session.chargedFlows ≤ max.toNat) := Option.decidableForallMem _
  inferInstanceAs (Decidable (_ ∧ _))

section Steps

variable {s : Session} {packetId : UInt16} {flow : OutgoingFlow}

theorem chargedFlows_finishOutgoing (present : s.qosFlow.outgoing.get? packetId = some flow) :
    (s.finishOutgoing packetId).chargedFlows + (if flow.quotaCharged then 1 else 0) = s.chargedFlows := by
  have erased := s.qosFlow.outgoing.count_erase (fun flow => flow.quotaCharged) packetId
  rw [present] at erased
  exact erased

theorem chargedFlows_insert (present : s.qosFlow.outgoing.get? packetId = some flow) (replacement : OutgoingFlow) :
    (s.qosFlow.outgoing.insert packetId replacement).count (fun flow => flow.quotaCharged) +
        (if flow.quotaCharged then 1 else 0) =
      s.chargedFlows + (if replacement.quotaCharged then 1 else 0) := by
  have erased := s.qosFlow.outgoing.count_erase (fun flow => flow.quotaCharged) packetId
  have inserted := s.qosFlow.outgoing.count_insert (fun flow => flow.quotaCharged) packetId replacement
  simp only [present, Option.any_some] at erased
  simp only [Session.chargedFlows]
  omega

theorem chargedFlows_advanceOutgoing (present : s.qosFlow.outgoing.get? packetId = some flow) :
    (s.advanceOutgoing packetId flow).chargedFlows = s.chargedFlows := by
  have counted := chargedFlows_insert present
    { seq := s.qosFlow.nextSeq, state := .awaitingPubcomp, quotaCharged := flow.quotaCharged }
  exact Nat.add_right_cancel counted

theorem chargedFlows_publishSent_le (m : QosFlowManager) (state : FlowState) (packetId : UInt16) :
    (m.publishSent state packetId).outgoing.count (fun flow => flow.quotaCharged) ≤
      m.outgoing.count (fun flow => flow.quotaCharged) + 1 := by
  by_cases zero : packetId = 0
  · subst zero
    simp [QosFlowManager.publishSent_zero]
  cases present : m.outgoing.get? packetId with
  | none =>
    rw [QosFlowManager.publishSent_new zero present]
    have inserted := m.outgoing.count_insert_new (fun flow => flow.quotaCharged)
      { seq := m.nextSeq, state, quotaCharged := true } present
    simpa using inserted.le
  | some flow => simp [QosFlowManager.publishSent_present present]

theorem chargedFlows_connectSent (s : Session) : s.connectSent.chargedFlows = 0 := by
  show (s.qosFlow.outgoing.mapValues _).count _ = 0
  rw [OrderedMap.count_mapValues]
  exact OrderedMap.count_false _

theorem finishOutgoing_outstanding (s : Session) (packetId : UInt16) :
    (s.finishOutgoing packetId).outstanding = s.outstanding - 1 := by
  simp [Session.finishOutgoing, Session.outstanding, FlowControl.publishAcked]

theorem outstanding_charge (room : s.flowControl.outstandingCount < s.flowControl.receiveMaximum) :
    (s.flowControl.outstandingCount.saturatingAdd 1).toNat = s.outstanding + 1 ∧ s.outstanding < s.sendLimit :=
  ⟨UInt16.saturatingAdd_one_of_lt room, UInt16.lt_iff_toNat_lt.mp room⟩

theorem abortPublish_eq_finishOutgoing_incoming (present : s.qosFlow.outgoing.get? packetId = some flow) :
    s.abortPublish packetId =
      { s.finishOutgoing packetId with
        qosFlow := { s.qosFlow with
          outgoing := s.qosFlow.outgoing.erase packetId
          incoming := s.qosFlow.incoming.erase packetId } } := by
  simp [Session.abortPublish, Session.finishOutgoing, QosFlowManager.isActive, QosFlowManager.release,
    OrderedMap.contains, present]

end Steps

/-- What a call does to the charged flows, the counter of unacknowledged packets and its limit. -/
inductive QuotaEffect (p : Publisher) (op : SessionOp) (t : Session) : Prop
  | charged (room : p.session.outstanding < p.session.sendLimit)
      (flows : t.chargedFlows ≤ p.session.chargedFlows + 1)
      (counter : t.outstanding = p.session.outstanding + 1) (limit : t.sendLimit = p.session.sendLimit)
  | finished (flow : OutgoingFlow) (ends : p.finishedFlow op = some flow)
      (flows : t.chargedFlows + (if flow.quotaCharged then 1 else 0) = p.session.chargedFlows)
      (counter : t.outstanding = p.session.outstanding - 1) (limit : t.sendLimit = p.session.sendLimit)
  | restarted (flows : t.chargedFlows = 0)
  | announced (params : ConnackParams) (max : UInt16) (connack : op = .applyConnack params)
      (accepted : (p.session.applyConnack params).1 = .ok ()) (resumed : params.sessionPresent = true)
      (announces : params.receiveMaximum = some max)
      (flows : t.chargedFlows = p.session.chargedFlows) (counter : t.outstanding = p.session.outstanding)
      (limit : t.sendLimit = max.toNat)
  | unchanged (flows : t.chargedFlows = p.session.chargedFlows) (counter : t.outstanding = p.session.outstanding)
      (limit : t.sendLimit = p.session.sendLimit)

variable {p q : Publisher} {op : SessionOp}

theorem finishOutgoing_effect {id : UInt16} {flow : OutgoingFlow} {t : Session}
    (present : p.session.qosFlow.outgoing.get? id = some flow) (ends : p.finishedFlow op = some flow)
    (flows : t.chargedFlows = (p.session.finishOutgoing id).chargedFlows)
    (control : t.flowControl = (p.session.finishOutgoing id).flowControl) : QuotaEffect p op t := by
  refine .finished flow ends ?_ ?_ ?_
  · rw [flows]
    exact chargedFlows_finishOutgoing present
  · rw [← finishOutgoing_outstanding p.session id]
    exact congrArg (fun f : FlowControl => f.outstandingCount.toNat) control
  · exact (congrArg (fun f : FlowControl => f.receiveMaximum.toNat) control).trans rfl

theorem applyConnack_effect (p : Publisher) (params : ConnackParams) :
    QuotaEffect p (.applyConnack params) (p.session.applyConnack params).2 := by
  rcases p.session.applyConnack_cases params with ⟨-, -, accepted⟩ | ⟨-, same⟩
  · have qosFlow := Session.acceptConnack_qosFlow p.session params
    have control := Session.acceptConnack_flowControl p.session params
    have done : (p.session.applyConnack params).1 = .ok () := by rw [accepted]
    rw [accepted]
    by_cases discarded : (p.session.cleanStart || !params.sessionPresent) = true
    · refine .restarted ?_
      simp [Session.chargedFlows, qosFlow, discarded, QosFlowManager.reset]
    · simp only [discarded, Bool.false_eq_true, ↓reduceIte] at qosFlow
      have resumed : params.sessionPresent = true := by simp_all
      have flows : (p.session.acceptConnack params).chargedFlows = p.session.chargedFlows := by
        simp only [Session.chargedFlows, qosFlow]
      cases announces : params.receiveMaximum with
      | none =>
        simp only [announces] at control
        refine .unchanged flows ?_ ?_
        · simp only [Session.outstanding, control]
        · simp only [Session.sendLimit, control]
      | some max =>
        simp only [announces] at control
        refine .announced params max rfl done resumed announces flows ?_ ?_
        · simp only [Session.outstanding, control]
        · simp only [Session.sendLimit, control]
  · rw [same]
    exact .unchanged rfl rfl rfl

theorem resendPublish_effect (p : Publisher) (id : UInt16) :
    QuotaEffect p (.resendPublish id) (p.session.resendPublish id).2 := by
  rcases p.session.resendPublish_cases id with ⟨flow, present, uncharged, room, sent⟩ | same
  · have inserted := chargedFlows_insert present { flow with quotaCharged := true }
    obtain ⟨counter, below⟩ := outstanding_charge room
    simp only [uncharged, Bool.false_eq_true, ↓reduceIte, Nat.add_zero] at inserted
    rw [sent]
    exact .charged below inserted.le counter rfl
  · rw [same]
    exact .unchanged rfl rfl rfl

theorem publishSent_effect (p : Publisher) (qos : QoS) (id : UInt16) :
    QuotaEffect p (.publishSent qos id) (p.session.publishSent qos id).2 := by
  rcases p.session.publishSent_cases qos id with ⟨-, -, room, sent⟩ | ⟨reason, refused⟩
  · obtain ⟨counter, below⟩ := outstanding_charge room
    rw [sent]
    exact .charged below (chargedFlows_publishSent_le p.session.qosFlow (Session.openingState qos) id) counter rfl
  · rw [refused]
    exact .unchanged rfl rfl rfl

theorem perform_effect (permitted : p.allowed op = true) : QuotaEffect p op (p.session.perform op) := by
  cases op
  case connectSent => exact .restarted (chargedFlows_connectSent p.session)
  case applyConnack params => exact applyConnack_effect p params
  case disconnected | allocatePacketId | resendPubrel => exact .unchanged rfl rfl rfl
  case resendPublish id => exact resendPublish_effect p id
  case publishSent qos id => exact publishSent_effect p qos id
  case handlePuback id =>
    rcases p.session.handlePuback_cases id with ⟨flow, present, waiting, result⟩ | result | result <;>
      simp only [Session.perform, result]
    · exact finishOutgoing_effect present (by simp [finishedFlow, present, waiting]) rfl rfl
    all_goals exact .unchanged rfl rfl rfl
  case handlePubcomp id =>
    rcases p.session.handlePubcomp_cases id with ⟨flow, present, waiting, result⟩ | result | result <;>
      simp only [Session.perform, result]
    · exact finishOutgoing_effect present (by simp [finishedFlow, present, waiting]) rfl rfl
    all_goals exact .unchanged rfl rfl rfl
  case handlePubrec id reasonCode =>
    rcases p.session.handlePubrec_cases id reasonCode with
      ⟨flow, present, waiting, failure, result⟩ | ⟨flow, present, -, -, result⟩ | result | result | result <;>
      simp only [Session.perform, result]
    · exact finishOutgoing_effect present (by simp [finishedFlow, present, waiting, failure]) rfl rfl
    · exact .unchanged (chargedFlows_advanceOutgoing present) rfl rfl
    all_goals exact .unchanged rfl rfl rfl
  case abortPublish id =>
    obtain ⟨flow, present⟩ := OrderedMap.contains_iff.mp permitted
    simp only [Session.perform]
    rw [abortPublish_eq_finishOutgoing_incoming present]
    exact finishOutgoing_effect present (by simp [finishedFlow, present]) rfl rfl
  all_goals exact absurd permitted (by simp [allowed])

theorem perform_safe (safe : p.QuotaSafe) (keeps : p.KeepsQuota op) (permitted : p.allowed op = true) :
    (p.session.perform op).chargedFlows ≤ (p.session.perform op).outstanding ∧
      (p.session.perform op).chargedFlows ≤ (p.session.perform op).sendLimit := by
  obtain ⟨belowCount, belowLimit⟩ := safe
  rcases perform_effect permitted with
    ⟨room, flows, counter, limit⟩ | ⟨flow, ends, flows, counter, limit⟩ | flows |
    ⟨params, max, connack, accepted, resumed, announces, flows, counter, limit⟩ | ⟨flows, counter, limit⟩
  · omega
  · cases carried : flow.quotaCharged with
    | true =>
      simp only [carried, ↓reduceIte] at flows
      omega
    | false =>
      simp only [carried, Bool.false_eq_true, ↓reduceIte, Nat.add_zero] at flows
      rcases keeps.1 flow ends carried with none | some <;> omega
  · omega
  · have fits := keeps.2 params (by rw [connack]; rfl) accepted resumed max announces
    omega
  · omega

theorem charges_within_limit (safe : p.QuotaSafe) (permitted : p.allowed op = true) : p.ChargesWithinLimit op := by
  intro grows
  obtain ⟨belowCount, belowLimit⟩ := safe
  rcases perform_effect permitted with
    ⟨room, flows, counter, limit⟩ | ⟨flow, ends, flows, counter, limit⟩ | flows |
    ⟨params, max, connack, accepted, resumed, announces, flows, counter, limit⟩ | ⟨flows, counter, limit⟩ <;>
    omega

def start (fresh : Session) : Publisher := { session := fresh, held := [] }

theorem start_safe {version : MqttVersion} {clientId : String} {cleanStart : Bool} {fresh : Session}
    (created : Session.new version clientId cleanStart = .ok fresh) : (start fresh).QuotaSafe := by
  rw [Session.new_eq_ok created]
  exact ⟨Nat.zero_le _, Nat.zero_le _⟩

theorem next_safe {p q : Publisher} {op : SessionOp} (safe : p.QuotaSafe)
    (step : Guarded KeepsQuota (Steps next) p op q) : q.QuotaSafe := by
  obtain ⟨keeps, moved⟩ := step
  simp only [Steps, next] at moved
  split at moved
  · rename_i permitted
    cases moved
    exact perform_safe safe keeps permitted
  · cases moved

/-- Along every run whose calls keep the quota, unacknowledged PUBLISH packets stay within the counter and the
    Receive Maximum, and a PUBLISH is only charged below the Receive Maximum. -/
theorem send_quota_safe {version : MqttVersion} {clientId : String} {cleanStart : Bool} {fresh : Session}
    {ops : List SessionOp} {p : Publisher} (created : Session.new version clientId cleanStart = .ok fresh)
    (run : Run (Guarded KeepsQuota (Steps next)) (start fresh) ops p) :
    p.QuotaSafe ∧ ∀ op, p.allowed op = true → p.ChargesWithinLimit op := by
  have safe : p.QuotaSafe := run.invariant next_safe (start_safe created)
  exact ⟨safe, fun op permitted => charges_within_limit safe permitted⟩

/-- PUBLISH 1 is sent, carried over a reconnect, resent and acknowledged. -/
def resentRun : List SessionOp :=
  [.connectSent, .applyConnack (.successV5 false none), .allocatePacketId, .publishSent .exactlyOnce 1,
    .disconnected, .connectSent, .applyConnack (.successV5 true (some 1)),
    .resendPublish 1, .handlePubrec 1 0, .handlePubcomp 1]

theorem resentRun_safe :
    ∃ p, Run (Guarded KeepsQuota (Steps next)) (start (Session.initial .v5 "client" false)) resentRun p ∧
      p.QuotaSafe ∧ ∀ op, p.allowed op = true → p.ChargesWithinLimit op := by
  have created : Session.new .v5 "client" false = .ok (Session.initial .v5 "client" false) := rfl
  have completes : (runFrom (fun p op => if KeepsQuota p op then next p op else none)
      (start (Session.initial .v5 "client" false)) resentRun).isSome = true := by decide
  obtain ⟨p, ends⟩ := Option.isSome_iff_exists.mp completes
  have run := run_guarded_of_runFrom ends
  exact ⟨p, run, send_quota_safe created run⟩

def carriedOverRun : List SessionOp :=
  [.connectSent, .applyConnack (.successV5 false none), .allocatePacketId, .publishSent .atLeastOnce 1,
    .disconnected, .connectSent, .applyConnack (.successV5 true (some 1)),
    .allocatePacketId, .publishSent .atLeastOnce 2, .handlePuback 1,
    .allocatePacketId, .publishSent .atLeastOnce 1]

theorem carriedOverRun_ends :
    (runFrom next (start (Session.initial .v5 "client" false)) carriedOverRun).map
      (fun p => (p.session.chargedFlows, p.session.sendLimit)) = some (2, 1) := by
  decide

theorem send_quota_unsafe :
    ¬∀ version clientId cleanStart fresh ops p, Session.new version clientId cleanStart = .ok fresh →
      Run (Steps next) (start fresh) ops p → p.QuotaSafe := by
  intro claim
  obtain ⟨p, ends, values⟩ := Option.map_eq_some_iff.mp carriedOverRun_ends
  have safe := claim .v5 "client" false _ carriedOverRun p rfl (run_of_runFrom ends)
  have limit := safe.2
  simp only [Prod.mk.injEq] at values
  omega

end Publisher

end MqttRs
