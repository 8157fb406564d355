import MqttRs.State.ReceiveQuota
import MqttRs.State.SendQuota
import MqttRs.State.Session.Frame

namespace MqttRs

namespace Session

/-- What the send quota of a session is for: nothing is counted but PUBLISH packets in flight, and with none of
    them the whole Receive Maximum can be used. -/
structure NoLeak (s : Session) : Prop where
  counted : s.outstanding ≤ s.chargedFlows
  available : s.qosFlow.outgoing = .empty → s.flowControl.available = s.flowControl.receiveMaximum
  accepted : s.qosFlow.outgoing = .empty →
    ∀ qos packetId, (s.publishSent qos packetId).1 ≠ .error .receiveMaximumExceeded

/-- Publishing under fresh identifiers, aborting only an outgoing flow, anything else at any time. -/
def sendsFresh (s : Session) : SessionOp → Bool
  | .publishSent _ id => !s.qosFlow.outgoing.contains id
  | .abortPublish id => s.qosFlow.outgoing.contains id
  | _ => true

def nextFresh (s : Session) (op : SessionOp) : Option Session :=
  if s.sendsFresh op then some (s.perform op) else none

/-- The session state is discarded only while no PUBLISH is counted: none was sent or resent on this connection
    that is still unacknowledged. -/
def DiscardsUncounted (s : Session) : SessionOp → Prop
  | .applyConnack params =>
    s.checkConnack params = .ok () → (s.checkMethod params).1 = .ok () →
      (s.cleanStart || !params.sessionPresent) = true → s.flowControl.outstandingCount = 0
  | .connected sessionPresent =>
    (s.cleanStart || !sessionPresent) = true → s.flowControl.outstandingCount = 0
  | _ => True

instance (s : Session) (op : SessionOp) : Decidable (s.DiscardsUncounted op) := by
  unfold DiscardsUncounted
  split <;> infer_instance

def QuotaBacked (s : Session) : Prop := s.outstanding ≤ s.chargedFlows ∧ s.flowControl.receiveMaximum ≠ 0

theorem noLeak_iff {s : Session} (positive : s.flowControl.receiveMaximum ≠ 0) :
    s.NoLeak ↔ s.outstanding ≤ s.chargedFlows := by
  refine ⟨fun sound => sound.counted, fun counted => ?_⟩
  have idle : s.qosFlow.outgoing = .empty → s.flowControl.outstandingCount = 0 := by
    intro none
    have charged : s.chargedFlows = 0 := by
      rw [chargedFlows, none]
      rfl
    apply UInt16.toNat_inj.mp
    simp only [outstanding] at counted
    simp only [UInt16.toNat_zero]
    omega
  refine ⟨counted, fun none => ?_, fun none qos packetId => ?_⟩
  · apply UInt16.toNat_inj.mp
    simp [FlowControl.available, idle none]
  · have room : s.flowControl.outstandingCount < s.flowControl.receiveMaximum := by
      rw [idle none]
      exact UInt16.pos_iff_ne_zero.mpr positive
    rcases s.flowControl.publishSent_cases with ⟨-, sent⟩ | ⟨full, -⟩
    · unfold publishSent
      split
      · simp
      · split
        · simp
        · simp only [sent]
          cases qos <;> simp
    · exact absurd room (not_lt.mpr full)

section Steps

variable {s t : Session} {op : SessionOp} {packetId : UInt16} {flow : OutgoingFlow}

theorem SameSending.backed (same : SameSending s t) (backed : s.QuotaBacked) : t.QuotaBacked := by
  unfold QuotaBacked outstanding chargedFlows
  rw [same.outgoing, same.outstandingCount, same.receiveMaximum]
  exact backed

theorem connectSent_backed (s : Session) : s.connectSent.QuotaBacked :=
  ⟨Nat.zero_le _, show (65535 : UInt16) ≠ 0 by decide⟩

theorem finishOutgoing_backed (backed : s.QuotaBacked) (present : s.qosFlow.outgoing.get? packetId = some flow) :
    (s.finishOutgoing packetId).QuotaBacked := by
  obtain ⟨counted, positive⟩ := backed
  have flows := Publisher.chargedFlows_finishOutgoing present
  have counter := Publisher.finishOutgoing_outstanding s packetId
  refine ⟨?_, positive⟩
  split at flows <;> omega

theorem advanceOutgoing_backed (backed : s.QuotaBacked) (present : s.qosFlow.outgoing.get? packetId = some flow) :
    (s.advanceOutgoing packetId flow).QuotaBacked := by
  obtain ⟨counted, positive⟩ := backed
  refine ⟨?_, positive⟩
  rw [Publisher.chargedFlows_advanceOutgoing present]
  exact counted

theorem resendPublish_backed (backed : s.QuotaBacked) (packetId : UInt16) :
    (s.resendPublish packetId).2.QuotaBacked := by
  rcases s.resendPublish_cases packetId with ⟨flow, present, uncharged, room, sent⟩ | same
  · have flows := Publisher.chargedFlows_insert present { flow with quotaCharged := true }
    have counter := (Publisher.outstanding_charge room).1
    simp only [uncharged, Bool.false_eq_true, ↓reduceIte, Nat.add_zero] at flows
    rw [sent]
    refine ⟨?_, backed.2⟩
    simp only [outstanding, chargedFlows, counter, flows]
    exact Nat.add_le_add_right backed.1 1
  · rw [same]
    exact backed

theorem publishSent_backed (backed : s.QuotaBacked) (qos : QoS) (fresh : s.qosFlow.outgoing.contains packetId = false) :
    (s.publishSent qos packetId).2.QuotaBacked := by
  rcases s.publishSent_cases qos packetId with ⟨-, nonzero, room, sent⟩ | ⟨reason, refused⟩
  · have absent := OrderedMap.contains_false_iff.mp fresh
    have flows := s.qosFlow.outgoing.count_insert_new (fun flow => flow.quotaCharged)
      { seq := s.qosFlow.nextSeq, state := openingState qos, quotaCharged := true } absent
    have counter := (Publisher.outstanding_charge room).1
    rw [sent, QosFlowManager.publishSent_new nonzero absent]
    refine ⟨?_, backed.2⟩
    simp only [outstanding, chargedFlows, counter, flows, ↓reduceIte]
    exact Nat.add_le_add_right backed.1 1
  · rw [refused]
    exact backed

theorem outstanding_eq_zero_iff : s.outstanding = 0 ↔ s.flowControl.outstandingCount = 0 := by
  show s.flowControl.outstandingCount.toNat = (0 : UInt16).toNat ↔ s.flowControl.outstandingCount = 0
  exact UInt16.toNat_inj

theorem acceptConnack_sending (s : Session) (params : ConnackParams) :
    (s.acceptConnack params).outstanding = s.outstanding ∧
      (s.acceptConnack params).chargedFlows =
        if s.cleanStart || !params.sessionPresent then 0 else s.chargedFlows := by
  have flows := s.acceptConnack_qosFlow params
  have control := s.acceptConnack_flowControl params
  constructor
  · unfold outstanding
    rw [control]
    cases params.receiveMaximum <;> rfl
  · unfold chargedFlows
    rw [flows]
    split <;> rfl

theorem acceptConnack_backed (backed : s.QuotaBacked) {params : ConnackParams}
    (checked : s.checkConnack params = .ok ())
    (uncounted : (s.cleanStart || !params.sessionPresent) = true → s.flowControl.outstandingCount = 0) :
    (s.acceptConnack params).QuotaBacked := by
  obtain ⟨counter, flows⟩ := s.acceptConnack_sending params
  constructor
  · rw [counter, flows]
    split
    · rename_i discards
      exact (outstanding_eq_zero_iff.mpr (uncounted discards)).le
    · exact backed.1
  · rw [acceptConnack_flowControl]
    cases announced : params.receiveMaximum with
    | none => exact backed.2
    | some max => exact fun zero => receiveMaximum_ne_zero checked (zero ▸ announced)

theorem connected_backed (backed : s.QuotaBacked) {sessionPresent : Bool}
    (uncounted : (s.cleanStart || !sessionPresent) = true → s.flowControl.outstandingCount = 0) :
    (s.connected sessionPresent).QuotaBacked := by
  unfold connected
  dsimp only
  split
  · rename_i discards
    exact ⟨(outstanding_eq_zero_iff.mpr (uncounted discards)).le, backed.2⟩
  · exact backed

theorem perform_backed (backed : s.QuotaBacked) (permitted : s.sendsFresh op = true)
    (uncounted : s.DiscardsUncounted op) : (s.perform op).QuotaBacked := by
  cases kept : keepsSending op with
  | true => exact (s.perform_sameSending kept).backed backed
  | false =>
    cases op
    case applyConnack params =>
      rcases s.applyConnack_cases params with ⟨checked, method, accepted⟩ | ⟨-, same⟩
      · simp only [perform, accepted]
        exact acceptConnack_backed backed checked (uncounted checked method)
      · simp only [perform, same]
        exact backed
    case connected => exact connected_backed backed uncounted
    case connectSent => exact connectSent_backed s
    case connectSentWithAuth method =>
      simp only [perform, connectSentWithAuth]
      split
      · exact backed
      · exact connectSent_backed s
    case resendPublish id => exact resendPublish_backed backed id
    case publishSent qos id => exact publishSent_backed backed qos (by simpa [sendsFresh] using permitted)
    case abortPublish id =>
      obtain ⟨flow, present⟩ := OrderedMap.contains_iff.mp permitted
      have finished := finishOutgoing_backed backed present
      simp only [perform]
      rw [Publisher.abortPublish_eq_finishOutgoing_incoming present]
      exact finished
    case handlePuback id =>
      rcases s.handlePuback_cases id with ⟨flow, present, -, result⟩ | result | result <;>
        simp only [perform, result]
      · exact finishOutgoing_backed backed present
      all_goals exact backed
    case handlePubcomp id =>
      rcases s.handlePubcomp_cases id with ⟨flow, present, -, result⟩ | result | result <;>
        simp only [perform, result]
      · exact finishOutgoing_backed backed present
      all_goals exact backed
    case handlePubrec id reasonCode =>
      rcases s.handlePubrec_cases id reasonCode with
        ⟨flow, present, -, -, result⟩ | ⟨flow, present, -, -, result⟩ | result | result | result <;>
        simp only [perform, result]
      · exact finishOutgoing_backed backed present
      · exact advanceOutgoing_backed backed present
      all_goals exact backed
    case reset => exact ⟨Nat.zero_le _, show (65535 : UInt16) ≠ 0 by decide⟩
    all_goals cases kept

theorem perform_leaks (counted : ¬s.DiscardsUncounted op) : ¬(s.perform op).NoLeak := by
  intro sound
  have within := sound.counted
  cases op
  case applyConnack params =>
    simp only [DiscardsUncounted, not_forall] at counted
    obtain ⟨checked, method, discards, busy⟩ := counted
    obtain ⟨counter, flows⟩ := s.acceptConnack_sending params
    simp only [perform, applyConnack_accepted checked method, counter, flows, discards, ↓reduceIte] at within
    exact busy (outstanding_eq_zero_iff.mp (Nat.le_zero.mp within))
  case connected sessionPresent =>
    simp only [DiscardsUncounted, not_forall] at counted
    obtain ⟨discards, busy⟩ := counted
    simp only [perform, connected, discards, ↓reduceIte] at within
    exact busy (outstanding_eq_zero_iff.mp (Nat.le_zero.mp within))
  all_goals exact counted trivial

theorem nextFresh_backed (backed : s.QuotaBacked) (step : Guarded DiscardsUncounted (Steps nextFresh) s op t) :
    t.QuotaBacked := by
  obtain ⟨uncounted, moved⟩ := step
  simp only [Steps, nextFresh] at moved
  split at moved
  · rename_i permitted
    cases moved
    exact perform_backed backed permitted uncounted
  · cases moved

theorem initial_backed {version : MqttVersion} {clientId : String} {cleanStart : Bool} {fresh : Session}
    (created : Session.new version clientId cleanStart = .ok fresh) : fresh.QuotaBacked := by
  rw [new_eq_ok created]
  exact ⟨Nat.zero_le _, show (65535 : UInt16) ≠ 0 by decide⟩

end Steps

/-- Along every run that discards session state only while no PUBLISH is counted the send quota does not leak, and
    the next call makes it leak exactly when it discards counted ones. -/
theorem send_quota_backed {version : MqttVersion} {clientId : String} {cleanStart : Bool} {fresh s : Session}
    {ops : List SessionOp} (created : Session.new version clientId cleanStart = .ok fresh)
    (run : Run (Guarded DiscardsUncounted (Steps nextFresh)) fresh ops s) :
    s.NoLeak ∧ ∀ op, s.sendsFresh op = true → ((s.perform op).NoLeak ↔ s.DiscardsUncounted op) := by
  have backed : s.QuotaBacked := run.invariant nextFresh_backed (initial_backed created)
  refine ⟨(noLeak_iff backed.2).mpr backed.1, fun op permitted => ⟨?_, fun uncounted => ?_⟩⟩
  · exact fun sound => by_contra fun counted => perform_leaks counted sound
  · have after := perform_backed backed permitted uncounted
    exact (noLeak_iff after.2).mpr after.1

def acknowledgedRun : List SessionOp :=
  [.connectSent, .allocatePacketId, .publishSent .atLeastOnce 1, .handlePuback 1,
    .applyConnack (.successV5 false none), .allocatePacketId, .publishSent .exactlyOnce 1]

theorem acknowledgedRun_backed :
    ∃ s, Run (Guarded DiscardsUncounted (Steps nextFresh)) (.initial .v5 "client" false) acknowledgedRun s ∧
      s.NoLeak ∧ ∀ op, s.sendsFresh op = true → ((s.perform op).NoLeak ↔ s.DiscardsUncounted op) := by
  have created : Session.new .v5 "client" false = .ok (.initial .v5 "client" false) := rfl
  have completes : (runFrom (fun s op => if DiscardsUncounted s op then nextFresh s op else none)
      (.initial .v5 "client" false) acknowledgedRun).isSome = true := by decide
  obtain ⟨s, ends⟩ := Option.isSome_iff_exists.mp completes
  have run := run_guarded_of_runFrom ends
  exact ⟨s, run, send_quota_backed created run⟩

def earlyPublishRun : List SessionOp :=
  [.connectSent, .allocatePacketId, .publishSent .atLeastOnce 1, .applyConnack (.successV5 false (some 1))]

theorem early_publish_leaks :
    ¬∀ version clientId cleanStart fresh ops s, Session.new version clientId cleanStart = .ok fresh →
      Run (Steps nextFresh) fresh ops s → s.NoLeak := by
  intro claim
  have completes : (runFrom nextFresh (.initial .v5 "client" false) earlyPublishRun).any (fun s =>
      decide (s.outstanding = 1 ∧ s.chargedFlows = 0)) = true := by decide
  obtain ⟨s, ends, leaked⟩ := (Option.any_eq_true _ _).mp completes
  obtain ⟨counter, flows⟩ := of_decide_eq_true leaked
  have sound := claim .v5 "client" false _ earlyPublishRun s rfl (run_of_runFrom ends)
  have counted := sound.counted
  omega

end Session

end MqttRs
