import Mathlib.Data.List.Induction
import MqttRs.State.Session.Flows

namespace MqttRs

namespace QosFlowManager

section Charges

variable {m n : QosFlowManager} {packetId : UInt16}

theorem needsRetransmission_clear (m : QosFlowManager) (packetId : UInt16) :
    m.clearQuotaCharges.needsRetransmission packetId = m.needsRetransmission packetId := by
  simp only [needsRetransmission, clearQuotaCharges, OrderedMap.get?_mapValues]
  cases m.outgoing.get? packetId <;> rfl

theorem pendingPacketIds_clear (m : QosFlowManager) : m.clearQuotaCharges.pendingPacketIds = m.pendingPacketIds := by
  simp only [pendingPacketIds, clearQuotaCharges, OrderedMap.mapValues, List.map_map, Function.comp_def]

theorem clear_markQuotaCharged (m : QosFlowManager) (packetId : UInt16) :
    (m.markQuotaCharged packetId).clearQuotaCharges = m.clearQuotaCharges := by
  cases present : m.outgoing.get? packetId with
  | none => simp [markQuotaCharged, present]
  | some flow =>
    have same : (m.outgoing.insert packetId { flow with quotaCharged := true }).mapValues
          (fun flow => { flow with quotaCharged := false }) =
        m.outgoing.mapValues (fun flow => { flow with quotaCharged := false }) := by
      apply OrderedMap.ext_get
      intro id
      simp only [OrderedMap.get?_mapValues, OrderedMap.get?_insert]
      split
      · rename_i here
        rw [here, present]
        rfl
      · rfl
    rw [markQuotaCharged_present present]
    simp only [clearQuotaCharges, same]

end Charges

end QosFlowManager

namespace Session

def isPublish : UInt16 × Action → Bool
  | (_, .resendPublish _) => true
  | _ => false

/-- One entry of the retransmission list, processed with the call for its kind. -/
def replayEntry (s : Session) : UInt16 × Action → Session
  | (id, .resendPublish _) => (s.resendPublish id).2
  | _ => s

def replayed (s : Session) (entries : List (UInt16 × Action)) : Session := entries.foldl replayEntry s

/-- What the call for an entry returns after the entries `before` it: a PUBLISH is granted while fewer than
    `receive_maximum` came before it and refused without effect from then on, a PUBREL is always granted. -/
def Granted (s : Session) (before : List (UInt16 × Action)) : UInt16 × Action → Prop
  | (id, .resendPublish other) =>
    other = id ∧
      if before.countP isPublish < s.flowControl.receiveMaximum.toNat then
        ((s.replayed before).resendPublish id).1 = .ok (some (.resendPublish id))
      else (s.replayed before).resendPublish id = (.error .receiveMaximumExceeded, s.replayed before)
  | (id, .resendPubrel other) => other = id ∧ (s.replayed before).resendPubrel id = some (.resendPubrel id)
  | _ => False

/-- The retransmission list names every outgoing flow once, and going through it resends as much as the quota
    allows without changing the list. -/
structure ReplayComplete (s : Session) : Prop where
  once : (s.pendingRetransmissions.map Prod.fst).Nodup
  complete : ∀ id, id ∈ s.pendingRetransmissions.map Prod.fst ↔ s.qosFlow.outgoing.contains id = true
  granted : ∀ before entry later, s.pendingRetransmissions = before ++ entry :: later → s.Granted before entry
  outstanding : (s.replayed s.pendingRetransmissions).flowControl.outstandingCount.toNat =
    min (s.pendingRetransmissions.countP isPublish) s.flowControl.receiveMaximum.toNat
  kept : (s.replayed s.pendingRetransmissions).pendingRetransmissions = s.pendingRetransmissions

/-- No flow is charged and no slot is taken: the state of the send quota on a new connection. -/
structure Uncharged (s : Session) : Prop where
  flows : ∀ id flow, s.qosFlow.outgoing.get? id = some flow → flow.quotaCharged = false
  counter : s.flowControl.outstandingCount = 0

def OutgoingWaits (s : Session) : Prop :=
  ∀ id flow, s.qosFlow.outgoing.get? id = some flow →
    flow.state = .awaitingPuback ∨ flow.state = .awaitingPubrec ∨ flow.state = .awaitingPubcomp

def sendsNothing : SessionOp → Bool
  | .publishSent _ _ | .resendPublish _ => false
  | _ => true

section Reconnecting

variable {s : Session} {op : SessionOp} {packetId : UInt16}

theorem perform_outgoingWaits (waits : s.OutgoingWaits) (op : SessionOp) : (s.perform op).OutgoingWaits := by
  intro id flow after
  cases perform_flow after with
  | kept before => exact waits id flow before
  | opened qos sent ok fresh state charged =>
    rw [state]
    cases qos
    · exact .inl rfl
    · exact .inl rfl
    · exact .inr (.inl rfl)
  | resent earlier asked ok before uncharged now =>
    rw [now]
    exact waits id earlier before
  | advanced earlier reasonCode received success before waiting state charge => exact .inr (.inr state)
  | restarted earlier connects before now =>
    rw [now]
    exact waits id earlier before

theorem outgoingWaits_of_reachable (reachable : s.Reachable) : s.OutgoingWaits := by
  obtain ⟨version, clientId, cleanStart, fresh, ops, created, run⟩ := reachable
  refine run.invariant (fun {s op t} waits step => step ▸ perform_outgoingWaits waits op) ?_
  rw [new_eq_ok created]
  intro id flow present
  cases present

theorem publishAcked_zero {f : FlowControl} (zero : f.outstandingCount = 0) : f.publishAcked.outstandingCount = 0 := by
  simp only [FlowControl.publishAcked, zero]
  decide

theorem perform_counter_zero (zero : s.flowControl.outstandingCount = 0) (quiet : sendsNothing op = true) :
    (s.perform op).flowControl.outstandingCount = 0 := by
  cases kept : keepsSending op with
  | true => rw [(s.perform_sameSending kept).outstandingCount, zero]
  | false =>
    cases op
    case applyConnack params =>
      rcases s.applyConnack_cases params with ⟨-, -, accepted⟩ | ⟨-, same⟩
      · simp only [perform, accepted, acceptConnack_flowControl]
        split <;> exact zero
      · simp only [perform, same]
        exact zero
    case connected =>
      simp only [perform, connected]
      split <;> exact zero
    case connectSent | reset => rfl
    case connectSentWithAuth =>
      simp only [perform, connectSentWithAuth]
      split
      · exact zero
      · rfl
    case abortPublish =>
      simp only [perform, abortPublish]
      split
      · exact publishAcked_zero zero
      · exact zero
    case handlePuback id =>
      rcases s.handlePuback_cases id with ⟨flow, -, -, result⟩ | result | result <;> simp only [perform, result]
      · exact publishAcked_zero zero
      all_goals exact zero
    case handlePubcomp id =>
      rcases s.handlePubcomp_cases id with ⟨flow, -, -, result⟩ | result | result <;> simp only [perform, result]
      · exact publishAcked_zero zero
      all_goals exact zero
    case handlePubrec id reasonCode =>
      rcases s.handlePubrec_cases id reasonCode with
        ⟨flow, -, -, -, result⟩ | ⟨flow, -, -, -, result⟩ | result | result | result <;> simp only [perform, result]
      · exact publishAcked_zero zero
      all_goals exact zero
    case publishSent | resendPublish => cases quiet
    all_goals cases kept

theorem perform_uncharged (uncharged : s.Uncharged) (quiet : sendsNothing op = true) : (s.perform op).Uncharged := by
  refine ⟨fun id flow after => ?_, perform_counter_zero uncharged.counter quiet⟩
  cases perform_flow after with
  | kept before => exact uncharged.flows id flow before
  | opened qos sent =>
    subst sent
    cases quiet
  | resent earlier asked =>
    subst asked
    cases quiet
  | advanced earlier reasonCode received success before waiting state charge =>
    rw [charge]
    exact uncharged.flows id earlier before
  | restarted earlier connects before now => rw [now]

theorem run_uncharged {ops : List SessionOp} {t : Session} (run : Run (fun s op t => t = perform s op) s ops t)
    (quiet : ∀ op ∈ ops, sendsNothing op = true) (uncharged : s.Uncharged) : t.Uncharged := by
  induction run with
  | nil => exact uncharged
  | cons step rest ih =>
    subst step
    refine ih (fun op member => quiet op (List.mem_cons_of_mem _ member)) ?_
    exact perform_uncharged uncharged (quiet _ (List.mem_cons_self ..))

theorem connects_contains (connects : s.Connects op) (id : UInt16) :
    (s.perform op).qosFlow.outgoing.contains id = s.qosFlow.outgoing.contains id := by
  have restarted : s.connectSent.qosFlow.outgoing.contains id = s.qosFlow.outgoing.contains id :=
    OrderedMap.contains_mapValues ..
  cases op
  case connectSent => exact restarted
  case connectSentWithAuth method =>
    cases v5 : s.isV5 with
    | true =>
      simp only [perform, connectSentWithAuth, v5]
      exact restarted
    | false => simp [Connects, connectSentWithAuth, v5] at connects
  all_goals exact connects.elim

theorem resumed_keeps {params : ConnackParams} (accepted : (s.applyConnack params).1 = .ok ())
    (resumed : params.sessionPresent = true) :
    (s.applyConnack params).2.qosFlow = s.qosFlow ∧
      (s.applyConnack params).2.flowControl.receiveMaximum =
        params.receiveMaximum.getD s.flowControl.receiveMaximum := by
  rcases s.applyConnack_cases params with ⟨checked, -, result⟩ | ⟨refused, -⟩
  · have keeps := cleanStart_of_resumed checked resumed
    rw [result]
    constructor
    · simp [acceptConnack_qosFlow, keeps, resumed]
    · simp only [acceptConnack_flowControl]
      cases params.receiveMaximum <;> rfl
  · exact absurd accepted refused

theorem connects_uncharged (connects : s.Connects op) : (s.perform op).Uncharged := by
  have restarted : s.connectSent.Uncharged := by
    refine ⟨fun id flow after => ?_, rfl⟩
    obtain ⟨earlier, -, now⟩ := connectSent_flow after
    rw [now]
  cases op
  case connectSent => exact restarted
  case connectSentWithAuth method =>
    cases v5 : s.isV5 with
    | true =>
      simp only [perform, connectSentWithAuth, v5]
      exact ⟨restarted.flows, restarted.counter⟩
    | false => simp [Connects, connectSentWithAuth, v5] at connects
  all_goals exact connects.elim

end Reconnecting

section Replaying

variable {s u : Session} {before later : List (UInt16 × Action)} {entry : UInt16 × Action} {id : UInt16}
  {flow : OutgoingFlow}

theorem pendingRetransmissions_of_clear (same : u.qosFlow.clearQuotaCharges = s.qosFlow.clearQuotaCharges) :
    u.pendingRetransmissions = s.pendingRetransmissions := by
  have ids : u.qosFlow.pendingPacketIds = s.qosFlow.pendingPacketIds := by
    rw [← QosFlowManager.pendingPacketIds_clear, same, QosFlowManager.pendingPacketIds_clear]
  have asked : ∀ id, u.qosFlow.needsRetransmission id = s.qosFlow.needsRetransmission id := by
    intro id
    rw [← QosFlowManager.needsRetransmission_clear, same, QosFlowManager.needsRetransmission_clear]
  simp only [pendingRetransmissions, ids, asked]

theorem needsRetransmission_waiting (waits : s.OutgoingWaits) (present : s.qosFlow.outgoing.get? id = some flow) :
    s.qosFlow.needsRetransmission id =
      some (if flow.state = .awaitingPubcomp then .resendPubrel id else .resendPublish id) := by
  rcases waits id flow present with known | known | known <;>
    simp [QosFlowManager.needsRetransmission, present, known]

theorem pendingRetransmissions_ids (waits : s.OutgoingWaits) :
    s.pendingRetransmissions.map Prod.fst = s.qosFlow.pendingPacketIds := by
  rw [pendingRetransmissions, List.map_filterMap]
  have asked : ∀ id ∈ s.qosFlow.pendingPacketIds,
      ((s.qosFlow.needsRetransmission id).map fun action => (id, action)).map Prod.fst = some id := by
    intro id member
    obtain ⟨flow, present⟩ := QosFlowManager.mem_pendingPacketIds.mp member
    rw [needsRetransmission_waiting waits present]
    rfl
  rw [List.filterMap_congr asked, List.filterMap_some]

theorem pendingRetransmissions_entry (waits : s.OutgoingWaits) (member : entry ∈ s.pendingRetransmissions) :
    ∃ id flow, s.qosFlow.outgoing.get? id = some flow ∧
      entry = (id, if flow.state = .awaitingPubcomp then .resendPubrel id else .resendPublish id) ∧
      s.qosFlow.needsRetransmission id = some entry.2 := by
  obtain ⟨id, listed, asked⟩ := List.mem_filterMap.mp member
  obtain ⟨flow, present⟩ := QosFlowManager.mem_pendingPacketIds.mp listed
  have known := needsRetransmission_waiting waits present
  rw [known] at asked
  cases asked
  exact ⟨id, flow, present, rfl, known⟩

theorem resendPublish_uncharged (asked : s.qosFlow.needsRetransmission id = some (.resendPublish id))
    (present : s.qosFlow.outgoing.get? id = some flow) (uncharged : flow.quotaCharged = false) :
    s.resendPublish id =
      if s.flowControl.outstandingCount < s.flowControl.receiveMaximum then
        (.ok (some (.resendPublish id)),
          { s with
            flowControl := { s.flowControl with
              outstandingCount := s.flowControl.outstandingCount.saturatingAdd 1 }
            qosFlow := s.qosFlow.markQuotaCharged id })
      else (.error .receiveMaximumExceeded, s) := by
  have free : s.qosFlow.isQuotaCharged id = false := by simp [QosFlowManager.isQuotaCharged, present, uncharged]
  unfold resendPublish
  rw [asked]
  simp only [free, Bool.false_eq_true, ↓reduceIte]
  rcases s.flowControl.publishSent_cases with ⟨room, sent⟩ | ⟨full, refused⟩
  · simp only [sent, room, ↓reduceIte]
  · simp only [refused, not_lt.mpr full, ↓reduceIte]

theorem fresh_of_split (waits : s.OutgoingWaits) (split : s.pendingRetransmissions = before ++ entry :: later) :
    entry.1 ∉ before.map Prod.fst := by
  have nodup := pendingRetransmissions_ids waits ▸ s.qosFlow.pendingPacketIds_nodup
  rw [split, List.map_append, List.map_cons] at nodup
  intro earlier
  exact (List.nodup_append.mp nodup).2.2 _ earlier _ (List.mem_cons_self ..) rfl

/-- How far a replay has come: the flows before it are charged as far as the quota went, those after it are not. -/
structure ReplayedTo (s : Session) (before : List (UInt16 × Action)) (u : Session) : Prop where
  flows : u.qosFlow.clearQuotaCharges = s.qosFlow.clearQuotaCharges
  limit : u.flowControl.receiveMaximum = s.flowControl.receiveMaximum
  counter : u.flowControl.outstandingCount.toNat = min (before.countP isPublish) s.flowControl.receiveMaximum.toNat
  untouched : ∀ id ∉ before.map Prod.fst, u.qosFlow.outgoing.get? id = s.qosFlow.outgoing.get? id

theorem ReplayedTo.start (uncharged : s.Uncharged) : ReplayedTo s [] s := by
  refine ⟨rfl, rfl, ?_, fun id _ => rfl⟩
  rw [uncharged.counter]
  simp

theorem replayed_snoc (s : Session) (before : List (UInt16 × Action)) (entry : UInt16 × Action) :
    s.replayed (before ++ [entry]) = (s.replayed before).replayEntry entry := by
  simp [replayed]

theorem ReplayedTo.room_iff (replay : ReplayedTo s before u) :
    u.flowControl.outstandingCount < u.flowControl.receiveMaximum ↔
      before.countP isPublish < s.flowControl.receiveMaximum.toNat := by
  rw [UInt16.lt_iff_toNat_lt, replay.limit, replay.counter]
  omega

theorem ReplayedTo.untouched_snoc (replay : ReplayedTo s before u) {other : UInt16}
    (absent : other ∉ (before ++ [entry]).map Prod.fst) :
    other ≠ entry.1 ∧ u.qosFlow.outgoing.get? other = s.qosFlow.outgoing.get? other := by
  simp only [List.map_append, List.map_cons, List.map_nil, List.mem_append, List.mem_singleton, not_or] at absent
  exact ⟨absent.2, replay.untouched other absent.1⟩

theorem replay_pubrel (replay : ReplayedTo s before (s.replayed before))
    (asked : s.qosFlow.needsRetransmission id = some (.resendPubrel id)) :
    ReplayedTo s (before ++ [(id, .resendPubrel id)]) (s.replayed (before ++ [(id, .resendPubrel id)])) ∧
      s.Granted before (id, .resendPubrel id) := by
  have askedNow : (s.replayed before).qosFlow.needsRetransmission id = some (.resendPubrel id) := by
    rw [← QosFlowManager.needsRetransmission_clear, replay.flows, QosFlowManager.needsRetransmission_clear, asked]
  have counted : (before ++ [(id, Action.resendPubrel id)]).countP isPublish = before.countP isPublish := by
    simp [List.countP_append, isPublish]
  rw [replayed_snoc]
  refine ⟨⟨replay.flows, replay.limit, ?_, fun other absent => (replay.untouched_snoc absent).2⟩, rfl, ?_⟩
  · rw [counted]
    exact replay.counter
  · simp only [resendPubrel, askedNow]

theorem replay_publish (uncharged : s.Uncharged) (replay : ReplayedTo s before (s.replayed before))
    (asked : s.qosFlow.needsRetransmission id = some (.resendPublish id))
    (present : s.qosFlow.outgoing.get? id = some flow) (fresh : id ∉ before.map Prod.fst) :
    ReplayedTo s (before ++ [(id, .resendPublish id)]) (s.replayed (before ++ [(id, .resendPublish id)])) ∧
      s.Granted before (id, .resendPublish id) := by
  have askedNow : (s.replayed before).qosFlow.needsRetransmission id = some (.resendPublish id) := by
    rw [← QosFlowManager.needsRetransmission_clear, replay.flows, QosFlowManager.needsRetransmission_clear, asked]
  have presentNow := (replay.untouched id fresh).trans present
  have result := resendPublish_uncharged askedNow presentNow (uncharged.flows id flow present)
  have counted : (before ++ [(id, Action.resendPublish id)]).countP isPublish = before.countP isPublish + 1 := by
    simp [List.countP_append, isPublish]
  have counter := replay.counter
  rw [replayed_snoc]
  by_cases room : before.countP isPublish < s.flowControl.receiveMaximum.toNat
  · have below := replay.room_iff.mpr room
    rw [if_pos below] at result
    refine ⟨⟨?_, ?_, ?_, ?_⟩, rfl, ?_⟩
    · simp only [replayEntry, result, QosFlowManager.clear_markQuotaCharged]
      exact replay.flows
    · simp only [replayEntry, result]
      exact replay.limit
    · simp only [replayEntry, result, counted, UInt16.saturatingAdd_one_of_lt below]
      omega
    · intro other absent
      obtain ⟨different, same⟩ := replay.untouched_snoc absent
      simp only [replayEntry, result, QosFlowManager.markQuotaCharged_present presentNow, OrderedMap.get?_insert]
      rw [if_neg different, same]
    · rw [if_pos room, result]
  · have full := replay.room_iff.not.mpr room
    rw [if_neg full] at result
    have stays : (s.replayed before).replayEntry (id, .resendPublish id) = s.replayed before := by
      simp only [replayEntry, result]
    rw [stays]
    refine ⟨⟨replay.flows, replay.limit, ?_, fun other absent => (replay.untouched_snoc absent).2⟩, rfl, ?_⟩
    · rw [counted]
      omega
    · rw [if_neg room, result]

theorem replay_step (uncharged : s.Uncharged) (waits : s.OutgoingWaits)
    (replay : ReplayedTo s before (s.replayed before)) (listed : entry ∈ s.pendingRetransmissions)
    (fresh : entry.1 ∉ before.map Prod.fst) :
    ReplayedTo s (before ++ [entry]) (s.replayed (before ++ [entry])) ∧ s.Granted before entry := by
  obtain ⟨id, flow, present, rfl, asked⟩ := pendingRetransmissions_entry waits listed
  by_cases released : flow.state = .awaitingPubcomp
  · simp only [released, ↓reduceIte] at asked ⊢
    exact replay_pubrel replay asked
  · simp only [released, ↓reduceIte] at asked ⊢
    exact replay_publish uncharged replay asked present fresh

theorem replayedTo_of_split (uncharged : s.Uncharged) (waits : s.OutgoingWaits)
    (split : s.pendingRetransmissions = before ++ later) : ReplayedTo s before (s.replayed before) := by
  induction before using List.reverseRecOn generalizing later with
  | nil => exact .start uncharged
  | append_singleton before entry ih =>
    rw [List.append_assoc, List.singleton_append] at split
    have listed : entry ∈ s.pendingRetransmissions := by simp [split]
    exact (replay_step uncharged waits (ih split) listed (fresh_of_split waits split)).1

theorem replayComplete (uncharged : s.Uncharged) (waits : s.OutgoingWaits) : s.ReplayComplete := by
  have ids := pendingRetransmissions_ids waits
  have whole := replayedTo_of_split uncharged waits (List.append_nil s.pendingRetransmissions).symm
  refine ⟨?_, fun id => ?_, fun before entry later split => ?_, whole.counter, ?_⟩
  · rw [ids]
    exact s.qosFlow.pendingPacketIds_nodup
  · rw [ids, QosFlowManager.mem_pendingPacketIds, OrderedMap.contains_iff]
  · have listed : entry ∈ s.pendingRetransmissions := by simp [split]
    exact (replay_step uncharged waits (replayedTo_of_split uncharged waits split) listed (fresh_of_split waits split)).2
  · exact pendingRetransmissions_of_clear whole.flows

end Replaying

/-- A reconnect that resumes the session: the CONNECT and the CONNACK keep every outgoing flow, and going through
    the retransmission list then sends each unfinished message once, as far as the Receive Maximum allows. -/
theorem replay_complete {s t : Session} {op : SessionOp} {ops : List SessionOp} {params : ConnackParams}
    (reachable : s.Reachable) (connects : s.Connects op) (quiet : ∀ op ∈ ops, sendsNothing op = true)
    (run : Run (fun s op t => t = perform s op) (s.perform op) ops t)
    (accepted : (t.applyConnack params).1 = .ok ()) (resumed : params.sessionPresent = true) :
    (∀ id, (s.perform op).qosFlow.outgoing.contains id = s.qosFlow.outgoing.contains id) ∧
      (t.applyConnack params).2.qosFlow = t.qosFlow ∧
      (t.applyConnack params).2.flowControl.receiveMaximum =
        params.receiveMaximum.getD t.flowControl.receiveMaximum ∧
      (t.applyConnack params).2.ReplayComplete := by
  have waits : t.OutgoingWaits := by
    have connected := perform_outgoingWaits (outgoingWaits_of_reachable reachable) op
    exact run.invariant (fun {s op t} waits step => step ▸ perform_outgoingWaits waits op) connected
  have uncharged : t.Uncharged := run_uncharged run quiet (connects_uncharged connects)
  have after : (t.perform (.applyConnack params)).Uncharged := perform_uncharged uncharged rfl
  have replays := replayComplete after (perform_outgoingWaits waits (.applyConnack params))
  obtain ⟨flows, limit⟩ := resumed_keeps accepted resumed
  exact ⟨connects_contains connects, flows, limit, replays⟩

def interruptedOps : List SessionOp :=
  [.connectSent, .applyConnack (.successV5 false none), .publishSent .exactlyOnce 1, .publishSent .atLeastOnce 2,
    .publishSent .exactlyOnce 3, .handlePubrec 1 0, .disconnected]

def interrupted : Session := interruptedOps.foldl perform (initial .v5 "client" false)

theorem interrupted_replays :
    (interrupted.connectSent.applyConnack (.successV5 true (some 1))).2.pendingRetransmissions =
        [(2, .resendPublish 2), (3, .resendPublish 3), (1, .resendPubrel 1)] ∧
      (interrupted.connectSent.applyConnack (.successV5 true (some 1))).2.ReplayComplete := by
  have reachable : interrupted.Reachable :=
    ⟨.v5, "client", false, _, interruptedOps, rfl,
      .cons rfl (.cons rfl (.cons rfl (.cons rfl (.cons rfl (.cons rfl (.cons rfl (.nil _)))))))⟩
  have accepted : (interrupted.connectSent.applyConnack (.successV5 true (some 1))).1 = .ok () := by decide
  have connects : interrupted.Connects .connectSent := trivial
  have replays := replay_complete reachable connects (by simp) (.nil _) accepted rfl
  exact ⟨by decide, replays.2.2.2⟩

end Session

end MqttRs
